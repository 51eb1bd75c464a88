import Dbotter.Config.Profile
import Dbotter.Service.PublicError
import Dbotter.Text.Base64
import Dbotter.Text.JsonKeys
import Dbotter.Text.Numerals

/-!
Results as `src/model.rs` retains them, and the text of one cell in the clipboard and in the
tabular exports, from `src/export.rs`.

`φ` stands for the finite `f64` values and `ν` for the numbers of `serde_json`. What the crates
print and parse is in `Crates`.
-/

namespace Dbotter.Results
open Dbotter.Utf8 Dbotter.Configuration Dbotter.Service Dbotter.Numerals

/-! ## Results -/

inductive F64 (φ : Type)
  | nan
  | infinity
  | negInfinity
  | finite (x : φ)
  deriving DecidableEq, Repr

inductive Cell (φ ν : Type)
  | null
  | bool (value : Bool)
  | int (value : Int)
  | uint (value : Nat)
  | float (value : F64 φ)
  | decimal (value : Text)
  | text (value : Text)
  | textPreview (preview : Text) (originalLen : Nat)
  | bytes (retained : List UInt8) (originalLen : Nat)
  | json (value : Json.Value ν)
  | jsonPreview (preview : Text) (originalLen : Nat)
  | dateTime (value : Text)

structure Column where
  name : Text
  typeName : Text
  deriving DecidableEq, Repr

structure QueryResult (φ ν : Type) where
  columns : List Column
  rows : List (List (Cell φ ν))
  affectedRows : Nat
  lastInsertId : Option Nat
  elapsedMs : Nat
  truncated : Bool
  backendNoticesPresent : Bool

structure ResultProvenance where
  resultId : ResultId
  profileId : ProfileId
  profileGeneration : ProfileGeneration
  operationId : OperationId
  driver : DriverKind
  completedAtUnixMs : Int
  durationMs : Nat
  deriving DecidableEq, Repr

inductive ResultNotice
  | driverReportedTruncation
  | columnLimitReached
  | rowLimitReached
  | snapshotByteLimitReached
  | cellPreviewTruncated
  | redisCellLimitReached
  | redisDepthLimitReached
  | backendNoticesDiscarded
  | mySqlTransientRowAllocation
  | redisTransientFrameAllocation
  deriving DecidableEq, Repr

inductive TransientAllocationQualification
  | mySqlCurrentRowOrCell
  | redisWholeRespFrame
  deriving DecidableEq, Repr

inductive CellTruncationKind
  | text
  | bytes
  | json
  | decimal
  | dateTime
  deriving DecidableEq, Repr

structure CellTruncation where
  rowIndex : Nat
  columnIndex : Nat
  kind : CellTruncationKind
  retainedBytes : Nat
  originalLen : Option Nat
  truncated : Bool
  deriving DecidableEq, Repr

structure ResultSnapshot (φ ν : Type) where
  provenance : ResultProvenance
  columns : List Column
  rows : List (List (Cell φ ν))
  affectedRows : Nat
  lastInsertId : Option Nat
  truncated : Bool
  notices : List ResultNotice
  retainedBytes : Nat
  transientAllocation : TransientAllocationQualification
  cellTruncations : List CellTruncation

/-- Every row has a cell for every column. -/
def ResultSnapshot.Rectangular {φ ν : Type} (snapshot : ResultSnapshot φ ν) : Prop :=
  ∀ row ∈ snapshot.rows, row.length = snapshot.columns.length

/-! ## Scalars -/

/-- Printers and parsers of the crates. A parser that also prints gives the normal form. -/
structure Crates (φ ν : Type) where
  floatToString : φ → Text
  numberToString : ν → Text
  normalizeDecimal : Text → Option Text
  parseFromRfc3339 : Text → Option Text
  parseNaiveDateTime : Text → Text → Option (Text × Text)
  parseNaiveDate : Text → Text → Option Text
  parseNaiveTime : Text → Text → Option Text
  fromTimestampMillis : Int → Option Text

section
variable {φ ν : Type} (crates : Crates φ ν)

def boolText (value : Bool) : Text := if value then "true".toList else "false".toList

def canonicalFloat : F64 φ → Text
  | .nan => "nan".toList
  | .infinity => "inf".toList
  | .negInfinity => "-inf".toList
  | .finite x => crates.floatToString x

def canonicalDecimal (value : Text) : Text := (crates.normalizeDecimal value).getD value

def normalizeDatetime (value : Text) : Text :=
  match crates.parseFromRfc3339 value with
  | some datetime => datetime
  | none =>
      match (["%Y-%m-%d %H:%M:%S%.f".toList, "%Y-%m-%dT%H:%M:%S%.f".toList].findSome?
        (crates.parseNaiveDateTime · value)) with
      | some (date, time) => date ++ 'T' :: time
      | none =>
          match crates.parseNaiveDate "%Y-%m-%d".toList value with
          | some date => date
          | none =>
              match crates.parseNaiveTime "%H:%M:%S%.f".toList value with
              | some time => time
              | none => value

/-- `{:04x}`. -/
def hex04 (n : Nat) : Text :=
  List.replicate (4 - (Nat.toDigits 16 n).length) '0' ++ Nat.toDigits 16 n

def escapedJsonChar (character : Char) : Text :=
  match character with
  | '"' => "\\\"".toList
  | '\\' => "\\\\".toList
  | '\x08' => "\\b".toList
  | '\x0c' => "\\f".toList
  | '\n' => "\\n".toList
  | '\r' => "\\r".toList
  | '\t' => "\\t".toList
  | character =>
      if character.toNat ≤ 0x1f then "\\u".toList ++ hex04 character.toNat else [character]

def pushJsonString (value : Text) : Text := '"' :: value.flatMap escapedJsonChar ++ ['"']

def commaSeparated : List Text → Text := [','].intercalate

mutual

/-- The fields of an object are printed before they are sorted: the order looks at the keys. -/
def canonicalJson : Json.Value ν → Text
  | .null => "null".toList
  | .bool value => boolText value
  | .number value => crates.numberToString value
  | .string value => pushJsonString value
  | .array values => '[' :: commaSeparated (canonicalItems values) ++ [']']
  | .object values =>
      '{' :: commaSeparated (((canonicalFields values).mergeSort Json.Value.keyLe).map
        fun field => pushJsonString field.1 ++ ':' :: field.2) ++ ['}']

def canonicalItems : List (Json.Value ν) → List Text
  | [] => []
  | value :: values => canonicalJson value :: canonicalItems values

def canonicalFields : List (Text × Json.Value ν) → List (Text × Text)
  | [] => []
  | (key, value) :: values => (key, canonicalJson value) :: canonicalFields values

end

def clipboardScalar : Cell φ ν → Text
  | .null => []
  | .bool value => boolText value
  | .int value => intText value
  | .uint value => natText value
  | .float value => canonicalFloat crates value
  | .decimal value => canonicalDecimal crates value
  | .text value => value
  | .textPreview preview originalLen =>
      preview ++ "…[dbotter-truncated;original_len=".toList ++ natText originalLen ++ [']']
  | .bytes retained originalLen =>
      "base64:".toList ++ Base64.encodeStandard retained ++
        if retained.length < originalLen then
          ";truncated=true;original_len=".toList ++ natText originalLen
        else []
  | .json value => canonicalJson crates value
  | .jsonPreview preview originalLen =>
      "json-preview:".toList ++ preview ++ ";truncated=true;original_len=".toList ++
        natText originalLen
  | .dateTime value => normalizeDatetime crates value

end

end Dbotter.Results
