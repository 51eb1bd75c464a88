import Mathlib.Data.Nat.Size
import Dbotter.Config.Writer
import Dbotter.Results.Retain

/-!
How a RESP reply becomes rows, from `src/drivers/redis.rs`.

A composite is measured before it is turned into JSON. The measure follows the text of that
JSON, and its depth is the depth of the reply. The keys of an object stand in the order of the map
that prints them.
-/

namespace Dbotter.Drivers
open Dbotter.Utf8 Dbotter.Configuration Dbotter.Results

/-- A reply. `attributed` is `Attribute`, and `unsupported` the rest of the non-exhaustive
enumeration. -/
inductive RespValue (φ : Type)
  | nil
  | int (value : Int)
  | bulkString (value : List UInt8)
  | array (values : List (RespValue φ))
  | simpleString (value : Text)
  | okay
  | map (entries : List (RespValue φ × RespValue φ))
  | attributed (data : RespValue φ) (attributes : List (RespValue φ × RespValue φ))
  | set (values : List (RespValue φ))
  | double (value : F64 φ)
  | boolean (value : Bool)
  | verbatimString (text : Text)
  | bigNumber (value : Int)
  | push (data : List (RespValue φ))
  | serverError
  | unsupported

def checkedAdd (a b : Nat) : Option Nat := if a + b ≤ usizeMax then some (a + b) else none

def checkedSub (a b : Nat) : Option Nat := if b ≤ a then some (a - b) else none

def checkedMul (a b : Nat) : Option Nat := if a * b ≤ usizeMax then some (a * b) else none

/-! ## Lengths of JSON texts -/

def jsonCharBytes (character : Char) : Nat :=
  match character with
  | '"' | '\\' | '\x08' | '\x0c' | '\n' | '\r' | '\t' => 2
  | character => if character.toNat ≤ 0x1f then 6 else character.utf8Size

def jsonStringBytesFrom : Nat → Text → Option Nat
  | bytes, [] => some bytes
  | bytes, character :: value => do
      let bytes ← checkedAdd bytes (jsonCharBytes character)
      jsonStringBytesFrom bytes value

def jsonStringBytes (value : Text) : Option Nat := jsonStringBytesFrom 2 value

def base64EncodedBytes (bytes : Nat) : Option Nat := do
  let padded ← checkedAdd bytes 2
  checkedMul (padded / 3) 4

def decimalDigitsFrom (value digits : Nat) : Nat :=
  if value = 0 then digits else decimalDigitsFrom (value / 10) (digits + 1)
termination_by value

def decimalDigits (value : Nat) : Nat := if value = 0 then 1 else decimalDigitsFrom value 0

def signedDecimalDigits (value : Int) : Nat :=
  if value.natAbs = 0 then 1 else decimalDigitsFrom value.natAbs (if value < 0 then 1 else 0)

def magnitudeDigits (bits : Nat) : Option Nat :=
  if bits = 0 then some 1
  else do
    let scaled ← checkedMul bits 30103
    let rounded ← checkedAdd scaled (100000 - 1)
    pure (rounded / 100000)

/-- The bound on the digits of a number of so many bits, with a place for its sign. -/
def decimalStringUpperBoundFromBits (bits : Nat) : Option Nat := do
  let magnitudeDigits ← magnitudeDigits bits
  checkedAdd magnitudeDigits 1

section
variable {φ : Type} (floats : Floats φ)

/-- `serde_json::Number::from_f64`, which knows finite values only. -/
def numberFromF64 : F64 φ → Option (Number φ)
  | .finite x => some (.float x)
  | _ => none

def jsonFloatBytes (value : F64 φ) : Nat :=
  match numberFromF64 value with
  | some number => byteLen (number.toText floats)
  | none => 4

/-! ## The meter of a composite -/

structure CompositeMeter where
  remainingNodes : Nat
  remainingBytes : Nat
  nodes : Nat
  encodedBytes : Nat
  deriving DecidableEq, Repr

namespace CompositeMeter

def consumeNode (meter : CompositeMeter) (depth : Nat) : Option CompositeMeter :=
  if depth ≥ maxRedisDepth then none
  else do
    let remainingNodes ← checkedSub meter.remainingNodes 1
    let nodes ← checkedAdd meter.nodes 1
    pure { meter with remainingNodes, nodes }

def addBytes (meter : CompositeMeter) (bytes : Nat) : Option CompositeMeter := do
  let remainingBytes ← checkedSub meter.remainingBytes bytes
  let encodedBytes ← checkedAdd meter.encodedBytes bytes
  pure { meter with remainingBytes, encodedBytes }

end CompositeMeter

mutual

def measureJsonValueInto (depth : Nat) (meter : CompositeMeter) :
    RespValue φ → Option CompositeMeter
  | .nil => do
      let meter ← meter.consumeNode depth
      meter.addBytes 4
  | .int value => do
      let meter ← meter.consumeNode depth
      meter.addBytes (signedDecimalDigits value)
  | .bulkString value => do
      let meter ← meter.consumeNode depth
      match decodeUtf8 value with
      | some text => meter.addBytes (← jsonStringBytes text)
      | none => do
          let encoded ← base64EncodedBytes value.length
          let wrapped ← checkedAdd 47 encoded
          meter.addBytes (← checkedAdd wrapped (decimalDigits value.length))
  | .simpleString value => do
      let meter ← meter.consumeNode depth
      meter.addBytes (← jsonStringBytes value)
  | .okay => do
      let meter ← meter.consumeNode depth
      meter.addBytes 4
  | .double value => do
      let meter ← meter.consumeNode depth
      meter.addBytes (jsonFloatBytes floats value)
  | .boolean value => do
      let meter ← meter.consumeNode depth
      meter.addBytes (if value then 4 else 5)
  | .array values => do
      let meter ← meter.consumeNode depth
      let meter ← meter.addBytes (← checkedAdd 2 (values.length - 1))
      measureJsonArray (depth + 1) meter values
  | .set values => do
      let meter ← meter.consumeNode depth
      let meter ← meter.addBytes (← checkedAdd 2 (values.length - 1))
      measureJsonArray (depth + 1) meter values
  | .map entries => do
      let meter ← meter.consumeNode depth
      let meter ← meter.addBytes (← checkedAdd 2 (entries.length - 1))
      measureJsonEntries (depth + 1) meter entries
  | .attributed data attributes => do
      let meter ← meter.consumeNode depth
      let meter ← meter.addBytes 23
      let meter ← meter.addBytes (← checkedAdd 2 (attributes.length - 1))
      let meter ← measureJsonEntries (depth + 1) meter attributes
      measureJsonValueInto (depth + 1) meter data
  | .verbatimString text => do
      let meter ← meter.consumeNode depth
      meter.addBytes (← jsonStringBytes text)
  | .bigNumber value => do
      let meter ← meter.consumeNode depth
      meter.addBytes
        (← checkedAdd (← decimalStringUpperBoundFromBits (Nat.size value.natAbs)) 2)
  | .push data => do
      let meter ← meter.consumeNode depth
      let meter ← meter.addBytes 23
      let meter ← meter.addBytes (← checkedAdd 2 (data.length - 1))
      measureJsonArray (depth + 1) meter data
  | .serverError => do
      let meter ← meter.consumeNode depth
      meter.addBytes (← jsonStringBytes "[redis-server-error]".toList)
  | .unsupported => do
      let meter ← meter.consumeNode depth
      meter.addBytes (← jsonStringBytes "[unsupported-resp-value]".toList)

/-- The elements of `measure_json_array`. -/
def measureJsonArray (depth : Nat) (meter : CompositeMeter) :
    List (RespValue φ) → Option CompositeMeter
  | [] => some meter
  | value :: values => do
      let meter ← measureJsonValueInto depth meter value
      measureJsonArray depth meter values

/-- The entries of `measure_json_entries`. -/
def measureJsonEntries (depth : Nat) (meter : CompositeMeter) :
    List (RespValue φ × RespValue φ) → Option CompositeMeter
  | [] => some meter
  | (key, value) :: entries => do
      let meter ← meter.addBytes 17
      let meter ← measureJsonValueInto depth meter key
      let meter ← measureJsonValueInto depth meter value
      measureJsonEntries depth meter entries

end

def measureComposite (value : RespValue φ) (remainingNodes byteLimit : Nat) :
    Option CompositeMeter :=
  measureJsonValueInto floats 0 ⟨remainingNodes, byteLimit, 0, 0⟩ value

/-! ## Cells -/

def bytesCell (bytes : List UInt8) : Cell φ (Number φ) := .bytes bytes bytes.length

/-- `serde_json::Value::from` of an `i64`. -/
def numberOfInt (value : Int) : Number φ := if value < 0 then .negInt value else .posInt value.toNat

def previewJson (preview : Text) (originalLen : Nat) : Json.Value (Number φ) :=
  .object
    [("original_len".toList, .number (.posInt originalLen)), ("preview".toList, .string preview),
      ("truncated".toList, .bool true)]

/-- The match of `value_json_complete`. -/
def cellJson : Cell φ (Number φ) → Json.Value (Number φ)
  | .null => .null
  | .bool value => .bool value
  | .int value => .number (numberOfInt value)
  | .uint value => .number (.posInt value)
  | .float value =>
      match numberFromF64 value with
      | some number => .number number
      | none => .null
  | .decimal value => .string value
  | .text value => .string value
  | .dateTime value => .string value
  | .textPreview preview originalLen => previewJson preview originalLen
  | .bytes retained originalLen =>
      .object
        [("base64".toList, .string (Base64.encodeStandard retained)),
          ("original_len".toList, .number (.posInt originalLen)),
          ("truncated".toList, .bool (retained.length < originalLen))]
  | .json value => value
  | .jsonPreview preview originalLen => previewJson preview originalLen

mutual

def valueCellComplete : RespValue φ → Cell φ (Number φ)
  | .nil => .null
  | .int value => .int value
  | .bulkString value =>
      match decodeUtf8 value with
      | some text => .text text
      | none => bytesCell value
  | .simpleString value => .text value
  | .okay => .text "OK".toList
  | .double value => .float value
  | .boolean value => .bool value
  | .array values => .json (.array (valuesJsonComplete values))
  | .set values => .json (.array (valuesJsonComplete values))
  | .map entries => .json (.array (entriesJsonComplete entries))
  | .attributed data attributes =>
      .json (.object
        [("attributes".toList, .array (entriesJsonComplete attributes)),
          ("data".toList, cellJson (valueCellComplete data))])
  | .verbatimString text => .text text
  | .bigNumber value => .decimal (Numerals.intText value)
  | .push data =>
      .json (.object
        [("data".toList, .array (valuesJsonComplete data)),
          ("type".toList, .string "push".toList)])
  | .serverError => .text "[redis-server-error]".toList
  | .unsupported => .text "[unsupported-resp-value]".toList

def valuesJsonComplete : List (RespValue φ) → List (Json.Value (Number φ))
  | [] => []
  | value :: values => cellJson (valueCellComplete value) :: valuesJsonComplete values

def entriesJsonComplete : List (RespValue φ × RespValue φ) → List (Json.Value (Number φ))
  | [] => []
  | (key, value) :: entries =>
      .object
        [("key".toList, cellJson (valueCellComplete key)),
          ("value".toList, cellJson (valueCellComplete value))] :: entriesJsonComplete entries

end

/-! ## The budget of a reply -/

structure DecodeBudget where
  remainingNodes : Nat
  remainingBytes : Nat
  truncated : Bool
  deriving DecidableEq, Repr

structure DecodedCell (φ : Type) where
  cell : Cell φ (Number φ)
  stopAfter : Bool

def isComposite : RespValue φ → Bool
  | .array _ | .map _ | .attributed _ _ | .set _ | .push _ => true
  | _ => false

def decodeComposite (value : RespValue φ) (budget : DecodeBudget) :
    Option (DecodedCell φ) × DecodeBudget :=
  match measureComposite floats value budget.remainingNodes
      (min budget.remainingBytes maxRedisCellBytes) with
  | none => (none, { budget with truncated := true })
  | some measure =>
      (some ⟨valueCellComplete value, false⟩,
        { budget with
          remainingNodes := budget.remainingNodes - measure.nodes
          remainingBytes := budget.remainingBytes - measure.encodedBytes })

def scalarMeasure : RespValue φ → Option (Nat × Bool)
  | .nil => some (4, false)
  | .int value => some (signedDecimalDigits value, false)
  | .bulkString value => some (value.length, true)
  | .simpleString value => some (byteLen value, true)
  | .okay => some (2, true)
  | .double value => some (jsonFloatBytes floats value, false)
  | .boolean value => some (if value then 4 else 5, false)
  | .verbatimString text => some (byteLen text, true)
  | .bigNumber value => do
      let bound ← decimalStringUpperBoundFromBits (Nat.size value.natAbs)
      pure (bound, false)
  | .serverError => some (byteLen "[redis-server-error]".toList, false)
  | _ => some (byteLen "[unsupported-resp-value]".toList, false)

def decodeScalar (value : RespValue φ) (budget : DecodeBudget) :
    Option (DecodedCell φ) × DecodeBudget :=
  match checkedSub budget.remainingNodes 1 with
  | none => (none, { budget with truncated := true })
  | some remainingNodes =>
      match scalarMeasure floats value with
      | none => (none, { budget with truncated := true })
      | some (retainedBytes, previewable) =>
          let crossesLimit :=
            decide (retainedBytes > maxRedisCellBytes ∨ retainedBytes > budget.remainingBytes)
          if crossesLimit && !previewable then (none, { budget with truncated := true })
          else
            (some ⟨valueCellComplete value, crossesLimit⟩,
              if crossesLimit then ⟨remainingNodes, 0, true⟩
              else { budget with
                remainingNodes, remainingBytes := budget.remainingBytes - retainedBytes })

def decodeValueCell (value : RespValue φ) (budget : DecodeBudget) :
    Option (DecodedCell φ) × DecodeBudget :=
  if isComposite value then decodeComposite floats value budget else decodeScalar floats value budget

/-! ## Rows -/

/-- The loop over the elements of an array. -/
def decodeRows : List (RespValue φ) → DecodeBudget → List (List (Cell φ (Number φ))) × Bool
  | [], budget => ([], budget.truncated)
  | value :: values, budget =>
      match decodeValueCell floats value budget with
      | (none, _) => ([], true)
      | (some decoded, budget) =>
          if decoded.stopAfter then ([[decoded.cell]], true)
          else
            let rest := decodeRows values budget
            ([decoded.cell] :: rest.1, rest.2)

def valueRows (value : RespValue φ) (rowLimit : Nat) : List (List (Cell φ (Number φ))) × Bool :=
  let budget : DecodeBudget := ⟨maxRedisCells, maxResultBytes, false⟩
  match value with
  | .array values =>
      let result := decodeRows floats (values.take rowLimit) budget
      (result.1, decide (values.length > rowLimit) || result.2)
  | value =>
      if rowLimit = 0 then ([], true)
      else
        match decodeValueCell floats value budget with
        | (none, _) => ([], true)
        | (some decoded, budget) =>
            ([[decoded.cell]], decoded.stopAfter || budget.truncated)

/-- What `execute` makes of the rows. -/
def redisResult (rows : List (List (Cell φ (Number φ)))) (truncated : Bool) (elapsedMs : Nat) :
    QueryResult φ (Number φ) where
  columns := [⟨"value".toList, "RESP".toList⟩]
  rows
  affectedRows := 0
  lastInsertId := none
  elapsedMs
  truncated
  backendNoticesPresent := false

end

end Dbotter.Drivers
