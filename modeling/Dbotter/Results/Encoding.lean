import Dbotter.Results.Cells

/-!
The encoders of `src/export.rs`.

An encoder is the sequence of pieces that it writes and how it ends. The writer behind it can
only stop it early, so this says everything that it does to any writer.
-/

namespace Dbotter.Results
open Dbotter.Utf8 Dbotter.Configuration Dbotter.Numerals

inductive ExportEncodeError
  | cancelled
  | io
  | tabularResultRequired
  | invalidRowWidth
  | invalidCompletedAt
  deriving DecidableEq, Repr

inductive ExportFormat
  | csv
  | tsv
  | json
  deriving DecidableEq, Repr

/-! ## Encoders -/

structure Encode (α : Type) where
  pieces : List Text
  result : Except ExportEncodeError α

namespace Encode

variable {α β : Type}

protected def bind (m : Encode α) (f : α → Encode β) : Encode β :=
  match m.result with
  | .ok a => ⟨m.pieces ++ (f a).pieces, (f a).result⟩
  | .error e => ⟨m.pieces, .error e⟩

instance : Monad Encode where
  pure a := ⟨[], .ok a⟩
  bind := Encode.bind

def writeAll (piece : Text) : Encode Unit := ⟨[piece], .ok ()⟩

def fail (e : ExportEncodeError) : Encode α := ⟨[], .error e⟩

def ofOption (e : ExportEncodeError) : Option α → Encode α
  | some a => pure a
  | none => fail e

theorem ofOption_bind (e : ExportEncodeError) (a : α) (f : α → Encode β) :
    (ofOption e (some a) >>= f) = f a := rfl

/-- `for (index, x) in xs.iter().enumerate()`, with a separator before all but the first. -/
def separated (separator : Text) (write : Nat → β → Encode Unit) : Nat → List β → Encode Unit
  | _, [] => pure ()
  | index, x :: xs => do
      if index ≠ 0 then writeAll separator
      write index x
      separated separator write (index + 1) xs

theorem separated_first (separator : Text) (write : Nat → β → Encode Unit) (x : β) (xs : List β) :
    separated separator write 0 (x :: xs) = (do
      write 0 x
      separated separator write 1 xs) := rfl

theorem separated_next (separator : Text) (write : Nat → β → Encode Unit) (index : Nat) (x : β)
    (xs : List β) : separated separator write (index + 1) (x :: xs) = (do
      writeAll separator
      write (index + 1) x
      separated separator write (index + 1 + 1) xs) := rfl

def each (write : β → Encode Unit) : List β → Encode Unit
  | [] => pure ()
  | x :: xs => do
      write x
      each write xs

end Encode

open Encode

section
variable {φ ν : Type} (crates : Crates φ ν)

def requireTabular (snapshot : ResultSnapshot φ ν) : Encode Unit :=
  if snapshot.columns.isEmpty then fail .tabularResultRequired else pure ()

def requireRowWidth (snapshot : ResultSnapshot φ ν) (row : List (Cell φ ν)) : Encode Unit :=
  if row.length = snapshot.columns.length then pure () else fail .invalidRowWidth

/-! ## CSV -/

/-- The loop over the quotes of a field. -/
def writeDoubled (remainder : Text) : Encode Unit :=
  match _h : remainder.dropWhile (· != '"') with
  | [] => writeAll remainder
  | _ :: rest => do
      writeAll (remainder.takeWhile (· != '"'))
      writeAll ['"', '"']
      writeDoubled rest
termination_by remainder.length
decreasing_by
  have hle := (List.dropWhile_suffix (l := remainder) (· != '"')).length_le
  rw [_h, List.length_cons] at hle
  omega

def writeCsvField (field : Text) : Encode Unit :=
  let quoted := (bytes field).any fun byte =>
    byte == ','.toUInt8 || byte == '"'.toUInt8 || byte == '\r'.toUInt8 || byte == '\n'.toUInt8
  if !quoted then writeAll field
  else do
    writeAll ['"']
    writeDoubled field
    writeAll ['"']

def writeCsv (snapshot : ResultSnapshot φ ν) : Encode Unit := do
  requireTabular snapshot
  separated [','] (fun _ column => writeCsvField column.name) 0 snapshot.columns
  writeAll ['\r', '\n']
  each (fun row => do
    requireRowWidth snapshot row
    separated [','] (fun _ cell => writeCsvField (clipboardScalar crates cell)) 0 row
    writeAll ['\r', '\n']) snapshot.rows

/-! ## TSV -/

def escapedTsvChar (character : Char) : Text :=
  match character with
  | '\\' => ['\\', '\\']
  | '\t' => ['\\', 't']
  | '\r' => ['\\', 'r']
  | '\n' => ['\\', 'n']
  | _ => [character]

def tsvField (value : Text) : Text := value.flatMap escapedTsvChar

def writeTsv (snapshot : ResultSnapshot φ ν) : Encode Unit := do
  requireTabular snapshot
  separated ['\t'] (fun _ column => writeAll (tsvField column.name)) 0 snapshot.columns
  writeAll ['\n']
  each (fun row => do
    requireRowWidth snapshot row
    separated ['\t'] (fun _ cell => writeAll (tsvField (clipboardScalar crates cell))) 0 row
    writeAll ['\n']) snapshot.rows

/-! ## JSON -/

def writeJsonString (value : Text) : Encode Unit := writeAll (pushJsonString value)

def writeStringCell (cellType value : Text) : Encode Unit := do
  writeAll "\x7b\"type\":".toList
  writeJsonString cellType
  writeAll ",\"value\":".toList
  writeJsonString value
  writeAll ['}']

def writeJsonCell : Cell φ ν → Encode Unit
  | .null => writeAll "\x7b\"type\":\"null\"\x7d".toList
  | .bool value => do
      writeAll "\x7b\"type\":\"bool\",\"value\":".toList
      writeAll (boolText value)
      writeAll ['}']
  | .int value => writeStringCell "int".toList (intText value)
  | .uint value => writeStringCell "uint".toList (natText value)
  | .float value => writeStringCell "float".toList (canonicalFloat crates value)
  | .decimal value => writeStringCell "decimal".toList (canonicalDecimal crates value)
  | .text value => writeStringCell "text".toList value
  | .textPreview preview originalLen => do
      writeAll "\x7b\"type\":\"text\",\"value\":".toList
      writeJsonString preview
      writeAll ",\"original_len\":".toList
      writeAll (natText originalLen)
      writeAll ",\"truncated\":true\x7d".toList
  | .bytes retained originalLen => do
      writeAll "\x7b\"type\":\"bytes\",\"value\":\x7b\"base64\":".toList
      writeJsonString (Base64.encodeStandard retained)
      writeAll ",\"original_len\":".toList
      writeAll (natText originalLen)
      writeAll ",\"truncated\":".toList
      writeAll (boolText (retained.length < originalLen))
      writeAll ['}', '}']
  | .json value => do
      writeAll "\x7b\"type\":\"json\",\"value\":".toList
      writeAll (canonicalJson crates value)
      writeAll ['}']
  | .jsonPreview preview originalLen => do
      writeAll "\x7b\"type\":\"json_preview\",\"value\":".toList
      writeJsonString preview
      writeAll ",\"original_len\":".toList
      writeAll (natText originalLen)
      writeAll ",\"truncated\":true\x7d".toList
  | .dateTime value => writeStringCell "datetime".toList (normalizeDatetime crates value)

/-- `DriverKind`'s `Display`. -/
def driverText : DriverKind → Text
  | .mySql => "mysql".toList
  | .redis => "redis".toList
  | .mongoDb => "mongodb".toList

def writeJsonColumn (index : Nat) (column : Column) : Encode Unit := do
  writeAll "\x7b\"index\":".toList
  writeAll (natText index)
  writeAll ",\"name\":".toList
  writeJsonString column.name
  writeAll ",\"type_name\":".toList
  writeJsonString column.typeName
  writeAll ['}']

def writeJsonRow (row : List (Cell φ ν)) : Encode Unit := do
  writeAll ['[']
  separated [','] (fun _ cell => writeJsonCell crates cell) 0 row
  writeAll [']']

/-- The loop over the rows; it checks a row before it separates it from the last one. -/
def writeJsonRows (snapshot : ResultSnapshot φ ν) : Nat → List (List (Cell φ ν)) → Encode Unit
  | _, [] => pure ()
  | rowIndex, row :: rows => do
      requireRowWidth snapshot row
      if rowIndex ≠ 0 then writeAll [',']
      writeJsonRow crates row
      writeJsonRows snapshot (rowIndex + 1) rows

def writeLastInsertId : Option Nat → Encode Unit
  | some value => writeAll (natText value)
  | none => writeAll "null".toList

def writeJson (snapshot : ResultSnapshot φ ν) : Encode Unit := do
  let completedAt ← ofOption .invalidCompletedAt
    (crates.fromTimestampMillis snapshot.provenance.completedAtUnixMs)
  writeAll "\x7b\"schema\":\"dbotter.result.v1\",\"provenance\":\x7b\"operation_id\":".toList
  writeAll (natText snapshot.provenance.operationId)
  writeAll ",\"profile_id\":".toList
  writeJsonString snapshot.provenance.profileId
  writeAll ",\"profile_generation\":".toList
  writeAll (natText snapshot.provenance.profileGeneration)
  writeAll ",\"driver\":".toList
  writeJsonString (driverText snapshot.provenance.driver)
  writeAll ",\"completed_at\":".toList
  writeJsonString completedAt
  writeAll ",\"elapsed_ms\":".toList
  writeAll (natText snapshot.provenance.durationMs)
  writeAll "\x7d,\"columns\":[".toList
  separated [','] writeJsonColumn 0 snapshot.columns
  writeAll "],\"rows\":[".toList
  writeJsonRows crates snapshot 0 snapshot.rows
  writeAll "],\"affected_rows\":".toList
  writeAll (natText snapshot.affectedRows)
  writeAll ",\"last_insert_id\":".toList
  writeLastInsertId snapshot.lastInsertId
  writeAll ",\"truncated\":".toList
  writeAll (boolText snapshot.truncated)
  writeAll ['}']

def encoded (snapshot : ResultSnapshot φ ν) : ExportFormat → Encode Unit
  | .csv => writeCsv crates snapshot
  | .tsv => writeTsv crates snapshot
  | .json => writeJson crates snapshot

end

/-! ## What an encoder writes -/

/-- The encoder succeeds, and its pieces are this text. -/
def Encode.Writes (m : Encode Unit) (text : Text) : Prop :=
  m.result = .ok () ∧ m.pieces.flatten = text

namespace Encode.Writes

theorem pure : Writes (Pure.pure ()) [] := ⟨rfl, rfl⟩

theorem writeAll (piece : Text) : Writes (Encode.writeAll piece) piece := ⟨rfl, by simp [Encode.writeAll]⟩

theorem bind {m : Encode Unit} {f : Unit → Encode Unit} {text text' : Text} (hm : Writes m text)
    (hf : Writes (f ()) text') : Writes (m >>= f) (text ++ text') := by
  obtain ⟨hok, rfl⟩ := hm
  obtain ⟨hok', rfl⟩ := hf
  have hbind : (m >>= f) = ⟨m.pieces ++ (f ()).pieces, (f ()).result⟩ := by
    show Encode.bind m f = _
    unfold Encode.bind
    rw [hok]
  rw [hbind]
  exact ⟨hok', List.flatten_append⟩

theorem each {β : Type} {write : β → Encode Unit} {text : β → Text} (xs : List β)
    (h : ∀ x ∈ xs, Writes (write x) (text x)) : Writes (Encode.each write xs) (xs.flatMap text) := by
  induction xs with
  | nil => exact pure
  | cons x xs ih =>
      rw [List.flatMap_cons]
      exact (h x List.mem_cons_self).bind (ih fun y hy => h y (List.mem_cons_of_mem x hy))

/-- Behind the first element every element comes with a separator. -/
theorem separated_succ {β : Type} {separator : Text} {write : Nat → β → Encode Unit}
    {text : Nat → β → Text} (xs : List β) (index : Nat)
    (h : ∀ i, ∀ x ∈ xs, Writes (write i x) (text i x)) :
    Writes (Encode.separated separator write (index + 1) xs)
      ((xs.mapIdx fun i x => separator ++ text (index + 1 + i) x).flatten) := by
  induction xs generalizing index with
  | nil => exact pure
  | cons x xs ih =>
      have hrest := ih (index + 1) fun i y hy => h i y (List.mem_cons_of_mem x hy)
      have hshift : (xs.mapIdx fun i y => separator ++ text (index + 1 + (i + 1)) y) =
          xs.mapIdx fun i y => separator ++ text (index + 1 + 1 + i) y := by
        congr 1
        funext i y
        rw [Nat.add_right_comm _ 1 i, Nat.add_assoc _ i 1]
      rw [List.mapIdx_cons, List.flatten_cons, List.append_assoc, hshift, Encode.separated_next]
      exact (writeAll separator).bind ((h _ x List.mem_cons_self).bind hrest)

theorem flatten_separated (separator : Text) (texts : List Text) (text : Text) :
    text ++ (texts.map (separator ++ ·)).flatten = separator.intercalate (text :: texts) := by
  induction texts generalizing text with
  | nil => simp
  | cons next texts ih =>
      rw [List.intercalate_cons_cons, ← ih next, List.map_cons, List.flatten_cons]
      simp [List.append_assoc]

theorem separated {β : Type} {separator : Text} {write : Nat → β → Encode Unit}
    {text : Nat → β → Text} (xs : List β) (h : ∀ i, ∀ x ∈ xs, Writes (write i x) (text i x)) :
    Writes (Encode.separated separator write 0 xs) (separator.intercalate (xs.mapIdx text)) := by
  cases xs with
  | nil => exact pure
  | cons x xs =>
      have hrest := @separated_succ _ separator _ _ xs 0
        fun i y hy => h i y (List.mem_cons_of_mem x hy)
      have htexts : (xs.mapIdx fun i y => separator ++ text (0 + 1 + i) y) =
          (xs.mapIdx fun i y => text (i + 1) y).map (separator ++ ·) := by
        apply List.ext_getElem?
        intro i
        rw [List.getElem?_map, List.getElem?_mapIdx, List.getElem?_mapIdx, Option.map_map, Nat.zero_add]
        simp only [Nat.add_comm 1 i]
        rfl
      rw [htexts] at hrest
      rw [List.mapIdx_cons, ← flatten_separated, Encode.separated_first]
      exact (h 0 x List.mem_cons_self).bind hrest

end Encode.Writes

end Dbotter.Results
