import Mathlib.Logic.Function.Basic
import Dbotter.Config.Writer
import Dbotter.Results.JsonDocument
import Dbotter.Results.Tabular

/-!
The JSON export is one document, and the result can be read out of it.

`readResult` goes the way back from the document. What the export leaves out, or writes in a
normal form, is left out or in that form in `ExportedResult`.
-/

namespace Dbotter.Results
open Dbotter.Utf8 Dbotter.Configuration Dbotter.Service Dbotter.Numerals Dbotter.Json Encode

variable {φ ν : Type} (crates : Crates φ ν)

/-! ## The result in an export -/

def Cell.normalized : Cell φ ν → Cell φ ν
  | .decimal value => .decimal (canonicalDecimal crates value)
  | .json value => .json value.sorted
  | .dateTime value => .dateTime (normalizeDatetime crates value)
  | cell => cell

structure ExportedProvenance where
  operationId : OperationId
  profileId : ProfileId
  profileGeneration : ProfileGeneration
  driver : DriverKind
  completedAtUnixMs : Int
  durationMs : Nat
  deriving DecidableEq, Repr

structure ExportedResult (φ ν : Type) where
  provenance : ExportedProvenance
  columns : List Column
  rows : List (List (Cell φ ν))
  affectedRows : Nat
  lastInsertId : Option Nat
  truncated : Bool

def ResultProvenance.exported (p : ResultProvenance) : ExportedProvenance :=
  ⟨p.operationId, p.profileId, p.profileGeneration, p.driver, p.completedAtUnixMs, p.durationMs⟩

def ResultSnapshot.exported (s : ResultSnapshot φ ν) : ExportedResult φ ν :=
  ⟨s.provenance.exported, s.columns, s.rows.map fun row => row.map (Cell.normalized crates),
    s.affectedRows, s.lastInsertId, s.truncated⟩

/-! ## Reading a document -/

/-- The way back from what the crates print. -/
structure Readers (φ ν : Type) where
  float : Text → Option (F64 φ)
  number : Text → Option ν
  timestamp : Text → Option Int

structure Readers.Inverts (readers : Readers φ ν) (crates : Crates φ ν) : Prop where
  float : ∀ x, readers.float (canonicalFloat crates x) = some x
  number : ∀ n, readers.number (crates.numberToString n) = some n
  timestamp : ∀ millis text, crates.fromTimestampMillis millis = some text →
    readers.timestamp text = some millis

def CellTag.ofName (name : Text) : Option CellTag :=
  [null, bool, int, uint, float, decimal, text, bytes, json, jsonPreview, dateTime].find?
    (fun tag => tag.name == name)

theorem CellTag.ofName_name (tag : CellTag) : ofName tag.name = some tag := by
  cases tag <;> decide +kernel

def readDriver (text : Text) : Option DriverKind :=
  [DriverKind.mySql, .redis, .mongoDb].find? fun driver => driverText driver == text

theorem readDriver_driverText (driver : DriverKind) : readDriver (driverText driver) = some driver := by
  cases driver <;> decide +kernel

/-- The values of an object that has exactly these keys. -/
def fieldsOf (keys : List Text) : Value Text → Option (List (Value Text))
  | .object fields => if fields.map Prod.fst = keys then some (fields.map Prod.snd) else none
  | _ => none

def readCount : Value Text → Option Nat
  | .number literal => readNat literal
  | _ => none

def readTyped (readers : Readers φ ν) : CellTag → Value Text → Option (Cell φ ν)
  | .bool, .bool value => some (.bool value)
  | .int, .string text => (readInt text).map .int
  | .uint, .string text => (readNat text).map .uint
  | .float, .string text => (readers.float text).map .float
  | .decimal, .string text => some (.decimal text)
  | .text, .string text => some (.text text)
  | .bytes, value =>
      match fieldsOf ["base64".toList, "original_len".toList, "truncated".toList] value with
      | some [.string base64, originalLen, .bool _] => do
          let retained ← Base64.decodeStandard base64
          let originalLen ← readCount originalLen
          return .bytes retained originalLen
      | _ => none
  | .json, value => (value.traverse readers.number).map .json
  | .dateTime, .string text => some (.dateTime text)
  | _, _ => none

def readPreview : CellTag → Text → Nat → Option (Cell φ ν)
  | .text, preview, originalLen => some (.textPreview preview originalLen)
  | .jsonPreview, preview, originalLen => some (.jsonPreview preview originalLen)
  | _, _, _ => none

def readCell (readers : Readers φ ν) : Value Text → Option (Cell φ ν)
  | .object [(typeKey, .string name)] =>
      if typeKey = "type".toList ∧ CellTag.ofName name = some .null then some .null else none
  | .object [(typeKey, .string name), (valueKey, value)] =>
      if [typeKey, valueKey] = ["type".toList, "value".toList] then
        (CellTag.ofName name).bind fun tag => readTyped readers tag value
      else none
  | .object [(typeKey, .string name), (valueKey, .string preview), (lenKey, originalLen),
      (truncatedKey, .bool true)] =>
      if [typeKey, valueKey, lenKey, truncatedKey] =
          ["type".toList, "value".toList, "original_len".toList, "truncated".toList] then do
        let tag ← CellTag.ofName name
        let originalLen ← readCount originalLen
        readPreview tag preview originalLen
      else none
  | _ => none

def readItems {β : Type} (read : Value Text → Option β) : Value Text → Option (List β)
  | .array items => items.mapM read
  | _ => none

def readColumn (value : Value Text) : Option Column :=
  match fieldsOf ["index".toList, "name".toList, "type_name".toList] value with
  | some [_, .string name, .string typeName] => some ⟨name, typeName⟩
  | _ => none

def readProvenance (readers : Readers φ ν) (value : Value Text) : Option ExportedProvenance :=
  match fieldsOf ["operation_id".toList, "profile_id".toList, "profile_generation".toList,
    "driver".toList, "completed_at".toList, "elapsed_ms".toList] value with
  | some [operationId, .string profileId, generation, .string driver, .string completedAt,
      elapsed] => do
      let operationId ← readCount operationId
      let generation ← readCount generation
      let driver ← readDriver driver
      let completedAt ← readers.timestamp completedAt
      let elapsed ← readCount elapsed
      return ⟨operationId, profileId, generation, driver, completedAt, elapsed⟩
  | _ => none

def readOptional : Value Text → Option (Option Nat)
  | .null => some none
  | value => (readCount value).map some

def readResult (readers : Readers φ ν) (value : Value Text) : Option (ExportedResult φ ν) :=
  match fieldsOf ["schema".toList, "provenance".toList, "columns".toList, "rows".toList,
    "affected_rows".toList, "last_insert_id".toList, "truncated".toList] value with
  | some [.string schema, provenance, columns, rows, affectedRows, lastInsertId, .bool truncated] =>
      if schema = "dbotter.result.v1".toList then do
        let provenance ← readProvenance readers provenance
        let columns ← readItems readColumn columns
        let rows ← readItems (readItems (readCell readers)) rows
        let affectedRows ← readCount affectedRows
        let lastInsertId ← readOptional lastInsertId
        return ⟨provenance, columns, rows, affectedRows, lastInsertId, truncated⟩
      else none
  | _ => none

/-! ## What was written is read -/

section
variable {readers : Readers φ ν} (hreaders : readers.Inverts crates)

theorem fieldsOf_object (fields : List (Text × Value Text)) :
    fieldsOf (fields.map Prod.fst) (.object fields) = some (fields.map Prod.snd) := if_pos rfl

theorem readCount_natDocument (n : Nat) : readCount (natDocument n) = some n := readNat_natText n

theorem readCell_tagged (tag : CellTag) (value : Value Text) :
    readCell readers (tagged tag value) = readTyped readers tag value := by
  rw [tagged, readCell, if_pos rfl, CellTag.ofName_name, Option.bind_some]

theorem readCell_preview (tag : CellTag) (preview : Text) (originalLen : Nat) :
    readCell readers (previewDocument tag preview originalLen) =
      readPreview tag preview originalLen := by
  rw [previewDocument, readCell, if_pos rfl, CellTag.ofName_name, readCount_natDocument]
  rfl

include hreaders in
theorem readCell_cellDocument (cell : Cell φ ν) :
    readCell readers (cellDocument crates cell) = some (cell.normalized crates) := by
  cases cell with
  | null => rw [cellDocument, readCell, if_pos ⟨rfl, CellTag.ofName_name .null⟩]; rfl
  | bool value => exact readCell_tagged .bool _
  | int value => rw [cellDocument, readCell_tagged, readTyped, readInt_intText]; rfl
  | uint value => rw [cellDocument, readCell_tagged, readTyped, readNat_natText]; rfl
  | float value => rw [cellDocument, readCell_tagged, readTyped, hreaders.float]; rfl
  | decimal value => exact readCell_tagged .decimal _
  | text value => exact readCell_tagged .text _
  | textPreview preview originalLen => exact readCell_preview .text preview originalLen
  | bytes retained originalLen =>
      have hfields : fieldsOf ["base64".toList, "original_len".toList, "truncated".toList] _ = _ :=
        fieldsOf_object [("base64".toList, .string (Base64.encodeStandard retained)),
          ("original_len".toList, natDocument originalLen),
          ("truncated".toList, .bool (retained.length < originalLen))]
      rw [cellDocument, readCell_tagged, readTyped, hfields]
      simp only [List.map_cons, List.map_nil, Base64.decodeStandard_encodeStandard,
        readCount_natDocument]
      rfl
  | json value =>
      rw [cellDocument, readCell_tagged, readTyped, canonicalDocument,
        Value.traverse_map hreaders.number]
      rfl
  | jsonPreview preview originalLen => exact readCell_preview .jsonPreview preview originalLen
  | dateTime value => exact readCell_tagged .dateTime _

theorem readItems_map {β γ : Type} {read : Value Text → Option γ} {doc : β → Value Text} {f : β → γ}
    (h : ∀ x, read (doc x) = some (f x)) (xs : List β) :
    readItems read (.array (xs.map doc)) = some (xs.map f) := by
  show (xs.map doc).mapM read = some (xs.map f)
  induction xs with
  | nil => rfl
  | cons x xs ih =>
      rw [List.map_cons, List.mapM_cons, h, ih]
      rfl

theorem readItems_columns (columns : List Column) :
    readItems readColumn (.array (columns.mapIdx columnDocument)) = some columns := by
  have hcolumn : ∀ index column, readColumn (columnDocument index column) = some column := by
    intro index column
    have hfields : fieldsOf ["index".toList, "name".toList, "type_name".toList] _ = _ :=
      fieldsOf_object [("index".toList, natDocument index), ("name".toList, .string column.name),
        ("type_name".toList, .string column.typeName)]
    rw [columnDocument, readColumn, hfields]
    rfl
  have hall : ∀ start, ((columns.mapIdx fun i => columnDocument (start + i)).mapM readColumn) =
      some columns := by
    induction columns with
    | nil => intro start; rfl
    | cons column columns ih =>
        intro start
        have hshift : (columns.mapIdx fun i => columnDocument (start + (i + 1))) =
            columns.mapIdx fun i => columnDocument (start + 1 + i) := by
          congr 1
          funext i
          rw [Nat.add_right_comm, Nat.add_assoc]
        rw [List.mapIdx_cons, List.mapM_cons, hcolumn, hshift, ih]
        rfl
  have hzero := hall 0
  simp only [Nat.zero_add] at hzero
  exact hzero

theorem readOptional_optionDocument (value : Option Nat) :
    readOptional (optionDocument value) = some value := by
  cases value with
  | none => rfl
  | some n =>
      show (readCount (natDocument n)).map some = some (some n)
      rw [readCount_natDocument]
      rfl

include hreaders in
theorem readProvenance_provenanceDocument (p : ResultProvenance) {completedAt : Text}
    (hcompleted : crates.fromTimestampMillis p.completedAtUnixMs = some completedAt) :
    readProvenance readers (provenanceDocument p completedAt) = some p.exported := by
  have hfields : fieldsOf ["operation_id".toList, "profile_id".toList,
      "profile_generation".toList, "driver".toList, "completed_at".toList, "elapsed_ms".toList] _ =
      _ := fieldsOf_object [("operation_id".toList, natDocument p.operationId),
    ("profile_id".toList, .string p.profileId),
    ("profile_generation".toList, natDocument p.profileGeneration),
    ("driver".toList, .string (driverText p.driver)),
    ("completed_at".toList, .string completedAt), ("elapsed_ms".toList, natDocument p.durationMs)]
  rw [provenanceDocument, readProvenance, hfields]
  simp only [List.map_cons, List.map_nil, readCount_natDocument, readDriver_driverText,
    hreaders.timestamp _ _ hcompleted]
  rfl

include hreaders in
theorem readResult_snapshotDocument (snapshot : ResultSnapshot φ ν) {completedAt : Text}
    (hcompleted :
      crates.fromTimestampMillis snapshot.provenance.completedAtUnixMs = some completedAt) :
    readResult readers (snapshotDocument crates snapshot completedAt) =
      some (snapshot.exported crates) := by
  have hrow : ∀ row, readItems (readCell readers) (rowDocument crates row) =
      some (row.map (Cell.normalized crates)) :=
    readItems_map (readCell_cellDocument crates hreaders)
  have hrows := readItems_map hrow snapshot.rows
  have hfields : fieldsOf ["schema".toList, "provenance".toList, "columns".toList, "rows".toList,
      "affected_rows".toList, "last_insert_id".toList, "truncated".toList] _ = _ :=
    fieldsOf_object [("schema".toList, .string "dbotter.result.v1".toList),
      ("provenance".toList, provenanceDocument snapshot.provenance completedAt),
      ("columns".toList, .array (snapshot.columns.mapIdx columnDocument)),
      ("rows".toList, .array (snapshot.rows.map (rowDocument crates))),
      ("affected_rows".toList, natDocument snapshot.affectedRows),
      ("last_insert_id".toList, optionDocument snapshot.lastInsertId),
      ("truncated".toList, .bool snapshot.truncated)]
  rw [snapshotDocument, readResult, hfields]
  simp only [List.map_cons, List.map_nil, if_true, readCount_natDocument,
    readProvenance_provenanceDocument crates hreaders _ hcompleted, readItems_columns, hrows,
    readOptional_optionDocument]
  rfl

end

/-! ## Documents of results are valid -/

section
variable (hnumbers : ∀ n, isNumber (crates.numberToString n) = true)

theorem valid_natDocument (n : Nat) : Valid (natDocument n) := valid_number (isNumber_natText n)

theorem valid_fields {fields : List (Text × Value Text)} (h : ∀ doc ∈ fields.map Prod.snd, Valid doc) :
    Valid (.object fields) :=
  valid_object fun _ hf => h _ (List.mem_map_of_mem hf)

theorem valid_tagged {tag : CellTag} {value : Value Text} (h : Valid value) :
    Valid (tagged tag value) := by
  refine valid_fields fun doc hdoc => ?_
  simp only [List.map_cons, List.map_nil, List.mem_cons, List.not_mem_nil, or_false] at hdoc
  rcases hdoc with rfl | rfl
  · exact valid_string _
  · exact h

theorem valid_preview (tag : CellTag) (preview : Text) (originalLen : Nat) :
    Valid (previewDocument tag preview originalLen) := by
  refine valid_fields fun doc hdoc => ?_
  simp only [List.map_cons, List.map_nil, List.mem_cons, List.not_mem_nil, or_false] at hdoc
  rcases hdoc with rfl | rfl | rfl | rfl
  · exact valid_string _
  · exact valid_string _
  · exact valid_natDocument _
  · exact valid_bool _

include hnumbers in
theorem valid_cell (cell : Cell φ ν) : Valid (cellDocument crates cell) := by
  cases cell with
  | null => exact valid_fields (by simpa using valid_string _)
  | bool value => exact valid_tagged (valid_bool value)
  | int value => exact valid_tagged (valid_string _)
  | uint value => exact valid_tagged (valid_string _)
  | float value => exact valid_tagged (valid_string _)
  | decimal value => exact valid_tagged (valid_string _)
  | text value => exact valid_tagged (valid_string _)
  | textPreview preview originalLen => exact valid_preview _ _ _
  | bytes retained originalLen =>
      refine valid_tagged (valid_fields fun doc hdoc => ?_)
      simp only [List.map_cons, List.map_nil, List.mem_cons, List.not_mem_nil, or_false] at hdoc
      rcases hdoc with rfl | rfl | rfl
      · exact valid_string _
      · exact valid_natDocument _
      · exact valid_bool _
  | json value => exact valid_tagged (valid_map hnumbers _)
  | jsonPreview preview originalLen => exact valid_preview _ _ _
  | dateTime value => exact valid_tagged (valid_string _)

theorem valid_column (index : Nat) (column : Column) : Valid (columnDocument index column) := by
  refine valid_fields fun doc hdoc => ?_
  simp only [List.map_cons, List.map_nil, List.mem_cons, List.not_mem_nil, or_false] at hdoc
  rcases hdoc with rfl | rfl | rfl
  · exact valid_natDocument _
  · exact valid_string _
  · exact valid_string _

theorem valid_provenance (p : ResultProvenance) (completedAt : Text) :
    Valid (provenanceDocument p completedAt) := by
  refine valid_fields fun doc hdoc => ?_
  simp only [List.map_cons, List.map_nil, List.mem_cons, List.not_mem_nil, or_false] at hdoc
  rcases hdoc with rfl | rfl | rfl | rfl | rfl | rfl
  · exact valid_natDocument _
  · exact valid_string _
  · exact valid_natDocument _
  · exact valid_string _
  · exact valid_string _
  · exact valid_natDocument _

theorem valid_option (value : Option Nat) : Valid (optionDocument value) := by
  cases value with
  | none => exact valid_null
  | some n => exact valid_natDocument n

include hnumbers in
theorem valid_snapshot (snapshot : ResultSnapshot φ ν) (completedAt : Text) :
    Valid (snapshotDocument crates snapshot completedAt) := by
  refine valid_fields fun doc hdoc => ?_
  simp only [List.map_cons, List.map_nil, List.mem_cons, List.not_mem_nil, or_false] at hdoc
  rcases hdoc with rfl | rfl | rfl | rfl | rfl | rfl | rfl
  · exact valid_string _
  · exact valid_provenance _ _
  · refine valid_array fun v hv => ?_
    obtain ⟨i, hi, rfl⟩ := List.mem_mapIdx.mp hv
    exact valid_column _ _
  · refine valid_array fun v hv => ?_
    obtain ⟨row, -, rfl⟩ := List.mem_map.mp hv
    refine valid_array fun w hw => ?_
    obtain ⟨cell, -, rfl⟩ := List.mem_map.mp hw
    exact valid_cell crates hnumbers cell
  · exact valid_natDocument _
  · exact valid_option _
  · exact valid_bool _

end

/-! ## The export is faithful -/

/-- What the crates' printers promise: different values have different texts, and a number is
printed as a literal of JSON. -/
structure Crates.Faithful (crates : Crates φ ν) : Prop where
  float : Function.Injective crates.floatToString
  float_special : ∀ x, crates.floatToString x ∉ ["nan".toList, "inf".toList, "-inf".toList]
  number : Function.Injective crates.numberToString
  number_literal : ∀ n, isNumber (crates.numberToString n) = true
  timestamp : ∀ a b text, crates.fromTimestampMillis a = some text →
    crates.fromTimestampMillis b = some text → a = b

theorem canonicalFloat_injective {crates : Crates φ ν} (h : crates.Faithful) :
    Function.Injective (canonicalFloat crates) := by
  have hnan : "nan".toList ≠ "inf".toList := by decide
  have hneg : "nan".toList ≠ "-inf".toList := by decide
  have hinf : "inf".toList ≠ "-inf".toList := by decide
  have hspecial := h.float_special
  simp only [List.mem_cons, List.not_mem_nil, or_false, not_or] at hspecial
  intro x y hxy
  cases x with
  | nan =>
      cases y with
      | nan => rfl
      | infinity => exact absurd hxy hnan
      | negInfinity => exact absurd hxy hneg
      | finite y => exact absurd hxy.symm (hspecial y).1
  | infinity =>
      cases y with
      | nan => exact absurd hxy hnan.symm
      | infinity => rfl
      | negInfinity => exact absurd hxy hinf
      | finite y => exact absurd hxy.symm (hspecial y).2.1
  | negInfinity =>
      cases y with
      | nan => exact absurd hxy hneg.symm
      | infinity => exact absurd hxy hinf.symm
      | negInfinity => rfl
      | finite y => exact absurd hxy.symm (hspecial y).2.2
  | finite x =>
      cases y with
      | nan => exact absurd hxy (hspecial x).1
      | infinity => exact absurd hxy (hspecial x).2.1
      | negInfinity => exact absurd hxy (hspecial x).2.2
      | finite y => exact congrArg F64.finite (h.float hxy)

/-- Injective printers can be read back. -/
theorem exists_readers {crates : Crates φ ν} (h : crates.Faithful) :
    ∃ readers : Readers φ ν, readers.Inverts crates := by
  classical
  refine ⟨⟨Function.partialInv (canonicalFloat crates), Function.partialInv crates.numberToString,
    fun text => if ht : ∃ millis, crates.fromTimestampMillis millis = some text then
      some ht.choose else none⟩, ⟨?_, ?_, ?_⟩⟩
  · exact Function.partialInv_left (canonicalFloat_injective h)
  · exact Function.partialInv_left h.number
  · intro millis text hmillis
    have ht : ∃ millis, crates.fromTimestampMillis millis = some text := ⟨millis, hmillis⟩
    exact (dif_pos ht).trans (congrArg some (h.timestamp _ _ text ht.choose_spec hmillis))

/-- The JSON exports over these crates can be read: a whole result but for its result id, any
cell, and any canonical JSON value. -/
structure JsonFaithful (crates : Crates φ ν) (readers : Readers φ ν) : Prop where
  document : ∀ snapshot : ResultSnapshot φ ν, snapshot.Rectangular →
    (crates.fromTimestampMillis snapshot.provenance.completedAtUnixMs).isSome →
    ∃ json doc, writeExport crates snapshot .json = .ok json ∧
      (decodeUtf8 json).bind parse = some doc ∧
      readResult readers doc = some (snapshot.exported crates)
  cell : ∀ (c c' : Cell φ ν),
    (writeJsonCell crates c).pieces.flatten = (writeJsonCell crates c').pieces.flatten →
      c.normalized crates = c'.normalized crates
  canonical : ∀ value : Value ν, value.DistinctKeys →
    ∃ doc, parse (canonicalJson crates value) = some doc ∧
      doc.traverse readers.number = some value.sorted ∧ value.Equiv value.sorted ∧
        value.sorted.KeysAscend
  order : ∀ value value' : Value ν, value.DistinctKeys → value.Equiv value' →
    canonicalJson crates value = canonicalJson crates value'

theorem json_export_faithful (crates : Crates φ ν) (h : crates.Faithful) :
    ∃ readers : Readers φ ν, JsonFaithful crates readers := by
  obtain ⟨readers, hreaders⟩ := exists_readers h
  have hvalid := valid_cell crates h.number_literal
  refine ⟨readers, ⟨?_, ?_, ?_, ?_⟩⟩
  · intro snapshot hrows hsome
    obtain ⟨completedAt, hcompleted⟩ := Option.isSome_iff_exists.mp hsome
    have hemits := emits_snapshot crates hrows hcompleted
    refine ⟨_, _, @writeExport_of_writes _ _ crates _ .json _ hemits, ?_,
      readResult_snapshotDocument crates hreaders snapshot hcompleted⟩
    rw [decodeUtf8_bytes, Option.bind_some]
    exact parse_print (valid_snapshot crates h.number_literal snapshot completedAt)
  · intro c c' heq
    have hprint : print (cellDocument crates c) = print (cellDocument crates c') := by
      rw [print, print, ← (emits_cell crates c).2, ← (emits_cell crates c').2, heq]
    have hdoc := print_injective (hvalid c) (hvalid c') hprint
    have hread := readCell_cellDocument crates hreaders c
    rw [hdoc, readCell_cellDocument crates hreaders c'] at hread
    exact (Option.some.inj hread).symm
  · intro value hkeys
    refine ⟨canonicalDocument crates value, ?_, Value.traverse_map hreaders.number _,
      Value.equiv_sorted value, Value.keysAscend_sorted value hkeys⟩
    rw [canonicalJson_eq]
    exact parse_print (valid_map h.number_literal _)
  · intro value value' hkeys hequiv
    rw [canonicalJson_eq, canonicalJson_eq, canonicalDocument, canonicalDocument,
      Value.sorted_eq_of_equiv hequiv hkeys]

theorem bareCrates_faithful : bareCrates.Faithful := by
  refine ⟨nofun, nofun, nofun, nofun, ?_⟩
  intro a b text ha hb
  have hzero : ∀ millis, bareCrates.fromTimestampMillis millis = some text → millis = 0 := by
    intro millis h
    by_contra hne
    have hnone : bareCrates.fromTimestampMillis millis = none := if_neg hne
    rw [hnone] at h
    cases h
  rw [hzero a ha, hzero b hb]

theorem json_export_faithful_bare : ∃ readers : Readers Empty Empty, JsonFaithful bareCrates readers :=
  json_export_faithful bareCrates bareCrates_faithful

/-- Two results that differ in their ids have one JSON export. -/
theorem json_export_drops_resultId :
    writeExport bareCrates oneColumnResult .json =
      writeExport bareCrates
        { oneColumnResult with provenance := { oneColumnResult.provenance with resultId := 2 } }
        .json ∧
    oneColumnResult.provenance ≠ { oneColumnResult.provenance with resultId := 2 } := by
  refine ⟨rfl, ?_⟩
  decide

end Dbotter.Results
