import Dbotter.Results.Encoding

/-!
What the JSON writer writes is a document: its text is the compact print of `snapshotDocument`.

The writer glues string fragments together, so the argument goes over tokens. Every fragment is
the text of some tokens, and the tokens of all fragments are those of the document.
-/

namespace Dbotter.Results
open Dbotter.Utf8 Dbotter.Configuration Dbotter.Numerals Dbotter.Json Encode

variable {φ ν : Type} (crates : Crates φ ν)

theorem mapIdx_eq_map {α β : Type} (f : α → β) (xs : List α) : xs.mapIdx (fun _ => f) = xs.map f := by
  apply List.ext_getElem?
  intro i
  rw [List.getElem?_mapIdx, List.getElem?_map]

/-! ## Canonical JSON -/

theorem hex04_control : ∀ n < 32, hex04 n = ['0', '0', hexDigit (n / 16), hexDigit (n % 16)] := by
  decide +kernel

theorem escapedJsonChar_eq (c : Char) : escapedJsonChar c = escapeChar c := by
  unfold escapedJsonChar escapeChar
  split
  · decide
  · decide
  · decide
  · decide
  · decide
  · decide
  · decide
  · next hquote hslash hback hfeed hline hreturn htab =>
      have hu : "\\u".toList = ['\\', 'u'] := by decide
      simp only [beq_iff_eq, if_neg hquote, if_neg hslash, if_neg hback, if_neg hfeed, if_neg hline,
        if_neg hreturn, if_neg htab, hu]
      by_cases hc : c.toNat < 32
      · rw [if_pos (Nat.le_of_lt_succ hc), if_pos hc, hex04_control _ hc]
        rfl
      · rw [if_neg (by omega), if_neg hc]

theorem pushJsonString_eq (value : Text) : pushJsonString value = (Tok.str value).text := by
  rw [pushJsonString, funext escapedJsonChar_eq]
  rfl

/-- The document of a JSON cell: keys in order, numbers as they are printed. -/
def canonicalDocument (value : Value ν) : Value Text := value.sorted.map crates.numberToString

theorem sortedItems_eq (items : List (Value ν)) : Value.sortedItems items = items.map Value.sorted := by
  induction items with
  | nil => rfl
  | cons v vs ih => rw [Value.sortedItems, ih, List.map_cons]

theorem print_items (docs : List (Value Text)) :
    (itemToks docs).flatMap Tok.text = commaSeparated (docs.map print) := by
  unfold commaSeparated
  induction docs with
  | nil => rfl
  | cons doc docs ih =>
      cases docs with
      | nil => simp [itemToks, print]
      | cons next docs =>
          rw [itemToks, List.flatMap_append, List.flatMap_cons, ih]
          simp only [List.map_cons, List.intercalate_cons_cons, List.append_assoc]
          rfl

theorem print_fields (fields : List (Text × Value Text)) :
    (fieldToks fields).flatMap Tok.text =
      commaSeparated (fields.map fun field => pushJsonString field.1 ++ ':' :: print field.2) := by
  unfold commaSeparated
  induction fields with
  | nil => rfl
  | cons field fields ih =>
      obtain ⟨key, doc⟩ := field
      cases fields with
      | nil =>
          rw [fieldToks, List.flatMap_cons, List.flatMap_cons, ← pushJsonString_eq]
          simp only [List.map_cons, List.map_nil, List.intercalate_singleton]
          rfl
      | cons next fields =>
          rw [fieldToks, List.flatMap_append, List.flatMap_cons, List.flatMap_cons,
            List.flatMap_cons, ih, ← pushJsonString_eq]
          simp only [List.map_cons, List.intercalate_cons_cons, List.append_assoc]
          rfl

theorem print_array (docs : List (Value Text)) :
    print (.array docs) = '[' :: commaSeparated (docs.map print) ++ [']'] := by
  rw [← print_items, print, toks, List.flatMap_append, List.flatMap_cons]
  rfl

theorem print_object (fields : List (Text × Value Text)) :
    print (.object fields) =
      '{' :: commaSeparated (fields.map fun field => pushJsonString field.1 ++ ':' :: print field.2)
        ++ ['}'] := by
  rw [← print_fields, print, toks, List.flatMap_append, List.flatMap_cons]
  rfl

mutual

theorem canonicalJson_eq : ∀ value : Value ν,
    canonicalJson crates value = print (canonicalDocument crates value)
  | .null => by
      show "null".toList = ['n', 'u', 'l', 'l']
      decide
  | .bool value => by
      have htrue : "true".toList = ['t', 'r', 'u', 'e'] := by decide
      have hfalse : "false".toList = ['f', 'a', 'l', 's', 'e'] := by decide
      cases value with
      | true => exact htrue
      | false => exact hfalse
  | .number value => by
      show crates.numberToString value = [Tok.num (crates.numberToString value)].flatMap Tok.text
      simp [Tok.text]
  | .string value => by
      rw [canonicalJson, pushJsonString_eq]
      show (Tok.str value).text = [Tok.str value].flatMap Tok.text
      simp
  | .array values => by
      rw [canonicalJson, canonicalItems_eq values]
      show _ = print (.array (Value.mapItems crates.numberToString (Value.sortedItems values)))
      rw [print_array, Value.mapItems_eq, sortedItems_eq, List.map_map, List.map_map]
      rfl
  | .object values => by
      have hsort := List.map_mergeSort (r := Value.keyLe) (s := Value.keyLe)
        (f := fun field : Text × Value ν => (field.1, print (field.2.map crates.numberToString)))
        (l := Value.sortedFields values) fun _ _ _ _ => rfl
      rw [canonicalJson, canonicalFields_eq values, ← hsort, List.map_map]
      show _ = print (.object (Value.mapFields crates.numberToString
        ((Value.sortedFields values).mergeSort Value.keyLe)))
      rw [print_object, Value.mapFields_eq, List.map_map]
      rfl

theorem canonicalItems_eq : ∀ values : List (Value ν),
    canonicalItems crates values = values.map fun value => print (canonicalDocument crates value)
  | [] => rfl
  | value :: values => by
      rw [canonicalItems, canonicalJson_eq value, canonicalItems_eq values, List.map_cons]

theorem canonicalFields_eq : ∀ values : List (Text × Value ν),
    canonicalFields crates values =
      (Value.sortedFields values).map fun field =>
        (field.1, print (field.2.map crates.numberToString))
  | [] => rfl
  | (key, value) :: values => by
      rw [canonicalFields, canonicalJson_eq value, canonicalFields_eq values, Value.sortedFields,
        List.map_cons]
      rfl

end

/-! ## The documents -/

inductive CellTag
  | null
  | bool
  | int
  | uint
  | float
  | decimal
  | text
  | bytes
  | json
  | jsonPreview
  | dateTime
  deriving DecidableEq, Repr

def CellTag.name : CellTag → Text
  | null => "null".toList
  | bool => "bool".toList
  | int => "int".toList
  | uint => "uint".toList
  | float => "float".toList
  | decimal => "decimal".toList
  | text => "text".toList
  | bytes => "bytes".toList
  | json => "json".toList
  | jsonPreview => "json_preview".toList
  | dateTime => "datetime".toList

def natDocument (n : Nat) : Value Text := .number (natText n)

def tagged (tag : CellTag) (value : Value Text) : Value Text :=
  .object [("type".toList, .string tag.name), ("value".toList, value)]

def previewDocument (tag : CellTag) (preview : Text) (originalLen : Nat) : Value Text :=
  .object [("type".toList, .string tag.name), ("value".toList, .string preview),
    ("original_len".toList, natDocument originalLen), ("truncated".toList, .bool true)]

def cellDocument : Cell φ ν → Value Text
  | .null => .object [("type".toList, .string CellTag.null.name)]
  | .bool value => tagged .bool (.bool value)
  | .int value => tagged .int (.string (intText value))
  | .uint value => tagged .uint (.string (natText value))
  | .float value => tagged .float (.string (canonicalFloat crates value))
  | .decimal value => tagged .decimal (.string (canonicalDecimal crates value))
  | .text value => tagged .text (.string value)
  | .textPreview preview originalLen => previewDocument .text preview originalLen
  | .bytes retained originalLen =>
      tagged .bytes (.object [("base64".toList, .string (Base64.encodeStandard retained)),
        ("original_len".toList, natDocument originalLen),
        ("truncated".toList, .bool (retained.length < originalLen))])
  | .json value => tagged .json (canonicalDocument crates value)
  | .jsonPreview preview originalLen => previewDocument .jsonPreview preview originalLen
  | .dateTime value => tagged .dateTime (.string (normalizeDatetime crates value))

def columnDocument (index : Nat) (column : Column) : Value Text :=
  .object [("index".toList, natDocument index), ("name".toList, .string column.name),
    ("type_name".toList, .string column.typeName)]

def rowDocument (row : List (Cell φ ν)) : Value Text := .array (row.map (cellDocument crates))

def provenanceDocument (provenance : ResultProvenance) (completedAt : Text) : Value Text :=
  .object [("operation_id".toList, natDocument provenance.operationId),
    ("profile_id".toList, .string provenance.profileId),
    ("profile_generation".toList, natDocument provenance.profileGeneration),
    ("driver".toList, .string (driverText provenance.driver)),
    ("completed_at".toList, .string completedAt),
    ("elapsed_ms".toList, natDocument provenance.durationMs)]

def optionDocument : Option Nat → Value Text
  | some value => natDocument value
  | none => .null

def snapshotDocument (snapshot : ResultSnapshot φ ν) (completedAt : Text) : Value Text :=
  .object [("schema".toList, .string "dbotter.result.v1".toList),
    ("provenance".toList, provenanceDocument snapshot.provenance completedAt),
    ("columns".toList, .array (snapshot.columns.mapIdx columnDocument)),
    ("rows".toList, .array (snapshot.rows.map (rowDocument crates))),
    ("affected_rows".toList, natDocument snapshot.affectedRows),
    ("last_insert_id".toList, optionDocument snapshot.lastInsertId),
    ("truncated".toList, .bool snapshot.truncated)]

/-! ## Encoders over tokens -/

/-- The encoder writes the text of these tokens. -/
def Emits (m : Encode Unit) (ts : List Tok) : Prop := m.Writes (ts.flatMap Tok.text)

namespace Emits

theorem bind {m : Encode Unit} {f : Unit → Encode Unit} {ts ts' : List Tok} (hm : Emits m ts)
    (hf : Emits (f ()) ts') : Emits (m >>= f) (ts ++ ts') := by
  unfold Emits
  rw [List.flatMap_append]
  exact Writes.bind hm hf

theorem literal {piece : Text} (ts : List Tok) (h : piece = ts.flatMap Tok.text) :
    Emits (writeAll piece) ts := h ▸ Writes.writeAll piece

theorem token {piece : Text} (t : Tok) (h : piece = t.text) : Emits (writeAll piece) [t] :=
  literal [t] (by rw [h]; simp)

theorem string (value : Text) : Emits (writeJsonString value) [.str value] :=
  token (.str value) (pushJsonString_eq value)

theorem number (n : Nat) : Emits (writeAll (natText n)) [.num (natText n)] :=
  token (.num (natText n)) rfl

theorem bool (b : Bool) : Emits (writeAll (boolText b)) [.bool b] := by
  cases b with
  | true => exact token (.bool true) (by decide)
  | false => exact token (.bool false) (by decide)

/-- The items of an array, one document each. -/
theorem separated {β : Type} {write : Nat → β → Encode Unit} {doc : Nat → β → Value Text}
    (xs : List β) (h : ∀ i, ∀ x ∈ xs, Emits (write i x) (toks (doc i x))) :
    Emits (Encode.separated [','] write 0 xs) (itemToks (xs.mapIdx doc)) := by
  unfold Emits
  rw [print_items, commaSeparated]
  have hxs := @Writes.separated _ [','] _ (fun i x => print (doc i x)) xs h
  have hmap : (xs.mapIdx doc).map print = xs.mapIdx fun i x => print (doc i x) := by
    apply List.ext_getElem?
    intro i
    rw [List.getElem?_map, List.getElem?_mapIdx, List.getElem?_mapIdx, Option.map_map]
    rfl
  rwa [hmap]

end Emits

theorem emits_stringCell (tag : CellTag) (value : Text) :
    Emits (writeStringCell tag.name value) (toks (tagged tag (.string value))) := by
  have hopen : "\x7b\"type\":".toList =
      [Tok.lbrace, .str "type".toList, .colon].flatMap Tok.text := by decide +kernel
  have hvalue : ",\"value\":".toList =
      [Tok.comma, .str "value".toList, .colon].flatMap Tok.text := by decide +kernel
  exact (Emits.literal _ hopen).bind ((Emits.string tag.name).bind
    ((Emits.literal _ hvalue).bind ((Emits.string value).bind (.token .rbrace rfl))))

theorem emits_cell (cell : Cell φ ν) :
    Emits (writeJsonCell crates cell) (toks (cellDocument crates cell)) := by
  have hlen : ",\"original_len\":".toList =
      [Tok.comma, .str "original_len".toList, .colon].flatMap Tok.text := by decide +kernel
  have htail : ",\"truncated\":true\x7d".toList =
      [Tok.comma, .str "truncated".toList, .colon, .bool true, .rbrace].flatMap Tok.text := by
    decide +kernel
  cases cell with
  | null =>
      have hnull : "\x7b\"type\":\"null\"\x7d".toList = [Tok.lbrace, .str "type".toList, .colon,
          .str CellTag.null.name, .rbrace].flatMap Tok.text := by decide +kernel
      exact .literal _ hnull
  | bool value =>
      have hopen : "\x7b\"type\":\"bool\",\"value\":".toList = [Tok.lbrace, .str "type".toList, .colon,
          .str CellTag.bool.name, .comma, .str "value".toList, .colon].flatMap Tok.text := by
        decide +kernel
      exact (Emits.literal _ hopen).bind ((Emits.bool value).bind (.token .rbrace rfl))
  | int value => exact emits_stringCell .int _
  | uint value => exact emits_stringCell .uint _
  | float value => exact emits_stringCell .float _
  | decimal value => exact emits_stringCell .decimal _
  | text value => exact emits_stringCell .text value
  | textPreview preview originalLen =>
      have hopen : "\x7b\"type\":\"text\",\"value\":".toList = [Tok.lbrace, .str "type".toList, .colon,
          .str CellTag.text.name, .comma, .str "value".toList, .colon].flatMap Tok.text := by
        decide +kernel
      exact (Emits.literal _ hopen).bind ((Emits.string preview).bind
        ((Emits.literal _ hlen).bind ((Emits.number originalLen).bind (.literal _ htail))))
  | bytes retained originalLen =>
      have hopen : "\x7b\"type\":\"bytes\",\"value\":\x7b\"base64\":".toList = [Tok.lbrace,
          .str "type".toList, .colon, .str CellTag.bytes.name, .comma, .str "value".toList, .colon,
          .lbrace, .str "base64".toList, .colon].flatMap Tok.text := by decide +kernel
      have htruncated : ",\"truncated\":".toList =
          [Tok.comma, .str "truncated".toList, .colon].flatMap Tok.text := by decide +kernel
      exact (Emits.literal _ hopen).bind ((Emits.string _).bind
        ((Emits.literal _ hlen).bind ((Emits.number originalLen).bind
          ((Emits.literal _ htruncated).bind ((Emits.bool _).bind
            (.literal [.rbrace, .rbrace] rfl))))))
  | json value =>
      have hopen : "\x7b\"type\":\"json\",\"value\":".toList = [Tok.lbrace, .str "type".toList, .colon,
          .str CellTag.json.name, .comma, .str "value".toList, .colon].flatMap Tok.text := by
        decide +kernel
      have hvalue : Emits (writeAll (canonicalJson crates value))
          (toks (canonicalDocument crates value)) := .literal _ (canonicalJson_eq crates value)
      exact (Emits.literal _ hopen).bind (hvalue.bind (.token .rbrace rfl))
  | jsonPreview preview originalLen =>
      have hopen : "\x7b\"type\":\"json_preview\",\"value\":".toList = [Tok.lbrace, .str "type".toList,
          .colon, .str CellTag.jsonPreview.name, .comma, .str "value".toList,
          .colon].flatMap Tok.text := by decide +kernel
      exact (Emits.literal _ hopen).bind ((Emits.string preview).bind
        ((Emits.literal _ hlen).bind ((Emits.number originalLen).bind (.literal _ htail))))
  | dateTime value => exact emits_stringCell .dateTime _

theorem emits_column (index : Nat) (column : Column) :
    Emits (writeJsonColumn index column) (toks (columnDocument index column)) := by
  have hopen : "\x7b\"index\":".toList =
      [Tok.lbrace, .str "index".toList, .colon].flatMap Tok.text := by decide +kernel
  have hname : ",\"name\":".toList =
      [Tok.comma, .str "name".toList, .colon].flatMap Tok.text := by decide +kernel
  have htype : ",\"type_name\":".toList =
      [Tok.comma, .str "type_name".toList, .colon].flatMap Tok.text := by decide +kernel
  exact (Emits.literal _ hopen).bind ((Emits.number index).bind ((Emits.literal _ hname).bind
    ((Emits.string column.name).bind ((Emits.literal _ htype).bind
      ((Emits.string column.typeName).bind (.token .rbrace rfl))))))

theorem emits_row (row : List (Cell φ ν)) :
    Emits (writeJsonRow crates row) (toks (rowDocument crates row)) := by
  have hcells := @Emits.separated _ (fun _ cell => writeJsonCell crates cell)
    (fun _ => cellDocument crates) row fun _ cell _ => emits_cell crates cell
  rw [mapIdx_eq_map] at hcells
  exact (Emits.token .lbracket rfl).bind (hcells.bind (.token .rbracket rfl))

theorem writeJsonRows_eq {snapshot : ResultSnapshot φ ν} (rowIndex : Nat)
    (rows : List (List (Cell φ ν))) (hrows : ∀ row ∈ rows, row.length = snapshot.columns.length) :
    writeJsonRows crates snapshot rowIndex rows =
      separated [','] (fun _ row => writeJsonRow crates row) rowIndex rows := by
  induction rows generalizing rowIndex with
  | nil => rfl
  | cons row rows ih =>
      rw [writeJsonRows, separated, ih _ fun r hr => hrows r (List.mem_cons_of_mem row hr),
        requireRowWidth, if_pos (hrows row List.mem_cons_self)]
      rfl

theorem emits_rows {snapshot : ResultSnapshot φ ν} (hrows : snapshot.Rectangular) :
    Emits (writeJsonRows crates snapshot 0 snapshot.rows)
      (itemToks (snapshot.rows.map (rowDocument crates))) := by
  have hitems := @Emits.separated _ (fun _ row => writeJsonRow crates row)
    (fun _ => rowDocument crates) snapshot.rows fun _ row _ => emits_row crates row
  rw [mapIdx_eq_map] at hitems
  rwa [writeJsonRows_eq crates 0 snapshot.rows hrows]

theorem emits_lastInsertId (value : Option Nat) :
    Emits (writeLastInsertId value) (toks (optionDocument value)) := by
  cases value with
  | none => exact .token .null (by decide)
  | some n => exact .number n

/-- The writer writes the compact text of the document. -/
theorem emits_snapshot {snapshot : ResultSnapshot φ ν} (hrows : snapshot.Rectangular)
    {completedAt : Text}
    (hcompleted : crates.fromTimestampMillis snapshot.provenance.completedAtUnixMs = some completedAt) :
    Emits (writeJson crates snapshot) (toks (snapshotDocument crates snapshot completedAt)) := by
  have hopen : "\x7b\"schema\":\"dbotter.result.v1\",\"provenance\":\x7b\"operation_id\":".toList =
      [Tok.lbrace, .str "schema".toList, .colon, .str "dbotter.result.v1".toList, .comma,
        .str "provenance".toList, .colon, .lbrace, .str "operation_id".toList,
        .colon].flatMap Tok.text := by decide +kernel
  have hprofile : ",\"profile_id\":".toList =
      [Tok.comma, .str "profile_id".toList, .colon].flatMap Tok.text := by decide +kernel
  have hgeneration : ",\"profile_generation\":".toList =
      [Tok.comma, .str "profile_generation".toList, .colon].flatMap Tok.text := by decide +kernel
  have hdriver : ",\"driver\":".toList =
      [Tok.comma, .str "driver".toList, .colon].flatMap Tok.text := by decide +kernel
  have hcompletedAt : ",\"completed_at\":".toList =
      [Tok.comma, .str "completed_at".toList, .colon].flatMap Tok.text := by decide +kernel
  have helapsed : ",\"elapsed_ms\":".toList =
      [Tok.comma, .str "elapsed_ms".toList, .colon].flatMap Tok.text := by decide +kernel
  have hcolumns : "\x7d,\"columns\":[".toList =
      [Tok.rbrace, .comma, .str "columns".toList, .colon, .lbracket].flatMap Tok.text := by
    decide +kernel
  have hrowsOpen : "],\"rows\":[".toList =
      [Tok.rbracket, .comma, .str "rows".toList, .colon, .lbracket].flatMap Tok.text := by
    decide +kernel
  have haffected : "],\"affected_rows\":".toList =
      [Tok.rbracket, .comma, .str "affected_rows".toList, .colon].flatMap Tok.text := by
    decide +kernel
  have hinsert : ",\"last_insert_id\":".toList =
      [Tok.comma, .str "last_insert_id".toList, .colon].flatMap Tok.text := by decide +kernel
  have htruncated : ",\"truncated\":".toList =
      [Tok.comma, .str "truncated".toList, .colon].flatMap Tok.text := by decide +kernel
  have hcolumn := Emits.separated snapshot.columns fun i column _ => emits_column i column
  simp only [snapshotDocument, provenanceDocument, natDocument, toks, fieldToks, List.cons_append,
    List.nil_append, List.append_assoc]
  rw [writeJson, hcompleted, ofOption_bind]
  refine (Emits.literal _ hopen).bind ?_
  refine (Emits.number snapshot.provenance.operationId).bind ?_
  refine (Emits.literal _ hprofile).bind ?_
  refine (Emits.string snapshot.provenance.profileId).bind ?_
  refine (Emits.literal _ hgeneration).bind ?_
  refine (Emits.number snapshot.provenance.profileGeneration).bind ?_
  refine (Emits.literal _ hdriver).bind ?_
  refine (Emits.string (driverText snapshot.provenance.driver)).bind ?_
  refine (Emits.literal _ hcompletedAt).bind ?_
  refine (Emits.string completedAt).bind ?_
  refine (Emits.literal _ helapsed).bind ?_
  refine (Emits.number snapshot.provenance.durationMs).bind ?_
  refine (Emits.literal _ hcolumns).bind ?_
  refine hcolumn.bind ?_
  refine (Emits.literal _ hrowsOpen).bind ?_
  refine (emits_rows crates hrows).bind ?_
  refine (Emits.literal _ haffected).bind ?_
  refine (Emits.number snapshot.affectedRows).bind ?_
  refine (Emits.literal _ hinsert).bind ?_
  refine (emits_lastInsertId snapshot.lastInsertId).bind ?_
  refine (Emits.literal _ htruncated).bind ?_
  exact (Emits.bool snapshot.truncated).bind (.token .rbrace rfl)

end Dbotter.Results
