import Mathlib.Data.Finset.Sort
import Dbotter.Config.Writer
import Dbotter.Results.Encoding
import Dbotter.Text.Tables

/-!
CSV and TSV exports and the clipboard are readable: the table comes back field by field.
-/

namespace Dbotter.Results
open Dbotter.Utf8 Dbotter.Configuration Dbotter.Tables Encode

variable {φ ν : Type} (crates : Crates φ ν)

/-! ## The clipboard -/

/-- One line of `copy_rows`: `tsv_field`s between tabs. -/
def copyLine (fields : List Text) : Text := ['\t'].intercalate (fields.map tsvField) ++ ['\n']

def copyRows (result : ResultSnapshot φ ν) (rowIndices : List Nat) : Option Text :=
  if result.columns.isEmpty then none
  else do
    let lines ← rowIndices.mapM fun rowIndex => do
      let row ← result.rows[rowIndex]?
      if row.length ≠ result.columns.length then none
      else some (copyLine (row.map (clipboardScalar crates)))
    return copyLine (result.columns.map Column.name) ++ lines.flatten

def copySelectedRows (result : ResultSnapshot φ ν) (selectedRows : Finset Nat) : Option Text :=
  if selectedRows = ∅ then none else copyRows crates result (selectedRows.sort (· ≤ ·))

def copyAllRows (result : ResultSnapshot φ ν) : Option Text :=
  copyRows crates result (List.range result.rows.length)

/-! ## What the exports are -/

/-- The bytes that `write_export` leaves in a buffer. -/
def writeExport (snapshot : ResultSnapshot φ ν) (format : ExportFormat) :
    Except ExportEncodeError (List UInt8) :=
  match (encoded crates snapshot format).result with
  | .ok () => .ok (bytes (encoded crates snapshot format).pieces.flatten)
  | .error e => .error e

/-- The table that a result stands for: the names of its columns over its scalars. -/
def table (snapshot : ResultSnapshot φ ν) : List (List Text) :=
  snapshot.columns.map Column.name :: snapshot.rows.map fun row => row.map (clipboardScalar crates)

theorem writeExport_of_writes {snapshot : ResultSnapshot φ ν} {format : ExportFormat} {text : Text}
    (h : (encoded crates snapshot format).Writes text) :
    writeExport crates snapshot format = .ok (bytes text) := by
  rw [writeExport, h.1, h.2]

theorem table_ne_nil {snapshot : ResultSnapshot φ ν} (hcolumns : snapshot.columns ≠ [])
    (hrows : snapshot.Rectangular) : ∀ fields ∈ table crates snapshot, fields ≠ [] := by
  have hlen : snapshot.columns.length ≠ 0 := by simpa using hcolumns
  intro fields hfields
  rcases List.mem_cons.mp hfields with rfl | hfields
  · simpa using hcolumns
  · obtain ⟨row, hrow, rfl⟩ := List.mem_map.mp hfields
    have hwidth := hrows row hrow
    rw [← List.length_pos_iff, List.length_map]
    omega

/-- Both tabular writers: a line of the names, then one of each row. -/
theorem writes_table {snapshot : ResultSnapshot φ ν} (hcolumns : snapshot.columns ≠ [])
    (hrows : snapshot.Rectangular) {separator terminator : Text} {write : Text → Encode Unit}
    {text : Text → Text} (hwrite : ∀ field, (write field).Writes (text field)) :
    (do
      requireTabular snapshot
      separated separator (fun _ column => write column.name) 0 snapshot.columns
      writeAll terminator
      each (fun row => do
        requireRowWidth snapshot row
        separated separator (fun _ cell => write (clipboardScalar crates cell)) 0 row
        writeAll terminator) snapshot.rows : Encode Unit).Writes
      ((table crates snapshot).flatMap fun fields =>
        separator.intercalate (fields.map text) ++ terminator) := by
  have hline : ∀ {β : Type} (xs : List β) (field : β → Text),
      (separated separator (fun _ x => write (field x)) 0 xs).Writes
        (separator.intercalate ((xs.map field).map text)) := by
    intro β xs field
    have hxs := @Writes.separated _ separator (fun _ x => write (field x))
      (fun _ x => text (field x)) xs fun _ x _ => hwrite (field x)
    have hmap : xs.mapIdx (fun _ x => text (field x)) = (xs.map field).map text := by
      apply List.ext_getElem?
      intro i
      rw [List.getElem?_mapIdx, List.map_map, List.getElem?_map]
      rfl
    rwa [hmap] at hxs
  have htabular : (requireTabular snapshot).Writes [] := by
    rw [requireTabular, if_neg (by simpa using hcolumns)]
    exact .pure
  have hrow : ∀ row ∈ snapshot.rows, (do
      requireRowWidth snapshot row
      separated separator (fun _ cell => write (clipboardScalar crates cell)) 0 row
      writeAll terminator : Encode Unit).Writes
      (separator.intercalate ((row.map (clipboardScalar crates)).map text) ++ terminator) := by
    intro row hmem
    have hwidth : (requireRowWidth snapshot row).Writes [] := by
      rw [requireRowWidth, if_pos (hrows row hmem)]
      exact .pure
    exact hwidth.bind ((hline row _).bind (.writeAll terminator))
  rw [table, List.flatMap_cons, List.append_assoc, List.flatMap_map]
  exact htabular.bind ((hline snapshot.columns Column.name).bind
    ((Writes.writeAll terminator).bind (.each snapshot.rows hrow)))

/-! ## Fields as the writers escape them -/

theorem tsvField_eq (field : Text) : tsvField field = field.flatMap escapeTab := by
  have hchar : ∀ c, escapedTsvChar c = escapeTab c := by
    intro c
    unfold escapedTsvChar escapeTab
    split <;> simp_all
  rw [tsvField, funext hchar]

theorem doubledQuotes_eq (field : Text) :
    doubledQuotes field = match field.dropWhile (· != '"') with
      | [] => field
      | _ :: rest => field.takeWhile (· != '"') ++ '"' :: '"' :: doubledQuotes rest := by
  induction field with
  | nil => rfl
  | cons c field ih =>
      rw [doubledQuotes_cons]
      by_cases hc : c = '"'
      · subst hc
        rfl
      · rw [ih]
        simp only [List.dropWhile_cons, List.takeWhile_cons]
        simp only [hc, bne_iff_ne, ne_eq, not_false_eq_true, if_true, beq_iff_eq, if_false]
        cases field.dropWhile (· != '"') <;> rfl

theorem writes_doubled (field : Text) : (writeDoubled field).Writes (doubledQuotes field) := by
  fun_induction writeDoubled field with
  | case1 remainder h =>
      rw [doubledQuotes_eq, h]
      exact .writeAll remainder
  | case2 remainder c rest h ih =>
      rw [doubledQuotes_eq, h]
      exact (Writes.writeAll _).bind ((Writes.writeAll ['"', '"']).bind ih)

theorem any_bytes_eq (field : Text) :
    ((bytes field).any fun byte =>
      byte == ','.toUInt8 || byte == '"'.toUInt8 || byte == '\r'.toUInt8 || byte == '\n'.toUInt8) =
      field.any isCsvMark := by
  rw [Bool.eq_iff_iff, List.any_eq_true, List.any_eq_true]
  simp only [isCsvMark, Bool.or_eq_true, beq_iff_eq, and_or_left, exists_or, exists_eq_right]
  rw [mem_bytes (by decide), mem_bytes (by decide), mem_bytes (by decide), mem_bytes (by decide)]

theorem writes_csvField (field : Text) : (writeCsvField field).Writes (csvField field) := by
  unfold writeCsvField csvField
  simp only [any_bytes_eq]
  cases field.any isCsvMark with
  | false => exact .writeAll field
  | true => exact (Writes.writeAll ['"']).bind ((writes_doubled field).bind (.writeAll ['"']))

theorem writes_csv {snapshot : ResultSnapshot φ ν} (hcolumns : snapshot.columns ≠ [])
    (hrows : snapshot.Rectangular) :
    (writeCsv crates snapshot).Writes ((table crates snapshot).flatMap csvRecord) :=
  writes_table crates hcolumns hrows writes_csvField

theorem writes_tsv {snapshot : ResultSnapshot φ ν} (hcolumns : snapshot.columns ≠ [])
    (hrows : snapshot.Rectangular) :
    (writeTsv crates snapshot).Writes ((table crates snapshot).flatMap copyLine) :=
  writes_table crates hcolumns hrows fun field => .writeAll (tsvField field)

/-! ## The table comes back -/

/-- The result with only these rows. -/
def ResultSnapshot.select (snapshot : ResultSnapshot φ ν) (rowIndices : List Nat) :
    ResultSnapshot φ ν :=
  { snapshot with rows := rowIndices.filterMap (snapshot.rows[·]?) }

theorem copyLine_eq : copyLine = fun fields => tsvLine fields ++ ['\n'] := by
  funext fields
  rw [copyLine, tsvLine, List.map_congr_left fun field _ => tsvField_eq field]

theorem copyRows_eq {result : ResultSnapshot φ ν} (hcolumns : result.columns ≠ [])
    (hrows : result.Rectangular) {rowIndices : List Nat}
    (hindices : ∀ i ∈ rowIndices, i < result.rows.length) :
    copyRows crates result rowIndices =
      some ((table crates (result.select rowIndices)).flatMap copyLine) := by
  have hlines : (rowIndices.mapM fun rowIndex => do
      let row ← result.rows[rowIndex]?
      if row.length ≠ result.columns.length then none
      else some (copyLine (row.map (clipboardScalar crates)))) =
      some ((rowIndices.filterMap (result.rows[·]?)).map fun row =>
        copyLine (row.map (clipboardScalar crates))) := by
    induction rowIndices with
    | nil => rfl
    | cons i rowIndices ih =>
        have hrow := List.getElem?_eq_getElem (hindices i List.mem_cons_self)
        have hwidth := hrows _ (List.mem_of_getElem? hrow)
        rw [List.mapM_cons, ih fun j hj => hindices j (List.mem_cons_of_mem i hj),
          List.filterMap_cons_some hrow, List.map_cons, hrow]
        simp [hwidth]
  rw [copyRows, if_neg (by simpa using hcolumns), hlines, table, List.flatMap_cons,
    List.flatMap_map]
  rfl

theorem filterMap_range_getElem? {β : Type} (xs : List β) :
    (List.range xs.length).filterMap (xs[·]?) = xs := by
  induction xs with
  | nil => rfl
  | cons x xs ih =>
      have hfirst : (x :: xs)[0]? = some x := rfl
      rw [List.length_cons, List.range_succ_eq_map, List.filterMap_cons, hfirst, List.filterMap_map]
      exact congrArg (x :: ·) ih

theorem copyAllRows_eq {result : ResultSnapshot φ ν} (hcolumns : result.columns ≠ [])
    (hrows : result.Rectangular) :
    copyAllRows crates result = some ((table crates result).flatMap copyLine) := by
  rw [copyAllRows, copyRows_eq crates hcolumns hrows (by simp), ResultSnapshot.select,
    filterMap_range_getElem?]

/-- A tabular export is read back as the table of its result; the clipboard has the bytes of the
TSV export, and of a selection those of the result with only the selected rows, in their order. -/
structure TabularLossless (snapshot : ResultSnapshot φ ν) : Prop where
  csv : ∃ csv, writeExport crates snapshot .csv = .ok csv ∧
    (decodeUtf8 csv).bind readCsv = some (table crates snapshot)
  tsv : ∃ tsv, writeExport crates snapshot .tsv = .ok tsv ∧
    (decodeUtf8 tsv).bind readTsv = some (table crates snapshot) ∧
    (copyAllRows crates snapshot).map bytes = some tsv
  selection : ∀ selectedRows : Finset Nat, selectedRows ≠ ∅ →
    (∀ i ∈ selectedRows, i < snapshot.rows.length) →
    copySelectedRows crates snapshot selectedRows =
      copyAllRows crates (snapshot.select (selectedRows.sort (· ≤ ·)))

theorem tabular_exports_lossless (snapshot : ResultSnapshot φ ν) (hcolumns : snapshot.columns ≠ [])
    (hrows : snapshot.Rectangular) : TabularLossless crates snapshot := by
  have hne := table_ne_nil crates hcolumns hrows
  refine ⟨⟨_, @writeExport_of_writes _ _ crates _ .csv _ (writes_csv crates hcolumns hrows), ?_⟩,
    ⟨_, @writeExport_of_writes _ _ crates _ .tsv _ (writes_tsv crates hcolumns hrows), ?_, ?_⟩,
    ?_⟩
  · rw [decodeUtf8_bytes, Option.bind_some, readCsv_csvRecords _ hne]
  · rw [decodeUtf8_bytes, Option.bind_some, copyLine_eq, readTsv_tsvLines _ hne]
  · rw [copyAllRows_eq crates hcolumns hrows, Option.map_some]
  · intro selectedRows hselected hbound
    have hsort : ∀ i ∈ selectedRows.sort (· ≤ ·), i < snapshot.rows.length :=
      fun i hi => hbound i ((Finset.mem_sort _).mp hi)
    have hcolumns' : (snapshot.select (selectedRows.sort (· ≤ ·))).columns ≠ [] := hcolumns
    have hrect : (snapshot.select (selectedRows.sort (· ≤ ·))).Rectangular := by
      intro row hrow
      obtain ⟨i, -, hi⟩ := List.mem_filterMap.mp hrow
      exact hrows row (List.mem_of_getElem? hi)
    rw [copySelectedRows, if_neg hselected, copyRows_eq crates hcolumns hrows hsort,
      copyAllRows_eq crates hcolumns' hrect]

/-- Crates without a parser that accepts anything, over no numbers. -/
def bareCrates : Crates Empty Empty where
  floatToString := nofun
  numberToString := nofun
  normalizeDecimal _ := none
  parseFromRfc3339 _ := none
  parseNaiveDateTime _ _ := none
  parseNaiveDate _ _ := none
  parseNaiveTime _ _ := none
  fromTimestampMillis millis := if millis = 0 then some "1970-01-01T00:00:00.000Z".toList else none

/-- One column, whose cell is empty in one row and full of marks in the other. -/
def oneColumnResult : ResultSnapshot Empty Empty where
  provenance := ⟨1, ['p'], 1, 1, .redis, 0, 0⟩
  columns := [⟨['v'], "text".toList⟩]
  rows := [[.null], [.text ['"', ',', '\\', '\t', '\r', '\n', '…']]]
  affectedRows := 0
  lastInsertId := none
  truncated := false
  notices := [.redisTransientFrameAllocation]
  retainedBytes := 18
  transientAllocation := .redisWholeRespFrame
  cellTruncations := []

theorem tabular_exports_lossless_one_column : TabularLossless bareCrates oneColumnResult :=
  tabular_exports_lossless bareCrates oneColumnResult (List.cons_ne_nil _ _) (by
    intro row hrow
    rcases List.mem_cons.mp hrow with rfl | hrow
    · rfl
    · rcases List.mem_singleton.mp hrow with rfl
      rfl)

end Dbotter.Results
