import Dbotter.Results.JsonDocument
import Dbotter.Results.RetainedRows
import Dbotter.Results.Tabular

/-!
What `ResultSnapshot::retain` promises: the caps, the records of what was cut, and the flag that
says whether anything is missing.
-/

namespace Dbotter.Results
open Dbotter.Utf8 Dbotter.Numerals Dbotter.Drivers Encode

variable {φ : Type} (floats : Floats φ)

/-! ## Places of records -/

theorem mem_rowCuts {rowIndex columnIndex : Nat} {cells : List (Cell φ (Number φ))}
    {cut : CellTruncation} :
    cut ∈ rowCuts rowIndex columnIndex cells ↔
      ∃ j cell, cells[j]? = some cell ∧ cutOf rowIndex (columnIndex + j) cell = some cut := by
  induction cells generalizing columnIndex with
  | nil => simp [rowCuts]
  | cons first cells ih =>
      rw [rowCuts, List.mem_append, ih, Option.mem_toList]
      constructor
      · rintro (hfirst | ⟨j, cell, hj, hcut⟩)
        · exact ⟨0, first, rfl, hfirst⟩
        · refine ⟨j + 1, cell, hj, ?_⟩
          rwa [← Nat.add_assoc, Nat.add_right_comm]
      · rintro ⟨j, cell, hj, hcut⟩
        cases j with
        | zero =>
            cases hj
            exact .inl hcut
        | succ j =>
            rw [← Nat.add_assoc, Nat.add_right_comm] at hcut
            exact .inr ⟨j, cell, hj, hcut⟩

theorem mem_tableCuts {rowIndex : Nat} {rows : List (List (Cell φ (Number φ)))}
    {cut : CellTruncation} :
    cut ∈ tableCuts rowIndex rows ↔
      ∃ i row, rows[i]? = some row ∧ cut ∈ rowCuts (rowIndex + i) 0 row := by
  induction rows generalizing rowIndex with
  | nil => simp [tableCuts]
  | cons first rows ih =>
      rw [tableCuts, List.mem_append, ih]
      constructor
      · rintro (hfirst | ⟨i, row, hi, hcut⟩)
        · exact ⟨0, first, rfl, hfirst⟩
        · refine ⟨i + 1, row, hi, ?_⟩
          rwa [← Nat.add_assoc, Nat.add_right_comm]
      · rintro ⟨i, row, hi, hcut⟩
        cases i with
        | zero =>
            cases hi
            exact .inl hcut
        | succ i =>
            rw [← Nat.add_assoc, Nat.add_right_comm] at hcut
            exact .inr ⟨i, row, hi, hcut⟩

/-- The records are those of the cells that have one, at their places. -/
theorem mem_cuts {rows : List (List (Cell φ (Number φ)))} {cut : CellTruncation} :
    cut ∈ tableCuts 0 rows ↔ ∃ row cell, rows[cut.rowIndex]? = some row ∧
      row[cut.columnIndex]? = some cell ∧
      cutOf cut.rowIndex cut.columnIndex cell = some cut := by
  rw [mem_tableCuts]
  constructor
  · rintro ⟨i, row, hi, hmem⟩
    obtain ⟨j, cell, hj, hcut⟩ := mem_rowCuts.mp hmem
    rw [Nat.zero_add, Nat.zero_add] at hcut
    obtain ⟨hrow, hcolumn⟩ := cutOf_place hcut
    subst hrow hcolumn
    exact ⟨row, cell, hi, hj, hcut⟩
  · rintro ⟨row, cell, hi, hj, hcut⟩
    refine ⟨_, row, hi, mem_rowCuts.mpr ⟨_, cell, hj, ?_⟩⟩
    rwa [Nat.zero_add, Nat.zero_add]

/-- The order of the places: by rows, and in a row by columns. -/
def CellTruncation.Before (cut later : CellTruncation) : Prop :=
  cut.rowIndex < later.rowIndex ∨
    cut.rowIndex = later.rowIndex ∧ cut.columnIndex < later.columnIndex

theorem rowCuts_place {rowIndex columnIndex : Nat} {cells : List (Cell φ (Number φ))}
    {cut : CellTruncation} (h : cut ∈ rowCuts rowIndex columnIndex cells) :
    cut.rowIndex = rowIndex ∧ columnIndex ≤ cut.columnIndex := by
  obtain ⟨j, cell, -, hcut⟩ := mem_rowCuts.mp h
  obtain ⟨hrow, hcolumn⟩ := cutOf_place hcut
  exact ⟨hrow, by omega⟩

theorem rowCuts_ordered (rowIndex columnIndex : Nat) (cells : List (Cell φ (Number φ))) :
    (rowCuts rowIndex columnIndex cells).Pairwise CellTruncation.Before := by
  induction cells generalizing columnIndex with
  | nil => exact .nil
  | cons cell cells ih =>
      rw [rowCuts]
      cases hcell : cutOf rowIndex columnIndex cell with
      | none => exact ih _
      | some cut =>
          obtain ⟨hrow, hcolumn⟩ := cutOf_place hcell
          refine List.pairwise_cons.mpr ⟨fun later hlater => .inr ?_, ih _⟩
          obtain ⟨hrow', hcolumn'⟩ := rowCuts_place hlater
          omega

theorem tableCuts_ordered (rowIndex : Nat) (rows : List (List (Cell φ (Number φ)))) :
    (tableCuts rowIndex rows).Pairwise CellTruncation.Before := by
  induction rows generalizing rowIndex with
  | nil => exact .nil
  | cons row rows ih =>
      refine List.pairwise_append.mpr ⟨rowCuts_ordered _ _ row, ih _, ?_⟩
      intro cut hcut later hlater
      obtain ⟨i, row', -, hmem⟩ := mem_tableCuts.mp hlater
      have hrow := (rowCuts_place hcut).1
      have hrow' := (rowCuts_place hmem).1
      exact .inl (by omega)

/-! ## The width of rows -/

section
variable {ν : Type} (crates : Crates φ ν)

/-- No encoder finds a row of another width in a rectangular result. -/
theorem encoded_ne_invalidRowWidth {snapshot : ResultSnapshot φ ν} (hrows : snapshot.Rectangular)
    (format : ExportFormat) :
    (encoded crates snapshot format).result ≠ .error .invalidRowWidth := by
  have htabular : snapshot.columns = [] → ∀ rest : Unit → Encode Unit,
      (requireTabular snapshot >>= rest).result ≠ .error .invalidRowWidth := by
    intro hnone rest
    rw [requireTabular, hnone]
    intro h
    cases h
  cases format with
  | csv =>
      by_cases hnone : snapshot.columns = []
      · exact htabular hnone _
      · rw [encoded, (writes_csv crates hnone hrows).1]
        intro h
        cases h
  | tsv =>
      by_cases hnone : snapshot.columns = []
      · exact htabular hnone _
      · rw [encoded, (writes_tsv crates hnone hrows).1]
        intro h
        cases h
  | json =>
      cases hcompleted : crates.fromTimestampMillis snapshot.provenance.completedAtUnixMs with
      | none =>
          rw [encoded, writeJson, hcompleted]
          intro h
          cases h
      | some completedAt =>
          rw [encoded, (emits_snapshot crates hrows hcompleted).1]
          intro h
          cases h

end

/-! ## Rows of the snapshot -/

section
variable {floats} {result : QueryResult φ (Number φ)} {policy : ResultRetentionPolicy}
  {snapshot : ResultSnapshot φ (Number φ)} {built : List (List (RetainedCell φ))}

namespace Retained

variable (h : Retained floats result policy snapshot built)

include h

theorem row {i : Nat} {row : List (Cell φ (Number φ))} (hi : snapshot.rows[i]? = some row) :
    ∃ kept sourceRow, row = kept.map (·.cell) ∧ result.rows[i]? = some sourceRow ∧
      kept.length = snapshot.columns.length ∧ built[i]? = some kept ∧
      Built floats policy i 0 sourceRow kept := by
  rw [h.rows, List.getElem?_map] at hi
  obtain ⟨kept, hkept, rfl⟩ := Option.map_eq_some_iff.mp hi
  obtain ⟨sourceRow, hsource, hbuilt, hwidth⟩ := h.made.source floats hkept
  rw [Nat.zero_add] at hbuilt
  rw [List.getElem?_take] at hsource
  split at hsource
  · exact ⟨kept, sourceRow, rfl, hsource, hwidth, hkept, hbuilt⟩
  · cases hsource

theorem cell {i j : Nat} {row : List (Cell φ (Number φ))} {cell : Cell φ (Number φ)}
    (hi : snapshot.rows[i]? = some row) (hj : row[j]? = some cell) :
    ∃ sourceRow source cap retained, result.rows[i]? = some sourceRow ∧
      sourceRow[j]? = some source ∧ cap ≤ policy.cellBytes ∧
      retainCell floats source cap policy.maxDepth i j = some retained ∧
      retained.cell = cell := by
  obtain ⟨kept, sourceRow, rfl, hsource, -, -, hbuilt⟩ := h.row hi
  rw [List.getElem?_map] at hj
  obtain ⟨retained, hretained, rfl⟩ := Option.map_eq_some_iff.mp hj
  obtain ⟨source, cap, hcell, hcap, hmade⟩ := hbuilt.source floats hretained
  rw [Nat.zero_add] at hmade
  exact ⟨sourceRow, source, cap, retained, hsource, hcell, hcap, hmade, rfl⟩

theorem rectangular : snapshot.Rectangular := by
  intro row hrow
  obtain ⟨i, hi⟩ := List.mem_iff_getElem?.mp hrow
  obtain ⟨kept, -, rfl, -, hwidth, -, -⟩ := h.row hi
  rw [List.length_map, hwidth]

end Retained

/-! ## The caps and the records -/

variable (floats)

/-- What holds of every retained result. -/
structure Bounded (result : QueryResult φ (Number φ)) (policy : ResultRetentionPolicy)
    (snapshot : ResultSnapshot φ (Number φ)) : Prop where
  columns : snapshot.columns.length ≤ maxResultColumns
  rows : snapshot.rows.length ≤ policy.rowLimit
  rectangular : snapshot.Rectangular
  exports : ∀ (crates : Crates φ (Number φ)) (format : ExportFormat),
    (encoded crates snapshot format).result ≠ .error .invalidRowWidth
  bytes : snapshot.retainedBytes =
    columnsBytes snapshot.columns + cellsBytes floats snapshot.rows.flatten
  fits : snapshot.retainedBytes ≤ maxResultBytes
  cellBytes : ∀ row ∈ snapshot.rows, ∀ cell ∈ row,
    IsScalar cell ∨ scalarRetainedBytes floats cell ≤ policy.cellBytes
  cells : snapshot.rows.flatten.length ≤ policy.cellLimit
  boundaries : ∀ {i j : Nat} {row : List (Cell φ (Number φ))} {cell : Cell φ (Number φ)},
    snapshot.rows[i]? = some row → row[j]? = some cell →
    ∃ sourceRow source, result.rows[i]? = some sourceRow ∧ sourceRow[j]? = some source ∧
      ∀ preview originalLen,
        cell = .textPreview preview originalLen ∨ cell = .jsonPreview preview originalLen →
        sliceTo (previewSource floats policy.maxDepth source) (byteLen preview) = some preview
  listed : ∀ cut, cut ∈ snapshot.cellTruncations ↔
    ∃ row cell, snapshot.rows[cut.rowIndex]? = some row ∧ row[cut.columnIndex]? = some cell ∧
      cutOf cut.rowIndex cut.columnIndex cell = some cut
  ordered : snapshot.cellTruncations.Pairwise CellTruncation.Before

/-- Previews and short byte strings are the cells that have a record at their place. -/
theorem Bounded.isCut_iff_listed (h : Bounded floats result policy snapshot) {i j : Nat}
    {row : List (Cell φ (Number φ))} {cell : Cell φ (Number φ)}
    (hi : snapshot.rows[i]? = some row) (hj : row[j]? = some cell) :
    IsCut cell ↔ ∃ cut ∈ snapshot.cellTruncations, cut.rowIndex = i ∧ cut.columnIndex = j := by
  rw [isCut_iff i j, Option.isSome_iff_exists]
  constructor
  · rintro ⟨cut, hcut⟩
    obtain ⟨rfl, rfl⟩ := cutOf_place hcut
    exact ⟨cut, (h.listed cut).mpr ⟨row, cell, hi, hj, hcut⟩, rfl, rfl⟩
  · rintro ⟨cut, hmem, rfl, rfl⟩
    obtain ⟨row', cell', hi', hj', hcut⟩ := (h.listed cut).mp hmem
    rw [hi] at hi'
    cases hi'
    rw [hj] at hj'
    cases hj'
    exact ⟨cut, hcut⟩

theorem Retained.bounded (h : Retained floats result policy snapshot built) :
    Bounded floats result policy snapshot where
  columns := h.columns.length_le.trans (List.length_take_le _ _)
  rows := by
    have hle := h.made.length_le
    rw [List.length_take] at hle
    rw [h.rows, List.length_map]
    omega
  rectangular := h.rectangular
  exports crates := encoded_ne_invalidRowWidth crates h.rectangular
  bytes := h.bytes
  fits := h.fits
  cellBytes row hrow cell hcell := by
    obtain ⟨i, hi⟩ := List.mem_iff_getElem?.mp hrow
    obtain ⟨j, hj⟩ := List.mem_iff_getElem?.mp hcell
    obtain ⟨-, source, cap, retained, -, -, hcap, hmade, rfl⟩ := h.cell hi hj
    have hfrom := retainCell_from floats hmade
    exact hfrom.capped.imp_right fun hle => hfrom.bytes ▸ hle.trans hcap
  cells := by
    have hsum : snapshot.rows.flatten.length = snapshot.rows.length * snapshot.columns.length := by
      rw [List.length_flatten]
      have hconst : snapshot.rows.map List.length =
          List.replicate snapshot.rows.length snapshot.columns.length :=
        List.eq_replicate_iff.mpr ⟨List.length_map _, fun n hn => by
          obtain ⟨row, hrow, rfl⟩ := List.mem_map.mp hn
          exact h.rectangular row hrow⟩
      rw [hconst, List.sum_replicate_nat]
    rw [hsum, h.rows, List.length_map]
    exact h.room
  boundaries hi hj := by
    obtain ⟨sourceRow, source, cap, retained, hsource, hcell, -, hmade, rfl⟩ := h.cell hi hj
    exact ⟨sourceRow, source, hsource, hcell, (retainCell_from floats hmade).boundary⟩
  listed cut := by rw [h.cuts, mem_cuts]
  ordered := h.cuts ▸ tableCuts_ordered 0 snapshot.rows

end

theorem retain_bounded (result : QueryResult φ (Number φ)) (provenance : ResultProvenance)
    (policy : ResultRetentionPolicy) :
    Bounded floats result policy (retain floats result provenance policy) := by
  obtain ⟨built, h⟩ := retain_retained floats result provenance policy
  exact h.bounded floats

/-! ## The flag -/

/-- The row is made of the first cells of the source row, each in its place. -/
def RowMade (policy : ResultRetentionPolicy) (i : Nat)
    (sourceRow row : List (Cell φ (Number φ))) : Prop :=
  ∀ (j : Nat) (cell : Cell φ (Number φ)), row[j]? = some cell → ∃ source cap retained,
    sourceRow[j]? = some source ∧ cap ≤ policy.cellBytes ∧
      retainCell floats source cap policy.maxDepth i j = some retained ∧ retained.cell = cell

/-- The flag is not set exactly if nothing is missing, and every row is made of the source row at
its index. -/
structure Honest (result : QueryResult φ (Number φ)) (policy : ResultRetentionPolicy)
    (snapshot : ResultSnapshot φ (Number φ)) : Prop where
  exact_flag : snapshot.truncated = false ↔
    result.truncated = false ∧ (∀ row ∈ result.rows, ∀ cell ∈ row, ¬ IsCut cell) ∧
      snapshot.columns = result.columns ∧ snapshot.rows = result.rows
  made : ∀ (i : Nat) (row : List (Cell φ (Number φ))), snapshot.rows[i]? = some row →
    ∃ sourceRow, result.rows[i]? = some sourceRow ∧ RowMade floats policy i sourceRow row

section
variable {floats} {result : QueryResult φ (Number φ)} {policy : ResultRetentionPolicy}
  {snapshot : ResultSnapshot φ (Number φ)} {built : List (List (RetainedCell φ))}

/-- No record, and no cell that should have one. -/
theorem Bounded.cuts_eq_nil_iff (h : Bounded floats result policy snapshot) :
    snapshot.cellTruncations = [] ↔ ∀ row ∈ snapshot.rows, ∀ cell ∈ row, ¬ IsCut cell := by
  constructor
  · intro hnone row hrow cell hcell hcut
    obtain ⟨i, hi⟩ := List.mem_iff_getElem?.mp hrow
    obtain ⟨j, hj⟩ := List.mem_iff_getElem?.mp hcell
    obtain ⟨cut, hmem, -⟩ := (h.isCut_iff_listed floats hi hj).mp hcut
    rw [hnone] at hmem
    cases hmem
  · intro hwhole
    refine List.eq_nil_iff_forall_not_mem.mpr fun cut hmem => ?_
    obtain ⟨row, cell, hi, hj, hcut⟩ := (h.listed cut).mp hmem
    have hsome : (cutOf cut.rowIndex cut.columnIndex cell).isSome = true := by rw [hcut]; rfl
    exact hwhole row (List.mem_of_getElem? hi) cell (List.mem_of_getElem? hj)
      ((isCut_iff _ _ cell).mpr hsome)

theorem Retained.honest (h : Retained floats result policy snapshot built)
    (hdeclares : ∀ row ∈ result.rows, ∀ cell ∈ row, DeclaresLength cell) :
    Honest floats result policy snapshot where
  exact_flag := by
    have hcuts := (h.bounded floats).cuts_eq_nil_iff
    rw [h.truncated]
    constructor
    · rintro ⟨hresult, hcolumns, hall, hnone, hwidths⟩
      have hsameColumns : snapshot.columns = result.columns :=
        (h.columns.trans (List.take_prefix _ _)).eq_of_length hcolumns
      have hlimit := h.made.length_le
      rw [List.length_take, hall] at hlimit
      have hmade := h.made
      rw [List.take_of_length_le (by omega)] at hmade
      have hrecords : built.flatMap recordsOf = [] := by
        rw [hmade.cuts, ← h.rows, ← h.cuts, hnone]
      have hsameRows : snapshot.rows = result.rows := by
        rw [h.rows, hmade.same floats hdeclares hrecords hwidths, hall, List.take_length]
      exact ⟨hresult, hsameRows ▸ hcuts.mp hnone, hsameColumns, hsameRows⟩
    · rintro ⟨hresult, hwhole, hcolumns, hrows⟩
      have hlength := congrArg List.length h.rows
      rw [hrows, List.length_map] at hlength
      refine ⟨hresult, congrArg List.length hcolumns, hlength.symm, hcuts.mpr (hrows ▸ hwhole), ?_⟩
      intro row hrow
      exact (h.rectangular row (hrows ▸ hrow)).le
  made i row hi := by
    obtain ⟨-, sourceRow, -, hsource, -⟩ := h.row hi
    refine ⟨sourceRow, hsource, fun j cell hj => ?_⟩
    obtain ⟨sourceRow', source, cap, retained, hsource', hcell, hmade⟩ := h.cell hi hj
    rw [hsource] at hsource'
    cases hsource'
    exact ⟨source, cap, retained, hcell, hmade⟩

end

theorem retain_honest (result : QueryResult φ (Number φ)) (provenance : ResultProvenance)
    (policy : ResultRetentionPolicy)
    (hdeclares : ∀ row ∈ result.rows, ∀ cell ∈ row, DeclaresLength cell) :
    Honest floats result policy (retain floats result provenance policy) := by
  obtain ⟨built, h⟩ := retain_retained floats result provenance policy
  exact h.honest hdeclares

/-- A row of a whole cell and a preview, and a row without cells. -/
def raggedResult : QueryResult Empty (Number Empty) where
  columns := [⟨['a'], ['t']⟩, ⟨['b'], ['t']⟩]
  rows := [[.bytes [255] 1, .textPreview ['x'] 3], []]
  affectedRows := 0
  lastInsertId := none
  elapsedMs := 0
  truncated := false
  backendNoticesPresent := false

def raggedProvenance : ResultProvenance := ⟨1, ['p'], 1, 1, .mySql, 0, 0⟩

theorem retain_honest_ragged : Honest noFloats raggedResult (.mysql 5)
    (retain noFloats raggedResult raggedProvenance (.mysql 5)) := by
  refine retain_honest noFloats raggedResult raggedProvenance (.mysql 5) ?_
  simp [raggedResult, DeclaresLength]

/-- The row with the preview is kept, the row without cells is not. -/
example : (retain noFloats raggedResult raggedProvenance (.mysql 5)).rows.length = 1 ∧
    (retain noFloats raggedResult raggedProvenance (.mysql 5)).truncated = true := by decide +kernel

end Dbotter.Results
