import Dbotter.Results.RetainedCells

/-!
What `ResultSnapshot::retain` keeps.

The rows of a snapshot are made from the first rows of the result, cell by cell. A row that does
not fit is taken back as a whole, with its bytes, its cells and its records.
-/

namespace Dbotter.Results
open Dbotter.Utf8 Dbotter.Numerals Dbotter.Drivers

variable {φ : Type} (floats : Floats φ)

/-! ## Columns -/

def columnBytes (column : Column) : Nat := byteLen column.name + byteLen column.typeName

def columnsBytes (columns : List Column) : Nat := (columns.map columnBytes).sum

theorem columnsBytes_append (columns columns' : List Column) :
    columnsBytes (columns ++ columns') = columnsBytes columns + columnsBytes columns' := by
  rw [columnsBytes, List.map_append, List.sum_append, columnsBytes, columnsBytes]

theorem saturatingAdd_le {a b n : Nat} (h : saturatingAdd a b ≤ n) (hn : n < usizeMax) :
    saturatingAdd a b = a + b ∧ a + b ≤ n := by
  unfold saturatingAdd at h ⊢
  omega

/-- Columns are kept from the front, with their bytes. -/
theorem retainColumns_kept (columns : List Column) (s : RetainedColumns)
    (hbytes : s.retainedBytes = columnsBytes s.columns) (hle : s.retainedBytes ≤ maxResultBytes) :
    ∃ kept, kept <+: columns ∧ (retainColumns columns s).columns = s.columns ++ kept ∧
      (retainColumns columns s).retainedBytes = columnsBytes (s.columns ++ kept) ∧
      (retainColumns columns s).retainedBytes ≤ maxResultBytes := by
  induction columns generalizing s with
  | nil => exact ⟨[], List.prefix_rfl, by simp [retainColumns], by simpa [retainColumns], hle⟩
  | cons column columns ih =>
      rw [retainColumns]
      split
      · exact ⟨[], List.nil_prefix, by simp, by simpa using hbytes, hle⟩
      · next hfits =>
        rw [not_or, not_lt, not_lt] at hfits
        obtain ⟨hcell, hsum⟩ := hfits
        have hcolumn : saturatingAdd (byteLen column.name) (byteLen column.typeName) =
            columnBytes column := (saturatingAdd_le hcell (by decide)).1
        obtain ⟨-, hroom⟩ := saturatingAdd_le hsum (by decide)
        rw [hcolumn] at hroom ⊢
        have hadded : s.retainedBytes + columnBytes column = columnsBytes (s.columns ++ [column]) := by
          rw [columnsBytes_append, ← hbytes]
          simp [columnsBytes]
        obtain ⟨kept, hkept, hcolumns, htotal, hmax⟩ := ih
          { s with
            columns := s.columns ++ [column]
            retainedBytes := s.retainedBytes + columnBytes column } hadded hroom
        refine ⟨column :: kept, List.cons_prefix_cons.mpr ⟨rfl, hkept⟩, ?_, ?_, hmax⟩
        · simpa using hcolumns
        · simpa using htotal

/-! ## Cells of a row -/

/-- The cells `kept` are made of the first of `cells`, from `columnIndex` on. -/
inductive Built (policy : ResultRetentionPolicy) (rowIndex : Nat) :
    Nat → List (Cell φ (Number φ)) → List (RetainedCell φ) → Prop
  | nil {columnIndex cells} : Built policy rowIndex columnIndex cells []
  | cons {columnIndex cell cells retained kept} (cap : Nat) : cap ≤ policy.cellBytes →
      retainCell floats cell cap policy.maxDepth rowIndex columnIndex = some retained →
      Built policy rowIndex (columnIndex + 1) cells kept →
      Built policy rowIndex columnIndex (cell :: cells) (retained :: kept)

def retainedTotal (kept : List (RetainedCell φ)) : Nat := (kept.map (·.retainedBytes)).sum

def recordsOf (kept : List (RetainedCell φ)) : List CellTruncation := kept.filterMap (·.truncation)

/-- What several retained cells change. -/
def Retaining.takeAll (s : Retaining φ) (kept : List (RetainedCell φ)) : Retaining φ :=
  kept.foldl Retaining.take s

section
variable {policy : ResultRetentionPolicy} {rowIndex columnIndex : Nat}
  {cells : List (Cell φ (Number φ))} {kept : List (RetainedCell φ)} {s : Retaining φ}

theorem Built.length_le (h : Built floats policy rowIndex columnIndex cells kept) :
    kept.length ≤ cells.length := by
  induction h with
  | nil => exact Nat.zero_le _
  | cons _ _ _ _ ih => simpa using ih

theorem Built.mono {cells' : List (Cell φ (Number φ))}
    (h : Built floats policy rowIndex columnIndex cells kept) (hpre : cells <+: cells') :
    Built floats policy rowIndex columnIndex cells' kept := by
  obtain ⟨rest, rfl⟩ := hpre
  induction h with
  | nil => exact .nil
  | cons cap hcap hcell _ ih => exact .cons cap hcap hcell ih

/-- The fields after one more cell, which fits. -/
theorem take_fields (s : Retaining φ) (retained : RetainedCell φ)
    (hfits : s.retainedBytes + retained.retainedBytes ≤ maxResultBytes) :
    (s.take retained).rows = s.rows ∧
      (s.take retained).retainedBytes = s.retainedBytes + retained.retainedBytes ∧
      (s.take retained).retainedCells = s.retainedCells + 1 ∧
      (s.take retained).cellTruncations = s.cellTruncations ++ retained.truncation.toList ∧
      (s.take retained).truncated = (s.truncated || retained.truncation.isSome) := by
  have hsum : saturatingAdd s.retainedBytes retained.retainedBytes =
      s.retainedBytes + retained.retainedBytes := by
    have hmax : maxResultBytes ≤ usizeMax := by decide
    exact min_eq_left (hfits.trans hmax)
  obtain ⟨cell, n, truncation, depthTruncated⟩ := retained
  cases truncation <;> cases depthTruncated <;>
    simp_all [Retaining.take, Retaining.notify]

theorem takeAll_fields (kept : List (RetainedCell φ)) (s : Retaining φ)
    (hfits : s.retainedBytes + retainedTotal kept ≤ maxResultBytes) :
    (s.takeAll kept).rows = s.rows ∧
      (s.takeAll kept).retainedBytes = s.retainedBytes + retainedTotal kept ∧
      (s.takeAll kept).retainedCells = s.retainedCells + kept.length ∧
      (s.takeAll kept).cellTruncations = s.cellTruncations ++ recordsOf kept ∧
      (s.takeAll kept).truncated = (s.truncated || !(recordsOf kept).isEmpty) := by
  induction kept generalizing s with
  | nil => simp [Retaining.takeAll, retainedTotal, recordsOf]
  | cons retained kept ih =>
      have htotal : retainedTotal (retained :: kept) =
          retained.retainedBytes + retainedTotal kept := by
        rw [retainedTotal, List.map_cons, List.sum_cons, retainedTotal]
      rw [htotal] at hfits ⊢
      obtain ⟨hrows, hbytes, hcells, hcuts, htruncated⟩ := take_fields s retained (by omega)
      obtain ⟨hrows', hbytes', hcells', hcuts', htruncated'⟩ := ih (s.take retained) (by omega)
      refine ⟨hrows'.trans hrows, ?_, ?_, ?_, ?_⟩
      · show ((s.take retained).takeAll kept).retainedBytes = _
        rw [hbytes', hbytes]
        omega
      · show ((s.take retained).takeAll kept).retainedCells = _
        rw [hcells', hcells, List.length_cons]
        omega
      · show ((s.take retained).takeAll kept).cellTruncations = _
        rw [hcuts', hcuts, List.append_assoc]
        congr 1
        cases hcut : retained.truncation <;> simp [recordsOf, hcut]
      · show ((s.take retained).takeAll kept).truncated = _
        rw [htruncated', htruncated]
        cases hcut : retained.truncation <;> simp [recordsOf, hcut]

/-- What the loop over the cells of a row has done. -/
structure CellsKept (policy : ResultRetentionPolicy) (rowIndex columnIndex : Nat)
    (cells : List (Cell φ (Number φ))) (before after : RetainingRow φ)
    (kept : List (RetainedCell φ)) : Prop where
  built : Built floats policy rowIndex columnIndex cells kept
  retaining : after.retaining = before.retaining.takeAll kept
  fits : before.retaining.retainedBytes + retainedTotal kept ≤ maxResultBytes
  row : after.retainedRow = before.retainedRow ++ kept.map (·.cell)
  all : kept.length = cells.length →
    after.rowComplete = before.rowComplete ∧ after.dropRow = before.dropRow
  short : kept.length < cells.length → after.rowComplete = false

theorem retainCells_kept (cells : List (Cell φ (Number φ))) (row : RetainingRow φ)
    (hle : row.retaining.retainedBytes ≤ maxResultBytes) :
    ∃ kept, CellsKept floats policy rowIndex columnIndex cells row
      (retainCells floats policy rowIndex columnIndex cells row) kept := by
  induction cells generalizing row columnIndex with
  | nil => exact ⟨[], .nil, rfl, by simpa [retainedTotal], by simp [retainCells],
      fun _ => ⟨rfl, rfl⟩, nofun⟩
  | cons cell cells ih =>
      have hstop : ∀ after : RetainingRow φ, after.retaining = row.retaining →
          after.retainedRow = row.retainedRow → after.rowComplete = false →
          CellsKept floats policy rowIndex columnIndex (cell :: cells) row after [] := by
        intro after hretaining hrow hcomplete
        exact ⟨.nil, hretaining, by simpa [retainedTotal], by simpa using hrow, nofun,
          fun _ => hcomplete⟩
      rw [retainCells]
      split
      · exact ⟨[], hstop _ rfl rfl rfl⟩
      · cases hcell : retainCell floats cell
            (min policy.cellBytes (maxResultBytes - row.retaining.retainedBytes)) policy.maxDepth
            rowIndex columnIndex with
        | none => exact ⟨[], hstop _ rfl rfl rfl⟩
        | some retained =>
            dsimp only
            split
            · exact ⟨[], hstop _ rfl rfl rfl⟩
            · next hroom =>
              have hfits : row.retaining.retainedBytes + retained.retainedBytes ≤ maxResultBytes := by
                omega
              have hbytes := (take_fields row.retaining retained hfits).2.1
              obtain ⟨kept, hkept⟩ := @ih (columnIndex + 1)
                { row with
                  retaining := row.retaining.take retained
                  retainedRow := row.retainedRow ++ [retained.cell] } (by dsimp only; omega)
              have htotal : retainedTotal (retained :: kept) =
                  retained.retainedBytes + retainedTotal kept := by
                rw [retainedTotal, List.map_cons, List.sum_cons, retainedTotal]
              have hrest := hkept.fits
              dsimp only at hrest
              refine ⟨retained :: kept, .cons _ (Nat.min_le_left _ _) hcell hkept.built,
                hkept.retaining, by omega, ?_, ?_, ?_⟩
              · rw [hkept.row]
                simp
              · intro hall
                exact hkept.all (by simpa using hall)
              · intro hshort
                exact hkept.short (by simpa using hshort)

/-! ## One row -/

/-- A row that is taken back leaves only its flag. -/
structure RowDropped (before after : Retaining φ) : Prop where
  rows : after.rows = before.rows
  bytes : after.retainedBytes = before.retainedBytes
  cells : after.retainedCells = before.retainedCells
  cuts : after.cellTruncations = before.cellTruncations
  truncated : after.truncated = true

/-- A row that is kept has a cell for every column. -/
structure RowKept (policy : ResultRetentionPolicy) (columns : List Column)
    (sourceRow : List (Cell φ (Number φ))) (before after : Retaining φ)
    (kept : List (RetainedCell φ)) : Prop where
  built : Built floats policy before.rows.length 0 sourceRow kept
  width : kept.length = columns.length
  rows : after.rows = before.rows ++ [kept.map (·.cell)]
  bytes : after.retainedBytes = before.retainedBytes + retainedTotal kept
  fits : after.retainedBytes ≤ maxResultBytes
  cells : after.retainedCells = before.retainedCells + columns.length
  room : after.retainedCells ≤ policy.cellLimit
  cuts : after.cellTruncations = before.cellTruncations ++ recordsOf kept
  truncated : after.truncated = false ↔
    before.truncated = false ∧ recordsOf kept = [] ∧ sourceRow.length ≤ columns.length

variable {columns : List Column} {sourceRow : List (Cell φ (Number φ))}

theorem retainRow_cases (hbytes : s.retainedBytes ≤ maxResultBytes)
    (hcells : s.retainedCells ≤ policy.cellLimit) :
    (retainRow floats policy columns sourceRow s).2 = true ∧
        RowDropped s (retainRow floats policy columns sourceRow s).1 ∨
      (retainRow floats policy columns sourceRow s).2 = false ∧
        ∃ kept, RowKept floats policy columns sourceRow s
          (retainRow floats policy columns sourceRow s).1 kept := by
  unfold retainRow
  dsimp only
  generalize hallowed : min (min columns.length sourceRow.length)
    (policy.cellLimit - s.retainedCells) = allowedCells
  obtain ⟨kept, hkept⟩ := @retainCells_kept _ floats policy s.rows.length 0
    (sourceRow.take allowedCells) { retaining := s } hbytes
  generalize hrow : retainCells floats policy s.rows.length 0 (sourceRow.take allowedCells)
    { retaining := s } = row at hkept ⊢
  have hlength : (sourceRow.take allowedCells).length = allowedCells := by
    rw [List.length_take]
    omega
  have hle := hkept.built.length_le
  rw [hlength] at hle
  obtain ⟨hrows, htotal, hcount, hcuts, htruncated⟩ := takeAll_fields kept s hkept.fits
  rw [← hkept.retaining] at hrows htotal hcount hcuts htruncated
  have hwidth : row.retainedRow.length = kept.length := by
    rw [hkept.row]
    simp
  unfold closeRow
  dsimp only
  split
  · next hdrop =>
    refine .inl ⟨rfl, hrows, rfl, ?_, ?_, ?_⟩
    · show row.retaining.retainedCells - row.retainedRow.length = _
      omega
    · show row.retaining.cellTruncations.take _ = _
      rw [hcuts, List.take_left]
    · -- the loop has stopped early, or there are too few cells
      have hincomplete : row.rowComplete = false ∨ allowedCells < columns.length := by
        rcases Nat.lt_or_ge kept.length allowedCells with hlt | hge
        · exact .inl (hkept.short (by omega))
        · obtain ⟨-, hnodrop⟩ := hkept.all (by omega)
          rw [hnodrop] at hdrop
          simp at hdrop
          omega
      rcases hincomplete with hcomplete | hfew
      · simp [hcomplete]
      · simp [hfew]
  · next hkeep =>
    have hall : kept.length = columns.length := by
      simp at hkeep
      by_cases hnone : columns = []
      · subst hnone
        rw [List.length_nil] at hallowed ⊢
        omega
      · have hsame := not_not.mp (mt hkeep.2 hnone)
        omega
    obtain ⟨hcomplete, -⟩ := hkept.all (by omega)
    have hfull : allowedCells = columns.length := by omega
    refine .inr ⟨rfl, kept, hkept.built.mono floats (List.take_prefix _ _), hall, ?_, htotal, ?_,
      ?_, ?_, hcuts, ?_⟩
    · rw [hrows, hkept.row]
      simp
    · dsimp only
      rw [htotal]
      exact hkept.fits
    · dsimp only
      omega
    · dsimp only
      omega
    · dsimp only
      rw [htruncated, hcomplete, hfull]
      simp [and_assoc]

/-! ## All rows -/

/-- The rows `built` are made of the first of `sourceRows`, from `rowIndex` on. -/
inductive RowsBuilt (policy : ResultRetentionPolicy) (columns : List Column) :
    Nat → List (List (Cell φ (Number φ))) → List (List (RetainedCell φ)) → Prop
  | nil {rowIndex sourceRows} : RowsBuilt policy columns rowIndex sourceRows []
  | cons {rowIndex sourceRow sourceRows kept built} :
      Built floats policy rowIndex 0 sourceRow kept → kept.length = columns.length →
      RowsBuilt policy columns (rowIndex + 1) sourceRows built →
      RowsBuilt policy columns rowIndex (sourceRow :: sourceRows) (kept :: built)

/-- What the loop over the rows has done. -/
structure RowsKept (policy : ResultRetentionPolicy) (columns : List Column)
    (sourceRows : List (List (Cell φ (Number φ)))) (before after : Retaining φ)
    (built : List (List (RetainedCell φ))) : Prop where
  made : RowsBuilt floats policy columns before.rows.length sourceRows built
  rows : after.rows = before.rows ++ built.map (·.map (·.cell))
  bytes : after.retainedBytes = before.retainedBytes + (built.map retainedTotal).sum
  fits : after.retainedBytes ≤ maxResultBytes
  cells : after.retainedCells = before.retainedCells + built.length * columns.length
  room : after.retainedCells ≤ policy.cellLimit
  cuts : after.cellTruncations = before.cellTruncations ++ built.flatMap recordsOf
  truncated : after.truncated = false ↔
    before.truncated = false ∧ built.length = sourceRows.length ∧ built.flatMap recordsOf = [] ∧
      ∀ sourceRow ∈ sourceRows, sourceRow.length ≤ columns.length

end

section
variable {policy : ResultRetentionPolicy} {columns : List Column} {s : Retaining φ}
  {sourceRow : List (Cell φ (Number φ))} {sourceRows : List (List (Cell φ (Number φ)))}

/-- The loop has ended before this row. -/
theorem RowsKept.stop {after : Retaining φ} (h : RowDropped s after)
    (hbytes : s.retainedBytes ≤ maxResultBytes) (hcells : s.retainedCells ≤ policy.cellLimit) :
    RowsKept floats policy columns (sourceRow :: sourceRows) s after [] where
  made := .nil
  rows := by simpa using h.rows
  bytes := by simpa using h.bytes
  fits := h.bytes ▸ hbytes
  cells := by simpa using h.cells
  room := h.cells ▸ hcells
  cuts := by simpa using h.cuts
  truncated := by simp [h.truncated]

theorem RowsKept.next {middle after : Retaining φ} {kept : List (RetainedCell φ)}
    {built : List (List (RetainedCell φ))}
    (hrow : RowKept floats policy columns sourceRow s middle kept)
    (h : RowsKept floats policy columns sourceRows middle after built) :
    RowsKept floats policy columns (sourceRow :: sourceRows) s after (kept :: built) where
  made := .cons hrow.built hrow.width (by simpa [hrow.rows] using h.made)
  rows := by simp [h.rows, hrow.rows]
  bytes := by
    rw [h.bytes, hrow.bytes, List.map_cons, List.sum_cons]
    omega
  fits := h.fits
  cells := by
    rw [h.cells, hrow.cells, List.length_cons, Nat.succ_mul]
    omega
  room := h.room
  cuts := by rw [h.cuts, hrow.cuts, List.append_assoc, List.flatMap_cons]
  truncated := by
    rw [h.truncated, hrow.truncated, List.length_cons, List.length_cons, List.flatMap_cons,
      List.append_eq_nil_iff, List.forall_mem_cons, Nat.add_right_cancel_iff]
    constructor
    · rintro ⟨⟨hbefore, hrecords, hwidth⟩, hall, hothers, hwidths⟩
      exact ⟨hbefore, hall, ⟨hrecords, hothers⟩, hwidth, hwidths⟩
    · rintro ⟨hbefore, hall, ⟨hrecords, hothers⟩, hwidth, hwidths⟩
      exact ⟨⟨hbefore, hrecords, hwidth⟩, hall, hothers, hwidths⟩

theorem retainRows_kept (hbytes : s.retainedBytes ≤ maxResultBytes)
    (hcells : s.retainedCells ≤ policy.cellLimit) :
    ∃ built, RowsKept floats policy columns sourceRows s
      (retainRows floats policy columns sourceRows s) built := by
  induction sourceRows generalizing s with
  | nil =>
      exact ⟨[], .nil, by simp [retainRows], by simp [retainRows], hbytes, by simp [retainRows],
        hcells, by simp [retainRows], by simp [retainRows]⟩
  | cons sourceRow sourceRows ih =>
      rw [retainRows]
      split
      · have hdropped : ∀ {after : Retaining φ}, after.rows = s.rows →
            after.retainedBytes = s.retainedBytes → after.retainedCells = s.retainedCells →
            after.cellTruncations = s.cellTruncations → after.truncated = true →
            RowsKept floats policy columns (sourceRow :: sourceRows) s after [] :=
          fun hrows hb hc hcuts ht => .stop floats ⟨hrows, hb, hc, hcuts, ht⟩ hbytes hcells
        refine ⟨[], ?_⟩
        dsimp only
        split <;> split <;> exact hdropped rfl rfl rfl rfl rfl
      · dsimp only
        rcases @retainRow_cases _ floats policy s columns sourceRow hbytes hcells with
          ⟨hstop, hdropped⟩ | ⟨hgo, kept, hkept⟩
        · rw [if_pos hstop]
          exact ⟨[], .stop floats hdropped hbytes hcells⟩
        · rw [if_neg (by simp [hgo])]
          obtain ⟨built, hbuilt⟩ := ih hkept.fits hkept.room
          exact ⟨kept :: built, .next floats hkept hbuilt⟩

end

/-! ## What the cells are made of -/

/-- The records of the cells of a row, from `columnIndex` on. -/
def rowCuts (rowIndex : Nat) : Nat → List (Cell φ (Number φ)) → List CellTruncation
  | _, [] => []
  | columnIndex, cell :: cells =>
      (cutOf rowIndex columnIndex cell).toList ++ rowCuts rowIndex (columnIndex + 1) cells

/-- The records of all cells, row by row. -/
def tableCuts : Nat → List (List (Cell φ (Number φ))) → List CellTruncation
  | _, [] => []
  | rowIndex, row :: rows => rowCuts rowIndex 0 row ++ tableCuts (rowIndex + 1) rows

/-- The bytes of the cells. -/
def cellsBytes (cells : List (Cell φ (Number φ))) : Nat :=
  (cells.map (scalarRetainedBytes floats)).sum

theorem cellsBytes_append (cells cells' : List (Cell φ (Number φ))) :
    cellsBytes floats (cells ++ cells') = cellsBytes floats cells + cellsBytes floats cells' := by
  rw [cellsBytes, List.map_append, List.sum_append, cellsBytes, cellsBytes]

section
variable {policy : ResultRetentionPolicy} {rowIndex columnIndex : Nat}
  {cells : List (Cell φ (Number φ))} {kept : List (RetainedCell φ)}

theorem Built.cuts (h : Built floats policy rowIndex columnIndex cells kept) :
    recordsOf kept = rowCuts rowIndex columnIndex (kept.map (·.cell)) := by
  induction h with
  | nil => rfl
  | cons cap hcap hcell _ ih =>
      rw [List.map_cons, rowCuts, ← ih, ← (retainCell_from floats hcell).record]
      unfold recordsOf
      rw [List.filterMap_cons]
      split <;> simp_all

theorem Built.total (h : Built floats policy rowIndex columnIndex cells kept) :
    retainedTotal kept = cellsBytes floats (kept.map (·.cell)) := by
  induction h with
  | nil => rfl
  | cons cap hcap hcell _ ih =>
      unfold retainedTotal cellsBytes at ih ⊢
      rw [List.map_cons, List.sum_cons, ih, (retainCell_from floats hcell).bytes]
      rfl

/-- The cell at a place is made of the source cell at this place. -/
theorem Built.source (h : Built floats policy rowIndex columnIndex cells kept) {j : Nat}
    {retained : RetainedCell φ} (hj : kept[j]? = some retained) :
    ∃ source cap, cells[j]? = some source ∧ cap ≤ policy.cellBytes ∧
      retainCell floats source cap policy.maxDepth rowIndex (columnIndex + j) = some retained := by
  induction h generalizing j with
  | nil => cases hj
  | @cons columnIndex cell cells first kept cap hcap hcell _ ih =>
      cases j with
      | zero =>
          cases hj
          exact ⟨cell, cap, rfl, hcap, hcell⟩
      | succ j =>
          obtain ⟨source, cap', hsource, hcap', hretained⟩ := ih hj
          rw [Nat.add_right_comm, Nat.add_assoc] at hretained
          exact ⟨source, cap', hsource, hcap', hretained⟩

variable {columns : List Column} {sourceRows : List (List (Cell φ (Number φ)))}
  {built : List (List (RetainedCell φ))}

theorem RowsBuilt.length_le (h : RowsBuilt floats policy columns rowIndex sourceRows built) :
    built.length ≤ sourceRows.length := by
  induction h with
  | nil => exact Nat.zero_le _
  | cons _ _ _ ih => simpa using ih

theorem RowsBuilt.cuts (h : RowsBuilt floats policy columns rowIndex sourceRows built) :
    built.flatMap recordsOf = tableCuts rowIndex (built.map (·.map (·.cell))) := by
  induction h with
  | nil => rfl
  | cons hrow _ _ ih => rw [List.flatMap_cons, List.map_cons, tableCuts, ih, hrow.cuts]

theorem RowsBuilt.total (h : RowsBuilt floats policy columns rowIndex sourceRows built) :
    (built.map retainedTotal).sum =
      cellsBytes floats (built.map (·.map (·.cell))).flatten := by
  induction h with
  | nil => rfl
  | cons hrow _ _ ih =>
      rw [List.map_cons, List.sum_cons, List.map_cons, List.flatten_cons, cellsBytes_append, ih,
        hrow.total]

/-- The row at a place is made of the source row at this place. -/
theorem RowsBuilt.source (h : RowsBuilt floats policy columns rowIndex sourceRows built) {i : Nat}
    {kept : List (RetainedCell φ)} (hi : built[i]? = some kept) :
    ∃ sourceRow, sourceRows[i]? = some sourceRow ∧
      Built floats policy (rowIndex + i) 0 sourceRow kept ∧ kept.length = columns.length := by
  induction h generalizing i with
  | nil => cases hi
  | @cons rowIndex sourceRow sourceRows first built hrow hwidth _ ih =>
      cases i with
      | zero =>
          cases hi
          exact ⟨sourceRow, rfl, hrow, hwidth⟩
      | succ i =>
          obtain ⟨sourceRow', hsource, hbuilt, hlength⟩ := ih hi
          rw [Nat.add_right_comm, Nat.add_assoc] at hbuilt
          exact ⟨sourceRow', hsource, hbuilt, hlength⟩

/-- Cells without a record are those of the source. -/
theorem Built.same (h : Built floats policy rowIndex columnIndex cells kept)
    (hdeclares : ∀ cell ∈ cells, DeclaresLength cell) (hnone : recordsOf kept = []) :
    kept.map (·.cell) = cells.take kept.length := by
  induction h with
  | nil => rfl
  | @cons columnIndex cell cells retained kept cap hcap hcell _ ih =>
      have hrecord : retained.truncation = none :=
        List.filterMap_eq_nil_iff.mp hnone retained List.mem_cons_self
      have hrest : recordsOf kept = [] := List.filterMap_eq_nil_iff.mpr fun r hr =>
        List.filterMap_eq_nil_iff.mp hnone r (List.mem_cons_of_mem _ hr)
      have hsame := (retainCell_from floats hcell).same (hdeclares cell List.mem_cons_self) hrecord
      rw [List.map_cons, List.length_cons, List.take_succ_cons, hsame,
        ih (fun c hc => hdeclares c (List.mem_cons_of_mem _ hc)) hrest]

theorem RowsBuilt.same (h : RowsBuilt floats policy columns rowIndex sourceRows built)
    (hdeclares : ∀ row ∈ sourceRows, ∀ cell ∈ row, DeclaresLength cell)
    (hnone : built.flatMap recordsOf = [])
    (hwidths : ∀ row ∈ sourceRows, row.length ≤ columns.length) :
    built.map (·.map (·.cell)) = sourceRows.take built.length := by
  induction h with
  | nil => rfl
  | @cons rowIndex sourceRow sourceRows kept built hrow hwidth _ ih =>
      rw [List.flatMap_cons, List.append_eq_nil_iff] at hnone
      rw [List.forall_mem_cons] at hdeclares hwidths
      have hsame := hrow.same floats hdeclares.1 hnone.1
      rw [List.take_of_length_le (hwidth ▸ hwidths.1)] at hsame
      rw [List.map_cons, List.length_cons, List.take_succ_cons, hsame,
        ih hdeclares.2 hnone.2 hwidths.2]

end

/-! ## The snapshot -/

/-- What a snapshot keeps of a result. -/
structure Retained (result : QueryResult φ (Number φ)) (policy : ResultRetentionPolicy)
    (snapshot : ResultSnapshot φ (Number φ)) (built : List (List (RetainedCell φ))) : Prop where
  columns : snapshot.columns <+: result.columns.take maxResultColumns
  made : RowsBuilt floats policy snapshot.columns 0 (result.rows.take policy.rowLimit) built
  rows : snapshot.rows = built.map (·.map (·.cell))
  bytes : snapshot.retainedBytes =
    columnsBytes snapshot.columns + cellsBytes floats snapshot.rows.flatten
  fits : snapshot.retainedBytes ≤ maxResultBytes
  room : built.length * snapshot.columns.length ≤ policy.cellLimit
  cuts : snapshot.cellTruncations = tableCuts 0 snapshot.rows
  truncated : snapshot.truncated = false ↔
    result.truncated = false ∧ snapshot.columns.length = result.columns.length ∧
      built.length = result.rows.length ∧ snapshot.cellTruncations = [] ∧
      ∀ sourceRow ∈ result.rows, sourceRow.length ≤ snapshot.columns.length

/-- The notices that end the loop change only the flag. -/
theorem closeRows_fields (policy : ResultRetentionPolicy) (sourceRowCount : Nat) (s : Retaining φ) :
    (closeRows policy sourceRowCount s).rows = s.rows ∧
      (closeRows policy sourceRowCount s).retainedBytes = s.retainedBytes ∧
      (closeRows policy sourceRowCount s).cellTruncations = s.cellTruncations ∧
      ((closeRows policy sourceRowCount s).truncated = false ↔
        s.truncated = false ∧ sourceRowCount ≤ s.rows.length) := by
  unfold closeRows
  dsimp only
  split
  · next hshort => split <;> simp [Retaining.notify, hshort]
  · next hall =>
    rw [not_lt] at hall
    split <;> simp [Retaining.notify, hall]

theorem retain_retained (result : QueryResult φ (Number φ)) (provenance : ResultProvenance)
    (policy : ResultRetentionPolicy) :
    ∃ built, Retained floats result policy (retain floats result provenance policy) built := by
  unfold retain
  dsimp only
  obtain ⟨kept, hkept, hcolumns, hbytes, hmax⟩ := retainColumns_kept
    (result.columns.take maxResultColumns) { notices := driverNotices result policy } rfl
    (Nat.zero_le _)
  rw [List.nil_append] at hcolumns hbytes
  generalize retainColumns (result.columns.take maxResultColumns)
    { notices := driverNotices result policy } = head at hcolumns hbytes hmax ⊢
  subst hcolumns
  generalize hstart : (⟨[], head.retainedBytes, 0,
    result.truncated || decide (head.columns.length < result.columns.length), _, []⟩ :
      Retaining φ) = start
  have hempty : start.rows = [] ∧ start.retainedBytes = columnsBytes head.columns ∧
      start.retainedCells = 0 ∧ start.cellTruncations = [] ∧
      start.truncated =
        (result.truncated || decide (head.columns.length < result.columns.length)) := by
    subst hstart
    exact ⟨rfl, hbytes, rfl, rfl, rfl⟩
  obtain ⟨hrows, htotal, hcells, hcuts, hflag⟩ := hempty
  obtain ⟨built, h⟩ := @retainRows_kept _ floats policy head.columns start
    (result.rows.take policy.rowLimit) (by omega) (by omega)
  obtain ⟨hrows', hbytes', hcuts', htruncated⟩ := closeRows_fields policy result.rows.length
    (retainRows floats policy head.columns (result.rows.take policy.rowLimit) start)
  have hmade := h.made
  rw [hrows, List.length_nil] at hmade
  have hbuilt := h.rows
  rw [hrows, List.nil_append] at hbuilt
  have hrecords := h.cuts
  rw [hcuts, List.nil_append, hmade.cuts] at hrecords
  refine ⟨built, hkept, hmade, hrows'.trans hbuilt, ?_, ?_, ?_, ?_, ?_⟩
  · dsimp only
    rw [hbytes', h.bytes, htotal, hmade.total, hrows', hbuilt]
  · dsimp only
    rw [hbytes']
    exact h.fits
  · have hcount := h.cells
    have hroom := h.room
    rw [hcells, Nat.zero_add] at hcount
    dsimp only
    omega
  · dsimp only
    rw [hcuts', hrecords, hrows', hbuilt]
  · dsimp only
    have hlength := congrArg List.length hbuilt
    rw [List.length_map] at hlength
    have hcolumnsLe := hkept.length_le
    have hrowsLe := hmade.length_le
    have htake : (result.rows.take policy.rowLimit).length ≤ result.rows.length :=
      List.length_take_le' _ _
    rw [List.length_take] at hcolumnsLe
    rw [htruncated, h.truncated, hflag, hlength, hcuts', hrecords, hmade.cuts,
      Bool.or_eq_false_iff, decide_eq_false_iff_not]
    constructor
    · rintro ⟨⟨⟨hresult, hwide⟩, hall, hnone, hwidths⟩, hcount⟩
      rw [List.take_of_length_le (by rw [List.length_take] at hall; omega)] at hwidths
      exact ⟨hresult, by omega, by omega, hnone, hwidths⟩
    · rintro ⟨hresult, hwide, hcount, hnone, hwidths⟩
      refine ⟨⟨⟨hresult, by omega⟩, by omega, hnone, ?_⟩, by omega⟩
      exact fun sourceRow hmem => hwidths sourceRow (List.mem_of_mem_take hmem)

end Dbotter.Results
