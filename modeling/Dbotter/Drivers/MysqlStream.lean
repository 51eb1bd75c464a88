import Dbotter.Results.RetainedResult

/-!
The rows of a MySQL statement, from `src/drivers/mysql.rs`.

Strings come with their capacities. The sizes of the containers in memory are parameters, and
the server is the sequence of steps of its stream.
-/

namespace Dbotter.Drivers
open Dbotter.Utf8 Dbotter.Results

/-! ## Values on the heap -/

structure HeapString where
  text : Text
  capacity : Nat
  fits : byteLen text ≤ capacity

structure HeapBytes where
  bytes : List UInt8
  capacity : Nat
  fits : bytes.length ≤ capacity

inductive HeapJson (φ : Type)
  | null
  | bool (value : Bool)
  | number (value : Number φ)
  | string (value : HeapString)
  | array (values : List (HeapJson φ))
  | object (fields : List (HeapString × HeapJson φ))

/-- A decoded cell. `bytes_cell` declares the length of the bytes. -/
inductive HeapCell (φ : Type)
  | null
  | bool (value : Bool)
  | int (value : Int)
  | uint (value : Nat)
  | float (value : F64 φ)
  | decimal (value : HeapString)
  | text (value : HeapString)
  | textPreview (preview : HeapString) (originalLen : Nat)
  | bytes (retained : HeapBytes) (originalLen : Nat) (declares : retained.bytes.length ≤ originalLen)
  | json (value : HeapJson φ)
  | jsonPreview (preview : HeapString) (originalLen : Nat)
  | dateTime (value : HeapString)

structure HeapColumn where
  name : HeapString
  typeName : HeapString

/-- What `size_of` says of the containers. -/
structure HeapSizes where
  column : Nat
  cell : Nat
  row : Nat
  value : Nat
  field : Nat

section
variable {φ : Type}

mutual

def HeapJson.toJson : HeapJson φ → Json.Value (Number φ)
  | .null => .null
  | .bool value => .bool value
  | .number value => .number value
  | .string value => .string value.text
  | .array values => .array (HeapJson.toItems values)
  | .object fields => .object (HeapJson.toFields fields)

def HeapJson.toItems : List (HeapJson φ) → List (Json.Value (Number φ))
  | [] => []
  | value :: values => value.toJson :: HeapJson.toItems values

def HeapJson.toFields : List (HeapString × HeapJson φ) → List (Text × Json.Value (Number φ))
  | [] => []
  | (key, value) :: fields => (key.text, value.toJson) :: HeapJson.toFields fields

end

def HeapCell.toCell : HeapCell φ → Cell φ (Number φ)
  | .null => .null
  | .bool value => .bool value
  | .int value => .int value
  | .uint value => .uint value
  | .float value => .float value
  | .decimal value => .decimal value.text
  | .text value => .text value.text
  | .textPreview preview originalLen => .textPreview preview.text originalLen
  | .bytes retained originalLen _ => .bytes retained.bytes originalLen
  | .json value => .json value.toJson
  | .jsonPreview preview originalLen => .jsonPreview preview.text originalLen
  | .dateTime value => .dateTime value.text

def HeapColumn.toColumn (column : HeapColumn) : Column := ⟨column.name.text, column.typeName.text⟩

variable (sizes : HeapSizes)

mutual

def jsonHeapBytes : HeapJson φ → Nat
  | .string value => value.capacity
  | .array values => saturatingAdd (sizes.value * values.length) (itemsHeapBytes 0 values)
  | .object fields => fieldsHeapBytes 0 fields
  | .null | .bool _ | .number _ => 0

/-- The fold over the elements. -/
def itemsHeapBytes (total : Nat) : List (HeapJson φ) → Nat
  | [] => total
  | value :: values => itemsHeapBytes (saturatingAdd total (jsonHeapBytes value)) values

/-- The fold over the fields. -/
def fieldsHeapBytes (total : Nat) : List (HeapString × HeapJson φ) → Nat
  | [] => total
  | (key, value) :: fields =>
      fieldsHeapBytes (saturatingAdd (saturatingAdd (saturatingAdd total sizes.field) key.capacity)
        (jsonHeapBytes value)) fields

end

def cellHeapBytes : HeapCell φ → Nat
  | .decimal value | .text value | .dateTime value => value.capacity
  | .textPreview preview _ | .jsonPreview preview _ => preview.capacity
  | .bytes retained _ _ => retained.capacity
  | .json value => jsonHeapBytes sizes value
  | .null | .bool _ | .int _ | .uint _ | .float _ => 0

/-! ## The budget of the rows -/

/-- What `add_columns` adds. -/
def columnsHeapBytes (columns : List HeapColumn) : Nat :=
  saturatingAdd (sizes.column * columns.length)
    ((columns.map fun column => saturatingAdd column.name.capacity column.typeName.capacity).foldl
      saturatingAdd 0)

/-- The bytes of a row. -/
def rowHeapBytes (row : List (HeapCell φ)) : Nat :=
  saturatingAdd (saturatingAdd sizes.row (sizes.cell * row.length))
    ((row.map (cellHeapBytes sizes)).foldl saturatingAdd 0)

structure DecodedRowBudget where
  retainedHeapBytes : Nat := 0
  deriving DecidableEq, Repr

namespace DecodedRowBudget

def addColumns (budget : DecodedRowBudget) (columns : List HeapColumn) : DecodedRowBudget :=
  ⟨saturatingAdd budget.retainedHeapBytes (columnsHeapBytes sizes columns)⟩

/-- The rows with the row, the budget, and whether the stream ends here. -/
def pushRow (budget : DecodedRowBudget) (rows : List (List (HeapCell φ)))
    (row : List (HeapCell φ)) : List (List (HeapCell φ)) × DecodedRowBudget × Bool :=
  let row := row.take maxResultColumns
  let crossesCellCap := row.any fun cell => decide (cellHeapBytes sizes cell > maxResultCellBytes)
  let rowBytes := rowHeapBytes sizes row
  let crossesSnapshotCap :=
    decide (saturatingAdd budget.retainedHeapBytes rowBytes > maxResultBytes)
  if crossesCellCap || crossesSnapshotCap then (rows ++ [row], budget, true)
  else (rows ++ [row], ⟨saturatingAdd budget.retainedHeapBytes rowBytes⟩, false)

end DecodedRowBudget

/-! ## The stream -/

/-- A row of the stream, which may fail to decode; it has a cell for each of its columns. -/
structure StreamRow (φ : Type) where
  columns : List HeapColumn
  decoded : Option (List (HeapCell φ))
  width : ∀ cells, decoded = some cells → cells.length = columns.length

/-- What the stream delivers: a row, the result of a statement, or an error. -/
inductive StreamStep (φ : Type)
  | row (row : StreamRow φ)
  | result (affectedRows lastInsertId : Nat)
  | failed

structure StreamState (φ : Type) where
  columns : List HeapColumn
  isResultSet : Bool
  rows : List (List (HeapCell φ)) := []
  decodedBudget : DecodedRowBudget
  affectedRows : Nat := 0
  lastInsertId : Option Nat := none
  truncated : Bool := false

/-- A row makes a result set, and it brings the columns if there are none yet. -/
def StreamState.enterRow (s : StreamState φ) (columns : List HeapColumn) : StreamState φ :=
  if s.columns.isEmpty then
    { s with
      isResultSet := true
      columns
      decodedBudget := s.decodedBudget.addColumns sizes columns }
  else { s with isResultSet := true }

/-- The loop over the stream; `none` is an error. -/
def streamLoop (limit : Nat) : List (StreamStep φ) → StreamState φ → Option (StreamState φ)
  | [], s => some s
  | .failed :: _, _ => none
  | .result affectedRows lastInsertId :: steps, s =>
      streamLoop limit steps
        { s with
          affectedRows
          lastInsertId := if lastInsertId ≠ 0 then some lastInsertId else none }
  | .row row :: steps, s =>
      let s := s.enterRow sizes row.columns
      if s.rows.length = limit then some { s with truncated := true }
      else
        match row.decoded with
        | none => none
        | some decoded =>
            let pushed := s.decodedBudget.pushRow sizes s.rows decoded
            let s := { s with rows := pushed.1, decodedBudget := pushed.2.1 }
            if pushed.2.2 then some { s with truncated := true } else streamLoop limit steps s

/-- `execute_one` behind the statement that was prepared with these columns. -/
def executeOne (columns : List HeapColumn) (steps : List (StreamStep φ)) (rowLimit : Nat) :
    Option (StreamState φ) := do
  let s ← streamLoop sizes rowLimit steps
    { columns
      isResultSet := !columns.isEmpty
      decodedBudget := ({} : DecodedRowBudget).addColumns sizes columns }
  some (if s.isResultSet then { s with affectedRows := 0, lastInsertId := none } else s)

/-- What the caller gets. -/
def StreamState.toResult (s : StreamState φ) : QueryResult φ (Number φ) where
  columns := s.columns.map HeapColumn.toColumn
  rows := s.rows.map (·.map HeapCell.toCell)
  affectedRows := s.affectedRows
  lastInsertId := s.lastInsertId
  elapsedMs := 0
  truncated := s.truncated
  backendNoticesPresent := false

/-! ## What the stream delivers -/

/-- The decoded rows of the stream. -/
def deliveredRows : List (StreamStep φ) → List (List (HeapCell φ))
  | [] => []
  | .row row :: steps => row.decoded.toList ++ deliveredRows steps
  | _ :: steps => deliveredRows steps

/-- The columns of the statement, or if it has none those of the rows. -/
def columnList : List HeapColumn → List (StreamStep φ) → List HeapColumn
  | columns, [] => columns
  | columns, .row row :: steps => columnList (if columns.isEmpty then row.columns else columns) steps
  | columns, _ :: steps => columnList columns steps

/-- Every row has so many columns. -/
def RowsWide (width : Nat) (steps : List (StreamStep φ)) : Prop :=
  ∀ row, .row row ∈ steps → row.columns.length = width

/-- The step is no error, and its row is decoded. -/
def StreamStep.Delivers : StreamStep φ → Prop
  | .row delivered => delivered.decoded.isSome = true
  | .result _ _ => True
  | .failed => False

/-! ## The budget -/

def rowsHeapBytes (rows : List (List (HeapCell φ))) : Nat := (rows.map (rowHeapBytes sizes)).sum

theorem rowsHeapBytes_append (rows : List (List (HeapCell φ))) (row : List (HeapCell φ)) :
    rowsHeapBytes sizes (rows ++ [row]) = rowsHeapBytes sizes rows + rowHeapBytes sizes row := by
  simp [rowsHeapBytes]

/-- The budget has counted the columns and the rows, if the columns fit. There are no rows before
there are columns. -/
structure Counted (width : Nat) (s : StreamState φ) : Prop where
  columns : s.columns.length = width ∨ s.columns = [] ∧ s.rows = []
  exact_bytes : columnsHeapBytes sizes s.columns ≤ maxResultBytes →
    s.decodedBudget.retainedHeapBytes = columnsHeapBytes sizes s.columns + rowsHeapBytes sizes s.rows
  fits : columnsHeapBytes sizes s.columns ≤ maxResultBytes →
    s.decodedBudget.retainedHeapBytes ≤ maxResultBytes

section
variable {width limit : Nat} {s : StreamState φ}

theorem columnsHeapBytes_nil : columnsHeapBytes sizes [] = 0 := rfl

theorem enterRow_rows (columns : List HeapColumn) : (s.enterRow sizes columns).rows = s.rows := by
  unfold StreamState.enterRow
  split <;> rfl

theorem enterRow_truncated (columns : List HeapColumn) :
    (s.enterRow sizes columns).truncated = s.truncated := by
  unfold StreamState.enterRow
  split <;> rfl

theorem enterRow_columns (columns : List HeapColumn) :
    (s.enterRow sizes columns).columns = if s.columns.isEmpty then columns else s.columns := by
  unfold StreamState.enterRow
  split <;> rfl

theorem Counted.enterRow (h : Counted sizes width s) {columns : List HeapColumn}
    (hwidth : columns.length = width) :
    Counted sizes width (s.enterRow sizes columns) ∧
      (s.enterRow sizes columns).columns.length = width := by
  unfold StreamState.enterRow
  split
  · next hempty =>
    have hnil : s.columns = [] := List.isEmpty_iff.mp hempty
    have hzero := h.exact_bytes (by rw [hnil]; exact Nat.zero_le _)
    rw [hnil, columnsHeapBytes_nil, Nat.zero_add] at hzero
    have hmax : maxResultBytes < usizeMax := by decide
    -- the columns are new, unless the rows have none at all
    have hcases : columns = [] ∨ s.rows = [] := by
      rcases h.columns with hlen | hboth
      · rw [hnil, List.length_nil] at hlen
        exact .inl (List.eq_nil_of_length_eq_zero (by omega))
      · exact .inr hboth.2
    have hbytes : columnsHeapBytes sizes columns ≤ maxResultBytes →
        saturatingAdd s.decodedBudget.retainedHeapBytes (columnsHeapBytes sizes columns) =
            columnsHeapBytes sizes columns + rowsHeapBytes sizes s.rows ∧
          saturatingAdd s.decodedBudget.retainedHeapBytes (columnsHeapBytes sizes columns) ≤
            maxResultBytes := by
      intro hfit
      have hbefore := h.fits (by rw [hnil]; exact Nat.zero_le _)
      rcases hcases with rfl | hrows
      · rw [columnsHeapBytes_nil]
        unfold saturatingAdd
        omega
      · rw [hrows] at hzero ⊢
        change _ = 0 at hzero
        rw [hzero]
        unfold saturatingAdd
        change min (0 + columnsHeapBytes sizes columns) usizeMax = columnsHeapBytes sizes columns + 0 ∧ _
        omega
    exact ⟨⟨.inl hwidth, fun hfit => (hbytes hfit).1, fun hfit => (hbytes hfit).2⟩, hwidth⟩
  · next hsome =>
    refine ⟨⟨h.columns, h.exact_bytes, h.fits⟩, h.columns.resolve_right fun hnone => ?_⟩
    rw [hnone.1] at hsome
    exact hsome rfl

/-- A row is pushed, and counted unless it ends the stream. -/
theorem pushRow_spec (h : Counted sizes width s) (hcolumns : s.columns.length = width)
    (row : List (HeapCell φ)) :
    (s.decodedBudget.pushRow sizes s.rows row).1 = s.rows ++ [row.take maxResultColumns] ∧
      ((s.decodedBudget.pushRow sizes s.rows row).2.2 = false →
        Counted sizes width { s with
          rows := (s.decodedBudget.pushRow sizes s.rows row).1
          decodedBudget := (s.decodedBudget.pushRow sizes s.rows row).2.1 }) := by
  unfold DecodedRowBudget.pushRow
  dsimp only
  split
  · exact ⟨rfl, nofun⟩
  · next hroom =>
    refine ⟨rfl, fun _ => ?_⟩
    rw [Bool.or_eq_true, decide_eq_true_eq, not_or, not_lt] at hroom
    obtain ⟨hsum, hle⟩ := saturatingAdd_le hroom.2 (by decide)
    refine ⟨.inl hcolumns, fun hfit => ?_, fun _ => ?_⟩
    · dsimp only
      rw [hsum, rowsHeapBytes_append, h.exact_bytes hfit, Nat.add_assoc]
    · dsimp only
      rwa [hsum]

/-! ## The loop -/

/-- What the loop has made of the rows. -/
structure Looped (limit : Nat) (steps : List (StreamStep φ)) (s s' : StreamState φ) : Prop where
  rows : ∃ k, s'.rows = s.rows ++ ((deliveredRows steps).take k).map (List.take maxResultColumns)
  limit : s'.rows.length ≤ limit
  fits : columnsHeapBytes sizes s'.columns ≤ maxResultBytes →
    columnsHeapBytes sizes s'.columns + rowsHeapBytes sizes s'.rows.dropLast ≤ maxResultBytes
  all : s'.truncated = false → s.truncated = false ∧ s'.columns = columnList s.columns steps ∧
    s'.rows = s.rows ++ (deliveredRows steps).map (List.take maxResultColumns)

theorem rowsHeapBytes_dropLast_le (rows : List (List (HeapCell φ))) :
    rowsHeapBytes sizes rows.dropLast ≤ rowsHeapBytes sizes rows := by
  rcases List.eq_nil_or_concat rows with rfl | ⟨init, last, rfl⟩
  · exact le_rfl
  · rw [List.concat_eq_append, List.dropLast_concat, rowsHeapBytes_append]
    omega

theorem Counted.dropLast (h : Counted sizes width s)
    (hfit : columnsHeapBytes sizes s.columns ≤ maxResultBytes) :
    columnsHeapBytes sizes s.columns + rowsHeapBytes sizes s.rows.dropLast ≤ maxResultBytes := by
  have hexact := h.exact_bytes hfit
  have hmax := h.fits hfit
  have hdrop := rowsHeapBytes_dropLast_le sizes s.rows
  omega

theorem streamLoop_looped (steps : List (StreamStep φ)) (h : Counted sizes width s)
    (hlimit : s.rows.length ≤ limit) (hwidth : RowsWide width steps) {s' : StreamState φ}
    (hloop : streamLoop sizes limit steps s = some s') : Looped sizes limit steps s s' := by
  induction steps generalizing s with
  | nil =>
      cases hloop
      exact ⟨⟨0, by simp⟩, hlimit, h.dropLast sizes, fun hs => ⟨hs, rfl, by simp [deliveredRows]⟩⟩
  | cons step steps ih =>
      have hrest : RowsWide width steps := fun row hrow => hwidth row (List.mem_cons_of_mem _ hrow)
      cases step with
      | failed => cases hloop
      | result affectedRows lastInsertId =>
          rw [streamLoop] at hloop
          have hcounted : Counted sizes width { s with
              affectedRows
              lastInsertId := if lastInsertId ≠ 0 then some lastInsertId else none } :=
            ⟨h.columns, h.exact_bytes, h.fits⟩
          obtain ⟨hrows, hle, hfits, hall⟩ := ih hcounted hlimit hrest hloop
          exact ⟨hrows, hle, hfits, hall⟩
      | row row =>
          obtain ⟨hentered, hcolumns⟩ :=
            h.enterRow sizes (hwidth row List.mem_cons_self)
          have hrows := enterRow_rows sizes (s := s) row.columns
          have hflag := enterRow_truncated sizes (s := s) row.columns
          have hlist := enterRow_columns sizes (s := s) row.columns
          rw [streamLoop] at hloop
          generalize s.enterRow sizes row.columns = entered at hentered hcolumns hrows hflag hlist hloop
          dsimp only at hloop
          split at hloop
          · cases hloop
            exact ⟨⟨0, by simp [hrows]⟩, hrows ▸ hlimit, hentered.dropLast sizes, nofun⟩
          · next hbelow =>
            split at hloop
            · cases hloop
            · next decoded hdecoded =>
              obtain ⟨hpushed, hcounted⟩ := pushRow_spec sizes hentered hcolumns decoded
              have hcount : (entered.decodedBudget.pushRow sizes entered.rows decoded).1.length ≤
                  limit := by
                rw [hpushed, List.length_append, List.length_singleton]
                rw [hrows] at hbelow ⊢
                omega
              split at hloop
              · cases hloop
                refine ⟨⟨1, ?_⟩, hcount, fun hfit => ?_, nofun⟩
                · dsimp only
                  rw [hpushed, hrows, deliveredRows, hdecoded]
                  rfl
                · dsimp only at hfit ⊢
                  have hexact := hentered.exact_bytes hfit
                  have hmax := hentered.fits hfit
                  rw [hpushed, List.dropLast_concat]
                  omega
              · next hgo =>
                obtain ⟨⟨k, hk⟩, hle, hfits, hall⟩ :=
                  ih (hcounted (by simpa using hgo)) hcount hrest hloop
                dsimp only at hk hall
                rw [hpushed, hrows, List.append_assoc] at hk hall
                refine ⟨⟨k + 1, ?_⟩, hle, hfits, fun hs => ?_⟩
                · rw [hk, deliveredRows, hdecoded]
                  rfl
                · obtain ⟨hstart, hcols, hall⟩ := hall hs
                  refine ⟨hflag ▸ hstart, ?_, ?_⟩
                  · rw [hcols, hlist, columnList]
                  · rw [hall, deliveredRows, hdecoded]
                    rfl

end

/-! ## The statement -/

/-- A stream without errors is collected. -/
theorem streamLoop_isSome (limit : Nat) (steps : List (StreamStep φ)) (s : StreamState φ)
    (h : ∀ step ∈ steps, step.Delivers) : (streamLoop sizes limit steps s).isSome = true := by
  induction steps generalizing s with
  | nil => rfl
  | cons step steps ih =>
      rw [List.forall_mem_cons] at h
      cases step with
      | failed => exact h.1.elim
      | result affectedRows lastInsertId => exact ih _ h.2
      | row row =>
          obtain ⟨decoded, hdecoded⟩ := Option.isSome_iff_exists.mp h.1
          rw [streamLoop]
          dsimp only
          split
          · rfl
          · rw [hdecoded]
            dsimp only
            split
            · rfl
            · exact ih _ h.2

variable (floats : Floats φ)

/-- What `execute_one` and the retention of its result keep of a stream. -/
structure StreamKept (columns : List HeapColumn) (steps : List (StreamStep φ)) (rowLimit : Nat)
    (s : StreamState φ) : Prop where
  rows_prefix : ∃ k, s.rows = ((deliveredRows steps).take k).map (List.take maxResultColumns)
  limit : s.rows.length ≤ rowLimit
  fits : columnsHeapBytes sizes s.columns ≤ maxResultBytes →
    columnsHeapBytes sizes s.columns + rowsHeapBytes sizes s.rows.dropLast ≤ maxResultBytes
  complete : ∀ provenance,
    (retain floats s.toResult provenance (.mysql rowLimit)).truncated = false →
      (retain floats s.toResult provenance (.mysql rowLimit)).columns =
          (columnList columns steps).map HeapColumn.toColumn ∧
        (retain floats s.toResult provenance (.mysql rowLimit)).rows =
          (deliveredRows steps).map (·.map HeapCell.toCell)

theorem declaresLength_toCell (cell : HeapCell φ) : DeclaresLength cell.toCell := by
  cases cell with
  | bytes retained originalLen declares => exact declares
  | _ => trivial

/-- The delivered rows are as wide as the rows of the stream. -/
theorem RowsWide.delivered {width : Nat} {steps : List (StreamStep φ)} (h : RowsWide width steps) :
    ∀ cells ∈ deliveredRows steps, cells.length = width := by
  induction steps with
  | nil => nofun
  | cons step steps ih =>
      have hrest : RowsWide width steps := fun row hrow => h row (List.mem_cons_of_mem _ hrow)
      cases step with
      | failed => exact ih hrest
      | result _ _ => exact ih hrest
      | row row =>
          intro cells hcells
          rcases List.mem_append.mp hcells with hrow | hcells
          · rw [row.width cells (Option.mem_toList.mp hrow), h row List.mem_cons_self]
          · exact ih hrest cells hcells

/-- Nothing is missing from a stream that was read to its end, if the retention kept all of it. -/
theorem Looped.complete {columns : List HeapColumn} {steps : List (StreamStep φ)} {rowLimit : Nat}
    {start s : StreamState φ} (h : Looped sizes rowLimit steps start s)
    (hstart : start.rows = [] ∧ start.columns = columns)
    (hwidth : RowsWide (columnList columns steps).length steps) {provenance : ResultProvenance}
    (hwhole : (retain floats s.toResult provenance (.mysql rowLimit)).truncated = false) :
    (retain floats s.toResult provenance (.mysql rowLimit)).columns =
        (columnList columns steps).map HeapColumn.toColumn ∧
      (retain floats s.toResult provenance (.mysql rowLimit)).rows =
        (deliveredRows steps).map (·.map HeapCell.toCell) := by
  obtain ⟨hrows, rfl⟩ := hstart
  obtain ⟨built, hretained⟩ := retain_retained floats s.toResult provenance (.mysql rowLimit)
  have hdeclares : ∀ row ∈ s.toResult.rows, ∀ cell ∈ row, DeclaresLength cell := by
    intro row hrow cell hcell
    obtain ⟨cells, -, rfl⟩ := List.mem_map.mp hrow
    obtain ⟨source, -, rfl⟩ := List.mem_map.mp hcell
    exact declaresLength_toCell source
  have hnarrow := (hretained.bounded floats).columns
  obtain ⟨hfull, -, hcolumns, hsame⟩ := (hretained.honest hdeclares).exact_flag.mp hwhole
  obtain ⟨-, hlist, hall⟩ := h.all hfull
  have hlist' : s.toResult.columns =
      (columnList start.columns steps).map HeapColumn.toColumn := congrArg _ hlist
  rw [hcolumns, hlist', List.length_map] at hnarrow
  -- the rows are no wider than the columns, which were all kept
  have huncut : (deliveredRows steps).map (List.take maxResultColumns) = deliveredRows steps := by
    refine List.map_congr_left (g := id) (fun cells hcells => ?_) |>.trans (List.map_id _)
    exact List.take_of_length_le (hwidth.delivered cells hcells ▸ hnarrow)
  rw [hrows, List.nil_append, huncut] at hall
  exact ⟨hcolumns.trans hlist', hsame.trans (congrArg _ hall)⟩

theorem columnList_length_of_ne {columns : List HeapColumn} (h : columns ≠ [])
    (steps : List (StreamStep φ)) : columnList columns steps = columns := by
  induction steps with
  | nil => rfl
  | cons step steps ih =>
      cases step with
      | row row => rw [columnList, if_neg (by simpa using h), ih]
      | _ => exact ih

theorem mysql_stream_kept (columns : List HeapColumn) (steps : List (StreamStep φ)) (rowLimit : Nat)
    (hwidth : RowsWide (columnList columns steps).length steps) :
    ((∀ step ∈ steps, step.Delivers) → (executeOne sizes columns steps rowLimit).isSome = true) ∧
      ∀ s, executeOne sizes columns steps rowLimit = some s →
        StreamKept sizes floats columns steps rowLimit s := by
  have hmax : maxResultBytes < usizeMax := by decide
  have hcounted : Counted sizes (columnList columns steps).length
      ({ columns
         isResultSet := !columns.isEmpty
         decodedBudget := ({} : DecodedRowBudget).addColumns sizes columns } : StreamState φ) := by
    refine ⟨?_, fun hfit => ?_, fun hfit => ?_⟩
    · by_cases hnone : columns = []
      · exact .inr ⟨hnone, rfl⟩
      · rw [columnList_length_of_ne hnone]
        exact .inl rfl
    · change saturatingAdd 0 _ = columnsHeapBytes sizes columns + 0
      dsimp only at hfit
      unfold saturatingAdd
      omega
    · change saturatingAdd 0 _ ≤ _
      dsimp only at hfit
      unfold saturatingAdd
      omega
  refine ⟨fun hdelivers => ?_, fun s hs => ?_⟩
  · obtain ⟨s, hs⟩ := Option.isSome_iff_exists.mp (streamLoop_isSome sizes rowLimit steps _ hdelivers)
    rw [executeOne, hs]
    rfl
  · obtain ⟨s', hloop, hs⟩ := Option.bind_eq_some_iff.mp hs
    have hlooped := streamLoop_looped sizes steps hcounted (Nat.zero_le _) hwidth hloop
    -- the results of a statement do not matter here
    have hsame : s.columns = s'.columns ∧ s.rows = s'.rows ∧ s.truncated = s'.truncated := by
      rw [Option.some_inj] at hs
      subst hs
      split <;> exact ⟨rfl, rfl, rfl⟩
    obtain ⟨hcols, hrows, hflag⟩ := hsame
    have hlooped' : Looped sizes rowLimit steps _ s :=
      ⟨hrows ▸ hlooped.rows, hrows ▸ hlooped.limit, hcols ▸ hrows ▸ hlooped.fits,
        hcols ▸ hrows ▸ hflag ▸ hlooped.all⟩
    refine ⟨by simpa using hlooped'.rows, hlooped'.limit, hlooped'.fits, fun provenance hwhole => ?_⟩
    exact hlooped'.complete sizes floats ⟨rfl, rfl⟩ hwidth hwhole

end

/-- The sizes on a machine of 64 bits. -/
def wordSizes : HeapSizes := ⟨48, 48, 24, 72, 96⟩

/-- A column of the rows only, for a statement that was prepared without columns. -/
def lateColumn : HeapColumn := ⟨⟨['v'], 8, by decide⟩, ⟨['t'], 8, by decide⟩⟩

def lateStream : List (StreamStep Empty) :=
  [.result 0 0, .row ⟨[lateColumn], some [.null], fun _ h => by cases h; rfl⟩]

theorem mysql_stream_kept_late :
    ((∀ step ∈ lateStream, step.Delivers) →
        (executeOne wordSizes [] lateStream 10).isSome = true) ∧
      ∀ s, executeOne wordSizes [] lateStream 10 = some s →
        StreamKept wordSizes noFloats [] lateStream 10 s := by
  refine mysql_stream_kept wordSizes noFloats [] lateStream 10 fun row hrow => ?_
  simp only [lateStream, List.mem_cons, reduceCtorEq, StreamStep.row.injEq, List.not_mem_nil,
    or_false, false_or] at hrow
  subst hrow
  rfl

end Dbotter.Drivers
