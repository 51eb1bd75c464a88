import Dbotter.Drivers.RedisPrefix
import Dbotter.Results.DepthCut

/-!
When a reply that is decoded without truncation is also retained without truncation.

The decoder counts what it reads and the retention what it keeps: the texts of the columns, and
floats as they are displayed. It also counts the depth of the JSON, not that of the reply.
-/

namespace Dbotter.Drivers
open Dbotter.Utf8 Dbotter.Configuration Dbotter.Results Dbotter.Numerals Dbotter.Json

variable {φ : Type} (floats : Floats φ)

/-! ## The condition -/

/-- What the retention charges for a cell. -/
def retainedBytes : RespValue φ → Nat
  | .nil => 4
  | .int value => byteLen (intText value)
  | .bulkString value => value.length
  | .simpleString value => byteLen value
  | .okay => 2
  | .double value => byteLen (displayFloat floats value)
  | .boolean _ => 5
  | .verbatimString text => byteLen text
  | .bigNumber value => byteLen (intText value)
  | .serverError => 20
  | .unsupported => 24
  | composite => jsonBytes floats composite

/-- From `used` bytes on, every value still fits, and its JSON is not too deep. -/
def FitsFrom : Nat → List (RespValue φ) → Prop
  | _, [] => True
  | used, value :: values =>
      used < maxResultBytes ∧ used + retainedBytes floats value ≤ maxResultBytes ∧
        jsonDepth value < maxRedisDepth ∧ FitsFrom (used + retainedBytes floats value) values

/-- A reply fits behind the texts `value` and `RESP` of its one column. -/
def Fits (value : RespValue φ) : Prop := FitsFrom floats 9 (replyItems value)

/-- Every row and every cell is kept as it is. -/
structure StaysComplete (rows : List (List (Cell φ (Number φ))))
    (snapshot : ResultSnapshot φ (Number φ)) : Prop where
  rows_eq : snapshot.rows = rows
  truncated : snapshot.truncated = false
  cellTruncations : snapshot.cellTruncations = []

/-! ## One cell -/

/-- A cell that is not a preview. -/
def IsWhole : Cell φ (Number φ) → Prop
  | .textPreview _ _ => False
  | .jsonPreview _ _ => False
  | .bytes retained originalLen => originalLen = retained.length
  | _ => True

/-- The JSON of a cell nests below the depth limit. -/
def IsShallow (maxDepth : Nat) : Cell φ (Number φ) → Prop
  | .json value => value.nesting < maxDepth
  | _ => True

section
variable {cell : Cell φ (Number φ)} {cap maxDepth rowIndex columnIndex : Nat}

theorem retainCell_whole (hwhole : IsWhole cell)
    (hcap : IsScalar cell ∨ scalarRetainedBytes floats cell ≤ cap)
    (hshallow : IsShallow maxDepth cell) (hdepth : 0 < maxDepth) :
    retainCell floats cell cap (some maxDepth) rowIndex columnIndex =
      some ⟨cell, scalarRetainedBytes floats cell, none, false⟩ := by
  cases cell with
  | text value =>
      have hle := hcap.resolve_left id
      have hkeep : truncateUtf8 value cap = value := if_pos hle
      simp [retainCell, retainTextCell, hkeep, scalarRetainedBytes]
  | decimal value =>
      have hle := hcap.resolve_left id
      exact if_neg (not_lt.mpr hle)
  | dateTime value =>
      have hle := hcap.resolve_left id
      exact if_neg (not_lt.mpr hle)
  | bytes retained originalLen =>
      have hle := hcap.resolve_left id
      have hkeep : retained.take cap = retained := List.take_of_length_le hle
      have hlen : originalLen = retained.length := hwhole
      simp [retainCell, hkeep, hlen, scalarRetainedBytes]
  | json value =>
      have hle := hcap.resolve_left id
      have hflag : (truncateJsonDepth maxDepth 1 value).2 = false := by
        rw [truncateJsonDepth_value value hdepth]
        exact decide_eq_false (by have : value.nesting < maxDepth := hshallow; omega)
      have hsame := truncateJsonDepth_same value hflag
      have hkeep : truncateUtf8 (jsonText floats value) cap = jsonText floats value := if_pos hle
      simp [retainCell, hflag, hsame, hkeep, scalarRetainedBytes]
  | textPreview _ _ => exact hwhole.elim
  | jsonPreview _ _ => exact hwhole.elim
  | null => rfl
  | bool _ => rfl
  | int _ => rfl
  | uint _ => rfl
  | float _ => rfl

/-- A cell that does not fit any more leaves a mark or takes too much. -/
theorem retainCell_cut {remaining : Nat} (hcap : cap ≤ remaining) (hdepth : 0 < maxDepth)
    (hcut : remaining < scalarRetainedBytes floats cell ∨ ¬ IsShallow maxDepth cell)
    {retained : RetainedCell φ}
    (h : retainCell floats cell cap (some maxDepth) rowIndex columnIndex = some retained) :
    remaining < retained.retainedBytes ∨ retained.truncation.isSome = true := by
  have hpreview : ∀ value : Text, remaining < byteLen value →
      byteLen (truncateUtf8 value cap) < byteLen value :=
    fun value hlt => ((byteLen_truncateUtf8_le value cap).trans hcap).trans_lt hlt
  have hscalar : ∀ {scalar : Cell φ (Number φ)} {n : Nat}, (remaining < n ∨ ¬ True) →
      (some ⟨scalar, n, none, false⟩ : Option (RetainedCell φ)) = some retained →
      remaining < retained.retainedBytes ∨ retained.truncation.isSome = true := by
    rintro scalar n hn ⟨⟩
    exact .inl (hn.resolve_right fun hs => hs trivial)
  cases cell with
  | text value =>
      have hlt := hpreview value (hcut.resolve_right fun hs => hs trivial)
      cases h
      exact .inr (by simp [retainTextCell, hlt])
  | decimal value =>
      have hlt : remaining < byteLen value := hcut.resolve_right fun hs => hs trivial
      have hnone : retainCompleteStringCell value cap .decimal = (none : Option (RetainedCell φ)) :=
        if_pos (hcap.trans_lt hlt)
      exact absurd (hnone.symm.trans h) nofun
  | dateTime value =>
      have hlt : remaining < byteLen value := hcut.resolve_right fun hs => hs trivial
      have hnone : retainCompleteStringCell value cap .dateTime = (none : Option (RetainedCell φ)) :=
        if_pos (hcap.trans_lt hlt)
      exact absurd (hnone.symm.trans h) nofun
  | bytes retained originalLen =>
      have hlt : remaining < retained.length := hcut.resolve_right fun hs => hs trivial
      cases h
      have hshort : (retained.take cap).length < max originalLen retained.length := by
        rw [List.length_take]
        omega
      exact .inr (by simp only [if_pos hshort, Option.isSome_some])
  | json value =>
      cases h
      cases hflag : (truncateJsonDepth maxDepth 1 value).2 with
      | true => exact .inr (by simp)
      | false =>
          have hsame := truncateJsonDepth_same value hflag
          have hshallow : value.nesting < maxDepth := by
            rw [truncateJsonDepth_value value hdepth] at hflag
            have := of_decide_eq_false hflag
            omega
          have hlt := hpreview (jsonText floats value) (hcut.resolve_right fun hs => hs hshallow)
          exact .inr (by simp [hsame, hlt])
  | textPreview preview originalLen =>
      cases h
      exact .inr (by simp [retainTextCell])
  | jsonPreview preview originalLen =>
      cases h
      exact .inr rfl
  | null => exact hscalar hcut h
  | bool _ => exact hscalar hcut h
  | int _ => exact hscalar hcut h
  | uint _ => exact hscalar hcut h
  | float _ => exact hscalar hcut h

end

/-! ## The cells of a reply -/

/-- The cap of a cell is no limit for the value. -/
def Capped (value : RespValue φ) : Prop :=
  IsScalar (valueCellComplete value) ∨ retainedBytes floats value ≤ maxRedisCellBytes

theorem isWhole_reply (value : RespValue φ) : IsWhole (valueCellComplete value) := by
  cases value with
  | bulkString value =>
      rw [valueCellComplete]
      cases decodeUtf8 value with
      | some text => trivial
      | none => rfl
  | _ => trivial

theorem decodeUtf8_length {value : List UInt8} {text : Text} (h : decodeUtf8 value = some text) :
    byteLen text = value.length := by
  rw [← bytes_length, bytes_of_decodeUtf8 h]

theorem scalarRetainedBytes_reply (value : RespValue φ) :
    scalarRetainedBytes floats (valueCellComplete value) = retainedBytes floats value := by
  cases value with
  | bulkString value =>
      rw [valueCellComplete]
      cases htext : decodeUtf8 value with
      | some text => exact decodeUtf8_length htext
      | none => rfl
  | array values => exact jsonText_value floats (.array values)
  | set values => exact jsonText_value floats (.set values)
  | map entries => exact jsonText_value floats (.map entries)
  | attributed data attributes => exact jsonText_value floats (.attributed data attributes)
  | push data => exact jsonText_value floats (.push data)
  | serverError => rfl
  | unsupported => rfl
  | _ => rfl

/-- Only the JSON of composites can be too deep: the depth of scalars is at most one. -/
theorem isShallow_reply (value : RespValue φ) :
    IsShallow maxRedisDepth (valueCellComplete value) ↔ jsonDepth value < maxRedisDepth := by
  rw [← nesting_value value]
  cases value with
  | bulkString value =>
      rw [valueCellComplete]
      cases decodeUtf8 value with
      | some text => simp [IsShallow, cellJson, Value.nesting, maxRedisDepth]
      | none =>
          simp [IsShallow, bytesCell, cellJson, Value.nesting, Value.nestingFields, maxRedisDepth]
  | double value =>
      cases value <;>
        simp [IsShallow, valueCellComplete, cellJson, numberFromF64, Value.nesting, maxRedisDepth]
  | _ => simp [IsShallow, valueCellComplete, cellJson, Value.nesting, maxRedisDepth]

/-! ## Rows of one cell -/

section
variable {limit : Nat} {column : Column} {cell : Cell φ (Number φ)} {s : Retaining φ}

/-- The outcome of the one cell of a row. -/
def firstCell (s : Retaining φ) (cell : Cell φ (Number φ)) : Option (RetainedCell φ) :=
  retainCell floats cell (min maxRedisCellBytes (maxResultBytes - s.retainedBytes))
    (some maxRedisDepth) s.rows.length 0

theorem allowedCells_one (hcells : s.retainedCells < (ResultRetentionPolicy.redis limit).cellLimit) :
    min (min [column].length [cell].length)
      ((ResultRetentionPolicy.redis limit).cellLimit - s.retainedCells) = 1 := by
  simp only [List.length_singleton]
  omega

theorem take_plain (n : Nat) : s.take ⟨cell, n, none, false⟩ =
    { s with
      retainedBytes := saturatingAdd s.retainedBytes n
      retainedCells := s.retainedCells + 1 } := rfl

theorem take_truncated (retained : RetainedCell φ) :
    (s.take retained).truncated = (s.truncated || retained.truncation.isSome) := by
  obtain ⟨cell, n, truncation, depthTruncated⟩ := retained
  cases truncation <;> cases depthTruncated <;> simp [Retaining.take, Retaining.notify]

/-- The one cell of a row, while there is room. -/
theorem retainCells_one (hbytes : s.retainedBytes < maxResultBytes) :
    retainCells floats (.redis limit) s.rows.length 0 [cell] { retaining := s } =
      match firstCell floats s cell with
      | none => { retaining := s, rowComplete := false, dropRow := true }
      | some retained =>
          if retained.retainedBytes > maxResultBytes - s.retainedBytes then
            { retaining := s, rowComplete := false }
          else { retaining := s.take retained, retainedRow := [retained.cell] } := by
  have hroom : maxResultBytes - s.retainedBytes ≠ 0 := by omega
  rw [retainCells]
  dsimp only
  rw [if_neg hroom]
  rfl

theorem closeRow_truncated {columns : List Column} {count allowed : Nat} {row : RetainingRow φ}
    (h : row.rowComplete = false ∨ row.retaining.truncated = true) :
    (closeRow columns count allowed s row).1.truncated = true := by
  unfold closeRow
  split <;> rcases h with h | h <;> simp [h]

theorem retainRow_whole {n : Nat} (hbytes : s.retainedBytes < maxResultBytes)
    (hcells : s.retainedCells < (ResultRetentionPolicy.redis limit).cellLimit)
    (hcell : firstCell floats s cell = some ⟨cell, n, none, false⟩)
    (hn : s.retainedBytes + n ≤ maxResultBytes) :
    retainRow floats (.redis limit) [column] [cell] s =
      ({ s with
          rows := s.rows ++ [[cell]]
          retainedBytes := s.retainedBytes + n
          retainedCells := s.retainedCells + 1 }, false) := by
  have hsum : saturatingAdd s.retainedBytes n = s.retainedBytes + n := by
    have hmax : maxResultBytes ≤ usizeMax := by decide
    exact min_eq_left (hn.trans hmax)
  have hfits : ¬ n > maxResultBytes - s.retainedBytes := by omega
  have hrun := @retainCells_one _ floats limit cell s hbytes
  rw [hcell] at hrun
  dsimp only at hrun
  rw [if_neg hfits, take_plain, hsum] at hrun
  rw [retainRow, allowedCells_one hcells]
  simp [hrun, closeRow]

/-- A row whose cell leaves a mark or takes too much is truncated. -/
theorem retainRow_cut (hbytes : s.retainedBytes < maxResultBytes)
    (hcells : s.retainedCells < (ResultRetentionPolicy.redis limit).cellLimit)
    (hcell : ∀ retained, firstCell floats s cell = some retained →
      maxResultBytes - s.retainedBytes < retained.retainedBytes ∨
        retained.truncation.isSome = true) :
    (retainRow floats (.redis limit) [column] [cell] s).1.truncated = true := by
  rw [retainRow, allowedCells_one hcells]
  refine closeRow_truncated ?_
  rw [List.take_succ_cons, List.take_zero, retainCells_one floats hbytes]
  cases hfirst : firstCell floats s cell with
  | none => exact .inl rfl
  | some retained =>
      dsimp only
      split
      · exact .inl rfl
      · next hfits =>
        have hmark := (hcell retained hfirst).resolve_left hfits
        exact .inr (by simp [take_truncated, hmark])

theorem retainCells_truncated {policy : ResultRetentionPolicy} {rowIndex columnIndex : Nat}
    (cells : List (Cell φ (Number φ))) (row : RetainingRow φ)
    (h : row.retaining.truncated = true) :
    (retainCells floats policy rowIndex columnIndex cells row).retaining.truncated = true := by
  induction cells generalizing row columnIndex with
  | nil => exact h
  | cons cell cells ih =>
      rw [retainCells]
      split
      · exact h
      · split
        · exact h
        · split
          · exact h
          · exact ih _ (by simp [take_truncated, h])

theorem retainRow_truncated {policy : ResultRetentionPolicy} {columns : List Column}
    (sourceRow : List (Cell φ (Number φ))) (h : s.truncated = true) :
    (retainRow floats policy columns sourceRow s).1.truncated = true :=
  closeRow_truncated (.inr (retainCells_truncated floats _ _ h))

/-- A truncation is never taken back. -/
theorem retainRows_truncated {policy : ResultRetentionPolicy} {columns : List Column}
    (sourceRows : List (List (Cell φ (Number φ)))) (s : Retaining φ) (h : s.truncated = true) :
    (retainRows floats policy columns sourceRows s).truncated = true := by
  induction sourceRows generalizing s with
  | nil => exact h
  | cons sourceRow sourceRows ih =>
      rw [retainRows]
      split
      · dsimp only
        split <;> split <;> rfl
      · have hrow := @retainRow_truncated _ floats _ policy columns sourceRow h
        dsimp only
        split
        · exact hrow
        · exact ih _ hrow

theorem firstCell_fits {value : RespValue φ} (hcapped : Capped floats value)
    (hcharge : s.retainedBytes + retainedBytes floats value ≤ maxResultBytes)
    (hdepth : jsonDepth value < maxRedisDepth) :
    firstCell floats s (valueCellComplete value) =
      some ⟨valueCellComplete value, retainedBytes floats value, none, false⟩ := by
  have hcap : IsScalar (valueCellComplete value) ∨
      scalarRetainedBytes floats (valueCellComplete value) ≤
        min maxRedisCellBytes (maxResultBytes - s.retainedBytes) := by
    rw [scalarRetainedBytes_reply]
    exact hcapped.imp_right fun hle => le_min hle (by omega)
  rw [firstCell, retainCell_whole floats (isWhole_reply value) hcap ((isShallow_reply value).mpr hdepth)
    (by decide), scalarRetainedBytes_reply]

theorem firstCell_cut {value : RespValue φ} (hroom : s.retainedBytes < maxResultBytes)
    (hcut : ¬ (s.retainedBytes + retainedBytes floats value ≤ maxResultBytes ∧
      jsonDepth value < maxRedisDepth)) (retained : RetainedCell φ)
    (h : firstCell floats s (valueCellComplete value) = some retained) :
    maxResultBytes - s.retainedBytes < retained.retainedBytes ∨
      retained.truncation.isSome = true := by
  refine retainCell_cut floats (min_le_right _ _) (by decide) ?_ h
  rw [scalarRetainedBytes_reply, isShallow_reply]
  by_cases hcharge : s.retainedBytes + retainedBytes floats value ≤ maxResultBytes
  · exact .inr fun hdepth => hcut ⟨hcharge, hdepth⟩
  · exact .inl (by omega)

/-- Values that fit are kept with their rows. -/
theorem retainRows_fits {values : List (RespValue φ)} {s : Retaining φ}
    (hcapped : ∀ value ∈ values, Capped floats value)
    (hcells : s.retainedCells + values.length ≤ (ResultRetentionPolicy.redis limit).cellLimit)
    (hfits : FitsFrom floats s.retainedBytes values) :
    ∃ s', retainRows floats (.redis limit) [column] (values.map fun v => [valueCellComplete v]) s =
        s' ∧ s'.rows = s.rows ++ values.map (fun v => [valueCellComplete v]) ∧
      s'.truncated = s.truncated ∧ s'.cellTruncations = s.cellTruncations := by
  induction values generalizing s with
  | nil => exact ⟨s, rfl, by simp, rfl, rfl⟩
  | cons value values ih =>
      obtain ⟨hroom, hcharge, hdepth, hrest⟩ := hfits
      rw [List.length_cons] at hcells
      have hcount : s.retainedCells < (ResultRetentionPolicy.redis limit).cellLimit := by omega
      have hfirst := firstCell_fits floats (hcapped value List.mem_cons_self) hcharge hdepth
      have hrow := @retainRow_whole _ floats limit column _ s _ hroom hcount hfirst hcharge
      obtain ⟨s', hs', hrows, htruncated, hcuts⟩ := @ih
        { s with
          rows := s.rows ++ [[valueCellComplete value]]
          retainedBytes := s.retainedBytes + retainedBytes floats value
          retainedCells := s.retainedCells + 1 }
        (fun v hv => hcapped v (List.mem_cons_of_mem value hv)) (by dsimp only; omega) hrest
      refine ⟨s', ?_, by simp [hrows], htruncated, hcuts⟩
      rw [List.map_cons, retainRows, if_neg (by omega), hrow]
      exact hs'

/-- Values that do not fit leave a truncation. -/
theorem retainRows_cut {values : List (RespValue φ)} {s : Retaining φ}
    (hcells : s.retainedCells + values.length ≤ (ResultRetentionPolicy.redis limit).cellLimit)
    (hcapped : ∀ value ∈ values, Capped floats value)
    (hcut : ¬ FitsFrom floats s.retainedBytes values) :
    (retainRows floats (.redis limit) [column] (values.map fun v => [valueCellComplete v])
      s).truncated = true := by
  induction values generalizing s with
  | nil => exact absurd trivial hcut
  | cons value values ih =>
      rw [List.length_cons] at hcells
      rw [List.map_cons, retainRows]
      by_cases hroom : s.retainedBytes < maxResultBytes
      · have hcount : s.retainedCells < (ResultRetentionPolicy.redis limit).cellLimit := by omega
        rw [if_neg (by omega)]
        by_cases hfits : s.retainedBytes + retainedBytes floats value ≤ maxResultBytes ∧
            jsonDepth value < maxRedisDepth
        · have hfirst := firstCell_fits floats (hcapped value List.mem_cons_self) hfits.1 hfits.2
          rw [@retainRow_whole _ floats limit column _ s _ hroom hcount hfirst hfits.1]
          refine ih ?_ (fun v hv => hcapped v (List.mem_cons_of_mem value hv)) fun hrest => ?_
          · dsimp only
            omega
          · exact hcut ⟨hroom, hfits.1, hfits.2, hrest⟩
        · have hrow := @retainRow_cut _ floats limit column _ s hroom hcount
            (firstCell_cut floats hroom hfits)
          dsimp only
          split
          · exact hrow
          · exact retainRows_truncated floats _ _ hrow
      · rw [if_pos (.inl (by omega))]
        dsimp only
        split <;> split <;> rfl

end

/-! ## The decoder -/

theorem scalarMeasure_le {value : RespValue φ} {measured : Nat} {previewable : Bool}
    (hcomposite : isComposite value = false)
    (h : scalarMeasure floats value = some (measured, previewable))
    (hle : measured ≤ maxRedisCellBytes) : Capped floats value := by
  cases value with
  | nil => exact .inl trivial
  | int value => exact .inl trivial
  | double value => exact .inl trivial
  | boolean value => exact .inl trivial
  | bulkString value =>
      cases h
      exact .inr hle
  | simpleString value =>
      cases h
      exact .inr hle
  | verbatimString text =>
      cases h
      exact .inr hle
  | okay => exact .inr (show 2 ≤ maxRedisCellBytes by decide)
  | serverError => exact .inr (show 20 ≤ maxRedisCellBytes by decide)
  | unsupported => exact .inr (show 24 ≤ maxRedisCellBytes by decide)
  | bigNumber value =>
      obtain ⟨bound, hbound, hmeasured⟩ := Option.bind_eq_some_iff.mp h
      cases hmeasured
      exact .inr ((byteLen_bigNumber_le hbound).trans hle)
  | _ => cases hcomposite

theorem capped_of_chargedBytes {value : RespValue φ}
    (h : chargedBytes floats value ≤ maxRedisCellBytes) : Capped floats value := by
  cases hcomposite : isComposite value with
  | true =>
      have hcharge : retainedBytes floats value = jsonBytes floats value := by
        cases value <;> first | rfl | cases hcomposite
      have hmeasured : chargedBytes floats value = measuredBytes floats value := by
        simp [chargedBytes, hcomposite]
      have hle : jsonBytes floats value ≤ measuredBytes floats value := Nat.le_add_right _ _
      exact .inr (by omega)
  | false =>
      cases hmeasure : scalarMeasure floats value with
      | none =>
          have hcharge : chargedBytes floats value = maxResultBytes + 1 := by
            simp [chargedBytes, hcomposite, hmeasure]
          rw [hcharge] at h
          exact absurd h (by decide)
      | some measure =>
          have hcharge : chargedBytes floats value = measure.1 := by
            simp [chargedBytes, hcomposite, hmeasure]
          exact scalarMeasure_le floats hcomposite hmeasure (by omega)

/-- What is known of values that are decoded completely. -/
structure Decoded (rows : List (List (Cell φ (Number φ)))) (values : List (RespValue φ))
    (nodes : Nat) : Prop where
  rows_eq : rows = values.map fun value => [valueCellComplete value]
  capped : ∀ value ∈ values, Capped floats value
  length_le : values.length ≤ nodes

theorem replyNodes_pos (value : RespValue φ) : 0 < (replyNodes value).length := by
  cases value <;> simp [replyNodes]

theorem length_le_nodesTotal (values : List (RespValue φ)) : values.length ≤ nodesTotal values := by
  induction values with
  | nil => exact Nat.zero_le _
  | cons value values ih =>
      have hpos := replyNodes_pos value
      rw [nodesTotal_cons, List.length_cons]
      omega

/-- A reply without truncation: every value got its row. -/
theorem valueRows_complete {value : RespValue φ} {rowLimit : Nat}
    (h : (valueRows floats value rowLimit).2 = false) :
    Decoded floats (valueRows floats value rowLimit).1 (replyItems value)
      (ResultRetentionPolicy.redis rowLimit).cellLimit := by
  obtain ⟨kept, hrows, hkept, hdecodes⟩ := valueRows_decodes floats value rowLimit
  obtain ⟨rfl, hnot⟩ := hdecodes.whole.mp h
  have hlimit : (replyItems value).length ≤ rowLimit :=
    hkept.length_le.trans (List.length_take_le _ _)
  have hcells : (replyItems value).length ≤ maxRedisCells :=
    (length_le_nodesTotal _).trans hdecodes.nodes
  refine ⟨hrows, fun v hv => capped_of_chargedBytes floats (hdecodes.cap hnot v hv), ?_⟩
  unfold ResultRetentionPolicy.cellLimit
  dsimp only
  split
  · exact hlimit
  · exact hcells

/-! ## The snapshot -/

section
variable {policy : ResultRetentionPolicy} {s : Retaining φ} {count : Nat}

theorem closeRows_truncated (h : s.truncated = true) : (closeRows policy count s).truncated = true := by
  unfold closeRows
  dsimp only
  split <;> split <;> first | rfl | exact h

theorem closeRows_whole (h : s.rows.length = count) : closeRows policy count s = s := by
  have hwhole : ¬ s.rows.length < count := by omega
  unfold closeRows
  simp only [if_neg hwhole]
  exact if_neg fun hless => hwhole hless.2

end

theorem retainColumns_reply (notices : List ResultNotice) :
    retainColumns [⟨"value".toList, "RESP".toList⟩] { notices } =
      ⟨[⟨"value".toList, "RESP".toList⟩], 9, notices⟩ := by
  have hsize : saturatingAdd (byteLen "value".toList) (byteLen "RESP".toList) = 9 := by
    decide +kernel
  rw [retainColumns]
  dsimp only
  rw [hsize, if_neg (by decide), retainColumns]
  rfl

theorem retain_stays_iff {values : List (RespValue φ)} {rowLimit elapsedMs : Nat}
    {provenance : ResultProvenance}
    (hcapped : ∀ value ∈ values, Capped floats value)
    (hcells : values.length ≤ (ResultRetentionPolicy.redis rowLimit).cellLimit) :
    StaysComplete (values.map fun value => [valueCellComplete value])
      (retain floats (redisResult (values.map fun value => [valueCellComplete value]) false elapsedMs)
        provenance (.redis rowLimit)) ↔ FitsFrom floats 9 values := by
  let rows := values.map fun value => [valueCellComplete value]
  let start : Retaining φ :=
    { retainedBytes := 9
      truncated := false
      notices := driverNotices (redisResult rows false elapsedMs) (.redis rowLimit) }
  let last := closeRows (.redis rowLimit) rows.length
    (retainRows floats (.redis rowLimit) [⟨"value".toList, "RESP".toList⟩] rows start)
  have hrows : values.length ≤ maxResultRows := by
    have hlimit : (ResultRetentionPolicy.redis rowLimit).cellLimit ≤ maxRedisCells := by
      unfold ResultRetentionPolicy.cellLimit
      dsimp only
      split <;> omega
    exact hcells.trans (hlimit.trans (by decide))
  have htake : rows.take (ResultRetentionPolicy.redis rowLimit).rowLimit = rows :=
    List.take_of_length_le (by rw [List.length_map]; exact hrows)
  have hsnapshot : StaysComplete rows (retain floats (redisResult rows false elapsedMs) provenance
      (.redis rowLimit)) ↔ last.rows = rows ∧ last.truncated = false ∧ last.cellTruncations = [] := by
    have hhead := retainColumns_reply (driverNotices (redisResult rows false elapsedMs)
      (.redis rowLimit))
    have htaken : (redisResult rows false elapsedMs).columns.take maxResultColumns =
      [⟨"value".toList, "RESP".toList⟩] := rfl
    have hretain : retain floats (redisResult rows false elapsedMs) provenance (.redis rowLimit) =
        { provenance
          columns := [⟨"value".toList, "RESP".toList⟩]
          rows := last.rows
          affectedRows := 0
          lastInsertId := none
          truncated := last.truncated
          notices := last.notices.take maxResultNotices
          retainedBytes := last.retainedBytes
          transientAllocation := .redisWholeRespFrame
          cellTruncations := last.cellTruncations } := by
      unfold retain
      rw [htaken, hhead]
      dsimp only [redisResult]
      rw [htake]
      rfl
    rw [hretain]
    exact ⟨fun h => ⟨h.rows_eq, h.truncated, h.cellTruncations⟩, fun h => ⟨h.1, h.2.1, h.2.2⟩⟩
  rw [hsnapshot]
  by_cases hfits : FitsFrom floats 9 values
  · obtain ⟨s', hs', hkept, htruncated, hcuts⟩ := @retainRows_fits _ floats rowLimit
      ⟨"value".toList, "RESP".toList⟩ values start hcapped (by simpa [start] using hcells) hfits
    have hlast : last = s' := by
      show closeRows _ _ (retainRows _ _ _ rows start) = s'
      rw [hs']
      exact closeRows_whole (by rw [hkept]; simp [start, rows])
    rw [hlast]
    exact ⟨fun _ => hfits, fun _ => ⟨by simpa [start] using hkept, htruncated, hcuts⟩⟩
  · have hcut := @retainRows_cut _ floats rowLimit ⟨"value".toList, "RESP".toList⟩ values start
      (by simpa [start] using hcells) hcapped hfits
    have hlast : last.truncated = true := closeRows_truncated hcut
    rw [hlast]
    exact ⟨fun h => absurd h.2.1 nofun, fun h => absurd h hfits⟩

/-- A reply that is decoded completely stays complete exactly when it fits. -/
theorem redis_stays_complete_iff (value : RespValue φ) (rowLimit elapsedMs : Nat)
    (provenance : ResultProvenance) (h : (valueRows floats value rowLimit).2 = false) :
    StaysComplete (valueRows floats value rowLimit).1
      (retain floats (redisResult (valueRows floats value rowLimit).1 false elapsedMs) provenance
        (.redis rowLimit)) ↔ Fits floats value := by
  have hdecoded := valueRows_complete floats h
  rw [hdecoded.rows_eq]
  exact retain_stays_iff floats hdecoded.capped hdecoded.length_le

def redisProvenance : ResultProvenance := ⟨1, ['p'], 1, 1, .redis, 0, 0⟩

def oneEntryReply : RespValue Empty :=
  .array [.int 1, .map [(.simpleString "key".toList, .nil)]]

theorem redis_stays_complete_one_entry : (valueRows noFloats oneEntryReply 2).2 = false ∧
    (StaysComplete (valueRows noFloats oneEntryReply 2).1
      (retain noFloats (redisResult (valueRows noFloats oneEntryReply 2).1 false 0) redisProvenance
        (.redis 2)) ↔ Fits noFloats oneEntryReply) := by
  have h : (valueRows noFloats oneEntryReply 2).2 = false := by decide +kernel
  exact ⟨h, redis_stays_complete_iff noFloats oneEntryReply 2 0 redisProvenance h⟩

/-- Bytes that are no text, in `depth` arrays. -/
def nestedBytes : Nat → RespValue Empty
  | 0 => .bulkString [0xff]
  | depth + 1 => .array [nestedBytes depth]

/-- The decoder accepts the depth of this reply, and the retention cuts its JSON. -/
theorem redis_reply_cut_later : (valueRows noFloats (nestedBytes 8) 1).2 = false ∧
    ¬ StaysComplete (valueRows noFloats (nestedBytes 8) 1).1
      (retain noFloats (redisResult (valueRows noFloats (nestedBytes 8) 1).1 false 0)
        redisProvenance (.redis 1)) := by
  refine ⟨by decide +kernel, fun h => ?_⟩
  have hcut : (retain noFloats (redisResult (valueRows noFloats (nestedBytes 8) 1).1 false 0)
      redisProvenance (.redis 1)).truncated = true := by decide +kernel
  rw [h.truncated] at hcut
  cases hcut

end Dbotter.Drivers
