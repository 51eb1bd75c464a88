import Dbotter.Results.Retain

/-!
What `retain_cell` makes of a cell.

A retained cell charges its own bytes, and it has a record exactly if it is a preview or a short
byte string. A preview ends at a character boundary of the text it is taken from.
-/

namespace Dbotter.Results
open Dbotter.Utf8 Dbotter.Numerals Dbotter.Drivers

variable {φ : Type}

/-! ## Character boundaries -/

theorem byteLen_sliceTo : ∀ {value p : Text} {n : Nat}, sliceTo value n = some p → byteLen p = n
  | _, _, 0, h => by
      rw [sliceTo] at h
      cases h
      rfl
  | [], _, _ + 1, h => by cases h
  | c :: value, _, n + 1, h => by
      rw [sliceTo] at h
      split at h
      · obtain ⟨p, hp, rfl⟩ := Option.map_eq_some_iff.mp h
        rw [byteLen_cons, byteLen_sliceTo hp]
        omega
      · cases h

theorem sliceTo_isPrefix : ∀ {value p : Text} {n : Nat}, sliceTo value n = some p → p <+: value
  | _, _, 0, h => by
      rw [sliceTo] at h
      cases h
      exact List.nil_prefix
  | [], _, _ + 1, h => by cases h
  | c :: value, _, n + 1, h => by
      rw [sliceTo] at h
      split at h
      · obtain ⟨p, hp, rfl⟩ := Option.map_eq_some_iff.mp h
        exact List.cons_prefix_cons.mpr ⟨rfl, sliceTo_isPrefix hp⟩
      · cases h

theorem boundaryAtMost_le (value : Text) (cap : Nat) : boundaryAtMost value cap ≤ cap := by
  induction cap with
  | zero => exact le_rfl
  | succ cap ih =>
      unfold boundaryAtMost
      split <;> omega

theorem byteLen_truncateUtf8_le (value : Text) (cap : Nat) :
    byteLen (truncateUtf8 value cap) ≤ cap := by
  unfold truncateUtf8
  split
  · assumption
  · cases hslice : sliceTo value (boundaryAtMost value cap) with
    | none => exact Nat.zero_le _
    | some p => exact (byteLen_sliceTo hslice).le.trans (boundaryAtMost_le value cap)

theorem isSome_boundaryAtMost (value : Text) (cap : Nat) :
    (sliceTo value (boundaryAtMost value cap)).isSome = true := by
  induction cap with
  | zero => cases value <;> rfl
  | succ cap ih =>
      unfold boundaryAtMost
      split
      · assumption
      · exact ih

theorem sliceTo_byteLen (value : Text) : sliceTo value (byteLen value) = some value := by
  have hself := sliceTo_append value []
  rwa [List.append_nil] at hself

/-- What is left ends at a character boundary. -/
theorem sliceTo_truncateUtf8 (value : Text) (cap : Nat) :
    sliceTo value (byteLen (truncateUtf8 value cap)) = some (truncateUtf8 value cap) := by
  unfold truncateUtf8
  split
  · exact sliceTo_byteLen value
  · obtain ⟨p, hp⟩ := Option.isSome_iff_exists.mp (isSome_boundaryAtMost value cap)
    rw [hp, Option.getD_some, byteLen_sliceTo hp, hp]

theorem truncateUtf8_of_le {value : Text} {cap : Nat} (h : byteLen value ≤ cap) :
    truncateUtf8 value cap = value := if_pos h

/-- A text that keeps its length is not cut. -/
theorem truncateUtf8_eq_of_byteLen {value : Text} {cap : Nat}
    (h : ¬ byteLen (truncateUtf8 value cap) < byteLen value) : truncateUtf8 value cap = value := by
  have hcap := byteLen_truncateUtf8_le value cap
  exact truncateUtf8_of_le (by omega)

/-! ## Depth -/

section
variable {maxDepth : Nat}

mutual

theorem truncateJsonDepth_same : ∀ (value : Json.Value (Number φ)) {depth : Nat},
    (truncateJsonDepth maxDepth depth value).2 = false →
      (truncateJsonDepth maxDepth depth value).1 = value
  | .null, _, _ => rfl
  | .bool _, _, _ => rfl
  | .number _, _, _ => rfl
  | .string _, _, _ => rfl
  | .array values, depth, h => by
      rw [truncateJsonDepth] at h ⊢
      split at h
      · next hle =>
        rw [if_pos hle]
        cases values with
        | nil => rfl
        | cons value values => cases h
      · next hle =>
        rw [if_neg hle]
        exact congrArg Json.Value.array (truncateItemsDepth_same values h)
  | .object fields, depth, h => by
      rw [truncateJsonDepth] at h ⊢
      split at h
      · next hle =>
        rw [if_pos hle]
        cases fields with
        | nil => rfl
        | cons field fields => cases h
      · next hle =>
        rw [if_neg hle]
        exact congrArg Json.Value.object (truncateFieldsDepth_same fields h)

theorem truncateItemsDepth_same : ∀ (values : List (Json.Value (Number φ))) {depth : Nat},
    (truncateItemsDepth maxDepth depth values).2 = false →
      (truncateItemsDepth maxDepth depth values).1 = values
  | [], _, _ => rfl
  | value :: values, depth, h => by
      rw [truncateItemsDepth] at h ⊢
      obtain ⟨hvalue, hvalues⟩ := Bool.or_eq_false_iff.mp h
      exact congrArg₂ List.cons (truncateJsonDepth_same value hvalue)
        (truncateItemsDepth_same values hvalues)

theorem truncateFieldsDepth_same : ∀ (fields : List (Text × Json.Value (Number φ))) {depth : Nat},
    (truncateFieldsDepth maxDepth depth fields).2 = false →
      (truncateFieldsDepth maxDepth depth fields).1 = fields
  | [], _, _ => rfl
  | (key, value) :: fields, depth, h => by
      rw [truncateFieldsDepth] at h ⊢
      obtain ⟨hvalue, hvalues⟩ := Bool.or_eq_false_iff.mp h
      exact congrArg₂ (fun v fs => (key, v) :: fs) (truncateJsonDepth_same value hvalue)
        (truncateFieldsDepth_same fields hvalues)

end

end

/-! ## Records -/

/-- A cell that is kept whatever the cap of a cell is. -/
def IsScalar : Cell φ (Number φ) → Prop
  | .null | .bool _ | .int _ | .uint _ | .float _ => True
  | _ => False

/-- The record of a cell at its place: previews and short byte strings have one. -/
def cutOf (rowIndex columnIndex : Nat) : Cell φ (Number φ) → Option CellTruncation
  | .textPreview preview originalLen =>
      some (cellTruncation .text (byteLen preview) originalLen rowIndex columnIndex)
  | .jsonPreview preview originalLen =>
      some (cellTruncation .json (byteLen preview) originalLen rowIndex columnIndex)
  | .bytes retained originalLen =>
      if retained.length < originalLen then
        some (cellTruncation .bytes retained.length originalLen rowIndex columnIndex)
      else none
  | _ => none

/-- A preview or a short byte string. -/
def IsCut : Cell φ (Number φ) → Prop
  | .textPreview _ _ | .jsonPreview _ _ => True
  | .bytes retained originalLen => retained.length < originalLen
  | _ => False

/-- The length that a byte string declares is not below its own. Previews may declare anything:
they are always recorded. -/
def DeclaresLength : Cell φ (Number φ) → Prop
  | .bytes retained originalLen => retained.length ≤ originalLen
  | _ => True

theorem isCut_iff (rowIndex columnIndex : Nat) (cell : Cell φ (Number φ)) :
    IsCut cell ↔ (cutOf rowIndex columnIndex cell).isSome = true := by
  cases cell with
  | bytes retained originalLen =>
      unfold IsCut cutOf
      split <;> simp_all
  | _ => simp [IsCut, cutOf]

theorem cutOf_place {rowIndex columnIndex : Nat} {cell : Cell φ (Number φ)} {cut : CellTruncation}
    (h : cutOf rowIndex columnIndex cell = some cut) :
    cut.rowIndex = rowIndex ∧ cut.columnIndex = columnIndex := by
  cases cell with
  | bytes retained originalLen =>
      rw [cutOf] at h
      split at h
      · cases h
        exact ⟨rfl, rfl⟩
      · cases h
  | textPreview preview originalLen =>
      cases h
      exact ⟨rfl, rfl⟩
  | jsonPreview preview originalLen =>
      cases h
      exact ⟨rfl, rfl⟩
  | _ => cases h

variable (floats : Floats φ)

/-- The JSON above the depth limit, and whether there is more. -/
def shallowJson (maxDepth : Option Nat) (value : Json.Value (Number φ)) :
    Json.Value (Number φ) × Bool :=
  match maxDepth with
  | none => (value, false)
  | some depth => truncateJsonDepth depth 1 value

/-- The text that a preview of the cell is taken from. -/
def previewSource (maxDepth : Option Nat) : Cell φ (Number φ) → Text
  | .text value => value
  | .textPreview preview _ | .jsonPreview preview _ => preview
  | .json value => jsonText floats (shallowJson maxDepth value).1
  | _ => []

/-- What is known of a cell that is retained at its place under the cap. -/
structure RetainedFrom (source : Cell φ (Number φ)) (cap : Nat) (maxDepth : Option Nat)
    (rowIndex columnIndex : Nat) (retained : RetainedCell φ) : Prop where
  bytes : retained.retainedBytes = scalarRetainedBytes floats retained.cell
  capped : IsScalar retained.cell ∨ retained.retainedBytes ≤ cap
  record : retained.truncation = cutOf rowIndex columnIndex retained.cell
  boundary : ∀ preview originalLen, retained.cell = .textPreview preview originalLen ∨
    retained.cell = .jsonPreview preview originalLen →
      sliceTo (previewSource floats maxDepth source) (byteLen preview) = some preview
  same : DeclaresLength source → retained.truncation = none → retained.cell = source

section
variable {cap rowIndex columnIndex : Nat} {maxDepth : Option Nat} {retained : RetainedCell φ}

theorem retainTextCell_from {source : Cell φ (Number φ)} {preview : Text} {declared : Option Nat}
    (hsource : previewSource floats maxDepth source = preview)
    (hsame : declared = none → source = .text preview) :
    RetainedFrom floats source cap maxDepth rowIndex columnIndex
      (retainTextCell preview declared cap rowIndex columnIndex) := by
  have hcap := byteLen_truncateUtf8_le preview cap
  have hboundary := sliceTo_truncateUtf8 preview cap
  unfold retainTextCell
  dsimp only
  by_cases hcut : (declared.isSome || decide (byteLen (truncateUtf8 preview cap) <
      max (declared.getD (byteLen preview)) (byteLen preview))) = true
  · simp only [hcut, if_true]
    refine ⟨rfl, .inr hcap, rfl, ?_, nofun⟩
    rintro p n (heq | heq)
    · cases heq
      rwa [hsource]
    · cases heq
  · simp only [hcut]
    rw [Bool.not_eq_true, Bool.or_eq_false_iff, Option.isSome_eq_false_iff, Option.isNone_iff_eq_none,
      decide_eq_false_iff_not] at hcut
    obtain ⟨rfl, hlen⟩ := hcut
    rw [Option.getD_none, Nat.max_self] at hlen
    refine ⟨rfl, .inr hcap, rfl, ?_, fun _ _ => ?_⟩
    · rintro p n (heq | heq) <;> cases heq
    · rw [hsame rfl, truncateUtf8_eq_of_byteLen hlen]
      rfl

theorem retainCompleteStringCell_from {value : Text} {wrap : Text → Cell φ (Number φ)}
    (hwrap : ∀ v, scalarRetainedBytes floats (wrap v) = byteLen v)
    (hplain : ∀ v i j, cutOf i j (wrap v) = none)
    (h : retainCompleteStringCell value cap wrap = some retained) :
    RetainedFrom floats (wrap value) cap maxDepth rowIndex columnIndex retained := by
  unfold retainCompleteStringCell at h
  dsimp only at h
  split at h
  · cases h
  · next hle =>
    cases h
    refine ⟨(hwrap value).symm, .inr (not_lt.mp hle), (hplain value _ _).symm, ?_, fun _ _ => rfl⟩
    have hnone := hplain value 0 0
    rintro p n (heq | heq) <;> (dsimp only at heq; rw [heq] at hnone; cases hnone)

theorem retainCell_bytes {bytes : List UInt8} {originalLen : Nat}
    (h : retainCell floats (.bytes bytes originalLen) cap maxDepth rowIndex columnIndex =
      some retained) :
    RetainedFrom floats (.bytes bytes originalLen) cap maxDepth rowIndex columnIndex retained := by
  cases h
  refine ⟨rfl, .inr (List.length_take_le _ _), rfl, ?_, fun hdeclares hnone => ?_⟩
  · rintro p n (heq | heq) <;> cases heq
  · have hlen : originalLen ≥ bytes.length := hdeclares
    have hfull : ¬ (bytes.take cap).length < max originalLen bytes.length := by
      intro hshort
      rw [if_pos hshort] at hnone
      cases hnone
    rw [List.length_take] at hfull
    have hmax : max originalLen bytes.length = originalLen := by omega
    have htake : bytes.take cap = bytes := List.take_of_length_le (by omega)
    rw [hmax, htake]

theorem retainCell_json {value : Json.Value (Number φ)}
    (h : retainCell floats (.json value) cap maxDepth rowIndex columnIndex = some retained) :
    RetainedFrom floats (.json value) cap maxDepth rowIndex columnIndex retained := by
  have hunfold : retainCell floats (.json value) cap maxDepth rowIndex columnIndex =
      let shallow := shallowJson maxDepth value
      let encodedLen := byteLen (jsonText floats shallow.1)
      let preview := truncateUtf8 (jsonText floats shallow.1) cap
      let truncated := shallow.2 || decide (byteLen preview < encodedLen)
      some
        { cell := if truncated then .jsonPreview preview (byteLen (jsonText floats value))
            else .json shallow.1
          retainedBytes := byteLen preview
          truncation :=
            if truncated then
              some (cellTruncation .json (byteLen preview) (byteLen (jsonText floats value)) rowIndex
                columnIndex)
            else none
          depthTruncated := shallow.2 } := by
    cases maxDepth <;> rfl
  have hsame : (shallowJson maxDepth value).2 = false → (shallowJson maxDepth value).1 = value := by
    cases maxDepth with
    | none => exact fun _ => rfl
    | some depth => exact truncateJsonDepth_same value
  have hcap := byteLen_truncateUtf8_le (jsonText floats (shallowJson maxDepth value).1) cap
  rw [hunfold] at h
  cases h
  by_cases hcut : ((shallowJson maxDepth value).2 ||
      decide (byteLen (truncateUtf8 (jsonText floats (shallowJson maxDepth value).1) cap) <
        byteLen (jsonText floats (shallowJson maxDepth value).1))) = true
  · simp only [hcut, if_true]
    refine ⟨rfl, .inr hcap, rfl, ?_, nofun⟩
    rintro p n (heq | heq)
    · cases heq
    · cases heq
      exact sliceTo_truncateUtf8 _ cap
  · simp only [hcut]
    rw [Bool.not_eq_true, Bool.or_eq_false_iff, decide_eq_false_iff_not] at hcut
    have hkeep := truncateUtf8_eq_of_byteLen hcut.2
    rw [hkeep] at hcap ⊢
    refine ⟨rfl, .inr hcap, rfl, ?_, fun _ _ => congrArg Cell.json (hsame hcut.1)⟩
    rintro p n (heq | heq) <;> cases heq

theorem retainCell_jsonPreview {preview : Text} {originalLen : Nat}
    (h : retainCell floats (.jsonPreview preview originalLen) cap maxDepth rowIndex columnIndex =
      some retained) :
    RetainedFrom floats (.jsonPreview preview originalLen) cap maxDepth rowIndex columnIndex
      retained := by
  cases h
  refine ⟨rfl, .inr (byteLen_truncateUtf8_le preview cap), rfl, ?_, nofun⟩
  rintro p n (heq | heq)
  · cases heq
  · cases heq
    exact sliceTo_truncateUtf8 preview cap

/-- What `retain_cell` makes of a cell. -/
theorem retainCell_from {source : Cell φ (Number φ)}
    (h : retainCell floats source cap maxDepth rowIndex columnIndex = some retained) :
    RetainedFrom floats source cap maxDepth rowIndex columnIndex retained := by
  have hscalar : ∀ {scalar : Cell φ (Number φ)}, IsScalar scalar →
      (∀ i j, cutOf i j scalar = none) →
      some ⟨scalar, scalarRetainedBytes floats scalar, none, false⟩ = some retained →
        RetainedFrom floats scalar cap maxDepth rowIndex columnIndex retained := by
    rintro scalar hkind hplain ⟨⟩
    refine ⟨rfl, .inl hkind, (hplain _ _).symm, ?_, fun _ _ => rfl⟩
    rintro p n (rfl | rfl) <;> exact hkind.elim
  cases source with
  | text value =>
      cases h
      exact retainTextCell_from floats rfl fun _ => rfl
  | textPreview preview originalLen =>
      cases h
      exact retainTextCell_from floats rfl nofun
  | decimal value =>
      exact retainCompleteStringCell_from floats (fun _ => rfl) (fun _ _ _ => rfl) h
  | dateTime value =>
      exact retainCompleteStringCell_from floats (fun _ => rfl) (fun _ _ _ => rfl) h
  | bytes bytes originalLen => exact retainCell_bytes floats h
  | json value => exact retainCell_json floats h
  | jsonPreview preview originalLen => exact retainCell_jsonPreview floats h
  | null => exact hscalar trivial (fun _ _ => rfl) h
  | bool _ => exact hscalar trivial (fun _ _ => rfl) h
  | int _ => exact hscalar trivial (fun _ _ => rfl) h
  | uint _ => exact hscalar trivial (fun _ _ => rfl) h
  | float _ => exact hscalar trivial (fun _ _ => rfl) h

end

end Dbotter.Results
