import Dbotter.Results.RetainedCells
import Dbotter.Text.JsonSize

/-!
What `truncate_json_depth` makes of a JSON value.

A value lies at level one, and what an array or an object holds lies one level below it. The cut
empties the containers at one level, so nothing is left below that level.
-/

namespace Dbotter.Results
open Dbotter.Utf8 Dbotter.Json

variable {φ ν : Type}

/-! ## Levels -/

/-- `inner` lies in the value at this level. -/
inductive LiesAt (value : Value ν) : Nat → Value ν → Prop
  | root : LiesAt value 1 value
  | item {level : Nat} {items : List (Value ν)} {inner : Value ν} :
      LiesAt value level (.array items) → inner ∈ items → LiesAt value (level + 1) inner
  | field {level : Nat} {fields : List (Text × Value ν)} {key : Text} {inner : Value ν} :
      LiesAt value level (.object fields) → (key, inner) ∈ fields → LiesAt value (level + 1) inner

/-- An array or an object that holds something. -/
def HoldsValues : Value ν → Prop
  | .array items => items ≠ []
  | .object fields => fields ≠ []
  | _ => False

mutual

/-- The second value is the first one, up to containers at this level that are emptied. -/
inductive EmptiedAt : Nat → Value ν → Value ν → Prop
  | same (level : Nat) (value : Value ν) : EmptiedAt level value value
  | clearedArray (items : List (Value ν)) : EmptiedAt 1 (.array items) (.array [])
  | clearedObject (fields : List (Text × Value ν)) : EmptiedAt 1 (.object fields) (.object [])
  | array {level : Nat} {items items' : List (Value ν)} :
      ItemsEmptiedAt level items items' → EmptiedAt (level + 1) (.array items) (.array items')
  | object {level : Nat} {fields fields' : List (Text × Value ν)} :
      FieldsEmptiedAt level fields fields' → EmptiedAt (level + 1) (.object fields) (.object fields')

inductive ItemsEmptiedAt : Nat → List (Value ν) → List (Value ν) → Prop
  | nil (level : Nat) : ItemsEmptiedAt level [] []
  | cons {level : Nat} {value value' : Value ν} {items items' : List (Value ν)} :
      EmptiedAt level value value' → ItemsEmptiedAt level items items' →
      ItemsEmptiedAt level (value :: items) (value' :: items')

inductive FieldsEmptiedAt : Nat → List (Text × Value ν) → List (Text × Value ν) → Prop
  | nil (level : Nat) : FieldsEmptiedAt level [] []
  | cons {level : Nat} {key : Text} {value value' : Value ν}
      {fields fields' : List (Text × Value ν)} :
      EmptiedAt level value value' → FieldsEmptiedAt level fields fields' →
      FieldsEmptiedAt level ((key, value) :: fields) ((key, value') :: fields')

end

theorem nesting_pos {value : Value ν} (h : HoldsValues value) : 0 < value.nesting := by
  cases value with
  | array items =>
    cases items with
    | nil => exact absurd rfl h
    | cons item items => simp [Value.nesting]
  | object fields =>
    cases fields with
    | nil => exact absurd rfl h
    | cons field fields => simp [Value.nesting]
  | _ => exact h.elim

theorem nesting_le_items {item : Value ν} {items : List (Value ν)} (h : item ∈ items) :
    item.nesting ≤ Value.nestingItems items := by
  induction items with
  | nil => cases h
  | cons other items ih =>
    rw [Value.nestingItems]
    rcases List.mem_cons.mp h with rfl | h
    · exact le_max_left _ _
    · exact (ih h).trans (le_max_right _ _)

theorem nesting_le_fields {key : Text} {value : Value ν} {fields : List (Text × Value ν)}
    (h : (key, value) ∈ fields) : value.nesting ≤ Value.nestingFields fields := by
  induction fields with
  | nil => cases h
  | cons field fields ih =>
    obtain ⟨key', other⟩ := field
    rw [Value.nestingFields]
    rcases List.mem_cons.mp h with h | h
    · cases h
      exact le_max_left _ _
    · exact (ih h).trans (le_max_right _ _)

/-- What lies deeper nests less. -/
theorem LiesAt.nesting_le {value inner : Value ν} {level : Nat} (h : LiesAt value level inner) :
    level + inner.nesting ≤ value.nesting + 1 := by
  induction h with
  | root => omega
  | @item level items inner houter hmem ih =>
    have hinner := nesting_le_items hmem
    have hne : items.isEmpty = false := by
      cases items with
      | nil => cases hmem
      | cons item items => rfl
    rw [Value.nesting, hne, if_neg Bool.false_ne_true] at ih
    omega
  | @field level fields key inner houter hmem ih =>
    have hinner := nesting_le_fields hmem
    have hne : fields.isEmpty = false := by
      cases fields with
      | nil => cases hmem
      | cons field fields => rfl
    rw [Value.nesting, hne, if_neg Bool.false_ne_true] at ih
    omega

/-! ## The cut -/

section
variable {maxDepth : Nat}

theorem or_decide {p q r : Prop} [Decidable p] [Decidable q] [Decidable r] (h : (p ∨ q) ↔ r) :
    (decide p || decide q) = decide r := by
  rw [← Bool.decide_or]
  exact decide_eq_decide.mpr h

mutual

/-- Values are cut exactly when they nest too deep. -/
theorem truncateJsonDepth_value : ∀ (value : Value (Number φ)) {depth : Nat}, depth ≤ maxDepth →
    (truncateJsonDepth maxDepth depth value).2 = decide (maxDepth < depth + value.nesting)
  | .null, depth, h => by simp [truncateJsonDepth, Value.nesting, h]
  | .bool _, depth, h => by simp [truncateJsonDepth, Value.nesting, h]
  | .number _, depth, h => by simp [truncateJsonDepth, Value.nesting, h]
  | .string _, depth, h => by simp [truncateJsonDepth, Value.nesting, h]
  | .array values, depth, h => by
      rw [truncateJsonDepth, Value.nesting]
      by_cases hle : maxDepth ≤ depth
      · rw [if_pos hle]
        cases values with
        | nil => simp [h]
        | cons value values => simpa using by omega
      · rw [if_neg hle]
        dsimp only
        have hbelow : depth + 1 ≤ maxDepth := by omega
        rw [truncateJsonDepth_items values hbelow]
        cases values with
        | nil => simpa [Value.nestingItems] using by omega
        | cons value values => exact decide_eq_decide.mpr (by simp; omega)
  | .object fields, depth, h => by
      rw [truncateJsonDepth, Value.nesting]
      by_cases hle : maxDepth ≤ depth
      · rw [if_pos hle]
        cases fields with
        | nil => simp [h]
        | cons field fields => simpa using by omega
      · rw [if_neg hle]
        dsimp only
        have hbelow : depth + 1 ≤ maxDepth := by omega
        rw [truncateJsonDepth_fields fields hbelow]
        cases fields with
        | nil => simpa [Value.nestingFields] using by omega
        | cons field fields => exact decide_eq_decide.mpr (by simp; omega)

theorem truncateJsonDepth_items : ∀ (values : List (Value (Number φ))) {depth : Nat},
    depth ≤ maxDepth →
    (truncateItemsDepth maxDepth depth values).2 =
      decide (maxDepth < depth + Value.nestingItems values)
  | [], depth, h => by simp [truncateItemsDepth, Value.nestingItems, h]
  | value :: values, depth, h => by
      rw [truncateItemsDepth, Value.nestingItems]
      dsimp only
      rw [truncateJsonDepth_value value h, truncateJsonDepth_items values h]
      exact or_decide (by omega)

theorem truncateJsonDepth_fields : ∀ (fields : List (Text × Value (Number φ))) {depth : Nat},
    depth ≤ maxDepth →
    (truncateFieldsDepth maxDepth depth fields).2 =
      decide (maxDepth < depth + Value.nestingFields fields)
  | [], depth, h => by simp [truncateFieldsDepth, Value.nestingFields, h]
  | (key, value) :: fields, depth, h => by
      rw [truncateFieldsDepth, Value.nestingFields]
      dsimp only
      rw [truncateJsonDepth_value value h, truncateJsonDepth_fields fields h]
      exact or_decide (by omega)

end

end

section
variable {maxDepth : Nat}

mutual

/-- What is left does not nest beyond the limit. -/
theorem nesting_truncateJsonDepth : ∀ (value : Value (Number φ)) {depth : Nat}, depth ≤ maxDepth →
    depth + (truncateJsonDepth maxDepth depth value).1.nesting ≤ maxDepth
  | .null, _, h => h
  | .bool _, _, h => h
  | .number _, _, h => h
  | .string _, _, h => h
  | .array values, depth, h => by
      rw [truncateJsonDepth]
      by_cases hle : maxDepth ≤ depth
      · rw [if_pos hle]
        simpa [Value.nesting] using h
      · rw [if_neg hle]
        have hbelow := nesting_truncateItemsDepth values (show depth + 1 ≤ maxDepth by omega)
        dsimp only
        rw [Value.nesting]
        split <;> omega
  | .object fields, depth, h => by
      rw [truncateJsonDepth]
      by_cases hle : maxDepth ≤ depth
      · rw [if_pos hle]
        simpa [Value.nesting] using h
      · rw [if_neg hle]
        have hbelow := nesting_truncateFieldsDepth fields (show depth + 1 ≤ maxDepth by omega)
        dsimp only
        rw [Value.nesting]
        split <;> omega

theorem nesting_truncateItemsDepth : ∀ (values : List (Value (Number φ))) {depth : Nat},
    depth ≤ maxDepth →
    depth + Value.nestingItems (truncateItemsDepth maxDepth depth values).1 ≤ maxDepth
  | [], _, h => h
  | value :: values, depth, h => by
      have hvalue := nesting_truncateJsonDepth value h
      have hvalues := nesting_truncateItemsDepth values h
      rw [truncateItemsDepth, Value.nestingItems]
      omega

theorem nesting_truncateFieldsDepth : ∀ (fields : List (Text × Value (Number φ))) {depth : Nat},
    depth ≤ maxDepth →
    depth + Value.nestingFields (truncateFieldsDepth maxDepth depth fields).1 ≤ maxDepth
  | [], _, h => h
  | (key, value) :: fields, depth, h => by
      have hvalue := nesting_truncateJsonDepth value h
      have hfields := nesting_truncateFieldsDepth fields h
      rw [truncateFieldsDepth, Value.nestingFields]
      omega

end

mutual

/-- Only containers at the limit are emptied. -/
theorem emptiedAt_truncateJsonDepth : ∀ (value : Value (Number φ)) {depth level : Nat},
    depth + level = maxDepth + 1 → 0 < level →
    EmptiedAt level value (truncateJsonDepth maxDepth depth value).1
  | .null, _, level, _, _ => .same level _
  | .bool _, _, level, _, _ => .same level _
  | .number _, _, level, _, _ => .same level _
  | .string _, _, level, _, _ => .same level _
  | .array values, depth, level, h, hpos => by
      rw [truncateJsonDepth]
      by_cases hle : maxDepth ≤ depth
      · rw [if_pos hle]
        obtain rfl : level = 1 := by omega
        exact .clearedArray values
      · rw [if_neg hle]
        obtain ⟨level, rfl⟩ : ∃ below, level = below + 1 := ⟨level - 1, by omega⟩
        exact .array (emptiedAt_truncateItemsDepth values (by omega) (by omega))
  | .object fields, depth, level, h, hpos => by
      rw [truncateJsonDepth]
      by_cases hle : maxDepth ≤ depth
      · rw [if_pos hle]
        obtain rfl : level = 1 := by omega
        exact .clearedObject fields
      · rw [if_neg hle]
        obtain ⟨level, rfl⟩ : ∃ below, level = below + 1 := ⟨level - 1, by omega⟩
        exact .object (emptiedAt_truncateFieldsDepth fields (by omega) (by omega))

theorem emptiedAt_truncateItemsDepth : ∀ (values : List (Value (Number φ))) {depth level : Nat},
    depth + level = maxDepth + 1 → 0 < level →
    ItemsEmptiedAt level values (truncateItemsDepth maxDepth depth values).1
  | [], _, level, _, _ => .nil level
  | value :: values, _, _, h, hpos =>
      .cons (emptiedAt_truncateJsonDepth value h hpos) (emptiedAt_truncateItemsDepth values h hpos)

theorem emptiedAt_truncateFieldsDepth : ∀ (fields : List (Text × Value (Number φ)))
    {depth level : Nat}, depth + level = maxDepth + 1 → 0 < level →
    FieldsEmptiedAt level fields (truncateFieldsDepth maxDepth depth fields).1
  | [], _, level, _, _ => .nil level
  | (_, value) :: fields, _, _, h, hpos =>
      .cons (emptiedAt_truncateJsonDepth value h hpos) (emptiedAt_truncateFieldsDepth fields h hpos)

end

/-- A value that is shallow enough is not cut. -/
theorem truncateJsonDepth_eq_self {value : Value (Number φ)} {depth : Nat} (hdepth : depth ≤ maxDepth)
    (h : depth + value.nesting ≤ maxDepth) :
    truncateJsonDepth maxDepth depth value = (value, false) := by
  have hflag : (truncateJsonDepth maxDepth depth value).2 = false := by
    rw [truncateJsonDepth_value value hdepth]
    simpa using h
  exact Prod.ext (truncateJsonDepth_same value hflag) hflag

/-- The flag tells whether the value has changed. -/
theorem truncateJsonDepth_flag (value : Value (Number φ)) {depth : Nat} (hdepth : depth ≤ maxDepth) :
    (truncateJsonDepth maxDepth depth value).2 = true ↔
      (truncateJsonDepth maxDepth depth value).1 ≠ value := by
  constructor
  · intro hflag hsame
    have hleft := nesting_truncateJsonDepth value hdepth
    rw [hsame] at hleft
    rw [truncateJsonDepth_eq_self hdepth hleft] at hflag
    cases hflag
  · intro hchanged
    by_contra hflag
    exact hchanged (truncateJsonDepth_same value (Bool.eq_false_iff.mpr hflag))

/-- The cut leaves nothing at the limit or below it, changes nothing else, reports exactly that
it changed something, and has nothing to do a second time. -/
theorem truncate_json_depth_exact (value : Value (Number φ)) (hmax : 1 ≤ maxDepth) :
    (∀ level inner, LiesAt (truncateJsonDepth maxDepth 1 value).1 level inner → maxDepth ≤ level →
      ¬ HoldsValues inner) ∧
    EmptiedAt maxDepth value (truncateJsonDepth maxDepth 1 value).1 ∧
    ((truncateJsonDepth maxDepth 1 value).2 = true ↔
      (truncateJsonDepth maxDepth 1 value).1 ≠ value) ∧
    truncateJsonDepth maxDepth 1 (truncateJsonDepth maxDepth 1 value).1 =
      ((truncateJsonDepth maxDepth 1 value).1, false) := by
  have hleft := nesting_truncateJsonDepth value hmax
  refine ⟨fun level inner hlies hlevel hholds => ?_, ?_, truncateJsonDepth_flag value hmax,
    truncateJsonDepth_eq_self hmax hleft⟩
  · have hnests := hlies.nesting_le
    have hpos := nesting_pos hholds
    omega
  · exact emptiedAt_truncateJsonDepth value (by omega) hmax

end

/-- Objects in an array, cut at the second level. -/
def nestedCell : Value (Number Empty) :=
  .array [.null, .object [("k".toList, .array [.null])], .array []]

theorem truncate_json_depth_exact_nested :
    (truncateJsonDepth 2 1 nestedCell).2 = true ∧
      (truncateJsonDepth 2 1 nestedCell).1 ≠ nestedCell := by
  have hcut := truncate_json_depth_exact nestedCell (show 1 ≤ 2 by decide)
  have hflag : (truncateJsonDepth 2 1 nestedCell).2 = true := rfl
  exact ⟨hflag, hcut.2.2.1.mp hflag⟩

end Dbotter.Results
