import Mathlib.Data.List.Nodup
import Mathlib.Data.List.Sort
import Dbotter.Text.Json

/-!
JSON values up to the order of object fields.

`Equiv` is equality of values whose objects are maps, `sorted` puts the fields of every object
in the order of their keys. With distinct keys the sorted value stands for its whole class.
-/

namespace Dbotter.Json
open Dbotter.Utf8

variable {ν μ : Type}

namespace Value

mutual

def map (f : ν → μ) : Value ν → Value μ
  | .null => .null
  | .bool b => .bool b
  | .number n => .number (f n)
  | .string s => .string s
  | .array items => .array (mapItems f items)
  | .object fields => .object (mapFields f fields)

def mapItems (f : ν → μ) : List (Value ν) → List (Value μ)
  | [] => []
  | v :: vs => map f v :: mapItems f vs

def mapFields (f : ν → μ) : List (Text × Value ν) → List (Text × Value μ)
  | [] => []
  | (key, v) :: fs => (key, map f v) :: mapFields f fs

end

theorem mapItems_eq (f : ν → μ) (items : List (Value ν)) : mapItems f items = items.map (map f) := by
  induction items with
  | nil => rfl
  | cons v vs ih => rw [mapItems, ih, List.map_cons]

theorem mapFields_eq (f : ν → μ) (fields : List (Text × Value ν)) :
    mapFields f fields = fields.map fun field => (field.1, field.2.map f) := by
  induction fields with
  | nil => rfl
  | cons field fields ih =>
      obtain ⟨key, v⟩ := field
      rw [mapFields, ih, List.map_cons]

mutual

/-- Reads the numbers of a value, all or nothing. -/
def traverse (f : ν → Option μ) : Value ν → Option (Value μ)
  | .null => some .null
  | .bool b => some (.bool b)
  | .number n => (f n).map .number
  | .string s => some (.string s)
  | .array items => (traverseItems f items).map .array
  | .object fields => (traverseFields f fields).map .object

def traverseItems (f : ν → Option μ) : List (Value ν) → Option (List (Value μ))
  | [] => some []
  | v :: vs => (traverse f v).bind fun w => (traverseItems f vs).map (w :: ·)

def traverseFields (f : ν → Option μ) : List (Text × Value ν) → Option (List (Text × Value μ))
  | [] => some []
  | (key, v) :: fs => (traverse f v).bind fun w => (traverseFields f fs).map ((key, w) :: ·)

end

def keyLe {β : Type} (a b : Text × β) : Bool := decide (a.1 ≤ b.1)

mutual

/-- Every object in the order of its keys. -/
def sorted : Value ν → Value ν
  | .null => .null
  | .bool b => .bool b
  | .number n => .number n
  | .string s => .string s
  | .array items => .array (sortedItems items)
  | .object fields => .object ((sortedFields fields).mergeSort keyLe)

def sortedItems : List (Value ν) → List (Value ν)
  | [] => []
  | v :: vs => sorted v :: sortedItems vs

/-- Sorts the values of the fields, not the fields themselves. -/
def sortedFields : List (Text × Value ν) → List (Text × Value ν)
  | [] => []
  | (key, v) :: fs => (key, sorted v) :: sortedFields fs

end

mutual

/-- No object has a key twice. -/
def DistinctKeys : Value ν → Prop
  | .array items => DistinctItems items
  | .object fields => (fields.map Prod.fst).Nodup ∧ DistinctFields fields
  | _ => True

def DistinctItems : List (Value ν) → Prop
  | [] => True
  | v :: vs => DistinctKeys v ∧ DistinctItems vs

def DistinctFields : List (Text × Value ν) → Prop
  | [] => True
  | (_, v) :: fs => DistinctKeys v ∧ DistinctFields fs

end

mutual

/-- The same value, the fields of its objects in any order. -/
inductive Equiv : Value ν → Value ν → Prop
  | refl (v : Value ν) : Equiv v v
  | array {items items' : List (Value ν)} (h : EquivItems items items') :
      Equiv (.array items) (.array items')
  | object {fields fields' fields'' : List (Text × Value ν)} (h : EquivFields fields fields')
      (hperm : fields'.Perm fields'') : Equiv (.object fields) (.object fields'')

inductive EquivItems : List (Value ν) → List (Value ν) → Prop
  | nil : EquivItems [] []
  | cons {v v' : Value ν} {vs vs' : List (Value ν)} (h : Equiv v v') (hs : EquivItems vs vs') :
      EquivItems (v :: vs) (v' :: vs')

inductive EquivFields : List (Text × Value ν) → List (Text × Value ν) → Prop
  | nil : EquivFields [] []
  | cons {key : Text} {v v' : Value ν} {fs fs' : List (Text × Value ν)} (h : Equiv v v')
      (hs : EquivFields fs fs') : EquivFields ((key, v) :: fs) ((key, v') :: fs')

end

/-! ## Sorting keeps the value -/

mutual

theorem equiv_sorted : ∀ v : Value ν, Equiv v v.sorted
  | .null | .bool _ | .number _ | .string _ => .refl _
  | .array items => .array (equiv_sortedItems items)
  | .object fields => .object (equiv_sortedFields fields) (List.mergeSort_perm _ _).symm

theorem equiv_sortedItems : ∀ items : List (Value ν), EquivItems items (sortedItems items)
  | [] => .nil
  | v :: vs => .cons (equiv_sorted v) (equiv_sortedItems vs)

theorem equiv_sortedFields : ∀ fields : List (Text × Value ν),
    EquivFields fields (sortedFields fields)
  | [] => .nil
  | (_, v) :: fs => .cons (equiv_sorted v) (equiv_sortedFields fs)

end

@[simp] theorem sortedFields_keys (fields : List (Text × Value ν)) :
    (sortedFields fields).map Prod.fst = fields.map Prod.fst := by
  induction fields with
  | nil => rfl
  | cons f fs ih =>
      obtain ⟨key, v⟩ := f
      rw [sortedFields, List.map_cons, List.map_cons, ih]

theorem EquivFields.keys {fields fields' : List (Text × Value ν)} (h : EquivFields fields fields') :
    fields'.map Prod.fst = fields.map Prod.fst := by
  match h with
  | .nil => rfl
  | .cons _ hs => rw [List.map_cons, List.map_cons, hs.keys]

section
variable {β : Type}

theorem keyLe_trans (a b c : Text × β) (hab : keyLe a b = true) (hbc : keyLe b c = true) :
    keyLe a c = true := by
  simp only [keyLe, decide_eq_true_eq] at hab hbc ⊢
  exact le_trans hab hbc

theorem keyLe_total (a b : Text × β) : (keyLe a b || keyLe b a) = true := by
  simp only [keyLe, Bool.or_eq_true, decide_eq_true_eq]
  exact le_total a.1 b.1

theorem eq_of_mem_of_key_eq {fields : List (Text × β)} (h : (fields.map Prod.fst).Nodup)
    {a b : Text × β} (ha : a ∈ fields) (hb : b ∈ fields) (hab : a.1 = b.1) : a = b :=
  List.inj_on_of_nodup_map h ha hb hab

/-- Fields with distinct keys have one order of their keys. -/
theorem mergeSort_eq_of_perm {fields fields' : List (Text × β)}
    (hkeys : (fields.map Prod.fst).Nodup) (hperm : fields.Perm fields') :
    fields.mergeSort keyLe = fields'.mergeSort keyLe := by
  have hsort : (fields.mergeSort keyLe).Perm (fields'.mergeSort keyLe) :=
    (List.mergeSort_perm _ _).trans (hperm.trans (List.mergeSort_perm _ _).symm)
  refine hsort.eq_of_pairwise ?_ (List.pairwise_mergeSort keyLe_trans keyLe_total _)
    (List.pairwise_mergeSort keyLe_trans keyLe_total _)
  intro a b ha hb hab hba
  have ha := (List.mergeSort_perm _ _).mem_iff.mp ha
  have hb := hperm.mem_iff.mpr ((List.mergeSort_perm _ _).mem_iff.mp hb)
  simp only [keyLe, decide_eq_true_eq] at hab hba
  exact eq_of_mem_of_key_eq hkeys ha hb (le_antisymm hab hba)

end

theorem perm_sortedFields {fields fields' : List (Text × Value ν)} (h : fields.Perm fields') :
    (sortedFields fields).Perm (sortedFields fields') := by
  have hmap : ∀ fs : List (Text × Value ν),
      sortedFields fs = fs.map fun f => (f.1, sorted f.2) := by
    intro fs
    induction fs with
    | nil => rfl
    | cons f fs ih => rw [sortedFields, ih]; rfl
  rw [hmap, hmap]
  exact h.map _

mutual

/-- Values that differ in the order of fields only are sorted alike. -/
theorem sorted_eq_of_equiv : ∀ {v w : Value ν}, Equiv v w → DistinctKeys v → v.sorted = w.sorted
  | _, _, .refl _, _ => rfl
  | _, _, .array h, hv => by
      rw [sorted, sorted, sortedItems_eq_of_equiv h hv]
  | _, _, @Equiv.object _ _ fields' _ h hperm, hv => by
      have hkeys : ((sortedFields fields').map Prod.fst).Nodup := by
        rw [sortedFields_keys, h.keys]
        exact hv.1
      rw [sorted, sorted, sortedFields_eq_of_equiv h hv.2,
        mergeSort_eq_of_perm hkeys (perm_sortedFields hperm)]

theorem sortedItems_eq_of_equiv : ∀ {items items' : List (Value ν)}, EquivItems items items' →
    DistinctItems items → sortedItems items = sortedItems items'
  | _, _, .nil, _ => rfl
  | _, _, .cons h hs, hv => by
      rw [sortedItems, sortedItems, sorted_eq_of_equiv h hv.1, sortedItems_eq_of_equiv hs hv.2]

theorem sortedFields_eq_of_equiv : ∀ {fields fields' : List (Text × Value ν)},
    EquivFields fields fields' → DistinctFields fields → sortedFields fields = sortedFields fields'
  | _, _, .nil, _ => rfl
  | _, _, .cons h hs, hv => by
      rw [sortedFields, sortedFields, sorted_eq_of_equiv h hv.1, sortedFields_eq_of_equiv hs hv.2]

end

mutual

/-- The keys of every object ascend. -/
def KeysAscend : Value ν → Prop
  | .array items => ItemsAscend items
  | .object fields => (fields.map Prod.fst).Pairwise (· < ·) ∧ FieldsAscend fields
  | _ => True

def ItemsAscend : List (Value ν) → Prop
  | [] => True
  | v :: vs => KeysAscend v ∧ ItemsAscend vs

def FieldsAscend : List (Text × Value ν) → Prop
  | [] => True
  | (_, v) :: fs => KeysAscend v ∧ FieldsAscend fs

end

theorem fieldsAscend_iff (fields : List (Text × Value ν)) :
    FieldsAscend fields ↔ ∀ f ∈ fields, KeysAscend f.2 := by
  induction fields with
  | nil => simp [FieldsAscend]
  | cons f fs ih =>
      obtain ⟨key, v⟩ := f
      simp [FieldsAscend, ih]

mutual

theorem keysAscend_sorted : ∀ v : Value ν, DistinctKeys v → KeysAscend v.sorted
  | .null, _ | .bool _, _ | .number _, _ | .string _, _ => trivial
  | .array items, hv => itemsAscend_sorted items hv
  | .object fields, hv => by
      have hperm := List.mergeSort_perm (sortedFields fields) keyLe
      have hkeys : (((sortedFields fields).mergeSort keyLe).map Prod.fst).Nodup := by
        rw [(hperm.map Prod.fst).nodup_iff, sortedFields_keys]
        exact hv.1
      have hle : (((sortedFields fields).mergeSort keyLe).map Prod.fst).Pairwise (· ≤ ·) := by
        rw [List.pairwise_map]
        refine (List.pairwise_mergeSort keyLe_trans keyLe_total _).imp ?_
        intro a b hab
        simpa [keyLe] using hab
      refine ⟨?_, ?_⟩
      · exact (hle.and hkeys).imp fun h => lt_of_le_of_ne h.1 h.2
      · rw [fieldsAscend_iff]
        intro f hf
        exact (fieldsAscend_iff _).mp (fieldsAscend_sorted fields hv.2) f (hperm.mem_iff.mp hf)

theorem itemsAscend_sorted : ∀ items : List (Value ν), DistinctItems items →
    ItemsAscend (sortedItems items)
  | [], _ => trivial
  | v :: vs, hv => ⟨keysAscend_sorted v hv.1, itemsAscend_sorted vs hv.2⟩

theorem fieldsAscend_sorted : ∀ fields : List (Text × Value ν), DistinctFields fields →
    FieldsAscend (sortedFields fields)
  | [], _ => trivial
  | (_, v) :: fs, hv => ⟨keysAscend_sorted v hv.1, fieldsAscend_sorted fs hv.2⟩

end

/-! ## Other number types -/

mutual

theorem traverse_map {f : μ → Option ν} {g : ν → μ} (h : ∀ n, f (g n) = some n) :
    ∀ v : Value ν, traverse f (v.map g) = some v
  | .null | .bool _ | .string _ => rfl
  | .number n => by
      rw [map, traverse, h, Option.map_some]
  | .array items => by
      rw [map, traverse, traverseItems_map h items, Option.map_some]
  | .object fields => by
      rw [map, traverse, traverseFields_map h fields, Option.map_some]

theorem traverseItems_map {f : μ → Option ν} {g : ν → μ} (h : ∀ n, f (g n) = some n) :
    ∀ items : List (Value ν), traverseItems f (mapItems g items) = some items
  | [] => rfl
  | v :: vs => by
      rw [mapItems, traverseItems, traverse_map h v, traverseItems_map h vs]
      rfl

theorem traverseFields_map {f : μ → Option ν} {g : ν → μ} (h : ∀ n, f (g n) = some n) :
    ∀ fields : List (Text × Value ν), traverseFields f (mapFields g fields) = some fields
  | [] => rfl
  | (key, v) :: fs => by
      rw [mapFields, traverseFields, traverse_map h v, traverseFields_map h fs]
      rfl

end

end Value

mutual

theorem valid_map {f : ν → Text} (hf : ∀ n, isNumber (f n) = true) : ∀ v : Value ν, Valid (v.map f)
  | .null => valid_null
  | .bool b => valid_bool b
  | .number n => valid_number (hf n)
  | .string s => valid_string s
  | .array items => valid_array (valid_mapItems hf items)
  | .object fields => valid_object (valid_mapFields hf fields)

theorem valid_mapItems {f : ν → Text} (hf : ∀ n, isNumber (f n) = true) :
    ∀ items : List (Value ν), ∀ v ∈ Value.mapItems f items, Valid v
  | [], _, hv => nomatch hv
  | v :: vs, w, hw => by
      rcases List.mem_cons.mp hw with rfl | hw
      · exact valid_map hf v
      · exact valid_mapItems hf vs w hw

theorem valid_mapFields {f : ν → Text} (hf : ∀ n, isNumber (f n) = true) :
    ∀ fields : List (Text × Value ν), ∀ g ∈ Value.mapFields f fields, Valid g.2
  | [], _, hg => nomatch hg
  | (_, v) :: fs, g, hg => by
      rcases List.mem_cons.mp hg with rfl | hg
      · exact valid_map hf v
      · exact valid_mapFields hf fs g hg

end

end Dbotter.Json
