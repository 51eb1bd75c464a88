import Mathlib.Data.List.AList
import Mathlib.Data.List.Induction

/-!
Numbering the keys of a map from a counter.

A list of items is entered into a map under the keys of the items. An item either keeps a
number that was chosen for it or takes the next one of the counter; of two items with one key
the later one counts.
-/

namespace Dbotter.Program

variable {κ ι : Type} [DecidableEq κ]

/-- A map of numbers and the next number that is free. -/
abbrev Numbering (κ : Type) := AList (fun _ : κ => Nat) × Nat

def assign (key : ι → κ) (keep : ι → Option Nat) (acc : Numbering κ) (item : ι) : Numbering κ :=
  match keep item with
  | some number => (acc.1.insert (key item) number, acc.2)
  | none => (acc.1.insert (key item) acc.2, acc.2 + 1)

/-- The last item with a key. -/
def latest (key : ι → κ) (items : List ι) (p : κ) : Option ι :=
  items.reverse.find? fun item => key item = p

variable {key : ι → κ} {keep : ι → Option Nat}

@[simp] theorem latest_nil (p : κ) : latest key [] p = none := rfl

theorem latest_snoc (items : List ι) (item : ι) (p : κ) :
    latest key (items ++ [item]) p = if key item = p then some item else latest key items p := by
  simp only [latest, List.reverse_append, List.reverse_singleton, List.singleton_append,
    List.find?_cons]
  by_cases h : key item = p <;> simp [h]

theorem latest_key {items : List ι} {p : κ} {item : ι} (h : latest key items p = some item) :
    key item = p := by
  simpa using List.find?_some h

theorem latest_mem {items : List ι} {p : κ} {item : ι} (h : latest key items p = some item) :
    item ∈ items :=
  List.mem_reverse.1 (List.mem_of_find?_eq_some h)

theorem latest_eq_none {items : List ι} {p : κ} :
    latest key items p = none ↔ ∀ item ∈ items, key item ≠ p := by
  simp [latest, List.find?_eq_none]

theorem latest_isSome {items : List ι} {p : κ} :
    (latest key items p).isSome ↔ ∃ item ∈ items, key item = p := by
  rw [Option.isSome_iff_ne_none, ne_eq, latest_eq_none]
  simp

/-- A map that is filled from a list holds the last item of each key. -/
theorem lookup_foldl_insert {β : Type} (key : ι → κ) (value : ι → β) (items : List ι) (p : κ) :
    (items.foldl (fun (m : AList fun _ : κ => β) item => m.insert (key item) (value item))
      ∅).lookup p = (latest key items p).map value := by
  induction items using List.reverseRecOn with
  | nil => rfl
  | append_singleton items item ih =>
    rw [List.foldl_append, latest_snoc]
    by_cases h : key item = p
    · subst h
      simp
    · simp only [List.foldl_cons, List.foldl_nil]
      rw [AList.lookup_insert_ne (Ne.symm h), ih, if_neg h]

/-- What a numbering of `items` from `m` and `n` on comes to. -/
structure Assigned (key : ι → κ) (keep : ι → Option Nat) (items : List ι) (m : AList fun _ : κ => Nat)
    (n : Nat) (r : Numbering κ) : Prop where
  le : n ≤ r.2
  other : ∀ p, latest key items p = none → r.1.lookup p = m.lookup p
  kept : ∀ p item number, latest key items p = some item → keep item = some number →
    r.1.lookup p = some number
  fresh : ∀ p item, latest key items p = some item → keep item = none →
    ∃ number, r.1.lookup p = some number ∧ n ≤ number ∧ number < r.2
  distinct : ∀ p q i j, latest key items p = some i → latest key items q = some j →
    keep i = none → keep j = none → r.1.lookup p = r.1.lookup q → p = q

theorem Assigned.snoc {items : List ι} {m : AList fun _ : κ => Nat} {n : Nat} {r : Numbering κ}
    (h : Assigned key keep items m n r) (item : ι) :
    Assigned key keep (items ++ [item]) m n (assign key keep r item) := by
  have hle : r.2 ≤ (assign key keep r item).2 := by
    unfold assign
    split
    · exact le_rfl
    · exact Nat.le_succ _
  have hother : ∀ p, key item ≠ p → (assign key keep r item).1.lookup p = r.1.lookup p := by
    intro p hp
    unfold assign
    split <;> exact AList.lookup_insert_ne (Ne.symm hp)
  have hself : keep item = none → (assign key keep r item).1.lookup (key item) = some r.2 ∧
      (assign key keep r item).2 = r.2 + 1 := by
    intro hkeep
    simp [assign, hkeep]
  have hfresh : ∀ p i, latest key (items ++ [item]) p = some i → keep i = none →
      ∃ number, (assign key keep r item).1.lookup p = some number ∧ n ≤ number ∧
        number < (assign key keep r item).2 := by
    intro p i hi hkeep
    rw [latest_snoc] at hi
    split at hi
    next hp =>
      cases hi
      subst hp
      refine ⟨r.2, (hself hkeep).1, h.le, ?_⟩
      rw [(hself hkeep).2]
      exact Nat.lt_succ_self _
    next hp =>
      obtain ⟨number, hnumber, hge, hlt⟩ := h.fresh p i hi hkeep
      exact ⟨number, by rwa [hother p hp], hge, lt_of_lt_of_le hlt hle⟩
  -- A number below `r.2` is not the one that the new item may take.
  have hne : ∀ q j, key item ≠ q → latest key items q = some j → keep j = none →
      keep item = none → (assign key keep r item).1.lookup (key item) ≠
        (assign key keep r item).1.lookup q := by
    intro q j hq hj hkeep hitem heq
    obtain ⟨number, hnumber, -, hlt⟩ := h.fresh q j hj hkeep
    rw [(hself hitem).1, hother q hq, hnumber] at heq
    exact absurd (Option.some.inj heq) (Nat.ne_of_gt hlt)
  refine ⟨le_trans h.le hle, ?_, ?_, hfresh, ?_⟩
  · intro p hp
    rw [latest_snoc] at hp
    split at hp
    · cases hp
    next hkey => rw [hother p hkey, h.other p hp]
  · intro p i number hi hkeep
    rw [latest_snoc] at hi
    split at hi
    next hp =>
      cases hi
      subst hp
      simp [assign, hkeep]
    next hp => rw [hother p hp, h.kept p i number hi hkeep]
  · intro p q i j hi hj hkeepi hkeepj heq
    rw [latest_snoc] at hi hj
    split at hi <;> split at hj
    next hp hq => rw [← hp, ← hq]
    next hp hq =>
      cases hi
      subst hp
      exact absurd heq (hne q j hq hj hkeepj hkeepi)
    next hp hq =>
      cases hj
      subst hq
      exact absurd heq.symm (hne p i hp hi hkeepi hkeepj)
    next hp hq =>
      rw [hother p hp, hother q hq] at heq
      exact h.distinct p q i j hi hj hkeepi hkeepj heq

theorem assigned (key : ι → κ) (keep : ι → Option Nat) (items : List ι)
    (m : AList fun _ : κ => Nat) (n : Nat) :
    Assigned key keep items m n (items.foldl (assign key keep) (m, n)) := by
  induction items using List.reverseRecOn with
  | nil =>
    refine ⟨le_rfl, fun _ _ => rfl, ?_, ?_, ?_⟩
    · intro p item number h
      cases h
    · intro p item h
      cases h
    · intro p q i j h
      cases h
  | append_singleton items item ih =>
    rw [List.foldl_append]
    exact ih.snoc item

end Dbotter.Program
