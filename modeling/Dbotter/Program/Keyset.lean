import Mathlib.Data.List.Sort

/-!
Listings in key order, read from a key on.

A listing is strictly ordered by a key into a linear order. Reading it after the key of one of
its members gives exactly the members behind that one, so a cursor that is a key never skips or
repeats one.
-/

namespace Dbotter.Program.Keyset

variable {α β κ : Type*} [LinearOrder κ]

/-- `ORDER BY key`. -/
def sortBy (key : α → κ) (l : List α) : List α := l.insertionSort (fun a b => key a ≤ key b)

def Ordered (key : α → κ) (l : List α) : Prop := l.Pairwise (fun a b => key a < key b)

/-- The members behind a key. -/
def after (key : α → κ) (k : κ) (l : List α) : List α := l.filter (fun a => k < key a)

variable {key : α → κ} {l : List α}

theorem sortBy_perm (key : α → κ) (l : List α) : (sortBy key l).Perm l :=
  List.perm_insertionSort _ l

@[simp] theorem mem_sortBy {a : α} : a ∈ sortBy key l ↔ a ∈ l := (sortBy_perm key l).mem_iff

theorem ordered_sortBy (h : (l.map key).Nodup) : Ordered key (sortBy key l) := by
  have htotal : Std.Total (fun a b : α => key a ≤ key b) := ⟨fun a b => le_total _ _⟩
  have htrans : IsTrans α (fun a b : α => key a ≤ key b) := ⟨fun a b c => le_trans⟩
  have hle := List.pairwise_insertionSort (fun a b : α => key a ≤ key b) l
  have hne : (sortBy key l).Pairwise (fun a b => key a ≠ key b) :=
    List.pairwise_map.mp (((sortBy_perm key l).map key).nodup_iff.mpr h)
  exact hle.imp₂ (fun a b hab hnab => lt_of_le_of_ne hab hnab) hne

/-- A listing is determined by its members. -/
theorem Ordered.eq_of_perm {l' : List α} (h : Ordered key l) (h' : Ordered key l')
    (hperm : l.Perm l') : l = l' :=
  hperm.eq_of_pairwise (fun _ _ _ _ hab hba => absurd hab (lt_asymm hba)) h h'

theorem Ordered.nodup (h : Ordered key l) : l.Nodup :=
  h.imp fun hab heq => absurd (congrArg key heq) (ne_of_lt hab)

theorem Ordered.filter (h : Ordered key l) (p : α → Bool) : Ordered key (l.filter p) :=
  List.Pairwise.filter p h

theorem sortBy_filter (h : (l.map key).Nodup) (p : α → Bool) :
    sortBy key (l.filter p) = (sortBy key l).filter p := by
  have hsub : ((l.filter p).map key).Nodup := h.sublist (List.filter_sublist.map key)
  have hperm : (sortBy key (l.filter p)).Perm ((sortBy key l).filter p) :=
    (sortBy_perm key _).trans ((sortBy_perm key l).filter p).symm
  exact (ordered_sortBy hsub).eq_of_perm ((ordered_sortBy h).filter p) hperm

theorem sortBy_map (f : β → α) {l : List β} (h : (l.map (key ∘ f)).Nodup) :
    sortBy key (l.map f) = (sortBy (key ∘ f) l).map f := by
  have hmap : ((l.map f).map key).Nodup := by rwa [List.map_map]
  have hright : Ordered key ((sortBy (key ∘ f) l).map f) :=
    List.pairwise_map.mpr (ordered_sortBy h)
  have hperm : (sortBy key (l.map f)).Perm ((sortBy (key ∘ f) l).map f) :=
    (sortBy_perm key _).trans ((sortBy_perm (key ∘ f) l).map f).symm
  exact (ordered_sortBy hmap).eq_of_perm hright hperm

/-- Only the order of the keys matters. -/
theorem sortBy_congr {κ' : Type*} [LinearOrder κ'] {f : α → κ'}
    (h : ∀ a b, key a ≤ key b ↔ f a ≤ f b) (l : List α) : sortBy key l = sortBy f l := by
  have hrel : (fun a b : α => key a ≤ key b) = (fun a b => f a ≤ f b) := by
    funext a b
    exact propext (h a b)
  unfold sortBy
  congr!

/-- A query that filters rows, orders them by a key and cuts them off reads the listing of what
the rows stand for, from a key on. -/
theorem query_eq {κ' : Type*} [LinearOrder κ'] {rowKey : β → κ'} {f : β → α}
    (hkey : ∀ a b, rowKey a ≤ rowKey b ↔ key (f a) ≤ key (f b)) {rows : List β}
    {isMatch behind : β → Bool} {k : κ}
    (hbehind : ∀ row ∈ rows, isMatch row = true → behind row = decide (k < key (f row)))
    (hnodup : ((rows.filter isMatch).map (key ∘ f)).Nodup) (limit : Nat) :
    ((sortBy rowKey (rows.filter fun row => isMatch row && behind row)).take limit).map f =
      (after key k (sortBy key ((rows.filter isMatch).map f))).take limit := by
  have hfilter : rows.filter (fun row => isMatch row && behind row) =
      (rows.filter isMatch).filter (fun row => decide (k < key (f row))) := by
    rw [List.filter_filter]
    apply List.filter_congr
    intro row hrow
    cases hmatch : isMatch row with
    | false => simp
    | true => simp [hbehind row hrow hmatch]
  rw [hfilter, sortBy_congr (f := key ∘ f) hkey, sortBy_filter hnodup, List.map_take]
  unfold after
  rw [sortBy_map f hnodup, List.filter_map]
  rfl

/-- Behind a key that is below every member stands the whole listing. -/
theorem after_eq_self {k : κ} (h : ∀ a ∈ l, k < key a) : after key k l = l :=
  List.filter_eq_self.mpr fun a ha => decide_eq_true (h a ha)

/-- Behind the key of a member stands what follows it. -/
theorem Ordered.after_member {before behind : List α} {a : α}
    (h : Ordered key (before ++ a :: behind)) :
    after key (key a) (before ++ a :: behind) = behind := by
  obtain ⟨-, hbehind, hbefore⟩ := List.pairwise_append.mp h
  have hlow : before.filter (fun b => decide (key a < key b)) = [] :=
    List.filter_eq_nil_iff.mpr fun b hb hlt =>
      absurd (of_decide_eq_true hlt) (lt_asymm (hbefore b hb a List.mem_cons_self))
  have hhigh : behind.filter (fun b => decide (key a < key b)) = behind :=
    List.filter_eq_self.mpr fun b hb => decide_eq_true (List.rel_of_pairwise_cons hbehind hb)
  unfold after
  rw [List.filter_append, hlow, List.filter_cons_of_neg (by simp), hhigh, List.nil_append]

end Dbotter.Program.Keyset
