import Mathlib.Logic.Function.Basic
import Mathlib.Data.List.Basic

/-!
Codes that can be read back off the front of a longer list.

A code stays so behind a fixed header and behind a mark that tells whether there is a value at
all, and anything can be read back behind its length.
-/

namespace Dbotter.Codes

variable {α β ι : Type}

/-- On the values with `p`, the code and what follows it determine the value and the rest. -/
def PrefixFree (p : α → Prop) (encode : α → List ι) : Prop :=
  ∀ ⦃a b : α⦄ ⦃s t : List ι⦄, p a → p b → encode a ++ s = encode b ++ t → a = b ∧ s = t

/-- A code of fixed width that tells values apart. -/
theorem prefixFree_of_width {p : α → Prop} {encode : α → List ι} (width : Nat)
    (hwidth : ∀ a, (encode a).length = width)
    (hinj : ∀ ⦃a b⦄, p a → p b → encode a = encode b → a = b) : PrefixFree p encode := by
  intro a b s t ha hb h
  obtain ⟨hcode, hrest⟩ := List.append_inj h ((hwidth a).trans (hwidth b).symm)
  exact ⟨hinj ha hb hcode, hrest⟩

namespace PrefixFree

variable {p : α → Prop} {encode : α → List ι}

theorem inj (h : PrefixFree p encode) {a b : α} (ha : p a) (hb : p b)
    (heq : encode a = encode b) : a = b :=
  (h (s := []) (t := []) ha hb (by rw [heq])).1

/-- A header in front does not matter. -/
theorem header (h : PrefixFree p encode) (front : List ι) :
    PrefixFree p fun a => front ++ encode a := by
  intro a b s t ha hb heq
  rw [List.append_assoc, List.append_assoc] at heq
  exact h ha hb (List.append_cancel_left heq)

/-- The code of what a value stands for. -/
theorem comp (h : PrefixFree p encode) {f : β → α} (hf : Function.Injective f) :
    PrefixFree (fun b => p (f b)) fun b => encode (f b) := by
  intro a b s t ha hb heq
  obtain ⟨hvalue, hrest⟩ := h ha hb heq
  exact ⟨hf hvalue, hrest⟩

/-- A mark tells whether there is a value. -/
theorem option (h : PrefixFree p encode) {encodeOption : Option α → List ι} {present absent : ι}
    (hne : present ≠ absent) (hsome : ∀ a, encodeOption (some a) = present :: encode a)
    (hnone : encodeOption none = [absent]) :
    PrefixFree (fun o => ∀ a, o = some a → p a) encodeOption := by
  intro o o' s t ho ho' heq
  cases o with
  | none =>
    rw [hnone] at heq
    cases o' with
    | none =>
      rw [hnone] at heq
      exact ⟨rfl, List.append_cancel_left heq⟩
    | some b =>
      rw [hsome] at heq
      exact absurd (List.head_eq_of_cons_eq heq) hne.symm
  | some a =>
    rw [hsome] at heq
    cases o' with
    | none =>
      rw [hnone] at heq
      exact absurd (List.head_eq_of_cons_eq heq) hne
    | some b =>
      rw [hsome] at heq
      obtain ⟨hvalue, hrest⟩ := h (ho a rfl) (ho' b rfl) (List.tail_eq_of_cons_eq heq)
      exact ⟨congrArg some hvalue, hrest⟩

/-- Anything behind its length. -/
theorem lengthPrefixed {p : Nat → Prop} {encode : Nat → List ι} (h : PrefixFree p encode) :
    PrefixFree (fun value => p value.length) fun value : List ι => encode value.length ++ value := by
  intro v w s t hv hw heq
  rw [List.append_assoc, List.append_assoc] at heq
  obtain ⟨hlength, heq⟩ := h hv hw heq
  exact List.append_inj heq hlength

end PrefixFree

end Dbotter.Codes
