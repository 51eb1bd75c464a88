import Dbotter.Text.Json

/-! Decimal texts of integers. -/

namespace Dbotter.Numerals
open Dbotter.Utf8 Dbotter.Json

def natText (n : Nat) : Text := Nat.toDigits 10 n

def intText : Int → Text
  | .ofNat n => natText n
  | .negSucc n => '-' :: natText (n + 1)

def readNat (s : Text) : Option Nat :=
  if s ≠ [] ∧ s.all Char.isDigit then some (Nat.ofDigitChars 10 s 0) else none

def readInt : Text → Option Int
  | '-' :: s => (readNat s).map fun n => -(n : Int)
  | s => (readNat s).map fun n => (n : Int)

theorem natText_ne_nil (n : Nat) : natText n ≠ [] := Nat.toDigits_ne_nil

theorem isDigit_of_mem_natText {n : Nat} {c : Char} (h : c ∈ natText n) : c.isDigit = true :=
  Nat.isDigit_of_mem_toDigits (by decide) (by decide) h

theorem readNat_natText (n : Nat) : readNat (natText n) = some n := by
  have hall : (natText n).all Char.isDigit = true :=
    List.all_eq_true.mpr fun _ hc => isDigit_of_mem_natText hc
  rw [readNat, if_pos ⟨natText_ne_nil n, hall⟩, natText, Nat.ofDigitChars_ten_toDigits]

theorem natText_head (n : Nat) : ∃ c s, natText n = c :: s ∧ c.isDigit = true := by
  obtain ⟨c, s, hcs⟩ := List.exists_cons_of_ne_nil (natText_ne_nil n)
  refine ⟨c, s, hcs, isDigit_of_mem_natText (n := n) ?_⟩
  rw [hcs]
  exact List.mem_cons_self

theorem readInt_intText (z : Int) : readInt (intText z) = some z := by
  cases z with
  | ofNat n =>
      obtain ⟨c, s, hcs, hc⟩ := natText_head n
      have hread := readNat_natText n
      rw [intText]
      rw [hcs] at hread ⊢
      unfold readInt
      split
      · next heq =>
        obtain ⟨rfl, -⟩ := List.cons.inj heq
        exact absurd hc (by decide)
      · rw [hread]
        rfl
  | negSucc n =>
      rw [intText, readInt, readNat_natText]
      rfl

/-- Only zero has a text that starts with the digit zero. -/
theorem natText_head_ne_zero {n : Nat} (hn : 0 < n) : (natText n).head? ≠ some '0' := by
  induction n using Nat.strong_induction_on with
  | _ n ih =>
      unfold natText at ih ⊢
      by_cases hlt : n < 10
      · have hdigit : ∀ m < 10, 0 < m → Nat.digitChar m ≠ '0' := by decide
        rw [Nat.toDigits_of_lt_base hlt]
        simpa using hdigit n hlt hn
      · have hrest := ih (n / 10) (by omega) (by omega)
        rw [Nat.toDigits_of_base_le (by decide) (by omega)]
        rwa [List.head?_append_of_ne_nil _ Nat.toDigits_ne_nil]

theorem dropWhile_digits {s : Text} (h : ∀ c ∈ s, c.isDigit = true) : s.dropWhile Char.isDigit = [] :=
  List.dropWhile_eq_nil_iff.mpr h

theorem isNumber_natText (n : Nat) : isNumber (natText n) = true := by
  have hdigits : ∀ c ∈ natText n, c.isDigit = true := fun c hc => isDigit_of_mem_natText hc
  have hall : (natText n).all isNumberChar = true := by
    rw [List.all_eq_true]
    intro c hc
    simp [isNumberChar, hdigits c hc]
  have hint : intEnd (unsigned (natText n)) = some [] := by
    by_cases hn : n = 0
    · subst hn
      rfl
    · have hhead := natText_head_ne_zero (Nat.pos_of_ne_zero hn)
      obtain ⟨c, s, hcs, hc⟩ := natText_head n
      rw [hcs] at hhead hdigits ⊢
      have hs : s.dropWhile Char.isDigit = [] :=
        dropWhile_digits fun x hx => hdigits x (List.mem_cons_of_mem c hx)
      have hunsigned : unsigned (c :: s) = c :: s := by
        unfold unsigned
        split
        · next heq =>
          obtain ⟨rfl, -⟩ := List.cons.inj heq
          exact absurd hc (by decide)
        · rfl
      rw [hunsigned]
      unfold intEnd
      split
      · next heq =>
        obtain ⟨rfl, -⟩ := List.cons.inj heq
        exact absurd rfl hhead
      · simp [digitsEnd, hc, hs]
  rw [isNumber, hall, hint]
  rfl

end Dbotter.Numerals
