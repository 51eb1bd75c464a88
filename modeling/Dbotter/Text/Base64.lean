import Mathlib.Data.Option.Basic
import Dbotter.Text.Utf8

/-!
Base64 over the alphabet that is safe in URLs, without padding.

Three bytes are four digits; one or two bytes at the end are two or three digits, whose unused
bits are zero. Decoding refuses every other text.
-/

namespace Dbotter.Base64
open Dbotter.Utf8

def alphabet : List Char :=
  "ABCDEFGHIJKLMNOPQRSTUVWXYZabcdefghijklmnopqrstuvwxyz0123456789-_".toList

def digit (n : Nat) : Char := alphabet.getD n 'A'

def value (c : Char) : Option Nat := alphabet.idxOf? c

def encode : List UInt8 → Text
  | [] => []
  | [a] => [digit (a.toNat / 4), digit (a.toNat % 4 * 16)]
  | [a, b] =>
    [digit (a.toNat / 4), digit (a.toNat % 4 * 16 + b.toNat / 16), digit (b.toNat % 16 * 4)]
  | a :: b :: c :: rest =>
    digit (a.toNat / 4) :: digit (a.toNat % 4 * 16 + b.toNat / 16) ::
      digit (b.toNat % 16 * 4 + c.toNat / 64) :: digit (c.toNat % 64) :: encode rest

def decode : Text → Option (List UInt8)
  | [] => some []
  | [_] => none
  | [x, y] => do
    let x ← value x
    let y ← value y
    guard (y % 16 = 0)
    return [UInt8.ofNat (x * 4 + y / 16)]
  | [x, y, z] => do
    let x ← value x
    let y ← value y
    let z ← value z
    guard (z % 4 = 0)
    return [UInt8.ofNat (x * 4 + y / 16), UInt8.ofNat (y % 16 * 16 + z / 4)]
  | x :: y :: z :: w :: rest => do
    let x ← value x
    let y ← value y
    let z ← value z
    let w ← value w
    let bytes ← decode rest
    return UInt8.ofNat (x * 4 + y / 16) :: UInt8.ofNat (y % 16 * 16 + z / 4) ::
      UInt8.ofNat (z % 4 * 64 + w) :: bytes

theorem value_digit {n : Nat} (h : n < 64) : value (digit n) = some n := by
  revert n
  decide

theorem digit_mem_alphabet (n : Nat) : digit n ∈ alphabet := by
  unfold digit
  rw [List.getD_eq_getElem?_getD]
  cases hn : alphabet[n]? with
  | none => decide
  | some c => exact List.mem_of_getElem? hn

theorem ofNat_eq {a : UInt8} {n : Nat} (h : n = a.toNat) : UInt8.ofNat n = a := by
  rw [h, UInt8.ofNat_toNat]

/-- **Round trip.** What was encoded is read back. -/
theorem decode_encode (bytes : List UInt8) : decode (encode bytes) = some bytes := by
  fun_induction encode bytes with
  | case1 => rfl
  | case2 a =>
    have ha := a.toNat_lt
    simp only [decode, value_digit (show a.toNat / 4 < 64 by omega),
      value_digit (show a.toNat % 4 * 16 < 64 by omega), Option.bind_eq_bind, Option.bind_some]
    rw [ofNat_eq (a := a) (by omega)]
    simp [guard]
  | case3 a b =>
    have ha := a.toNat_lt
    have hb := b.toNat_lt
    simp only [decode, value_digit (show a.toNat / 4 < 64 by omega),
      value_digit (show a.toNat % 4 * 16 + b.toNat / 16 < 64 by omega),
      value_digit (show b.toNat % 16 * 4 < 64 by omega), Option.bind_eq_bind, Option.bind_some]
    rw [ofNat_eq (a := a) (by omega), ofNat_eq (a := b) (by omega)]
    simp [guard]
  | case4 a b c rest ih =>
    have ha := a.toNat_lt
    have hb := b.toNat_lt
    have hc := c.toNat_lt
    simp only [decode, value_digit (show a.toNat / 4 < 64 by omega),
      value_digit (show a.toNat % 4 * 16 + b.toNat / 16 < 64 by omega),
      value_digit (show b.toNat % 16 * 4 + c.toNat / 64 < 64 by omega),
      value_digit (show c.toNat % 64 < 64 by omega), ih, Option.bind_eq_bind, Option.bind_some]
    rw [ofNat_eq (a := a) (by omega), ofNat_eq (a := b) (by omega), ofNat_eq (a := c) (by omega)]
    rfl

theorem encode_injective : Function.Injective encode := by
  intro a b h
  have hab := congrArg decode h
  rw [decode_encode, decode_encode] at hab
  exact Option.some.inj hab

theorem mem_alphabet_of_mem_encode {bytes : List UInt8} {c : Char} (h : c ∈ encode bytes) :
    c ∈ alphabet := by
  fun_induction encode bytes with
  | case1 => cases h
  | case2 a =>
    simp only [List.mem_cons, List.not_mem_nil, or_false] at h
    rcases h with rfl | rfl <;> exact digit_mem_alphabet _
  | case3 a b =>
    simp only [List.mem_cons, List.not_mem_nil, or_false] at h
    rcases h with rfl | rfl | rfl <;> exact digit_mem_alphabet _
  | case4 a b c rest ih =>
    simp only [List.mem_cons] at h
    rcases h with rfl | rfl | rfl | rfl | hrest
    · exact digit_mem_alphabet _
    · exact digit_mem_alphabet _
    · exact digit_mem_alphabet _
    · exact digit_mem_alphabet _
    · exact ih hrest

/-- The separator of a compound text does not occur in an encoding. -/
theorem dot_not_mem_encode (bytes : List UInt8) : '.' ∉ encode bytes :=
  fun h => absurd (mem_alphabet_of_mem_encode h) (by decide)

/-! ## The standard alphabet, with padding -/

def standardDigit (c : Char) : Char := if c == '-' then '+' else if c == '_' then '/' else c

def urlDigit (c : Char) : Char := if c == '+' then '-' else if c == '/' then '_' else c

def encodeStandard (bytes : List UInt8) : Text :=
  (encode bytes).map standardDigit ++ List.replicate ((3 - bytes.length % 3) % 3) '='

def decodeStandard (text : Text) : Option (List UInt8) :=
  decode ((text.takeWhile (· != '=')).map urlDigit)

theorem decodeStandard_encodeStandard (bytes : List UInt8) :
    decodeStandard (encodeStandard bytes) = some bytes := by
  have hdigit : ∀ c ∈ alphabet, urlDigit (standardDigit c) = c ∧ standardDigit c ≠ '=' :=
    forall_mem_of_all (by decide +kernel)
  have hkeep : ∀ c ∈ (encode bytes).map standardDigit, (c != '=') = true := by
    intro c hc
    obtain ⟨d, hd, rfl⟩ := List.mem_map.mp hc
    simpa using (hdigit d (mem_alphabet_of_mem_encode hd)).2
  have hpad : (List.replicate ((3 - bytes.length % 3) % 3) '=').takeWhile (· != '=') = [] := by
    cases (3 - bytes.length % 3) % 3 <;> rfl
  have hback : ((encode bytes).map standardDigit).map urlDigit = encode bytes := by
    rw [List.map_map]
    refine (List.map_congr_left fun c hc => ?_).trans (List.map_id _)
    exact (hdigit c (mem_alphabet_of_mem_encode hc)).1
  rw [decodeStandard, encodeStandard, List.takeWhile_append_of_pos hkeep, hpad, List.append_nil,
    hback, decode_encode]

end Dbotter.Base64
