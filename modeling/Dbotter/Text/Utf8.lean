import Mathlib.Data.List.Basic
import Mathlib.Data.List.TakeWhile
import Mathlib.Data.List.Induction
import Mathlib.Algebra.BigOperators.Group.List.Basic
import Mathlib.Algebra.GroupWithZero.Nat

/-!
UTF-8 text seen both as characters and as bytes.

A `Text` is a valid UTF-8 string given by its characters; `bytes` is its
encoding and every index of the byte-level code is an offset into it. An offset
is a character boundary exactly when it is the encoded length of a prefix, so
the lemmas here are stated for a text split as `pre ++ rest` at the offset
`byteLen pre`. Slicing anywhere else is the `none` of `sliceFrom`.
-/

namespace Dbotter.Utf8

/-- A valid UTF-8 string, as the list of its characters. -/
abbrev Text := List Char

instance : LawfulBEq Text := inferInstance

def bytes (s : Text) : List UInt8 := s.flatMap String.utf8EncodeChar

def byteLen : Text → Nat
  | [] => 0
  | c :: s => c.utf8Size + byteLen s

/-- The characters from byte offset `n` on; `none` when `n` is past the end or
inside the encoding of a character. -/
def sliceFrom : Text → Nat → Option Text
  | s, 0 => some s
  | [], _ + 1 => none
  | c :: s, n + 1 => if c.utf8Size ≤ n + 1 then sliceFrom s (n + 1 - c.utf8Size) else none

/-- The characters before byte offset `n`, under the same condition. -/
def sliceTo : Text → Nat → Option Text
  | _, 0 => some []
  | [], _ + 1 => none
  | c :: s, n + 1 =>
      if c.utf8Size ≤ n + 1 then (sliceTo s (n + 1 - c.utf8Size)).map (c :: ·) else none

/-- `text.get(start..stop)`. -/
def slice (s : Text) (start stop : Nat) : Option Text :=
  if start ≤ stop then (sliceTo s stop).bind (fun p => sliceFrom p start) else none

def isAscii (c : Char) : Bool := c.toNat < 128

/-! ## Encoded lengths and boundaries -/

@[simp] theorem bytes_nil : bytes [] = [] := rfl

@[simp] theorem bytes_cons (c : Char) (s : Text) :
    bytes (c :: s) = String.utf8EncodeChar c ++ bytes s := rfl

@[simp] theorem bytes_append (s t : Text) : bytes (s ++ t) = bytes s ++ bytes t := by
  simp [bytes]

@[simp] theorem byteLen_nil : byteLen [] = 0 := rfl

@[simp] theorem byteLen_cons (c : Char) (s : Text) :
    byteLen (c :: s) = c.utf8Size + byteLen s := rfl

@[simp] theorem byteLen_append (s t : Text) : byteLen (s ++ t) = byteLen s + byteLen t := by
  induction s with
  | nil => simp
  | cons c s ih => simp [ih, Nat.add_assoc]

@[simp] theorem bytes_length (s : Text) : (bytes s).length = byteLen s := by
  induction s with
  | nil => rfl
  | cons c s ih => simp [ih]

theorem bytes_injective : Function.Injective bytes := by
  intro s t h
  apply String.ofList_injective
  apply String.toByteArray_inj.mp
  rw [String.toByteArray_ofList, String.toByteArray_ofList, List.utf8Encode, List.utf8Encode]
  exact congrArg List.toByteArray h

theorem byteLen_eq_zero {s : Text} : byteLen s = 0 ↔ s = [] := by
  cases s with
  | nil => simp
  | cons c s =>
      have := c.utf8Size_pos
      simp only [byteLen_cons, reduceCtorEq, iff_false]
      omega

theorem byteLen_pos {s : Text} : 0 < byteLen s ↔ s ≠ [] := by
  rw [Nat.pos_iff_ne_zero, ne_eq, byteLen_eq_zero]

theorem length_le_byteLen (s : Text) : s.length ≤ byteLen s := by
  induction s with
  | nil => simp
  | cons c s ih =>
      have := c.utf8Size_pos
      simp only [List.length_cons, byteLen_cons]
      omega

theorem drop_bytes (pre rest : Text) : (bytes (pre ++ rest)).drop (byteLen pre) = bytes rest := by
  rw [bytes_append, ← bytes_length pre, List.drop_left]

theorem take_bytes (pre rest : Text) : (bytes (pre ++ rest)).take (byteLen pre) = bytes pre := by
  rw [bytes_append, ← bytes_length pre, List.take_left]

theorem getElem?_bytes (pre rest : Text) (k : Nat) :
    (bytes (pre ++ rest))[byteLen pre + k]? = (bytes rest)[k]? := by
  rw [← drop_bytes pre rest, List.getElem?_drop]

theorem sliceFrom_append (pre rest : Text) :
    sliceFrom (pre ++ rest) (byteLen pre) = some rest := by
  induction pre with
  | nil => cases rest <;> rfl
  | cons c pre ih =>
      have hc := c.utf8Size_pos
      obtain ⟨n, hn⟩ : ∃ n, c.utf8Size + byteLen pre = n + 1 :=
        ⟨_, (Nat.succ_pred_eq_of_pos (by omega)).symm⟩
      have hr : n + 1 - c.utf8Size = byteLen pre := by omega
      simp only [List.cons_append, byteLen_cons, hn, sliceFrom, hr, ih]
      rw [if_pos (by omega)]

theorem sliceTo_append (pre rest : Text) :
    sliceTo (pre ++ rest) (byteLen pre) = some pre := by
  induction pre with
  | nil => cases rest <;> rfl
  | cons c pre ih =>
      have hc := c.utf8Size_pos
      obtain ⟨n, hn⟩ : ∃ n, c.utf8Size + byteLen pre = n + 1 :=
        ⟨_, (Nat.succ_pred_eq_of_pos (by omega)).symm⟩
      have hr : n + 1 - c.utf8Size = byteLen pre := by omega
      simp only [List.cons_append, byteLen_cons, hn, sliceTo, hr, ih, Option.map_some]
      rw [if_pos (by omega)]

theorem slice_append (pre mid rest : Text) :
    slice (pre ++ mid ++ rest) (byteLen pre) (byteLen (pre ++ mid)) = some mid := by
  unfold slice
  rw [if_pos (by simp), sliceTo_append, Option.bind_some, sliceFrom_append]

/-! ## ASCII bytes -/

/-- A list of characters is checked one by one. -/
theorem forall_mem_of_all {l : Text} {p : Char → Prop} [DecidablePred p]
    (h : (l.all fun c => decide (p c)) = true) : ∀ c ∈ l, p c := by
  simpa [List.all_eq_true] using h

theorem ascii_utf8Size {d : Char} (hd : isAscii d) : d.utf8Size = 1 := by
  rw [Char.utf8Size_eq_one_iff, UInt32.le_iff_toNat_le]
  have : d.val.toNat < 128 := by simpa [isAscii] using hd
  change d.val.toNat ≤ 127
  omega

theorem utf8EncodeChar_ascii {d : Char} (hd : isAscii d) :
    String.utf8EncodeChar d = [d.toUInt8] :=
  String.utf8EncodeChar_eq_singleton (ascii_utf8Size hd)

/-- Every byte of a character outside ASCII has its top bit set. -/
theorem le_of_mem_utf8EncodeChar {c : Char} (hc : ¬ isAscii c) {b : UInt8}
    (hb : b ∈ String.utf8EncodeChar c) : 128 ≤ b.toNat := by
  have hv : ¬ c.val.toNat < 128 := by simpa [isAscii] using hc
  have hmax : c.val.toNat ≤ 0x10ffff := by
    have := c.valid
    simp only [UInt32.isValidChar, Nat.isValidChar] at this
    omega
  unfold String.utf8EncodeChar at hb
  simp only at hb
  split at hb
  · omega
  · split at hb
    · simp only [List.mem_cons, List.not_mem_nil, or_false] at hb
      rcases hb with rfl | rfl <;> simp only [UInt8.toNat_ofNat'] <;> omega
    · split at hb
      · simp only [List.mem_cons, List.not_mem_nil, or_false] at hb
        rcases hb with rfl | rfl | rfl <;> simp only [UInt8.toNat_ofNat'] <;> omega
      · simp only [List.mem_cons, List.not_mem_nil, or_false] at hb
        rcases hb with rfl | rfl | rfl | rfl <;> simp only [UInt8.toNat_ofNat'] <;> omega

theorem toUInt8_toNat {d : Char} (hd : isAscii d) : d.toUInt8.toNat = d.toNat := by
  have : d.toNat < 128 := by simpa [isAscii] using hd
  change d.val.toNat % 256 = d.val.toNat
  change d.val.toNat < 128 at this
  omega

theorem toUInt8_inj {c d : Char} (hc : isAscii c) (hd : isAscii d) :
    c.toUInt8 = d.toUInt8 ↔ c = d := by
  refine ⟨fun h => ?_, fun h => h ▸ rfl⟩
  have hn : c.toNat = d.toNat := by rw [← toUInt8_toNat hc, ← toUInt8_toNat hd, h]
  exact Char.ext (UInt32.toNat_inj.mp hn)

/-- An ASCII byte occurs in the encoding of no other character. -/
theorem mem_utf8EncodeChar {d : Char} (hd : isAscii d) (c : Char) :
    d.toUInt8 ∈ String.utf8EncodeChar c ↔ c = d := by
  by_cases hc : isAscii c
  · rw [utf8EncodeChar_ascii hc, List.mem_singleton, eq_comm, toUInt8_inj hc hd]
  · constructor
    · intro h
      have h1 := le_of_mem_utf8EncodeChar hc h
      have h2 : d.toNat < 128 := by simpa [isAscii] using hd
      rw [toUInt8_toNat hd] at h1
      omega
    · rintro rfl
      exact absurd hd hc

/-- The first byte of a nonempty text tells its first character apart from any
given ASCII character. -/
theorem bytes_head_eq {d : Char} (hd : isAscii d) (c : Char) (s : Text) :
    (bytes (c :: s))[0]? = some d.toUInt8 ↔ c = d := by
  have hne := @String.utf8EncodeChar_ne_nil c
  constructor
  · intro h
    rw [← mem_utf8EncodeChar hd]
    obtain ⟨b, bs, hb⟩ := List.exists_cons_of_ne_nil hne
    rw [bytes_cons, hb] at h
    simp only [List.cons_append, List.getElem?_cons_zero, Option.some.injEq] at h
    rw [hb, ← h]
    exact List.mem_cons_self
  · rintro rfl
    rw [bytes_cons, utf8EncodeChar_ascii hd]
    rfl

theorem bytes_ascii_cons {d : Char} (hd : isAscii d) (s : Text) :
    bytes (d :: s) = d.toUInt8 :: bytes s := by
  rw [bytes_cons, utf8EncodeChar_ascii hd]
  rfl

/-! ## Searching for ASCII bytes -/

theorem beq_of_mem_utf8EncodeChar {d c : Char} (hd : isAscii d) (hc : c ≠ d) {b : UInt8}
    (hb : b ∈ String.utf8EncodeChar c) : (b == d.toUInt8) = false := by
  rw [beq_eq_false_iff_ne]
  rintro rfl
  exact hc ((mem_utf8EncodeChar hd c).mp hb)

theorem mem_bytes {d : Char} (hd : isAscii d) (s : Text) : d.toUInt8 ∈ bytes s ↔ d ∈ s := by
  induction s with
  | nil => simp
  | cons c s ih => rw [bytes_cons, List.mem_append, ih, mem_utf8EncodeChar hd, List.mem_cons, eq_comm]

/-- A text starts with given ASCII characters when its encoding starts with
their bytes. -/
theorem take_bytes_eq_iff (p : List Char) (hp : ∀ c ∈ p, isAscii c) (s : Text) :
    (bytes s).take p.length = p.map Char.toUInt8 ↔ p <+: s := by
  induction p generalizing s with
  | nil => simp
  | cons d p ih =>
      have hd := hp d List.mem_cons_self
      cases s with
      | nil => simp
      | cons c s =>
          by_cases hc : c = d
          · subst hc
            have htail := ih (fun e he => hp e (List.mem_cons_of_mem _ he)) s
            rw [bytes_ascii_cons hd, List.length_cons, List.take_succ_cons, List.map_cons,
              List.cons_prefix_cons, ← htail]
            simp
          · have hne : (bytes (c :: s)).take (p.length + 1) ≠ d.toUInt8 :: p.map Char.toUInt8 := by
              intro h
              apply hc
              rw [← bytes_head_eq hd c s, ← List.getElem?_take_of_lt (Nat.succ_pos p.length), h]
              rfl
            simp only [List.length_cons, List.map_cons, hne, List.cons_prefix_cons, false_iff]
            rintro ⟨rfl, -⟩
            exact hc rfl

theorem length_takeWhile_bytes {d : Char} (hd : isAscii d) (s : Text) :
    ((bytes s).takeWhile (· == d.toUInt8)).length = (s.takeWhile (· == d)).length := by
  induction s with
  | nil => rfl
  | cons c s ih =>
      by_cases hc : c = d
      · subst hc
        simp [bytes_ascii_cons hd, ih]
      · obtain ⟨b, bs, hb⟩ := List.exists_cons_of_ne_nil (@String.utf8EncodeChar_ne_nil c)
        have hbd := beq_of_mem_utf8EncodeChar hd hc (hb ▸ List.mem_cons_self)
        rw [bytes_cons, hb, List.cons_append, List.takeWhile_cons, List.takeWhile_cons, hbd]
        simp [hc]

theorem length_takeWhile_reverse_bytes {d : Char} (hd : isAscii d) (s : Text) :
    ((bytes s).reverse.takeWhile (· == d.toUInt8)).length =
      (s.reverse.takeWhile (· == d)).length := by
  induction s using List.reverseRecOn with
  | nil => rfl
  | append_singleton s c ih =>
      by_cases hc : c = d
      · subst hc
        simp [utf8EncodeChar_ascii hd, ih]
      · obtain ⟨bs, b, hb⟩ :=
          (List.eq_nil_or_concat' _).resolve_left (@String.utf8EncodeChar_ne_nil c)
        have hbd := beq_of_mem_utf8EncodeChar hd hc (hb ▸ List.mem_concat_self)
        rw [bytes_append, bytes_cons, hb, bytes_nil, List.append_nil, ← List.append_assoc,
          List.reverse_concat, List.reverse_concat, List.takeWhile_cons, List.takeWhile_cons, hbd]
        simp [hc]

theorem findIdx?_bytes {d : Char} (hd : isAscii d) (s : Text) :
    ((bytes s).findIdx? (· == d.toUInt8)).getD (byteLen s) =
      byteLen (s.takeWhile (· != d)) := by
  induction s with
  | nil => rfl
  | cons c s ih =>
      by_cases hc : c = d
      · subst hc
        rw [bytes_ascii_cons hd, List.findIdx?_cons]
        simp
      · have hnone : (String.utf8EncodeChar c).findIdx? (· == d.toUInt8) = none :=
          List.findIdx?_eq_none_iff.mpr fun b hb => beq_of_mem_utf8EncodeChar hd hc hb
        rw [bytes_cons, List.findIdx?_append, hnone, List.takeWhile_cons]
        simp only [bne_iff_ne, ne_eq, hc, not_false_eq_true, if_true, byteLen_cons, ← ih]
        cases (bytes s).findIdx? (· == d.toUInt8) with
        | none => simp
        | some i => simp [Nat.add_comm]

end Dbotter.Utf8
