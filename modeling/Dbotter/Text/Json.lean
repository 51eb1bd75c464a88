import Mathlib.Data.List.Chain
import Mathlib.Data.Char
import Mathlib.Data.List.Lex
import Dbotter.Text.Utf8

/-!
JSON documents: values, a reader for RFC 8259 texts and the compact printer.

The reader works in two passes, characters to tokens and tokens to a value. Numbers stay
literals; a value over another number type becomes a document by `map`. What is printed is read
back (`parse_print`), so a program that shows its output to be the print of some document has
shown it to be well formed and unambiguous.
-/

namespace Dbotter.Json
open Dbotter.Utf8

/-- A JSON value over a type of numbers. An object lists its fields in the order they came in. -/
inductive Value (ν : Type)
  | null
  | bool (b : Bool)
  | number (n : ν)
  | string (s : Text)
  | array (items : List (Value ν))
  | object (fields : List (Text × Value ν))

inductive Tok
  | lbracket
  | rbracket
  | lbrace
  | rbrace
  | comma
  | colon
  | null
  | bool (b : Bool)
  | str (s : Text)
  | num (literal : Text)
  deriving DecidableEq, Repr

/-! ## Numbers -/

def isNumberChar (c : Char) : Bool :=
  c.isDigit || c == '-' || c == '+' || c == '.' || c == 'e' || c == 'E'

def digitsEnd : Text → Option Text
  | [] => none
  | c :: r => if c.isDigit then some (r.dropWhile Char.isDigit) else none

def intEnd : Text → Option Text
  | '0' :: r => some r
  | r => digitsEnd r

def fracEnd : Text → Option Text
  | '.' :: r => digitsEnd r
  | r => some r

def expEnd : Text → Option Text
  | [] => some []
  | c :: r =>
      if c == 'e' || c == 'E' then
        match r with
        | '+' :: r => digitsEnd r
        | '-' :: r => digitsEnd r
        | r => digitsEnd r
      else some (c :: r)

def unsigned : Text → Text
  | '-' :: r => r
  | r => r

/-- The number grammar. -/
def isNumber (literal : Text) : Bool :=
  literal.all isNumberChar &&
    (((intEnd (unsigned literal)).bind fracEnd).bind expEnd) == some []

/-! ## Strings -/

def hexValue (c : Char) : Option Nat :=
  if '0' ≤ c ∧ c ≤ '9' then some (c.toNat - 48)
  else if 'a' ≤ c ∧ c ≤ 'f' then some (c.toNat - 87)
  else if 'A' ≤ c ∧ c ≤ 'F' then some (c.toNat - 55)
  else none

def readHex4 : Text → Option (Nat × Text)
  | a :: b :: c :: d :: r => do
      let a ← hexValue a
      let b ← hexValue b
      let c ← hexValue c
      let d ← hexValue d
      return (a * 4096 + b * 256 + c * 16 + d, r)
  | _ => none

/-- The character of `\u` escapes: one code unit, or a surrogate pair. -/
def readUnicode (r : Text) : Option (Char × Text) := do
  let (high, r) ← readHex4 r
  if 0xD800 ≤ high ∧ high < 0xDC00 then
    match r with
    | '\\' :: 'u' :: r => do
        let (low, r) ← readHex4 r
        if 0xDC00 ≤ low ∧ low < 0xE000 then
          return (Char.ofNat (0x10000 + (high - 0xD800) * 0x400 + (low - 0xDC00)), r)
        else none
    | _ => none
  else if 0xDC00 ≤ high ∧ high < 0xE000 then none
  else return (Char.ofNat high, r)

def readEscape : Text → Option (Char × Text)
  | '"' :: r => some ('"', r)
  | '\\' :: r => some ('\\', r)
  | '/' :: r => some ('/', r)
  | 'b' :: r => some ('\x08', r)
  | 'f' :: r => some ('\x0c', r)
  | 'n' :: r => some ('\n', r)
  | 'r' :: r => some ('\r', r)
  | 't' :: r => some ('\t', r)
  | 'u' :: r => readUnicode r
  | _ => none

/-- A string behind its opening quote, and what follows it. -/
def readString : Nat → Text → Option (Text × Text)
  | 0, _ => none
  | _, [] => none
  | fuel + 1, c :: r =>
      if c == '"' then some ([], r)
      else if c == '\\' then
        (readEscape r).bind fun p => (readString fuel p.2).map fun q => (p.1 :: q.1, q.2)
      else if c.toNat < 32 then none
      else (readString fuel r).map fun q => (c :: q.1, q.2)

/-! ## Reading -/

def isBlank (c : Char) : Bool := c == ' ' || c == '\t' || c == '\n' || c == '\r'

def nextTok : Text → Option (Tok × Text)
  | '[' :: r => some (.lbracket, r)
  | ']' :: r => some (.rbracket, r)
  | '{' :: r => some (.lbrace, r)
  | '}' :: r => some (.rbrace, r)
  | ',' :: r => some (.comma, r)
  | ':' :: r => some (.colon, r)
  | '"' :: r => (readString (r.length + 1) r).map fun p => (.str p.1, p.2)
  | 'n' :: 'u' :: 'l' :: 'l' :: r => some (.null, r)
  | 't' :: 'r' :: 'u' :: 'e' :: r => some (.bool true, r)
  | 'f' :: 'a' :: 'l' :: 's' :: 'e' :: r => some (.bool false, r)
  | s =>
      if isNumber (s.takeWhile isNumberChar) then
        some (.num (s.takeWhile isNumberChar), s.dropWhile isNumberChar)
      else none

/-- The tokens of a text; blanks may stand around each. -/
def lexFuel : Nat → Text → Option (List Tok)
  | fuel, s =>
      match fuel, s.dropWhile isBlank with
      | _, [] => some []
      | 0, _ => none
      | fuel + 1, s => (nextTok s).bind fun p => (lexFuel fuel p.2).map (p.1 :: ·)

def lex (s : Text) : Option (List Tok) := lexFuel s.length s

mutual

def parseValue : Nat → List Tok → Option (Value Text × List Tok)
  | 0, _ => none
  | _ + 1, .null :: ts => some (.null, ts)
  | _ + 1, .bool b :: ts => some (.bool b, ts)
  | _ + 1, .num literal :: ts => some (.number literal, ts)
  | _ + 1, .str s :: ts => some (.string s, ts)
  | _ + 1, .lbracket :: .rbracket :: ts => some (.array [], ts)
  | fuel + 1, .lbracket :: ts => (parseItems fuel ts).map fun p => (.array p.1, p.2)
  | _ + 1, .lbrace :: .rbrace :: ts => some (.object [], ts)
  | fuel + 1, .lbrace :: ts => (parseFields fuel ts).map fun p => (.object p.1, p.2)
  | _ + 1, _ => none

/-- The items of an array up to its closing bracket. -/
def parseItems : Nat → List Tok → Option (List (Value Text) × List Tok)
  | 0, _ => none
  | fuel + 1, ts =>
      match parseValue fuel ts with
      | some (v, .rbracket :: ts) => some ([v], ts)
      | some (v, .comma :: ts) => (parseItems fuel ts).map fun p => (v :: p.1, p.2)
      | _ => none

def parseFields : Nat → List Tok → Option (List (Text × Value Text) × List Tok)
  | 0, _ => none
  | fuel + 1, .str key :: .colon :: ts =>
      match parseValue fuel ts with
      | some (v, .rbrace :: ts) => some ([(key, v)], ts)
      | some (v, .comma :: ts) => (parseFields fuel ts).map fun p => ((key, v) :: p.1, p.2)
      | _ => none
  | _ + 1, _ => none

end

/-- The value of a text that is one document. -/
def parse (s : Text) : Option (Value Text) :=
  (lex s).bind fun ts =>
    match parseValue ts.length ts with
    | some (v, []) => some v
    | _ => none

/-! ## Printing -/

def hexDigit (n : Nat) : Char := "0123456789abcdef".toList.getD n '0'

def escapeChar (c : Char) : Text :=
  if c == '"' then ['\\', '"']
  else if c == '\\' then ['\\', '\\']
  else if c == '\x08' then ['\\', 'b']
  else if c == '\x0c' then ['\\', 'f']
  else if c == '\n' then ['\\', 'n']
  else if c == '\r' then ['\\', 'r']
  else if c == '\t' then ['\\', 't']
  else if c.toNat < 32 then ['\\', 'u', '0', '0', hexDigit (c.toNat / 16), hexDigit (c.toNat % 16)]
  else [c]

def Tok.text : Tok → Text
  | lbracket => ['[']
  | rbracket => [']']
  | lbrace => ['{']
  | rbrace => ['}']
  | comma => [',']
  | colon => [':']
  | null => ['n', 'u', 'l', 'l']
  | bool true => ['t', 'r', 'u', 'e']
  | bool false => ['f', 'a', 'l', 's', 'e']
  | str s => '"' :: s.flatMap escapeChar ++ ['"']
  | num literal => literal

mutual

def toks : Value Text → List Tok
  | .null => [.null]
  | .bool b => [.bool b]
  | .number literal => [.num literal]
  | .string s => [.str s]
  | .array items => .lbracket :: itemToks items ++ [.rbracket]
  | .object fields => .lbrace :: fieldToks fields ++ [.rbrace]

def itemToks : List (Value Text) → List Tok
  | [] => []
  | [v] => toks v
  | v :: w :: vs => toks v ++ .comma :: itemToks (w :: vs)

def fieldToks : List (Text × Value Text) → List Tok
  | [] => []
  | [(key, v)] => .str key :: .colon :: toks v
  | (key, v) :: w :: fs => .str key :: .colon :: toks v ++ .comma :: fieldToks (w :: fs)

end

/-- The compact text of a document. -/
def print (v : Value Text) : Text := (toks v).flatMap Tok.text

/-! ## Strings are read back -/

theorem hexValue_hexDigit : ∀ n < 16, hexValue (hexDigit n) = some n := by decide +kernel

theorem readUnicode_control {c : Char} (hc : c.toNat < 32) (r : Text) :
    readUnicode ('0' :: '0' :: hexDigit (c.toNat / 16) :: hexDigit (c.toNat % 16) :: r) =
      some (c, r) := by
  have hzero : hexValue '0' = some 0 := by decide
  have hhigh := hexValue_hexDigit (c.toNat / 16) (by omega)
  have hlow := hexValue_hexDigit (c.toNat % 16) (by omega)
  have hsum : 0 * 4096 + 0 * 256 + c.toNat / 16 * 16 + c.toNat % 16 = c.toNat := by omega
  have hread : readHex4 ('0' :: '0' :: hexDigit (c.toNat / 16) :: hexDigit (c.toNat % 16) :: r) =
      some (c.toNat, r) := by
    simp only [readHex4, hzero, hhigh, hlow, Option.bind_eq_bind, Option.bind_some, hsum]
    rfl
  simp only [readUnicode, hread, Option.bind_eq_bind, Option.bind_some]
  rw [if_neg (by omega), if_neg (by omega), Char.ofNat_toNat]
  rfl

theorem readString_escapeChar (fuel : Nat) (c : Char) (r : Text) :
    readString (fuel + 1) (escapeChar c ++ r) =
      (readString fuel r).map fun q => (c :: q.1, q.2) := by
  unfold escapeChar
  split
  · next h => simp_all [readString, readEscape]
  split
  · next h => simp_all [readString, readEscape]
  split
  · next h => simp_all [readString, readEscape]
  split
  · next h => simp_all [readString, readEscape]
  split
  · next h => simp_all [readString, readEscape]
  split
  · next h => simp_all [readString, readEscape]
  split
  · next h => simp_all [readString, readEscape]
  split
  · next hc => simp [readString, readEscape, readUnicode_control hc]
  · next hquote hslash _ _ _ _ _ hc =>
      simp only [List.cons_append, List.nil_append, readString]
      rw [if_neg hquote, if_neg hslash, if_neg hc]

theorem readString_escape (s r : Text) (fuel : Nat) (hfuel : s.length < fuel) :
    readString fuel (s.flatMap escapeChar ++ '"' :: r) = some (s, r) := by
  induction s generalizing fuel with
  | nil =>
      obtain ⟨fuel, rfl⟩ : ∃ n, fuel = n + 1 := ⟨fuel - 1, by omega⟩
      rfl
  | cons c s ih =>
      obtain ⟨fuel, rfl⟩ : ∃ n, fuel = n + 1 := ⟨fuel - 1, by omega⟩
      rw [List.length_cons] at hfuel
      rw [List.flatMap_cons, List.append_assoc, readString_escapeChar, ih fuel (by omega)]
      rfl

theorem length_le_escape (s : Text) : s.length ≤ (s.flatMap escapeChar).length := by
  induction s with
  | nil => exact Nat.le_refl 0
  | cons c s ih =>
      have hc : 1 ≤ (escapeChar c).length := by
        unfold escapeChar
        split_ifs <;> simp
      rw [List.flatMap_cons, List.length_append, List.length_cons]
      omega

/-! ## Tokens are read back -/

def Tok.isNum : Tok → Bool
  | num _ => true
  | _ => false

def Tok.valid : Tok → Prop
  | num literal => isNumber literal = true
  | _ => True

/-- Nothing that would be read as more of a number. -/
def EndsNumber (s : Text) : Prop := ∀ c ∈ s.head?, isNumberChar c = false

theorem isNumber_ne_nil {literal : Text} (h : isNumber literal = true) : literal ≠ [] := by
  rintro rfl
  revert h
  decide

theorem nextTok_number {literal r : Text} (h : isNumber literal = true) (hr : EndsNumber r) :
    nextTok (literal ++ r) = some (.num literal, r) := by
  obtain ⟨c, s, rfl⟩ := List.exists_cons_of_ne_nil (isNumber_ne_nil h)
  have hall : ∀ x ∈ c :: s, isNumberChar x = true := by
    rw [isNumber, Bool.and_eq_true, List.all_eq_true] at h
    exact h.1
  have hend : r.takeWhile isNumberChar = [] ∧ r.dropWhile isNumberChar = r := by
    cases r with
    | nil => exact ⟨rfl, rfl⟩
    | cons e r =>
        have he : isNumberChar e = false := hr e rfl
        simp [he]
  have htake : (c :: s ++ r).takeWhile isNumberChar = c :: s := by
    rw [List.takeWhile_append_of_pos hall, hend.1, List.append_nil]
  have hdrop : (c :: s ++ r).dropWhile isNumberChar = r := by
    rw [List.dropWhile_append_of_pos hall, hend.2]
  have hhead := hall c List.mem_cons_self
  rw [List.cons_append] at htake hdrop ⊢
  unfold nextTok
  split
  -- no other token starts with a character of numbers
  all_goals try (rename_i heq; obtain ⟨rfl, -⟩ := List.cons.inj heq; exact absurd hhead (by decide))
  rw [htake, hdrop, if_pos h]

theorem nextTok_text {t : Tok} {r : Text} (ht : t.valid) (hr : t.isNum = true → EndsNumber r) :
    nextTok (t.text ++ r) = some (t, r) := by
  cases t with
  | num literal => exact nextTok_number ht (hr rfl)
  | bool b => cases b <;> rfl
  | str s =>
      have hlen := length_le_escape s
      have hread := readString_escape s r ((s.flatMap escapeChar ++ '"' :: r).length + 1)
        (by rw [List.length_append]; omega)
      simp only [Tok.text, List.cons_append, List.append_assoc, List.nil_append, nextTok, hread,
        Option.map_some]
  | _ => rfl

theorem text_head (t : Tok) (ht : t.valid) :
    ∃ c s, t.text = c :: s ∧ isBlank c = false ∧ (t.isNum = false → isNumberChar c = false) := by
  cases t with
  | num literal =>
      obtain ⟨c, s, rfl⟩ := List.exists_cons_of_ne_nil (isNumber_ne_nil ht)
      refine ⟨c, s, rfl, ?_, nofun⟩
      have hc : isNumberChar c = true := by
        have hall : isNumber (c :: s) = true := ht
        rw [isNumber, Bool.and_eq_true, List.all_cons, Bool.and_eq_true] at hall
        exact hall.1.1
      by_contra hblank
      simp only [Bool.not_eq_false, isBlank, Bool.or_eq_true, beq_iff_eq] at hblank
      rcases hblank with ((rfl | rfl) | rfl) | rfl <;> revert hc <;> decide
  | bool b => cases b <;> exact ⟨_, _, rfl, by decide, fun _ => by decide⟩
  | _ => exact ⟨_, _, rfl, by decide, fun _ => by decide⟩

/-- No two numbers stand side by side. -/
def Separated (ts : List Tok) : Prop := ts.IsChain fun a b => a.isNum = false ∨ b.isNum = false

theorem lexFuel_text (ts : List Tok) (fuel : Nat) (hfuel : ts.length ≤ fuel)
    (hvalid : ∀ t ∈ ts, t.valid) (hsep : Separated ts) :
    lexFuel fuel (ts.flatMap Tok.text) = some ts := by
  induction ts generalizing fuel with
  | nil => cases fuel <;> rfl
  | cons t ts ih =>
      obtain ⟨fuel, rfl⟩ : ∃ n, fuel = n + 1 :=
        ⟨fuel - 1, by rw [List.length_cons] at hfuel; omega⟩
      have ht := hvalid t List.mem_cons_self
      obtain ⟨c, s, hcs, hblank, -⟩ := text_head t ht
      have hnext : nextTok (t.text ++ ts.flatMap Tok.text) = some (t, ts.flatMap Tok.text) := by
        refine nextTok_text ht fun hnum => ?_
        cases ts with
        | nil => exact nofun
        | cons u ts =>
            -- the token behind a number is no number and starts with none of its characters
            have hu := (List.isChain_cons_cons.mp hsep).1.resolve_left (by simp [hnum])
            obtain ⟨d, r, hdr, -, hd⟩ :=
              text_head u (hvalid u (List.mem_cons_of_mem t List.mem_cons_self))
            intro x hx
            rw [List.flatMap_cons, hdr] at hx
            obtain rfl := Option.some.inj hx
            exact hd hu
      have hrest := ih fuel (Nat.le_of_succ_le_succ hfuel)
        (fun u hu => hvalid u (List.mem_cons_of_mem t hu)) hsep.tail
      have hdrop : ((t :: ts).flatMap Tok.text).dropWhile isBlank = (t :: ts).flatMap Tok.text := by
        rw [List.flatMap_cons, hcs, List.cons_append, List.dropWhile_cons_of_neg (by simp [hblank])]
      unfold lexFuel
      rw [hdrop, List.flatMap_cons]
      simp only [hcs, List.cons_append] at hnext ⊢
      rw [hnext, Option.bind_some, hrest]
      rfl

/-! ## Documents are read back -/

/-- All numbers of a document are literals of the grammar. -/
def Valid (v : Value Text) : Prop := ∀ t ∈ toks v, t.valid

theorem valid_number {literal : Text} (h : isNumber literal = true) : Valid (.number literal) := by
  intro t ht
  obtain rfl := List.mem_singleton.mp ht
  exact h

theorem valid_string (s : Text) : Valid (.string s) := by
  intro t ht
  obtain rfl := List.mem_singleton.mp ht
  trivial

theorem valid_bool (b : Bool) : Valid (.bool b) := by
  intro t ht
  obtain rfl := List.mem_singleton.mp ht
  trivial

theorem valid_null : Valid .null := by
  intro t ht
  obtain rfl := List.mem_singleton.mp ht
  trivial

theorem valid_array {items : List (Value Text)} (h : ∀ v ∈ items, Valid v) :
    Valid (.array items) := by
  have hitems : ∀ t ∈ itemToks items, t.valid := by
    induction items with
    | nil => exact nofun
    | cons v items ih =>
        have hv := h v List.mem_cons_self
        have hrest := ih fun w hw => h w (List.mem_cons_of_mem v hw)
        cases items with
        | nil => exact hv
        | cons w items =>
            intro t ht
            simp only [itemToks, List.mem_append, List.mem_cons] at ht
            rcases ht with ht | rfl | ht
            · exact hv t ht
            · trivial
            · exact hrest t ht
  intro t ht
  simp only [toks, List.mem_cons, List.mem_append, List.not_mem_nil, or_false] at ht
  rcases ht with (rfl | ht) | rfl
  · trivial
  · exact hitems t ht
  · trivial

theorem valid_object {fields : List (Text × Value Text)} (h : ∀ f ∈ fields, Valid f.2) :
    Valid (.object fields) := by
  have hfields : ∀ t ∈ fieldToks fields, t.valid := by
    induction fields with
    | nil => exact nofun
    | cons f fields ih =>
        obtain ⟨key, v⟩ := f
        have hv := h _ List.mem_cons_self
        have hrest := ih fun g hg => h g (List.mem_cons_of_mem _ hg)
        cases fields with
        | nil =>
            intro t ht
            simp only [fieldToks, List.mem_cons] at ht
            rcases ht with rfl | rfl | ht
            · trivial
            · trivial
            · exact hv t ht
        | cons g fields =>
            intro t ht
            simp only [fieldToks, List.mem_append, List.mem_cons] at ht
            rcases ht with (rfl | rfl | ht) | rfl | ht
            · trivial
            · trivial
            · exact hv t ht
            · trivial
            · exact hrest t ht
  intro t ht
  simp only [toks, List.mem_cons, List.mem_append, List.not_mem_nil, or_false] at ht
  rcases ht with (rfl | ht) | rfl
  · trivial
  · exact hfields t ht
  · trivial

mutual

theorem toks_separated : ∀ v : Value Text, Separated (toks v)
  | .null | .bool _ | .number _ | .string _ => List.isChain_singleton _
  | .array items => by
      refine List.isChain_cons.mpr ⟨fun _ _ => .inl rfl, ?_⟩
      refine (itemToks_separated items).append (List.isChain_singleton _) ?_
      intro _ _ y hy
      obtain rfl := Option.some.inj hy
      exact .inr rfl
  | .object fields => by
      refine List.isChain_cons.mpr ⟨fun _ _ => .inl rfl, ?_⟩
      refine (fieldToks_separated fields).append (List.isChain_singleton _) ?_
      intro _ _ y hy
      obtain rfl := Option.some.inj hy
      exact .inr rfl

theorem itemToks_separated : ∀ items : List (Value Text), Separated (itemToks items)
  | [] => List.isChain_nil
  | [v] => toks_separated v
  | v :: w :: vs => by
      refine (toks_separated v).append ?_ ?_
      · exact List.isChain_cons.mpr ⟨fun _ _ => .inl rfl, itemToks_separated (w :: vs)⟩
      · intro _ _ y hy
        obtain rfl := Option.some.inj hy
        exact .inr rfl

theorem fieldToks_separated : ∀ fields : List (Text × Value Text), Separated (fieldToks fields)
  | [] => List.isChain_nil
  | [(key, v)] =>
      List.isChain_cons.mpr ⟨fun _ _ => .inl rfl,
        List.isChain_cons.mpr ⟨fun _ _ => .inl rfl, toks_separated v⟩⟩
  | (key, v) :: w :: fs => by
      refine List.isChain_cons.mpr ⟨fun _ _ => .inl rfl, ?_⟩
      refine List.isChain_cons.mpr ⟨fun _ _ => .inl rfl, ?_⟩
      refine (toks_separated v).append ?_ ?_
      · exact List.isChain_cons.mpr ⟨fun _ _ => .inl rfl, fieldToks_separated (w :: fs)⟩
      · intro _ _ y hy
        obtain rfl := Option.some.inj hy
        exact .inr rfl

end

theorem parseValue_array (fuel : Nat) {ts : List Tok} (hts : ts.head? ≠ some .rbracket) :
    parseValue (fuel + 1) (.lbracket :: ts) =
      (parseItems fuel ts).map fun p => (.array p.1, p.2) := by
  cases ts with
  | nil => rfl
  | cons t ts => cases t <;> first | rfl | exact absurd rfl hts

theorem parseValue_object (fuel : Nat) {ts : List Tok} (hts : ts.head? ≠ some .rbrace) :
    parseValue (fuel + 1) (.lbrace :: ts) =
      (parseFields fuel ts).map fun p => (.object p.1, p.2) := by
  cases ts with
  | nil => rfl
  | cons t ts => cases t <;> first | rfl | exact absurd rfl hts

/-- A value does not start with a closing bracket. -/
theorem toks_head (v : Value Text) (rest : List Tok) :
    (toks v ++ rest).head? ≠ some .rbracket := by
  cases v <;> exact nofun

theorem itemToks_head (v : Value Text) (vs : List (Value Text)) (rest : List Tok) :
    (itemToks (v :: vs) ++ rest).head? ≠ some .rbracket := by
  cases vs with
  | nil => exact toks_head v rest
  | cons w vs =>
      rw [itemToks, List.append_assoc]
      exact toks_head v _

theorem fieldToks_head (f : Text × Value Text) (fs : List (Text × Value Text)) (rest : List Tok) :
    (fieldToks (f :: fs) ++ rest).head? ≠ some .rbrace := by
  cases fs <;> exact nofun

mutual

/-- The fuel of the tokens suffices: each level and each item spends one of them. -/
theorem parseValue_toks : ∀ (v : Value Text) (fuel : Nat) (rest : List Tok),
    (toks v).length ≤ fuel → parseValue fuel (toks v ++ rest) = some (v, rest)
  | .null, fuel + 1, rest, _ | .bool _, fuel + 1, rest, _ | .number _, fuel + 1, rest, _
  | .string _, fuel + 1, rest, _ | .array [], fuel + 1, rest, _
  | .object [], fuel + 1, rest, _ => rfl
  | .array (v :: vs), fuel + 1, rest, hfuel => by
      rw [toks, List.length_append, List.length_cons, List.length_singleton] at hfuel
      have hitems := parseItems_toks v vs fuel rest (by omega)
      rw [toks, List.cons_append, List.cons_append, List.append_assoc, List.singleton_append,
        parseValue_array fuel (itemToks_head v vs _), hitems]
      rfl
  | .object (f :: fs), fuel + 1, rest, hfuel => by
      rw [toks, List.length_append, List.length_cons, List.length_singleton] at hfuel
      have hfields := parseFields_toks f fs fuel rest (by omega)
      rw [toks, List.cons_append, List.cons_append, List.append_assoc, List.singleton_append,
        parseValue_object fuel (fieldToks_head f fs _), hfields]
      rfl

theorem parseItems_toks : ∀ (v : Value Text) (vs : List (Value Text)) (fuel : Nat)
    (rest : List Tok), (itemToks (v :: vs)).length + 1 ≤ fuel →
      parseItems fuel (itemToks (v :: vs) ++ .rbracket :: rest) = some (v :: vs, rest)
  | v, [], fuel + 1, rest, hfuel => by
      have hv := parseValue_toks v fuel (.rbracket :: rest) (Nat.le_of_succ_le_succ hfuel)
      rw [itemToks, parseItems, hv]
  | v, w :: vs, fuel + 1, rest, hfuel => by
      rw [itemToks, List.length_append, List.length_cons] at hfuel
      have hv := parseValue_toks v fuel (.comma :: itemToks (w :: vs) ++ .rbracket :: rest) (by omega)
      have hrest := parseItems_toks w vs fuel rest (by omega)
      rw [itemToks, List.append_assoc, parseItems, hv]
      simp only [List.cons_append, hrest, Option.map_some]

theorem parseFields_toks : ∀ (f : Text × Value Text) (fs : List (Text × Value Text)) (fuel : Nat)
    (rest : List Tok), (fieldToks (f :: fs)).length + 1 ≤ fuel →
      parseFields fuel (fieldToks (f :: fs) ++ .rbrace :: rest) = some (f :: fs, rest)
  | (key, v), [], fuel + 1, rest, hfuel => by
      rw [fieldToks, List.length_cons, List.length_cons] at hfuel
      have hv := parseValue_toks v fuel (.rbrace :: rest) (by omega)
      rw [fieldToks, List.cons_append, List.cons_append, parseFields, hv]
  | (key, v), w :: fs, fuel + 1, rest, hfuel => by
      simp only [fieldToks, List.length_cons, List.length_append] at hfuel
      have hv := parseValue_toks v fuel (.comma :: fieldToks (w :: fs) ++ .rbrace :: rest) (by omega)
      have hrest := parseFields_toks w fs fuel rest (by omega)
      rw [fieldToks]
      simp only [List.cons_append, List.append_assoc, parseFields] at hv ⊢
      rw [hv]
      simp only [hrest, Option.map_some]

end

theorem length_le_text (ts : List Tok) (h : ∀ t ∈ ts, t.valid) :
    ts.length ≤ (ts.flatMap Tok.text).length := by
  induction ts with
  | nil => exact Nat.le_refl 0
  | cons t ts ih =>
      obtain ⟨c, s, hcs, -, -⟩ := text_head t (h t List.mem_cons_self)
      have hrest := ih fun u hu => h u (List.mem_cons_of_mem t hu)
      rw [List.flatMap_cons, List.length_append, List.length_cons, hcs, List.length_cons]
      omega

theorem parse_print {v : Value Text} (h : Valid v) : parse (print v) = some v := by
  have hlex : lex (print v) = some (toks v) :=
    lexFuel_text (toks v) _ (length_le_text _ h) h (toks_separated v)
  have hvalue := parseValue_toks v (toks v).length [] (Nat.le_refl _)
  rw [List.append_nil] at hvalue
  rw [parse, hlex, Option.bind_some, hvalue]

theorem print_injective {v w : Value Text} (hv : Valid v) (hw : Valid w) (h : print v = print w) :
    v = w := by
  have hparse := parse_print hv
  rw [h, parse_print hw] at hparse
  exact (Option.some.inj hparse).symm

end Dbotter.Json
