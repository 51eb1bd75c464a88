import Mathlib.Data.List.Infix

/-!
Glob patterns over bytes, as `stringmatchlen` of Redis reads them.

A star stands for any bytes and a question mark for one byte. A bracket opens a class of bytes,
which a caret at its front negates. A backslash takes the byte after it literally. The search
behind a star is exhaustive, so what the server does to give it up early is not modelled.
-/

namespace Dbotter.Glob

def star : UInt8 := '*'.toUInt8
def questionMark : UInt8 := '?'.toUInt8
def openBracket : UInt8 := '['.toUInt8
def closeBracket : UInt8 := ']'.toUInt8
def backslash : UInt8 := '\\'.toUInt8
def caret : UInt8 := '^'.toUInt8
def hyphen : UInt8 := '-'.toUInt8

/-- Whether the byte is in the class that starts here, and the pattern behind the class. A class
that is not closed takes up the rest of the pattern. -/
def classMatches (c : UInt8) : List UInt8 → Bool × List UInt8
  | [] => (false, [])
  | [a] => (a != closeBracket && a == c, [])
  | a :: b :: pattern =>
      if a = backslash then
        let rest := classMatches c pattern
        (b == c || rest.1, rest.2)
      else if a = closeBracket then (false, b :: pattern)
      else if b = hyphen then
        match pattern with
        | d :: pattern =>
            let rest := classMatches c pattern
            (decide (min a d ≤ c ∧ c ≤ max a d) || rest.1, rest.2)
        | [] => (a == c || b == c, [])
      else
        let rest := classMatches c (b :: pattern)
        (a == c || rest.1, rest.2)

theorem length_classMatches_le (c : UInt8) (pattern : List UInt8) :
    (classMatches c pattern).2.length ≤ pattern.length := by
  fun_induction classMatches c pattern <;> grind

/-- The members of a class, behind the caret that negates it. -/
def classMembers : List UInt8 → Bool × List UInt8
  | [] => (false, [])
  | a :: pattern => if a = caret then (true, pattern) else (false, a :: pattern)

theorem length_classMembers_le (pattern : List UInt8) :
    (classMembers pattern).2.length ≤ pattern.length := by
  cases pattern with
  | nil => exact le_rfl
  | cons a pattern =>
    rw [classMembers]
    split <;> simp

/-- The pattern matches the whole string. -/
def stringMatches : List UInt8 → List UInt8 → Bool
  | [], string => string.isEmpty
  | a :: pattern, string =>
      if a = star then string.tails.any fun suffix => stringMatches pattern suffix
      else
        match string with
        | [] => false
        | c :: string =>
            if a = questionMark then stringMatches pattern string
            else if a = openBracket then
              let members := classMembers pattern
              (classMatches c members.2).1 != members.1 &&
                stringMatches (classMatches c members.2).2 string
            else if a = backslash then
              match pattern with
              | b :: pattern => b == c && stringMatches pattern string
              | [] => a == c && string.isEmpty
            else a == c && stringMatches pattern string
termination_by pattern => pattern.length
decreasing_by
  all_goals simp only [List.length_cons]
  all_goals
    have hclass := length_classMatches_le
    have hmembers := length_classMembers_le pattern
    grind

/-- A byte that stands for itself outside a class. -/
def isPlain (b : UInt8) : Bool := b != star && b != questionMark && b != openBracket && b != backslash

/-! ## Literal patterns -/

/-- The pattern spells these bytes, some of them behind a backslash. -/
inductive Spells : List UInt8 → List UInt8 → Prop
  | nil : Spells [] []
  | plain {b : UInt8} {pattern literal : List UInt8} : isPlain b = true → Spells pattern literal →
      Spells (b :: pattern) (b :: literal)
  | escaped {b : UInt8} {pattern literal : List UInt8} : Spells pattern literal →
      Spells (backslash :: b :: pattern) (b :: literal)

theorem stringMatches_plain {b : UInt8} (hb : isPlain b = true) (pattern string : List UInt8) :
    stringMatches (b :: pattern) string = true ↔
      ∃ rest, string = b :: rest ∧ stringMatches pattern rest = true := by
  simp only [isPlain, Bool.and_eq_true, bne_iff_ne] at hb
  obtain ⟨⟨⟨hstar, hquestion⟩, hbracket⟩, hbackslash⟩ := hb
  rw [stringMatches.eq_def]
  cases string with
  | nil => simp [hstar]
  | cons c string =>
    simp only [hstar, hquestion, hbracket, hbackslash, if_false, Bool.and_eq_true, beq_iff_eq,
      List.cons.injEq]
    constructor
    · rintro ⟨rfl, h⟩
      exact ⟨string, ⟨rfl, rfl⟩, h⟩
    · rintro ⟨rest, ⟨rfl, rfl⟩, h⟩
      exact ⟨rfl, h⟩

theorem stringMatches_escaped (b : UInt8) (pattern string : List UInt8) :
    stringMatches (backslash :: b :: pattern) string = true ↔
      ∃ rest, string = b :: rest ∧ stringMatches pattern rest = true := by
  have hstar : backslash ≠ star := by decide
  have hquestion : backslash ≠ questionMark := by decide
  have hbracket : backslash ≠ openBracket := by decide
  rw [stringMatches.eq_def]
  cases string with
  | nil => simp [hstar]
  | cons c string =>
    simp only [hstar, hquestion, hbracket, if_false, if_true, Bool.and_eq_true, beq_iff_eq,
      List.cons.injEq]
    constructor
    · rintro ⟨rfl, h⟩
      exact ⟨string, ⟨rfl, rfl⟩, h⟩
    · rintro ⟨rest, ⟨rfl, rfl⟩, h⟩
      exact ⟨rfl, h⟩

theorem stringMatches_star (string : List UInt8) : stringMatches [star] string = true := by
  rw [stringMatches.eq_def]
  dsimp only
  rw [if_pos rfl, List.any_eq_true]
  exact ⟨[], (List.mem_tails _ _).mpr List.nil_suffix, by simp [stringMatches]⟩

namespace Spells

variable {pattern literal : List UInt8}

theorem append (h : Spells pattern literal) {pattern' literal' : List UInt8}
    (h' : Spells pattern' literal') : Spells (pattern ++ pattern') (literal ++ literal') := by
  induction h with
  | nil => exact h'
  | plain hb _ ih => exact .plain hb ih
  | escaped _ ih => exact .escaped ih

theorem of_plain (h : ∀ b ∈ literal, isPlain b = true) : Spells literal literal := by
  induction literal with
  | nil => exact .nil
  | cons b literal ih =>
    exact .plain (h b List.mem_cons_self) (ih fun c hc => h c (List.mem_cons_of_mem _ hc))

/-- What is spelled is matched byte by byte, and the rest of the pattern what follows it. -/
theorem matches_append (h : Spells pattern literal) (rest string : List UInt8) :
    stringMatches (pattern ++ rest) string = true ↔
      ∃ tail, string = literal ++ tail ∧ stringMatches rest tail = true := by
  induction h generalizing string with
  | nil => simp
  | @plain b pattern literal hb h ih =>
    rw [List.cons_append, stringMatches_plain hb]
    simp only [ih, List.cons_append]
    constructor
    · rintro ⟨_, rfl, tail, rfl, htail⟩
      exact ⟨tail, rfl, htail⟩
    · rintro ⟨tail, rfl, htail⟩
      exact ⟨_, rfl, tail, rfl, htail⟩
  | @escaped b pattern literal h ih =>
    rw [List.cons_append, List.cons_append, stringMatches_escaped]
    simp only [ih, List.cons_append]
    constructor
    · rintro ⟨_, rfl, tail, rfl, htail⟩
      exact ⟨tail, rfl, htail⟩
    · rintro ⟨tail, rfl, htail⟩
      exact ⟨_, rfl, tail, rfl, htail⟩

/-- Behind a star, a literal pattern asks for a prefix. -/
theorem matches_star (h : Spells pattern literal) (string : List UInt8) :
    stringMatches (pattern ++ [star]) string = true ↔ literal <+: string := by
  rw [h.matches_append]
  constructor
  · rintro ⟨tail, rfl, -⟩
    exact List.prefix_append literal tail
  · rintro ⟨tail, rfl⟩
    exact ⟨tail, rfl, stringMatches_star tail⟩

end Spells

end Dbotter.Glob
