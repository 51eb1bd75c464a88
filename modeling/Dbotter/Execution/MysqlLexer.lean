import Dbotter.Execution.MysqlScan

/-!
A reference lexer for MySQL text, on characters.

`lex` cuts a text into tokens and stops at the first one that has no end. Its
one parameter says after which opening quotes a backslash escapes the next
character, and the three rules of interest are the two SQL modes and the rule
that `quoted_span` applies. Two rules give the same tokens until one of them
meets a delimiter behind an odd run of backslashes; that is what
`closeQuote_eq_iff` and `lex_eq_iff` make precise.
-/

namespace Dbotter.Execution
open Dbotter.Utf8

inductive Token
  | blank (c : Char)
  | plain (c : Char)
  | comment (chars : Text)
  | executable (chars : Text)
  | quoted (delimiter : Char) (body : Text)
  | terminator
  deriving DecidableEq, Repr

namespace Token

def chars : Token → Text
  | blank c => [c]
  | plain c => [c]
  | comment cs => cs
  | executable cs => cs
  | quoted d body => d :: body ++ [d]
  | terminator => [';']

/-- Tokens that are text of a statement. -/
def isCode : Token → Bool
  | plain _ => true
  | executable _ => true
  | quoted _ _ => true
  | _ => false

/-- Tokens that are neither layout nor comment. -/
def isSignificant (t : Token) : Bool := t.isCode || t == terminator

end Token

/-! ## Lexing -/

def isQuote (c : Char) : Bool := c == '\'' || c == '"' || c == '`'

def startsLineComment : Text → Bool
  | '#' :: _ => true
  | '-' :: '-' :: c :: _ => c == ' ' || c.toNat < 32 || c.toNat == 127
  | _ => false

def startsBlockComment : Text → Bool
  | '/' :: '*' :: _ => true
  | _ => false

/-- The text up to `*/` and what follows it. -/
def closeBlock : Text → Option (Text × Text)
  | a :: b :: s =>
      if a == '*' && b == '/' then some ([], s)
      else (closeBlock (b :: s)).map fun p => (a :: p.1, p.2)
  | _ => none

/-- The body of a quoted token, read after its opening delimiter, and the text
behind the closing one. -/
def closeQuote (escapes : Bool) (d : Char) : Text → Option (Text × Text)
  | [] => none
  | [c] => if escapes && c == '\\' then none else if c == d then some ([], []) else none
  | c :: e :: s =>
      if escapes && c == '\\' then (closeQuote escapes d s).map fun p => (c :: e :: p.1, p.2)
      else if c == d then
        if e == d then (closeQuote escapes d s).map fun p => (c :: e :: p.1, p.2)
        else some ([], e :: s)
      else (closeQuote escapes d (e :: s)).map fun p => (c :: p.1, p.2)

def blockToken (executable : Bool) (body : Text) : Token :=
  if executable then .executable ('/' :: '*' :: body ++ ['*', '/'])
  else .comment ('/' :: '*' :: body ++ ['*', '/'])

/-- The first token of a text and what follows it; `none` when there is no text
or the token has no end. -/
def lexOne (escapes : Char → Bool) : Text → Option (Token × Text)
  | [] => none
  | c :: s =>
      if startsLineComment (c :: s) then
        some (.comment ((c :: s).takeWhile (· != '\n')), (c :: s).dropWhile (· != '\n'))
      else if startsBlockComment (c :: s) then
        (closeBlock (s.drop 1)).map fun p => (blockToken ((s.drop 1).head? == some '!') p.1, p.2)
      else if isQuote c then
        (closeQuote (escapes c) c s).map fun p => (.quoted c p.1, p.2)
      else if c == ';' then some (.terminator, s)
      else some (if isWhitespace c then .blank c else .plain c, s)

def lexFuel (escapes : Char → Bool) : Nat → Text → List Token × Text
  | 0, s => ([], s)
  | fuel + 1, s =>
      match lexOne escapes s with
      | none => ([], s)
      | some (t, rest) => ((t :: (lexFuel escapes fuel rest).1), (lexFuel escapes fuel rest).2)

/-- The tokens of a text and the unterminated token it ends in, if any. -/
def lex (escapes : Char → Bool) (s : Text) : List Token × Text := lexFuel escapes s.length s

/-- Backslash escapes in both kinds of string, not in identifiers. -/
def defaultMode (c : Char) : Bool := c != '`'

/-- `NO_BACKSLASH_ESCAPES`. -/
def noBackslashMode (_ : Char) : Bool := false

/-- What `quoted_span` does: it escapes in all three kinds of token. -/
def scannerRule (_ : Char) : Bool := true

/-- A character equal to `d` stands directly behind an odd run of backslashes;
`odd` tells whether such a run ends right before the text. -/
def escapedDelimiter (d : Char) : Bool → Text → Bool
  | _, [] => false
  | odd, c :: s =>
      if c == '\\' then escapedDelimiter d (!odd) s
      else (odd && c == d) || escapedDelimiter d false s

/-- A quoted token with an odd run of backslashes before its own delimiter,
inside it or at its end. -/
def Token.misread : Token → Bool
  | .quoted d body => escapedDelimiter d false (body ++ [d])
  | _ => false

/-! ## Every token consumes the text it stands for -/

theorem closeBlock_eq_append {s body rest : Text} (h : closeBlock s = some (body, rest)) :
    s = body ++ '*' :: '/' :: rest := by
  fun_induction closeBlock s generalizing body with
  | case1 a b s hab =>
      simp only [Bool.and_eq_true, beq_iff_eq] at hab
      obtain ⟨rfl, rfl⟩ := hab
      simp only [Option.some.injEq, Prod.mk.injEq] at h
      obtain ⟨rfl, rfl⟩ := h
      rfl
  | case2 a b s hab ih =>
      obtain ⟨⟨body', rest'⟩, hclose, heq⟩ := Option.map_eq_some_iff.mp h
      simp only [Prod.mk.injEq] at heq
      obtain ⟨rfl, rfl⟩ := heq
      rw [ih hclose]
      rfl
  | case3 s hs => cases h

theorem closeQuote_eq_append {escapes : Bool} {d : Char} {s body rest : Text}
    (h : closeQuote escapes d s = some (body, rest)) : s = body ++ d :: rest := by
  fun_induction closeQuote escapes d s generalizing body with
  | case1 => cases h
  | case2 c hc => cases h
  | case3 c hc hd =>
      rw [beq_iff_eq] at hd
      simp only [Option.some.injEq, Prod.mk.injEq] at h
      obtain ⟨rfl, rfl⟩ := h
      rw [hd]
      rfl
  | case4 c hc hd => cases h
  | case5 c e s hc ih =>
      obtain ⟨⟨body', rest'⟩, hclose, heq⟩ := Option.map_eq_some_iff.mp h
      simp only [Prod.mk.injEq] at heq
      obtain ⟨rfl, rfl⟩ := heq
      rw [ih hclose]
      rfl
  | case6 c e s hc hd he ih =>
      obtain ⟨⟨body', rest'⟩, hclose, heq⟩ := Option.map_eq_some_iff.mp h
      simp only [Prod.mk.injEq] at heq
      obtain ⟨rfl, rfl⟩ := heq
      rw [ih hclose]
      rfl
  | case7 c e s hc hd he =>
      rw [beq_iff_eq] at hd
      simp only [Option.some.injEq, Prod.mk.injEq] at h
      obtain ⟨rfl, rfl⟩ := h
      rw [hd]
      rfl
  | case8 c e s hc hd ih =>
      obtain ⟨⟨body', rest'⟩, hclose, heq⟩ := Option.map_eq_some_iff.mp h
      simp only [Prod.mk.injEq] at heq
      obtain ⟨rfl, rfl⟩ := heq
      rw [ih hclose]
      rfl

theorem startsBlockComment_iff {s : Text} :
    startsBlockComment s = true ↔ ∃ r, s = '/' :: '*' :: r := by
  constructor
  · intro h
    unfold startsBlockComment at h
    split at h
    · exact ⟨_, rfl⟩
    · cases h
  · rintro ⟨r, rfl⟩
    rfl

theorem startsLineComment_head {c : Char} {s : Text} (h : startsLineComment (c :: s) = true) :
    c = '#' ∨ c = '-' := by
  unfold startsLineComment at h
  split at h
  · next heq => exact .inl (List.cons.inj heq).1
  · next heq => exact .inr (List.cons.inj heq).1
  · cases h

@[simp] theorem blockToken_chars (executable : Bool) (body : Text) :
    (blockToken executable body).chars = '/' :: '*' :: body ++ ['*', '/'] := by
  cases executable <;> rfl

/-- What one token can be: the branches of `lexOne` with their guards. -/
inductive LexStep (escapes : Char → Bool) : Text → Token → Text → Prop
  | line {s : Text} (hline : startsLineComment s = true) :
      LexStep escapes s (.comment (s.takeWhile (· != '\n'))) (s.dropWhile (· != '\n'))
  | block {r body rest : Text} (hclose : closeBlock r = some (body, rest)) :
      LexStep escapes ('/' :: '*' :: r) (blockToken (r.head? == some '!') body) rest
  | quoted {d : Char} {s body rest : Text} (hd : isQuote d = true)
      (hclose : closeQuote (escapes d) d s = some (body, rest)) :
      LexStep escapes (d :: s) (.quoted d body) rest
  | terminator {s : Text} : LexStep escapes (';' :: s) .terminator s
  | char {c : Char} {s : Text} (hline : startsLineComment (c :: s) = false)
      (hblock : startsBlockComment (c :: s) = false) (hquote : isQuote c = false)
      (hterm : c ≠ ';') :
      LexStep escapes (c :: s) (if isWhitespace c then .blank c else .plain c) s

theorem startsLineComment_of_isQuote {d : Char} (hd : isQuote d = true) (s : Text) :
    startsLineComment (d :: s) = false := by
  by_contra h
  rw [Bool.not_eq_false] at h
  rcases startsLineComment_head h with rfl | rfl <;> revert hd <;> decide

theorem startsBlockComment_of_isQuote {d : Char} (hd : isQuote d = true) (s : Text) :
    startsBlockComment (d :: s) = false := by
  by_contra h
  rw [Bool.not_eq_false, startsBlockComment_iff] at h
  obtain ⟨r, hr⟩ := h
  obtain ⟨rfl, -⟩ := List.cons.inj hr
  revert hd
  decide

theorem lexStep_of_lexOne {escapes : Char → Bool} {s rest : Text} {t : Token}
    (h : lexOne escapes s = some (t, rest)) : LexStep escapes s t rest := by
  cases s with
  | nil => cases h
  | cons c s =>
      simp only [lexOne] at h
      split at h
      · next hline =>
          cases h
          exact .line hline
      · next hline =>
          split at h
          · next hblock =>
              obtain ⟨r, hr⟩ := startsBlockComment_iff.mp hblock
              obtain ⟨rfl, rfl⟩ := List.cons.inj hr
              obtain ⟨⟨body, rest'⟩, hclose, heq⟩ := Option.map_eq_some_iff.mp h
              cases heq
              exact .block hclose
          · next hblock =>
              split at h
              · next hquote =>
                  obtain ⟨⟨body, rest'⟩, hclose, heq⟩ := Option.map_eq_some_iff.mp h
                  cases heq
                  exact .quoted hquote hclose
              · next hquote =>
                  split at h
                  · next hterm =>
                      rw [beq_iff_eq] at hterm
                      cases h
                      exact hterm ▸ .terminator
                  · next hterm =>
                      cases h
                      exact .char (by simpa using hline) (by simpa using hblock)
                        (by simpa using hquote) (by simpa using hterm)

theorem lexOne_of_lexStep {escapes : Char → Bool} {s rest : Text} {t : Token}
    (h : LexStep escapes s t rest) : lexOne escapes s = some (t, rest) := by
  cases h with
  | line hline =>
      cases s with
      | nil => cases hline
      | cons c s => rw [lexOne, if_pos hline]
  | block hclose => simp [lexOne, startsLineComment, startsBlockComment, hclose]
  | quoted hd hclose =>
      simp [lexOne, startsLineComment_of_isQuote hd, startsBlockComment_of_isQuote hd, hd, hclose]
  | terminator => rfl
  | char hline hblock hquote hterm => simp [lexOne, hline, hblock, hquote, hterm]

theorem lexOne_eq_none_iff {escapes : Char → Bool} {s : Text} :
    lexOne escapes s = none ↔
      s = [] ∨ (∃ r, s = '/' :: '*' :: r ∧ closeBlock r = none) ∨
        ∃ d r, s = d :: r ∧ isQuote d = true ∧ closeQuote (escapes d) d r = none := by
  constructor
  · intro h
    cases s with
    | nil => exact .inl rfl
    | cons c s =>
        simp only [lexOne] at h
        split_ifs at h with hline hblock hquote hterm
        · obtain ⟨r, hr⟩ := startsBlockComment_iff.mp hblock
          obtain ⟨rfl, rfl⟩ := List.cons.inj hr
          exact .inr (.inl ⟨r, rfl, Option.map_eq_none_iff.mp h⟩)
        · exact .inr (.inr ⟨c, s, rfl, hquote, Option.map_eq_none_iff.mp h⟩)
  · rintro (rfl | ⟨r, rfl, hclose⟩ | ⟨d, r, rfl, hd, hclose⟩)
    · rfl
    · simp [lexOne, startsLineComment, startsBlockComment, hclose]
    · simp [lexOne, startsLineComment_of_isQuote hd, startsBlockComment_of_isQuote hd, hd, hclose]

theorem lexOne_eq_append {escapes : Char → Bool} {s rest : Text} {t : Token}
    (h : lexOne escapes s = some (t, rest)) : s = t.chars ++ rest := by
  cases lexStep_of_lexOne h with
  | line hline => simp [Token.chars]
  | block hclose => simp [closeBlock_eq_append hclose]
  | quoted hd hclose => simp [Token.chars, closeQuote_eq_append hclose]
  | terminator => rfl
  | char hline hblock hquote hterm => split_ifs <;> rfl

theorem lexOne_chars_ne_nil {escapes : Char → Bool} {s rest : Text} {t : Token}
    (h : lexOne escapes s = some (t, rest)) : t.chars ≠ [] := by
  cases lexStep_of_lexOne h with
  | line hline =>
      cases s with
      | nil => cases hline
      | cons c s => rcases startsLineComment_head hline with rfl | rfl <;> simp [Token.chars]
  | block hclose => simp
  | quoted hd hclose => simp [Token.chars]
  | terminator => simp [Token.chars]
  | char hline hblock hquote hterm => split_ifs <;> simp [Token.chars]

theorem lexOne_length_lt {escapes : Char → Bool} {s rest : Text} {t : Token}
    (h : lexOne escapes s = some (t, rest)) : rest.length < s.length := by
  have hpos := List.length_pos_iff.mpr (lexOne_chars_ne_nil h)
  rw [lexOne_eq_append h, List.length_append]
  omega

/-! ## The token sequence -/

theorem lexFuel_eq_lex {escapes : Char → Bool} (fuel : Nat) (s : Text) (h : s.length ≤ fuel) :
    lexFuel escapes fuel s = lex escapes s := by
  induction fuel using Nat.strong_induction_on generalizing s with
  | _ fuel ih =>
      unfold lex
      cases fuel with
      | zero =>
          have hs : s = [] := List.length_eq_zero_iff.mp (by omega)
          rw [hs]
          rfl
      | succ fuel =>
          cases hlen : s.length with
          | zero =>
              rw [List.length_eq_zero_iff.mp hlen]
              rfl
          | succ n =>
              simp only [lexFuel]
              cases hone : lexOne escapes s with
              | none => rfl
              | some p =>
                  obtain ⟨t, rest⟩ := p
                  have hlt := lexOne_length_lt hone
                  simp only
                  rw [ih fuel (by omega) rest (by omega), ih n (by omega) rest (by omega)]

theorem lex_of_none {escapes : Char → Bool} {s : Text} (h : lexOne escapes s = none) :
    lex escapes s = ([], s) := by
  rw [← lexFuel_eq_lex (s.length + 1) s (by omega)]
  simp only [lexFuel, h]

theorem lex_of_some {escapes : Char → Bool} {s rest : Text} {t : Token}
    (h : lexOne escapes s = some (t, rest)) :
    lex escapes s = (t :: (lex escapes rest).1, (lex escapes rest).2) := by
  have hlt := lexOne_length_lt h
  rw [← lexFuel_eq_lex (s.length + 1) s (by omega)]
  simp only [lexFuel, h]
  rw [lexFuel_eq_lex s.length rest (by omega)]

/-- Induction along the tokens of a text. -/
@[elab_as_elim]
theorem lex_induction (escapes : Char → Bool) {motive : Text → Prop}
    (stop : ∀ s, lexOne escapes s = none → motive s)
    (token : ∀ s t rest, lexOne escapes s = some (t, rest) → motive rest → motive s)
    (s : Text) : motive s := by
  induction hn : s.length using Nat.strong_induction_on generalizing s with
  | _ n ih =>
      cases hone : lexOne escapes s with
      | none => exact stop s hone
      | some p =>
          obtain ⟨t, rest⟩ := p
          exact token s t rest hone (ih rest.length (hn ▸ lexOne_length_lt hone) rest rfl)

/-! ## Where two escape rules part -/

/-- What a quoted token read without escapes takes from the text, or all of the
text when it has no end. -/
def quoteExtent (d : Char) (s : Text) : Text :=
  match closeQuote false d s with
  | some (body, _) => body ++ [d]
  | none => s

theorem map_cons_inj {x y : Option (Text × Text)} (c : Char) :
    (x.map fun p => (c :: p.1, p.2)) = (y.map fun p => (c :: p.1, p.2)) ↔ x = y := by
  refine ⟨fun h => Option.map_injective ?_ h, fun h => h ▸ rfl⟩
  rintro ⟨a, b⟩ ⟨a', b'⟩ hab
  simpa using hab

theorem map_cons_cons_inj {x y : Option (Text × Text)} (c e : Char) :
    (x.map fun p => (c :: e :: p.1, p.2)) = (y.map fun p => (c :: e :: p.1, p.2)) ↔ x = y := by
  refine ⟨fun h => Option.map_injective ?_ h, fun h => h ▸ rfl⟩
  rintro ⟨a, b⟩ ⟨a', b'⟩ hab
  simpa using hab

/-- Two readings that are one delimiter out of step never close a token at the
same place. -/
theorem closeQuote_out_of_step (d : Char) (hd : d ≠ '\\') (s : Text) :
    ∀ e₁ e₂ : Bool, closeQuote e₁ d (d :: s) ≠ (closeQuote e₂ d s).map fun p => (d :: p.1, p.2) := by
  induction s with
  | nil =>
      intro e₁ e₂
      simp [closeQuote, hd]
  | cons x s ih =>
      intro e₁ e₂ h
      by_cases hx : x = d
      · subst hx
        have hl : closeQuote e₁ x (x :: x :: s) =
            (closeQuote e₁ x s).map fun p => (x :: x :: p.1, p.2) := by
          simp [closeQuote, hd]
        rw [hl] at h
        refine ih e₂ e₁ ((map_cons_inj x).mp ?_)
        rw [← h, Option.map_map]
        rfl
      · have hl : closeQuote e₁ d (d :: x :: s) = some ([], x :: s) := by
          simp [closeQuote, hd, hx]
        rw [hl] at h
        obtain ⟨p, -, hp⟩ := Option.map_eq_some_iff.mp h.symm
        simp at hp

theorem closeQuote_escape (d e : Char) (s : Text) :
    closeQuote true d ('\\' :: e :: s) =
      (closeQuote true d s).map fun p => ('\\' :: e :: p.1, p.2) := by
  simp [closeQuote]

theorem closeQuote_false_cons {d c : Char} (hc : c ≠ d) (s : Text) :
    closeQuote false d (c :: s) = (closeQuote false d s).map fun p => (c :: p.1, p.2) := by
  cases s with
  | nil => simp [closeQuote, hc]
  | cons e s => simp [closeQuote, hc]

theorem quoteExtent_cons {d c : Char} (hc : c ≠ d) (s : Text) :
    quoteExtent d (c :: s) = c :: quoteExtent d s := by
  unfold quoteExtent
  rw [closeQuote_false_cons hc]
  cases closeQuote false d s <;> rfl

theorem quoteExtent_delimiter (d : Char) (s : Text) : ∃ r, quoteExtent d (d :: s) = d :: r := by
  unfold quoteExtent
  cases h : closeQuote false d (d :: s) with
  | none => exact ⟨s, rfl⟩
  | some p =>
      obtain ⟨body, rest⟩ := p
      have happ := closeQuote_eq_append h
      cases body with
      | nil => exact ⟨[], rfl⟩
      | cons c body =>
          obtain ⟨rfl, -⟩ := List.cons.inj happ
          exact ⟨body ++ [d], rfl⟩

/-- Escaping changes how a token is read exactly when the token, read without
escapes, has a delimiter behind an odd run of backslashes. -/
theorem closeQuote_eq_iff {d : Char} (hd : d ≠ '\\') (s : Text) :
    closeQuote true d s = closeQuote false d s ↔
      escapedDelimiter d false (quoteExtent d s) = false := by
  have hbs : ('\\' : Char) ≠ d := Ne.symm hd
  fun_induction closeQuote true d s with
  | case1 => simp [closeQuote, quoteExtent, escapedDelimiter]
  | case2 c hc =>
      have hc' : c = '\\' := by simpa using hc
      subst hc'
      simp [closeQuote, quoteExtent, escapedDelimiter, hbs]
  | case3 c hc hcd =>
      have hc' : c = d := by simpa using hcd
      subst hc'
      simp [closeQuote, quoteExtent, escapedDelimiter]
  | case4 c hc hcd =>
      have hc' : c ≠ d := by simpa using hcd
      have hne : c ≠ '\\' := by simpa using hc
      simp [closeQuote, quoteExtent, escapedDelimiter, hc', hne]
  | case5 c e s hc ih =>
      have hc' : c = '\\' := by simpa using hc
      subst hc'
      rw [closeQuote_false_cons hbs, quoteExtent_cons hbs]
      by_cases hed : e = d
      · -- the escaped delimiter: the two readings get out of step here
        subst hed
        obtain ⟨r, hr⟩ := quoteExtent_delimiter e s
        have hesc : escapedDelimiter e false ('\\' :: quoteExtent e (e :: s)) = true := by
          simp [escapedDelimiter, hr, hd]
        rw [hesc]
        simp only [Bool.true_eq_false, iff_false]
        intro h
        refine closeQuote_out_of_step e hd s false true ((map_cons_inj '\\').mp ?_)
        rw [← h, Option.map_map]
        rfl
      · rw [closeQuote_false_cons hed, quoteExtent_cons hed, Option.map_map]
        refine (map_cons_cons_inj '\\' e).trans (ih.trans ?_)
        by_cases hee : e = '\\'
        · subst hee
          simp [escapedDelimiter]
        · simp [escapedDelimiter, hed, hee]
  | case6 c e s hc hcd hed ih =>
      have hc' : c = d := by simpa using hcd
      have he' : e = d := by simpa using hed
      subst hc' he'
      have hr : closeQuote false e (e :: e :: s) =
          (closeQuote false e s).map fun p => (e :: e :: p.1, p.2) := by
        simp [closeQuote]
      have hext : quoteExtent e (e :: e :: s) = e :: e :: quoteExtent e s := by
        unfold quoteExtent
        rw [hr]
        cases closeQuote false e s <;> rfl
      rw [hr, hext]
      refine (map_cons_cons_inj e e).trans (ih.trans ?_)
      simp [escapedDelimiter, hd]
  | case7 c e s hc hcd hed =>
      have hc' : c = d := by simpa using hcd
      have he' : e ≠ d := by simpa using hed
      subst hc'
      simp [closeQuote, quoteExtent, escapedDelimiter, he']
  | case8 c e s hc hcd ih =>
      have hc' : c ≠ d := by simpa using hcd
      have hne : c ≠ '\\' := by simpa using hc
      rw [closeQuote_false_cons hc', quoteExtent_cons hc']
      refine (map_cons_inj c).trans (ih.trans ?_)
      simp [escapedDelimiter, hne]

theorem closeQuote_false_of_true {d : Char} (hd : d ≠ '\\') {s body rest : Text}
    (h : closeQuote true d s = some (body, rest))
    (hesc : escapedDelimiter d false (body ++ [d]) = false) :
    closeQuote false d s = some (body, rest) := by
  have hbs : ('\\' : Char) ≠ d := Ne.symm hd
  fun_induction closeQuote true d s generalizing body with
  | case1 => cases h
  | case2 c hc => cases h
  | case3 c hc hcd => simpa [closeQuote, hcd] using h
  | case4 c hc hcd => cases h
  | case5 c e s hc ih =>
      have hc' : c = '\\' := by simpa using hc
      subst hc'
      obtain ⟨⟨body', rest'⟩, hclose, heq⟩ := Option.map_eq_some_iff.mp h
      cases heq
      have hed : e ≠ d := by
        rintro rfl
        simp [escapedDelimiter, hd] at hesc
      have hesc' : escapedDelimiter d false (body' ++ [d]) = false := by
        by_cases hee : e = '\\'
        · simpa [escapedDelimiter, hee] using hesc
        · simpa [escapedDelimiter, hee, hed] using hesc
      rw [closeQuote_false_cons hbs, closeQuote_false_cons hed, ih hclose hesc']
      rfl
  | case6 c e s hc hcd hed ih =>
      have hc' : c = d := by simpa using hcd
      have he' : e = d := by simpa using hed
      subst hc' he'
      obtain ⟨⟨body', rest'⟩, hclose, heq⟩ := Option.map_eq_some_iff.mp h
      cases heq
      have hesc' : escapedDelimiter e false (body' ++ [e]) = false := by
        simpa [escapedDelimiter, hd] using hesc
      simp [closeQuote, ih hclose hesc']
  | case7 c e s hc hcd hed => simpa [closeQuote, hcd, hed] using h
  | case8 c e s hc hcd ih =>
      have hc' : c ≠ d := by simpa using hcd
      have hne : c ≠ '\\' := by simpa using hc
      obtain ⟨⟨body', rest'⟩, hclose, heq⟩ := Option.map_eq_some_iff.mp h
      cases heq
      have hesc' : escapedDelimiter d false (body' ++ [d]) = false := by
        simpa [escapedDelimiter, hne] using hesc
      rw [closeQuote_false_cons hc', ih hclose hesc']
      rfl

theorem closeQuote_congr {d : Char} (hd : d ≠ '\\') (e₁ e₂ : Bool) {s body rest : Text}
    (h : closeQuote e₁ d s = some (body, rest))
    (hesc : escapedDelimiter d false (body ++ [d]) = false) :
    closeQuote e₂ d s = some (body, rest) := by
  cases e₁ with
  | true =>
      cases e₂ with
      | true => exact h
      | false => exact closeQuote_false_of_true hd h hesc
  | false =>
      cases e₂ with
      | true =>
          rw [(closeQuote_eq_iff hd s).mpr ?_, h]
          rwa [quoteExtent, h]
      | false => exact h

theorem isQuote_ne_backslash {d : Char} (hd : isQuote d = true) : d ≠ '\\' := by
  rintro rfl
  revert hd
  decide

/-- A token that two escape rules read alike. -/
def Token.sameUnder (f g : Char → Bool) : Token → Bool
  | .quoted d body => f d == g d || !(Token.quoted d body).misread
  | _ => true

theorem lexOne_congr {f g : Char → Bool} {s rest : Text} {t : Token}
    (h : lexOne f s = some (t, rest)) (ht : t.sameUnder f g = true) :
    lexOne g s = some (t, rest) := by
  apply lexOne_of_lexStep
  cases lexStep_of_lexOne h with
  | line hline => exact .line hline
  | block hclose => exact .block hclose
  | quoted hd hclose =>
      refine .quoted hd ?_
      simp only [Token.sameUnder, Token.misread, Bool.or_eq_true, beq_iff_eq,
        Bool.not_eq_true'] at ht
      rcases ht with heq | hmis
      · rwa [← heq]
      · exact closeQuote_congr (isQuote_ne_backslash hd) _ _ hclose hmis
  | terminator => exact .terminator
  | char hline hblock hquote hterm => exact .char hline hblock hquote hterm

/-! ## Prefixes of a token sequence -/

/-- `ts` are the first tokens of `s`, and `rest` is what they leave. -/
inductive Lexes (escapes : Char → Bool) : Text → List Token → Text → Prop
  | done {s : Text} : Lexes escapes s [] s
  | token {s r rest : Text} {t : Token} {ts : List Token}
      (hone : lexOne escapes s = some (t, r)) (htail : Lexes escapes r ts rest) :
      Lexes escapes s (t :: ts) rest

namespace Lexes

theorem of_lex (escapes : Char → Bool) (s : Text) :
    Lexes escapes s (lex escapes s).1 (lex escapes s).2 := by
  induction s using lex_induction escapes with
  | stop s hone =>
      rw [lex_of_none hone]
      exact .done
  | token s t rest hone ih =>
      rw [lex_of_some hone]
      exact .token hone ih

theorem lex_eq {escapes : Char → Bool} {s rest : Text} {ts : List Token}
    (h : Lexes escapes s ts rest) :
    lex escapes s = (ts ++ (lex escapes rest).1, (lex escapes rest).2) := by
  induction h with
  | done => rfl
  | token hone _ ih => rw [lex_of_some hone, ih, List.cons_append]

theorem eq_append {escapes : Char → Bool} {s rest : Text} {ts : List Token}
    (h : Lexes escapes s ts rest) : s = ts.flatMap Token.chars ++ rest := by
  induction h with
  | done => rfl
  | token hone _ ih =>
      rw [lexOne_eq_append hone, List.flatMap_cons, List.append_assoc, ← ih]

theorem split {escapes : Char → Bool} {s rest : Text} (ts : List Token) {us : List Token}
    (h : Lexes escapes s (ts ++ us) rest) :
    ∃ mid, Lexes escapes s ts mid ∧ Lexes escapes mid us rest := by
  induction ts generalizing s with
  | nil => exact ⟨s, .done, h⟩
  | cons t ts ih =>
      cases h with
      | token hone htail =>
          obtain ⟨mid, hfirst, hlast⟩ := ih htail
          exact ⟨mid, .token hone hfirst, hlast⟩

theorem congr {f g : Char → Bool} {s rest : Text} {ts : List Token} (h : Lexes f s ts rest)
    (hts : ∀ t ∈ ts, t.sameUnder f g = true) : Lexes g s ts rest := by
  induction h with
  | done => exact .done
  | token hone _ ih =>
      exact .token (lexOne_congr hone (hts _ List.mem_cons_self))
        (ih fun t ht => hts t (List.mem_cons_of_mem _ ht))

end Lexes

/-! ## Identifiers read with escapes -/

/-- An unterminated identifier whose reading depends on escapes. -/
def unterminatedMisread : Text → Bool
  | '`' :: r => escapedDelimiter '`' false r
  | _ => false

/-- No odd run of backslashes stands before a backtick inside an identifier, as
the default mode reads the text. -/
def cleanIdentifiers (s : Text) : Bool :=
  (lex defaultMode s).1.all (fun t => t.sameUnder defaultMode scannerRule) &&
    !unterminatedMisread (lex defaultMode s).2

theorem scannerRule_eq_defaultMode {d : Char} (hd : d ≠ '`') : defaultMode d = scannerRule d := by
  simp [defaultMode, scannerRule, hd]

theorem lexOne_none_iff_of_none {s : Text} (h : lexOne defaultMode s = none) :
    lexOne scannerRule s = none ↔ unterminatedMisread s = false := by
  rcases lexOne_eq_none_iff.mp h with rfl | ⟨r, rfl, hclose⟩ | ⟨d, r, rfl, hd, hclose⟩
  · exact iff_of_true rfl rfl
  · exact iff_of_true (lexOne_eq_none_iff.mpr (.inr (.inl ⟨r, rfl, hclose⟩))) rfl
  · by_cases hb : d = '`'
    · subst hb
      have hfalse : closeQuote false '`' r = none := hclose
      have hiff := closeQuote_eq_iff (isQuote_ne_backslash hd) r
      rw [quoteExtent, hfalse] at hiff
      simpa [lexOne, startsLineComment_of_isQuote hd, startsBlockComment_of_isQuote hd, hd,
        unterminatedMisread, scannerRule] using hiff
    · refine iff_of_true (lexOne_eq_none_iff.mpr (.inr (.inr ⟨d, r, rfl, hd, ?_⟩))) ?_
      · rwa [← scannerRule_eq_defaultMode hb]
      · unfold unterminatedMisread
        split
        · next heq => exact absurd (List.cons.inj heq).1 hb
        · rfl

theorem lexOne_eq_iff_of_some {s rest : Text} {t : Token}
    (h : lexOne defaultMode s = some (t, rest)) :
    lexOne scannerRule s = some (t, rest) ↔ t.sameUnder defaultMode scannerRule = true := by
  refine ⟨fun hsame => ?_, lexOne_congr h⟩
  cases lexStep_of_lexOne h with
  | line hline => rfl
  | block hclose => unfold blockToken; split <;> rfl
  | terminator => rfl
  | char hline hblock hquote hterm => split_ifs <;> rfl
  | @quoted d r body rest hd hclose =>
      by_cases hb : d = '`'
      · subst hb
        have hfalse : closeQuote false '`' r = some (body, rest) := hclose
        have htrue : closeQuote true '`' r = some (body, rest) := by
          cases hc : closeQuote true '`' r with
          | none =>
              simp [lexOne, startsLineComment_of_isQuote hd, startsBlockComment_of_isQuote hd, hd,
                scannerRule, hc] at hsame
          | some p =>
              simpa [lexOne, startsLineComment_of_isQuote hd, startsBlockComment_of_isQuote hd, hd,
                scannerRule, hc, Prod.ext_iff] using hsame
        have hiff := (closeQuote_eq_iff (isQuote_ne_backslash hd) r).mp (htrue.trans hfalse.symm)
        rw [quoteExtent, hfalse] at hiff
        simp [Token.sameUnder, Token.misread, hiff]
      · simp [Token.sameUnder, scannerRule_eq_defaultMode hb]

/-- The scanner's escape rule gives the tokens of the default mode exactly on
the texts without such an identifier. -/
theorem lex_eq_iff (s : Text) :
    lex scannerRule s = lex defaultMode s ↔ cleanIdentifiers s = true := by
  unfold cleanIdentifiers
  induction s using lex_induction defaultMode with
  | stop s hone =>
      rw [lex_of_none hone]
      simp only [List.all_nil, Bool.true_and, Bool.not_eq_true']
      rw [← lexOne_none_iff_of_none hone]
      refine ⟨fun h => ?_, lex_of_none⟩
      cases hs : lexOne scannerRule s with
      | none => rfl
      | some p =>
          rw [lex_of_some hs] at h
          cases congrArg Prod.fst h
  | token s t rest hone ih =>
      rw [lex_of_some hone]
      simp only [List.all_cons, Bool.and_assoc, Bool.and_eq_true]
      rw [← lexOne_eq_iff_of_some hone, ← Bool.and_eq_true, ← ih]
      constructor
      · intro h
        cases hs : lexOne scannerRule s with
        | none =>
            rw [lex_of_none hs] at h
            cases congrArg Prod.fst h
        | some p =>
            obtain ⟨t', rest'⟩ := p
            rw [lex_of_some hs] at h
            obtain ⟨hcons, hend⟩ := Prod.mk.inj h
            obtain ⟨rfl, htail⟩ := List.cons.inj hcons
            have hrest : rest' = rest :=
              List.append_cancel_left ((lexOne_eq_append hs).symm.trans (lexOne_eq_append hone))
            subst hrest
            exact ⟨rfl, Prod.ext htail hend⟩
      · rintro ⟨hs, htail⟩
        rw [lex_of_some hs, htail]

end Dbotter.Execution
