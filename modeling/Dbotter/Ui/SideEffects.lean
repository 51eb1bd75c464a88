import Dbotter.Ui.Editor

/-!
Which MySQL texts are labelled as reads although they lock, write a file or wait.

The classification searches the characters of the text. What the text does is decided by its
words, which any layout may separate, so both are compared here: the words of a text carry the
layout in front of them, and a side effect is spelled as the search expects or otherwise.
-/

namespace Dbotter.Ui
open Dbotter.Utf8 Dbotter.Execution Dbotter.Service

/-! ## The words of a text -/

/-- What follows the mark of an executable comment, cut in front of the closing mark. -/
def splitClosing (s : Text) : Text × Text := s.splitAt (s.length - 2)

/-- A token without an end, as one token. -/
def unterminated (rest : Text) : List Token := if rest.isEmpty then [] else [.executable rest]

/-- The tokens of one token: an executable comment is a mark with a version, the tokens of its
body and a closing mark. -/
def expand (mode : Char → Bool) : Token → List Token
  | .executable cs =>
      let (body, closing) := splitClosing (cs.drop 3)
      let lexed := lex mode (body.dropWhile Char.isDigit)
      .comment (cs.take 3 ++ body.takeWhile Char.isDigit) ::
        (lexed.1 ++ (unterminated lexed.2 ++ [.comment closing]))
  | t => [t]

def isWordChar (c : Char) : Bool :=
  c.isAlphanum || c == '_' || c == '$' || c == '@' || 128 ≤ c.toNat

def isWordPart : Token → Bool
  | .plain c => isWordChar c
  | _ => false

/-- A word or another token, and the layout and comments in front of it. -/
structure Lexeme where
  gap : Text
  chars : Text
  deriving DecidableEq, Repr

def Lexeme.raw (l : Lexeme) : Text := l.gap ++ l.chars

def Lexeme.keyword (l : Lexeme) : Text := toAsciiUppercase l.chars

/-- The word read so far, if there is one, behind its layout. -/
def closeWord (gap word : Text) : List Lexeme := if word.isEmpty then [] else [⟨gap, word⟩]

/-- The layout that is left for the next lexeme. -/
def gapLeft (gap word : Text) : Text := if word.isEmpty then gap else []

/-- Maximal runs of word characters are one lexeme, every other token is one by itself. -/
def lexemes (gap word : Text) : List Token → List Lexeme
  | [] => closeWord gap word
  | t :: ts =>
      if isWordPart t then lexemes gap (word ++ t.chars) ts
      else if t.isSignificant then
        closeWord gap word ++ ⟨gapLeft gap word, t.chars⟩ :: lexemes [] [] ts
      else closeWord gap word ++ lexemes (gapLeft gap word ++ t.chars) [] ts

/-- The words and other tokens of a text in a SQL mode. -/
def tokenStream (mode : Char → Bool) (text : Text) : List Lexeme :=
  lexemes [] [] ((lex mode text).1.flatMap (expand mode))

/-! ## Side effects -/

/-- Words in a row that make a statement more than a read, and what the search expects in front
of each of them. -/
structure Form where
  glue : Text
  words : List Text
  deriving DecidableEq, Repr

namespace Form

/-- The characters that are searched. -/
def spelling (f : Form) : Text := f.words.flatMap (f.glue ++ ·)

/-- Lexemes with the layout that the search expects. -/
def Plain (f : Form) : List Lexeme → Prop
  | [] => True
  | l :: ls => f.glue <:+ l.gap ∧ ∀ m ∈ ls, m.gap = f.glue

instance (f : Form) : DecidablePred f.Plain
  | [] => inferInstanceAs (Decidable True)
  | l :: ls => inferInstanceAs (Decidable (f.glue <:+ l.gap ∧ ∀ m ∈ ls, m.gap = f.glue))

/-- The lexemes `mid` of a stream are the words of the form, in either case. -/
def OccursAs (f : Form) (mid stream : List Lexeme) : Prop :=
  mid <:+: stream ∧ mid.map Lexeme.keyword = f.words

end Form

def clause (words : List Text) : Form := ⟨[' '], words⟩

def call (name : Text) : Form := ⟨[], [name, ['(']]⟩

def forms : List Form :=
  [clause ["INTO".toList, "OUTFILE".toList], clause ["INTO".toList, "DUMPFILE".toList],
    clause ["FOR".toList, "UPDATE".toList],
    clause ["LOCK".toList, "IN".toList, "SHARE".toList, "MODE".toList],
    call "GET_LOCK".toList, call "RELEASE_LOCK".toList, call "SLEEP".toList]

/-- The stream holds none of the forms, whatever stands between the words. -/
def FreeOfSideEffects (stream : List Lexeme) : Prop :=
  ∀ f ∈ forms, ¬ f.words <:+: stream.map Lexeme.keyword

instance (stream : List Lexeme) : Decidable (FreeOfSideEffects stream) :=
  inferInstanceAs (Decidable (∀ f ∈ forms, ¬ f.words <:+: stream.map Lexeme.keyword))

theorem forms_spelling : forms.map Form.spelling = sideEffects := by decide

/-! ## The stream and the characters -/

theorem flatMap_chars_unterminated (rest : Text) :
    (unterminated rest).flatMap Token.chars = rest := by
  cases rest <;> simp [unterminated, Token.chars]

theorem flatMap_chars_expand (mode : Char → Bool) (t : Token) :
    (expand mode t).flatMap Token.chars = t.chars := by
  cases t with
  | executable cs =>
      have hbody := (Lexes.of_lex mode
        ((splitClosing (cs.drop 3)).1.dropWhile Char.isDigit)).eq_append
      have hclosing : (splitClosing (cs.drop 3)).1 ++ (splitClosing (cs.drop 3)).2 = cs.drop 3 := by
        rw [splitClosing, List.splitAt_eq, List.take_append_drop]
      rw [expand, List.flatMap_cons, List.flatMap_append, List.flatMap_append,
        flatMap_chars_unterminated, List.flatMap_singleton]
      simp only [Token.chars]
      rw [← List.append_assoc _ _ (splitClosing _).2, ← hbody, List.append_assoc,
        ← List.append_assoc (List.takeWhile _ _), List.takeWhile_append_dropWhile, hclosing,
        List.take_append_drop]
  | _ => exact List.append_nil _

theorem closeWord_raw (gap word : Text) :
    (closeWord gap word).flatMap Lexeme.raw ++ gapLeft gap word = gap ++ word := by
  cases word <;> simp [closeWord, gapLeft, Lexeme.raw]

theorem lexemes_raw (ts : List Token) :
    ∀ gap word, ∃ trailing, gap ++ word ++ ts.flatMap Token.chars =
      (lexemes gap word ts).flatMap Lexeme.raw ++ trailing := by
  induction ts with
  | nil =>
      intro gap word
      exact ⟨gapLeft gap word, by rw [lexemes, closeWord_raw, List.flatMap_nil, List.append_nil]⟩
  | cons t ts ih =>
      intro gap word
      rw [lexemes, List.flatMap_cons]
      split
      · obtain ⟨trailing, hraw⟩ := ih gap (word ++ t.chars)
        exact ⟨trailing, by rw [← hraw]; simp⟩
      · split
        · obtain ⟨trailing, hraw⟩ := ih [] []
          refine ⟨trailing, ?_⟩
          rw [← closeWord_raw gap word, List.flatMap_append, List.flatMap_cons]
          simp only [List.nil_append] at hraw
          simp [hraw, Lexeme.raw]
        · obtain ⟨trailing, hraw⟩ := ih (gapLeft gap word ++ t.chars) []
          refine ⟨trailing, ?_⟩
          rw [← closeWord_raw gap word, List.flatMap_append, List.append_assoc, List.append_assoc,
            ← hraw]
          simp

/-- The lexemes of a text with their layout are a piece of it. -/
theorem tokenStream_raw (mode : Char → Bool) (text : Text) :
    ∃ trailing, text = (tokenStream mode text).flatMap Lexeme.raw ++ trailing := by
  obtain ⟨trailing, hraw⟩ := lexemes_raw ((lex mode text).1.flatMap (expand mode)) [] []
  refine ⟨trailing ++ (lex mode text).2, ?_⟩
  have hexpand : ((lex mode text).1.flatMap (expand mode)).flatMap Token.chars =
      (lex mode text).1.flatMap Token.chars := by
    rw [List.flatMap_assoc]
    exact congrArg (List.flatMap · _) (funext (flatMap_chars_expand mode))
  rw [List.append_nil, List.nil_append, hexpand] at hraw
  rw [tokenStream, ← List.append_assoc, ← hraw]
  exact (Lexes.of_lex mode text).eq_append

theorem toAsciiUppercase_append (s t : Text) :
    toAsciiUppercase (s ++ t) = toAsciiUppercase s ++ toAsciiUppercase t := List.map_append

theorem upper_flatMap_raw {glue : Text} (hglue : toAsciiUppercase glue = glue) {ls : List Lexeme}
    (hls : ∀ m ∈ ls, m.gap = glue) :
    toAsciiUppercase (ls.flatMap Lexeme.raw) = (ls.map Lexeme.keyword).flatMap (glue ++ ·) := by
  induction ls with
  | nil => rfl
  | cons l ls ih =>
      rw [List.flatMap_cons, toAsciiUppercase_append, Lexeme.raw, toAsciiUppercase_append,
        hls l List.mem_cons_self, hglue, ih fun m hm => hls m (List.mem_cons_of_mem l hm)]
      rfl

/-- Words that are spelled as the search expects show in the characters. -/
theorem Form.Plain.found {f : Form} (hglue : toAsciiUppercase f.glue = f.glue) {mid : List Lexeme}
    (hplain : f.Plain mid) (hwords : mid.map Lexeme.keyword = f.words) :
    f.spelling <:+: toAsciiUppercase (mid.flatMap Lexeme.raw) := by
  cases mid with
  | nil =>
      rw [Form.spelling, ← hwords]
      exact List.infix_rfl
  | cons l ls =>
      obtain ⟨⟨before, hgap⟩, hls⟩ := hplain
      refine ⟨toAsciiUppercase before, [], ?_⟩
      rw [List.flatMap_cons, toAsciiUppercase_append, upper_flatMap_raw hglue hls, Lexeme.raw,
        ← hgap, toAsciiUppercase_append, toAsciiUppercase_append, hglue, Form.spelling, ← hwords,
        List.map_cons, List.flatMap_cons]
      simp [Lexeme.keyword]

theorem Form.OccursAs.found {f : Form} (hf : f ∈ forms) {mode : Char → Bool} {text : Text}
    {mid : List Lexeme} (h : f.OccursAs mid (tokenStream mode text)) (hplain : f.Plain mid) :
    f.spelling <:+: toAsciiUppercase text := by
  have hglue : ∀ f ∈ forms, toAsciiUppercase f.glue = f.glue := by decide
  obtain ⟨⟨before, behind, hstream⟩, hwords⟩ := h
  obtain ⟨trailing, htext⟩ := tokenStream_raw mode text
  have hpiece : mid.flatMap Lexeme.raw <:+: text := by
    refine ⟨before.flatMap Lexeme.raw, behind.flatMap Lexeme.raw ++ trailing, ?_⟩
    rw [htext, ← hstream, List.flatMap_append, List.flatMap_append]
    simp
  exact (hplain.found (hglue f hf) hwords).trans (hpiece.map Char.toUpper)

theorem exists_occursAs {f : Form} {stream : List Lexeme}
    (h : f.words <:+: stream.map Lexeme.keyword) : ∃ mid, f.OccursAs mid stream := by
  obtain ⟨before, behind, hmap⟩ := h
  obtain ⟨head, tail, hstream, hhead, -⟩ := List.map_eq_append_iff.mp hmap.symm
  obtain ⟨pre, mid, hsplit, -, hmid⟩ := List.map_eq_append_iff.mp hhead
  exact ⟨mid, ⟨pre, tail, by rw [hstream, hsplit]⟩, hmid⟩

theorem Form.OccursAs.words_occur {f : Form} {mid stream : List Lexeme}
    (h : f.OccursAs mid stream) : f.words <:+: stream.map Lexeme.keyword :=
  h.2 ▸ h.1.map Lexeme.keyword

/-! ## The classification -/

/-- The letters at the start of a text. -/
def leadingKeyword (text : Text) : Text :=
  ((toAsciiUppercase text).dropWhile isWhitespace).takeWhile Char.isAlpha

theorem executeRead_iff (text : Text) :
    classifyExecutionKind .mySql (.mySqlText text) = .executeRead ↔
      leadingKeyword text ∈ readKeywords ∧
        ∀ sideEffect ∈ sideEffects, ¬ sideEffect <:+: toAsciiUppercase text := by
  have hkind : ∀ b : Bool, (if b then OperationKind.executeRead else .executeMutation) =
      .executeRead ↔ b = true := by
    decide
  rw [classifyExecutionKind, hkind, mysqlIsClearlyReadOnly]
  split
  · next hlead => exact iff_of_false Bool.false_ne_true fun h => hlead h.1
  · next hlead =>
    rw [Bool.not_eq_true', List.any_eq_false]
    simp only [decide_eq_true_eq]
    exact ⟨fun h => ⟨not_not.mp hlead, h⟩, fun h => h.2⟩

/-- Some words of a form stand in the text with layout that the search does not expect. -/
def SpelledOtherwise (mode : Char → Bool) (text : Text) : Prop :=
  ∃ f ∈ forms, ∃ mid, f.OccursAs mid (tokenStream mode text) ∧ ¬ f.Plain mid

/-- A text that is labelled as a read is free of side effects exactly if it does not start as a
read, or has them all spelled as they are searched, or has a searched spelling besides. -/
theorem execute_read_free_of_side_effects_iff (mode : Char → Bool) (text : Text) :
    (classifyExecutionKind .mySql (.mySqlText text) = .executeRead →
        FreeOfSideEffects (tokenStream mode text)) ↔
      (leadingKeyword text ∈ readKeywords → SpelledOtherwise mode text →
        ∃ sideEffect ∈ sideEffects, sideEffect <:+: toAsciiUppercase text) := by
  rw [executeRead_iff]
  constructor
  · rintro hfree hlead ⟨f, hf, mid, hoccurs, -⟩
    by_contra hnone
    refine hfree ⟨hlead, fun sideEffect hmem hin => hnone ⟨sideEffect, hmem, hin⟩⟩ f hf ?_
    exact hoccurs.words_occur
  · rintro hspelled ⟨hlead, hnone⟩ f hf hin
    obtain ⟨mid, hoccurs⟩ := exists_occursAs hin
    by_cases hplain : f.Plain mid
    · have hmem : f.spelling ∈ sideEffects := forms_spelling ▸ List.mem_map_of_mem hf
      exact hnone f.spelling hmem (hoccurs.found hf hplain)
    · obtain ⟨sideEffect, hmem, hfound⟩ := hspelled hlead ⟨f, hf, mid, hoccurs, hplain⟩
      exact hnone sideEffect hmem hfound

/-- A line break between the words hides a locking read, a blank hides a call, and a mark of an
executable comment hides a file that is written. -/
theorem execute_read_hidden_side_effects :
    (classifyExecutionKind .mySql (.mySqlText "SELECT 1 FOR\nUPDATE".toList) = .executeRead ∧
      ¬ FreeOfSideEffects (tokenStream defaultMode "SELECT 1 FOR\nUPDATE".toList)) ∧
    (classifyExecutionKind .mySql (.mySqlText "SELECT SLEEP (9)".toList) = .executeRead ∧
      ¬ FreeOfSideEffects (tokenStream defaultMode "SELECT SLEEP (9)".toList)) ∧
    (classifyExecutionKind .mySql (.mySqlText "SELECT 1 /*!INTO OUTFILE 'f'*/".toList) =
        .executeRead ∧
      ¬ FreeOfSideEffects (tokenStream defaultMode "SELECT 1 /*!INTO OUTFILE 'f'*/".toList)) := by
  decide +kernel

end Dbotter.Ui
