import Dbotter.Text.Utf8

/-!
POSIX word splitting as a machine over characters.

Space, tab and newline delimit words, a carriage return is an ordinary character,
`#` at the start of a word opens a comment up to the end of the line, and a
backslash before a newline continues the line. A lone backslash at the end of the
input stands for itself; an open quote there is an error.
-/

namespace Dbotter.ShellWords
open Dbotter.Utf8

/-- Where the machine stands, with the word it is reading. -/
inductive Mode
  | delimiter
  | backslash
  | comment
  | unquoted (word : Text)
  | unquotedBackslash (word : Text)
  | singleQuoted (word : Text)
  | doubleQuoted (word : Text)
  | doubleQuotedBackslash (word : Text)
  deriving DecidableEq, Repr

@[ext]
structure State where
  words : List Text := []
  mode : Mode := .delimiter
  deriving DecidableEq, Repr

def isBlank (c : Char) : Bool := c == '\t' || c == ' ' || c == '\n'

/-- The characters that a backslash escapes between double quotes. -/
def isDoubleQuotedEscape (c : Char) : Bool := c == '$' || c == '`' || c == '"' || c == '\\'

def step (s : State) (c : Char) : State :=
  match s.mode with
  | .delimiter =>
      if c == '\'' then { s with mode := .singleQuoted [] }
      else if c == '"' then { s with mode := .doubleQuoted [] }
      else if c == '\\' then { s with mode := .backslash }
      else if isBlank c then s
      else if c == '#' then { s with mode := .comment }
      else { s with mode := .unquoted [c] }
  | .backslash =>
      if c == '\n' then { s with mode := .delimiter } else { s with mode := .unquoted [c] }
  | .comment => if c == '\n' then { s with mode := .delimiter } else s
  | .unquoted w =>
      if c == '\'' then { s with mode := .singleQuoted w }
      else if c == '"' then { s with mode := .doubleQuoted w }
      else if c == '\\' then { s with mode := .unquotedBackslash w }
      else if isBlank c then { words := s.words ++ [w], mode := .delimiter }
      else { s with mode := .unquoted (w ++ [c]) }
  | .unquotedBackslash w =>
      if c == '\n' then { s with mode := .unquoted w } else { s with mode := .unquoted (w ++ [c]) }
  | .singleQuoted w =>
      if c == '\'' then { s with mode := .unquoted w } else { s with mode := .singleQuoted (w ++ [c]) }
  | .doubleQuoted w =>
      if c == '"' then { s with mode := .unquoted w }
      else if c == '\\' then { s with mode := .doubleQuotedBackslash w }
      else { s with mode := .doubleQuoted (w ++ [c]) }
  | .doubleQuotedBackslash w =>
      if c == '\n' then { s with mode := .doubleQuoted w }
      else if isDoubleQuotedEscape c then { s with mode := .doubleQuoted (w ++ [c]) }
      else { s with mode := .doubleQuoted (w ++ ['\\', c]) }

def run (s : State) (text : Text) : State := text.foldl step s

/-- The words at the end of the input; `none` inside a quote. -/
def finish (s : State) : Option (List Text) :=
  match s.mode with
  | .delimiter => some s.words
  | .comment => some s.words
  | .backslash => some (s.words ++ [['\\']])
  | .unquoted w => some (s.words ++ [w])
  | .unquotedBackslash w => some (s.words ++ [w ++ ['\\']])
  | .singleQuoted _ => none
  | .doubleQuoted _ => none
  | .doubleQuotedBackslash _ => none

def split (text : Text) : Option (List Text) := finish (run {} text)

/-! ## Runs compose -/

@[simp] theorem run_nil (s : State) : run s [] = s := rfl

@[simp] theorem run_cons (s : State) (c : Char) (text : Text) :
    run s (c :: text) = run (step s c) text := rfl

@[simp] theorem run_append (s : State) (t u : Text) : run s (t ++ u) = run (run s t) u := by
  simp [run]

def State.prepend (ws : List Text) (s : State) : State := { s with words := ws ++ s.words }

theorem step_prepend (ws : List Text) (s : State) (c : Char) :
    step (s.prepend ws) c = (step s c).prepend ws := by
  obtain ⟨words, mode⟩ := s
  cases mode <;> simp only [step, State.prepend] <;> split_ifs <;> simp

theorem run_prepend (ws : List Text) (s : State) (text : Text) :
    run (s.prepend ws) text = (run s text).prepend ws := by
  induction text generalizing s with
  | nil => rfl
  | cons c text ih => rw [run_cons, run_cons, step_prepend, ih]

theorem finish_prepend (ws : List Text) (s : State) :
    finish (s.prepend ws) = (finish s).map (ws ++ ·) := by
  obtain ⟨words, mode⟩ := s
  cases mode <;> simp [finish, State.prepend]

/-- Words already read are a prefix of the result. -/
theorem finish_run_words (ws : List Text) (m : Mode) (text : Text) :
    finish (run ⟨ws, m⟩ text) = (finish (run ⟨[], m⟩ text)).map (ws ++ ·) := by
  have h := run_prepend ws ⟨[], m⟩ text
  simp only [State.prepend, List.append_nil] at h
  rw [h]
  exact finish_prepend ws (run ⟨[], m⟩ text)

/-! ## The word being read -/

def Mode.word? : Mode → Option Text
  | .delimiter => none
  | .backslash => none
  | .comment => none
  | .unquoted w => some w
  | .unquotedBackslash w => some w
  | .singleQuoted w => some w
  | .doubleQuoted w => some w
  | .doubleQuotedBackslash w => some w

theorem step_word {m : Mode} {w : Text} (h : m.word? = some w) (c : Char) :
    (∃ e, (step ⟨[], m⟩ c).words = [] ∧ (step ⟨[], m⟩ c).mode.word? = some (w ++ e)) ∨
      step ⟨[], m⟩ c = ⟨[w], .delimiter⟩ := by
  cases m <;> simp only [Mode.word?, Option.some.injEq, reduceCtorEq] at h <;> subst h <;>
    simp only [step] <;> split_ifs <;> simp [Mode.word?]

/-- A word once begun is only ever extended before it is pushed. -/
theorem finish_run_word {m : Mode} {w : Text} (h : m.word? = some w) (text : Text)
    {ws : List Text} (hws : finish (run ⟨[], m⟩ text) = some ws) :
    ∃ e rest, ws = (w ++ e) :: rest := by
  induction text generalizing m w with
  | nil =>
      cases m <;> simp only [Mode.word?, Option.some.injEq, reduceCtorEq] at h <;> subst h <;>
        simp [finish] at hws
      · exact ⟨[], [], by simp [← hws]⟩
      · exact ⟨['\\'], [], by simp [← hws]⟩
  | cons c text ih =>
      rw [run_cons] at hws
      rcases step_word h c with ⟨e, hwords, hmode⟩ | hpush
      · have heq : step ⟨[], m⟩ c = ⟨[], (step ⟨[], m⟩ c).mode⟩ :=
          State.ext hwords rfl
        rw [heq] at hws
        obtain ⟨e', rest, hrest⟩ := ih hmode hws
        exact ⟨e ++ e', rest, by rw [hrest, List.append_assoc]⟩
      · rw [hpush, finish_run_words] at hws
        obtain ⟨rest, -, hrest⟩ := Option.map_eq_some_iff.mp hws
        exact ⟨[], rest, by simp [← hrest]⟩

/-! ## How long the words are -/

/-- The bytes of some words, each with the separator behind it. -/
def wordBytes (words : List Text) : Nat := (words.map fun w => byteLen w + 1).sum

/-- What a mode has read of its word, and a backslash that it may still put out. -/
def Mode.size : Mode → Nat
  | .delimiter | .comment => 0
  | .backslash => 1
  | .unquoted w | .singleQuoted w | .doubleQuoted w => byteLen w
  | .unquotedBackslash w | .doubleQuotedBackslash w => byteLen w + 1

def State.size (s : State) : Nat := wordBytes s.words + s.mode.size

/-- A character adds no more than itself. -/
theorem size_step_le (s : State) (c : Char) : (step s c).size ≤ s.size + c.utf8Size := by
  have hpos := c.utf8Size_pos
  have hbackslash : Char.utf8Size '\\' = 1 := rfl
  obtain ⟨words, mode⟩ := s
  cases mode <;> simp only [step] <;> split_ifs <;>
    simp only [State.size, Mode.size, wordBytes, List.map_append, List.map_cons, List.map_nil,
      List.sum_append, List.sum_cons, List.sum_nil, byteLen_append, byteLen_cons, byteLen_nil,
      hbackslash] <;>
    omega

theorem size_run_le (s : State) (text : Text) : (run s text).size ≤ s.size + byteLen text := by
  induction text generalizing s with
  | nil => exact Nat.le_refl _
  | cons c text ih =>
      have hstep := size_step_le s c
      have htail := ih (step s c)
      rw [run_cons, byteLen_cons]
      omega

theorem wordBytes_finish_le {s : State} {words : List Text} (h : finish s = some words) :
    wordBytes words ≤ s.size + 1 := by
  have hbackslash : Char.utf8Size '\\' = 1 := rfl
  obtain ⟨ws, mode⟩ := s
  cases mode <;> simp only [finish, Option.some.injEq, reduceCtorEq] at h <;> subst h <;>
    simp only [State.size, Mode.size, wordBytes, List.map_append, List.map_cons, List.map_nil,
      List.sum_append, List.sum_cons, List.sum_nil, byteLen_append, byteLen_cons, byteLen_nil,
      hbackslash] <;>
    omega

/-- The words of a text, with one separator between two of them, are no longer than the text. -/
theorem wordBytes_split_le {text : Text} {words : List Text} (h : split text = some words) :
    wordBytes words ≤ byteLen text + 1 := by
  have hrun := size_run_le {} text
  have hfinish := wordBytes_finish_le h
  have hstart : State.size {} = 0 := rfl
  omega

end Dbotter.ShellWords
