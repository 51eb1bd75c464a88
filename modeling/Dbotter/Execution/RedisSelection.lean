import Dbotter.Execution.Target

/-!
A Redis selection is checked line by line and then split once more as a whole.

The two readings agree exactly when no line before the last ends in a carriage
return outside a comment or in a backslash: `redisSelection_argv_iff`. The lines
other than the command line are layout and comments, so all that the second
reading can add to them are words made of carriage returns.
-/

namespace Dbotter.Execution
open Dbotter.Utf8 Dbotter.ShellWords

/-! ## Command lines -/

def isCommandLine (split : Text → Option (List Text)) (line : Text) : Bool :=
  match split (trimEndCr line) with
  | some (_ :: _) => true
  | _ => false

/-- The physical lines that parse to a nonempty argument list. -/
def commandLines (split : Text → Option (List Text)) (selection : Text) : List Text :=
  (physicalLines selection).filter (isCommandLine split)

def endsInBackslash : Mode → Bool
  | .backslash => true
  | .unquotedBackslash _ => true
  | _ => false

/-- The line has no carriage return at its end, or has it in a comment, and does
not end in a backslash outside quotes and comments. -/
def endsCleanly (line : Text) : Bool :=
  (line == trimEndCr line || (run {} (trimEndCr line)).mode == .comment) &&
    !endsInBackslash (run {} (trimEndCr line)).mode

def linesEndCleanly (selection : Text) : Bool := (physicalLines selection).dropLast.all endsCleanly

theorem countCommandLines_ok {split : Text → Option (List Text)} {lines : List Text} {n : Nat}
    (h : countCommandLines split lines n = .ok ()) :
    (∀ line ∈ lines, ∃ argv, split (trimEndCr line) = some argv) ∧
      (lines.filter (isCommandLine split) = [] ∨
        n + (lines.filter (isCommandLine split)).length ≤ 1) := by
  induction lines generalizing n with
  | nil => exact ⟨nofun, .inl rfl⟩
  | cons line lines ih =>
      simp only [countCommandLines] at h
      split at h
      · cases h
      · next hline =>
        obtain ⟨hall, hcount⟩ := ih h
        refine ⟨?_, ?_⟩
        · intro l hl
          rcases List.mem_cons.mp hl with rfl | hl
          · exact ⟨_, hline⟩
          · exact hall l hl
        · rwa [List.filter_cons_of_neg (by simp [isCommandLine, hline])]
      · next command arguments hline =>
        split_ifs at h with hn
        obtain ⟨hall, hcount⟩ := ih h
        refine ⟨?_, .inr ?_⟩
        · intro l hl
          rcases List.mem_cons.mp hl with rfl | hl
          · exact ⟨_, hline⟩
          · exact hall l hl
        · rw [List.filter_cons_of_pos (by simp [isCommandLine, hline]), List.length_cons]
          rcases hcount with hnil | hcount
          · rw [hnil, List.length_nil]
            omega
          · omega

/-! ## Carriage returns at the end of a line -/

theorem exists_trimEndCr (line : Text) :
    ∃ k, line = trimEndCr line ++ List.replicate k '\r' := by
  refine ⟨(line.reverse.takeWhile (· == '\r')).length, ?_⟩
  have hrep : line.reverse.takeWhile (· == '\r') =
      List.replicate (line.reverse.takeWhile (· == '\r')).length '\r' :=
    List.eq_replicate_iff.mpr ⟨rfl, fun c hc => by simpa using List.mem_takeWhile_imp hc⟩
  rw [← List.reverse_replicate, ← hrep, trimEndCr, ← List.reverse_append,
    List.takeWhile_append_dropWhile, List.reverse_reverse]

theorem beq_trimEndCr {line : Text} {k : Nat} (h : line = trimEndCr line ++ List.replicate k '\r') :
    (line == trimEndCr line) = (k == 0) := by
  rw [Bool.eq_iff_iff, beq_iff_eq, beq_iff_eq]
  constructor
  · intro heq
    have hlen := congrArg List.length h
    rw [← heq, List.length_append, List.length_replicate] at hlen
    omega
  · rintro rfl
    simpa using h

theorem run_replicate_unquoted (ws : List Text) (w : Text) (k : Nat) :
    run ⟨ws, .unquoted w⟩ (List.replicate k '\r') = ⟨ws, .unquoted (w ++ List.replicate k '\r')⟩ := by
  induction k generalizing w with
  | zero => simp
  | succ k ih =>
      have hstep : step ⟨ws, .unquoted w⟩ '\r' = ⟨ws, .unquoted (w ++ ['\r'])⟩ := rfl
      rw [List.replicate_succ, run_cons, hstep, ih]
      simp

theorem run_replicate_comment (ws : List Text) (k : Nat) :
    run ⟨ws, .comment⟩ (List.replicate k '\r') = ⟨ws, .comment⟩ := by
  induction k with
  | zero => rfl
  | succ k ih =>
      rw [List.replicate_succ, run_cons]
      exact ih

/-- A line that is not a command line holds layout and a comment only. -/
theorem run_of_silent {core : Text} (h : ShellWords.split core = some []) :
    run {} core = ⟨[], .delimiter⟩ ∨ run {} core = ⟨[], .comment⟩ := by
  unfold ShellWords.split finish at h
  generalize run {} core = s at h
  obtain ⟨words, mode⟩ := s
  cases mode <;> simp_all

theorem run_words (ws : List Text) (m : Mode) (text : Text) :
    run ⟨ws, m⟩ text = ⟨ws ++ (run ⟨[], m⟩ text).words, (run ⟨[], m⟩ text).mode⟩ := by
  have h := run_prepend ws ⟨[], m⟩ text
  simpa [State.prepend] using h

/-- The word that the carriage returns of an unclean line without a command make. -/
def crWords (line : Text) : List Text :=
  if endsCleanly line then [] else [line.drop (trimEndCr line).length]

/-- What the reading of a whole selection does with a line and its line break. -/
theorem run_line (line : Text) (k : Nat) (h : line = trimEndCr line ++ List.replicate k '\r')
    (ws : List Text) :
    run ⟨ws, .delimiter⟩ (line ++ ['\n']) =
      step (run ⟨ws ++ (run {} (trimEndCr line)).words, (run {} (trimEndCr line)).mode⟩
        (List.replicate k '\r')) '\n' := by
  rw [run_append]
  nth_rewrite 1 [h]
  rw [run_append, run_words ws .delimiter (trimEndCr line)]
  rfl

theorem run_silent_line {line : Text} (hsilent : ShellWords.split (trimEndCr line) = some [])
    (ws : List Text) :
    run ⟨ws, .delimiter⟩ (line ++ ['\n']) = ⟨ws ++ crWords line, .delimiter⟩ ∧
      ∀ w ∈ crWords line, w.head? = some '\r' := by
  obtain ⟨k, hk⟩ := exists_trimEndCr line
  rw [run_line line k hk ws]
  have hclean := beq_trimEndCr hk
  rcases run_of_silent hsilent with hrun | hrun
  · cases k with
    | zero =>
        have hend : endsCleanly line = true := by simp [endsCleanly, hclean, hrun, endsInBackslash]
        simp [hrun, crWords, hend, step, isBlank]
    | succ k =>
        have hend : endsCleanly line = false := by simp [endsCleanly, hclean, hrun]
        have hdrop : line.drop (trimEndCr line).length = List.replicate (k + 1) '\r' := by
          have hcut := congrArg (List.drop (trimEndCr line).length) hk
          rwa [List.drop_left] at hcut
        have hstep : step ⟨ws, .delimiter⟩ '\r' = ⟨ws, .unquoted ['\r']⟩ := rfl
        rw [crWords, hend, hdrop]
        refine ⟨?_, by simp [List.replicate_succ]⟩
        rw [hrun, List.append_nil, List.replicate_succ, run_cons, hstep, run_replicate_unquoted]
        simp [step, isBlank]
  · have hend : endsCleanly line = true := by simp [endsCleanly, hrun, endsInBackslash]
    rw [hrun, List.append_nil, run_replicate_comment, crWords, hend]
    exact ⟨by simp [step], by simp⟩

theorem run_clean_line {line : Text} {argv : List Text}
    (hargv : ShellWords.split (trimEndCr line) = some argv) (hend : endsCleanly line = true)
    (ws : List Text) :
    run ⟨ws, .delimiter⟩ (line ++ ['\n']) = ⟨ws ++ argv, .delimiter⟩ := by
  obtain ⟨k, hk⟩ := exists_trimEndCr line
  rw [run_line line k hk ws]
  rw [endsCleanly, beq_trimEndCr hk] at hend
  unfold ShellWords.split at hargv
  generalize run {} (trimEndCr line) = s at hargv hend
  obtain ⟨words, mode⟩ := s
  cases mode with
  | comment =>
      have hwords : words = argv := by simpa [finish] using hargv
      rw [run_replicate_comment, hwords]
      simp [step]
  | delimiter =>
      have hwords : words = argv := by simpa [finish] using hargv
      have hzero : k = 0 := by simpa [endsInBackslash] using hend
      simp [hwords, hzero, step, isBlank]
  | unquoted w =>
      have hwords : words ++ [w] = argv := by simpa [finish] using hargv
      have hzero : k = 0 := by simpa [endsInBackslash] using hend
      simp [← hwords, hzero, step, isBlank]
  | backslash => simp [endsInBackslash] at hend
  | unquotedBackslash w => simp [endsInBackslash] at hend
  | singleQuoted w => cases hargv
  | doubleQuoted w => cases hargv
  | doubleQuotedBackslash w => cases hargv

/-! ## Lines without a command -/

def joinLines (lines : List Text) : Text := lines.flatMap (· ++ ['\n'])

theorem run_silent_lines {lines : List Text}
    (hsilent : ∀ line ∈ lines, ShellWords.split (trimEndCr line) = some []) (ws : List Text) :
    run ⟨ws, .delimiter⟩ (joinLines lines) = ⟨ws ++ lines.flatMap crWords, .delimiter⟩ := by
  induction lines generalizing ws with
  | nil => simp [joinLines]
  | cons line lines ih =>
      have hline := (run_silent_line (hsilent line List.mem_cons_self) ws).1
      have htail := ih (fun l hl => hsilent l (List.mem_cons_of_mem _ hl)) (ws ++ crWords line)
      rw [joinLines, List.flatMap_cons, run_append, hline, List.flatMap_cons, ← List.append_assoc]
      exact htail

theorem head_crWords {lines : List Text}
    (hsilent : ∀ line ∈ lines, ShellWords.split (trimEndCr line) = some []) :
    ∀ w ∈ lines.flatMap crWords, w.head? = some '\r' := by
  intro w hw
  obtain ⟨line, hline, hw⟩ := List.mem_flatMap.mp hw
  exact (run_silent_line (hsilent line hline) []).2 w hw

theorem flatMap_crWords_eq_nil_iff (lines : List Text) :
    lines.flatMap crWords = [] ↔ lines.all endsCleanly = true := by
  simp only [List.flatMap_eq_nil_iff, List.all_eq_true, crWords]
  refine forall_congr' fun line => forall_congr' fun _ => ?_
  split_ifs with h <;> simp [h]

/-! ## An unclean command line -/

/-- The three ways in which a reading `words` misses the argument list `argv` of
the command line: it is longer, it has another word in the place of the last one,
or it has lost the last one, a lone backslash, to words of carriage returns. -/
inductive Misses (argv words : List Text) : Prop
  | longer (x : Text) (rest : List Text) (h : words = argv ++ x :: rest)
  | other (init : List Text) (last last' : Text) (rest : List Text)
      (hargv : argv = init ++ [last]) (h : words = init ++ last' :: rest) (hne : last' ≠ last)
  | lost (init rest : List Text) (hargv : argv = init ++ [['\\']]) (h : words = init ++ rest)
      (hrest : ∀ w ∈ rest, w.head? = some '\r')

theorem eq_of_cons_eq_append_singleton {x y : Text} {l : List Text} (h : x :: l = l ++ [y]) :
    x = y := by
  induction l generalizing x with
  | nil => simpa using h
  | cons z l ih =>
      rw [List.cons_append, List.cons.injEq] at h
      obtain ⟨rfl, htail⟩ := h
      exact ih htail

theorem Misses.append_ne {argv words : List Text} (h : Misses argv words) {before : List Text}
    (hbefore : ∀ w ∈ before, w.head? = some '\r') : before ++ words ≠ argv := by
  intro heq
  have hlen := congrArg List.length heq
  cases h with
  | longer x rest h =>
      rw [h] at hlen
      simp only [List.length_append, List.length_cons] at hlen
      omega
  | other init last last' rest hargv h hne =>
      rw [h, hargv] at hlen heq
      simp only [List.length_append, List.length_cons, List.length_nil] at hlen
      obtain rfl : before = [] := List.length_eq_zero_iff.mp (by omega)
      obtain rfl : rest = [] := List.length_eq_zero_iff.mp (by omega)
      simp only [List.nil_append] at heq
      exact hne (by simpa using heq)
  | lost init rest hargv h hrest =>
      rw [h, hargv] at hlen heq
      simp only [List.length_append, List.length_cons, List.length_nil] at hlen
      cases before with
      | nil =>
          have hone : rest = [['\\']] := by simpa using heq
          have hhead := hrest ['\\'] (by simp [hone])
          revert hhead
          decide
      | cons w before =>
          have hw := hbefore w List.mem_cons_self
          rw [List.length_cons] at hlen
          obtain rfl : before = [] := List.length_eq_zero_iff.mp (by omega)
          obtain rfl : rest = [] := List.length_eq_zero_iff.mp (by omega)
          rw [List.singleton_append, List.append_nil] at heq
          rw [eq_of_cons_eq_append_singleton heq] at hw
          revert hw
          decide

/-- Lines without a command, the last of which has no line break and no carriage
return at its end. -/
structure SilentTail (init : List Text) (last : Text) : Prop where
  init_silent : ∀ line ∈ init, ShellWords.split (trimEndCr line) = some []
  init_line : ∀ line ∈ init, '\n' ∉ line
  last_silent : ShellWords.split last = some []
  last_line : '\n' ∉ last

theorem finish_last (ws : List Text) {last : Text} {argv : List Text}
    (h : ShellWords.split last = some argv) :
    finish (run ⟨ws, .delimiter⟩ last) = some (ws ++ argv) := by
  have hsplit : finish (run ⟨[], .delimiter⟩ last) = some argv := h
  rw [finish_run_words, hsplit]
  rfl

theorem SilentTail.finish_run {init : List Text} {last : Text} (h : SilentTail init last)
    (ws : List Text) :
    finish (run ⟨ws, .delimiter⟩ (joinLines init ++ last)) =
      some (ws ++ init.flatMap crWords) := by
  rw [run_append, run_silent_lines h.init_silent, finish_last _ h.last_silent, List.append_nil]

theorem head_of_split_nil {c : Char} {s : Text} (h : ShellWords.split (c :: s) = some [])
    (hline : '\n' ∉ s) : isBlank c = true ∨ c = '#' := by
  have begun : ∀ {m : Mode} {w : Text} (t : Text), m.word? = some w →
      finish (run ⟨[], m⟩ t) ≠ some [] := by
    intro m w t hm hnil
    obtain ⟨e, rest, hrest⟩ := finish_run_word hm t hnil
    cases hrest
  by_contra hc
  obtain ⟨hblank, hhash⟩ := not_or.mp hc
  rw [ShellWords.split, run_cons] at h
  simp only [step, hblank, hhash, beq_iff_eq, if_false, Bool.false_eq_true] at h
  split_ifs at h with h1 h2 h3
  · exact begun s rfl h
  · exact begun s rfl h
  · cases s with
    | nil => cases h
    | cons d s =>
        have hd : d ≠ '\n' := fun heq => hline (heq ▸ List.mem_cons_self)
        rw [run_cons] at h
        simp only [step, beq_iff_eq, hd, if_false] at h
        exact begun s rfl h
  · exact begun s rfl h

theorem head_of_silent_line {line : Text} {c : Char}
    (hsilent : ShellWords.split (trimEndCr line) = some []) (hline : '\n' ∉ line)
    (hc : line.head? = some c) : isBlank c = true ∨ c = '#' ∨ c = '\r' := by
  obtain ⟨k, hk⟩ := exists_trimEndCr line
  cases hcore : trimEndCr line with
  | nil =>
      rw [hcore, List.nil_append] at hk
      have hmem : c ∈ line := List.mem_of_mem_head? hc
      rw [hk] at hmem
      exact .inr (.inr (List.eq_of_mem_replicate hmem))
  | cons d core =>
      rw [hcore] at hk hsilent
      have hd : d = c := by simpa [hk] using hc
      subst hd
      have hcore' : '\n' ∉ core := fun hmem => hline (by rw [hk]; simp [hmem])
      exact (head_of_split_nil hsilent hcore').imp_right .inl

theorem SilentTail.head {init : List Text} {last : Text} (h : SilentTail init last) {c : Char}
    (hc : (joinLines init ++ last).head? = some c) : isBlank c = true ∨ c = '#' ∨ c = '\r' := by
  cases init with
  | nil =>
      have hlast : last.head? = some c := hc
      cases last with
      | nil => cases hlast
      | cons d rest =>
          obtain rfl : d = c := by simpa using hlast
          have hrest : '\n' ∉ rest := fun hmem => h.last_line (List.mem_cons_of_mem _ hmem)
          exact (head_of_split_nil h.last_silent hrest).imp_right .inl
  | cons line init =>
      cases line with
      | nil =>
          obtain rfl : '\n' = c := by simpa [joinLines] using hc
          exact .inl rfl
      | cons d line =>
          obtain rfl : d = c := by simpa [joinLines] using hc
          exact head_of_silent_line (h.init_silent _ List.mem_cons_self)
            (h.init_line _ List.mem_cons_self) rfl

/-- A continued word never gets back the backslash it was continued with. -/
theorem SilentTail.finish_run_unquoted {init : List Text} {last : Text}
    (h : SilentTail init last) {w : Text} {words : List Text}
    (hwords : finish (run ⟨[], .unquoted w⟩ (joinLines init ++ last)) = some words) :
    ∃ e rest, words = (w ++ e) :: rest ∧ e ≠ ['\\'] := by
  cases htext : joinLines init ++ last with
  | nil =>
      rw [htext] at hwords
      obtain rfl : [w] = words := by simpa [finish] using hwords
      exact ⟨[], [], by simp, by simp⟩
  | cons c text =>
      have hc := h.head (c := c) (by rw [htext]; rfl)
      rw [htext, run_cons] at hwords
      by_cases hblank : isBlank c = true
      · have hstep : step ⟨[], .unquoted w⟩ c = ⟨[w], .delimiter⟩ := by
          simp only [isBlank, Bool.or_eq_true, beq_iff_eq] at hblank
          rcases hblank with (rfl | rfl) | rfl <;> rfl
        rw [hstep, finish_run_words] at hwords
        obtain ⟨rest, -, hrest⟩ := Option.map_eq_some_iff.mp hwords
        exact ⟨[], rest, by simp [← hrest], by simp⟩
      · have hstep : step ⟨[], .unquoted w⟩ c = ⟨[], .unquoted (w ++ [c])⟩ := by
          rcases hc.resolve_left hblank with rfl | rfl <;> rfl
        rw [hstep] at hwords
        obtain ⟨e, rest, hrest⟩ := finish_run_word (m := .unquoted (w ++ [c])) rfl text hwords
        refine ⟨c :: e, rest, by simp [hrest], fun heq => ?_⟩
        have hcb : c = '\\' := (List.cons.inj heq).1
        subst hcb
        rcases hc with hc | hc | hc <;> revert hc <;> decide

theorem step_run_unquoted (ws : List Text) (w : Text) (k : Nat) :
    step (run ⟨ws, .unquoted w⟩ (List.replicate k '\r')) '\n' =
      ⟨ws ++ [w ++ List.replicate k '\r'], .delimiter⟩ := by
  rw [run_replicate_unquoted]
  rfl

/-- Carriage returns after a line that ends outside a comment go into a word. -/
theorem step_run_cr (ws : List Text) (mode : Mode) (k : Nat) (start : Text)
    (hstart : step ⟨ws, mode⟩ '\r' = ⟨ws, .unquoted (start ++ ['\r'])⟩) :
    step (run ⟨ws, mode⟩ (List.replicate (k + 1) '\r')) '\n' =
      ⟨ws ++ [start ++ List.replicate (k + 1) '\r'], .delimiter⟩ := by
  rw [List.replicate_succ, run_cons, hstart, step_run_unquoted, List.append_assoc]
  rfl

theorem misses_of_unclean {line : Text} {argv : List Text} {init : List Text} {last : Text}
    (hargv : ShellWords.split (trimEndCr line) = some argv) (hend : endsCleanly line = false)
    (htail : SilentTail init last) {words : List Text}
    (hwords : finish (run (run {} (line ++ ['\n'])) (joinLines init ++ last)) = some words) :
    Misses argv words := by
  obtain ⟨k, hk⟩ := exists_trimEndCr line
  have hline := run_line line k hk []
  rw [List.nil_append] at hline
  rw [show run {} (line ++ ['\n']) = _ from hline] at hwords
  rw [endsCleanly, beq_trimEndCr hk] at hend
  unfold ShellWords.split at hargv
  generalize run {} (trimEndCr line) = s at hargv hend hwords
  obtain ⟨ws, mode⟩ := s
  cases mode with
  | comment => simp [endsInBackslash] at hend
  | delimiter =>
      obtain rfl : ws = argv := by simpa [finish] using hargv
      cases k with
      | zero => simp [endsInBackslash] at hend
      | succ k =>
          rw [step_run_cr ws .delimiter k [] rfl, htail.finish_run, Option.some.injEq] at hwords
          exact .longer (List.replicate (k + 1) '\r') (init.flatMap crWords) (by simp [← hwords])
  | unquoted w =>
      obtain rfl : ws ++ [w] = argv := by simpa [finish] using hargv
      cases k with
      | zero => simp [endsInBackslash] at hend
      | succ k =>
          rw [step_run_unquoted, htail.finish_run, Option.some.injEq] at hwords
          exact .other ws w (w ++ List.replicate (k + 1) '\r') (init.flatMap crWords) rfl
            (by simp [← hwords]) (by simp)
  | backslash =>
      obtain rfl : ws ++ [['\\']] = argv := by simpa [finish] using hargv
      cases k with
      | zero =>
          have hstep : step (run ⟨ws, .backslash⟩ (List.replicate 0 '\r')) '\n' =
              ⟨ws, .delimiter⟩ := rfl
          rw [hstep, htail.finish_run, Option.some.injEq] at hwords
          exact .lost ws (init.flatMap crWords) rfl hwords.symm (head_crWords htail.init_silent)
      | succ k =>
          rw [step_run_cr ws .backslash k [] rfl, htail.finish_run, Option.some.injEq] at hwords
          refine .other ws ['\\'] (List.replicate (k + 1) '\r') (init.flatMap crWords) rfl
            (by simp [← hwords]) ?_
          simp [List.replicate_succ]
  | unquotedBackslash w =>
      obtain rfl : ws ++ [w ++ ['\\']] = argv := by simpa [finish] using hargv
      cases k with
      | zero =>
          have hstep : step (run ⟨ws, .unquotedBackslash w⟩ (List.replicate 0 '\r')) '\n' =
              ⟨ws, .unquoted w⟩ := rfl
          rw [hstep, finish_run_words] at hwords
          obtain ⟨tail, htailWords, rfl⟩ := Option.map_eq_some_iff.mp hwords
          obtain ⟨e, rest, rfl, hne⟩ := htail.finish_run_unquoted htailWords
          exact .other ws (w ++ ['\\']) (w ++ e) rest rfl rfl (by simpa using hne)
      | succ k =>
          rw [step_run_cr ws (.unquotedBackslash w) k w rfl, htail.finish_run,
            Option.some.injEq] at hwords
          refine .other ws (w ++ ['\\']) (w ++ List.replicate (k + 1) '\r')
            (init.flatMap crWords) rfl (by simp [← hwords]) ?_
          simp [List.replicate_succ]
  | singleQuoted w => cases hargv
  | doubleQuoted w => cases hargv
  | doubleQuotedBackslash w => cases hargv

/-! ## Both readings of a selection -/

theorem intercalate_eq_joinLines (init : List Text) (last : Text) :
    ['\n'].intercalate (init ++ [last]) = joinLines init ++ last := by
  induction init with
  | nil => simp [joinLines, List.intercalate]
  | cons line init ih =>
      obtain ⟨x, xs, hx⟩ : ∃ x xs, init ++ [last] = x :: xs :=
        List.exists_cons_of_ne_nil (by simp)
      rw [hx] at ih
      rw [List.cons_append, hx, List.intercalate_cons_cons, ih]
      simp [joinLines]

theorem not_mem_of_mem_physicalLines (selection : Text) :
    ∀ line ∈ physicalLines selection, '\n' ∉ line := by
  unfold physicalLines
  induction selection with
  | nil => simp
  | cons c text ih =>
      rw [List.splitOn_cons_eq_if_modifyHead]
      split_ifs with hc
      · intro line hline
        rcases List.mem_cons.mp hline with rfl | hline
        · exact List.not_mem_nil
        · exact ih line hline
      · obtain ⟨first, rest, hsplit⟩ := List.exists_cons_of_ne_nil (List.splitOn_ne_nil '\n' text)
        rw [hsplit] at ih
        rw [hsplit, List.modifyHead_cons]
        intro line hline
        rcases List.mem_cons.mp hline with rfl | hline
        · intro hmem
          rcases List.mem_cons.mp hmem with rfl | hmem
          · exact hc rfl
          · exact ih first List.mem_cons_self hmem
        · exact ih line (List.mem_cons_of_mem _ hline)

theorem silent_of_not_isCommandLine {line : Text} {argv : List Text}
    (hargv : ShellWords.split (trimEndCr line) = some argv)
    (h : isCommandLine ShellWords.split line = false) :
    ShellWords.split (trimEndCr line) = some [] := by
  cases argv with
  | nil => exact hargv
  | cons a as => simp [isCommandLine, hargv] at h

/-- The command line is the last one. -/
theorem finish_run_last_command {init : List Text} {last : Text} {argv : List Text}
    (hinit : ∀ line ∈ init, ShellWords.split (trimEndCr line) = some [])
    (hlast : ShellWords.split last = some argv) :
    ShellWords.split (joinLines init ++ last) = some (init.flatMap crWords ++ argv) := by
  have hrun := run_silent_lines hinit []
  rw [List.nil_append] at hrun
  rw [ShellWords.split, run_append, hrun, finish_last _ hlast]

/-- The command line has further lines behind it. -/
theorem argv_iff_of_inner_command {pre init : List Text} {line last : Text}
    {argv words : List Text}
    (hpre : ∀ l ∈ pre, ShellWords.split (trimEndCr l) = some [])
    (hargv : ShellWords.split (trimEndCr line) = some argv) (htail : SilentTail init last)
    (hwords : ShellWords.split (joinLines (pre ++ line :: init) ++ last) = some words) :
    words = argv ↔ (pre ++ line :: init).all endsCleanly = true := by
  have hjoin : joinLines (pre ++ line :: init) ++ last =
      joinLines pre ++ ((line ++ ['\n']) ++ (joinLines init ++ last)) := by
    simp [joinLines]
  have hrun := run_silent_lines hpre []
  rw [List.nil_append] at hrun
  rw [ShellWords.split, hjoin, run_append, hrun, run_append] at hwords
  rw [List.all_append, List.all_cons]
  simp only [Bool.and_eq_true]
  cases hend : endsCleanly line with
  | true =>
      rw [run_clean_line hargv hend, htail.finish_run, Option.some.injEq] at hwords
      rw [← flatMap_crWords_eq_nil_iff, ← flatMap_crWords_eq_nil_iff, ← hwords]
      constructor
      · intro heq
        have hlen := congrArg List.length heq
        simp only [List.length_append] at hlen
        exact ⟨List.length_eq_zero_iff.mp (by omega), rfl, List.length_eq_zero_iff.mp (by omega)⟩
      · rintro ⟨hnil, -, hnil'⟩
        rw [hnil, hnil', List.nil_append, List.append_nil]
  | false =>
      refine iff_of_false ?_ (by simp)
      have hprepend : run ⟨pre.flatMap crWords, .delimiter⟩ (line ++ ['\n']) =
          (run {} (line ++ ['\n'])).prepend (pre.flatMap crWords) := by
        rw [← run_prepend]
        simp [State.prepend]
      rw [hprepend, run_prepend, finish_prepend] at hwords
      obtain ⟨tail, htailWords, rfl⟩ := Option.map_eq_some_iff.mp hwords
      exact (misses_of_unclean hargv hend htail htailWords).append_ne (head_crWords hpre)

theorem argv_iff_linesEndCleanly {selection : Text} {argv : List Text} {init : List Text}
    {last : Text} (hlines : physicalLines selection = init ++ [last])
    (hlast : trimEndCr last = last)
    (hparse : ∀ line ∈ init ++ [last], ∃ a, ShellWords.split (trimEndCr line) = some a)
    (hcount : (commandLines ShellWords.split selection).length ≤ 1)
    (hargv : ShellWords.split selection = some argv) (hne : argv ≠ []) :
    (∃ line a, commandLines ShellWords.split selection = [line] ∧
        ShellWords.split (trimEndCr line) = some a ∧ argv = a) ↔
      linesEndCleanly selection = true := by
  have hselection : selection = joinLines init ++ last := by
    rw [← intercalate_eq_joinLines, ← hlines, physicalLines, List.intercalate_splitOn]
  have hbreak : ∀ line ∈ init ++ [last], '\n' ∉ line := by
    rw [← hlines]
    exact not_mem_of_mem_physicalLines selection
  have hsilent : ∀ line ∈ init ++ [last], isCommandLine ShellWords.split line = false →
      ShellWords.split (trimEndCr line) = some [] := by
    intro line hline hcommand
    obtain ⟨a, ha⟩ := hparse line hline
    exact silent_of_not_isCommandLine ha hcommand
  have hclean : linesEndCleanly selection = init.all endsCleanly := by
    rw [linesEndCleanly, hlines, List.dropLast_concat]
  rw [hclean]
  rw [hselection] at hargv
  cases hcommands : commandLines ShellWords.split selection with
  | nil =>
      -- no command line: every word comes from carriage returns
      have hnone : ∀ line ∈ init ++ [last], isCommandLine ShellWords.split line = false := by
        rw [commandLines, hlines, List.filter_eq_nil_iff] at hcommands
        exact fun line hline => by simpa using hcommands line hline
      have hlastSilent := hsilent last (by simp) (hnone last (by simp))
      rw [hlast] at hlastSilent
      have hinit : ∀ line ∈ init, ShellWords.split (trimEndCr line) = some [] := fun line hline =>
        hsilent line (by simp [hline]) (hnone line (by simp [hline]))
      rw [finish_run_last_command hinit hlastSilent, List.append_nil, Option.some.injEq] at hargv
      refine iff_of_false (by simp) ?_
      rw [← flatMap_crWords_eq_nil_iff, hargv]
      exact hne
  | cons line others =>
      obtain rfl : others = [] := by
        rw [hcommands, List.length_cons] at hcount
        exact List.length_eq_zero_iff.mp (by omega)
      rw [commandLines, hlines, List.filter_eq_cons_iff] at hcommands
      obtain ⟨pre, post, hsplit, hpre, -, hpost⟩ := hcommands
      rw [List.filter_eq_nil_iff] at hpost
      obtain ⟨a, ha⟩ := hparse line (by rw [hsplit]; simp)
      have hpreSilent : ∀ l ∈ pre, ShellWords.split (trimEndCr l) = some [] := fun l hl =>
        hsilent l (by rw [hsplit]; simp [hl]) (by simpa using hpre l hl)
      have hpostSilent : ∀ l ∈ post, ShellWords.split (trimEndCr l) = some [] := fun l hl =>
        hsilent l (by rw [hsplit]; simp [hl]) (by simpa using hpost l hl)
      have hleft : (∃ line' a', [line] = [line'] ∧ ShellWords.split (trimEndCr line') = some a' ∧
          argv = a') ↔ argv = a := by
        constructor
        · rintro ⟨line', a', heq, ha', rfl⟩
          obtain rfl : line = line' := by simpa using heq
          exact Option.some.inj (ha'.symm.trans ha)
        · rintro rfl
          exact ⟨line, argv, rfl, ha, rfl⟩
      rw [hleft]
      rcases List.eq_nil_or_concat' post with rfl | ⟨postInit, postLast, rfl⟩
      · obtain ⟨rfl, hline⟩ := List.append_inj' hsplit rfl
        obtain rfl : last = line := by simpa using hline
        rw [hlast] at ha
        rw [finish_run_last_command hpreSilent ha, Option.some.injEq] at hargv
        rw [← flatMap_crWords_eq_nil_iff, ← hargv]
        simp
      · rw [← List.cons_append, ← List.append_assoc] at hsplit
        obtain ⟨rfl, hline⟩ := List.append_inj' hsplit rfl
        obtain rfl : last = postLast := by simpa using hline
        refine argv_iff_of_inner_command hpreSilent ha ⟨?_, ?_, ?_, ?_⟩ hargv
        · exact fun l hl => hpostSilent l (by simp [hl])
        · exact fun l hl => hbreak l (by simp [hl])
        · have := hpostSilent last (by simp)
          rwa [hlast] at this
        · exact hbreak last (by simp)

theorem head_dropWhile_not {p : Char → Bool} {s : Text} {c : Char}
    (h : (s.dropWhile p).head? = some c) : p c = false := by
  have := List.head?_dropWhile_not p s
  simpa [h] using this

theorem trim_last_not_whitespace {text : Text} {c : Char} (h : (trim text).getLast? = some c) :
    isWhitespace c = false := by
  rw [trim, List.getLast?_reverse] at h
  exact head_dropWhile_not h

theorem trimEndCr_eq_self {line : Text} (h : line.getLast? ≠ some '\r') : trimEndCr line = line := by
  unfold trimEndCr
  rw [← List.head?_reverse] at h
  cases hrev : line.reverse with
  | nil => simpa using hrev
  | cons c rest =>
      rw [hrev, List.head?_cons, ne_eq, Option.some.injEq] at h
      rw [List.dropWhile_cons_of_neg (by simpa using h), ← hrev, List.reverse_reverse]

theorem trimEndCr_last_line {text : Text} {init : List Text} {last : Text}
    (hlines : physicalLines (trim text) = init ++ [last]) : trimEndCr last = last := by
  apply trimEndCr_eq_self
  intro hcr
  have htext : trim text = joinLines init ++ last := by
    rw [← intercalate_eq_joinLines, ← hlines, physicalLines, List.intercalate_splitOn]
  have hlast : (trim text).getLast? = some '\r' := by
    rw [htext, List.getLast?_append, hcr]
    rfl
  have hws := trim_last_not_whitespace hlast
  revert hws
  decide

theorem validateRedisTarget_ok {split : Text → Option (List Text)} {target : Text}
    {argv : List Text} (h : validateRedisTarget split target = .ok argv) :
    split target = some argv ∧ argv ≠ [] := by
  unfold validateRedisTarget at h
  split at h
  · cases h
  · split at h
    · cases h
    · cases h
    · next command arguments hsplit =>
      split_ifs at h
      cases h
      exact ⟨hsplit, List.cons_ne_nil _ _⟩

theorem validateSingleRedisPhysicalCommand_ok {split : Text → Option (List Text)}
    {selection : Text} (h : validateSingleRedisPhysicalCommand split selection = .ok ()) :
    countCommandLines split (physicalLines selection) 0 = .ok () := by
  unfold validateSingleRedisPhysicalCommand at h
  split_ifs at h
  exact h

/-- An accepted Redis selection is one whose checks all passed. -/
theorem redisSelection_inversion {split : Text → Option (List Text)} {editorText selected : Text}
    {caret start stop rowLimit timeoutSeconds : Nat} {result : ValidatedExecutionTarget}
    (hselected : checkedCharacterSlice editorText start stop = .ok selected)
    (hok : extractAndValidateTarget split editorText caret (some (start, stop)) .redis rowLimit
      timeoutSeconds = some (.ok result)) :
    ∃ argv, result.target = .redisArgv argv ∧ argv ≠ [] ∧ split (trim selected) = some argv ∧
      countCommandLines split (physicalLines (trim selected)) 0 = .ok () := by
  unfold extractAndValidateTarget at hok
  by_cases hrow : 1 ≤ rowLimit ∧ rowLimit ≤ maxExecuteRowLimit
  swap
  · simp [hrow] at hok
  by_cases htime : 1 ≤ timeoutSeconds ∧ timeoutSeconds ≤ maxExecuteTimeoutSeconds
  swap
  · simp [hrow, htime] at hok
  rw [if_neg (not_not.mpr hrow), if_neg (not_not.mpr htime)] at hok
  cases hcaret : charToByte editorText caret with
  | none => simp [hcaret] at hok
  | some caretByte =>
      have hrange : (some (start, stop)).mapM (fun range : Nat × Nat =>
          checkedCharacterSlice editorText range.1 range.2) = .ok (some selected) := by
        simp [hselected]
      simp only [hcaret, hrange, extractTarget, Option.map_some, Option.some.injEq] at hok
      cases hlines : validateSingleRedisPhysicalCommand split (trim selected) with
      | error e => simp [hlines, bind, Except.bind, Except.map] at hok
      | ok u =>
          cases hargv : validateRedisTarget split (trim selected) with
          | error e => simp [hlines, hargv, bind, Except.bind, Except.map] at hok
          | ok argv =>
              simp only [hlines, hargv, bind, Except.bind, pure, Except.pure, Except.map,
                Except.ok.injEq] at hok
              obtain ⟨hsplit, hne⟩ := validateRedisTarget_ok hargv
              exact ⟨argv, by rw [← hok], hne, hsplit, validateSingleRedisPhysicalCommand_ok hlines⟩

/-- The argument list of an accepted Redis selection is that of its one command
line exactly when no line before the last ends in a carriage return outside a
comment or in a backslash. -/
theorem redisSelection_argv_iff (split : Text → Option (List Text))
    (hsplit : ∀ text, split text = ShellWords.split text) (editorText selected : Text)
    (caret start stop rowLimit timeoutSeconds : Nat) (result : ValidatedExecutionTarget)
    (hselected : checkedCharacterSlice editorText start stop = .ok selected)
    (hok : extractAndValidateTarget split editorText caret (some (start, stop)) .redis rowLimit
      timeoutSeconds = some (.ok result)) :
    (∃ line argv, commandLines split (trim selected) = [line] ∧
        split (trimEndCr line) = some argv ∧ result.target = .redisArgv argv) ↔
      linesEndCleanly (trim selected) = true := by
  obtain rfl : split = ShellWords.split := funext hsplit
  obtain ⟨argv, htarget, hne, hargv, hcount⟩ := redisSelection_inversion hselected hok
  obtain ⟨init, last, hlines⟩ : ∃ init last, physicalLines (trim selected) = init ++ [last] :=
    (List.eq_nil_or_concat' _).resolve_left (List.splitOn_ne_nil _ _)
  obtain ⟨hparse, hlength⟩ := countCommandLines_ok hcount
  have hone : (commandLines ShellWords.split (trim selected)).length ≤ 1 := by
    rcases hlength with hnil | hle
    · rw [commandLines, hnil]
      exact Nat.zero_le 1
    · rw [commandLines]
      omega
  rw [htarget, ← argv_iff_linesEndCleanly hlines (trimEndCr_last_line hlines) (hlines ▸ hparse) hone
    hargv hne]
  simp only [ExecutionTarget.redisArgv.injEq]

theorem redisSelection_argv_single_line :
    (∃ line argv, commandLines ShellWords.split (trim "# all\nGET a\n".toList) = [line] ∧
        ShellWords.split (trimEndCr line) = some argv ∧
        ExecutionTarget.redisArgv ["GET".toList, "a".toList] = .redisArgv argv) ↔
      linesEndCleanly (trim "# all\nGET a\n".toList) = true :=
  redisSelection_argv_iff ShellWords.split (fun _ => rfl) "# all\nGET a\n".toList
    "# all\nGET a\n".toList 0 0 12 100 30
    ⟨.redisArgv ["GET".toList, "a".toList], "# all\nGET a".toList, 100, 30⟩
    (by decide +kernel) (by decide +kernel)

/-- With a line break of two characters the carriage return stays in the key. -/
theorem redisSelection_argv_crlf :
    extractAndValidateTarget ShellWords.split "GET a\r\n# comment".toList 0 (some (0, 16)) .redis 100 30 =
        some (.ok ⟨.redisArgv ["GET".toList, "a\r".toList], "GET a\r\n# comment".toList, 100, 30⟩) ∧
      commandLines ShellWords.split "GET a\r\n# comment".toList = ["GET a\r".toList] ∧
      ShellWords.split (trimEndCr "GET a\r".toList) = some ["GET".toList, "a".toList] := by
  decide +kernel

end Dbotter.Execution
