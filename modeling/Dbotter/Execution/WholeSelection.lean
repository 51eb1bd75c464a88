import Dbotter.Execution.RedisSelection
import Dbotter.Execution.StatementCut

/-!
A validated target passes again as the selection of all of its own text.

The caret of an editor reaches a target by another way than a selection: through the statements of
a scan, or through one physical line that is not counted against other lines.
-/

namespace Dbotter.Execution
open Dbotter.Utf8

/-! ## Trimming -/

theorem trim_eq_self {text : Text} (hhead : ∀ c ∈ text.head?, isWhitespace c = false)
    (hlast : ∀ c ∈ text.getLast?, isWhitespace c = false) : trim text = text := by
  have hdrop : ∀ {s : Text}, (∀ c ∈ s.head?, isWhitespace c = false) →
      s.dropWhile isWhitespace = s := by
    intro s hs
    cases s with
    | nil => rfl
    | cons c s =>
        rw [List.dropWhile_cons_of_neg]
        simpa using hs c rfl
  rw [trim, hdrop hhead, hdrop, List.reverse_reverse]
  rwa [List.head?_reverse]

theorem trim_append (text : Text) : ∃ tail, text.dropWhile isWhitespace = trim text ++ tail := by
  obtain ⟨tail, htail⟩ := List.dropWhile_suffix (l := (text.dropWhile isWhitespace).reverse)
    isWhitespace
  refine ⟨tail.reverse, ?_⟩
  rw [trim, ← List.reverse_append, htail, List.reverse_reverse]

theorem trim_head_not_whitespace {text : Text} {c : Char} (h : (trim text).head? = some c) :
    isWhitespace c = false := by
  obtain ⟨tail, htail⟩ := trim_append text
  refine head_dropWhile_not (s := text) ?_
  rw [htail, List.head?_append, h]
  rfl

@[simp] theorem trim_trim (text : Text) : trim (trim text) = trim text :=
  trim_eq_self (fun _ hc => trim_head_not_whitespace hc) fun _ hc => trim_last_not_whitespace hc

theorem mem_of_mem_trim {text : Text} {c : Char} (h : c ∈ trim text) : c ∈ text := by
  obtain ⟨tail, htail⟩ := trim_append text
  have hmem : c ∈ text.dropWhile isWhitespace := htail ▸ List.mem_append_left tail h
  exact (List.dropWhile_suffix _).subset hmem

/-! ## The selection of a whole text -/

theorem charToByte_length (text : Text) : charToByte text text.length = some (byteLen text) := by
  rw [charToByte, if_pos (beq_self_eq_true _)]

theorem checkedCharacterSlice_whole (text : Text) :
    checkedCharacterSlice text 0 text.length = .ok text := by
  have hstart : charToByte text 0 = some 0 := by
    cases text with
    | nil => rfl
    | cons c s => rfl
  have hslice : slice text 0 (byteLen text) = some text := by
    have h := slice_append [] text []
    simpa using h
  rw [checkedCharacterSlice, if_neg (Nat.not_lt_zero _), hstart, charToByte_length]
  simp only [hslice]

variable {split : Text → Option (List Text)}

/-- A selection of everything is the trimmed text. -/
theorem extractAndValidateTarget_whole (text : Text) (language : ExecutionLanguage)
    {rowLimit timeoutSeconds : Nat} (hrow : 1 ≤ rowLimit ∧ rowLimit ≤ maxExecuteRowLimit)
    (htime : 1 ≤ timeoutSeconds ∧ timeoutSeconds ≤ maxExecuteTimeoutSeconds) :
    extractAndValidateTarget split text text.length (some (0, text.length)) language rowLimit
        timeoutSeconds =
      (extractTarget split text (byteLen text) language (some (trim text))).map
        fun extracted => extracted.map fun p => ⟨p.1, p.2, rowLimit, timeoutSeconds⟩ := by
  have hrange : (some (0, text.length)).mapM (fun range : Nat × Nat =>
      checkedCharacterSlice text range.1 range.2) = .ok (some text) := by
    simp [checkedCharacterSlice_whole]
  rw [extractAndValidateTarget, if_neg (not_not.mpr hrow), if_neg (not_not.mpr htime),
    charToByte_length]
  simp only [hrange, Option.map_some]

/-- What an accepted extraction has checked. -/
theorem extractAndValidateTarget_ok {editorText : Text} {caret rowLimit timeoutSeconds : Nat}
    {selection : Option (Nat × Nat)} {language : ExecutionLanguage}
    {validated : ValidatedExecutionTarget}
    (h : extractAndValidateTarget split editorText caret selection language rowLimit
      timeoutSeconds = some (.ok validated)) :
    (1 ≤ rowLimit ∧ rowLimit ≤ maxExecuteRowLimit) ∧
      (1 ≤ timeoutSeconds ∧ timeoutSeconds ≤ maxExecuteTimeoutSeconds) ∧
      ∃ caretByte, ∃ selected : Option Text,
        extractTarget split editorText caretByte language (selected.map trim) =
          some (.ok (validated.target, validated.sourceText)) := by
  unfold extractAndValidateTarget at h
  split at h
  · cases h
  next hrow =>
  split at h
  · cases h
  next htime =>
  refine ⟨not_not.mp hrow, not_not.mp htime, ?_⟩
  split at h
  · cases h
  next caretByte _ =>
  split at h
  · cases h
  next selected _ =>
  obtain ⟨extracted, hextracted, hmap⟩ := Option.map_eq_some_iff.mp h
  cases extracted with
  | error e => cases hmap
  | ok p =>
      cases hmap
      exact ⟨caretByte, selected, hextracted⟩

/-! ## Redis -/

/-- The command that `validate_redis_target` lets pass. -/
structure AcceptedArgv (argv : List Text) : Prop where
  command : ∃ command arguments, argv = command :: arguments ∧ command ≠ []
  count : argv.length ≤ maxRedisTokens
  sizes : ∀ token ∈ argv, byteLen token ≤ maxRedisTokenBytes
  allowed : redisCommandIsDenied argv = false

theorem validateRedisTarget_spec {target : Text} {argv : List Text}
    (h : validateRedisTarget split target = .ok argv) :
    byteLen target ≤ maxRedisTargetBytes ∧ split target = some argv ∧ AcceptedArgv argv := by
  unfold validateRedisTarget at h
  split at h
  · cases h
  next hsize =>
  split at h
  · cases h
  · cases h
  next command arguments hsplit =>
  split_ifs at h with hcommand hcount htokens hdenied
  cases h
  refine ⟨Nat.le_of_not_lt hsize, hsplit, ⟨command, arguments, rfl, ?_⟩, Nat.le_of_not_lt hcount,
    ?_, Bool.not_eq_true _ ▸ hdenied⟩
  · simpa using hcommand
  · intro token htoken
    by_contra hlarge
    exact htokens (List.any_eq_true.mpr ⟨token, htoken, by simpa using hlarge⟩)

/-- The assumption on the splitter: no more bytes than the text, counted with separators. -/
def WordsFit (split : Text → Option (List Text)) : Prop :=
  ∀ text words, split text = some words →
    (words.map byteLen).sum + words.length - 1 ≤ byteLen text

theorem wordsFit_shellWords : WordsFit ShellWords.split := by
  intro text words h
  have hle := ShellWords.wordBytes_split_le h
  have hsum : ShellWords.wordBytes words = (words.map byteLen).sum + words.length := by
    simp [ShellWords.wordBytes, List.sum_map_add]
  omega

/-- A single line without trailing carriage return is the one command line of itself. -/
theorem validateSingleRedisPhysicalCommand_line (hfit : WordsFit split) {line : Text}
    {argv : List Text} (hbreak : '\n' ∉ line) (hcr : line.getLast? ≠ some '\r')
    (h : validateRedisTarget split line = .ok argv) :
    validateSingleRedisPhysicalCommand split line = .ok () := by
  obtain ⟨hsize, hsplit, haccepted⟩ := validateRedisTarget_spec h
  obtain ⟨command, arguments, rfl, hcommand⟩ := haccepted.command
  have hne : line ≠ [] := by
    rintro rfl
    have hwords := hfit [] _ hsplit
    have hpos := byteLen_pos.mpr hcommand
    simp only [List.map_cons, List.sum_cons, List.length_cons, byteLen_nil] at hwords
    omega
  have hlines : physicalLines line = [line] := by
    refine List.splitOn_eq_singleton_of_beq_eq_false fun c hc => ?_
    rw [beq_eq_false_iff_ne]
    rintro rfl
    exact hbreak hc
  rw [validateSingleRedisPhysicalCommand, if_neg (by simpa using hne),
    if_neg (Nat.not_lt.mpr hsize), hlines, countCommandLines, trimEndCr_eq_self hcr, hsplit]
  rfl

theorem not_mem_physicalLineAt {text line : Text} {caretByte : Nat}
    (h : physicalLineAt text caretByte = some line) : '\n' ∉ line := by
  obtain ⟨before, -, h⟩ := Option.bind_eq_some_iff.mp h
  obtain ⟨after, -, rfl⟩ := Option.map_eq_some_iff.mp h
  have hside : ∀ s : Text, '\n' ∉ s.takeWhile (· != '\n') := fun s hmem => by
    have := List.mem_takeWhile_imp (p := (· != '\n')) hmem
    simp at this
  intro hmem
  rcases List.mem_append.mp hmem with hmem | hmem
  · exact hside _ (List.mem_reverse.mp hmem)
  · exact hside _ hmem

theorem extractTarget_redis (editorText : Text) (caretByte : Nat) {selection : Text}
    {argv : List Text} (hlines : validateSingleRedisPhysicalCommand split selection = .ok ())
    (hargv : validateRedisTarget split selection = .ok argv) :
    extractTarget split editorText caretByte .redis (some selection) =
      some (.ok (.redisArgv argv, selection)) := by
  rw [extractTarget, hlines, hargv]
  rfl

/-- What an extracted selection is. -/
theorem extractTarget_selection {editorText : Text} {caretByte : Nat} {selection : Text}
    {target : ExecutionTarget} {source : Text} :
    (extractTarget split editorText caretByte .mySql (some selection) =
        some (.ok (target, source)) → target = .mySqlText selection ∧ selection ≠ []) ∧
      (extractTarget split editorText caretByte .redis (some selection) =
        some (.ok (target, source)) →
          ∃ argv, target = .redisArgv argv ∧ source = selection ∧
            validateRedisTarget split selection = .ok argv) := by
  constructor
  · intro h
    obtain ⟨result, hresult, hmap⟩ := Option.map_eq_some_iff.mp h
    cases result with
    | error e => cases hmap
    | ok u =>
      cases hmap
      refine ⟨rfl, ?_⟩
      rintro rfl
      cases hresult
  · intro h
    have hsome := Option.some.inj h
    cases hlines : validateSingleRedisPhysicalCommand split selection with
    | error e => simp [hlines, bind, Except.bind] at hsome
    | ok u =>
      cases hargv : validateRedisTarget split selection with
      | error e => simp [hlines, hargv, bind, Except.bind] at hsome
      | ok argv =>
        simp only [hlines, hargv, bind, Except.bind, pure, Except.pure, Except.ok.injEq,
          Prod.mk.injEq] at hsome
        exact ⟨argv, hsome.1.symm, hsome.2.symm, rfl⟩

/-! ## The second validation -/

namespace ValidatedExecutionTarget

/-- `into_source_text`. -/
def intoSourceText (validated : ValidatedExecutionTarget) : Text :=
  match validated.target with
  | .mySqlText text => text
  | .redisArgv _ => validated.sourceText

end ValidatedExecutionTarget

/-- The text of an extracted target is trimmed, and as a selection it gives the same target. -/
theorem extractTarget_again (hfit : WordsFit split) {editorText : Text} {caretByte : Nat}
    {language : ExecutionLanguage} {selected : Option Text} {validated : ValidatedExecutionTarget}
    (h : extractTarget split editorText caretByte language (selected.map trim) =
      some (.ok (validated.target, validated.sourceText))) :
    let text := validated.intoSourceText
    trim text = text ∧ extractTarget split text (byteLen text) language (some text) =
      some (.ok (validated.target, validated.sourceText)) := by
  obtain ⟨target, source, rowLimit, timeoutSeconds⟩ := validated
  intro text
  cases selected with
  | some selection =>
    -- A selection is read without the text that it is taken from.
    cases language with
    | mySql =>
      obtain ⟨htarget, -⟩ := extractTarget_selection.1 h
      obtain rfl : target = .mySqlText (trim selection) := htarget
      exact ⟨trim_trim selection, h⟩
    | redis =>
      obtain ⟨argv, htarget, hsource, -⟩ := extractTarget_selection.2 h
      obtain rfl : target = .redisArgv argv := htarget
      obtain rfl : source = trim selection := hsource
      exact ⟨trim_trim selection, h⟩
  | none =>
    cases language with
    | mySql =>
      obtain ⟨result, hresult, hmap⟩ := Option.map_eq_some_iff.mp h
      cases result with
      | error e => cases hmap
      | ok range =>
        obtain ⟨start, stop, statement⟩ := range
        cases hmap
        obtain ⟨body, hlex, hwhole⟩ := inferMysqlTarget_cut hresult
        obtain ⟨hhead, hlast⟩ := hwhole.ends hlex
        have hok : validateMysqlSelection statement = some (.ok ()) := by
          rw [validateMysqlSelection_ok_iff, hlex]
          exact hwhole.oneStatement
        refine ⟨trim_eq_self hhead hlast, ?_⟩
        show (validateMysqlSelection statement).map _ = _
        rw [hok]
        rfl
    | redis =>
      obtain ⟨line, hline, hmap⟩ := Option.map_eq_some_iff.mp h
      cases hargv : validateRedisTarget split (trim line) with
      | error e => simp [hargv, bind, Except.bind] at hmap
      | ok argv =>
        simp only [hargv, bind, Except.bind, pure, Except.pure, Except.ok.injEq,
          Prod.mk.injEq] at hmap
        obtain ⟨rfl, rfl⟩ := hmap
        have hbreak : '\n' ∉ trim line := fun hmem =>
          not_mem_physicalLineAt hline (mem_of_mem_trim hmem)
        have hcr : (trim line).getLast? ≠ some '\r' := fun hcr =>
          absurd (trim_last_not_whitespace hcr) (by decide)
        have hlines := validateSingleRedisPhysicalCommand_line hfit hbreak hcr hargv
        exact ⟨trim_trim line, extractTarget_redis _ _ hlines hargv⟩

end Dbotter.Execution
