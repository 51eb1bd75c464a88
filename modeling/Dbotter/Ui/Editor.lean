import Dbotter.Execution.WholeSelection
import Dbotter.Service.Sessions
import Dbotter.Text.Numerals
import Dbotter.Ui.Desktop

/-!
What the query editor shows and what the service runs.

The editor validates a target at its caret or in its selection, and submits the text of that
target. The service validates this text once more, as the selection of all of it.
-/

namespace Dbotter.Ui
open Dbotter.Utf8 Dbotter.Execution Dbotter.Configuration Dbotter.Service Dbotter.Numerals

/-! ## Classification, from `src/execution.rs` -/

/-- `to_ascii_uppercase`. -/
def toAsciiUppercase (text : Text) : Text := text.map Char.toUpper

def readKeywords : List Text :=
  ["SELECT".toList, "SHOW".toList, "DESCRIBE".toList, "DESC".toList, "EXPLAIN".toList]

def sideEffects : List Text :=
  [" INTO OUTFILE".toList, " INTO DUMPFILE".toList, " FOR UPDATE".toList,
    " LOCK IN SHARE MODE".toList, "GET_LOCK(".toList, "RELEASE_LOCK(".toList, "SLEEP(".toList]

def mysqlIsClearlyReadOnly (text : Text) : Bool :=
  let uppercase := toAsciiUppercase text
  let keyword := (uppercase.dropWhile isWhitespace).takeWhile Char.isAlpha
  if keyword ∉ readKeywords then false
  else !sideEffects.any fun sideEffect => decide (sideEffect <:+: uppercase)

def redisReadCommands : List Text :=
  ["PING".toList, "ECHO".toList, "GET".toList, "MGET".toList, "EXISTS".toList, "TYPE".toList,
    "TTL".toList, "PTTL".toList, "STRLEN".toList, "GETRANGE".toList, "BITCOUNT".toList,
    "HGET".toList, "HMGET".toList, "HGETALL".toList, "HEXISTS".toList, "HLEN".toList,
    "HKEYS".toList, "HVALS".toList, "LLEN".toList, "LINDEX".toList, "LRANGE".toList,
    "SCARD".toList, "SISMEMBER".toList, "SMISMEMBER".toList, "SMEMBERS".toList, "ZCARD".toList,
    "ZCOUNT".toList, "ZSCORE".toList, "ZMSCORE".toList, "ZRANGE".toList, "ZRANGEBYSCORE".toList,
    "ZREVRANGE".toList, "ZRANK".toList, "ZREVRANK".toList, "XLEN".toList, "XRANGE".toList,
    "XREVRANGE".toList, "SCAN".toList, "SSCAN".toList, "HSCAN".toList, "ZSCAN".toList,
    "DBSIZE".toList, "INFO".toList, "TIME".toList]

def redisIsClearlyReadOnly : List Text → Bool
  | [] => false
  | command :: _ => decide (toAsciiUppercase command ∈ redisReadCommands)

def classifyExecutionKind (language : ExecutionLanguage) (target : ExecutionTarget) :
    OperationKind :=
  let isRead := match language, target with
    | .mySql, .mySqlText text => mysqlIsClearlyReadOnly text
    | .redis, .redisArgv arguments => redisIsClearlyReadOnly arguments
    | _, _ => false
  if isRead then .executeRead else .executeMutation

theorem classifyExecutionKind_execute (language : ExecutionLanguage) (target : ExecutionTarget) :
    classifyExecutionKind language target = .executeRead ∨
      classifyExecutionKind language target = .executeMutation := ite_eq_or_eq ..

/-! ## The editor -/

structure EditorCursor where
  caretCharacterIndex : Nat
  selectionCharacterRange : Option (Nat × Nat)
  deriving DecidableEq, Repr

inductive EditorValidationError
  | rowLimit
  | timeout
  | target (error : ExecutionTargetError)
  | unsupportedDriver
  deriving DecidableEq, Repr

/-- The fields of a workspace that the editor reads. -/
structure EditorTexts where
  editorText : Text
  rowLimit : Text
  timeoutSeconds : Text
  deriving DecidableEq, Repr

def parseRowLimit (value : Text) : Except EditorValidationError Nat :=
  match (parseU32 (trim value)).filter fun value => 1 ≤ value ∧ value ≤ maxExecuteRowLimit with
  | some rowLimit => .ok rowLimit
  | none => .error .rowLimit

def parseTimeout (value : Text) : Except EditorValidationError Nat :=
  match (parseU32 (trim value)).filter fun value =>
      1 ≤ value ∧ value ≤ maxExecuteTimeoutSeconds with
  | some timeoutSeconds => .ok timeoutSeconds
  | none => .error .timeout

/-- The languages of a driver, for the validation and for the request. -/
def executionLanguages : DriverKind → Option (ExecutionLanguage × QueryLanguage)
  | .mySql => some (.mySql, .sql)
  | .redis => some (.redis, .redisCommand)
  | .mongoDb => none

section
variable (split : Text → Option (List Text))

/-- The outer `none` is a panic of a slice. -/
def buildExecuteIntent (profile : ProfileSnapshot) (workspace : EditorTexts)
    (cursor : EditorCursor) :
    Option (Except EditorValidationError DbotterApp.ExecuteIntent) :=
  match parseRowLimit workspace.rowLimit with
  | .error e => some (.error e)
  | .ok rowLimit =>
    match parseTimeout workspace.timeoutSeconds with
    | .error e => some (.error e)
    | .ok timeoutSeconds =>
      match executionLanguages profile.driver with
      | none => some (.error .unsupportedDriver)
      | some (executionLanguage, queryLanguage) =>
        (extractAndValidateTarget split workspace.editorText cursor.caretCharacterIndex
            cursor.selectionCharacterRange executionLanguage rowLimit timeoutSeconds).map fun
          | .error e => .error (.target e)
          | .ok validated =>
            .ok {
              key := ⟨profile.id, profile.generation⟩
              language := queryLanguage
              text := validated.intoSourceText
              rowLimit
              timeoutMs := timeoutSeconds * 1000
              operationKind := classifyExecutionKind executionLanguage validated.target
              operationKind_execute := classifyExecutionKind_execute _ _ }

def classifyExecuteOperation (language : QueryLanguage) (text : Text) : OperationKind :=
  match language with
  | .sql => classifyExecutionKind .mySql (.mySqlText text)
  | .redisCommand =>
    match split text with
    | none => .executeMutation
    | some arguments => classifyExecutionKind .redis (.redisArgv arguments)
  | .mongoDocument => .executeMutation

end

def durationFromMillis (timeoutMs : Nat) : Duration := max timeoutMs 1 * 10 ^ 6

/-- `into_ui_command`, and the request that the runtime makes of the command. -/
def DbotterApp.ExecuteIntent.request (intent : DbotterApp.ExecuteIntent)
    (operationId : OperationId) : ExecuteRequest where
  operationId
  profileId := intent.key.profileId
  profileGeneration := intent.key.profileGeneration
  language := intent.language
  text := intent.text
  rowLimit := intent.rowLimit
  timeout := durationFromMillis intent.timeoutMs

/-! ## The second validation -/

theorem asSecs_durationFromMillis (n : Nat) : asSecs (durationFromMillis (n * 1000)) = n := by
  simp only [asSecs, durationFromMillis]
  omega

theorem validateExecuteLimits_ok {rowLimit n : Nat}
    (hrow : 1 ≤ rowLimit ∧ rowLimit ≤ maxExecuteRowLimit)
    (htime : 1 ≤ n ∧ n ≤ maxExecuteTimeoutSeconds) :
    validateExecuteLimits rowLimit (durationFromMillis (n * 1000)) = .ok () := by
  have hlimit : (rowLimit == 0 || decide (rowLimit > maxExecuteRowLimit)) = false := by
    simp only [Bool.or_eq_false_iff, beq_eq_false_iff_ne, decide_eq_false_iff_not]
    omega
  have hnanos : max (n * 1000) 1 * 10 ^ 6 = n * 10 ^ 9 := by omega
  have hexact : durationFromMillis (n * 1000) = seconds n := hnanos
  have htimeout : ¬(seconds n < seconds 1 ∨ seconds n > seconds maxExecuteTimeoutSeconds) :=
    not_or.mpr ⟨Nat.not_lt.mpr (Nat.mul_le_mul_right _ htime.1),
      Nat.not_lt.mpr (Nat.mul_le_mul_right _ htime.2)⟩
  rw [hexact]
  simp only [validateExecuteLimits, hlimit, Bool.or_eq_true, decide_eq_true_eq, if_neg htimeout,
    Bool.false_eq_true, if_false]

theorem commandBytes_map_bytes (argv : List Text) :
    commandBytes (argv.map bytes) = (argv.map byteLen).sum + argv.length - 1 := by
  have hfold : ∀ total, (argv.map bytes).foldl (fun total argument => total + argument.length + 1)
      total = total + ((argv.map byteLen).sum + argv.length) := by
    induction argv with
    | nil => exact fun _ => rfl
    | cons word words ih =>
        intro total
        simp only [List.map_cons, List.foldl_cons, List.sum_cons, List.length_cons, ih,
          bytes_length]
        omega
  rw [commandBytes, hfold, Nat.zero_add]

section
variable {split : Text → Option (List Text)} {text : Text}

/-- The constructor of the typed Redis request checks nothing that the target has not passed. -/
theorem redisExecuteRequest_validate {request : RedisExecuteRequest} {argv : List Text}
    (hfit : WordsFit split) (hargv : validateRedisTarget split text = .ok argv)
    (hrequest : request.argv = argv.map bytes)
    (hlimits : validateExecuteLimits request.rowLimit request.timeout = .ok ()) :
    request.validate = .ok () := by
  obtain ⟨hsize, hsplit, haccepted⟩ := validateRedisTarget_spec hargv
  have hbytes : commandBytes (argv.map bytes) ≤ maxRedisTargetBytes := by
    rw [commandBytes_map_bytes]
    exact Nat.le_trans (hfit text argv hsplit) hsize
  have hcommand : ¬(argv.map bytes).head?.all List.isEmpty = true := by
    obtain ⟨command, arguments, rfl, hne⟩ := haccepted.command
    have hpos := byteLen_pos.mpr hne
    rw [← bytes_length, List.length_pos_iff] at hpos
    rwa [List.map_cons, List.head?_cons, Option.all_some, List.isEmpty_iff]
  have hcount : ¬(argv.map bytes).length > maxRedisTokens := by
    rw [List.length_map]
    exact Nat.not_lt.mpr haccepted.count
  have htokens : ¬(argv.map bytes).any (·.length > maxRedisTokenBytes) = true := by
    rw [List.any_eq_true]
    rintro ⟨argument, hmem, hlarge⟩
    obtain ⟨token, htoken, rfl⟩ := List.mem_map.mp hmem
    have hsmall := haccepted.sizes token htoken
    rw [decide_eq_true_eq, bytes_length] at hlarge
    omega
  have hdenied : ¬redisBytesAreDenied (argv.map bytes) = true :=
    Bool.not_eq_true _ ▸ haccepted.allowed
  rw [RedisExecuteRequest.validate, hlimits, hrequest]
  show (if _ then _ else _) = _
  rw [if_neg hcommand, if_neg hcount, if_neg htokens, if_neg (Nat.not_lt.mpr hbytes),
    if_neg hdenied]

/-- An intent and the target that the editor has validated for it. -/
structure Shown (split : Text → Option (List Text)) (driver : DriverKind)
    (intent : DbotterApp.ExecuteIntent) (executionLanguage : ExecutionLanguage)
    (timeoutSeconds : Nat) (validated : ValidatedExecutionTarget) : Prop where
  languages : executionLanguages driver = some (executionLanguage, intent.language)
  timeout : intent.timeoutMs = timeoutSeconds * 1000
  kind : intent.operationKind = classifyExecutionKind executionLanguage validated.target
  row : 1 ≤ intent.rowLimit ∧ intent.rowLimit ≤ maxExecuteRowLimit
  time : 1 ≤ timeoutSeconds ∧ timeoutSeconds ≤ maxExecuteTimeoutSeconds
  trimmed : trim intent.text = intent.text
  again : extractTarget split intent.text (byteLen intent.text) executionLanguage
    (some intent.text) = some (.ok (validated.target, validated.sourceText))

theorem buildExecuteIntent_shown (hfit : WordsFit split) {profile : ProfileSnapshot}
    {workspace : EditorTexts} {cursor : EditorCursor} {intent : DbotterApp.ExecuteIntent}
    (h : buildExecuteIntent split profile workspace cursor = some (.ok intent)) :
    ∃ executionLanguage timeoutSeconds validated,
      extractAndValidateTarget split workspace.editorText cursor.caretCharacterIndex
          cursor.selectionCharacterRange executionLanguage intent.rowLimit timeoutSeconds =
        some (.ok validated) ∧
      Shown split profile.driver intent executionLanguage timeoutSeconds validated := by
  unfold buildExecuteIntent at h
  split at h
  · cases h
  split at h
  · cases h
  next timeoutSeconds _ =>
  split at h
  · cases h
  next executionLanguage queryLanguage hlanguages =>
  obtain ⟨result, hresult, hmap⟩ := Option.map_eq_some_iff.mp h
  cases result with
  | error e => cases hmap
  | ok validated =>
    cases hmap
    obtain ⟨hrow, htime, caretByte, selected, hextracted⟩ :=
      extractAndValidateTarget_ok hresult
    obtain ⟨htrim, hagain⟩ := extractTarget_again hfit hextracted
    exact ⟨executionLanguage, timeoutSeconds, validated, hresult, hlanguages, rfl, rfl, hrow, htime,
      htrim, hagain⟩

namespace Shown
variable {driver : DriverKind} {intent : DbotterApp.ExecuteIntent}
  {executionLanguage : ExecutionLanguage} {timeoutSeconds : Nat}
  {validated : ValidatedExecutionTarget}

/-- The service finds the target of the editor again. -/
theorem validateExecuteTarget
    (h : Shown split driver intent executionLanguage timeoutSeconds validated)
    (operationId : OperationId) :
    validateExecuteTarget split (intent.request operationId) = .ok validated.target := by
  have hseconds : asSecs (intent.request operationId).timeout = timeoutSeconds := by
    rw [DbotterApp.ExecuteIntent.request, h.timeout, asSecs_durationFromMillis]
  have hsmall : ¬asSecs (intent.request operationId).timeout ≥ 2 ^ 32 := by
    rw [hseconds]
    have := h.time.2
    simp only [maxExecuteTimeoutSeconds] at this
    omega
  have hwhole : extractAndValidateTarget split (intent.request operationId).text
      (intent.request operationId).text.length
      (some (0, (intent.request operationId).text.length)) executionLanguage
      (intent.request operationId).rowLimit (asSecs (intent.request operationId).timeout) =
        some (.ok ⟨validated.target, validated.sourceText, intent.rowLimit, timeoutSeconds⟩) := by
    have htext : (intent.request operationId).text = intent.text := rfl
    have hlimit : (intent.request operationId).rowLimit = intent.rowLimit := rfl
    rw [hseconds, htext, hlimit, extractAndValidateTarget_whole _ _ h.row h.time, h.trimmed,
      h.again]
    rfl
  have hlanguage : (intent.request operationId).language = intent.language := rfl
  have hlanguages := h.languages
  cases driver with
  | mySql | redis =>
    obtain ⟨rfl, hquery⟩ := Prod.mk.inj (Option.some.inj hlanguages)
    rw [Service.validateExecuteTarget, hlanguage, ← hquery]
    simp only [if_neg hsmall, hwhole]
    rfl
  | mongoDb => cases hlanguages

/-- The constructor of the typed request accepts this target. -/
theorem typedExecuteRequest (hfit : WordsFit split)
    (h : Shown split driver intent executionLanguage timeoutSeconds validated)
    (operationId : OperationId) :
    ∃ typed, typedExecuteRequest (intent.request operationId) driver validated.target =
      .ok typed := by
  have hlimits : validateExecuteLimits (intent.request operationId).rowLimit
      (intent.request operationId).timeout = .ok () := by
    have htimeout : (intent.request operationId).timeout =
        durationFromMillis (timeoutSeconds * 1000) := by rw [← h.timeout]; rfl
    rw [htimeout]
    exact validateExecuteLimits_ok h.row h.time
  have hlanguages := h.languages
  have hagain := h.again
  cases driver with
  | mySql =>
    obtain ⟨rfl, -⟩ := Prod.mk.inj (Option.some.inj hlanguages)
    obtain ⟨htarget, hne⟩ := extractTarget_selection.1 hagain
    have hstatement : ¬(trim intent.text).isEmpty = true := by
      rwa [h.trimmed, List.isEmpty_iff]
    have hvalid : PreparedMySqlRequest.validate ⟨(intent.request operationId).identity,
        intent.text, (intent.request operationId).rowLimit,
        (intent.request operationId).timeout⟩ = .ok () := by
      rw [PreparedMySqlRequest.validate, if_neg hstatement]
      exact hlimits
    rw [htarget, Service.typedExecuteRequest]
    simp only [hvalid]
    exact ⟨_, rfl⟩
  | redis =>
    obtain ⟨rfl, -⟩ := Prod.mk.inj (Option.some.inj hlanguages)
    obtain ⟨argv, htarget, -, hargv⟩ := extractTarget_selection.2 hagain
    have hvalid : RedisExecuteRequest.validate ⟨(intent.request operationId).identity,
        argv.map bytes, (intent.request operationId).rowLimit,
        (intent.request operationId).timeout⟩ = .ok () :=
      redisExecuteRequest_validate hfit hargv rfl hlimits
    rw [htarget, Service.typedExecuteRequest]
    simp only [hvalid]
    exact ⟨_, rfl⟩
  | mongoDb => cases hlanguages

/-- The text alone is classified as its target was. -/
theorem classifyExecuteOperation
    (h : Shown split driver intent executionLanguage timeoutSeconds validated) :
    classifyExecuteOperation split intent.language intent.text = intent.operationKind := by
  rw [h.kind]
  have hlanguages := h.languages
  have hagain := h.again
  cases driver with
  | mySql =>
    obtain ⟨rfl, hquery⟩ := Prod.mk.inj (Option.some.inj hlanguages)
    obtain ⟨htarget, -⟩ := extractTarget_selection.1 hagain
    rw [← hquery, htarget]
    rfl
  | redis =>
    obtain ⟨rfl, hquery⟩ := Prod.mk.inj (Option.some.inj hlanguages)
    obtain ⟨argv, htarget, -, hargv⟩ := extractTarget_selection.2 hagain
    obtain ⟨-, hsplit, -⟩ := validateRedisTarget_spec hargv
    rw [← hquery, htarget, Ui.classifyExecuteOperation]
    simp only [hsplit]
  | mongoDb => cases hlanguages

end Shown

end

/-- **What the editor shows is what the service runs.** The service finds the target that the
editor has validated in the submitted text, the typed request accepts it, and the text is
classified as the target was. A statement that is inferred at a caret is scanned, on its own, as
one statement from end to end. -/
theorem executed_as_shown (split : Text → Option (List Text)) (hfit : WordsFit split)
    (profile : ProfileSnapshot) (workspace : EditorTexts) (cursor : EditorCursor)
    (intent : DbotterApp.ExecuteIntent)
    (h : buildExecuteIntent split profile workspace cursor = some (.ok intent))
    (operationId : OperationId) :
    (∃ executionLanguage timeoutSeconds validated,
      executionLanguages profile.driver = some (executionLanguage, intent.language) ∧
        intent.timeoutMs = timeoutSeconds * 1000 ∧
        extractAndValidateTarget split workspace.editorText cursor.caretCharacterIndex
            cursor.selectionCharacterRange executionLanguage intent.rowLimit timeoutSeconds =
          some (.ok validated) ∧
        validateExecuteTarget split (intent.request operationId) = .ok validated.target ∧
        (∃ typed, typedExecuteRequest (intent.request operationId) profile.driver
          validated.target = .ok typed) ∧
        classifyExecuteOperation split intent.language intent.text = intent.operationKind) ∧
      ∀ text caret start stop statement,
        inferMysqlTarget text caret = some (.ok (start, stop, statement)) →
          ∃ ambiguous, scanMysql statement =
            some ⟨[⟨0, byteLen statement, ambiguous⟩], none, false⟩ := by
  constructor
  · obtain ⟨executionLanguage, timeoutSeconds, validated, hvalidated, hshown⟩ :=
      buildExecuteIntent_shown hfit h
    exact ⟨executionLanguage, timeoutSeconds, validated, hshown.languages, hshown.timeout,
      hvalidated, hshown.validateExecuteTarget operationId,
      hshown.typedExecuteRequest hfit operationId, hshown.classifyExecuteOperation⟩
  · intro text caret start stop statement hstatement
    obtain ⟨body, hlex, hwhole⟩ := inferMysqlTarget_cut hstatement
    exact hwhole.scanMysql hlex

/-- Two statements with a comment behind them. -/
def twoStatements : EditorTexts where
  editorText := "SELECT ';'; DELETE FROM t -- all".toList
  rowLimit := " +100".toList
  timeoutSeconds := "30".toList

/-- The intent for the second statement. -/
def deleteIntent : DbotterApp.ExecuteIntent where
  key := ⟨"p".toList, 1⟩
  language := .sql
  text := "DELETE FROM t".toList
  rowLimit := 100
  timeoutMs := 30000
  operationKind := .executeMutation
  operationKind_execute := .inr rfl

theorem buildExecuteIntent_twoStatements :
    buildExecuteIntent ShellWords.split (Desktop.firstProfile .mySql) twoStatements ⟨20, none⟩ =
      some (.ok deleteIntent) := by
  have hrow : parseRowLimit twoStatements.rowLimit = .ok 100 := by decide +kernel
  have htime : parseTimeout twoStatements.timeoutSeconds = .ok 30 := by decide +kernel
  have hvalidated : extractAndValidateTarget ShellWords.split twoStatements.editorText 20 none
      .mySql 100 30 = some (.ok ⟨.mySqlText "DELETE FROM t".toList, [], 100, 30⟩) := by
    decide +kernel
  have hkind : classifyExecutionKind .mySql (.mySqlText "DELETE FROM t".toList) =
      .executeMutation := by decide +kernel
  have hlanguages : executionLanguages (Desktop.firstProfile .mySql).driver =
      some (.mySql, .sql) := rfl
  simp only [buildExecuteIntent, hrow, htime, hlanguages, hvalidated, Option.map_some, hkind]
  rfl

theorem executed_as_shown_delete :
    (∃ executionLanguage timeoutSeconds validated,
      executionLanguages (Desktop.firstProfile .mySql).driver = some (executionLanguage, .sql) ∧
        30000 = timeoutSeconds * 1000 ∧
        extractAndValidateTarget ShellWords.split twoStatements.editorText 20 none
          executionLanguage 100 timeoutSeconds = some (.ok validated) ∧
        validateExecuteTarget ShellWords.split (deleteIntent.request 7) = .ok validated.target ∧
        (∃ typed, typedExecuteRequest (deleteIntent.request 7)
          (Desktop.firstProfile .mySql).driver validated.target = .ok typed) ∧
        classifyExecuteOperation ShellWords.split .sql "DELETE FROM t".toList =
          .executeMutation) ∧
      ∀ text caret start stop statement,
        inferMysqlTarget text caret = some (.ok (start, stop, statement)) →
          ∃ ambiguous, scanMysql statement =
            some ⟨[⟨0, byteLen statement, ambiguous⟩], none, false⟩ :=
  executed_as_shown ShellWords.split wordsFit_shellWords (Desktop.firstProfile .mySql)
    twoStatements ⟨20, none⟩ deleteIntent buildExecuteIntent_twoStatements 7

end Dbotter.Ui
