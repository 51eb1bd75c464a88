import Dbotter.Service.State

/-!
The public parts of an error of the service, and the operations that the recovery table has a
row for.
-/

namespace Dbotter.Service
open Dbotter.Utf8 Dbotter.Configuration

/-! ## Parts of an error -/

/-- The code of a field, among all public codes. -/
def publicFieldCode : FieldCode → PublicCode
  | .field field => .field field
  | .redisTlsPreferredLegacy => .redisTlsPreferredLegacy
  | .redisTlsCaInvalidPem => .redisTlsCaInvalidPem

namespace ServiceError

def publicCode : ServiceError → PublicCode
  | .invalidProfile error => publicFieldCode error.code
  | .invalidRequest code | .draftCredentialRequired _ _ code => code
  | .profileIdConflict _ _ => .profileIdConflict
  | .profileStale _ _ => .profileStale
  | .secret (.missingEnv _) | .secret (.emptyEnv _) => .credentialEnvironmentName
  | .secret .replacementRequired | .secret .sessionCredentialRequired => .sessionCredential
  | .secret .invalidSessionIntent => .field .credentialMode
  | .secret .storeUnavailable => .none
  | .config .externalChange | .config .invalidProfile | .configUncertain => .configExternalChange
  | .driver (.preparedStatementUnsupported _) => .preparedStatementUnsupported
  | .driver .invalidCatalogRequest => .catalog
  | .driver (.redisTls .caUntrusted) => .redisTlsCaUntrustedIssuer
  | .driver (.redisTls .hostnameMismatch) => .tlsHostnameMismatch
  | .driver (.redis (.server .noPerm)) => .username
  | .connectionAuthenticationFailed code => code
  | .driver error => error.mysqlPublicCode.elim .none .mySql
  | _ => .none

/-- A panic has no error; the controller reports it as an internal failure. -/
def publicSummary : ServiceError → PublicSummary
  | .invalidProfile ⟨_, .redisTlsPreferredLegacy⟩ => .unsupportedFeature
  | .invalidProfile ⟨_, .redisTlsCaInvalidPem⟩ => .tlsVerificationFailed
  | .profileStale _ _ | .config .externalChange | .config .invalidProfile | .configUncertain =>
    .resourceStale
  | .invalidProfile _ | .invalidRowLimit | .languageMismatch _ _ | .driverMismatch _ _
  | .invalidRequest _ | .profileIdConflict _ _ | .unknownProfile _ => .invalidInput
  | .driver .invalidCatalogRequest => .invalidInput
  | .secret (.missingEnv _) | .secret (.emptyEnv _) => .authenticationFailed
  | .draftCredentialRequired _ _ _ | .secret .replacementRequired
  | .secret .sessionCredentialRequired => .credentialRequired
  | .secret .invalidSessionIntent => .invalidInput
  | .secret .storeUnavailable => .internalFailure
  | .driver (.timeout _) => .operationTimedOut
  | .driver (.redisTls _) => .tlsVerificationFailed
  | .driver .redisKeyMissing | .driver .redisKeyTypeChanged => .resourceStale
  | .driver (.redis .authenticationFailed) => .authenticationFailed
  | .driver (.redis (.server .noPerm)) => .permissionDenied
  | .connectionAuthenticationFailed _ => .authenticationFailed
  | .driver (.unavailable _) | .driver (.unsupported _ _)
  | .driver (.preparedStatementUnsupported _) => .unsupportedFeature
  | .driver error =>
    if error.isMysqlPermissionDenied then .permissionDenied
    else if error.isMysqlAuthenticationFailed then .authenticationFailed
    else .networkUnavailable
  | .config _ => .configWriteNotCommitted
  | .postCommitObservation _ _ => .committedDurabilityUnknown
  | .configTaskFailed | .mutationLaneClosed | .catalogTokenKeyUnavailable | .panicked =>
    .internalFailure

def publicErrorParts (error : ServiceError) : PublicSummary × PublicCode :=
  (error.publicSummary, error.publicCode)

/-- The error is a reply of a live server, after which its session is kept. -/
def keepsSession : ServiceError → Bool
  | .driver error => SessionDisposition.forDriverError error == .keep
  | _ => false

end ServiceError

/-! ## Rows of the table -/

/-- Operations that dial a saved profile or a draft. -/
def dials (kind : OperationKind) : Bool :=
  isCredentialOperation kind || kind == .testDraftConnection

/-- Operations that run on a session. -/
def runsOnSession : OperationKind → Bool
  | .executeRead | .executeMutation | .browseMySql | .browseRedis | .inspectRedis => true
  | _ => false

/-- Operations that write the configuration through a form of the desktop. -/
def writesProfiles : OperationKind → Bool
  | .createProfile | .updateProfile | .deleteProfile => true
  | _ => false

/-- Operations that start again, or reload, after something went stale. -/
def resumes (kind : OperationKind) : Bool :=
  isCredentialOperation kind || writesProfiles kind || kind == .reloadConfiguration

/-- The code of a wrong input tells the operation what to correct. -/
def corrects (kind : OperationKind) (code : PublicCode) : Bool :=
  match kind with
  | .reloadConfiguration | .inspectRedis => true
  | .createProfile | .testDraftConnection => (draftField code).isSome
  | .updateProfile =>
    code == .profileStale || code == .configExternalChange || (profileField code).isSome
  | .deleteProfile => code == .profileStale || code == .configExternalChange || code == .none
  | .connectProfile | .reconnectProfile => (profileField code).isSome
  | .executeRead | .executeMutation =>
    [.rowLimit, .timeoutInput, .statementTarget, .ambiguousSqlMode, .unterminatedSqlToken,
      .none].contains code
  | .browseMySql => code == .catalog || code == .none
  | .browseRedis => code == .redisScan || code == .none
  | _ => false

/-- The code names the credential. -/
def namesCredential (code : PublicCode) : Bool := (credentialField code).isSome

/-- The table has a row for these, in the context that the runtime makes for the operation. -/
def hasRow (kind : OperationKind) (summary : PublicSummary) (code : PublicCode) : Bool :=
  match summary with
  | .invalidInput => corrects kind code
  | .credentialRequired =>
    isCredentialOperation kind || kind == .testDraftConnection && namesCredential code
  | .authenticationFailed => dials kind && namesCredential code
  | .permissionDenied => dials kind && (permissionField code).isSome
  | .networkUnavailable | .operationTimedOut | .operationCancelled => dials kind
  | .tlsVerificationFailed => dials kind && (tlsField code).isSome
  | .syntaxRejected | .constraintRejected => kind == .executeRead || kind == .executeMutation
  | .unsupportedFeature =>
    runsOnSession kind ||
      (kind == .connectProfile || kind == .testDraftConnection) && code == .redisTlsPreferredLegacy
  | .resourceBusy | .internalFailure => true
  | .resourceStale => resumes kind
  | .configWriteNotCommitted | .committedDurabilityUnknown => writesProfiles kind
  | .exportFailed => false

/-- The contexts that the runtime makes: an operation that can be retried has its recipe. -/
inductive MadeFor : OperationKind → SafeContext → Prop
  | reload (o : OperationId) : MadeFor .reloadConfiguration (.globalScope o)
  | create (d : DraftId) (o : OperationId) : MadeFor .createProfile (.draft d o)
  | testDraft (d : DraftId) (o : OperationId) : MadeFor .testDraftConnection (.draft d o)
  | update (p : ProfileId) (o : OperationId) : MadeFor .updateProfile (.profile p o none none)
  | delete (p : ProfileId) (o : OperationId) : MadeFor .deleteProfile (.profile p o none none)
  | disconnect (p : ProfileId) (o : OperationId) :
      MadeFor .disconnectProfile (.profile p o none none)
  | read (p : ProfileId) (o : OperationId) : MadeFor .executeRead (.profile p o none none)
  | mutation (p : ProfileId) (o : OperationId) : MadeFor .executeMutation (.profile p o none none)
  | connect (p : ProfileId) (o : OperationId) (r : OperationRecipeId) :
      MadeFor .connectProfile (.profileWithRecipe p o r)
  | reconnect (p : ProfileId) (o : OperationId) (r : OperationRecipeId) :
      MadeFor .reconnectProfile (.profileWithRecipe p o r)
  | browseMySql (p : ProfileId) (o : OperationId) (r : OperationRecipeId) :
      MadeFor .browseMySql (.profileWithRecipe p o r)
  | browseRedis (p : ProfileId) (o : OperationId) (r : OperationRecipeId) :
      MadeFor .browseRedis (.profileWithRecipe p o r)
  | inspectRedis (p : ProfileId) (o : OperationId) (r : OperationRecipeId) :
      MadeFor .inspectRedis (.profileWithRecipe p o r)

variable {kind : OperationKind} {context : SafeContext}

theorem MadeFor.invalidInput_isSome (h : MadeFor kind context) (code : PublicCode) :
    (invalidInput kind code context).isSome = corrects kind code := by
  cases h <;> simp only [invalidInput, corrects, Option.isSome_map]
  case update => cases code <;> rfl
  case delete => cases code <;> rfl
  case read => cases code <;> rfl
  case mutation => cases code <;> rfl
  case browseMySql => cases code <;> rfl
  case browseRedis => cases code <;> rfl
  case connect => exact Option.isSome_map
  case reconnect => exact Option.isSome_map
  all_goals rfl

theorem MadeFor.credentialRequired_isSome (h : MadeFor kind context) (code : PublicCode) :
    (credentialRequired kind code context).isSome =
      (isCredentialOperation kind || kind == .testDraftConnection && namesCredential code) := by
  cases h
  case testDraft => simp [credentialRequired, namesCredential, isCredentialOperation]
  all_goals rfl

theorem MadeFor.authenticationFailed_isSome (h : MadeFor kind context) (code : PublicCode) :
    (authenticationFailed kind code context).isSome = (dials kind && namesCredential code) := by
  cases h
  case testDraft => simp [authenticationFailed, dials, namesCredential, isCredentialOperation]
  all_goals cases code <;> rfl

theorem MadeFor.permissionDenied_isSome (h : MadeFor kind context) (code : PublicCode) :
    (permissionDenied kind code context).isSome =
      (dials kind && (permissionField code).isSome) := by
  unfold permissionDenied
  cases permissionField code <;> cases h <;> rfl

theorem MadeFor.networkUnavailable_isSome (h : MadeFor kind context) :
    (networkUnavailable kind context).isSome = dials kind := by
  cases h <;> rfl

theorem MadeFor.tlsFailed_isSome (h : MadeFor kind context) (code : PublicCode) :
    (tlsFailed kind code context).isSome = (dials kind && (tlsField code).isSome) := by
  unfold tlsFailed
  cases tlsField code <;> cases h <;> rfl

theorem MadeFor.timedOut_isSome (h : MadeFor kind context) :
    (timedOut kind context).isSome = dials kind := by
  cases h <;> rfl

theorem MadeFor.executeOnly_isSome (h : MadeFor kind context) (dismiss : Bool) :
    (executeOnly kind context dismiss).isSome =
      (kind == .executeRead || kind == .executeMutation) := by
  cases h <;> rfl

theorem MadeFor.unsupported_isSome (h : MadeFor kind context) (code : PublicCode) :
    (unsupported kind code context).isSome = (runsOnSession kind ||
      (kind == .connectProfile || kind == .testDraftConnection) &&
        code == .redisTlsPreferredLegacy) := by
  cases h <;> cases code <;> rfl

theorem MadeFor.cancelled_isSome (h : MadeFor kind context) :
    (cancelled kind context).isSome = dials kind := by
  cases h <;> rfl

theorem MadeFor.busy_isSome (h : MadeFor kind context) : (busy kind context .none).isSome := by
  cases h <;> rfl

theorem MadeFor.stale_isSome (h : MadeFor kind context) :
    (stale kind context).isSome = resumes kind := by
  cases h <;> rfl

theorem MadeFor.configNotCommitted_isSome (h : MadeFor kind context) (code : PublicCode) :
    (configNotCommitted kind code).isSome = writesProfiles kind := by
  cases h <;> rfl

theorem MadeFor.durabilityUnknown_isSome (h : MadeFor kind context) (code : PublicCode) :
    (durabilityUnknown kind code context).isSome = writesProfiles kind := by
  cases h <;> rfl

theorem MadeFor.exportFailed_eq_none (h : MadeFor kind context) :
    exportFailed kind context = none := by
  cases h <;> rfl

theorem MadeFor.recoveryFor_isSome (h : MadeFor kind context) (summary : PublicSummary)
    (code : PublicCode) :
    (recoveryFor kind summary code context).isSome = hasRow kind summary code := by
  have hmatches : contextMatches kind context = true := by cases h <;> rfl
  simp only [recoveryFor, recoveryForWithFact, hmatches, Bool.not_true, Bool.false_eq_true, if_false,
    bne_self_eq_false, Bool.false_and]
  cases summary with
  | invalidInput => exact h.invalidInput_isSome code
  | credentialRequired => exact h.credentialRequired_isSome code
  | authenticationFailed => exact h.authenticationFailed_isSome code
  | permissionDenied => exact h.permissionDenied_isSome code
  | networkUnavailable => exact h.networkUnavailable_isSome
  | tlsVerificationFailed => exact h.tlsFailed_isSome code
  | operationTimedOut => exact h.timedOut_isSome
  | syntaxRejected => exact h.executeOnly_isSome false
  | constraintRejected => exact h.executeOnly_isSome true
  | unsupportedFeature => exact h.unsupported_isSome code
  | operationCancelled => exact h.cancelled_isSome
  | resourceBusy => exact h.busy_isSome
  | resourceStale => exact h.stale_isSome
  | configWriteNotCommitted => exact h.configNotCommitted_isSome code
  | committedDurabilityUnknown => exact h.durabilityUnknown_isSome code
  | exportFailed =>
    simp only [h.exportFailed_eq_none]
    rfl
  | internalFailure => rfl

/-- The summary that was asked for is reported where the table has its row, and only there. -/
theorem MadeFor.newOrInternal_summary (h : MadeFor kind context) (summary : PublicSummary)
    (code : PublicCode) :
    (PublicOperationError.newOrInternal kind summary code context).summary = summary ↔
      hasRow kind summary code := by
  have hrow := h.recoveryFor_isSome summary code
  unfold PublicOperationError.newOrInternal PublicOperationError.new
  cases hrecovery : recoveryFor kind summary code context with
  | some recovery =>
    rw [hrecovery] at hrow
    exact ⟨fun _ => hrow.symm, fun _ => rfl⟩
  | none =>
    rw [hrecovery] at hrow
    refine ⟨fun heq => ?_, fun hsome => ?_⟩
    · have hinternal : summary = .internalFailure := heq.symm
      rw [hinternal] at hrow
      cases hrow
    · rw [hsome] at hrow
      cases hrow

/-! ## Errors that are reported faithfully -/

namespace ServiceError

/-- The operation reports the error for what it is. `coded` tells whether the path keeps the
code of the error. -/
def reportable (kind : OperationKind) (coded : Bool) : ServiceError → Bool
  | .secret .storeUnavailable | .configTaskFailed | .mutationLaneClosed
  | .catalogTokenKeyUnavailable | .panicked => true
  | .profileStale _ _ | .configUncertain | .config .externalChange | .config .invalidProfile
  | .driver .redisKeyMissing | .driver .redisKeyTypeChanged => resumes kind
  | .config _ | .postCommitObservation _ _ => writesProfiles kind
  -- a reply of the server to a statement or a login is never reported for what it is
  | .driver (.mySqlServer _) | .driver (.mySqlDatabase _)
  | .driver (.redis .authenticationFailed) => false
  | .driver (.redis (.server reply)) => coded && dials kind && reply == .noPerm
  | .driver (.invalidConfig _) | .driver (.timeout _) | .driver .mySql | .driver (.redis _)
  | .driver .redisParse => dials kind
  | .driver (.redisTls _) => coded && dials kind
  | .driver (.unavailable _) | .driver (.unsupported _ _)
  | .driver (.preparedStatementUnsupported _) => runsOnSession kind
  | .secret (.missingEnv _) | .secret (.emptyEnv _) => coded && dials kind
  | .connectionAuthenticationFailed code => coded && dials kind && namesCredential code
  | .secret .replacementRequired | .secret .sessionCredentialRequired =>
    isCredentialOperation kind || kind == .testDraftConnection && coded
  | .draftCredentialRequired _ _ code =>
    isCredentialOperation kind || kind == .testDraftConnection && coded && namesCredential code
  | .invalidProfile ⟨_, .redisTlsPreferredLegacy⟩ =>
    runsOnSession kind ||
      (kind == .connectProfile || kind == .testDraftConnection) && coded
  | .invalidProfile ⟨_, .redisTlsCaInvalidPem⟩ => coded && dials kind
  | .invalidProfile ⟨_, .field field⟩ => corrects kind (if coded then .field field else .none)
  | .secret .invalidSessionIntent => corrects kind (if coded then .field .credentialMode else .none)
  | .driver .invalidCatalogRequest => corrects kind (if coded then .catalog else .none)
  | .profileIdConflict _ _ => corrects kind (if coded then .profileIdConflict else .none)
  | .invalidRequest code => corrects kind (if coded then code else .none)
  | .invalidRowLimit | .languageMismatch _ _ | .driverMismatch _ _ | .unknownProfile _ =>
    corrects kind .none

/-- The code with which a path reports the error. -/
def codeAlong (coded : Bool) (error : ServiceError) : PublicCode :=
  if coded then error.publicCode else .none

/-- The table has the row of the error, and no reply of a live server is a network failure. -/
def faithful (kind : OperationKind) (coded : Bool) (error : ServiceError) : Bool :=
  hasRow kind error.publicSummary (error.codeAlong coded) &&
    !(error.keepsSession && error.publicSummary == .networkUnavailable)

/-- The reply of a MySQL server has no row: its code names neither a credential nor a field, and
the replies that are neither of these are taken for network failures. -/
theorem faithful_reply (kind : OperationKind) (coded : Bool) {error : DriverError}
    (hsummary : (driver error).publicSummary =
      if error.isMysqlPermissionDenied then .permissionDenied
      else if error.isMysqlAuthenticationFailed then .authenticationFailed
      else .networkUnavailable)
    (hcode : (driver error).publicCode = error.mysqlPublicCode.elim .none .mySql)
    (hkeeps : (driver error).keepsSession = true) :
    (driver error).faithful kind coded = false := by
  have hnamed : namesCredential ((driver error).codeAlong coded) = false ∧
      (permissionField ((driver error).codeAlong coded)).isSome = false := by
    rw [codeAlong, hcode]
    cases coded <;> cases error.mysqlPublicCode <;> exact ⟨rfl, rfl⟩
  unfold faithful
  rw [hkeeps, hsummary]
  split
  · simp [hasRow, hnamed.2]
  · split
    · simp [hasRow, hnamed.1]
    · simp

theorem faithful_of_parts {kind : OperationKind} {coded : Bool} {error : ServiceError}
    {s : PublicSummary} {c : PublicCode} {k : Bool} (hs : error.publicSummary = s)
    (hc : error.publicCode = c) (hk : error.keepsSession = k) :
    error.faithful kind coded = (hasRow kind s (if coded then c else .none) &&
      !(k && s == .networkUnavailable)) := by
  subst hs hc hk
  rfl

theorem faithful_driver (kind : OperationKind) (coded : Bool) (error : DriverError) :
    (driver error).faithful kind coded = (driver error).reportable kind coded := by
  cases error with
  | mySqlServer code => exact faithful_reply kind coded rfl rfl rfl
  | mySqlDatabase code => exact faithful_reply kind coded rfl rfl rfl
  | redis failure =>
    cases failure with
    | server reply =>
      cases reply with
      | noPerm =>
        rw [faithful_of_parts (s := .permissionDenied) (c := .username) (k := true) rfl rfl rfl]
        cases coded <;> simp [hasRow, reportable, permissionField]
      | _ =>
        rw [faithful_of_parts (s := .networkUnavailable) (c := .none) (k := true) rfl rfl rfl]
        simp [reportable]
    | authenticationFailed =>
      rw [faithful_of_parts (s := .authenticationFailed) (c := .none) (k := false) rfl rfl rfl]
      simp [hasRow, reportable, namesCredential, credentialField]
    | _ =>
      rw [faithful_of_parts (s := .networkUnavailable) (c := .none) (k := false) rfl rfl rfl]
      simp [hasRow, reportable]
  | timeout seconds =>
    rw [faithful_of_parts (s := .operationTimedOut) (c := .none) (k := false) rfl rfl rfl]
    simp [hasRow, reportable]
  | redisTls failure =>
    cases failure with
    | caUntrusted =>
      rw [faithful_of_parts (s := .tlsVerificationFailed) (c := .redisTlsCaUntrustedIssuer)
        (k := false) rfl rfl rfl]
      cases coded <;> simp [hasRow, reportable, tlsField]
    | hostnameMismatch =>
      rw [faithful_of_parts (s := .tlsVerificationFailed) (c := .tlsHostnameMismatch) (k := false)
        rfl rfl rfl]
      cases coded <;> simp [hasRow, reportable, tlsField]
  | redisKeyMissing | redisKeyTypeChanged =>
    rw [faithful_of_parts (s := .resourceStale) (c := .none) (k := true) rfl rfl rfl]
    simp [hasRow, reportable]
  | preparedStatementUnsupported sessionHealthy =>
    have hparts : (driver (.preparedStatementUnsupported sessionHealthy)).keepsSession =
        sessionHealthy := by
      cases sessionHealthy <;> rfl
    rw [faithful_of_parts (s := .unsupportedFeature) (c := .preparedStatementUnsupported) rfl rfl
      hparts]
    cases coded <;> cases sessionHealthy <;> cases kind <;> rfl
  | unavailable | unsupported =>
    rw [faithful_of_parts (s := .unsupportedFeature) (c := .none) (k := false) rfl rfl rfl]
    simp [hasRow, reportable]
  | invalidCatalogRequest =>
    rw [faithful_of_parts (s := .invalidInput) (c := .catalog) (k := true) rfl rfl rfl]
    simp [hasRow, reportable]
  | invalidConfig | mySql | redisParse =>
    rw [faithful_of_parts (s := .networkUnavailable) (c := .none) (k := false) rfl rfl rfl]
    simp [hasRow, reportable]

/-- The table has the rows of exactly these errors. -/
theorem faithful_eq_reportable (kind : OperationKind) (coded : Bool) (error : ServiceError) :
    error.faithful kind coded = error.reportable kind coded := by
  cases error with
  | driver error => exact faithful_driver kind coded error
  | config error =>
    cases error with
    | externalChange | invalidProfile =>
      rw [faithful_of_parts (s := .resourceStale) (c := .configExternalChange) (k := false) rfl rfl
        rfl]
      simp [hasRow, reportable]
    | _ =>
      rw [faithful_of_parts (s := .configWriteNotCommitted) (c := .none) (k := false) rfl rfl rfl]
      simp [hasRow, reportable]
  | secret error =>
    cases error with
    | missingEnv | emptyEnv =>
      rw [faithful_of_parts (s := .authenticationFailed) (c := .credentialEnvironmentName)
        (k := false) rfl rfl rfl]
      cases coded <;> simp [hasRow, reportable, namesCredential, credentialField]
    | replacementRequired | sessionCredentialRequired =>
      rw [faithful_of_parts (s := .credentialRequired) (c := .sessionCredential) (k := false) rfl
        rfl rfl]
      cases coded <;> simp [hasRow, reportable, namesCredential, credentialField]
    | invalidSessionIntent =>
      rw [faithful_of_parts (s := .invalidInput) (c := .field .credentialMode) (k := false) rfl rfl
        rfl]
      simp [hasRow, reportable]
    | storeUnavailable => rfl
  | connectionAuthenticationFailed code =>
    rw [faithful_of_parts (s := .authenticationFailed) (c := code) (k := false) rfl rfl rfl]
    cases coded <;> simp [hasRow, reportable, namesCredential, credentialField]
  | invalidProfile error =>
    obtain ⟨field, code⟩ := error
    cases code with
    | field named =>
      rw [faithful_of_parts (s := .invalidInput) (c := .field named) (k := false) rfl rfl rfl]
      simp [hasRow, reportable]
    | redisTlsPreferredLegacy =>
      rw [faithful_of_parts (s := .unsupportedFeature) (c := .redisTlsPreferredLegacy) (k := false)
        rfl rfl rfl]
      cases coded <;> simp [hasRow, reportable]
    | redisTlsCaInvalidPem =>
      rw [faithful_of_parts (s := .tlsVerificationFailed) (c := .redisTlsCaInvalidPem) (k := false)
        rfl rfl rfl]
      cases coded <;> simp [hasRow, reportable, tlsField]
  | profileStale p o =>
    rw [faithful_of_parts (s := .resourceStale) (c := .profileStale) (k := false) rfl rfl rfl]
    simp [hasRow, reportable]
  | configUncertain =>
    rw [faithful_of_parts (s := .resourceStale) (c := .configExternalChange) (k := false) rfl rfl
      rfl]
    simp [hasRow, reportable]
  | draftCredentialRequired d o code =>
    rw [faithful_of_parts (s := .credentialRequired) (c := code) (k := false) rfl rfl rfl]
    cases coded <;> simp [hasRow, reportable, namesCredential, credentialField]
  | postCommitObservation commitState source =>
    rw [faithful_of_parts (s := .committedDurabilityUnknown) (c := .none) (k := false) rfl rfl rfl]
    simp [hasRow, reportable]
  | invalidRequest code =>
    rw [faithful_of_parts (s := .invalidInput) (c := code) (k := false) rfl rfl rfl]
    simp [hasRow, reportable]
  | profileIdConflict d o =>
    rw [faithful_of_parts (s := .invalidInput) (c := .profileIdConflict) (k := false) rfl rfl rfl]
    simp [hasRow, reportable]
  | unknownProfile | languageMismatch | driverMismatch | invalidRowLimit =>
    rw [faithful_of_parts (s := .invalidInput) (c := .none) (k := false) rfl rfl rfl]
    simp [hasRow, reportable]
  | configTaskFailed | mutationLaneClosed | catalogTokenKeyUnavailable | panicked => rfl

end ServiceError

end Dbotter.Service
