import Dbotter.Service.Request

/-!
Public errors and the recovery actions they offer.

Every failure that leaves the service is an operation, a summary and a code, and
`recoveryFor` is the table of the actions a user may take next. A row that the table does not
have is reported as an internal failure.
-/

namespace Dbotter.Service
open Dbotter.Utf8 Dbotter.Configuration

abbrev ResultId := Nat
abbrev OperationRecipeId := Nat

inductive OperationKind
  | loadConfiguration
  | reloadConfiguration
  | migrateConfiguration
  | createProfile
  | updateProfile
  | deleteProfile
  | testDraftConnection
  | connectProfile
  | disconnectProfile
  | reconnectProfile
  | executeRead
  | executeMutation
  | browseMySql
  | browseRedis
  | inspectRedis
  | exportResult
  | shutdownRuntime
  deriving DecidableEq, Repr

inductive PublicSummary
  | invalidInput
  | credentialRequired
  | authenticationFailed
  | permissionDenied
  | networkUnavailable
  | tlsVerificationFailed
  | operationTimedOut
  | syntaxRejected
  | constraintRejected
  | unsupportedFeature
  | operationCancelled
  | resourceBusy
  | resourceStale
  | configWriteNotCommitted
  | committedDurabilityUnknown
  | exportFailed
  | internalFailure
  deriving DecidableEq, Repr

def validSqlState (state : Text) : Bool :=
  state.length == 5 && state.all fun c => ('A' ≤ c && c ≤ 'Z') || isAsciiDigit c

/-- A server error number with its SQLSTATE, as `MySqlPublicErrorCode::new` admits them. -/
structure MySqlPublicErrorCode where
  errno : UInt16
  sqlState : Text
  errno_ne_zero : errno ≠ 0
  sqlState_valid : validSqlState sqlState = true
  deriving DecidableEq, Repr

inductive RedisPublicErrorKind
  | parse
  | authenticationFailed
  | unexpectedReturnType
  | invalidClientConfig
  | io
  | client
  | extension
  | masterNameNotFoundBySentinel
  | noValidReplicasFoundBySentinel
  | emptySentinelList
  | clusterConnectionNotFound
  | resp3NotSupported
  | responseError
  | execAbort
  | busyLoading
  | noScript
  | moved
  | ask
  | tryAgain
  | clusterDown
  | crossSlot
  | masterDown
  | readOnly
  | notBusy
  | noSub
  | noPerm
  deriving DecidableEq, Repr

inductive PublicCode
  | none
  | field (field : ProfileFieldId)
  | profileIdConflict
  | profileStale
  | configExternalChange
  | migrationBackupAvailable
  | sessionCredential
  | credentialEnvironmentName
  | username
  | database
  | statementTarget
  | ambiguousSqlMode
  | unterminatedSqlToken
  | rowLimit
  | timeoutInput
  | catalog
  | redisScan
  | exportDestination
  | exportDestinationCommitted
  | redisTlsCaInvalidPem
  | redisTlsCaUntrustedIssuer
  | tlsHostnameMismatch
  | redisTlsPreferredLegacy
  | preparedStatementUnsupported
  | mySql (code : MySqlPublicErrorCode)
  | redis (kind : RedisPublicErrorKind)
  deriving DecidableEq, Repr

inductive ErrorCategory
  | validation
  | authentication
  | permission
  | network
  | tls
  | timeout
  | syntaxError
  | constraint
  | unsupported
  | cancelled
  | busy
  | stale
  | io
  | internal
  deriving DecidableEq, Repr

def PublicSummary.category : PublicSummary → ErrorCategory
  | .invalidInput | .credentialRequired => .validation
  | .authenticationFailed => .authentication
  | .permissionDenied => .permission
  | .networkUnavailable => .network
  | .tlsVerificationFailed => .tls
  | .operationTimedOut => .timeout
  | .syntaxRejected => .syntaxError
  | .constraintRejected => .constraint
  | .unsupportedFeature => .unsupported
  | .operationCancelled => .cancelled
  | .resourceBusy => .busy
  | .resourceStale => .stale
  | .configWriteNotCommitted | .committedDurabilityUnknown | .exportFailed => .io
  | .internalFailure => .internal

inductive RecoveryAction
  | openCredentialPrompt (profileId : ProfileId)
  | editDraft (draftId : DraftId) (field : ProfileFieldId)
  | editProfile (profileId : ProfileId) (field : ProfileFieldId)
  | retry (recipeId : OperationRecipeId)
  | focusEditor (profileId : ProfileId)
  | focusExecuteLimits (profileId : ProfileId)
  | reloadConfiguration
  | reconnect (profileId : ProfileId)
  | cancelOperation (operationId : OperationId)
  | clearCatalog (profileId : ProfileId)
  | restartRedisScan (profileId : ProfileId)
  | chooseExportDestination (resultId : ResultId)
  | revealExportDestination (resultId : ResultId)
  | revealMigrationBackup
  | restartApplication
  | dismissError (operationId : OperationId)
  deriving DecidableEq, Repr

structure NonEmpty (α : Type) where
  head : α
  rest : List α
  deriving DecidableEq, Repr

def NonEmpty.asSlice {α : Type} (actions : NonEmpty α) : List α := actions.head :: actions.rest

/-- What may be said in public about the operation that failed. -/
inductive SafeContext
  | globalScope (operationId : OperationId)
  | draft (draftId : DraftId) (operationId : OperationId)
  | profile (profileId : ProfileId) (operationId : OperationId)
      (activeOperation : Option OperationId) (recipeId : Option OperationRecipeId)
  | exported (resultId : ResultId) (operationId : OperationId) (destinationCommitted : Bool)
  deriving DecidableEq, Repr

def SafeContext.operationId : SafeContext → OperationId
  | .globalScope operationId | .draft _ operationId | .profile _ operationId _ _
  | .exported _ operationId _ => operationId

def SafeContext.profileWithRecipe (profileId : ProfileId) (operationId : OperationId)
    (recipeId : OperationRecipeId) : SafeContext :=
  .profile profileId operationId none (some recipeId)

inductive BusyFact
  | knownActive (operationId : OperationId)
  | unknownActive
  deriving DecidableEq, Repr

inductive RecoveryFact
  | none
  | busy (fact : BusyFact)
  deriving DecidableEq, Repr

/-! ## Fields and kinds -/

/-- `profile_field`, and `draft_field` without its first row. -/
def profileField : PublicCode → Option ProfileFieldId
  | .field field => some field
  | .sessionCredential => some .sessionCredential
  | .credentialEnvironmentName => some .credentialEnvironmentName
  | .username => some .username
  | .database => some .database
  | .redisTlsPreferredLegacy => some .redisTlsMode
  | .redisTlsCaInvalidPem | .redisTlsCaUntrustedIssuer => some .redisCaFile
  | .tlsHostnameMismatch => some .host
  | _ => none

def draftField : PublicCode → Option ProfileFieldId
  | .profileIdConflict => some .connectionId
  | code => profileField code

def credentialField : PublicCode → Option ProfileFieldId
  | .sessionCredential => some .sessionCredential
  | .credentialEnvironmentName => some .credentialEnvironmentName
  | .username => some .username
  | _ => none

def permissionField : PublicCode → Option ProfileFieldId
  | .username => some .username
  | .database => some .database
  | _ => none

def isCredentialOperation : OperationKind → Bool
  | .connectProfile | .reconnectProfile | .executeRead | .executeMutation | .browseMySql
  | .browseRedis | .inspectRedis => true
  | _ => false

def isSavedNetwork (operation : OperationKind) : Bool :=
  operation == .disconnectProfile || isCredentialOperation operation

def isIdempotent : OperationKind → Bool
  | .connectProfile | .reconnectProfile | .browseMySql | .browseRedis | .inspectRedis => true
  | _ => false

def contextMatches : OperationKind → SafeContext → Bool
  | .loadConfiguration, .globalScope .. | .reloadConfiguration, .globalScope ..
  | .migrateConfiguration, .globalScope .. | .shutdownRuntime, .globalScope .. => true
  | .createProfile, .draft .. | .testDraftConnection, .draft .. => true
  | .exportResult, .exported .. => true
  | operation, .profile .. =>
    operation == .updateProfile || operation == .deleteProfile || isSavedNetwork operation
  | _, _ => false

/-! ## The rows of the table -/

def retryIfIdempotent (operation : OperationKind) (recipeId : Option OperationRecipeId) :
    List RecoveryAction :=
  if isIdempotent operation then (recipeId.map .retry).toList else []

def invalidInput (operation : OperationKind) (code : PublicCode) (context : SafeContext) :
    Option (NonEmpty RecoveryAction) :=
  match operation, context with
  | .loadConfiguration, .globalScope _ | .reloadConfiguration, .globalScope _
  | .migrateConfiguration, .globalScope _ => some ⟨.reloadConfiguration, []⟩
  | .createProfile, .draft draftId _ | .testDraftConnection, .draft draftId _ =>
    (draftField code).map fun field => ⟨.editDraft draftId field, []⟩
  | .updateProfile, .profile profileId _ _ _ =>
    match code with
    | .profileStale | .configExternalChange => some ⟨.reloadConfiguration, []⟩
    | _ => (profileField code).map fun field => ⟨.editProfile profileId field, []⟩
  | .deleteProfile, .profile _ operationId _ _ =>
    match code with
    | .profileStale | .configExternalChange => some ⟨.reloadConfiguration, []⟩
    | .none => some ⟨.dismissError operationId, []⟩
    | _ => none
  | .connectProfile, .profile profileId _ _ _ | .reconnectProfile, .profile profileId _ _ _ =>
    (profileField code).map fun field => ⟨.editProfile profileId field, []⟩
  | .executeRead, .profile profileId _ _ _ | .executeMutation, .profile profileId _ _ _ =>
    match code with
    | .rowLimit | .timeoutInput => some ⟨.focusExecuteLimits profileId, []⟩
    | .statementTarget | .ambiguousSqlMode | .unterminatedSqlToken | .none =>
      some ⟨.focusEditor profileId, []⟩
    | _ => none
  | .browseMySql, .profile profileId operationId _ _ =>
    match code with
    | .catalog => some ⟨.clearCatalog profileId, []⟩
    | .none => some ⟨.dismissError operationId, []⟩
    | _ => none
  | .browseRedis, .profile profileId operationId _ _ =>
    match code with
    | .redisScan => some ⟨.restartRedisScan profileId, []⟩
    | .none => some ⟨.dismissError operationId, []⟩
    | _ => none
  | .inspectRedis, .profile _ operationId _ _ => some ⟨.dismissError operationId, []⟩
  | .exportResult, .exported resultId _ _ => some ⟨.chooseExportDestination resultId, []⟩
  | _, _ => none

def credentialRequired (operation : OperationKind) (code : PublicCode) (context : SafeContext) :
    Option (NonEmpty RecoveryAction) :=
  match operation, context with
  | .testDraftConnection, .draft draftId _ =>
    (credentialField code).map fun field => ⟨.editDraft draftId field, []⟩
  | operation, .profile profileId _ _ _ =>
    if isCredentialOperation operation then
      some ⟨.openCredentialPrompt profileId, [.editProfile profileId .sessionCredential]⟩
    else none
  | _, _ => none

def authenticationFailed (operation : OperationKind) (code : PublicCode)
    (context : SafeContext) : Option (NonEmpty RecoveryAction) :=
  match operation, context with
  | .testDraftConnection, .draft draftId _ =>
    (credentialField code).map fun field => ⟨.editDraft draftId field, []⟩
  | operation, .profile profileId _ _ recipeId =>
    if isCredentialOperation operation then
      match code with
      | .sessionCredential =>
        some ⟨.openCredentialPrompt profileId, retryIfIdempotent operation recipeId⟩
      | .credentialEnvironmentName =>
        some ⟨.editProfile profileId .credentialEnvironmentName,
          retryIfIdempotent operation recipeId⟩
      | .username =>
        some ⟨.editProfile profileId .username, retryIfIdempotent operation recipeId⟩
      | _ => none
    else none
  | _, _ => none

def permissionDenied (operation : OperationKind) (code : PublicCode) (context : SafeContext) :
    Option (NonEmpty RecoveryAction) := do
  let field ← permissionField code
  match operation, context with
  | .testDraftConnection, .draft draftId operationId =>
    some ⟨.editDraft draftId field, [.dismissError operationId]⟩
  | .executeRead, .profile profileId operationId _ _
  | .executeMutation, .profile profileId operationId _ _ =>
    some ⟨.focusEditor profileId, [.dismissError operationId]⟩
  | operation, .profile profileId operationId _ _ =>
    if isIdempotent operation then
      some ⟨.editProfile profileId field, [.dismissError operationId]⟩
    else none
  | _, _ => none

def networkUnavailable (operation : OperationKind) (context : SafeContext) :
    Option (NonEmpty RecoveryAction) :=
  match operation, context with
  | .testDraftConnection, .draft draftId operationId =>
    some ⟨.editDraft draftId .host, [.dismissError operationId]⟩
  | operation, .profile profileId _ _ recipeId =>
    if isSavedNetwork operation && operation != .disconnectProfile then
      some ⟨.editProfile profileId .host, .reconnect profileId ::
        if operation != .executeMutation then retryIfIdempotent operation recipeId else []⟩
    else none
  | _, _ => none

def tlsField : PublicCode → Option ProfileFieldId
  | .redisTlsCaInvalidPem | .redisTlsCaUntrustedIssuer => some .redisCaFile
  | .tlsHostnameMismatch => some .host
  | _ => none

def tlsFailed (operation : OperationKind) (code : PublicCode) (context : SafeContext) :
    Option (NonEmpty RecoveryAction) := do
  let field ← tlsField code
  match operation, context with
  | .testDraftConnection, .draft draftId _ => some ⟨.editDraft draftId field, []⟩
  | operation, .profile profileId _ _ _ =>
    if isCredentialOperation operation then some ⟨.editProfile profileId field, []⟩ else none
  | _, _ => none

def timedOut (operation : OperationKind) (context : SafeContext) :
    Option (NonEmpty RecoveryAction) :=
  match operation, context with
  | .testDraftConnection, .draft draftId operationId =>
    some ⟨.editDraft draftId .host, [.dismissError operationId]⟩
  | .connectProfile, .profile profileId operationId _ _
  | .reconnectProfile, .profile profileId operationId _ _ =>
    some ⟨.editProfile profileId .host, [.reconnect profileId, .dismissError operationId]⟩
  | .executeRead, .profile profileId _ _ _ | .executeMutation, .profile profileId _ _ _ =>
    some ⟨.focusExecuteLimits profileId, [.reconnect profileId]⟩
  | .browseMySql, .profile profileId operationId _ recipeId
  | .browseRedis, .profile profileId operationId _ recipeId
  | .inspectRedis, .profile profileId operationId _ recipeId =>
    match recipeId with
    | some recipeId => some ⟨.retry recipeId, [.dismissError operationId]⟩
    | none => some ⟨.reconnect profileId, [.dismissError operationId]⟩
  | _, _ => none

def executeOnly (operation : OperationKind) (context : SafeContext) (dismiss : Bool) :
    Option (NonEmpty RecoveryAction) :=
  match operation, context with
  | .executeRead, .profile profileId operationId _ _
  | .executeMutation, .profile profileId operationId _ _ =>
    some ⟨.focusEditor profileId, if dismiss then [.dismissError operationId] else []⟩
  | _, _ => none

def unsupported (operation : OperationKind) (code : PublicCode) (context : SafeContext) :
    Option (NonEmpty RecoveryAction) :=
  match operation, context, code with
  | .testDraftConnection, .draft draftId _, .redisTlsPreferredLegacy =>
    some ⟨.editDraft draftId .redisTlsMode, []⟩
  | .connectProfile, .profile profileId _ _ _, .redisTlsPreferredLegacy =>
    some ⟨.editProfile profileId .redisTlsMode, []⟩
  | .executeRead, .profile profileId operationId _ _, .preparedStatementUnsupported
  | .executeMutation, .profile profileId operationId _ _, .preparedStatementUnsupported =>
    some ⟨.focusEditor profileId, [.dismissError operationId]⟩
  | .executeRead, .profile _ operationId _ _, _ | .executeMutation, .profile _ operationId _ _, _
  | .browseMySql, .profile _ operationId _ _, _ | .browseRedis, .profile _ operationId _ _, _
  | .inspectRedis, .profile _ operationId _ _, _ => some ⟨.dismissError operationId, []⟩
  | _, _, _ => none

def cancelled (operation : OperationKind) (context : SafeContext) :
    Option (NonEmpty RecoveryAction) :=
  match operation, context with
  | .testDraftConnection, .draft _ operationId => some ⟨.dismissError operationId, []⟩
  | .exportResult, .exported resultId operationId destinationCommitted =>
    some ⟨if destinationCommitted then .revealExportDestination resultId
      else .chooseExportDestination resultId, [.dismissError operationId]⟩
  | operation, .profile profileId operationId _ _ =>
    if isSavedNetwork operation && operation != .disconnectProfile then
      some ⟨.reconnect profileId, [.dismissError operationId]⟩
    else none
  | _, _ => none

def busy (operation : OperationKind) (context : SafeContext) (fact : RecoveryFact) :
    Option (NonEmpty RecoveryAction) :=
  if operation == .loadConfiguration || operation == .shutdownRuntime then none
  else
    let contextActive := match context with
      | .profile _ _ activeOperation _ => activeOperation
      | _ => none
    let active := match fact with
      | .none => contextActive
      | .busy (.knownActive operationId) => some operationId
      | .busy .unknownActive => none
    match active with
    | some active => some ⟨.cancelOperation active, [.dismissError context.operationId]⟩
    | none => some ⟨.dismissError context.operationId, []⟩

def stale (operation : OperationKind) (context : SafeContext) : Option (NonEmpty RecoveryAction) :=
  match operation, context with
  | .reloadConfiguration, _ | .createProfile, _ | .updateProfile, _ | .deleteProfile, _ =>
    some ⟨.reloadConfiguration, []⟩
  | .executeRead, .profile profileId _ _ _ | .executeMutation, .profile profileId _ _ _ =>
    some ⟨.reloadConfiguration, [.focusEditor profileId]⟩
  | operation, .profile _ _ _ (some recipeId) =>
    if isIdempotent operation then some ⟨.retry recipeId, []⟩ else none
  | _, _ => none

def isConfigurationWrite : OperationKind → Bool
  | .migrateConfiguration | .createProfile | .updateProfile | .deleteProfile => true
  | _ => false

def revealBackup (operation : OperationKind) (code : PublicCode) : List RecoveryAction :=
  if operation == .migrateConfiguration && code == .migrationBackupAvailable then
    [.revealMigrationBackup]
  else []

def configNotCommitted (operation : OperationKind) (code : PublicCode) :
    Option (NonEmpty RecoveryAction) :=
  if isConfigurationWrite operation then
    some ⟨.reloadConfiguration, revealBackup operation code⟩
  else none

def durabilityUnknown (operation : OperationKind) (code : PublicCode) (context : SafeContext) :
    Option (NonEmpty RecoveryAction) :=
  if isConfigurationWrite operation then
    some ⟨.reloadConfiguration, revealBackup operation code⟩
  else
    match operation, context with
    | .exportResult, .exported resultId _ _ => some ⟨.revealExportDestination resultId, []⟩
    | _, _ => none

def exportFailed (operation : OperationKind) (context : SafeContext) :
    Option (NonEmpty RecoveryAction) :=
  match operation, context with
  | .exportResult, .exported resultId _ destinationCommitted =>
    some ⟨.chooseExportDestination resultId,
      if destinationCommitted then [.revealExportDestination resultId] else []⟩
  | _, _ => none

def internal (operation : OperationKind) (context : SafeContext) : NonEmpty RecoveryAction :=
  ⟨.restartApplication, .dismissError context.operationId ::
    match operation with
    | .loadConfiguration | .reloadConfiguration | .migrateConfiguration | .createProfile
    | .updateProfile | .deleteProfile => [.reloadConfiguration]
    | _ => []⟩

def recoveryForWithFact (operation : OperationKind) (summary : PublicSummary)
    (code : PublicCode) (context : SafeContext) (fact : RecoveryFact) :
    Option (NonEmpty RecoveryAction) :=
  if !contextMatches operation context then none
  else if fact != .none && summary != .resourceBusy then none
  else
    match summary with
    | .invalidInput => invalidInput operation code context
    | .credentialRequired => credentialRequired operation code context
    | .authenticationFailed => authenticationFailed operation code context
    | .permissionDenied => permissionDenied operation code context
    | .networkUnavailable => networkUnavailable operation context
    | .tlsVerificationFailed => tlsFailed operation code context
    | .operationTimedOut => timedOut operation context
    | .syntaxRejected => executeOnly operation context false
    | .constraintRejected => executeOnly operation context true
    | .unsupportedFeature => unsupported operation code context
    | .operationCancelled => cancelled operation context
    | .resourceBusy => busy operation context fact
    | .resourceStale => stale operation context
    | .configWriteNotCommitted => configNotCommitted operation code
    | .committedDurabilityUnknown => durabilityUnknown operation code context
    | .exportFailed => exportFailed operation context
    | .internalFailure => some (internal operation context)

def recoveryFor (operation : OperationKind) (summary : PublicSummary) (code : PublicCode)
    (context : SafeContext) : Option (NonEmpty RecoveryAction) :=
  recoveryForWithFact operation summary code context .none

/-! ## The error -/

structure PublicOperationError where
  operation : OperationKind
  category : ErrorCategory
  code : PublicCode
  summary : PublicSummary
  recovery : NonEmpty RecoveryAction
  deriving DecidableEq, Repr

def PublicOperationError.new (operation : OperationKind) (summary : PublicSummary)
    (code : PublicCode) (context : SafeContext) : Option PublicOperationError :=
  (recoveryFor operation summary code context).map fun recovery =>
    ⟨operation, summary.category, code, summary, recovery⟩

/-- The requested error, or an internal failure where the table has no row for it. -/
def PublicOperationError.newOrInternal (operation : OperationKind) (summary : PublicSummary)
    (code : PublicCode) (context : SafeContext) : PublicOperationError :=
  (PublicOperationError.new operation summary code context).getD
    ⟨operation, .internal, .none, .internalFailure,
      ⟨.restartApplication, [.dismissError context.operationId]⟩⟩

end Dbotter.Service
