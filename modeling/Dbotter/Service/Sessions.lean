import Dbotter.Service.State

/-!
Sessions: looking one up, dialling one, and the operations that run on one.
-/

namespace Dbotter.Service
open Dbotter.Utf8 Dbotter.Execution Dbotter.Configuration Dbotter.Program

variable {ρ : Type}

/-! ## Checks of a profile -/

def validatePersistedProfile (profile : ConnectionProfile) :
    Except ProfileValidationError Unit := do
  validateProfileId profile.id
  let draft := profile.asDraft
  let draft := if profile.driver == .redis then
      match profile.tls with
      | .preferred => { draft with tls := .disabled, redisTls := ⟨none⟩ }
      | .required => { draft with redisTls := ⟨none⟩ }
      | .disabled => draft
    else draft
  -- the CA file is cleared where it would be read
  validateConnectionDraft (fun _ => .ok ()) draft

def validateProfileForNetwork (validateCaFile : PathBuf → Except ProfileValidationError Unit)
    (profile : ConnectionProfile) : Except ProfileValidationError Unit := do
  validatePersistedProfile profile
  if profile.driver == .redis && profile.tls == .preferred then
    .error ⟨.redisTlsMode, .redisTlsPreferredLegacy⟩
  else if profile.driver == .redis && profile.tls == .required then
    match profile.redisTls.caFile with
    | some caFile => validateCaFile caFile
    | none => .ok ()
  else .ok ()

/-- The descriptors of the drivers: MySQL and Redis are ready and have the capability of
their language, MongoDB is planned. -/
def ensureReady (profile : ConnectionProfile) : Except DriverError Unit :=
  match profile.driver with
  | .mySql | .redis => .ok ()
  | .mongoDb => .error (.unavailable .mongoDb)

def ensureConnectorTlsSupport (supportsRedisTls : Bool) (profile : ConnectionProfile) :
    Except DriverError Unit :=
  if profile.driver == .redis && profile.tls == .required && !supportsRedisTls then
    .error (.unsupported .redis "required TLS transport".toList)
  else .ok ()

def connectionError (profile : ConnectionProfile) (error : DriverError) : ServiceError :=
  if error.isMysqlAuthenticationFailed || error == .redis .authenticationFailed then
    .connectionAuthenticationFailed (match profile.credentialMode with
      | .session => .sessionCredential
      | .environment => .credentialEnvironmentName
      | .none => .username)
  else .driver error

def resolveProfileSecret (resolveEnvironment : Text → Except SecretError SessionSecret)
    (s : ApplicationService) (profile : ConnectionProfile) :
    Except ServiceError (Option SessionSecret) :=
  match profile.credentialMode with
  | .none => .ok none
  | .environment =>
      match profile.secretEnv with
      | none => .error (.invalidProfile (.ofField .credentialEnvironmentName))
      | some name => ((resolveEnvironment name).map some).mapError .secret
  | .session =>
      match s.sessionSecrets.lookup profile.id with
      | some secret => .ok (some secret)
      | none => .error (.secret .sessionCredentialRequired)

/-! ## Acquiring a session -/

/-- Where a cached session may be leased to a request. -/
def CachedSession.serves (cached : CachedSession) (profile : ConnectionProfile)
    (generation : ProfileGeneration) : Bool :=
  cached.connectionFingerprint == .from profile && cached.profileGeneration == generation

def CachedSession.lease (cached : CachedSession) (profile : ConnectionProfile) : SessionLease :=
  ⟨profile.id, profile, cached.identity, cached.handle⟩

/-- The section under the read lock. -/
def lookupSession (profile : ConnectionProfile) (generation : ProfileGeneration)
    (operationId : OperationId) : Op ρ (Option SessionLease) :=
  .step fun _ s =>
    if s.configUncertain then ⟨s, .error .configUncertain, none⟩
    else if !s.isCurrent profile generation then
      ⟨s, .error (.profileStale profile.id operationId), none⟩
    else
      match s.sessions.lookup profile.id with
      | some cached =>
          if cached.serves profile generation then
            ⟨s, .ok (some (cached.lease profile)), some (.leased generation (cached.lease profile))⟩
          else ⟨s, .ok none, none⟩
      | none => ⟨s, .ok none, none⟩

def prepareConnection (profile : ConnectionProfile) : Op ρ (Option SessionSecret) :=
  .step fun answer s =>
    ⟨s, do
      (ensureReady profile).mapError .driver
      (ensureConnectorTlsSupport answer.supportsRedisTls profile).mapError .driver
      resolveProfileSecret answer.resolveEnvironment s profile, some (.resolved profile.id)⟩

/-- `connector.connect`; the generation is recorded for the proofs only. -/
def connect (profile : ConnectionProfile) (secret : Option SessionSecret)
    (generation : ProfileGeneration) : Op ρ (Except DriverError Handle) :=
  .step fun answer s =>
    match answer.connect with
    | .ok () =>
        let handle : Handle := ⟨s.connections.length, profile, secret, generation⟩
        ⟨{ s with connections := handle :: s.connections }, .ok (.ok handle),
          some (.dialled profile secret generation)⟩
    | .error error => ⟨s, .ok (.error error), some (.dialled profile secret generation)⟩

inductive CacheInstall
  | installed (displaced : Option Handle) (lease : SessionLease)
  | existing (lease : SessionLease)
  | stale
  | uncertain

/-- The lease that the caller returns. -/
def CacheInstall.lease? : CacheInstall → Option SessionLease
  | .installed _ lease | .existing lease => some lease
  | .stale | .uncertain => none

/-- The section under the write lock. -/
def installSession (profile : ConnectionProfile) (generation : ProfileGeneration)
    (sessionGeneration : SessionGeneration) (connected : Handle) : Op ρ CacheInstall :=
  .step fun _ s =>
    if s.configUncertain then ⟨s, .ok .uncertain, none⟩
    else if !s.isCurrent profile generation then ⟨s, .ok .stale, none⟩
    else
      let fresh : CachedSession := ⟨⟨generation, sessionGeneration, .from profile⟩, connected⟩
      let install : Effect ApplicationService Event (Except ServiceError CacheInstall) :=
        ⟨{ s with sessions := s.sessions.insert profile.id fresh },
          .ok (.installed ((s.sessions.lookup profile.id).map (·.handle)) (fresh.lease profile)),
          some (.leased generation (fresh.lease profile))⟩
      match s.sessions.lookup profile.id with
      | some cached =>
          if cached.serves profile generation then
            ⟨s, .ok (.existing (cached.lease profile)), some (.leased generation (cached.lease profile))⟩
          else install
      | none => install

def sessionFor (profile : ConnectionProfile) (generation : ProfileGeneration)
    (operationId : OperationId) : Op ρ SessionLease := do
  ensureConfigCertain
  match ← lookupSession profile generation operationId with
  | some lease => return lease
  | none =>
      let secret ← prepareConnection profile
      let attemptedSessionGeneration ← allocateSessionGeneration
      match ← connect profile secret generation with
      | .error error =>
          ensureSessionObservation profile.id generation operationId
          .fail (connectionError profile error)
      | .ok connected =>
          match ← installSession profile generation attemptedSessionGeneration connected with
          | .installed (some displaced) lease =>
              close displaced
              return lease
          | .installed none lease => return lease
          | .existing lease =>
              close connected
              return lease
          | .stale =>
              close connected
              .fail (.profileStale profile.id operationId)
          | .uncertain =>
              close connected
              .fail .configUncertain

def checkProfileForNetwork (profile : ConnectionProfile) : Op ρ Unit :=
  .step fun answer s =>
    ⟨s, (validateProfileForNetwork answer.validateCaFile profile).mapError .invalidProfile, none⟩

def acquireSessionAt (operationId : OperationId) (profileId : ProfileId)
    (expectedGeneration : ProfileGeneration) : Op ρ SessionLease := do
  ensureConfigCertain
  let (profile, generation) ← profileWithGeneration profileId
  if generation ≠ expectedGeneration then .fail (.profileStale profileId operationId)
  else
    checkProfileForNetwork profile
    sessionFor profile generation operationId

def observeSession (lease : SessionLease) (operationId : OperationId) : Op ρ Unit :=
  ensureSessionObservation lease.profileId lease.identity.profileGeneration operationId

def evictSessionLease (lease : SessionLease) : Op ρ Bool :=
  evictCachedSessionExact lease.profileId lease.identity.profileGeneration
    lease.identity.sessionGeneration

/-! ## Preparing a request -/

def serviceRequestError : RequestValidationError → ServiceError
  | .invalidRowLimit => .invalidRequest .rowLimit
  | .invalidExecuteTimeout => .invalidRequest .timeoutInput
  | .invalidCatalogPageSize | .invalidCatalogTimeout | .emptyCatalogParent
  | .emptyCatalogPageToken => .invalidRequest .catalog
  | .redisFilterTooLarge | .invalidRedisScanCount | .redisKeyTooLarge =>
      .invalidRequest .redisScan
  | .emptyStatement | .emptyRedisCommand | .redisCommandTooLarge | .tooManyRedisTokens
  | .redisTokenTooLarge | .redisCommandDenied => .invalidRequest .statementTarget

def executionTargetError : ExecutionTargetError → ServiceError
  | .invalidRowLimit => .invalidRequest .rowLimit
  | .invalidTimeout => .invalidRequest .timeoutInput
  | .ambiguousSqlMode => .invalidRequest .ambiguousSqlMode
  | .unterminatedSqlToken => .invalidRequest .unterminatedSqlToken
  | .invalidCaretPosition | .invalidSelectionRange | .noCurrentStatement | .multipleStatements
  | .redisShellParseFailed | .redisCommandDenied | .redisTargetTooLarge | .redisTooManyTokens
  | .redisTokenTooLarge => .invalidRequest .statementTarget

section
variable (split : Text → Option (List Text))

def validateExecuteTarget (request : ExecuteRequest) : Except ServiceError ExecutionTarget :=
  let validate (language : ExecutionLanguage) : Except ServiceError ExecutionTarget :=
    if asSecs request.timeout ≥ 2 ^ 32 then .error (.invalidRequest .timeoutInput)
    else
      match extractAndValidateTarget split request.text request.text.length
          (some (0, request.text.length)) language request.rowLimit (asSecs request.timeout) with
      | some validated => (validated.map (·.target)).mapError executionTargetError
      | none => .error .panicked
  match request.language with
  | .sql => validate .mySql
  | .redisCommand => validate .redis
  | .mongoDocument => .error (.driver (.unsupported .mongoDb "document execution".toList))

/-- The typed request for the driver of the profile. -/
def typedExecuteRequest (request : ExecuteRequest) :
    DriverKind → ExecutionTarget → Except ServiceError TypedExecuteRequest
  | .mySql, .mySqlText statement =>
      let typed : PreparedMySqlRequest :=
        ⟨request.identity, statement, request.rowLimit, request.timeout⟩
      (typed.validate.map fun _ => .mySql typed).mapError serviceRequestError
  | .redis, .redisArgv argv =>
      let typed : RedisExecuteRequest :=
        ⟨request.identity, argv.map bytes, request.rowLimit, request.timeout⟩
      (typed.validate.map fun _ => .redis typed).mapError serviceRequestError
  | actual, _ => .error (.driver (.unsupported actual "typed execution".toList))

def prepareExecuteRequest (request : ExecuteRequest) : Op ρ TypedExecuteRequest := do
  ensureConfigCertain
  let target ← .ofExcept (validateExecuteTarget split request)
  let (profile, generation) ← profileWithGeneration request.profileId
  if generation ≠ request.profileGeneration then
    .fail (.profileStale request.profileId request.operationId)
  else if language profile.driver ≠ request.language then
    .fail (.languageMismatch profile.driver request.language)
  else .ofExcept (typedExecuteRequest request profile.driver target)

end

/-- Only MySQL has a catalog and only Redis a keyspace, so the capability that
`ensure_typed_resource_request` asks for is there once the driver is the expected one. -/
def ensureTypedResourceRequest (identity : RequestIdentity) (expectedDriver : DriverKind) :
    Op ρ ConnectionFingerprint := do
  ensureConfigCertain
  let (profile, generation) ← profileWithGeneration identity.profileId
  if generation ≠ identity.profileGeneration then
    .fail (.profileStale identity.profileId identity.operationId)
  else if profile.driver ≠ expectedDriver then
    .fail (.driverMismatch expectedDriver profile.driver)
  else return .from profile

/-- The key itself is derived from the fingerprint and reaches the driver only. -/
def catalogTokenKey (_context : ConnectionFingerprint) : Op ρ Unit :=
  .step fun answer s =>
    ⟨s, if answer.catalogTokenKey then .ok () else .error .catalogTokenKeyUnavailable, none⟩

/-! ## Operations -/

/-- A driver call on the leased handle. -/
def onSession (_lease : SessionLease) : Op ρ (Except DriverError ρ) :=
  .step fun answer s => ⟨s, .ok answer.reply, none⟩

def evictWhen (condition : Bool) (lease : SessionLease) : Op ρ Unit :=
  if condition then do
    let _ ← evictSessionLease lease
    return ()
  else return ()

def resultDisposition (result : Except DriverError ρ) : SessionDisposition :=
  match result with
  | .ok _ => .keep
  | .error error => .forDriverError error

def finishResourceOperation (lease : SessionLease) (operationId : OperationId)
    (result : Except DriverError ρ) : Op ρ ρ := do
  let observation ← (observeSession lease operationId).attempt
  evictWhen (resultDisposition result == .evict || !observation.isOk) lease
  .ofExcept observation
  .ofExcept (result.mapError .driver)

structure OperationOutcome (ρ : Type) where
  operationId : OperationId
  profileId : ProfileId
  profileGeneration : ProfileGeneration
  sessionGeneration : SessionGeneration
  driver : DriverKind
  result : ρ

def outcome (lease : SessionLease) (operationId : OperationId) (profileId : ProfileId)
    (result : ρ) : OperationOutcome ρ :=
  ⟨operationId, profileId, lease.identity.profileGeneration, lease.identity.sessionGeneration,
    lease.profile.driver, result⟩

def executeAt (split : Text → Option (List Text)) (request : ExecuteRequest) :
    Op ρ (OperationOutcome ρ) := do
  let _typedRequest ← prepareExecuteRequest split request
  let lease ← acquireSessionAt request.operationId request.profileId request.profileGeneration
  let result ← onSession lease
  let observation ← (observeSession lease request.operationId).attempt
  evictWhen (resultDisposition result == .evict || !observation.isOk) lease
  .ofExcept observation
  let result ← .ofExcept (result.mapError .driver)
  return outcome lease request.operationId request.profileId result

def checkAt (operationId : OperationId) (profileId : ProfileId)
    (expectedGeneration : ProfileGeneration) : Op ρ (OperationOutcome ρ) := do
  let lease ← acquireSessionAt operationId profileId expectedGeneration
  let ping ← onSession lease
  let observation ← (observeSession lease operationId).attempt
  evictWhen (!ping.isOk || !observation.isOk) lease
  .ofExcept observation
  let ping ← .ofExcept (ping.mapError .driver)
  return outcome lease operationId profileId ping

/-- The common body of the browse operations after their own preparation. -/
def browse (identity : RequestIdentity) : Op ρ ρ := do
  let lease ← acquireSessionAt identity.operationId identity.profileId identity.profileGeneration
  let result ← onSession lease
  finishResourceOperation lease identity.operationId result

def loadCatalogPage (request : CatalogRequest) : Op ρ ρ := do
  .ofExcept (request.validate.mapError serviceRequestError)
  let context ← ensureTypedResourceRequest request.identity .mySql
  catalogTokenKey context
  browse request.identity

def scanRedisKeys (request : RedisScanRequest) : Op ρ ρ := do
  .ofExcept (request.validate.mapError serviceRequestError)
  let _ ← ensureTypedResourceRequest request.identity .redis
  browse request.identity

def inspectRedisKey (request : RedisKeyInspectRequest) : Op ρ ρ := do
  .ofExcept (request.validate.mapError serviceRequestError)
  let _ ← ensureTypedResourceRequest request.identity .redis
  browse request.identity

end Dbotter.Service
