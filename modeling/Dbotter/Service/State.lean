import Mathlib.Data.List.AList
import Dbotter.Config.Writer
import Dbotter.Program.Interleaving
import Dbotter.Service.PublicError

/-!
The state of the application service and the lock sections that read or write it.

`state` is behind one read-write lock. A section under the lock is one atomic step; the
uncertainty flag is an atomic that is read inside such a section or on its own. Dialling a
connection, driver calls, closing and the configuration file are answers of the outside world.
-/

namespace Dbotter.Service
open Dbotter.Utf8 Dbotter.Execution Dbotter.Configuration Dbotter.Program

/-! ## Errors -/

/-- The replies of a Redis server that the `redis` crate tells apart. -/
inductive RedisServerErrorKind
  | responseError
  | execAbort
  | busyLoading
  | noScript
  | moved
  | ask
  | tryAgain
  | clusterDown
  | crossSlot
  | masterDown
  | readOnly
  | notBusy
  | noSub
  | noPerm
  deriving DecidableEq, Repr

inductive RedisErrorKind
  | parse
  | authenticationFailed
  | unexpectedReturnType
  | invalidClientConfig
  | io
  | client
  | extension
  | masterNameNotFoundBySentinel
  | noValidReplicasFoundBySentinel
  | emptySentinelList
  | clusterConnectionNotFound
  | resp3NotSupported
  | server (kind : RedisServerErrorKind)
  deriving DecidableEq, Repr

inductive RedisTlsFailure
  | caUntrusted
  | hostnameMismatch
  deriving DecidableEq, Repr

/-- The errors of the drivers. The texts they carry reach no decision and are left out, as
are the parts of an SQL or Redis error that the service does not look at: `mySqlDatabase` has
the public code of the server's reply, if it has one, and `mySql` is every other SQL error. -/
inductive DriverError
  | invalidConfig (driver : DriverKind)
  | unavailable (driver : DriverKind)
  | timeout (driver : DriverKind)
  | mySqlDatabase (code : Option MySqlPublicErrorCode)
  | mySql
  | mySqlServer (code : MySqlPublicErrorCode)
  | redis (kind : RedisErrorKind)
  | redisTls (failure : RedisTlsFailure)
  | redisKeyMissing
  | redisKeyTypeChanged
  | redisParse
  | preparedStatementUnsupported (sessionHealthy : Bool)
  | invalidCatalogRequest
  | unsupported (driver : DriverKind) (operation : Text)
  deriving DecidableEq, Repr

def DriverError.mysqlPublicCode : DriverError → Option MySqlPublicErrorCode
  | .mySqlServer code => some code
  | .mySqlDatabase code => code
  | _ => none

def DriverError.isMysqlPermissionDenied (error : DriverError) : Bool :=
  error.mysqlPublicCode.any fun code =>
    [1044, 1142, 1143, 1227, 1370, 1419].contains code.errno

def DriverError.isMysqlAuthenticationFailed (error : DriverError) : Bool :=
  error.mysqlPublicCode.any fun code => code.errno == 1045

inductive SecretError
  | missingEnv (name : Text)
  | emptyEnv (name : Text)
  | invalidSessionIntent
  | replacementRequired
  | sessionCredentialRequired
  | storeUnavailable
  deriving DecidableEq, Repr

inductive ServiceError
  | config (error : ConfigError)
  | secret (error : SecretError)
  | driver (error : DriverError)
  | connectionAuthenticationFailed (code : PublicCode)
  | unknownProfile (profileId : ProfileId)
  | languageMismatch (driver : DriverKind) (actual : QueryLanguage)
  | driverMismatch (expected actual : DriverKind)
  | invalidRequest (code : PublicCode)
  | invalidRowLimit
  | invalidProfile (error : ProfileValidationError)
  | profileIdConflict (draftId : DraftId) (operationId : OperationId)
  | profileStale (profileId : ProfileId) (operationId : OperationId)
  | draftCredentialRequired (draftId : DraftId) (operationId : OperationId) (code : PublicCode)
  | configTaskFailed
  | mutationLaneClosed
  | catalogTokenKeyUnavailable
  | postCommitObservation (commitState : CommitState) (source : ConfigError)
  | configUncertain
  /-- A panic of the call, which then returns nothing. -/
  | panicked
  deriving DecidableEq, Repr

/-! ## Sessions -/

structure ConnectionFingerprint where
  driver : DriverKind
  host : Text
  port : Nat
  database : Option Text
  username : Option Text
  tls : TlsMode
  credentialMode : CredentialMode
  secretEnv : Option Text
  /-- The components of the path, which is what fingerprints compare of it. -/
  redisCaFile : Option (List Text)
  deriving DecidableEq, Repr

def ConnectionFingerprint.from (profile : ConnectionProfile) : ConnectionFingerprint where
  driver := profile.driver
  host := profile.host
  port := profile.port
  database := profile.database
  username := profile.username
  tls := profile.tls
  credentialMode := profile.credentialMode
  secretEnv := profile.secretEnv
  redisCaFile := profile.redisTls.caFile.map PathBuf.components

/-- One established connection. The number tells two connections apart; the profile, the
secret and the generation are those it was dialled with. -/
structure Handle where
  serial : Nat
  profile : ConnectionProfile
  secret : Option Text
  profileGeneration : ProfileGeneration
  deriving DecidableEq, Repr

structure CachedSessionIdentity where
  profileGeneration : ProfileGeneration
  sessionGeneration : SessionGeneration
  connectionFingerprint : ConnectionFingerprint
  deriving DecidableEq, Repr

structure CachedSession extends CachedSessionIdentity where
  handle : Handle
  deriving DecidableEq, Repr

def CachedSession.identity (cached : CachedSession) : CachedSessionIdentity :=
  cached.toCachedSessionIdentity

structure SessionLease where
  profileId : ProfileId
  profile : ConnectionProfile
  identity : CachedSessionIdentity
  handle : Handle
  deriving DecidableEq, Repr

inductive SessionDisposition
  | keep
  | evict
  deriving DecidableEq, Repr

def SessionDisposition.forDriverError : DriverError → SessionDisposition
  | .mySqlDatabase _ | .mySqlServer _ => .keep
  | .redis (.server _) => .keep
  | .preparedStatementUnsupported sessionHealthy => if sessionHealthy then .keep else .evict
  | .invalidCatalogRequest => .keep
  | .redisKeyMissing | .redisKeyTypeChanged => .keep
  | .invalidConfig _ | .unavailable _ | .timeout _ | .mySql | .redis _ | .redisParse | .redisTls _
  | .unsupported _ _ => .evict

/-! ## The state -/

abbrev SessionSecret := Text

inductive SessionSecretUpdate
  | keep
  | replace (secret : SessionSecret)
  | clear
  deriving DecidableEq, Repr

abbrev ProfileMap (β : Type) := AList fun _ : ProfileId => β

structure ObservedState where
  config : Config
  sourceVersion : ConfigSourceVersion
  generations : ProfileMap ProfileGeneration
  tombstones : ProfileMap ProfileGeneration

/-- The service, with the connections that were opened and those that were closed. -/
structure ApplicationService where
  observed : ObservedState
  sessions : ProfileMap CachedSession
  configUncertain : Bool
  nextGeneration : Nat
  nextSessionGeneration : Nat
  sessionSecrets : ProfileMap SessionSecret
  connections : List Handle
  closed : List Handle

/-- `from_validated_loaded`: the generations of the profiles in their order, from 1 on. -/
def initialGenerations (profiles : List ConnectionProfile) :
    ProfileMap ProfileGeneration × Nat :=
  profiles.foldl (fun acc profile => (acc.1.insert profile.id acc.2, acc.2 + 1)) (∅, 1)

def ApplicationService.initial (loaded : LoadedConfig) : ApplicationService where
  observed :=
    ⟨loaded.config, loaded.sourceVersion, (initialGenerations loaded.config.profiles).1, ∅⟩
  sessions := ∅
  configUncertain := false
  nextGeneration := (initialGenerations loaded.config.profiles).2
  nextSessionGeneration := 1
  sessionSecrets := ∅
  connections := []
  closed := []

/-- Where the generation of a request is the current one of its profile. -/
def ApplicationService.generationIs (s : ApplicationService) (profileId : ProfileId)
    (generation : ProfileGeneration) : Bool :=
  s.observed.generations.lookup profileId == some generation

/-- The `is_current` of `session_for`. -/
def ApplicationService.isCurrent (s : ApplicationService) (profile : ConnectionProfile)
    (generation : ProfileGeneration) : Bool :=
  s.generationIs profile.id generation && s.observed.config.profiles.any (· == profile)

def observedProfile (config : Config) (profileId : ProfileId) : Option ConnectionProfile :=
  config.profiles.find? fun profile => profile.id == profileId

/-! ## Answers and events -/

/-- What the outside world says to a step. A step reads the part that it asked for; `ρ` is
the type of what a driver returns. -/
structure Answer (ρ : Type) where
  connect : Except DriverError Unit
  reply : Except DriverError ρ
  validateCaFile : PathBuf → Except ProfileValidationError Unit
  supportsRedisTls : Bool
  resolveEnvironment : Text → Except SecretError SessionSecret
  catalogTokenKey : Bool
  loadPath : Option LoadedConfig
  mutatePath : ConfigMutation → MigrationConsent → Option (Except ConfigError MutationOutcome)

/-- What is recorded of a step, for the statements only: a lease that was handed out to a request
of a generation, an observation, a new ledger or the fence in its place, a secret that was read
for a connection or changed for a profile, what the environment answered for a draft, and an
attempt to connect. -/
inductive Event
  | leased (generation : ProfileGeneration) (lease : SessionLease)
  | observed (profileId : ProfileId) (generation : ProfileGeneration)
  | published
  | fenced
  | resolved (profileId : ProfileId)
  | answered (name : Text) (found : Except SecretError SessionSecret)
  | dialled (profile : ConnectionProfile) (secret : Option SessionSecret)
      (generation : ProfileGeneration)
  | stored (profileId : ProfileId) (update : SessionSecretUpdate)
  deriving DecidableEq, Repr

abbrev Op (ρ α : Type) := Task ApplicationService (Answer ρ) Event ServiceError α

variable {ρ : Type}

/-! ## Lock sections -/

def isConfigUncertain : Op ρ Bool := .step fun _ s => ⟨s, .ok s.configUncertain, none⟩

def ensureConfigCertain : Op ρ Unit :=
  .step fun _ s => ⟨s, if s.configUncertain then .error .configUncertain else .ok (), none⟩

def ensureGeneration (profileId : ProfileId) (expected : ProfileGeneration)
    (operationId : OperationId) : Op ρ Unit :=
  .step fun _ s =>
    ⟨s, if s.generationIs profileId expected then .ok ()
      else .error (.profileStale profileId operationId), none⟩

def profile (profileId : ProfileId) : Op ρ ConnectionProfile :=
  .step fun _ s =>
    ⟨s, match observedProfile s.observed.config profileId with
      | some profile => .ok profile
      | none => .error (.unknownProfile profileId), none⟩

def profileWithGeneration (profileId : ProfileId) :
    Op ρ (ConnectionProfile × ProfileGeneration) :=
  .step fun _ s =>
    ⟨s, match observedProfile s.observed.config profileId,
          s.observed.generations.lookup profileId with
      | some profile, some generation => .ok (profile, generation)
      | _, _ => .error (.unknownProfile profileId), none⟩

def ensureSessionObservation (profileId : ProfileId) (generation : ProfileGeneration)
    (operationId : OperationId) : Op ρ Unit :=
  .step fun _ s =>
    ⟨s, if s.configUncertain then .error .configUncertain
      else if s.generationIs profileId generation then .ok ()
      else .error (.profileStale profileId operationId),
      some (.observed profileId generation)⟩

def allocateSessionGeneration : Op ρ SessionGeneration :=
  .step fun _ s =>
    ⟨{ s with nextSessionGeneration := s.nextSessionGeneration + 1 },
      .ok s.nextSessionGeneration, none⟩

/-- `handle.close()`, whose result is dropped everywhere. -/
def close (handle : Handle) : Op ρ Unit :=
  .step fun _ s => ⟨{ s with closed := handle :: s.closed }, .ok (), none⟩

def cachedSessionIdentity (profileId : ProfileId) : Op ρ (Option CachedSessionIdentity) :=
  .step fun _ s => ⟨s, .ok ((s.sessions.lookup profileId).map (·.identity)), none⟩

def CachedSession.isExactly (cached : CachedSession) (profileGeneration : ProfileGeneration)
    (sessionGeneration : SessionGeneration) : Bool :=
  cached.profileGeneration == profileGeneration && cached.sessionGeneration == sessionGeneration

def takeCachedSessionExact (profileId : ProfileId) (profileGeneration : ProfileGeneration)
    (sessionGeneration : SessionGeneration) : Op ρ (Option Handle) :=
  .step fun _ s =>
    match s.sessions.lookup profileId with
    | some cached =>
        if cached.isExactly profileGeneration sessionGeneration then
          ⟨{ s with sessions := s.sessions.erase profileId }, .ok (some cached.handle), none⟩
        else ⟨s, .ok none, none⟩
    | none => ⟨s, .ok none, none⟩

def evictCachedSessionExact (profileId : ProfileId) (profileGeneration : ProfileGeneration)
    (sessionGeneration : SessionGeneration) : Op ρ Bool := do
  let removed ← takeCachedSessionExact profileId profileGeneration sessionGeneration
  match removed with
  | some removed =>
      close removed
      return true
  | none => return false

def evictCachedSessionProfileGeneration (profileId : ProfileId)
    (profileGeneration : ProfileGeneration) : Op ρ Bool := do
  let identity ← cachedSessionIdentity profileId
  match identity with
  | some identity =>
      if identity.profileGeneration = profileGeneration then
        evictCachedSessionExact profileId profileGeneration identity.sessionGeneration
      else return false
  | none => return false

def retagCachedSessionExact (profileId : ProfileId) (expected : CachedSessionIdentity)
    (newProfileGeneration : ProfileGeneration) (newFingerprint : ConnectionFingerprint) :
    Op ρ Bool :=
  .step fun _ s =>
    match s.sessions.lookup profileId with
    | none => ⟨s, .ok false, none⟩
    | some cached =>
        if cached.identity != expected || cached.connectionFingerprint != newFingerprint then
          ⟨s, .ok false, none⟩
        else
          let retagged : CachedSession := { cached with profileGeneration := newProfileGeneration }
          ⟨{ s with sessions := s.sessions.insert profileId retagged }, .ok true, none⟩

end Dbotter.Service
