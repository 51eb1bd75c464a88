import Dbotter.Service.Mutations

/-!
The calls of the service: profile mutations, reloads, disconnects and shutdown, and the pool
of all calls that may run at the same time.
-/

namespace Dbotter.Service
open Dbotter.Utf8 Dbotter.Execution Dbotter.Configuration Dbotter.Program

variable {ρ α ε : Type}

/-- The permit of the mutation lane is held by the body and given back at its end. -/
def withLane (body : Task ApplicationService (Answer ρ) Event ε α) :
    Task ApplicationService (Answer ρ) Event ε α := do
  .lane
  let result ← body.attempt
  .unlane
  .ofExcept result

def checkDraft (draft : ConnectionDraft) : Op ρ Unit :=
  .step fun answer s =>
    ⟨s, (validateConnectionDraft answer.validateCaFile draft).mapError .invalidProfile, none⟩

/-- A reconciliation that finds the configuration uncertain puts up the fence. -/
def reconcile (config : Config) (identity : MutationIdentity) :
    Mutation ρ ReconcileMutationOutcome := do
  match ← (reconcileAfterMutation config identity).attempt with
  | .ok reconciled => return reconciled
  | .error .configUncertain => runtimeMutationFailure .configUncertain
  | .error error => .fail { error }

/-! ## Creating -/

def createMutation (request : CreateProfileRequest) : Mutation ρ (ConfigMutation × ConnectionProfile) :=
  match request.explicitId with
  | some profileId => do
      lift (.ofExcept ((validateProfileId profileId).mapError .invalidProfile))
      let profile : ConnectionProfile := ⟨request.draft, profileId⟩
      return (.create profile, profile)
  | none =>
      let baseId := slugifyProfileId request.draft.name
      let profile : ConnectionProfile := ⟨request.draft, baseId⟩
      return (.createAuto baseId profile, profile)

/-- An id that is taken is a conflict where the id was asked for. -/
def createWriteFailure (request : CreateProfileRequest) (failure : RuntimeMutationFailure) :
    RuntimeMutationFailure :=
  match failure.error with
  | .config (.profileAlreadyExists _) =>
      if request.explicitId.isSome then
        { error := .profileIdConflict request.draftId request.operationId }
      else failure
  | _ => failure

/-- The cleanup is applied at once unless the caller defers it. -/
def settleCleanup (deferCleanup : Bool) (cleanup : DeferredRuntimeCleanup) :
    Mutation ρ DeferredRuntimeCleanup :=
  if deferCleanup then return cleanup
  else do
    lift (applyDeferredCleanup cleanup)
    return {}

def createProfileInner (request : CreateProfileRequest) (deferCleanup : Bool) :
    Mutation ρ RuntimeMutationOutcome := do
  lift ensureConfigCertain
  lift (checkDraft request.draft)
  lift (.ofExcept ((validateCreateSecretUpdate request.draft.credentialMode
    request.secretUpdate).mapError fun _ => invalidSessionIntentError))
  withLane do
    lift ensureConfigCertain
    let (mutation, expectedProfile) ← createMutation request
    let outcome ← (writeConfig mutation request.migrationConsent).mapError
      (createWriteFailure request)
    match outcome.affectedProfileId with
    | none => .fail { error := .configTaskFailed }
    | some profileId =>
        if request.explicitId.any (· != profileId) then runtimeMutationFailure .configUncertain
        else if observedProfile outcome.loaded.config profileId !=
            some { expectedProfile with id := profileId } then
          runtimeMutationFailure .configUncertain
        else do
          let reconciled ← reconcile outcome.loaded.config (.create profileId)
          let cleanup ← settleCleanup deferCleanup { reconciled.cleanup with
            secretUpdates := reconciled.cleanup.secretUpdates ++ [(profileId, request.secretUpdate)] }
          return { mutation := ⟨request.operationId, profileId, reconciled.profileGeneration,
            outcome.state, outcome.migrationBackup⟩, cleanup }

/-! ## Updating -/

inductive UpdateSessionPolicy
  | legacy
  | defer
  deriving DecidableEq

/-- A profile that is gone or changed makes the request stale. -/
def checkedWriteFailure (profileId : ProfileId) (operationId : OperationId)
    (failure : RuntimeMutationFailure) : RuntimeMutationFailure :=
  match failure.error with
  | .config (.profileMissing _) | .config .externalChange =>
      { error := .profileStale profileId operationId }
  | _ => failure

def secretPreservesConnection (updated : ConnectionProfile) (update : SessionSecretUpdate) :
    Bool :=
  match updated.credentialMode with
  | .session => update == .keep
  | .none | .environment => true

def settleUpdate (sessionPolicy : UpdateSessionPolicy)
    (deferredSession : Option DeferredSessionFence) (cleanup : DeferredRuntimeCleanup) :
    Mutation ρ (Option DeferredSessionFence × DeferredRuntimeCleanup) :=
  match sessionPolicy with
  | .defer => return (deferredSession, cleanup)
  | .legacy => do
      match deferredSession with
      | some fence =>
          let _ ← lift (resolveDeferredSession fence true)
          lift (applyDeferredCleanup cleanup)
          return (none, {})
      | none =>
          lift (applyDeferredCleanup cleanup)
          return (none, {})

def updateProfileInner (request : UpdateProfileRequest) (sessionPolicy : UpdateSessionPolicy) :
    Mutation ρ RuntimeMutationOutcome := do
  lift ensureConfigCertain
  lift (checkDraft request.draft)
  withLane do
    lift ensureConfigCertain
    lift (ensureGeneration request.profileId request.expectedGeneration request.operationId)
    let expectedProfile ← lift (profile request.profileId)
    let hasCurrent ← lift (hasCurrentSecret request.profileId)
    lift (.ofExcept ((validateUpdateSecret expectedProfile request.draft.credentialMode
      request.secretUpdate hasCurrent).mapError fun _ => invalidSessionIntentError))
    let updated : ConnectionProfile := ⟨request.draft, request.profileId⟩
    let secretPreserves := secretPreservesConnection updated request.secretUpdate
    let fingerprintUnchanged :=
      ConnectionFingerprint.from expectedProfile == ConnectionFingerprint.from updated
    let retainIdleSession := secretPreserves && fingerprintUnchanged && expectedProfile == updated
    let retagEligible := secretPreserves && fingerprintUnchanged
    let outcome ← (writeConfig (.updateChecked request.profileId expectedProfile updated)
      request.migrationConsent).mapError
        (checkedWriteFailure request.profileId request.operationId)
    if outcome.affectedProfileId != some request.profileId ||
        observedProfile outcome.loaded.config request.profileId != some updated then
      runtimeMutationFailure .configUncertain
    else
      let policy := match sessionPolicy with
        | .legacy => LocalSessionPolicy.resolve retainIdleSession
        | .defer => LocalSessionPolicy.defer retagEligible
      let reconciled ← reconcile outcome.loaded.config (.update request.profileId policy)
      let (deferredSession, cleanup) ← settleUpdate sessionPolicy reconciled.deferredSession
        { reconciled.cleanup with
          secretUpdates :=
            reconciled.cleanup.secretUpdates ++ [(request.profileId, request.secretUpdate)] }
      return { mutation := ⟨request.operationId, request.profileId, reconciled.profileGeneration,
        outcome.state, outcome.migrationBackup⟩, deferredSession, cleanup }

/-! ## Deleting -/

def deleteProfileInner (request : DeleteProfileRequest) (deferCleanup : Bool) :
    Mutation ρ RuntimeMutationOutcome := do
  lift ensureConfigCertain
  withLane do
    lift ensureConfigCertain
    lift (ensureGeneration request.profileId request.expectedGeneration request.operationId)
    let expectedProfile ← lift (profile request.profileId)
    let outcome ← (writeConfig (.deleteChecked request.profileId expectedProfile)
      request.migrationConsent).mapError
        (checkedWriteFailure request.profileId request.operationId)
    if outcome.affectedProfileId != some request.profileId ||
        (observedProfile outcome.loaded.config request.profileId).isSome then
      runtimeMutationFailure .configUncertain
    else
      let reconciled ← reconcile outcome.loaded.config (.delete request.profileId)
      let cleanup ← settleCleanup deferCleanup reconciled.cleanup
      return { mutation := ⟨request.operationId, request.profileId, reconciled.profileGeneration,
        outcome.state, outcome.migrationBackup⟩, cleanup }

/-- The public mutations apply the cleanup of a failure themselves, after the lane is free. -/
def settleFailure (inner : Mutation ρ RuntimeMutationOutcome) : Op ρ ProfileMutationOutcome := do
  match ← inner.attempt with
  | .ok outcome => return outcome.mutation
  | .error failure =>
      applyDeferredCleanup failure.cleanup
      .fail failure.error

def createProfile (request : CreateProfileRequest) : Op ρ ProfileMutationOutcome :=
  settleFailure (createProfileInner request false)

def updateProfile (request : UpdateProfileRequest) : Op ρ ProfileMutationOutcome :=
  settleFailure (updateProfileInner request .legacy)

def deleteProfile (request : DeleteProfileRequest) : Op ρ ProfileMutationOutcome :=
  settleFailure (deleteProfileInner request false)

/-! ## Reloading -/

structure RuntimeReloadOutcome where
  cleanup : DeferredRuntimeCleanup
  configUncertain : Bool

def loadPathTask : Op ρ (Option LoadedConfig) :=
  .step fun answer s =>
    ⟨s, .ok (answer.loadPath.filter fun loaded => (validateConfigIdentity loaded.config).isOk),
      none⟩

/-- The section that computes the reported difference reads the state only. -/
def reloadConfigurationForRuntime : Op ρ RuntimeReloadOutcome :=
  withLane do
    match ← loadPathTask with
    | none =>
        let cleanup ← enterConfigUncertainDeferred
        return ⟨cleanup, true⟩
    | some loaded =>
        let cleanup ← replaceLoadedConfig loaded
        setConfigUncertain false
        return ⟨cleanup, false⟩

def reloadConfiguration : Op ρ Unit := do
  let outcome ← reloadConfigurationForRuntime
  applyDeferredCleanup outcome.cleanup
  if outcome.configUncertain then .fail .configUncertain else return ()

/-! ## Credentials, disconnecting and shutting down -/

def storeSessionCredentialExact (operationId : OperationId) (profileId : ProfileId)
    (expectedGeneration : ProfileGeneration) (secret : SessionSecret) : Op ρ Unit := do
  ensureConfigCertain
  withLane do
    ensureConfigCertain
    ensureGeneration profileId expectedGeneration operationId
    let profile ← profile profileId
    if profile.credentialMode ≠ .session then
      .fail (.invalidProfile (.ofField .credentialMode))
    else applySecret profileId (.replace secret)

def disconnectProfileExact (operationId : OperationId) (profileId : ProfileId)
    (expectedGeneration : ProfileGeneration)
    (expectedSessionGeneration : Option SessionGeneration) :
    Op ρ (Option CachedSessionIdentity) := do
  ensureGeneration profileId expectedGeneration operationId
  match ← cachedSessionIdentity profileId, expectedSessionGeneration with
  | none, none => return none
  | some identity, some expected =>
      if identity.sessionGeneration = expected then do
        let evicted ← evictCachedSessionExact profileId expectedGeneration expected
        if evicted then return some identity else .fail (.profileStale profileId operationId)
      else .fail (.profileStale profileId operationId)
  | _, _ => .fail (.profileStale profileId operationId)

def drainSessions : Op ρ (List Handle) :=
  .step fun _ s =>
    ⟨{ s with sessions := ∅ }, .ok (s.sessions.entries.map fun entry => entry.2.handle), none⟩

def closeAll : List Handle → Op ρ Unit
  | [] => return ()
  | handle :: handles => do
      close handle
      closeAll handles

def shutdownRuntime : Op ρ Unit := do
  let handles ← drainSessions
  let _ ← (clearAllSecrets.attempt : Op ρ (Except ServiceError Unit))
  closeAll handles

/-! ## The pool of calls -/

inductive Command
  | execute (request : ExecuteRequest)
  | check (identity : RequestIdentity)
  | loadCatalogPage (request : CatalogRequest)
  | scanRedisKeys (request : RedisScanRequest)
  | inspectRedisKey (request : RedisKeyInspectRequest)
  | acquire (identity : RequestIdentity)
  | create (request : CreateProfileRequest)
  | createForRuntime (request : CreateProfileRequest)
  | update (request : UpdateProfileRequest)
  | updateForRuntime (request : UpdateProfileRequest)
  | delete (request : DeleteProfileRequest)
  | deleteForRuntime (request : DeleteProfileRequest)
  | reload
  | reloadForRuntime
  | resolveDeferred (fence : DeferredSessionFence) (allowRetag : Bool)
  | applyCleanup (cleanup : DeferredRuntimeCleanup)
  | storeCredential (identity : RequestIdentity) (secret : SessionSecret)
  | evictExact (profileId : ProfileId) (profileGeneration : ProfileGeneration)
      (sessionGeneration : SessionGeneration)
  | evictGeneration (profileId : ProfileId) (profileGeneration : ProfileGeneration)
  | disconnect (identity : RequestIdentity) (sessionGeneration : Option SessionGeneration)
  | shutdown

/-- The saved-profile operation of a command: one that runs on a session and then observes. -/
def Command.operation : Command → Option RequestIdentity
  | .execute request => some request.identity
  | .check identity => some identity
  | .loadCatalogPage request => some request.identity
  | .scanRedisKeys request => some request.identity
  | .inspectRedisKey request => some request.identity
  | _ => none

inductive Outcome (ρ : Type)
  | operation (outcome : OperationOutcome ρ)
  | page (page : ρ)
  | lease (lease : SessionLease)
  | mutation (outcome : ProfileMutationOutcome)
  | runtimeMutation (outcome : RuntimeMutationOutcome)
  | runtimeReload (outcome : RuntimeReloadOutcome)
  | disconnected (identity : Option CachedSessionIdentity)
  | flag (value : Bool)
  | unit

inductive Failure
  | service (error : ServiceError)
  | mutation (failure : RuntimeMutationFailure)

abbrev CallTask (ρ : Type) := Task ApplicationService (Answer ρ) Event Failure (Outcome ρ)

def finishWith (wrap : α → Outcome ρ) (op : Op ρ α) : CallTask ρ :=
  (do let value ← op; return wrap value : Op ρ (Outcome ρ)).mapError .service

def finishMutation (mutation : Mutation ρ RuntimeMutationOutcome) : CallTask ρ :=
  (do let outcome ← mutation; return .runtimeMutation outcome :
    Mutation ρ (Outcome ρ)).mapError .mutation

def begin (split : Text → Option (List Text)) : Command → CallTask ρ
  | .execute request => finishWith .operation (executeAt split request)
  | .check identity =>
      finishWith .operation
        (checkAt identity.operationId identity.profileId identity.profileGeneration)
  | .loadCatalogPage request => finishWith .page (loadCatalogPage request)
  | .scanRedisKeys request => finishWith .page (scanRedisKeys request)
  | .inspectRedisKey request => finishWith .page (inspectRedisKey request)
  | .acquire identity =>
      finishWith .lease
        (acquireSessionAt identity.operationId identity.profileId identity.profileGeneration)
  | .create request => finishWith .mutation (createProfile request)
  | .createForRuntime request => finishMutation (createProfileInner request true)
  | .update request => finishWith .mutation (updateProfile request)
  | .updateForRuntime request => finishMutation (updateProfileInner request .defer)
  | .delete request => finishWith .mutation (deleteProfile request)
  | .deleteForRuntime request => finishMutation (deleteProfileInner request true)
  | .reload => finishWith (fun _ => .unit) reloadConfiguration
  | .reloadForRuntime => finishWith .runtimeReload reloadConfigurationForRuntime
  | .resolveDeferred fence allowRetag => finishWith .flag (resolveDeferredSession fence allowRetag)
  | .applyCleanup cleanup => finishWith (fun _ => .unit) (applyDeferredCleanup cleanup)
  | .storeCredential identity secret =>
      finishWith (fun _ => .unit) (storeSessionCredentialExact identity.operationId
        identity.profileId identity.profileGeneration secret)
  | .evictExact profileId profileGeneration sessionGeneration =>
      finishWith .flag (evictCachedSessionExact profileId profileGeneration sessionGeneration)
  | .evictGeneration profileId profileGeneration =>
      finishWith .flag (evictCachedSessionProfileGeneration profileId profileGeneration)
  | .disconnect identity sessionGeneration =>
      finishWith .disconnected (disconnectProfileExact identity.operationId identity.profileId
        identity.profileGeneration sessionGeneration)
  | .shutdown => finishWith (fun _ => .unit) shutdownRuntime

abbrev ServiceSystem (ρ : Type) :=
  System ApplicationService (Answer ρ) Event Failure (Outcome ρ) Command

/-- The system after a schedule of calls of a freshly loaded service. -/
def runService (split : Text → Option (List Text)) (loaded : LoadedConfig)
    (actions : List (Action (Answer ρ) Command)) : ServiceSystem ρ :=
  System.run (begin split) ⟨ApplicationService.initial loaded, none, [], []⟩ actions

end Dbotter.Service
