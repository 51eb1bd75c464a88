import Dbotter.Service.Sessions

/-!
Mutations of the configuration, reloads, the fence of an uncertain configuration, and the
cleanup of sessions and secrets that follows each of them.
-/

namespace Dbotter.Service
open Dbotter.Utf8 Dbotter.Execution Dbotter.Configuration Dbotter.Program

variable {ρ α : Type}

/-! ## Requests -/

structure CreateProfileRequest where
  draftId : DraftId
  operationId : OperationId
  explicitId : Option ProfileId
  draft : ConnectionDraft
  secretUpdate : SessionSecretUpdate
  migrationConsent : MigrationConsent

structure UpdateProfileRequest where
  profileId : ProfileId
  expectedGeneration : ProfileGeneration
  operationId : OperationId
  draft : ConnectionDraft
  secretUpdate : SessionSecretUpdate
  migrationConsent : MigrationConsent

structure DeleteProfileRequest where
  profileId : ProfileId
  expectedGeneration : ProfileGeneration
  operationId : OperationId
  migrationConsent : MigrationConsent

structure ProfileMutationOutcome where
  operationId : OperationId
  profileId : ProfileId
  profileGeneration : ProfileGeneration
  commitState : CommitState
  migrationBackup : Option ConfigPath

def validateCreateSecretUpdate : CredentialMode → SessionSecretUpdate → Except SecretError Unit
  | .none, .clear | .environment, .clear => .ok ()
  | .session, .replace _ | .session, .clear => .ok ()
  | _, _ => .error .invalidSessionIntent

def validateUpdateSecret (persisted : ConnectionProfile) (destinationMode : CredentialMode)
    (update : SessionSecretUpdate) (hasCurrent : Bool) : Except SecretError Unit :=
  match destinationMode, update with
  | .none, .clear | .environment, .clear => .ok ()
  | .session, .replace _ | .session, .clear => .ok ()
  | .session, .keep =>
      if persisted.credentialMode == .session && hasCurrent then .ok ()
      else .error .invalidSessionIntent
  | _, _ => .error .invalidSessionIntent

def invalidSessionIntentError : ServiceError := .invalidProfile (.ofField .sessionCredential)

def asciiLowercase (c : Char) : Char :=
  if 'A' ≤ c ∧ c ≤ 'Z' then Char.ofNat (c.toNat + 32) else c

/-- The loop of `slugify_profile_id`: the slug so far and whether a separator is pending. -/
def slugify (slug : Text) (separatorPending : Bool) : Text → Text
  | [] => slug
  | c :: text =>
      if isAsciiAlphanumeric c then
        slugify (slug ++ (if separatorPending && !slug.isEmpty then ['-'] else []) ++
          [asciiLowercase c]) false text
      else slugify slug (separatorPending || !slug.isEmpty) text

def slugifyProfileId (displayName : Text) : Text :=
  let slug := slugify [] false displayName
  if slug.isEmpty then "connection".toList else slug

/-! ## Deferred work -/

structure DeferredCleanupTarget where
  profileId : ProfileId
  previousGeneration : ProfileGeneration
  session : Option CachedSessionIdentity
  clearSecret : Bool

structure DeferredRuntimeCleanup where
  targets : List DeferredCleanupTarget := []
  secretUpdates : List (ProfileId × SessionSecretUpdate) := []
  clearAllSecrets : Bool := false
  retainSecretProfiles : Option (List ProfileId) := none

structure DeferredSessionFence where
  profileId : ProfileId
  previous : CachedSessionIdentity
  nextProfileGeneration : ProfileGeneration
  nextFingerprint : ConnectionFingerprint
  retagEligible : Bool

structure RuntimeMutationFailure where
  error : ServiceError
  cleanup : DeferredRuntimeCleanup := {}

structure RuntimeMutationOutcome where
  mutation : ProfileMutationOutcome
  deferredSession : Option DeferredSessionFence := none
  cleanup : DeferredRuntimeCleanup

abbrev Mutation (ρ α : Type) :=
  Task ApplicationService (Answer ρ) Event RuntimeMutationFailure α

/-- `?` on an error of the service: nothing is left to clean up. -/
def lift (op : Op ρ α) : Mutation ρ α := op.mapError fun error => { error }

/-! ## Secrets -/

def SessionSecretUpdate.apply (profileId : ProfileId) (secrets : ProfileMap SessionSecret) :
    SessionSecretUpdate → ProfileMap SessionSecret
  | .keep => secrets
  | .replace secret => secrets.insert profileId secret
  | .clear => secrets.erase profileId

def applySecret (profileId : ProfileId) (update : SessionSecretUpdate) : Op ρ Unit :=
  .step fun _ s =>
    ⟨{ s with sessionSecrets := update.apply profileId s.sessionSecrets }, .ok (),
      some (.stored profileId update)⟩

def clearAllSecrets : Op ρ Unit :=
  .step fun _ s => ⟨{ s with sessionSecrets := ∅ }, .ok (), none⟩

def eraseAll (secrets : ProfileMap SessionSecret) (keys : List ProfileId) :
    ProfileMap SessionSecret :=
  keys.foldl (fun secrets key => secrets.erase key) secrets

def retainSecrets (profileIds : List ProfileId) : Op ρ Unit :=
  .step fun _ s =>
    ⟨{ s with
        sessionSecrets := eraseAll s.sessionSecrets
          (s.sessionSecrets.keys.filter fun key => !profileIds.contains key) }, .ok (), none⟩

def hasCurrentSecret (profileId : ProfileId) : Op ρ Bool :=
  .step fun _ s => ⟨s, .ok (s.sessionSecrets.lookup profileId).isSome, none⟩

/-! ## Cleanup -/

def evictTargets : List DeferredCleanupTarget → Op ρ Unit
  | [] => return ()
  | target :: targets =>
      match target.session with
      | some identity => do
          let _ ← evictCachedSessionExact target.profileId identity.profileGeneration
            identity.sessionGeneration
          evictTargets targets
      | none => evictTargets targets

def clearTargetSecrets : List DeferredCleanupTarget → Op ρ Unit
  | [] => return ()
  | target :: targets =>
      if target.clearSecret then do
        applySecret target.profileId .clear
        clearTargetSecrets targets
      else clearTargetSecrets targets

def applySecretUpdates : List (ProfileId × SessionSecretUpdate) → Op ρ Unit
  | [] => return ()
  | (profileId, update) :: updates => do
      applySecret profileId update
      applySecretUpdates updates

def applyDeferredCleanup (cleanup : DeferredRuntimeCleanup) : Op ρ Unit := do
  evictTargets cleanup.targets
  clearTargetSecrets cleanup.targets
  if cleanup.clearAllSecrets then clearAllSecrets
  else
    match cleanup.retainSecretProfiles with
    | some profileIds => do
        retainSecrets profileIds
        applySecretUpdates cleanup.secretUpdates
    | none => applySecretUpdates cleanup.secretUpdates

def resolveDeferredSession (fence : DeferredSessionFence) (allowRetag : Bool) : Op ρ Bool :=
  if allowRetag && fence.retagEligible then
    retagCachedSessionExact fence.profileId fence.previous fence.nextProfileGeneration
      fence.nextFingerprint
  else do
    let _ ← evictCachedSessionExact fence.profileId fence.previous.profileGeneration
      fence.previous.sessionGeneration
    return false

/-! ## The fence of an uncertain configuration -/

def setConfigUncertain (value : Bool) : Op ρ Unit :=
  .step fun _ s => ⟨{ s with configUncertain := value }, .ok (), none⟩

/-- A new generation for every key, in the order of the keys. -/
def reallocate (generations : ProfileMap ProfileGeneration) (next : Nat) :
    ProfileMap ProfileGeneration × Nat :=
  generations.keys.foldl (fun acc key => (acc.1.insert key acc.2, acc.2 + 1)) (generations, next)

/-- The section under the write lock. -/
def bumpGenerations : Op ρ (List DeferredCleanupTarget) :=
  .step fun _ s =>
    let targets := s.observed.generations.entries.map fun entry =>
      ⟨entry.1, entry.2, (s.sessions.lookup entry.1).map (·.identity), true⟩
    let (generations, next) := reallocate s.observed.generations s.nextGeneration
    ⟨{ s with observed := { s.observed with generations }, nextGeneration := next },
      .ok targets, some .fenced⟩

def enterConfigUncertainDeferred : Op ρ DeferredRuntimeCleanup := do
  setConfigUncertain true
  let targets ← bumpGenerations
  return { targets, clearAllSecrets := true }

def runtimeMutationFailure (error : ServiceError) : Mutation ρ α := do
  let cleanup ← lift enterConfigUncertainDeferred
  .fail { error, cleanup }

structure ObservedMutationOutcome where
  state : CommitState
  loaded : LoadedConfig
  migrationBackup : Option ConfigPath
  affectedProfileId : Option Text

def mutatePathTask (mutation : ConfigMutation) (consent : MigrationConsent) :
    Op ρ MutationOutcome :=
  .step fun answer s =>
    ⟨s, match answer.mutatePath mutation consent with
      | none => .error .configTaskFailed
      | some result => result.mapError .config, none⟩

def writeConfig (mutation : ConfigMutation) (consent : MigrationConsent) :
    Mutation ρ ObservedMutationOutcome := do
  let outcome ← lift (mutatePathTask mutation consent)
  match outcome.observation with
  | .observed loaded =>
      return ⟨outcome.state, loaded, outcome.migrationBackup, outcome.affectedProfileId⟩
  | .failed commitState source => do
      let cleanup ← lift enterConfigUncertainDeferred
      .fail { error := .postCommitObservation commitState source, cleanup }

/-! ## Reconciling with a new configuration -/

/-- The profiles by id, as collected into a map: a later duplicate wins. -/
def profileMap (profiles : List ConnectionProfile) : ProfileMap ConnectionProfile :=
  profiles.foldl (fun byId profile => byId.insert profile.id profile) ∅

/-- What the section under the read lock copies before a reconciliation. -/
structure Snapshot where
  profiles : ProfileMap ConnectionProfile
  generations : ProfileMap ProfileGeneration
  tombstones : ProfileMap ProfileGeneration
  sessions : ProfileMap CachedSession

def readSnapshot : Op ρ Snapshot :=
  .step fun _ s =>
    ⟨s, .ok ⟨profileMap s.observed.config.profiles, s.observed.generations,
      s.observed.tombstones, s.sessions⟩, none⟩

def Snapshot.session (snapshot : Snapshot) (profileId : ProfileId) :
    Option CachedSessionIdentity :=
  (snapshot.sessions.lookup profileId).map (·.identity)

/-- The generation of one profile: the previous one where the profile is unchanged. -/
def nextGenerationFor (snapshot : Snapshot) (unchanged : Bool) (profileId : ProfileId)
    (next : Nat) : ProfileGeneration × Nat :=
  if unchanged then
    match snapshot.generations.lookup profileId with
    | some generation => (generation, next)
    | none => (next, next + 1)
  else (next, next + 1)

/-- The loop over the new profiles. -/
def assignGenerations (snapshot : Snapshot) (unchanged : ConnectionProfile → Bool)
    (profiles : List ConnectionProfile) (next : Nat) : ProfileMap ProfileGeneration × Nat :=
  profiles.foldl (fun acc profile =>
    let (generation, next) := nextGenerationFor snapshot (unchanged profile) profile.id acc.2
    (acc.1.insert profile.id generation, next)) (∅, next)

/-- Tombstones for the ids that disappeared. -/
def buryMissing (tombstones : ProfileMap ProfileGeneration) (missing : List ProfileId)
    (next : Nat) : ProfileMap ProfileGeneration × Nat :=
  missing.foldl (fun acc profileId => (acc.1.insert profileId acc.2, acc.2 + 1))
    (tombstones, next)

/-- The counter is advanced by the allocations of one reconciliation. Only the holder of the
mutation lane allocates, so they are one step. -/
def allocateGenerations {β : Type} (f : Nat → β × Nat) : Op ρ β :=
  .step fun _ s => ⟨{ s with nextGeneration := (f s.nextGeneration).2 },
    .ok (f s.nextGeneration).1, none⟩

def replaceObserved (observed : ObservedState) : Op ρ Unit :=
  .step fun _ s => ⟨{ s with observed }, .ok (), some .published⟩

/-- Where a previous profile is gone or has another content. -/
def Snapshot.changed (snapshot : Snapshot) (next : ProfileMap ConnectionProfile)
    (profileId : ProfileId) : Bool :=
  next.lookup profileId != snapshot.profiles.lookup profileId

def replaceLoadedConfig (loaded : LoadedConfig) : Op ρ DeferredRuntimeCleanup := do
  let snapshot ← readSnapshot
  let nextProfiles := profileMap loaded.config.profiles
  let missing := snapshot.profiles.keys.filter fun profileId =>
    (nextProfiles.lookup profileId).isNone
  let (generations, tombstones) ← allocateGenerations fun next =>
    let (generations, next) := assignGenerations snapshot
      (fun profile => !snapshot.changed nextProfiles profile.id) loaded.config.profiles next
    let (tombstones, next) := buryMissing snapshot.tombstones missing next
    ((generations, tombstones), next)
  replaceObserved ⟨loaded.config, loaded.sourceVersion, generations, tombstones⟩
  let targets := (snapshot.profiles.keys.filter (snapshot.changed nextProfiles)).filterMap
    fun profileId => (snapshot.generations.lookup profileId).map fun previousGeneration =>
      ⟨profileId, previousGeneration, snapshot.session profileId, true⟩
  return { targets, retainSecretProfiles := some nextProfiles.keys }

inductive LocalSessionPolicy
  | resolve (retagEligible : Bool)
  | defer (retagEligible : Bool)

inductive MutationIdentity
  | create (profileId : ProfileId)
  | update (profileId : ProfileId) (sessionPolicy : LocalSessionPolicy)
  | delete (profileId : ProfileId)

def MutationIdentity.profileId : MutationIdentity → ProfileId
  | .create profileId | .update profileId _ | .delete profileId => profileId

def MutationIdentity.deferredRetagEligibility : MutationIdentity → Option Bool
  | .update _ (.resolve retagEligible) | .update _ (.defer retagEligible) => some retagEligible
  | .create _ | .delete _ => none

def MutationIdentity.isDelete : MutationIdentity → Bool
  | .delete _ => true
  | _ => false

def MutationIdentity.isCreate : MutationIdentity → Bool
  | .create _ => true
  | _ => false

/-- One turn of the cleanup loop: what becomes of a previous profile. -/
def reconcileTarget (snapshot : Snapshot) (identity : MutationIdentity)
    (generations : ProfileMap ProfileGeneration) (next : ProfileMap ConnectionProfile)
    (profileId : ProfileId) (previousGeneration : ProfileGeneration) :
    Option DeferredSessionFence × DeferredCleanupTarget :=
  let isLocalTarget := profileId == identity.profileId
  let clearSecret := !isLocalTarget || identity.isDelete
  match (if isLocalTarget then identity.deferredRetagEligibility else none) with
  | none =>
      (none, ⟨profileId, previousGeneration, snapshot.session profileId, clearSecret⟩)
  | some retagEligible =>
      -- the session is taken out of the cleanup, whether or not a fence is made of it
      match snapshot.session profileId, generations.lookup profileId, next.lookup profileId with
      | some previous, some nextProfileGeneration, some nextProfile =>
          (some ⟨profileId, previous, nextProfileGeneration, .from nextProfile, retagEligible⟩,
            ⟨profileId, previousGeneration, none, clearSecret⟩)
      | _, _, _ => (none, ⟨profileId, previousGeneration, none, clearSecret⟩)

/-- The cleanup loop over the previous profiles. -/
def reconcileTargets (snapshot : Snapshot) (identity : MutationIdentity)
    (generations : ProfileMap ProfileGeneration) (next : ProfileMap ConnectionProfile) :
    List ProfileId → Except ServiceError (Option DeferredSessionFence × List DeferredCleanupTarget)
  | [] => .ok (none, [])
  | profileId :: profileIds =>
      let changed := snapshot.changed next profileId ||
        (profileId == identity.profileId && !identity.isCreate)
      if !changed then reconcileTargets snapshot identity generations next profileIds
      else
        match snapshot.generations.lookup profileId with
        | none => .error .configUncertain
        | some previousGeneration => do
            let (fence, target) :=
              reconcileTarget snapshot identity generations next profileId previousGeneration
            let (fences, targets) ←
              reconcileTargets snapshot identity generations next profileIds
            return (fence.or fences, target :: targets)

structure ReconcileMutationOutcome where
  profileGeneration : ProfileGeneration
  deferredSession : Option DeferredSessionFence
  cleanup : DeferredRuntimeCleanup

def reconcileAfterMutation (config : Config) (identity : MutationIdentity) :
    Op ρ ReconcileMutationOutcome := do
  let snapshot ← readSnapshot
  let nextProfiles := profileMap config.profiles
  let localProfileId := identity.profileId
  let (generations, tombstones) ← allocateGenerations fun next =>
    let (generations, next) := assignGenerations snapshot
      (fun profile => !(profile.id == localProfileId && !identity.isDelete) &&
        snapshot.profiles.lookup profile.id == some profile) config.profiles next
    let (tombstones, next) :=
      buryMissing snapshot.tombstones (if identity.isDelete then [localProfileId] else []) next
    ((generations, tombstones), next)
  let (deferredSession, targets) ← .ofExcept
    (reconcileTargets snapshot identity generations nextProfiles snapshot.profiles.keys)
  let affectedGeneration :=
    if identity.isDelete then tombstones.lookup localProfileId
    else generations.lookup localProfileId
  match affectedGeneration with
  | none => .fail .configUncertain
  | some profileGeneration => do
      replaceObserved ⟨config, .v2, generations, tombstones⟩
      return ⟨profileGeneration, deferredSession,
        { targets, retainSecretProfiles := some nextProfiles.keys }⟩

end Dbotter.Service
