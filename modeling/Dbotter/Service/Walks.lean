import Dbotter.Service.Calls

/-!
Rules for a guarantee that the lock sections keep. What the sections keep, every mutation, reload,
cleanup and eviction keeps; the operations on a session are left to the guarantee at hand.
-/

namespace Dbotter.Service
open Dbotter.Utf8 Dbotter.Execution Dbotter.Configuration Dbotter.Program

variable {ρ α Γ : Type}

variable {G : Γ → ApplicationService → Option Event → ApplicationService → Γ → Prop}

theorem withLane_steady {ε : Type} {body : Task ApplicationService (Answer ρ) Event ε α}
    (h : body.Steady G) : Task.Steady G (withLane body) := by
  apply Task.Steady.bind .lane
  intro _
  apply Task.Steady.bind h.attempt
  intro result
  exact .bind .unlane fun _ => .done _

theorem createMutation_steady (request : CreateProfileRequest) :
    Task.Steady G (createMutation request : Mutation ρ (ConfigMutation × ConnectionProfile)) := by
  unfold createMutation
  split
  · exact .bind (Task.Steady.done _).mapError fun _ => .done _
  · exact .done _

theorem finishWith_steady {wrap : α → Outcome ρ} {op : Op ρ α} (h : op.Steady G) :
    Task.Steady G (finishWith wrap op) :=
  (Task.Steady.bind h fun _ => .done _).mapError

theorem finishMutation_steady {inner : Mutation ρ RuntimeMutationOutcome} (h : inner.Steady G) :
    Task.Steady G (finishMutation inner) :=
  (Task.Steady.bind h fun _ => .done _).mapError

/-- A step that leaves the sessions and the connections as they are. -/
structure LeavesSessions (s : ApplicationService) (e : Option Event) (s' : ApplicationService) :
    Prop where
  sessions : s'.sessions = s.sessions
  nextSessionGeneration : s'.nextSessionGeneration = s.nextSessionGeneration
  connections : s'.connections = s.connections
  closed : s'.closed = s.closed
  event : ∀ g lease, e ≠ some (.leased g lease)

/-- The sections keep `G` and give the ghost value back. -/
structure LockSections (ρ : Type)
    (G : Γ → ApplicationService → Option Event → ApplicationService → Γ → Prop) : Prop where
  quiet : ∀ γ s e s', LeavesSessions s e s' → G γ s e s' γ
  evict : ∀ p g n, (evictCachedSessionExact p g n : Op ρ Bool).Steady G
  retag : ∀ p expected g f, (retagCachedSessionExact p expected g f : Op ρ Bool).Steady G
  shutdown : (shutdownRuntime : Op ρ Unit).Steady G

namespace LockSections

section
variable (S : LockSections ρ G)
include S

theorem quiet_steady {ε : Type}
    {f : Answer ρ → ApplicationService → Effect ApplicationService Event (Except ε α)}
    (h : ∀ i s, LeavesSessions s (f i s).event (f i s).state) :
    (Task.step f : Task ApplicationService (Answer ρ) Event ε α).Steady G :=
  .step fun γ i s => S.quiet γ s _ _ (h i s)

theorem ensureConfigCertain_steady : (ensureConfigCertain : Op ρ Unit).Steady G :=
  S.quiet_steady fun _ _ => ⟨rfl, rfl, rfl, rfl, fun _ _ h => nomatch h⟩

theorem ensureGeneration_steady (p : ProfileId) (g : ProfileGeneration) (o : OperationId) :
    (ensureGeneration p g o : Op ρ Unit).Steady G :=
  S.quiet_steady fun _ _ => ⟨rfl, rfl, rfl, rfl, fun _ _ h => nomatch h⟩

theorem profile_steady (p : ProfileId) : (profile p : Op ρ ConnectionProfile).Steady G :=
  S.quiet_steady fun _ _ => ⟨rfl, rfl, rfl, rfl, fun _ _ h => nomatch h⟩

theorem profileWithGeneration_steady (p : ProfileId) :
    (profileWithGeneration p : Op ρ (ConnectionProfile × ProfileGeneration)).Steady G :=
  S.quiet_steady fun _ _ => ⟨rfl, rfl, rfl, rfl, fun _ _ h => nomatch h⟩

theorem ensureSessionObservation_steady (p : ProfileId) (g : ProfileGeneration) (o : OperationId) :
    (ensureSessionObservation p g o : Op ρ Unit).Steady G :=
  S.quiet_steady fun _ _ => ⟨rfl, rfl, rfl, rfl, fun _ _ h => nomatch h⟩

theorem cachedSessionIdentity_steady (p : ProfileId) :
    (cachedSessionIdentity p : Op ρ (Option CachedSessionIdentity)).Steady G :=
  S.quiet_steady fun _ _ => ⟨rfl, rfl, rfl, rfl, fun _ _ h => nomatch h⟩

theorem setConfigUncertain_steady (b : Bool) : (setConfigUncertain b : Op ρ Unit).Steady G :=
  S.quiet_steady fun _ _ => ⟨rfl, rfl, rfl, rfl, fun _ _ h => nomatch h⟩

theorem applySecret_steady (p : ProfileId) (u : SessionSecretUpdate) :
    (applySecret p u : Op ρ Unit).Steady G :=
  S.quiet_steady fun _ _ => ⟨rfl, rfl, rfl, rfl, fun _ _ h => nomatch h⟩

theorem clearAllSecrets_steady : (clearAllSecrets : Op ρ Unit).Steady G :=
  S.quiet_steady fun _ _ => ⟨rfl, rfl, rfl, rfl, fun _ _ h => nomatch h⟩

theorem allocateGenerations_steady {β : Type} (f : Nat → β × Nat) :
    (allocateGenerations f : Op ρ β).Steady G :=
  S.quiet_steady fun _ _ => ⟨rfl, rfl, rfl, rfl, fun _ _ h => nomatch h⟩

theorem replaceObserved_steady (o : ObservedState) : (replaceObserved o : Op ρ Unit).Steady G :=
  S.quiet_steady fun _ _ => ⟨rfl, rfl, rfl, rfl, fun _ _ h => nomatch h⟩

theorem readSnapshot_steady : (readSnapshot : Op ρ Snapshot).Steady G :=
  S.quiet_steady fun _ _ => ⟨rfl, rfl, rfl, rfl, fun _ _ h => nomatch h⟩

theorem prepareConnection_steady (profile : ConnectionProfile) :
    (prepareConnection profile : Op ρ (Option SessionSecret)).Steady G :=
  S.quiet_steady fun _ _ => ⟨rfl, rfl, rfl, rfl, fun _ _ h => nomatch h⟩

theorem checkProfileForNetwork_steady (profile : ConnectionProfile) :
    (checkProfileForNetwork profile : Op ρ Unit).Steady G :=
  S.quiet_steady fun _ _ => ⟨rfl, rfl, rfl, rfl, fun _ _ h => nomatch h⟩

theorem catalogTokenKey_steady (context : ConnectionFingerprint) :
    (catalogTokenKey context : Op ρ Unit).Steady G :=
  S.quiet_steady fun _ _ => ⟨rfl, rfl, rfl, rfl, fun _ _ h => nomatch h⟩

theorem onSession_steady (lease : SessionLease) :
    (onSession lease : Op ρ (Except DriverError ρ)).Steady G :=
  S.quiet_steady fun _ _ => ⟨rfl, rfl, rfl, rfl, fun _ _ h => nomatch h⟩

theorem evictCachedSessionProfileGeneration_steady (p : ProfileId) (g : ProfileGeneration) :
    Task.Steady G (evictCachedSessionProfileGeneration p g : Op ρ Bool) := by
  apply Task.Steady.bind (S.cachedSessionIdentity_steady p)
  intro identity
  cases identity with
  | none => exact .done _
  | some identity =>
      show Task.Steady G (if _ then _ else _)
      split
      · exact S.evict p g _
      · exact .done _

theorem prepareExecuteRequest_steady (split : Text → Option (List Text))
    (request : ExecuteRequest) :
    Task.Steady G (prepareExecuteRequest split request : Op ρ TypedExecuteRequest) := by
  apply Task.Steady.bind S.ensureConfigCertain_steady
  intro _
  apply Task.Steady.bind (.done _)
  intro target
  apply Task.Steady.bind (S.profileWithGeneration_steady _)
  rintro ⟨profile, generation⟩
  show Task.Steady G (if _ then _ else if _ then _ else _)
  split
  · exact .done _
  · split
    · exact .done _
    · exact .done _

theorem ensureTypedResourceRequest_steady (identity : RequestIdentity) (driver : DriverKind) :
    Task.Steady G (ensureTypedResourceRequest identity driver : Op ρ ConnectionFingerprint) := by
  apply Task.Steady.bind S.ensureConfigCertain_steady
  intro _
  apply Task.Steady.bind (S.profileWithGeneration_steady _)
  rintro ⟨profile, generation⟩
  show Task.Steady G (if _ then _ else if _ then _ else _)
  split
  · exact .done _
  · split
    · exact .done _
    · exact .done _

/-! ### Cleanup, mutations and reloads -/

theorem evictTargets_steady (targets : List DeferredCleanupTarget) :
    Task.Steady G (evictTargets targets : Op ρ Unit) := by
  induction targets with
  | nil => exact .done _
  | cons target targets ih =>
      unfold evictTargets
      split
      · exact .bind (S.evict _ _ _) fun _ => ih
      · exact ih

theorem clearTargetSecrets_steady (targets : List DeferredCleanupTarget) :
    Task.Steady G (clearTargetSecrets targets : Op ρ Unit) := by
  induction targets with
  | nil => exact .done _
  | cons target targets ih =>
      unfold clearTargetSecrets
      split
      · exact .bind (S.applySecret_steady _ _) fun _ => ih
      · exact ih

theorem applySecretUpdates_steady (updates : List (ProfileId × SessionSecretUpdate)) :
    Task.Steady G (applySecretUpdates updates : Op ρ Unit) := by
  induction updates with
  | nil => exact .done _
  | cons update updates ih => exact .bind (S.applySecret_steady _ _) fun _ => ih

theorem retainSecrets_steady (ids : List ProfileId) :
    Task.Steady G (retainSecrets ids : Op ρ Unit) :=
  S.quiet_steady fun _ _ => ⟨rfl, rfl, rfl, rfl, fun _ _ h => nomatch h⟩

theorem applyDeferredCleanup_steady (cleanup : DeferredRuntimeCleanup) :
    Task.Steady G (applyDeferredCleanup cleanup : Op ρ Unit) := by
  apply Task.Steady.bind (S.evictTargets_steady _)
  intro _
  apply Task.Steady.bind (S.clearTargetSecrets_steady _)
  intro _
  show Task.Steady G (if _ then _ else _)
  split
  · exact S.clearAllSecrets_steady
  · split
    · exact .bind (S.retainSecrets_steady _) fun _ => S.applySecretUpdates_steady _
    · exact S.applySecretUpdates_steady _

theorem resolveDeferredSession_steady (fence : DeferredSessionFence) (allowRetag : Bool) :
    Task.Steady G (resolveDeferredSession fence allowRetag : Op ρ Bool) := by
  unfold resolveDeferredSession
  split
  · exact S.retag _ _ _ _
  · exact .bind (S.evict _ _ _) fun _ => .done _

theorem bumpGenerations_steady :
    Task.Steady G (bumpGenerations : Op ρ (List DeferredCleanupTarget)) :=
  S.quiet_steady fun _ _ => ⟨rfl, rfl, rfl, rfl, fun _ _ h => nomatch h⟩

theorem enterConfigUncertainDeferred_steady :
    Task.Steady G (enterConfigUncertainDeferred : Op ρ DeferredRuntimeCleanup) := by
  apply Task.Steady.bind (S.setConfigUncertain_steady true)
  intro _
  exact .bind S.bumpGenerations_steady fun _ => .done _

theorem runtimeMutationFailure_steady (error : ServiceError) :
    Task.Steady G (runtimeMutationFailure error : Mutation ρ α) :=
  .bind S.enterConfigUncertainDeferred_steady.mapError fun _ => .done _

theorem mutatePathTask_steady (mutation : ConfigMutation) (consent : MigrationConsent) :
    Task.Steady G (mutatePathTask mutation consent : Op ρ MutationOutcome) :=
  S.quiet_steady fun _ _ => ⟨rfl, rfl, rfl, rfl, fun _ _ h => nomatch h⟩

theorem writeConfig_steady (mutation : ConfigMutation) (consent : MigrationConsent) :
    Task.Steady G (writeConfig mutation consent : Mutation ρ ObservedMutationOutcome) := by
  apply Task.Steady.bind (S.mutatePathTask_steady mutation consent).mapError
  intro outcome
  split
  · exact .done _
  · exact .bind S.enterConfigUncertainDeferred_steady.mapError fun _ => .done _

theorem replaceLoadedConfig_steady (loaded : LoadedConfig) :
    Task.Steady G (replaceLoadedConfig loaded : Op ρ DeferredRuntimeCleanup) := by
  apply Task.Steady.bind S.readSnapshot_steady
  intro snapshot
  apply Task.Steady.bind (S.allocateGenerations_steady _)
  intro maps
  exact .bind (S.replaceObserved_steady _) fun _ => .done _

theorem reconcileAfterMutation_steady (config : Config) (identity : MutationIdentity) :
    Task.Steady G (reconcileAfterMutation config identity : Op ρ ReconcileMutationOutcome) := by
  apply Task.Steady.bind S.readSnapshot_steady
  intro snapshot
  apply Task.Steady.bind (S.allocateGenerations_steady _)
  intro maps
  apply Task.Steady.bind (.done _)
  rintro ⟨deferredSession, targets⟩
  dsimp only
  split
  · exact .done _
  · exact .bind (S.replaceObserved_steady _) fun _ => .done _

theorem reconcile_steady (config : Config) (identity : MutationIdentity) :
    Task.Steady G (reconcile config identity : Mutation ρ ReconcileMutationOutcome) := by
  apply Task.Steady.bind (S.reconcileAfterMutation_steady config identity).attempt
  intro result
  split
  · exact .done _
  · exact S.runtimeMutationFailure_steady _
  · exact .done _

theorem checkDraft_steady (draft : ConnectionDraft) :
    Task.Steady G (checkDraft draft : Op ρ Unit) :=
  S.quiet_steady fun _ _ => ⟨rfl, rfl, rfl, rfl, fun _ _ h => nomatch h⟩

theorem settleCleanup_steady (b : Bool) (cleanup : DeferredRuntimeCleanup) :
    Task.Steady G (settleCleanup b cleanup : Mutation ρ DeferredRuntimeCleanup) := by
  unfold settleCleanup
  split
  · exact .done _
  · exact .bind (S.applyDeferredCleanup_steady cleanup).mapError fun _ => .done _

theorem createProfileInner_steady (request : CreateProfileRequest) (b : Bool) :
    Task.Steady G (createProfileInner request b : Mutation ρ RuntimeMutationOutcome) := by
  apply Task.Steady.bind S.ensureConfigCertain_steady.mapError
  intro _
  apply Task.Steady.bind (S.checkDraft_steady _).mapError
  intro _
  apply Task.Steady.bind (Task.Steady.done _).mapError
  intro _
  apply withLane_steady
  apply Task.Steady.bind S.ensureConfigCertain_steady.mapError
  intro _
  apply Task.Steady.bind (createMutation_steady request)
  rintro ⟨mutation, expectedProfile⟩
  apply Task.Steady.bind (S.writeConfig_steady mutation _).mapError
  intro outcome
  dsimp only
  split
  · exact .done _
  · split
    · exact S.runtimeMutationFailure_steady _
    · split
      · exact S.runtimeMutationFailure_steady _
      · apply Task.Steady.bind (S.reconcile_steady _ _)
        intro reconciled
        exact .bind (S.settleCleanup_steady b _) fun _ => .done _

theorem settleUpdate_steady (policy : UpdateSessionPolicy) (fence : Option DeferredSessionFence)
    (cleanup : DeferredRuntimeCleanup) :
    Task.Steady G (settleUpdate policy fence cleanup :
      Mutation ρ (Option DeferredSessionFence × DeferredRuntimeCleanup)) := by
  have happly : Task.Steady G (lift (applyDeferredCleanup cleanup) : Mutation ρ Unit) :=
    (S.applyDeferredCleanup_steady cleanup).mapError
  cases policy with
  | defer => exact .done _
  | legacy =>
      cases fence with
      | none => exact .bind happly fun _ => .done _
      | some fence =>
          apply Task.Steady.bind (S.resolveDeferredSession_steady fence true).mapError
          intro _
          exact .bind happly fun _ => .done _

theorem hasCurrentSecret_steady (p : ProfileId) : Task.Steady G (hasCurrentSecret p : Op ρ Bool) :=
  S.quiet_steady fun _ _ => ⟨rfl, rfl, rfl, rfl, fun _ _ h => nomatch h⟩

theorem updateProfileInner_steady (request : UpdateProfileRequest)
    (policy : UpdateSessionPolicy) :
    Task.Steady G (updateProfileInner request policy : Mutation ρ RuntimeMutationOutcome) := by
  apply Task.Steady.bind S.ensureConfigCertain_steady.mapError
  intro _
  apply Task.Steady.bind (S.checkDraft_steady _).mapError
  intro _
  apply withLane_steady
  apply Task.Steady.bind S.ensureConfigCertain_steady.mapError
  intro _
  apply Task.Steady.bind (S.ensureGeneration_steady _ _ _).mapError
  intro _
  apply Task.Steady.bind (S.profile_steady _).mapError
  intro expectedProfile
  apply Task.Steady.bind (S.hasCurrentSecret_steady _).mapError
  intro hasCurrent
  apply Task.Steady.bind (Task.Steady.done _).mapError
  intro _
  apply Task.Steady.bind (S.writeConfig_steady _ _).mapError
  intro outcome
  show Task.Steady G (if _ then _ else _)
  split
  · exact S.runtimeMutationFailure_steady _
  · apply Task.Steady.bind (S.reconcile_steady _ _)
    intro reconciled
    exact .bind (S.settleUpdate_steady policy _ _) fun _ => .done _

theorem deleteProfileInner_steady (request : DeleteProfileRequest) (b : Bool) :
    Task.Steady G (deleteProfileInner request b : Mutation ρ RuntimeMutationOutcome) := by
  apply Task.Steady.bind S.ensureConfigCertain_steady.mapError
  intro _
  apply withLane_steady
  apply Task.Steady.bind S.ensureConfigCertain_steady.mapError
  intro _
  apply Task.Steady.bind (S.ensureGeneration_steady _ _ _).mapError
  intro _
  apply Task.Steady.bind (S.profile_steady _).mapError
  intro expectedProfile
  apply Task.Steady.bind (S.writeConfig_steady _ _).mapError
  intro outcome
  show Task.Steady G (if _ then _ else _)
  split
  · exact S.runtimeMutationFailure_steady _
  · apply Task.Steady.bind (S.reconcile_steady _ _)
    intro reconciled
    exact .bind (S.settleCleanup_steady b _) fun _ => .done _

theorem settleFailure_steady {inner : Mutation ρ RuntimeMutationOutcome} (h : inner.Steady G) :
    Task.Steady G (settleFailure inner) := by
  apply Task.Steady.bind h.attempt
  intro result
  cases result with
  | ok outcome => exact .done _
  | error failure => exact .bind (S.applyDeferredCleanup_steady _) fun _ => .done _

theorem loadPathTask_steady : Task.Steady G (loadPathTask : Op ρ (Option LoadedConfig)) :=
  S.quiet_steady fun _ _ => ⟨rfl, rfl, rfl, rfl, fun _ _ h => nomatch h⟩

theorem reloadConfigurationForRuntime_steady :
    Task.Steady G (reloadConfigurationForRuntime : Op ρ RuntimeReloadOutcome) := by
  apply withLane_steady
  apply Task.Steady.bind S.loadPathTask_steady
  intro loaded
  cases loaded with
  | none => exact .bind S.enterConfigUncertainDeferred_steady fun _ => .done _
  | some loaded =>
      apply Task.Steady.bind (S.replaceLoadedConfig_steady loaded)
      intro cleanup
      exact .bind (S.setConfigUncertain_steady false) fun _ => .done _

theorem reloadConfiguration_steady : Task.Steady G (reloadConfiguration : Op ρ Unit) := by
  apply Task.Steady.bind S.reloadConfigurationForRuntime_steady
  intro outcome
  apply Task.Steady.bind (S.applyDeferredCleanup_steady _)
  intro _
  show Task.Steady G (if _ then _ else _)
  split
  · exact .done _
  · exact .done _

theorem storeSessionCredentialExact_steady (o : OperationId) (p : ProfileId)
    (g : ProfileGeneration) (secret : SessionSecret) :
    Task.Steady G (storeSessionCredentialExact o p g secret : Op ρ Unit) := by
  apply Task.Steady.bind S.ensureConfigCertain_steady
  intro _
  apply withLane_steady
  apply Task.Steady.bind S.ensureConfigCertain_steady
  intro _
  apply Task.Steady.bind (S.ensureGeneration_steady p g o)
  intro _
  apply Task.Steady.bind (S.profile_steady p)
  intro profile
  show Task.Steady G (if _ then _ else _)
  split
  · exact .done _
  · exact S.applySecret_steady _ _

theorem disconnectProfileExact_steady (o : OperationId) (p : ProfileId) (g : ProfileGeneration)
    (n : Option SessionGeneration) :
    Task.Steady G (disconnectProfileExact o p g n : Op ρ (Option CachedSessionIdentity)) := by
  apply Task.Steady.bind (S.ensureGeneration_steady p g o)
  intro _
  apply Task.Steady.bind (S.cachedSessionIdentity_steady p)
  intro identity
  split
  · exact .done _
  · split
    · apply Task.Steady.bind (S.evict _ _ _)
      intro evicted
      show Task.Steady G (if _ then _ else _)
      split
      · exact .done _
      · exact .done _
    · exact .done _
  · exact .done _

theorem begin_steady (split : Text → Option (List Text)) {command : Command}
    (hoperation : command.operation = none) (hacquire : ∀ identity, command ≠ .acquire identity) :
    (begin split command : CallTask ρ).Steady G := by
  cases command with
  | execute request => cases hoperation
  | check identity => cases hoperation
  | loadCatalogPage request => cases hoperation
  | scanRedisKeys request => cases hoperation
  | inspectRedisKey request => cases hoperation
  | acquire identity => exact absurd rfl (hacquire identity)
  | create request =>
      exact finishWith_steady (S.settleFailure_steady (S.createProfileInner_steady request false))
  | createForRuntime request =>
      exact finishMutation_steady (S.createProfileInner_steady request true)
  | update request =>
      exact finishWith_steady (S.settleFailure_steady (S.updateProfileInner_steady request .legacy))
  | updateForRuntime request =>
      exact finishMutation_steady (S.updateProfileInner_steady request .defer)
  | delete request =>
      exact finishWith_steady (S.settleFailure_steady (S.deleteProfileInner_steady request false))
  | deleteForRuntime request =>
      exact finishMutation_steady (S.deleteProfileInner_steady request true)
  | reload => exact finishWith_steady S.reloadConfiguration_steady
  | reloadForRuntime => exact finishWith_steady S.reloadConfigurationForRuntime_steady
  | resolveDeferred fence allowRetag =>
      exact finishWith_steady (S.resolveDeferredSession_steady fence allowRetag)
  | applyCleanup cleanup => exact finishWith_steady (S.applyDeferredCleanup_steady cleanup)
  | storeCredential identity secret =>
      exact finishWith_steady (S.storeSessionCredentialExact_steady _ _ _ secret)
  | evictExact p g n => exact finishWith_steady (S.evict p g n)
  | evictGeneration p g =>
      exact finishWith_steady (S.evictCachedSessionProfileGeneration_steady p g)
  | disconnect identity n => exact finishWith_steady (S.disconnectProfileExact_steady _ _ _ n)
  | shutdown => exact finishWith_steady S.shutdown

end

end LockSections

end Dbotter.Service
