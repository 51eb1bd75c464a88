import Dbotter.Service.SecretSteps
import Dbotter.Service.SecretTurns

/-!
The calls that change the ledger, step by step.

In the lane such a call takes generations from the counter, publishes a ledger and stores the
secret of its request. A call that fails there puts up the fence or leaves everything.
-/

namespace Dbotter.Service
open Dbotter.Utf8 Dbotter.Execution Dbotter.Configuration Dbotter.Program
open ObservedState

variable {ρ α : Type}

/-- A call that has not changed anything yet. -/
structure Journal.Fresh (γ : Journal) : Prop extends γ.Idle where
  spent : γ.spent = false

/-- A call that has failed: what it leaves to clean up are secrets that it may drop. -/
structure Journal.Failed (γ : Journal) (failure : RuntimeMutationFailure) : Prop extends γ.Idle where
  covers : γ.Covers failure.cleanup
  updates : failure.cleanup.secretUpdates = []

theorem Journal.Idle.refused {γ : Journal} (h : γ.Idle) {failure : RuntimeMutationFailure}
    (hcleanup : failure.cleanup = {}) : γ.Failed failure := by
  refine ⟨h, ?_, ?_⟩
  · rw [hcleanup]
    exact γ.covers_nothing
  · rw [hcleanup]

/-- What a mutation has done by the end of its section. -/
def Mutated (R : α → Journal → Prop) (γ : Journal) : Except RuntimeMutationFailure α → Prop
  | .ok a => γ.Idle ∧ R a γ
  | .error failure => γ.Failed failure

theorem Mutated.idle {R : α → Journal → Prop} {γ : Journal}
    {r : Except RuntimeMutationFailure α} (h : Mutated R γ r) : γ.Idle := by
  cases r with
  | ok a => exact h.1
  | error failure => exact h.toIdle

section
variable {γ : Journal} {w : ObservedState × Nat}

/-! ## The fence -/

theorem enterConfigUncertainDeferred_careful (hspent : γ.spent = false) :
    Careful (fun _ γ' r => γ' = γ.fence ∧ ∃ targets, r = .ok { targets, clearAllSecrets := true })
      (enterConfigUncertainDeferred : Op ρ DeferredRuntimeCleanup) (some w) γ := by
  have hflag : Settling γ (setConfigUncertain true : Op ρ Unit) :=
    .step fun _ _ => ⟨⟨.still rfl rfl rfl, rfl⟩, _, rfl⟩
  refine hflag.careful_bind (fun h => (nomatch h)) fun _ => ?_
  refine Task.Guarded.bind (Q := fun _ γ' r => γ' = γ.fence ∧ ∃ targets, r = .ok targets)
    (Task.Guarded.step_in fun _ s _ => ⟨_, .fence hspent ?_ rfl rfl, rfl, _, rfl⟩) ?_ ?_
  · exact Turn.fence s.observed s.nextGeneration
  · rintro held γ' targets ⟨rfl, -⟩
    exact ⟨rfl, targets, rfl⟩
  · rintro held γ' e ⟨-, targets, h⟩
    cases h

theorem Journal.fence_failed (hpending : γ.pending = none) (targets : List DeferredCleanupTarget)
    (error : ServiceError) :
    γ.fence.Failed { error, cleanup := { targets, clearAllSecrets := true } } :=
  ⟨⟨rfl, hpending⟩, ⟨fun _ _ => trivial, fun _ _ => trivial, fun _ _ _ _ => trivial⟩, rfl⟩

theorem runtimeMutationFailure_careful {R : α → Journal → Prop} (hspent : γ.spent = false)
    (hpending : γ.pending = none) (error : ServiceError) :
    Careful (fun _ γ' r => Mutated R γ' r) (runtimeMutationFailure error : Mutation ρ α) (some w) γ := by
  refine Task.Guarded.bind (Task.Guarded.mapError (enterConfigUncertainDeferred_careful hspent)
    (R := fun _ γ' r => γ' = γ.fence ∧ ∃ targets,
      r = .ok { targets, clearAllSecrets := true }) ?_) ?_ ?_
  · rintro held γ' r ⟨rfl, targets, rfl⟩
    exact ⟨rfl, targets, rfl⟩
  · rintro held γ' cleanup ⟨rfl, targets, h⟩
    cases h
    exact Journal.fence_failed hpending targets error
  · rintro held γ' e ⟨-, targets, h⟩
    cases h

/-- The write leaves everything, or the fence is put up after it. -/
theorem writeConfig_careful (h : γ.Fresh) (mutation : ConfigMutation) (consent : MigrationConsent) :
    Careful (fun held γ' r => match r with
        | .ok _ => held = some w ∧ γ' = γ
        | .error failure => γ'.Failed failure)
      (writeConfig mutation consent : Mutation ρ ObservedMutationOutcome) (some w) γ := by
  have hwrite : Plain (mutatePathTask mutation consent : Op ρ MutationOutcome) :=
    .step (fun _ _ => rfl) (fun _ _ => rfl) fun _ _ => rfl
  refine Task.Guarded.bind (Q := fun held γ' r => held = some w ∧ γ' = γ ∧
    ∀ failure, r = .error failure → failure.cleanup = {}) ?_ ?_ ?_
  · refine Task.Guarded.mapError (Q := fun held γ' _ => held = some w ∧ γ' = γ)
      (Task.Guarded.of_steps (hwrite γ) (fun hnone => (nomatch hnone)) fun _ _ => ⟨rfl, rfl⟩) ?_
    rintro held γ' r ⟨rfl, rfl⟩
    refine ⟨rfl, rfl, fun failure hfailure => ?_⟩
    cases r with
    | ok a => cases hfailure
    | error e =>
      cases hfailure
      rfl
  · rintro held γ' outcome ⟨rfl, rfl, -⟩
    cases hobservation : outcome.observation with
    | observed loaded =>
      dsimp only
      exact ⟨rfl, rfl⟩
    | failed commitState source =>
      refine Task.Guarded.bind (Task.Guarded.mapError (enterConfigUncertainDeferred_careful h.spent)
        (R := fun _ γ'' r => γ'' = γ'.fence ∧ ∃ targets,
          r = .ok { targets, clearAllSecrets := true }) ?_) ?_ ?_
      · rintro held γ'' r ⟨rfl, targets, rfl⟩
        exact ⟨rfl, targets, rfl⟩
      · rintro held γ'' cleanup ⟨rfl, targets, h'⟩
        cases h'
        exact Journal.fence_failed h.pending targets _
      · rintro held γ'' e ⟨-, targets, h'⟩
        cases h'
  · rintro held γ' failure ⟨rfl, rfl, hcleanup⟩
    exact h.toIdle.refused (hcleanup failure rfl)

/-! ## Publishing a ledger -/

/-- A call that has published: it has the secret of its request to store, and a cleanup. -/
structure Journal.Published (γ : Journal) (pending : Option (ProfileId × SessionSecretUpdate))
    (cleanup : DeferredRuntimeCleanup) : Prop where
  reserved : γ.reserved = none
  pending : γ.pending = pending
  covers : γ.Covers cleanup
  updates : cleanup.secretUpdates = []
  all : cleanup.clearAllSecrets = false

/-- The secrets that a cleanup with these targets may drop. -/
def droppedBy (targets : List DeferredCleanupTarget) (config : Config) (p : ProfileId) : Prop :=
  clearsSecret targets p = true ∨ p ∉ (profileMap config.profiles).keys

theorem Journal.published (γ : Journal) (pending : Option (ProfileId × SessionSecretUpdate))
    (targets : List DeferredCleanupTarget) (config : Config) :
    (γ.publish (droppedBy targets config) pending).Published pending
      { targets, retainSecretProfiles := some (profileMap config.profiles).keys } := by
  refine ⟨rfl, rfl, ⟨fun p h => .inl h, fun h => ?_, fun ids h p hp => ?_⟩, rfl, rfl⟩
  · cases h
  · cases h
    exact .inr hp

theorem notMem_profileMap {o : ObservedState} {config : Config} {p : ProfileId}
    (hconfig : o.config = config) (h : p ∉ (profileMap config.profiles).keys) :
    o.content p = none := by
  subst hconfig
  exact AList.lookup_eq_none.2 h

theorem snapshot_changed {s : ApplicationService} {o : ObservedState} {config : Config}
    {p : ProfileId} (hconfig : o.config = config)
    (h : s.snapshot.changed (profileMap config.profiles) p = true) :
    ¬ s.observed.Unchanged o p := by
  subst hconfig
  exact Snapshot.changed_iff.1 h

/-- What a reload may drop has another content or none. -/
theorem droppedBy_reload {s : ApplicationService} {o : ObservedState} {config : Config}
    (hconfig : o.config = config) {p : ProfileId}
    (h : droppedBy (s.snapshot.reloadTargets config) config p) :
    ¬ s.observed.Unchanged o p ∨ o.content p = none := by
  rcases h with h | h
  · have hclears := (clearsSecret_reloadTargetsOf s.snapshot (profileMap config.profiles)
      s.snapshot.profiles.keys p).1 h
    exact .inl (snapshot_changed hconfig hclears.2.1)
  · exact .inr (notMem_profileMap hconfig h)

/-- So has what a reconciliation may drop, and the target of a creation or an update is not
among it. -/
theorem droppedBy_reconcile {s : ApplicationService} {o : ObservedState} {config : Config}
    {identity : MutationIdentity} {fence : Option DeferredSessionFence}
    {targets : List DeferredCleanupTarget} (hconfig : o.config = config)
    (htargets : s.snapshot.reconcileTargets config identity s.nextGeneration = .ok (fence, targets))
    (hdelete : identity.isDelete = true → o.content identity.profileId = none) {p : ProfileId}
    (h : droppedBy targets config p) : ¬ s.observed.Unchanged o p ∨ o.content p = none := by
  rcases h with h | h
  · by_cases hp : p = identity.profileId
    · subst hp
      cases hidentity : identity.isDelete with
      | true => exact .inr (hdelete hidentity)
      | false =>
        rw [clearsSecret_local hidentity htargets] at h
        cases h
    · rw [clearsSecret_reconciled htargets hp] at h
      exact droppedBy_reload hconfig (.inl h)
  · exact .inr (notMem_profileMap hconfig h)

theorem readSnapshot_careful :
    Careful (fun held γ' r => held = some w ∧ γ' = γ ∧ ∃ s, ledger s = w ∧ r = .ok s.snapshot)
      (readSnapshot : Op ρ Snapshot) (some w) γ :=
  Task.Guarded.step_in fun _ s hs => ⟨γ, .still rfl rfl rfl, by rw [hs], rfl, s, hs, rfl⟩

theorem allocateGenerations_careful {β : Type} {f : Nat → β × Nat} (hspent : γ.spent = false)
    (hle : w.2 ≤ (f w.2).2) :
    Careful (fun held γ' r => held = some (w.1, (f w.2).2) ∧
        γ' = { γ with reserved := some w.2 } ∧ r = .ok (f w.2).1)
      (allocateGenerations f : Op ρ β) (some w) γ := by
  refine Task.Guarded.step_in fun _ s hs => ?_
  subst hs
  exact ⟨_, .reserve hspent rfl hle rfl, rfl, rfl, rfl⟩

/-- The publication itself, from the ledger that was taken from the snapshot. -/
theorem replaceObserved_careful {o o' : ObservedState} {next next' : Nat}
    {forced : ProfileId → Bool} (pending : Option (ProfileId × SessionSecretUpdate))
    (sweep : ProfileId → Prop) (hspent : γ.spent = false)
    (hturn : Turn forced o next o' next')
    (hsweep : ∀ q, sweep q → ¬ o.Unchanged o' q ∨ o'.content q = none)
    (hpending : ∀ q update, pending = some (q, update) →
      forced q = true ∧ (o'.content q).isSome ∧ ¬sweep q)
    (htarget : ∀ target, γ.target = some target → pending = some target) :
    Careful (fun held γ' r => held.isSome = true ∧
        γ' = { γ with reserved := some next }.publish sweep pending ∧ r = .ok ())
      (replaceObserved o' : Op ρ Unit) (some (o, next')) { γ with reserved := some next } := by
  refine Task.Guarded.step_in fun _ s hs => ?_
  have hobserved : s.observed = o := congrArg Prod.fst hs
  have hnext : s.nextGeneration = next' := congrArg Prod.snd hs
  subst hobserved
  subst hnext
  exact ⟨_, .publish sweep pending rfl hspent hturn rfl rfl hsweep hpending htarget,
    rfl, rfl, rfl⟩

theorem replaceLoadedConfig_careful (h : γ.Fresh) (htarget : γ.target = none)
    (loaded : LoadedConfig) :
    Careful (fun held γ' r => held.isSome = true ∧
        ∃ cleanup, r = .ok cleanup ∧ γ'.Published none cleanup)
      (replaceLoadedConfig loaded : Op ρ DeferredRuntimeCleanup) (some w) γ := by
  refine Task.Guarded.bind readSnapshot_careful ?_ ?_
  case refine_2 =>
    rintro held γ' e ⟨-, -, s, -, h⟩
    cases h
  rintro held γ' snapshot ⟨rfl, rfl, s, rfl, h'⟩
  cases h'
  have hturn := Turn.reloaded s loaded.config loaded.sourceVersion
  refine Task.Guarded.bind (allocateGenerations_careful h.spent hturn.next_le) ?_ ?_
  case refine_2 =>
    rintro held γ' e ⟨-, -, h⟩
    cases h
  rintro held γ'' numbered ⟨rfl, rfl, h'⟩
  cases h'
  refine Task.Guarded.bind (replaceObserved_careful none
    (droppedBy (s.snapshot.reloadTargets loaded.config) loaded.config) h.spent hturn
    (fun q hq => droppedBy_reload rfl hq) (fun q update h => (nomatch h)) ?_) ?_ ?_
  · intro target h
    rw [htarget] at h
    cases h
  · rintro held γ'' _ ⟨hheld, rfl, -⟩
    exact ⟨hheld, _, rfl, Journal.published _ none _ loaded.config⟩
  · rintro held γ'' e ⟨-, -, h⟩
    cases h

/-- The reconciliation after a local mutation publishes a ledger, or finds that it cannot. -/
theorem reconcileAfterMutation_careful (h : γ.Fresh) (config : Config)
    (identity : MutationIdentity) (pending : Option (ProfileId × SessionSecretUpdate))
    (hdelete : identity.isDelete = true →
      latest ConnectionProfile.id config.profiles identity.profileId = none)
    (hpending : ∀ q update, pending = some (q, update) →
      q = identity.profileId ∧ identity.isDelete = false ∧
        (latest ConnectionProfile.id config.profiles q).isSome)
    (htarget : ∀ target, γ.target = some target → pending = some target) :
    Careful (fun held γ' r => match r with
        | .ok reconciled => held.isSome ∧ γ'.Published pending reconciled.cleanup
        | .error e => e = .configUncertain ∧ held.isSome ∧ γ'.spent = false ∧ γ'.pending = none)
      (reconcileAfterMutation config identity : Op ρ ReconcileMutationOutcome) (some w) γ := by
  refine Task.Guarded.bind readSnapshot_careful ?_ ?_
  case refine_2 =>
    rintro held γ' e ⟨-, -, s, -, h⟩
    cases h
  rintro held γ' snapshot ⟨rfl, rfl, s, rfl, h'⟩
  cases h'
  have hturn := Turn.reconciled s config identity
  refine Task.Guarded.bind (allocateGenerations_careful h.spent hturn.next_le) ?_ ?_
  case refine_2 =>
    rintro held γ' e ⟨-, -, h⟩
    cases h
  rintro held γ'' numbered ⟨rfl, rfl, h'⟩
  cases h'
  have hcontent (q : ProfileId) : content ⟨config, .v2,
      (s.snapshot.reconciled config identity s.nextGeneration).1,
      (s.snapshot.reconciled config identity s.nextGeneration).2.1⟩ q =
        latest ConnectionProfile.id config.profiles q := content_eq_latest _ q
  have hdone : Careful (fun held γ'' r => held = some (s.observed,
        (s.snapshot.reconciled config identity s.nextGeneration).2.2) ∧
        γ'' = { γ' with reserved := some s.nextGeneration } ∧
        r = s.snapshot.reconcileTargets config identity s.nextGeneration)
      (.ofExcept (s.snapshot.reconcileTargets config identity s.nextGeneration) : Op ρ _)
      (some (s.observed, (s.snapshot.reconciled config identity s.nextGeneration).2.2))
      { γ' with reserved := some s.nextGeneration } := ⟨rfl, rfl, rfl⟩
  refine Task.Guarded.bind hdone ?_ ?_
  case refine_2 =>
    rintro held γ'' e ⟨rfl, rfl, htargets⟩
    exact ⟨reconcileTargets_error htargets.symm, rfl, h.spent, h.pending⟩
  rintro held γ'' ⟨fence, targets⟩ ⟨rfl, rfl, htargets⟩
  dsimp only
  split
  · exact ⟨rfl, rfl, h.spent, h.pending⟩
  next g hg =>
    refine Task.Guarded.bind (replaceObserved_careful pending
      (droppedBy targets config) h.spent hturn
      (fun q hq => droppedBy_reconcile rfl htargets.symm (fun hd => ?_) hq)
      (fun q update hq => ?_) htarget) ?_ ?_
    · exact (hcontent _).trans (hdelete hd)
    · obtain ⟨rfl, hidentity, hlisted⟩ := hpending q update hq
      have hsome := (congrArg Option.isSome (hcontent identity.profileId)).trans hlisted
      refine ⟨by simp [hidentity], hsome, ?_⟩
      rintro (hclears | hmissing)
      · rw [clearsSecret_local hidentity htargets.symm] at hclears
        cases hclears
      · exact hmissing (AList.lookup_isSome.1 hsome)
    · rintro held γ'' _ ⟨hheld, rfl, -⟩
      exact ⟨hheld, Journal.published _ pending _ config⟩
    · rintro held γ'' e ⟨-, -, h⟩
      cases h

theorem reconcile_careful (h : γ.Fresh) (config : Config) (identity : MutationIdentity)
    (pending : Option (ProfileId × SessionSecretUpdate))
    (hdelete : identity.isDelete = true →
      latest ConnectionProfile.id config.profiles identity.profileId = none)
    (hpending : ∀ q update, pending = some (q, update) →
      q = identity.profileId ∧ identity.isDelete = false ∧
        (latest ConnectionProfile.id config.profiles q).isSome)
    (htarget : ∀ target, γ.target = some target → pending = some target) :
    Careful (fun held γ' r => match r with
        | .ok reconciled => held.isSome ∧ γ'.Published pending reconciled.cleanup
        | .error failure => γ'.Failed failure)
      (reconcile config identity : Mutation ρ ReconcileMutationOutcome) (some w) γ := by
  have hreconciled := (reconcileAfterMutation_careful h config identity pending hdelete hpending
    htarget :
    Careful _ (reconcileAfterMutation config identity : Op ρ ReconcileMutationOutcome) (some w) γ)
  refine Task.Guarded.bind (Task.Guarded.attempt hreconciled (R := fun held γ' r =>
    ∃ a, r = .ok a ∧ match a with
      | .ok reconciled => held.isSome ∧ γ'.Published pending reconciled.cleanup
      | .error e => e = .configUncertain ∧ held.isSome ∧ γ'.spent = false ∧ γ'.pending = none)
    fun held γ' r hr => ⟨r, rfl, hr⟩) ?_ ?_
  · rintro held γ' r ⟨r, ⟨⟩, hr⟩
    cases r with
    | ok reconciled => exact hr
    | error e =>
      obtain ⟨rfl, hheld, hspent, hnone⟩ := hr
      obtain ⟨w', rfl⟩ := Option.isSome_iff_exists.1 hheld
      refine Task.Guarded.weaken (runtimeMutationFailure_careful (R := fun _ _ => False) hspent
        hnone _) ?_
      rintro held γ'' r hr
      cases r with
      | ok reconciled => exact hr.2.elim
      | error failure => exact hr
  · rintro held γ' e ⟨a, h, -⟩
    cases h

/-! ## The sections of the mutations -/

/-- The body of a section that starts in the lane and ends idle. -/
theorem withLane_careful {ε : Type} {S : Journal → Except ε α → Prop}
    {body : Task ApplicationService (Answer ρ) Event ε α} (hidle : ∀ γ r, S γ r → γ.Idle)
    (h : ∀ w, Careful (fun _ γ' r => S γ' r) body (some w) γ) :
    Careful (fun held γ' r => held = none ∧ S γ' r) (withLane body) none γ := by
  refine Task.Guarded.bind (Q := fun held γ' r => (∃ w, held = some w) ∧ γ' = γ ∧ r = .ok ())
    (Task.Guarded.lane fun w => ⟨⟨w, rfl⟩, rfl, rfl⟩) ?_ ?_
  case refine_2 =>
    rintro held γ' e ⟨-, -, h⟩
    cases h
  rintro held γ' _ ⟨⟨w, rfl⟩, rfl, -⟩
  refine Task.Guarded.bind (Task.Guarded.attempt (h w) (R := fun _ γ'' r =>
    ∃ a, r = .ok a ∧ S γ'' a) fun held γ'' r hr => ⟨r, rfl, hr⟩) ?_ ?_
  case refine_2 =>
    rintro held γ'' e ⟨a, h, -⟩
    cases h
  rintro held γ'' r ⟨r, ⟨⟩, hr⟩
  refine Task.Guarded.bind (Q := fun held δ r => held = none ∧ δ = γ'' ∧ r = .ok ())
    (Task.Guarded.unlane (hidle γ'' r hr) ⟨rfl, rfl, rfl⟩) ?_ ?_
  · rintro held δ _ ⟨rfl, rfl, -⟩
    exact ⟨rfl, hr⟩
  · rintro held δ e ⟨-, -, h⟩
    cases h

/-- A part that may be refused, in front of the rest of a mutation. -/
theorem Plain.lift_bind {β : Type} {op : Op ρ α} {f : α → Mutation ρ β}
    {Q : Option (ObservedState × Nat) → Journal → Except RuntimeMutationFailure β → Prop}
    {held : Option (ObservedState × Nat)} (h : Plain op) (hidle : γ.Idle)
    (hf : ∀ a, Careful Q (f a) held γ)
    (herror : ∀ failure, γ.Failed failure → Q held γ (.error failure)) :
    Careful Q (lift op >>= f) held γ := by
  refine Task.Guarded.bind (Task.Guarded.mapError (R := fun held' γ' r => held' = held ∧ γ' = γ ∧
    ∀ failure, r = .error failure → failure.cleanup = {})
    (Task.Guarded.of_steps (Q := fun held' γ' _ => held' = held ∧ γ' = γ) (h γ) (fun _ => hidle)
      fun _ _ => ⟨rfl, rfl⟩) ?_) ?_ ?_
  · rintro held' γ' r ⟨rfl, rfl⟩
    refine ⟨rfl, rfl, fun failure hfailure => ?_⟩
    cases r with
    | ok a => cases hfailure
    | error e =>
      cases hfailure
      rfl
  · rintro held' γ' a ⟨rfl, rfl, -⟩
    exact hf a
  · rintro held' γ' failure ⟨rfl, rfl, hcleanup⟩
    exact herror failure (hidle.refused (hcleanup failure rfl))

theorem Journal.Failed.map {g : RuntimeMutationFailure → RuntimeMutationFailure}
    (hg : ∀ failure, (g failure).cleanup = failure.cleanup ∨ (g failure).cleanup = {})
    {failure : RuntimeMutationFailure} (h : γ.Failed failure) : γ.Failed (g failure) := by
  rcases hg failure with heq | heq
  · refine ⟨h.toIdle, ?_, ?_⟩
    · rw [heq]
      exact h.covers
    · rw [heq]
      exact h.updates
  · exact h.toIdle.refused heq

/-- The write of a mutation, in front of what becomes of its outcome. -/
theorem write_careful {β : Type} {R : β → Journal → Prop} (h : γ.Fresh) {mutation : ConfigMutation}
    {consent : MigrationConsent} {g : RuntimeMutationFailure → RuntimeMutationFailure}
    (hg : ∀ failure, (g failure).cleanup = failure.cleanup ∨ (g failure).cleanup = {})
    {f : ObservedMutationOutcome → Mutation ρ β}
    (hf : ∀ outcome, Careful (fun _ γ' r => Mutated R γ' r) (f outcome) (some w) γ) :
    Careful (fun _ γ' r => Mutated R γ' r)
      ((writeConfig mutation consent).mapError g >>= f) (some w) γ := by
  refine Task.Guarded.bind (Task.Guarded.mapError (writeConfig_careful h mutation consent)
    (R := fun held γ' r => match r with
      | .ok _ => held = some w ∧ γ' = γ
      | .error failure => γ'.Failed failure) ?_) ?_ ?_
  · rintro held γ' r hr
    cases r with
    | ok outcome => exact hr
    | error failure => exact Journal.Failed.map hg hr
  · rintro held γ' outcome ⟨rfl, rfl⟩
    exact hf outcome
  · rintro held γ' failure hr
    exact hr

theorem createWriteFailure_cleanup (request : CreateProfileRequest)
    (failure : RuntimeMutationFailure) :
    (createWriteFailure request failure).cleanup = failure.cleanup ∨
      (createWriteFailure request failure).cleanup = {} := by
  unfold createWriteFailure
  split
  · split
    · exact .inr rfl
    · exact .inl rfl
  · exact .inl rfl

theorem checkedWriteFailure_cleanup (p : ProfileId) (o : OperationId)
    (failure : RuntimeMutationFailure) :
    (checkedWriteFailure p o failure).cleanup = failure.cleanup ∨
      (checkedWriteFailure p o failure).cleanup = {} := by
  unfold checkedWriteFailure
  split
  · exact .inr rfl
  · exact .inr rfl
  · exact .inl rfl

theorem latest_of_observedProfile {config : Config} {p : ProfileId} {profile : ConnectionProfile}
    (h : observedProfile config p = some profile) :
    (latest ConnectionProfile.id config.profiles p).isSome := by
  refine latest_isSome.2 ⟨profile, List.mem_of_find?_eq_some h, ?_⟩
  simpa using List.find?_some h

theorem latest_of_observedProfile_none {config : Config} {p : ProfileId}
    (h : observedProfile config p = none) :
    latest ConnectionProfile.id config.profiles p = none := by
  refine latest_eq_none.2 fun profile hmem hid => ?_
  have hnone := List.find?_eq_none.1 h profile hmem
  simp [hid] at hnone

/-- The secret of the request is stored with the cleanup, in the lane. -/
theorem storeCleanup_careful {held : Option (ObservedState × Nat)} (p : ProfileId)
    (update : SessionSecretUpdate) {cleanup : DeferredRuntimeCleanup} (hheld : held.isSome)
    (h : γ.Published (some (p, update)) cleanup) :
    Careful (fun _ γ' r => γ'.Idle ∧ r = .ok () ∧ γ'.stored = some (p, update))
      (lift (applyDeferredCleanup { cleanup with
        secretUpdates := cleanup.secretUpdates ++ [(p, update)] }) : Mutation ρ Unit) held γ := by
  obtain ⟨w', rfl⟩ := Option.isSome_iff_exists.1 hheld
  refine Task.Guarded.mapError (applyDeferredCleanup_stores_pending p update
    ⟨h.covers.targets, h.covers.all, h.covers.retain⟩ h.all ?_ h.pending) ?_
  · rw [h.updates, List.nil_append]
  · rintro held γ' r ⟨rfl, rfl⟩
    exact ⟨⟨h.reserved, rfl⟩, rfl, rfl⟩

theorem createMutation_careful {β : Type} {R : β → Journal → Prop} (h : γ.Fresh)
    (request : CreateProfileRequest) {f : ConfigMutation × ConnectionProfile → Mutation ρ β}
    (hf : ∀ a, Careful (fun _ γ' r => Mutated R γ' r) (f a) (some w) γ) :
    Careful (fun _ γ' r => Mutated R γ' r) (createMutation request >>= f) (some w) γ := by
  have hmutation : Careful (fun held γ' r => held = some w ∧ γ' = γ ∧
      ∀ failure, r = .error failure → γ.Failed failure)
      (createMutation request : Mutation ρ (ConfigMutation × ConnectionProfile)) (some w) γ := by
    unfold createMutation
    split
    · refine Plain.lift_bind (.done _) h.toIdle (fun _ => ⟨rfl, rfl, fun _ hfailure => ?_⟩)
        fun failure hfailed => ⟨rfl, rfl, fun _ heq => ?_⟩
      · cases hfailure
      · cases heq
        exact hfailed
    · refine ⟨rfl, rfl, fun _ hfailure => ?_⟩
      cases hfailure
  refine Task.Guarded.bind hmutation ?_ ?_
  · rintro held γ' a ⟨rfl, rfl, -⟩
    exact hf a
  · rintro held γ' failure ⟨rfl, rfl, hfailed⟩
    exact hfailed failure rfl

/-- A mutation with a secret has stored it when it succeeds. -/
def StoredFor (update : SessionSecretUpdate) (outcome : RuntimeMutationOutcome) (γ : Journal) : Prop :=
  γ.stored = some (outcome.mutation.profileId, update)

theorem createProfileInner_careful (h : γ.Fresh) (htarget : γ.target = none)
    (request : CreateProfileRequest) :
    Careful (fun held γ' r => held = none ∧ Mutated (StoredFor request.secretUpdate) γ' r)
      (createProfileInner request false : Mutation ρ RuntimeMutationOutcome) none γ := by
  have hcheck : Plain (checkDraft request.draft : Op ρ Unit) :=
    .step (fun _ _ => rfl) (fun _ _ => rfl) fun _ _ => rfl
  refine Plain.lift_bind ensureConfigCertain_plain h.toIdle (fun _ => ?_)
    fun _ hfailed => ⟨rfl, hfailed⟩
  refine Plain.lift_bind hcheck h.toIdle (fun _ => ?_) fun _ hfailed => ⟨rfl, hfailed⟩
  refine Plain.lift_bind (.done _) h.toIdle (fun _ => ?_) fun _ hfailed => ⟨rfl, hfailed⟩
  refine withLane_careful (fun _ _ => Mutated.idle) fun w => ?_
  refine Plain.lift_bind ensureConfigCertain_plain h.toIdle (fun _ => ?_) fun _ hfailed => hfailed
  refine createMutation_careful h request fun ⟨mutation, expectedProfile⟩ => ?_
  refine write_careful h (createWriteFailure_cleanup request) fun outcome => ?_
  cases outcome.affectedProfileId with
  | none => exact h.toIdle.refused rfl
  | some p =>
    dsimp only
    split
    · exact runtimeMutationFailure_careful h.spent h.pending _
    split
    · exact runtimeMutationFailure_careful h.spent h.pending _
    next hobserved =>
      obtain ⟨written, hwritten, -⟩ := exists_of_beq_some (by simpa [bne] using hobserved)
      refine Task.Guarded.bind (reconcile_careful h outcome.loaded.config (.create p)
        (some (p, request.secretUpdate)) (fun hd => by cases hd) ?_ ?_) ?_ ?_
      · rintro q update ⟨⟩
        exact ⟨rfl, rfl, latest_of_observedProfile hwritten⟩
      · intro target h
        rw [htarget] at h
        cases h
      · rintro held γ' reconciled ⟨hheld, hpublished⟩
        refine Task.Guarded.bind (Task.Guarded.bind (storeCleanup_careful _ _ hheld hpublished)
          (R := fun _ γ'' r => γ''.Idle ∧ (∃ a, r = .ok a) ∧
            γ''.stored = some (p, request.secretUpdate)) ?_ ?_) ?_ ?_
        · rintro held γ'' _ ⟨hidle, -, hstored⟩
          exact ⟨hidle, ⟨_, rfl⟩, hstored⟩
        · rintro held γ'' e ⟨-, he, -⟩
          cases he
        · rintro held γ'' cleanup ⟨hidle, -, hstored⟩
          exact ⟨hidle, hstored⟩
        · rintro held γ'' e ⟨-, ⟨a, he⟩, -⟩
          cases he
      · rintro held γ' failure hfailed
        exact hfailed

theorem updateProfileInner_careful (h : γ.Fresh) (request : UpdateProfileRequest)
    (htarget : γ.target = some (request.profileId, request.secretUpdate)) :
    Careful (fun held γ' r => held = none ∧ Mutated (fun outcome γ' =>
        outcome.mutation.profileId = request.profileId ∧
          StoredFor request.secretUpdate outcome γ') γ' r)
      (updateProfileInner request .legacy : Mutation ρ RuntimeMutationOutcome) none γ := by
  have hcheck : Plain (checkDraft request.draft : Op ρ Unit) :=
    .step (fun _ _ => rfl) (fun _ _ => rfl) fun _ _ => rfl
  have hcurrent : Plain (hasCurrentSecret request.profileId : Op ρ Bool) :=
    .step (fun _ _ => rfl) (fun _ _ => rfl) fun _ _ => rfl
  refine Plain.lift_bind ensureConfigCertain_plain h.toIdle (fun _ => ?_)
    fun _ hfailed => ⟨rfl, hfailed⟩
  refine Plain.lift_bind hcheck h.toIdle (fun _ => ?_) fun _ hfailed => ⟨rfl, hfailed⟩
  refine withLane_careful (fun _ _ => Mutated.idle) fun w => ?_
  refine Plain.lift_bind ensureConfigCertain_plain h.toIdle (fun _ => ?_) fun _ hfailed => hfailed
  refine Plain.lift_bind (ensureGeneration_plain _ _ _) h.toIdle (fun _ => ?_) fun _ hf => hf
  refine Plain.lift_bind (profile_plain _) h.toIdle (fun expected => ?_) fun _ hf => hf
  refine Plain.lift_bind hcurrent h.toIdle (fun hasCurrent => ?_) fun _ hf => hf
  refine Plain.lift_bind (.done _) h.toIdle (fun _ => ?_) fun _ hf => hf
  refine write_careful h (checkedWriteFailure_cleanup _ _) fun outcome => ?_
  split
  · exact runtimeMutationFailure_careful h.spent h.pending _
  next hwritten =>
    rw [Bool.or_eq_true, not_or] at hwritten
    obtain ⟨written, hwritten, -⟩ := exists_of_beq_some (by simpa [bne] using hwritten.2)
    refine Task.Guarded.bind (reconcile_careful h outcome.loaded.config _
      (some (request.profileId, request.secretUpdate)) (fun hd => by cases hd) ?_ ?_) ?_ ?_
    · rintro q update ⟨⟩
      exact ⟨rfl, rfl, latest_of_observedProfile hwritten⟩
    · intro target heq
      rw [← heq, htarget]
    · rintro held γ' reconciled ⟨hheld, hpublished⟩
      have hstore := (storeCleanup_careful request.profileId
        request.secretUpdate hheld hpublished : Careful _ (lift _ : Mutation ρ Unit) _ _)
      have hdone (result : Option DeferredSessionFence × DeferredRuntimeCleanup) :
          Careful (fun _ γ'' r => γ''.Idle ∧ (∃ a, r = .ok a) ∧
            γ''.stored = some (request.profileId, request.secretUpdate))
          (lift (applyDeferredCleanup { reconciled.cleanup with
            secretUpdates := reconciled.cleanup.secretUpdates ++
              [(request.profileId, request.secretUpdate)] }) >>= fun _ =>
            pure result : Mutation ρ _) held γ' := by
        refine Task.Guarded.bind hstore ?_ ?_
        · rintro held γ'' _ ⟨hidle, -, hstored⟩
          exact ⟨hidle, ⟨_, rfl⟩, hstored⟩
        · rintro held γ'' e ⟨-, he, -⟩
          cases he
      have hsettle : Careful (fun _ γ'' r => γ''.Idle ∧ (∃ a, r = .ok a) ∧
            γ''.stored = some (request.profileId, request.secretUpdate))
          (settleUpdate .legacy reconciled.deferredSession { reconciled.cleanup with
            secretUpdates := reconciled.cleanup.secretUpdates ++
              [(request.profileId, request.secretUpdate)] } : Mutation ρ _) held γ' := by
        cases reconciled.deferredSession with
        | none => exact hdone _
        | some fence =>
          refine Settling.careful_bind (.mapError (resolveDeferredSession_settles γ' fence true) _)
            (fun hnone => ?_) fun _ => hdone _
          rw [hnone] at hheld
          cases hheld
      refine Task.Guarded.bind hsettle ?_ ?_
      · rintro held γ'' cleanup ⟨hidle, -, hstored⟩
        exact ⟨hidle, rfl, hstored⟩
      · rintro held γ'' e ⟨-, ⟨a, he⟩, -⟩
        cases he
    · rintro held γ' failure hfailed
      exact hfailed

theorem deleteProfileInner_careful (h : γ.Fresh) (htarget : γ.target = none)
    (request : DeleteProfileRequest) :
    Careful (fun held γ' r => held = none ∧ Mutated (fun _ _ => True) γ' r)
      (deleteProfileInner request false : Mutation ρ RuntimeMutationOutcome) none γ := by
  refine Plain.lift_bind ensureConfigCertain_plain h.toIdle (fun _ => ?_)
    fun _ hfailed => ⟨rfl, hfailed⟩
  refine withLane_careful (fun _ _ => Mutated.idle) fun w => ?_
  refine Plain.lift_bind ensureConfigCertain_plain h.toIdle (fun _ => ?_) fun _ hfailed => hfailed
  refine Plain.lift_bind (ensureGeneration_plain _ _ _) h.toIdle (fun _ => ?_) fun _ hf => hf
  refine Plain.lift_bind (profile_plain _) h.toIdle (fun expected => ?_) fun _ hf => hf
  refine write_careful h (checkedWriteFailure_cleanup _ _) fun outcome => ?_
  split
  · exact runtimeMutationFailure_careful h.spent h.pending _
  next hdeleted =>
    simp only [Bool.or_eq_true, not_or, Bool.not_eq_true, Option.isSome_eq_false_iff,
      Option.isNone_iff_eq_none] at hdeleted
    refine Task.Guarded.bind (reconcile_careful h outcome.loaded.config (.delete request.profileId)
      none (fun _ => latest_of_observedProfile_none hdeleted.2) (fun _ _ hnone => (nomatch hnone))
      ?_) ?_ ?_
    · intro target heq
      rw [htarget] at heq
      cases heq
    · rintro held γ' reconciled ⟨hheld, hpublished⟩
      refine Settling.careful_bind (.bind (.mapError (applyDeferredCleanup_settles
        hpublished.covers hpublished.updates) _) fun _ => .ok _) (fun hnone => ?_) fun _ => ?_
      · rw [hnone] at hheld
        cases hheld
      · exact ⟨⟨hpublished.reserved, hpublished.pending⟩, trivial⟩
    · rintro held γ' failure hfailed
      exact hfailed

/-! ## The calls -/

/-- A public mutation settles its cleanup itself, also where it fails. -/
theorem settleFailure_careful {R : RuntimeMutationOutcome → Journal → Prop}
    {inner : Mutation ρ RuntimeMutationOutcome}
    (h : Careful (fun held γ' r => held = none ∧ Mutated R γ' r) inner none γ) :
    Careful (fun held γ' r => Out held γ' ∧ ∀ mutation, r = .ok mutation →
        ∃ outcome, outcome.mutation = mutation ∧ R outcome γ')
      (settleFailure inner : Op ρ ProfileMutationOutcome) none γ := by
  refine Task.Guarded.bind (Task.Guarded.attempt h (R := fun held γ' r =>
    ∃ a, r = .ok a ∧ held = none ∧ Mutated R γ' a) fun held γ' r hr => ⟨r, rfl, hr⟩) ?_ ?_
  case refine_2 =>
    rintro held γ' e ⟨a, h, -⟩
    cases h
  rintro held γ' r ⟨r, ⟨⟩, rfl, hr⟩
  cases r with
  | ok outcome =>
    refine ⟨⟨rfl, hr.1⟩, fun mutation h => ?_⟩
    cases h
    exact ⟨outcome, rfl, hr.2⟩
  | error failure =>
    refine (applyDeferredCleanup_settles hr.covers hr.updates).careful_bind (fun _ => hr.toIdle)
      fun _ => ⟨⟨rfl, hr.toIdle⟩, fun mutation h => ?_⟩
    cases h

theorem reloadConfigurationForRuntime_careful (h : γ.Fresh) (htarget : γ.target = none) :
    Careful (fun held γ' r => held = none ∧ γ'.Idle ∧ ∀ outcome, r = .ok outcome →
        γ'.Covers outcome.cleanup ∧ outcome.cleanup.secretUpdates = [])
      (reloadConfigurationForRuntime : Op ρ RuntimeReloadOutcome) none γ := by
  have hload : Plain (loadPathTask : Op ρ (Option LoadedConfig)) :=
    .step (fun _ _ => rfl) (fun _ _ => rfl) fun _ _ => rfl
  refine withLane_careful (fun γ' r hr => hr.1) fun w => ?_
  refine hload.careful_bind (fun hnone => by cases hnone) (fun loaded => ?_)
    fun e => ⟨h.toIdle, fun outcome ho => by cases ho⟩
  cases loaded with
  | none =>
    refine Task.Guarded.bind (enterConfigUncertainDeferred_careful h.spent) ?_ ?_
    · rintro held γ' cleanup ⟨rfl, targets, hcleanup⟩
      cases hcleanup
      have hfailed := Journal.fence_failed h.pending targets .configUncertain
      refine ⟨hfailed.toIdle, fun outcome ho => ?_⟩
      cases ho
      exact ⟨hfailed.covers, rfl⟩
    · rintro held γ' e ⟨-, targets, he⟩
      cases he
  | some loaded =>
    refine Task.Guarded.bind (replaceLoadedConfig_careful h htarget loaded) ?_ ?_
    · rintro held γ' cleanup ⟨hheld, cleanup', ⟨⟩, hpublished⟩
      have hflag : Settling γ' (setConfigUncertain false : Op ρ Unit) :=
        .step fun _ _ => ⟨⟨.still rfl rfl rfl, rfl⟩, _, rfl⟩
      refine hflag.careful_bind (fun hnone => ?_) fun _ => ?_
      · rw [hnone] at hheld
        cases hheld
      · refine ⟨⟨hpublished.reserved, hpublished.pending⟩, fun outcome ho => ?_⟩
        cases ho
        exact ⟨hpublished.covers, hpublished.updates⟩
    · rintro held γ' e ⟨-, cleanup, he, -⟩
      cases he

theorem reloadConfiguration_careful (h : γ.Fresh) (htarget : γ.target = none) :
    Careful (fun held γ' _ => Out held γ') (reloadConfiguration : Op ρ Unit) none γ := by
  refine Task.Guarded.bind (reloadConfigurationForRuntime_careful h htarget) ?_ ?_
  · rintro held γ' outcome ⟨rfl, hidle, hr⟩
    obtain ⟨hcovers, hupdates⟩ := hr outcome rfl
    refine (applyDeferredCleanup_settles hcovers hupdates).careful_bind (fun _ => hidle) fun _ => ?_
    split
    · exact ⟨rfl, hidle⟩
    · exact ⟨rfl, hidle⟩
  · rintro held γ' e ⟨rfl, hidle, -⟩
    exact ⟨rfl, hidle⟩

end

/-! ## The pool -/

/-- The calls of the public interface: those that leave no cleanup to their caller. -/
def Command.isPublic : Command → Bool
  | .execute _ | .check _ | .loadCatalogPage _ | .scanRedisKeys _ | .inspectRedisKey _
  | .acquire _ | .create _ | .update _ | .delete _ | .reload | .disconnect _ _
  | .evictExact _ _ _ | .evictGeneration _ _ => true
  | _ => false

/-- The update of a secret that a creation or an update of a profile asks for. -/
def Command.secretUpdate : Command → Option SessionSecretUpdate
  | .create request => some request.secretUpdate
  | .update request => some request.secretUpdate
  | _ => none

/-- The profile that is updated, with the update of its secret. -/
def Command.target : Command → Option (ProfileId × SessionSecretUpdate)
  | .update request => some (request.profileId, request.secretUpdate)
  | _ => none

def Journal.begin (command : Command) : Journal := { target := command.target }

theorem Journal.begin_fresh (command : Command) : (Journal.begin command).Fresh := ⟨⟨rfl, rfl⟩, rfl⟩

/-- A creation or an update that succeeds has stored the secret of its request. -/
def Accomplished (command : Command) (γ : Journal) (r : Except Failure (Outcome ρ)) : Prop :=
  ∀ outcome update, r = .ok (.mutation outcome) → command.secretUpdate = some update →
    γ.stored = some (outcome.profileId, update)

theorem finishWith_careful {command : Command} {γ : Journal} {wrap : α → Outcome ρ} {op : Op ρ α}
    {Q : Option (ObservedState × Nat) → Journal → Except ServiceError α → Prop}
    (h : Careful Q op none γ)
    (hok : ∀ held γ' a, Q held γ' (.ok a) →
      held = none ∧ Accomplished command γ' (.ok (wrap a) : Except Failure (Outcome ρ)))
    (herror : ∀ held γ' e, Q held γ' (.error e) → held = none) :
    Careful (fun held γ' r => held = none ∧ Accomplished command γ' r) (finishWith wrap op) none γ := by
  refine Task.Guarded.mapError (Task.Guarded.bind h (R := fun held γ' r => held = none ∧
    ∀ a, r = .ok a → Accomplished command γ' (.ok a : Except Failure (Outcome ρ))) ?_ ?_) ?_
  · intro held γ' a hQ
    obtain ⟨rfl, ha⟩ := hok held γ' a hQ
    refine ⟨rfl, fun b hb => ?_⟩
    cases hb
    exact ha
  · intro held γ' e hQ
    refine ⟨herror held γ' e hQ, fun a ha => ?_⟩
    cases ha
  · rintro held γ' r ⟨rfl, hr⟩
    refine ⟨rfl, ?_⟩
    cases r with
    | ok a => exact hr a rfl
    | error e =>
      intro outcome update ho
      cases ho

/-- A call that is no creation or update. -/
theorem finishWith_out {command : Command} {γ : Journal} {wrap : α → Outcome ρ} {op : Op ρ α}
    (hcommand : command.secretUpdate = none)
    (h : Careful (fun held γ' _ => Out held γ') op none γ) :
    Careful (fun held γ' r => held = none ∧ Accomplished command γ' r) (finishWith wrap op) none γ := by
  refine finishWith_careful h (fun held γ' a hQ => ⟨hQ.1, ?_⟩) fun held γ' e hQ => hQ.1
  intro outcome update _ hupdate
  rw [hcommand] at hupdate
  cases hupdate

theorem begin_careful (split : Text → Option (List Text)) {command : Command}
    (hpublic : command.isPublic = true) :
    Careful (fun held γ r => held = none ∧ Accomplished command γ r)
      (begin split command : CallTask ρ) none (Journal.begin command) := by
  have hfresh := Journal.begin_fresh command
  have hidle := hfresh.toIdle
  cases command with
  | execute request => exact finishWith_out rfl (executeAt_careful hidle split request)
  | check identity => exact finishWith_out rfl (checkAt_careful hidle _ _ _)
  | loadCatalogPage request =>
    refine finishWith_out rfl (Plain.out_bind (.done _) hidle fun _ => ?_)
    refine Plain.out_bind (ensureTypedResourceRequest_plain _ _) hidle fun context => ?_
    exact Plain.out_bind (catalogTokenKey_plain context) hidle fun _ => browse_careful hidle _
  | scanRedisKeys request =>
    refine finishWith_out rfl (Plain.out_bind (.done _) hidle fun _ => ?_)
    exact Plain.out_bind (ensureTypedResourceRequest_plain _ _) hidle fun _ => browse_careful hidle _
  | inspectRedisKey request =>
    refine finishWith_out rfl (Plain.out_bind (.done _) hidle fun _ => ?_)
    exact Plain.out_bind (ensureTypedResourceRequest_plain _ _) hidle fun _ => browse_careful hidle _
  | acquire identity => exact finishWith_out rfl (acquireSessionAt_careful hidle _ _ _)
  | create request =>
    refine finishWith_careful (settleFailure_careful (createProfileInner_careful hfresh rfl request))
      ?_ fun held γ' e hQ => hQ.1.1
    rintro held γ' mutation ⟨⟨rfl, -⟩, hdone⟩
    obtain ⟨outcome, rfl, hstored⟩ := hdone mutation rfl
    refine ⟨rfl, fun outcome' update ho hupdate => ?_⟩
    cases ho
    cases hupdate
    exact hstored
  | update request =>
    refine finishWith_careful (settleFailure_careful (updateProfileInner_careful hfresh request rfl))
      ?_ fun held γ' e hQ => hQ.1.1
    rintro held γ' mutation ⟨⟨rfl, -⟩, hdone⟩
    obtain ⟨outcome, rfl, -, hstored⟩ := hdone mutation rfl
    refine ⟨rfl, fun outcome' update ho hupdate => ?_⟩
    cases ho
    cases hupdate
    exact hstored
  | delete request =>
    refine finishWith_careful (settleFailure_careful (deleteProfileInner_careful hfresh rfl request))
      ?_ fun held γ' e hQ => hQ.1.1
    rintro held γ' mutation ⟨⟨rfl, -⟩, -⟩
    refine ⟨rfl, fun outcome' update _ hupdate => ?_⟩
    cases hupdate
  | reload => exact finishWith_out rfl (reloadConfiguration_careful hfresh rfl)
  | disconnect identity session =>
    exact finishWith_out rfl (Plain.out (disconnectProfileExact_plain _ _ _ _) hidle)
  | evictExact p g session =>
    exact finishWith_out rfl (Plain.out (evictCachedSessionExact_plain _ _ _) hidle)
  | evictGeneration p g =>
    exact finishWith_out rfl (Plain.out (evictCachedSessionProfileGeneration_plain _ _) hidle)
  | _ => cases hpublic

end Dbotter.Service
