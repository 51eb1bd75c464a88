import Dbotter.Service.BookSteps

/-!
The sections of the mutations and reloads, with the books in the lane.

A section that has read the flag in the lane knows it until it leaves: it publishes a ledger only
if the configuration is certain, unless it reloads. A section that fails puts up the fence or
leaves the books as they are.
-/

namespace Dbotter.Service
open Dbotter.Utf8 Dbotter.Execution Dbotter.Configuration Dbotter.Program
open ObservedState

variable {ρ α β ε : Type} {γ : Clerk} {w : (ObservedState × Nat) × Bool}

/-- A call that fails leaves no credential to be stored. -/
def NoCredits : Except RuntimeMutationFailure α → Prop
  | .ok _ => True
  | .error failure => failure.cleanup.secretUpdates = []

/-- A mutation in the lane, which ends with nothing in hand. -/
abbrev InLane (w : (ObservedState × Nat) × Bool) (γ : Clerk) (t : Mutation ρ α) : Prop :=
  Posted (fun _ γ' r => γ' = γ ∧ NoCredits r) t (some w) γ

/-! ## The fence -/

theorem setConfigUncertain_posted {value : Bool} (h : value = false → γ.command.reloads = true) :
    Posted (fun held γ' r => held = some (w.1, value) ∧ γ' = γ ∧ r = .ok ())
      (setConfigUncertain value : Op ρ Unit) (some w) γ := by
  apply Task.Guarded.step_in
  rintro _ s rfl
  exact ⟨γ, .flag rfl h, rfl, rfl, rfl⟩

theorem bumpGenerations_posted (hflag : w.2 = true) :
    Posted (fun _ γ' r => γ' = γ.put ∧ ∃ targets, r = .ok targets)
      (bumpGenerations : Op ρ (List DeferredCleanupTarget)) (some w) γ := by
  apply Task.Guarded.step_in
  rintro _ s rfl
  exact ⟨_, .fence (Turn.fence s.observed s.nextGeneration) rfl hflag hflag, rfl, _, rfl⟩

theorem enterConfigUncertainDeferred_posted :
    Posted (fun _ γ' r => γ' = γ.put ∧ ∃ cleanup : DeferredRuntimeCleanup, r = .ok cleanup ∧
        cleanup.secretUpdates = [])
      (enterConfigUncertainDeferred : Op ρ DeferredRuntimeCleanup) (some w) γ := by
  have hflag : Posted (fun held γ' r => held = some (w.1, true) ∧ γ' = γ ∧ r = .ok ())
      (setConfigUncertain true : Op ρ Unit) (some w) γ :=
    setConfigUncertain_posted fun h => nomatch h
  apply Task.Guarded.bind hflag
  · rintro held γ' _ ⟨rfl, rfl, -⟩
    apply Task.Guarded.bind (bumpGenerations_posted rfl)
    · rintro held δ targets ⟨rfl, -⟩
      exact ⟨rfl, _, rfl, rfl⟩
    · rintro held δ e ⟨-, targets, h⟩
      cases h
  · rintro held γ' e ⟨-, -, h⟩
    cases h

/-- The fence in front of a failure, whatever the call had in hand. -/
theorem fence_fails {f : DeferredRuntimeCleanup → Mutation ρ α}
    (hf : ∀ cleanup, ∃ error, f cleanup = .fail { error, cleanup }) :
    Posted (fun _ γ' r => γ' = γ.put ∧ ∃ failure : RuntimeMutationFailure, r = .error failure ∧
        failure.cleanup.secretUpdates = [])
      (lift enterConfigUncertainDeferred >>= f) (some w) γ := by
  have hfence : Posted (fun _ γ' r => γ' = γ.put ∧ ∃ cleanup : DeferredRuntimeCleanup,
      r = .ok cleanup ∧ cleanup.secretUpdates = [])
      (lift enterConfigUncertainDeferred : Mutation ρ DeferredRuntimeCleanup) (some w) γ := by
    apply Task.Guarded.mapError enterConfigUncertainDeferred_posted
    rintro _ γ' r ⟨rfl, cleanup, rfl, hupdates⟩
    exact ⟨rfl, cleanup, rfl, hupdates⟩
  apply Task.Guarded.bind hfence
  · rintro held γ' cleanup ⟨rfl, cleanup', h, hupdates⟩
    cases h
    obtain ⟨error, heq⟩ := hf cleanup
    rw [heq]
    exact ⟨rfl, _, rfl, hupdates⟩
  · rintro held γ' e ⟨-, cleanup, h, -⟩
    cases h

theorem runtimeMutationFailure_posted (error : ServiceError) :
    Posted (fun _ γ' r => γ' = γ.put ∧ ∃ failure : RuntimeMutationFailure, r = .error failure ∧
        failure.cleanup.secretUpdates = [])
      (runtimeMutationFailure error : Mutation ρ α) (some w) γ :=
  fence_fails fun _ => ⟨error, rfl⟩

theorem runtimeMutationFailure_inLane (hidle : γ.Idle) (error : ServiceError) :
    InLane w γ (runtimeMutationFailure error : Mutation ρ α) := by
  apply Task.Guarded.weaken (runtimeMutationFailure_posted error)
  rintro _ _ _ ⟨rfl, failure, rfl, hupdates⟩
  exact ⟨hidle.put, hupdates⟩

/-! ## Parts of a section -/

/-- A part of a mutation that leaves the books and may be refused. -/
def Passing (w : (ObservedState × Nat) × Bool) (γ : Clerk) (t : Mutation ρ α) : Prop :=
  Posted (fun held γ' r => held = some w ∧ γ' = γ ∧ NoCredits r) t (some w) γ

theorem Leaves.passing {op : Op ρ α} (h : Leaves (some w) γ op) :
    Passing w γ (lift op : Mutation ρ α) := by
  apply Task.Guarded.mapError h
  rintro _ γ r ⟨rfl, rfl⟩
  cases r with
  | ok a => exact ⟨rfl, rfl, trivial⟩
  | error e => exact ⟨rfl, rfl, rfl⟩

theorem Passing.pure (a : α) : Passing w γ (pure a : Mutation ρ α) := ⟨rfl, rfl, trivial⟩

theorem Passing.bind {t : Mutation ρ α} {f : α → Mutation ρ β} (h : Passing w γ t)
    (hf : ∀ a, Passing w γ (f a)) : Passing w γ (t >>= f) := by
  apply Task.Guarded.bind h
  · rintro _ γ a ⟨rfl, rfl, -⟩
    exact hf a
  · rintro _ _ e hend
    exact hend

theorem Passing.inLane_bind {t : Mutation ρ α} {f : α → Mutation ρ β} (h : Passing w γ t)
    (hf : ∀ a, InLane w γ (f a)) : InLane w γ (t >>= f) := by
  apply Task.Guarded.bind h
  · rintro _ γ a ⟨rfl, rfl, -⟩
    exact hf a
  · rintro _ γ e ⟨-, rfl, hnone⟩
    exact ⟨rfl, hnone⟩

/-- What a section reads in the lane, it finds in every state with these books. -/
theorem reads_posted {f : ApplicationService → Except ServiceError α} :
    Posted (fun held γ' r => held = some w ∧ γ' = γ ∧ ∃ s, books s = w ∧ r = f s)
      (.step fun _ s => ⟨s, f s, none⟩ : Op ρ α) (some w) γ := by
  apply Task.Guarded.step_in
  intro _ s hs
  exact ⟨γ, .still trivial rfl, congrArg some hs, rfl, s, hs, rfl⟩

theorem ensureConfigCertain_posted :
    Posted (fun held γ' r => held = some w ∧ γ' = γ ∧ ∀ a, r = .ok a → w.2 = false)
      (ensureConfigCertain : Op ρ Unit) (some w) γ := by
  apply Task.Guarded.weaken reads_posted
  rintro held γ r ⟨rfl, rfl, s, rfl, rfl⟩
  refine ⟨rfl, rfl, fun a ha => ?_⟩
  show s.configUncertain = false
  cases hflag : s.configUncertain with
  | false => rfl
  | true => simp [hflag] at ha

/-- The flag is read in the lane, so the rest of the section knows it. -/
theorem certain_inLane {f : Unit → Mutation ρ β} (hf : w.2 = false → InLane w γ (f ())) :
    InLane w γ (lift ensureConfigCertain >>= f) := by
  have hcheck : Posted (fun held' γ' r => held' = some w ∧ γ' = γ ∧ NoCredits r ∧
      ∀ a, r = .ok a → w.2 = false) (lift ensureConfigCertain : Mutation ρ Unit) (some w) γ := by
    apply Task.Guarded.mapError ensureConfigCertain_posted
    rintro _ γ r ⟨rfl, rfl, hcertain⟩
    cases r with
    | ok a => exact ⟨rfl, rfl, trivial, fun _ _ => hcertain a rfl⟩
    | error e => exact ⟨rfl, rfl, rfl, fun _ h => nomatch h⟩
  apply Task.Guarded.bind hcheck
  · rintro _ _ a ⟨rfl, rfl, -, hcertain⟩
    exact hf (hcertain a rfl)
  · rintro _ _ e ⟨-, rfl, hnone, -⟩
    exact ⟨rfl, hnone⟩

/-- The write leaves the books, or the fence is put up after it. -/
theorem writeConfig_posted (hidle : γ.Idle) (mutation : ConfigMutation)
    (consent : MigrationConsent) :
    Posted (fun held γ' r => γ' = γ ∧ NoCredits r ∧ ∀ a, r = .ok a → held = some w)
      (writeConfig mutation consent : Mutation ρ ObservedMutationOutcome) (some w) γ := by
  have htask : Leaves (some w) γ (mutatePathTask mutation consent : Op ρ MutationOutcome) :=
    Peaceful.silent (fun _ _ => rfl) (fun _ _ => rfl) _ γ hidle
  apply Task.Guarded.bind htask.passing
  · rintro _ γ outcome ⟨rfl, rfl, -⟩
    cases outcome.observation with
    | observed loaded => exact ⟨rfl, trivial, fun _ _ => rfl⟩
    | failed commitState source =>
      apply Task.Guarded.weaken (fence_fails fun _ => ⟨_, rfl⟩)
      rintro _ _ _ ⟨rfl, failure, rfl, hupdates⟩
      exact ⟨hidle.put, hupdates, fun _ h => nomatch h⟩
  · rintro _ γ e ⟨-, rfl, hnone⟩
    exact ⟨rfl, hnone, fun _ h => nomatch h⟩

theorem write_inLane (hidle : γ.Idle) {mutation : ConfigMutation} {consent : MigrationConsent}
    {g : RuntimeMutationFailure → RuntimeMutationFailure}
    (hg : ∀ failure, (g failure).cleanup = failure.cleanup ∨ (g failure).cleanup = {})
    {f : ObservedMutationOutcome → Mutation ρ β} (hf : ∀ outcome, InLane w γ (f outcome)) :
    InLane w γ ((writeConfig mutation consent).mapError g >>= f) := by
  have hmapped : Posted (fun held γ' r => γ' = γ ∧ NoCredits r ∧ ∀ a, r = .ok a → held = some w)
      ((writeConfig mutation consent).mapError g : Mutation ρ ObservedMutationOutcome)
      (some w) γ := by
    apply Task.Guarded.mapError (writeConfig_posted hidle mutation consent)
    rintro held γ r ⟨rfl, hnone, hheld⟩
    cases r with
    | ok a => exact ⟨rfl, trivial, fun _ _ => hheld a rfl⟩
    | error failure =>
      have hcleanup : (g failure).cleanup.secretUpdates = [] := by
        rcases hg failure with heq | heq
        · rw [heq]
          exact hnone
        · rw [heq]
      exact ⟨rfl, hcleanup, fun _ h => nomatch h⟩
  apply Task.Guarded.bind hmapped
  · rintro held γ outcome ⟨rfl, -, hheld⟩
    rw [hheld outcome rfl]
    exact hf outcome
  · rintro _ γ e ⟨rfl, hnone, -⟩
    exact ⟨rfl, hnone⟩

/-! ## Publishing a ledger -/

theorem readSnapshot_posted :
    Posted (fun held γ' r => held = some w ∧ γ' = γ ∧ ∃ s, books s = w ∧ r = .ok s.snapshot)
      (readSnapshot : Op ρ Snapshot) (some w) γ := reads_posted

theorem allocateGenerations_posted {f : Nat → β × Nat} (hle : w.1.2 ≤ (f w.1.2).2) :
    Posted (fun held γ' r => held = some ((w.1.1, (f w.1.2).2), w.2) ∧
        γ' = { γ with reserved := some w.1.2 } ∧ r = .ok (f w.1.2).1)
      (allocateGenerations f : Op ρ β) (some w) γ := by
  apply Task.Guarded.step_in
  rintro _ s rfl
  exact ⟨_, .reserve rfl hle rfl, rfl, rfl, rfl⟩

/-- The publication itself, from the ledger that was taken from the snapshot. -/
theorem replaceObserved_posted (hidle : γ.Idle) {o o' : ObservedState} {next next' : Nat}
    {flag : Bool} (target : Option ProfileId)
    (hturn : Turn (fun p => target == some p) o next o' next')
    (htarget : ∀ p, target = some p → γ.command.Renews o'.config p)
    (hcertain : γ.command.reloads = true ∨ flag = false) :
    Posted (fun held γ' r => held = some ((o', next'), flag) ∧ γ' = γ ∧ r = .ok ())
      (replaceObserved o' : Op ρ Unit) (some ((o, next'), flag))
      { γ with reserved := some next } := by
  apply Task.Guarded.step_in
  intro _ s hs
  have hobserved : s.observed = o := congrArg (fun b => b.1.1) hs
  have hnext : s.nextGeneration = next' := congrArg (fun b => b.1.2) hs
  have hflag : s.configUncertain = flag := congrArg Prod.snd hs
  subst hobserved
  subst hnext
  subst hflag
  exact ⟨_, .publish rfl hturn rfl rfl htarget hcertain, rfl, hidle.put, rfl⟩

theorem replaceLoadedConfig_posted (hidle : γ.Idle) (hreloads : γ.command.reloads = true)
    (loaded : LoadedConfig) :
    Posted (fun held γ' r => held.isSome = true ∧ γ' = γ ∧ ∃ cleanup : DeferredRuntimeCleanup,
        r = .ok cleanup ∧ cleanup.secretUpdates = [])
      (replaceLoadedConfig loaded : Op ρ DeferredRuntimeCleanup) (some w) γ := by
  apply Task.Guarded.bind readSnapshot_posted
  case herror =>
    rintro held γ' e ⟨-, -, s, -, h⟩
    cases h
  rintro held γ snapshot ⟨rfl, rfl, s, rfl, h⟩
  cases h
  have hturn := Turn.reloaded s loaded.config loaded.sourceVersion
  apply Task.Guarded.bind (allocateGenerations_posted hturn.next_le)
  case herror =>
    rintro held γ' e ⟨-, -, h⟩
    cases h
  rintro held γ numbered ⟨rfl, rfl, h⟩
  cases h
  apply Task.Guarded.bind (replaceObserved_posted hidle none hturn
    (fun _ h => by cases h) (.inl hreloads))
  · rintro held γ _ ⟨rfl, rfl, -⟩
    exact ⟨rfl, rfl, _, rfl, rfl⟩
  · rintro held _ e ⟨-, -, h⟩
    cases h

/-- What the books are after a reconciliation in a certain configuration. -/
def Reconciled (config : Config) (γ : Clerk) (held : Option ((ObservedState × Nat) × Bool))
    (γ' : Clerk) (r : Except RuntimeMutationFailure ReconcileMutationOutcome) : Prop :=
  γ' = γ ∧ match r with
  | .ok reconciled => reconciled.cleanup.secretUpdates = [] ∧
      ∃ o next, held = some ((o, next), false) ∧ o.config = config
  | .error failure => failure.cleanup.secretUpdates = []

/-- The profile that a mutation has written. -/
def MutationIdentity.target (identity : MutationIdentity) : Option ProfileId :=
  if identity.isDelete then none else some identity.profileId

theorem MutationIdentity.target_eq_some (identity : MutationIdentity) {p : ProfileId} :
    identity.target = some p ↔ identity.isDelete = false ∧ identity.profileId = p := by
  unfold MutationIdentity.target
  cases identity.isDelete <;> simp

theorem MutationIdentity.forced_eq (identity : MutationIdentity) :
    (fun p => p == identity.profileId && !identity.isDelete) =
      fun p => identity.target == some p := by
  funext p
  rw [Bool.eq_iff_iff, Bool.and_eq_true, beq_iff_eq, Bool.not_eq_true', beq_iff_eq,
    identity.target_eq_some, and_comm, eq_comm (a := p)]

theorem reconcileAfterMutation_posted (hidle : γ.Idle) (hcertain : w.2 = false) (config : Config)
    (identity : MutationIdentity)
    (hrenews : identity.isDelete = false → γ.command.Renews config identity.profileId) :
    Posted (fun held γ' r => match r with
        | .ok reconciled => γ' = γ ∧ reconciled.cleanup.secretUpdates = [] ∧
            ∃ o next, held = some ((o, next), false) ∧ o.config = config
        | .error e => e = .configUncertain ∧ held.isSome = true ∧ γ'.put = γ)
      (reconcileAfterMutation config identity : Op ρ ReconcileMutationOutcome) (some w) γ := by
  apply Task.Guarded.bind readSnapshot_posted
  case herror =>
    rintro held γ' e ⟨-, -, s, -, h⟩
    cases h
  rintro held γ snapshot ⟨rfl, rfl, s, rfl, h⟩
  cases h
  have hturn := Turn.reconciled s config identity
  apply Task.Guarded.bind (allocateGenerations_posted hturn.next_le)
  case herror =>
    rintro held γ' e ⟨-, -, h⟩
    cases h
  rintro held γ numbered ⟨rfl, rfl, h⟩
  cases h
  -- the cleanup is computed from the snapshot; an id without a generation makes it fail
  have htargets : Posted (fun held γ' r =>
        held = some ((s.observed, (s.snapshot.reconciled config identity s.nextGeneration).2.2),
          s.configUncertain) ∧
        γ' = { γ with reserved := some s.nextGeneration } ∧
        r = s.snapshot.reconcileTargets config identity s.nextGeneration)
      (.ofExcept (s.snapshot.reconcileTargets config identity s.nextGeneration) : Op ρ _)
      (some ((s.observed, (s.snapshot.reconciled config identity s.nextGeneration).2.2),
        s.configUncertain))
      { γ with reserved := some s.nextGeneration } := ⟨rfl, rfl, rfl⟩
  apply Task.Guarded.bind htargets
  case herror =>
    rintro held γ e ⟨rfl, rfl, h⟩
    exact ⟨reconcileTargets_error h.symm, rfl, hidle.put⟩
  rintro held γ ⟨fence, targets⟩ ⟨rfl, rfl, -⟩
  dsimp only
  split
  · exact ⟨rfl, rfl, hidle.put⟩
  · rw [identity.forced_eq] at hturn
    have htarget : ∀ p, identity.target = some p → γ.command.Renews config p := by
      intro p hp
      obtain ⟨hwrites, rfl⟩ := identity.target_eq_some.1 hp
      exact hrenews hwrites
    apply Task.Guarded.bind (replaceObserved_posted hidle _ hturn htarget (.inr hcertain))
    · rintro held γ _ ⟨rfl, rfl, -⟩
      exact ⟨rfl, rfl, _, _, congrArg some (Prod.ext rfl hcertain), rfl⟩
    · rintro held _ e ⟨-, -, h⟩
      cases h

theorem reconcile_posted (hidle : γ.Idle) (hcertain : w.2 = false) (config : Config)
    (identity : MutationIdentity)
    (hrenews : identity.isDelete = false → γ.command.Renews config identity.profileId) :
    Posted (Reconciled config γ)
      (reconcile config identity : Mutation ρ ReconcileMutationOutcome) (some w) γ := by
  have hreconciled : Posted _
      (reconcileAfterMutation config identity : Op ρ ReconcileMutationOutcome) (some w) γ :=
    reconcileAfterMutation_posted hidle hcertain config identity hrenews
  apply Task.Guarded.bind (Task.Guarded.attempt hreconciled (R := fun held γ' r =>
    ∃ a, r = .ok a ∧ match a with
      | .ok reconciled => γ' = γ ∧ reconciled.cleanup.secretUpdates = [] ∧
          ∃ o next, held = some ((o, next), false) ∧ o.config = config
      | .error e => e = .configUncertain ∧ held.isSome = true ∧ γ'.put = γ)
    fun held γ' r hr => ⟨r, rfl, hr⟩)
  · rintro held γ' r ⟨r, ⟨⟩, hr⟩
    cases r with
    | ok reconciled => exact hr
    | error e =>
      obtain ⟨rfl, hheld, rfl⟩ := hr
      obtain ⟨w', rfl⟩ := Option.isSome_iff_exists.1 hheld
      apply Task.Guarded.weaken (runtimeMutationFailure_posted _)
      rintro _ _ _ ⟨rfl, failure, rfl, hupdates⟩
      exact ⟨rfl, hupdates⟩
  · rintro held γ' e ⟨a, h, -⟩
    cases h

/-! ## The sections of the mutations -/

/-- A section that starts in the lane and ends with nothing in hand. -/
theorem withLane_posted {Q : Except ε α → Prop}
    {body : Task ApplicationService (Answer ρ) Event ε α} (hidle : γ.Idle)
    (h : ∀ w, Posted (fun _ γ' r => γ' = γ ∧ Q r) body (some w) γ) :
    Posted (fun held γ' r => held = none ∧ γ' = γ ∧ Q r) (withLane body) none γ := by
  have hlane : Posted (fun held γ' r => (∃ w, held = some w) ∧ γ' = γ ∧ r = .ok ())
      (.lane : Task ApplicationService (Answer ρ) Event ε Unit) none γ :=
    Task.Guarded.lane fun w => ⟨⟨w, rfl⟩, rfl, rfl⟩
  apply Task.Guarded.bind hlane
  case herror =>
    rintro held γ' e ⟨-, -, h⟩
    cases h
  rintro held γ _ ⟨⟨w, rfl⟩, rfl, -⟩
  apply Task.Guarded.bind (Task.Guarded.attempt (h w) (R := fun _ γ' r =>
    γ' = γ ∧ ∃ a, r = .ok a ∧ Q a) fun held γ' r hr => ⟨hr.1, r, rfl, hr.2⟩)
  case herror =>
    rintro held γ' e ⟨-, a, h, -⟩
    cases h
  rintro held γ r ⟨rfl, r', ⟨⟩, hr⟩
  have hunlane : Posted (fun held γ' r => held = none ∧ γ' = γ ∧ r = .ok ())
      (.unlane : Task ApplicationService (Answer ρ) Event ε Unit) held γ :=
    Task.Guarded.unlane hidle ⟨rfl, rfl, rfl⟩
  apply Task.Guarded.bind hunlane
  · rintro held γ _ ⟨rfl, rfl, -⟩
    exact ⟨rfl, rfl, hr⟩
  · rintro held γ e ⟨-, -, h⟩
    cases h

/-- A mutation outside the lane. -/
abbrev OutOfLane (γ : Clerk) (t : Mutation ρ α) : Prop :=
  Posted (fun held γ' r => held = none ∧ γ' = γ ∧ NoCredits r) t none γ

/-- A part outside the lane that leaves the books, in front of the rest of a mutation. -/
theorem Peaceful.outOfLane_bind {op : Op ρ α} {f : α → Mutation ρ β} (h : Peaceful op)
    (hidle : γ.Idle) (hf : ∀ a, OutOfLane γ (f a)) : OutOfLane γ (lift op >>= f) := by
  have hlift : Posted (fun held γ' r => held = none ∧ γ' = γ ∧ NoCredits r)
      (lift op : Mutation ρ α) none γ := by
    apply Task.Guarded.mapError (h none γ hidle)
    rintro _ γ r ⟨rfl, rfl⟩
    cases r with
    | ok a => exact ⟨rfl, rfl, trivial⟩
    | error e => exact ⟨rfl, rfl, rfl⟩
  apply Task.Guarded.bind hlift
  · rintro held γ a ⟨rfl, rfl, -⟩
    exact hf a
  · rintro held γ e hend
    exact hend

/-- The call enters a credential only while the configuration is certain. -/
def Clerk.Certain (γ : Clerk) : Prop :=
  ∀ s p, s.configUncertain = false → (s.observed.content p).isSome = true →
    Credits γ.command s p

theorem content_of_observedProfile {o : ObservedState} {config : Config} {p : ProfileId}
    {profile : ConnectionProfile} (hconfig : o.config = config)
    (h : observedProfile config p = some profile) : (o.content p).isSome = true := by
  subst hconfig
  rw [content_eq_latest]
  exact latest_of_observedProfile h

/-- A cleanup that stores nothing. -/
theorem emptyCleanup_leaves {held : Option ((ObservedState × Nat) × Bool)} (hidle : γ.Idle)
    {cleanup : DeferredRuntimeCleanup} (hupdates : cleanup.secretUpdates = []) :
    Leaves held γ (applyDeferredCleanup cleanup : Op ρ Unit) := by
  apply applyDeferredCleanup_leaves hidle
  intro p secret hmem
  rw [hupdates] at hmem
  cases hmem

/-- The secret of a request is stored with the cleanup, right after the publication. -/
theorem storeCleanup_leaves (hidle : γ.Idle) (hcertain : γ.Certain) (p : ProfileId)
    (update : SessionSecretUpdate) {o : ObservedState} (next : Nat)
    (hlisted : (o.content p).isSome = true) {cleanup : DeferredRuntimeCleanup}
    (hupdates : cleanup.secretUpdates = []) :
    Leaves (some ((o, next), false)) γ (applyDeferredCleanup { cleanup with
      secretUpdates := cleanup.secretUpdates ++ [(p, update)] } : Op ρ Unit) := by
  apply applyDeferredCleanup_leaves hidle
  intro q secret hmem s hs
  have hbooks := hs _ rfl
  rw [hupdates, List.nil_append, List.mem_singleton] at hmem
  cases hmem
  have hobserved : s.observed = o := congrArg (fun b => b.1.1) hbooks
  apply hcertain
  · exact congrArg Prod.snd hbooks
  · rw [hobserved]
    exact hlisted

theorem createMutation_posted (hidle : γ.Idle) (request : CreateProfileRequest) :
    Posted (fun held γ' r => held = some w ∧ γ' = γ ∧ NoCredits r ∧
        ∀ created, r = .ok created → created.2.toConnectionDraft = request.draft)
      (createMutation request : Mutation ρ (ConfigMutation × ConnectionProfile)) (some w) γ := by
  unfold createMutation
  split
  next profileId _ =>
    have hid : Passing w γ (lift (.ofExcept
        ((validateProfileId profileId).mapError .invalidProfile)) : Mutation ρ Unit) :=
      (Peaceful.done _ _ γ hidle).passing
    apply Task.Guarded.bind hid
    · rintro held γ _ ⟨rfl, rfl, -⟩
      exact ⟨rfl, rfl, trivial, fun _ h => by cases h; rfl⟩
    · rintro held γ e ⟨rfl, rfl, hcredits⟩
      exact ⟨rfl, rfl, hcredits, fun _ h => by cases h⟩
  · exact ⟨rfl, rfl, trivial, fun _ h => by cases h; rfl⟩

theorem createProfileInner_posted (hidle : γ.Idle) (hcertain : γ.Certain)
    (request : CreateProfileRequest)
    (hdraft : ∀ p, request.explicitId.all (· == p) → γ.command.draftFor p = some request.draft)
    (deferCleanup : Bool) :
    OutOfLane γ (createProfileInner request deferCleanup : Mutation ρ RuntimeMutationOutcome) := by
  have hcheck : Peaceful (checkDraft request.draft : Op ρ Unit) :=
    .silent (fun _ _ => rfl) fun _ _ => rfl
  apply Peaceful.outOfLane_bind ensureConfigCertain_peaceful hidle
  intro _
  apply Peaceful.outOfLane_bind hcheck hidle
  intro _
  apply Peaceful.outOfLane_bind (.done _) hidle
  intro _
  apply withLane_posted hidle
  intro w
  apply certain_inLane
  intro hflag
  apply Task.Guarded.bind (createMutation_posted hidle request)
  case herror =>
    rintro held γ e ⟨-, rfl, hcredits, -⟩
    exact ⟨rfl, hcredits⟩
  rintro held γ ⟨mutation, expectedProfile⟩ ⟨rfl, rfl, -, hcreated⟩
  apply write_inLane hidle (createWriteFailure_cleanup request)
  intro outcome
  cases outcome.affectedProfileId with
  | none => exact ⟨rfl, rfl⟩
  | some p =>
    dsimp only
    split
    · exact runtimeMutationFailure_inLane hidle _
    next hid =>
    split
    · exact runtimeMutationFailure_inLane hidle _
    next hobserved =>
      obtain ⟨written, hwritten, hsame⟩ := exists_of_beq_some (by simpa [bne] using hobserved)
      have hrenews : γ.command.Renews outcome.loaded.config p := by
        refine ⟨request.draft, written, hdraft p ?_, hwritten, ?_⟩
        · cases hexplicit : request.explicitId with
          | none => rfl
          | some q => simpa [hexplicit] using hid
        · rw [← hcreated _ rfl]
          exact (ConnectionProfile.beq_iff.1 hsame).1
      apply Task.Guarded.bind (reconcile_posted hidle hflag outcome.loaded.config (.create p)
        fun _ => hrenews)
      · rintro held γ reconciled ⟨rfl, hupdates, o, next, rfl, hconfig⟩
        cases deferCleanup with
        | true => exact ⟨rfl, trivial⟩
        | false =>
          have hstore : Leaves _ γ (applyDeferredCleanup _ : Op ρ Unit) :=
            storeCleanup_leaves hidle hcertain p request.secretUpdate next
              (content_of_observedProfile hconfig hwritten) hupdates
          exact (hstore.passing.bind fun _ => .pure _).inLane_bind fun _ => ⟨rfl, trivial⟩
      · rintro held γ failure hend
        exact hend

theorem updateProfileInner_posted (hidle : γ.Idle) (hcertain : γ.Certain)
    {request : UpdateProfileRequest}
    (hdraft : γ.command.draftFor request.profileId = some request.draft)
    (policy : UpdateSessionPolicy) :
    OutOfLane γ (updateProfileInner request policy : Mutation ρ RuntimeMutationOutcome) := by
  have hcheck : Peaceful (checkDraft request.draft : Op ρ Unit) :=
    .silent (fun _ _ => rfl) fun _ _ => rfl
  have hcurrent : Peaceful (hasCurrentSecret request.profileId : Op ρ Bool) :=
    .silent (fun _ _ => rfl) fun _ _ => rfl
  apply Peaceful.outOfLane_bind ensureConfigCertain_peaceful hidle
  intro _
  apply Peaceful.outOfLane_bind hcheck hidle
  intro _
  apply withLane_posted hidle
  intro w
  apply certain_inLane
  intro hflag
  apply (Leaves.passing (ensureGeneration_peaceful _ _ _ _ γ hidle)).inLane_bind
  intro _
  apply (Leaves.passing (profile_peaceful _ _ γ hidle)).inLane_bind
  intro expected
  apply (Leaves.passing (hcurrent _ γ hidle)).inLane_bind
  intro hasCurrent
  apply (Leaves.passing (Peaceful.done _ _ γ hidle)).inLane_bind
  intro _
  apply write_inLane hidle (checkedWriteFailure_cleanup _ _)
  intro outcome
  split
  · exact runtimeMutationFailure_inLane hidle _
  next hwritten =>
    rw [Bool.or_eq_true, not_or] at hwritten
    obtain ⟨written, hwritten, hsame⟩ := exists_of_beq_some (by simpa [bne] using hwritten.2)
    have hrenews : γ.command.Renews outcome.loaded.config request.profileId :=
      ⟨request.draft, written, hdraft, hwritten, (ConnectionProfile.beq_iff.1 hsame).1⟩
    apply Task.Guarded.bind (reconcile_posted hidle hflag outcome.loaded.config
      (.update request.profileId _) fun _ => hrenews)
    · rintro held γ reconciled ⟨rfl, hupdates, o, next, rfl, hconfig⟩
      have hstore : Leaves _ γ (applyDeferredCleanup _ : Op ρ Unit) :=
        storeCleanup_leaves hidle hcertain request.profileId request.secretUpdate next
          (content_of_observedProfile hconfig hwritten) hupdates
      cases policy with
      | defer => exact ⟨rfl, trivial⟩
      | legacy =>
        have hcleaned (result : Option DeferredSessionFence × DeferredRuntimeCleanup) :=
          hstore.passing.bind fun _ => Passing.pure result
        have hsettle : Passing ((o, next), false) γ
            (settleUpdate .legacy reconciled.deferredSession { reconciled.cleanup with
              secretUpdates := reconciled.cleanup.secretUpdates ++
                [(request.profileId, request.secretUpdate)] } : Mutation ρ _) := by
          cases reconciled.deferredSession with
          | none => exact hcleaned _
          | some fence =>
            exact (resolveDeferredSession_peaceful fence true _ γ hidle).passing.bind fun _ =>
              hcleaned _
        exact hsettle.inLane_bind fun _ => ⟨rfl, trivial⟩
    · rintro held γ failure hend
      exact hend

theorem deleteProfileInner_posted (hidle : γ.Idle) (request : DeleteProfileRequest)
    (deferCleanup : Bool) :
    OutOfLane γ (deleteProfileInner request deferCleanup : Mutation ρ RuntimeMutationOutcome) := by
  apply Peaceful.outOfLane_bind ensureConfigCertain_peaceful hidle
  intro _
  apply withLane_posted hidle
  intro w
  apply certain_inLane
  intro hflag
  apply (Leaves.passing (ensureGeneration_peaceful _ _ _ _ γ hidle)).inLane_bind
  intro _
  apply (Leaves.passing (profile_peaceful _ _ γ hidle)).inLane_bind
  intro expected
  apply write_inLane hidle (checkedWriteFailure_cleanup _ _)
  intro outcome
  split
  · exact runtimeMutationFailure_inLane hidle _
  · apply Task.Guarded.bind (reconcile_posted hidle hflag outcome.loaded.config
      (.delete request.profileId) fun h => nomatch h)
    · rintro held γ reconciled ⟨rfl, hupdates, o, next, rfl, hconfig⟩
      cases deferCleanup with
      | true => exact ⟨rfl, trivial⟩
      | false =>
        have hclean : Leaves (some ((o, next), false)) γ
            (applyDeferredCleanup reconciled.cleanup : Op ρ Unit) :=
          emptyCleanup_leaves hidle hupdates
        exact (hclean.passing.bind fun _ => .pure _).inLane_bind fun _ => ⟨rfl, trivial⟩
    · rintro held γ failure hend
      exact hend

/-! ## The calls -/

theorem settleFailure_posted {inner : Mutation ρ RuntimeMutationOutcome} (hidle : γ.Idle)
    (h : OutOfLane γ inner) :
    Leaves none γ (settleFailure inner : Op ρ ProfileMutationOutcome) := by
  apply Task.Guarded.bind (Task.Guarded.attempt h (R := fun held γ' r =>
    held = none ∧ γ' = γ ∧ ∃ a, r = .ok a ∧ NoCredits a)
    fun held γ' r hr => ⟨hr.1, hr.2.1, r, rfl, hr.2.2⟩)
  · rintro held γ r ⟨rfl, rfl, r', ⟨⟩, hr⟩
    cases r with
    | ok outcome => exact ⟨rfl, rfl⟩
    | error failure =>
      exact (emptyCleanup_leaves hidle hr).bind fun _ => .done _
  · rintro held γ e ⟨-, -, a, h, -⟩
    cases h

/-- A reload leaves no credential either; it lowers the flag after it has published. -/
theorem reloadConfigurationForRuntime_posted (hidle : γ.Idle)
    (hreloads : γ.command.reloads = true) :
    Posted (fun held γ' r => held = none ∧ γ' = γ ∧ ∀ outcome : RuntimeReloadOutcome,
        r = .ok outcome → outcome.cleanup.secretUpdates = [])
      (reloadConfigurationForRuntime : Op ρ RuntimeReloadOutcome) none γ := by
  have hload : Peaceful (loadPathTask : Op ρ (Option LoadedConfig)) :=
    .silent (fun _ _ => rfl) fun _ _ => rfl
  apply withLane_posted hidle
  intro w
  apply Leaves.posted_bind (hload _ γ hidle)
  case herror => exact fun e => ⟨rfl, fun _ h => nomatch h⟩
  intro loaded
  cases loaded with
  | none =>
    apply Task.Guarded.bind enterConfigUncertainDeferred_posted
    · rintro held _ cleanup ⟨rfl, cleanup', h, hupdates⟩
      cases h
      refine ⟨hidle.put, fun outcome ho => ?_⟩
      cases ho
      exact hupdates
    · rintro held _ e ⟨-, cleanup, h, -⟩
      cases h
  | some loaded =>
    apply Task.Guarded.bind (replaceLoadedConfig_posted hidle hreloads loaded)
    · rintro held γ cleanup ⟨hheld, rfl, cleanup', h, hupdates⟩
      cases h
      obtain ⟨w', rfl⟩ := Option.isSome_iff_exists.1 hheld
      have hlower : Posted (fun held γ' r => held = some (w'.1, false) ∧ γ' = γ ∧ r = .ok ())
          (setConfigUncertain false : Op ρ Unit) (some w') γ :=
        setConfigUncertain_posted fun _ => hreloads
      apply Task.Guarded.bind hlower
      · rintro held γ _ ⟨rfl, rfl, -⟩
        refine ⟨rfl, fun outcome ho => ?_⟩
        cases ho
        exact hupdates
      · rintro held γ e ⟨-, -, h⟩
        cases h
    · rintro held γ e ⟨-, -, cleanup, h, -⟩
      cases h

theorem reloadConfiguration_posted (hidle : γ.Idle) (hreloads : γ.command.reloads = true) :
    Leaves none γ (reloadConfiguration : Op ρ Unit) := by
  apply Task.Guarded.bind (reloadConfigurationForRuntime_posted hidle hreloads)
  · rintro held γ outcome ⟨rfl, rfl, hupdates⟩
    apply (emptyCleanup_leaves hidle (hupdates outcome rfl)).bind
    intro _
    split
    · exact .done _
    · exact .done _
  · rintro held γ e ⟨rfl, rfl, -⟩
    exact ⟨rfl, rfl⟩

/-- A credential is stored where its profile is found current and in session mode, in the lane. -/
theorem storeSessionCredentialExact_leaves (hidle : γ.Idle) {identity : RequestIdentity}
    {secret : SessionSecret} (hcommand : γ.command = .storeCredential identity secret) :
    Leaves none γ (storeSessionCredentialExact identity.operationId identity.profileId
      identity.profileGeneration secret : Op ρ Unit) := by
  apply Leaves.bind (ensureConfigCertain_peaceful _ γ hidle)
  intro _
  apply Task.Guarded.weaken (withLane_posted (Q := fun _ => True) hidle _)
  · rintro held γ' r ⟨hheld, hγ, -⟩
    exact ⟨hheld, hγ⟩
  intro w
  apply Task.Guarded.bind ensureConfigCertain_posted
  case herror =>
    rintro held γ e ⟨rfl, rfl, -⟩
    exact ⟨rfl, trivial⟩
  rintro held γ _ ⟨rfl, rfl, hcertain⟩
  have hflag := hcertain _ rfl
  apply Task.Guarded.bind reads_posted
  case herror =>
    rintro held γ e ⟨rfl, rfl, -⟩
    exact ⟨rfl, trivial⟩
  rintro held γ _ ⟨rfl, rfl, s, rfl, hgeneration⟩
  have hlive : s.observed.live identity.profileId = some identity.profileGeneration := by
    by_contra hne
    have hstale : s.generationIs identity.profileId identity.profileGeneration = false := by
      simpa [ApplicationService.generationIs, ObservedState.live] using hne
    simp [hstale] at hgeneration
  apply Task.Guarded.bind reads_posted
  case herror =>
    rintro held γ e ⟨rfl, rfl, -⟩
    exact ⟨rfl, trivial⟩
  rintro held γ profile ⟨rfl, rfl, s', hs', hprofile⟩
  have hobserved : observedProfile s'.observed.config identity.profileId = some profile := by
    cases hfind : observedProfile s'.observed.config identity.profileId with
    | none => simp [hfind] at hprofile
    | some found =>
      simp only [hfind, Except.ok.injEq] at hprofile
      rw [hprofile]
  split
  · exact ⟨rfl, trivial⟩
  next hmode =>
    apply Task.Guarded.weaken (applySecret_leaves hidle _)
    · rintro held γ' r ⟨-, hγ⟩
      exact ⟨hγ, trivial⟩
    intro secret' _ s'' hs''
    have hbooks := hs'' _ rfl
    have hstate : s''.observed = s.observed := congrArg (fun b => b.1.1) hbooks
    have hstate' : s''.observed = s'.observed := congrArg (fun b => b.1.1) (hbooks.trans hs'.symm)
    unfold Credits
    rw [hcommand]
    refine ⟨(congrArg Prod.snd hbooks).trans hflag, rfl, ?_, profile, ?_, by simpa using hmode⟩
    · rw [hstate]
      exact hlive
    · rw [hstate']
      exact hobserved

theorem finishWith_leaves {wrap : α → Outcome ρ} {op : Op ρ α} (h : Leaves none γ op) :
    Leaves none γ (finishWith wrap op) :=
  (h.bind fun _ => .done _).mapError _

theorem finishMutation_leaves {inner : Mutation ρ RuntimeMutationOutcome}
    (h : OutOfLane γ inner) : Leaves none γ (finishMutation inner) := by
  have hinner : Leaves none γ inner := by
    apply Task.Guarded.weaken h
    rintro held γ' r ⟨hheld, hγ, -⟩
    exact ⟨hheld, hγ⟩
  exact (hinner.bind fun _ => .done _).mapError _

/-- Every call keeps `BookStep`, and ends outside the lane with nothing in hand. -/
theorem begin_leaves (split : Text → Option (List Text)) (command : Command) :
    Leaves none { command } (begin split command : CallTask ρ) := by
  have hidle : Clerk.Idle { command } := rfl
  cases command with
  | execute request => exact finishWith_leaves (executeAt_peaceful split request _ _ hidle)
  | check identity => exact finishWith_leaves (checkAt_peaceful _ _ _ _ _ hidle)
  | loadCatalogPage request => exact finishWith_leaves (loadCatalogPage_peaceful request _ _ hidle)
  | scanRedisKeys request => exact finishWith_leaves (scanRedisKeys_peaceful request _ _ hidle)
  | inspectRedisKey request =>
    exact finishWith_leaves (inspectRedisKey_peaceful request _ _ hidle)
  | acquire identity => exact finishWith_leaves (acquireSessionAt_peaceful _ _ _ _ _ hidle)
  | create request =>
    exact finishWith_leaves (settleFailure_posted hidle
      (createProfileInner_posted hidle (fun _ _ hcertain hlisted => ⟨hcertain, hlisted⟩)
        request (fun _ hid => if_pos hid) _))
  | createForRuntime request =>
    exact finishMutation_leaves
      (createProfileInner_posted hidle (fun _ _ hcertain hlisted => ⟨hcertain, hlisted⟩)
        request (fun _ hid => if_pos hid) _)
  | update request =>
    exact finishWith_leaves (settleFailure_posted hidle
      (updateProfileInner_posted hidle (fun _ _ hcertain hlisted => ⟨hcertain, hlisted⟩)
        (if_pos rfl) _))
  | updateForRuntime request =>
    exact finishMutation_leaves
      (updateProfileInner_posted hidle (fun _ _ hcertain hlisted => ⟨hcertain, hlisted⟩)
        (if_pos rfl) _)
  | delete request =>
    exact finishWith_leaves (settleFailure_posted hidle (deleteProfileInner_posted hidle _ _))
  | deleteForRuntime request =>
    exact finishMutation_leaves (deleteProfileInner_posted hidle _ _)
  | reload => exact finishWith_leaves (reloadConfiguration_posted hidle rfl)
  | reloadForRuntime =>
    apply finishWith_leaves
    apply Task.Guarded.weaken (reloadConfigurationForRuntime_posted hidle rfl)
    rintro held γ' r ⟨hheld, hγ, -⟩
    exact ⟨hheld, hγ⟩
  | resolveDeferred fence allowRetag =>
    exact finishWith_leaves (resolveDeferredSession_peaceful _ _ _ _ hidle)
  | applyCleanup cleanup =>
    exact finishWith_leaves (applyDeferredCleanup_leaves hidle fun _ _ _ _ _ => trivial)
  | storeCredential identity secret =>
    exact finishWith_leaves (storeSessionCredentialExact_leaves hidle rfl)
  | evictExact p g n => exact finishWith_leaves (evictCachedSessionExact_peaceful _ _ _ _ _ hidle)
  | evictGeneration p g =>
    exact finishWith_leaves (evictCachedSessionProfileGeneration_peaceful _ _ _ _ hidle)
  | disconnect identity n =>
    exact finishWith_leaves (disconnectProfileExact_peaceful _ _ _ _ _ _ hidle)
  | shutdown => exact finishWith_leaves (shutdownRuntime_peaceful _ _ hidle)

end Dbotter.Service
