import Dbotter.Program.Lane
import Dbotter.Service.GenerationRuns
import Dbotter.Service.SecretCalls

/-!
What one step of a call does to the books of the service, while any other calls run.

The books are what only the holder of the lane changes: the ledger, its counter and the flag. A
step that leaves them hands out a lease only for a live generation of a certain configuration, and
a credential only for a profile that is there.
-/

namespace Dbotter.Service
open Dbotter.Utf8 Dbotter.Execution Dbotter.Configuration Dbotter.Program
open ObservedState

variable {ρ α ε : Type}

def books (s : ApplicationService) : (ObservedState × Nat) × Bool := (ledger s, s.configUncertain)

/-- A call with its command, and the counter before the call took generations from it. -/
structure Clerk where
  command : Command
  reserved : Option Nat := none

/-- Outside the lane a call has no ledger to publish. -/
def Clerk.Idle (γ : Clerk) : Prop := γ.reserved = none

def Clerk.put (γ : Clerk) : Clerk := { γ with reserved := none }

theorem Clerk.Idle.put {γ : Clerk} (h : γ.Idle) : γ.put = γ := by
  cases γ
  cases h
  rfl

/-- The draft that a call may write as the profile of an id. An id that is not asked for is
allocated by the writer. -/
def Command.draftFor : Command → ProfileId → Option ConnectionDraft
  | .create request, p | .createForRuntime request, p =>
    if request.explicitId.all (· == p) then some request.draft else none
  | .update request, p | .updateForRuntime request, p =>
    if p = request.profileId then some request.draft else none
  | _, _ => none

/-- The call has created or updated the profile: it is observed as the call asked for. Such a
profile gets a new generation although its content may be what it was. -/
def Command.Renews (command : Command) (config : Config) (p : ProfileId) : Prop :=
  ∃ draft profile, command.draftFor p = some draft ∧ observedProfile config p = some profile ∧
    profile.toConnectionDraft == draft

/-- Where a call may enter a credential for a profile. A deferred cleanup does it in any state. -/
def Credits (command : Command) (s : ApplicationService) (p : ProfileId) : Prop :=
  match command with
  | .applyCleanup _ => True
  | .storeCredential identity _ => s.configUncertain = false ∧ p = identity.profileId ∧
      s.observed.live p = some identity.profileGeneration ∧
      ∃ profile, observedProfile s.observed.config p = some profile ∧
        profile.credentialMode = .session
  | _ => s.configUncertain = false ∧ (s.observed.content p).isSome

/-- What a step that leaves the books may record. -/
def Permits (command : Command) (s : ApplicationService) : Option Event → Prop
  | some (.leased g lease) => s.configUncertain = false ∧ s.observed.live lease.profileId = some g
  | some (.stored p (.replace _)) => Credits command s p
  | some .published | some .fenced => False
  | _ => True

inductive BookStep : Clerk → ApplicationService → Option Event → ApplicationService → Clerk → Prop
  | still {γ : Clerk} {s s' : ApplicationService} {e : Option Event}
      (hpermits : Permits γ.command s e) (hbooks : books s' = books s) : BookStep γ s e s' γ
  | flag {γ : Clerk} {s s' : ApplicationService} (hledger : ledger s' = ledger s)
      (hlowered : s'.configUncertain = false → γ.command.reloads = true) : BookStep γ s none s' γ
  | reserve {γ : Clerk} {s s' : ApplicationService} (hobserved : s'.observed = s.observed)
      (hnext : s.nextGeneration ≤ s'.nextGeneration)
      (hflag : s'.configUncertain = s.configUncertain) :
      BookStep γ s none s' { γ with reserved := some s.nextGeneration }
  | publish {γ : Clerk} {s s' : ApplicationService} {next : Nat} {target : Option ProfileId}
      (hreserved : γ.reserved = some next)
      (hturn : Turn (fun p => target == some p) s.observed next s'.observed s'.nextGeneration)
      (hnext : s'.nextGeneration = s.nextGeneration)
      (hflag : s'.configUncertain = s.configUncertain)
      (htarget : ∀ p, target = some p → γ.command.Renews s'.observed.config p)
      (hcertain : γ.command.reloads = true ∨ s.configUncertain = false) :
      BookStep γ s (some .published) s' γ.put
  | fence {γ : Clerk} {s s' : ApplicationService}
      (hturn : Turn (fun _ => true) s.observed s.nextGeneration s'.observed s'.nextGeneration)
      (hconfig : s'.observed.config = s.observed.config)
      (huncertain : s.configUncertain = true) (hflag : s'.configUncertain = true) :
      BookStep γ s (some .fenced) s' γ.put

theorem BookStep.command_eq {γ γ' : Clerk} {s s' : ApplicationService} {e : Option Event}
    (h : BookStep γ s e s' γ') : γ'.command = γ.command := by
  cases h <;> rfl

/-- A task that keeps `BookStep` in and out of the lane. -/
abbrev Posted (Q : Option ((ObservedState × Nat) × Bool) → Clerk → Except ε α → Prop)
    (t : Task ApplicationService (Answer ρ) Event ε α)
    (held : Option ((ObservedState × Nat) × Bool)) (γ : Clerk) : Prop :=
  t.Guarded books Clerk.Idle BookStep Q held γ

/-- The task leaves the books and the lane as they are. -/
def Leaves (held : Option ((ObservedState × Nat) × Bool)) (γ : Clerk)
    (t : Task ApplicationService (Answer ρ) Event ε α) : Prop :=
  Posted (fun held' γ' _ => held' = held ∧ γ' = γ) t held γ

/-- So does the task wherever it runs. -/
def Peaceful (t : Task ApplicationService (Answer ρ) Event ε α) : Prop :=
  ∀ held γ, γ.Idle → Leaves held γ t

section
variable {γ : Clerk} {held : Option ((ObservedState × Nat) × Bool)}
  {t : Task ApplicationService (Answer ρ) Event ε α}

/-- A step that leaves the books, in the lane or out of it. -/
theorem Leaves.step (hidle : γ.Idle)
    {f : Answer ρ → ApplicationService → Effect ApplicationService Event (Except ε α)}
    (h : ∀ i s, (∀ w, held = some w → books s = w) → Permits γ.command s (f i s).event ∧
      books (f i s).state = books s) : Leaves held γ (Task.step f) := by
  intro i s hs
  obtain ⟨hpermits, hbooks⟩ := h i s hs
  have hheld : (held.map fun _ => books (f i s).state) = held := by
    cases held with
    | none => rfl
    | some w => rw [Option.map_some, hbooks, hs w rfl]
  exact ⟨γ, .still hpermits hbooks, fun _ => ⟨hbooks, hidle⟩, hheld, rfl⟩

theorem Leaves.done (r : Except ε α) :
    Leaves held γ (.done r : Task ApplicationService (Answer ρ) Event ε α) := ⟨rfl, rfl⟩

theorem Leaves.bind {β : Type} {f : α → Task ApplicationService (Answer ρ) Event ε β}
    (h : Leaves held γ t) (hf : ∀ a, Leaves held γ (f a)) : Leaves held γ (t >>= f) := by
  apply Task.Guarded.bind h
  · rintro _ _ a ⟨rfl, rfl⟩
    exact hf a
  · rintro _ _ e hend
    exact hend

theorem Leaves.attempt {ε' : Type} (h : Leaves held γ t) :
    Leaves held γ (t.attempt : Task ApplicationService (Answer ρ) Event ε' (Except ε α)) :=
  Task.Guarded.attempt h fun _ _ _ hend => hend

theorem Leaves.mapError {ε' : Type} (h : Leaves held γ t) (f : ε → ε') :
    Leaves held γ (t.mapError f) :=
  Task.Guarded.mapError h fun _ _ _ hend => hend

/-- A task that leaves everything, in front of the rest. -/
theorem Leaves.posted_bind {β : Type} {f : α → Task ApplicationService (Answer ρ) Event ε β}
    {Q : Option ((ObservedState × Nat) × Bool) → Clerk → Except ε β → Prop} (h : Leaves held γ t)
    (hf : ∀ a, Posted Q (f a) held γ) (herror : ∀ e, Q held γ (.error e)) :
    Posted Q (t >>= f) held γ := by
  apply Task.Guarded.bind h
  · rintro _ _ a ⟨rfl, rfl⟩
    exact hf a
  · rintro _ _ e ⟨rfl, rfl⟩
    exact herror e

theorem Peaceful.step
    {f : Answer ρ → ApplicationService → Effect ApplicationService Event (Except ε α)}
    (h : ∀ command i s, Permits command s (f i s).event ∧ books (f i s).state = books s) :
    Peaceful (Task.step f) :=
  fun _ γ hidle => Leaves.step hidle fun i s _ => h γ.command i s

/-- A step that records nothing and leaves the books. -/
theorem Peaceful.silent
    {f : Answer ρ → ApplicationService → Effect ApplicationService Event (Except ε α)}
    (hevent : ∀ i s, (f i s).event = none) (hbooks : ∀ i s, books (f i s).state = books s) :
    Peaceful (Task.step f) := by
  apply Peaceful.step
  intro command i s
  rw [hevent i s]
  exact ⟨trivial, hbooks i s⟩

theorem Peaceful.done (r : Except ε α) :
    Peaceful (.done r : Task ApplicationService (Answer ρ) Event ε α) := fun _ _ _ => .done r

theorem Peaceful.bind {β : Type} {f : α → Task ApplicationService (Answer ρ) Event ε β}
    (h : Peaceful t) (hf : ∀ a, Peaceful (f a)) : Peaceful (t >>= f) :=
  fun held γ hidle => (h held γ hidle).bind fun a => hf a held γ hidle

theorem Peaceful.attempt {ε' : Type} (h : Peaceful t) :
    Peaceful (t.attempt : Task ApplicationService (Answer ρ) Event ε' (Except ε α)) :=
  fun held γ hidle => (h held γ hidle).attempt

theorem Peaceful.mapError {ε' : Type} (h : Peaceful t) (f : ε → ε') : Peaceful (t.mapError f) :=
  fun held γ hidle => (h held γ hidle).mapError f

end

/-! ## Sessions -/

theorem ensureConfigCertain_peaceful : Peaceful (ensureConfigCertain : Op ρ Unit) :=
  .silent (fun _ _ => rfl) fun _ _ => rfl

theorem ensureGeneration_peaceful (p : ProfileId) (g : ProfileGeneration) (o : OperationId) :
    Peaceful (ensureGeneration p g o : Op ρ Unit) :=
  .silent (fun _ _ => rfl) fun _ _ => rfl

theorem profile_peaceful (p : ProfileId) : Peaceful (profile p : Op ρ ConnectionProfile) :=
  .silent (fun _ _ => rfl) fun _ _ => rfl

theorem profileWithGeneration_peaceful (p : ProfileId) :
    Peaceful (profileWithGeneration p : Op ρ (ConnectionProfile × ProfileGeneration)) :=
  .silent (fun _ _ => rfl) fun _ _ => rfl

theorem ensureSessionObservation_peaceful (p : ProfileId) (g : ProfileGeneration)
    (o : OperationId) : Peaceful (ensureSessionObservation p g o : Op ρ Unit) :=
  .step fun _ _ _ => ⟨trivial, rfl⟩

theorem allocateSessionGeneration_peaceful :
    Peaceful (allocateSessionGeneration : Op ρ SessionGeneration) :=
  .silent (fun _ _ => rfl) fun _ _ => rfl

theorem close_peaceful (handle : Handle) : Peaceful (close handle : Op ρ Unit) :=
  .silent (fun _ _ => rfl) fun _ _ => rfl

theorem cachedSessionIdentity_peaceful (p : ProfileId) :
    Peaceful (cachedSessionIdentity p : Op ρ (Option CachedSessionIdentity)) :=
  .silent (fun _ _ => rfl) fun _ _ => rfl

theorem takeCachedSessionExact_peaceful (p : ProfileId) (g : ProfileGeneration)
    (session : SessionGeneration) :
    Peaceful (takeCachedSessionExact p g session : Op ρ (Option Handle)) := by
  apply Peaceful.step
  intro command _ s
  cases s.sessions.lookup p with
  | none => exact ⟨trivial, rfl⟩
  | some cached =>
    dsimp only
    split
    · exact ⟨trivial, rfl⟩
    · exact ⟨trivial, rfl⟩

theorem evictCachedSessionExact_peaceful (p : ProfileId) (g : ProfileGeneration)
    (session : SessionGeneration) :
    Peaceful (evictCachedSessionExact p g session : Op ρ Bool) := by
  apply Peaceful.bind (takeCachedSessionExact_peaceful p g session)
  intro removed
  cases removed with
  | none => exact .done _
  | some handle => exact .bind (close_peaceful handle) fun _ => .done _

theorem retagCachedSessionExact_peaceful (p : ProfileId) (expected : CachedSessionIdentity)
    (g : ProfileGeneration) (fingerprint : ConnectionFingerprint) :
    Peaceful (retagCachedSessionExact p expected g fingerprint : Op ρ Bool) := by
  apply Peaceful.step
  intro command _ s
  cases s.sessions.lookup p with
  | none => exact ⟨trivial, rfl⟩
  | some cached =>
    dsimp only
    split
    · exact ⟨trivial, rfl⟩
    · exact ⟨trivial, rfl⟩

theorem resolveDeferredSession_peaceful (fence : DeferredSessionFence) (allowRetag : Bool) :
    Peaceful (resolveDeferredSession fence allowRetag : Op ρ Bool) := by
  unfold resolveDeferredSession
  split
  · exact retagCachedSessionExact_peaceful _ _ _ _
  · exact .bind (evictCachedSessionExact_peaceful _ _ _) fun _ => .done _

/-- The generation is the live one under the lock, where the section leases a session for it. -/
theorem isCurrent_live {s : ApplicationService} {profile : ConnectionProfile}
    {g : ProfileGeneration} (h : s.isCurrent profile g = true) :
    s.observed.live profile.id = some g := by
  simp only [ApplicationService.isCurrent, ApplicationService.generationIs, Bool.and_eq_true,
    beq_iff_eq] at h
  exact h.1

theorem lookupSession_peaceful (profile : ConnectionProfile) (g : ProfileGeneration)
    (o : OperationId) : Peaceful (lookupSession profile g o : Op ρ (Option SessionLease)) := by
  apply Peaceful.step
  intro command _ s
  split
  · exact ⟨trivial, rfl⟩
  next hcertain =>
    split
    · exact ⟨trivial, rfl⟩
    next hcurrent =>
      cases s.sessions.lookup profile.id with
      | none => exact ⟨trivial, rfl⟩
      | some cached =>
        dsimp only
        split
        · exact ⟨⟨by simpa using hcertain, isCurrent_live (by simpa using hcurrent)⟩, rfl⟩
        · exact ⟨trivial, rfl⟩

theorem installSession_peaceful (profile : ConnectionProfile) (g : ProfileGeneration)
    (session : SessionGeneration) (connected : Handle) :
    Peaceful (installSession profile g session connected : Op ρ CacheInstall) := by
  apply Peaceful.step
  intro command _ s
  dsimp only
  split
  · exact ⟨trivial, rfl⟩
  next hcertain =>
    split
    · exact ⟨trivial, rfl⟩
    next hcurrent =>
      have hleased : s.configUncertain = false ∧ s.observed.live profile.id = some g :=
        ⟨by simpa using hcertain, isCurrent_live (by simpa using hcurrent)⟩
      cases s.sessions.lookup profile.id with
      | none => exact ⟨hleased, rfl⟩
      | some cached =>
        dsimp only
        split
        · exact ⟨hleased, rfl⟩
        · exact ⟨hleased, rfl⟩

theorem prepareConnection_peaceful (profile : ConnectionProfile) :
    Peaceful (prepareConnection profile : Op ρ (Option SessionSecret)) :=
  .step fun _ _ _ => ⟨trivial, rfl⟩

theorem connect_peaceful (profile : ConnectionProfile) (secret : Option SessionSecret)
    (g : ProfileGeneration) :
    Peaceful (connect profile secret g : Op ρ (Except DriverError Handle)) := by
  apply Peaceful.step
  intro command answer s
  cases answer.connect with
  | error e => exact ⟨trivial, rfl⟩
  | ok _ => exact ⟨trivial, rfl⟩

theorem checkProfileForNetwork_peaceful (profile : ConnectionProfile) :
    Peaceful (checkProfileForNetwork profile : Op ρ Unit) :=
  .silent (fun _ _ => rfl) fun _ _ => rfl

theorem sessionFor_peaceful (profile : ConnectionProfile) (g : ProfileGeneration)
    (o : OperationId) : Peaceful (sessionFor profile g o : Op ρ SessionLease) := by
  apply Peaceful.bind ensureConfigCertain_peaceful
  intro _
  apply Peaceful.bind (lookupSession_peaceful profile g o)
  intro cached
  cases cached with
  | some lease => exact .done _
  | none =>
    apply Peaceful.bind (prepareConnection_peaceful profile)
    intro secret
    apply Peaceful.bind allocateSessionGeneration_peaceful
    intro session
    apply Peaceful.bind (connect_peaceful profile secret g)
    intro dialled
    cases dialled with
    | error e => exact .bind (ensureSessionObservation_peaceful _ _ _) fun _ => .done _
    | ok connected =>
      apply Peaceful.bind (installSession_peaceful profile g session connected)
      intro install
      cases install with
      | installed displaced lease =>
        cases displaced with
        | none => exact .done _
        | some displaced => exact .bind (close_peaceful _) fun _ => .done _
      | existing lease => exact .bind (close_peaceful _) fun _ => .done _
      | stale => exact .bind (close_peaceful _) fun _ => .done _
      | uncertain => exact .bind (close_peaceful _) fun _ => .done _

theorem acquireSessionAt_peaceful (o : OperationId) (p : ProfileId) (g : ProfileGeneration) :
    Peaceful (acquireSessionAt o p g : Op ρ SessionLease) := by
  apply Peaceful.bind ensureConfigCertain_peaceful
  intro _
  apply Peaceful.bind (profileWithGeneration_peaceful p)
  rintro ⟨profile, generation⟩
  dsimp only
  split
  · exact .done _
  · exact .bind (checkProfileForNetwork_peaceful profile) fun _ => sessionFor_peaceful _ _ _

/-! ## Operations -/

theorem onSession_peaceful (lease : SessionLease) :
    Peaceful (onSession lease : Op ρ (Except DriverError ρ)) :=
  .silent (fun _ _ => rfl) fun _ _ => rfl

theorem evictWhen_peaceful (condition : Bool) (lease : SessionLease) :
    Peaceful (evictWhen condition lease : Op ρ Unit) := by
  unfold evictWhen
  split
  · exact .bind (evictCachedSessionExact_peaceful _ _ _) fun _ => .done _
  · exact .done _

/-- The end of an operation: it observes, and gives its session up where it has to. -/
theorem observeAndEvict_peaceful (lease : SessionLease) (o : OperationId)
    (condition : Except ServiceError Unit → Bool) {f : Except ServiceError Unit → Op ρ α}
    (hf : ∀ observation, Peaceful (f observation)) :
    Peaceful (do
      let observation ← (observeSession lease o).attempt
      evictWhen (condition observation) lease
      f observation : Op ρ α) :=
  .bind (.attempt (ensureSessionObservation_peaceful _ _ _)) fun observation =>
    .bind (evictWhen_peaceful _ lease) fun _ => hf observation

theorem executeAt_peaceful (split : Text → Option (List Text)) (request : ExecuteRequest) :
    Peaceful (executeAt split request : Op ρ (OperationOutcome ρ)) := by
  have hprepare : Peaceful (prepareExecuteRequest split request : Op ρ TypedExecuteRequest) := by
    apply Peaceful.bind ensureConfigCertain_peaceful
    intro _
    apply Peaceful.bind (.done _)
    intro target
    apply Peaceful.bind (profileWithGeneration_peaceful _)
    rintro ⟨profile, generation⟩
    dsimp only
    split
    · exact .done _
    · split
      · exact .done _
      · exact .done _
  apply Peaceful.bind hprepare
  intro _
  apply Peaceful.bind (acquireSessionAt_peaceful _ _ _)
  intro lease
  apply Peaceful.bind (onSession_peaceful lease)
  intro result
  exact observeAndEvict_peaceful lease _
    (fun observation => resultDisposition result == .evict || !observation.isOk)
    fun _ => .bind (.done _) fun _ => .bind (.done _) fun _ => .done _

theorem checkAt_peaceful (o : OperationId) (p : ProfileId) (g : ProfileGeneration) :
    Peaceful (checkAt o p g : Op ρ (OperationOutcome ρ)) := by
  apply Peaceful.bind (acquireSessionAt_peaceful _ _ _)
  intro lease
  apply Peaceful.bind (onSession_peaceful lease)
  intro ping
  exact observeAndEvict_peaceful lease _ (fun observation => !ping.isOk || !observation.isOk)
    fun _ => .bind (.done _) fun _ => .bind (.done _) fun _ => .done _

theorem browse_peaceful (identity : RequestIdentity) : Peaceful (browse identity : Op ρ ρ) := by
  apply Peaceful.bind (acquireSessionAt_peaceful _ _ _)
  intro lease
  apply Peaceful.bind (onSession_peaceful lease)
  intro result
  exact observeAndEvict_peaceful lease _
    (fun observation => resultDisposition result == .evict || !observation.isOk)
    fun _ => .bind (.done _) fun _ => .done _

theorem ensureTypedResourceRequest_peaceful (identity : RequestIdentity) (driver : DriverKind) :
    Peaceful (ensureTypedResourceRequest identity driver : Op ρ ConnectionFingerprint) := by
  apply Peaceful.bind ensureConfigCertain_peaceful
  intro _
  apply Peaceful.bind (profileWithGeneration_peaceful _)
  rintro ⟨profile, generation⟩
  dsimp only
  split
  · exact .done _
  · split
    · exact .done _
    · exact .done _

theorem loadCatalogPage_peaceful (request : CatalogRequest) :
    Peaceful (loadCatalogPage request : Op ρ ρ) :=
  .bind (.done _) fun _ => .bind (ensureTypedResourceRequest_peaceful _ _) fun _ =>
    .bind (.silent (fun _ _ => rfl) fun _ _ => rfl) fun _ => browse_peaceful _

theorem scanRedisKeys_peaceful (request : RedisScanRequest) :
    Peaceful (scanRedisKeys request : Op ρ ρ) :=
  .bind (.done _) fun _ => .bind (ensureTypedResourceRequest_peaceful _ _) fun _ =>
    browse_peaceful _

theorem inspectRedisKey_peaceful (request : RedisKeyInspectRequest) :
    Peaceful (inspectRedisKey request : Op ρ ρ) :=
  .bind (.done _) fun _ => .bind (ensureTypedResourceRequest_peaceful _ _) fun _ =>
    browse_peaceful _

theorem evictCachedSessionProfileGeneration_peaceful (p : ProfileId) (g : ProfileGeneration) :
    Peaceful (evictCachedSessionProfileGeneration p g : Op ρ Bool) := by
  apply Peaceful.bind (cachedSessionIdentity_peaceful p)
  intro identity
  cases identity with
  | none => exact .done _
  | some identity =>
    dsimp only
    split
    · exact evictCachedSessionExact_peaceful _ _ _
    · exact .done _

theorem disconnectProfileExact_peaceful (o : OperationId) (p : ProfileId) (g : ProfileGeneration)
    (session : Option SessionGeneration) :
    Peaceful (disconnectProfileExact o p g session : Op ρ (Option CachedSessionIdentity)) := by
  apply Peaceful.bind (ensureGeneration_peaceful p g o)
  intro _
  apply Peaceful.bind (cachedSessionIdentity_peaceful p)
  intro identity
  cases identity with
  | none =>
    cases session with
    | none => exact .done _
    | some expected => exact .done _
  | some identity =>
    cases session with
    | none => exact .done _
    | some expected =>
      dsimp only
      split
      · apply Peaceful.bind (evictCachedSessionExact_peaceful _ _ _)
        intro evicted
        split
        · exact .done _
        · exact .done _
      · exact .done _

theorem closeAll_peaceful (handles : List Handle) : Peaceful (closeAll handles : Op ρ Unit) := by
  induction handles with
  | nil => exact .done _
  | cons handle handles ih => exact .bind (close_peaceful handle) fun _ => ih

theorem clearAllSecrets_peaceful : Peaceful (clearAllSecrets : Op ρ Unit) :=
  .silent (fun _ _ => rfl) fun _ _ => rfl

theorem shutdownRuntime_peaceful : Peaceful (shutdownRuntime : Op ρ Unit) :=
  .bind (.silent (fun _ _ => rfl) fun _ _ => rfl) fun handles =>
    .bind clearAllSecrets_peaceful.attempt fun _ => closeAll_peaceful handles

/-! ## Cleanup -/

theorem evictTargets_peaceful (targets : List DeferredCleanupTarget) :
    Peaceful (evictTargets targets : Op ρ Unit) := by
  induction targets with
  | nil => exact .done _
  | cons target targets ih =>
    unfold evictTargets
    split
    · exact .bind (evictCachedSessionExact_peaceful _ _ _) fun _ => ih
    · exact ih

theorem clearTargetSecrets_peaceful (targets : List DeferredCleanupTarget) :
    Peaceful (clearTargetSecrets targets : Op ρ Unit) := by
  induction targets with
  | nil => exact .done _
  | cons target targets ih =>
    unfold clearTargetSecrets
    split
    · exact .bind (.step fun _ _ _ => ⟨trivial, rfl⟩) fun _ => ih
    · exact ih

theorem retainSecrets_peaceful (ids : List ProfileId) :
    Peaceful (retainSecrets ids : Op ρ Unit) :=
  .silent (fun _ _ => rfl) fun _ _ => rfl

section
variable {γ : Clerk} {held : Option ((ObservedState × Nat) × Bool)}

/-- Where the call may enter a credential for `p`, whatever it finds outside the lane. -/
def MayCredit (held : Option ((ObservedState × Nat) × Bool)) (command : Command) (p : ProfileId) :
    Prop :=
  ∀ s, (∀ w, held = some w → books s = w) → Credits command s p

theorem applySecret_leaves (hidle : γ.Idle) {p : ProfileId} {update : SessionSecretUpdate}
    (h : ∀ secret, update = .replace secret → MayCredit held γ.command p) :
    Leaves held γ (applySecret p update : Op ρ Unit) := by
  apply Leaves.step hidle
  intro _ s hs
  cases update with
  | keep => exact ⟨trivial, rfl⟩
  | replace secret => exact ⟨h secret rfl s hs, rfl⟩
  | clear => exact ⟨trivial, rfl⟩

theorem applySecretUpdates_leaves (hidle : γ.Idle)
    {updates : List (ProfileId × SessionSecretUpdate)}
    (h : ∀ p secret, (p, .replace secret) ∈ updates → MayCredit held γ.command p) :
    Leaves held γ (applySecretUpdates updates : Op ρ Unit) := by
  induction updates with
  | nil => exact .done _
  | cons update updates ih =>
    apply Leaves.bind
    · apply applySecret_leaves hidle
      intro secret hsecret
      apply h update.1 secret
      rw [← hsecret]
      exact List.mem_cons_self
    · intro _
      exact ih fun p secret hmem => h p secret (List.mem_cons_of_mem _ hmem)

theorem applyDeferredCleanup_leaves (hidle : γ.Idle) {cleanup : DeferredRuntimeCleanup}
    (h : ∀ p secret, (p, .replace secret) ∈ cleanup.secretUpdates →
      MayCredit held γ.command p) :
    Leaves held γ (applyDeferredCleanup cleanup : Op ρ Unit) := by
  apply Leaves.bind (evictTargets_peaceful _ held γ hidle)
  intro _
  apply Leaves.bind (clearTargetSecrets_peaceful _ held γ hidle)
  intro _
  split
  · exact clearAllSecrets_peaceful held γ hidle
  · split
    · exact .bind (retainSecrets_peaceful _ held γ hidle) fun _ => applySecretUpdates_leaves hidle h
    · exact applySecretUpdates_leaves hidle h

end

end Dbotter.Service
