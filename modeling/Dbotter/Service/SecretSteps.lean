import Dbotter.Program.Lane
import Dbotter.Service.Reconciliation
import Dbotter.Service.Secrets

/-!
What one step of a call does to the ledger and to the secrets, while other calls run.

The ledger changes in the lane only. A call that has published a ledger, or has put up the fence,
may still drop the secrets of `sweep`; inside the lane it may also have a secret to store.
-/

namespace Dbotter.Service
open Dbotter.Utf8 Dbotter.Execution Dbotter.Configuration Dbotter.Program
open ObservedState

variable {ρ α ε : Type}

/-- The part of the state that the lane protects. -/
def ledger (s : ApplicationService) : ObservedState × Nat := (s.observed, s.nextGeneration)

/-- What a call has done so far. -/
structure Journal where
  /-- The profile and the generation that it is to connect to. -/
  read : Option (ConnectionProfile × ProfileGeneration) := none
  resolved : Option (Option SessionSecret) := none
  /-- The counter before the call took generations from it. -/
  reserved : Option Nat := none
  spent : Bool := false
  sweep : ProfileId → Prop := fun _ => False
  pending : Option (ProfileId × SessionSecretUpdate) := none
  stored : Option (ProfileId × SessionSecretUpdate) := none
  /-- What an update is asked to do with the secret of its profile. -/
  target : Option (ProfileId × SessionSecretUpdate) := none

/-- A call outside the lane has no ledger to publish and no secret to store. -/
structure Journal.Idle (γ : Journal) : Prop where
  reserved : γ.reserved = none
  pending : γ.pending = none

def Journal.publish (γ : Journal) (sweep : ProfileId → Prop)
    (pending : Option (ProfileId × SessionSecretUpdate)) : Journal :=
  { γ with reserved := none, spent := true, sweep, pending }

def Journal.fence (γ : Journal) : Journal :=
  { γ with reserved := none, spent := true, sweep := fun _ => True }

def Journal.store (γ : Journal) (p : ProfileId) (update : SessionSecretUpdate) : Journal :=
  { γ with pending := none, stored := some (p, update) }

/-- The events of the steps that neither change the ledger nor deal with a secret. -/
def plainEvent : Option Event → Bool
  | none | some (.leased _ _) | some (.observed _ _) => true
  | _ => false

inductive SecretStep :
    Journal → ApplicationService → Option Event → ApplicationService → Journal → Prop
  | still {γ : Journal} {s s' : ApplicationService} {e : Option Event} (he : plainEvent e = true)
      (hledger : ledger s' = ledger s) (hsecrets : s'.sessionSecrets = s.sessionSecrets) :
      SecretStep γ s e s' γ
  | read {γ : Journal} {s : ApplicationService} (profile : ConnectionProfile)
      (generation : ProfileGeneration) (hlive : s.observed.live profile.id = some generation) :
      SecretStep γ s none s { γ with read := some (profile, generation), resolved := none }
  | resolve {γ : Journal} {s : ApplicationService} {profile : ConnectionProfile}
      {generation : ProfileGeneration} (secret : Option SessionSecret)
      (hread : γ.read = some (profile, generation))
      (hsecret : profile.credentialMode = .session →
        secret = s.secret profile.id ∧ secret.isSome) :
      SecretStep γ s (some (.resolved profile.id)) s { γ with resolved := some secret }
  | refuse {γ : Journal} {s : ApplicationService} (p : ProfileId) :
      SecretStep γ s (some (.resolved p)) s { γ with read := none, resolved := none }
  | dial {γ : Journal} {s s' : ApplicationService} {profile : ConnectionProfile}
      {generation : ProfileGeneration} {secret : Option SessionSecret}
      (hread : γ.read = some (profile, generation)) (hresolved : γ.resolved = some secret)
      (hledger : ledger s' = ledger s) (hsecrets : s'.sessionSecrets = s.sessionSecrets) :
      SecretStep γ s (some (.dialled profile secret generation)) s' γ
  | reserve {γ : Journal} {s s' : ApplicationService} (hspent : γ.spent = false)
      (hobserved : s'.observed = s.observed) (hnext : s.nextGeneration ≤ s'.nextGeneration)
      (hsecrets : s'.sessionSecrets = s.sessionSecrets) :
      SecretStep γ s none s' { γ with reserved := some s.nextGeneration }
  | publish {γ : Journal} {s s' : ApplicationService} {next : Nat} {forced : ProfileId → Bool}
      (sweep : ProfileId → Prop) (pending : Option (ProfileId × SessionSecretUpdate))
      (hreserved : γ.reserved = some next) (hspent : γ.spent = false)
      (hturn : Turn forced s.observed next s'.observed s'.nextGeneration)
      (hnext : s'.nextGeneration = s.nextGeneration)
      (hsecrets : s'.sessionSecrets = s.sessionSecrets)
      (hsweep : ∀ q, sweep q →
        ¬ s.observed.Unchanged s'.observed q ∨ s'.observed.content q = none)
      (hpending : ∀ q update, pending = some (q, update) →
        forced q = true ∧ (s'.observed.content q).isSome ∧ ¬sweep q)
      (htarget : ∀ target, γ.target = some target → pending = some target) :
      SecretStep γ s (some .published) s' (γ.publish sweep pending)
  | fence {γ : Journal} {s s' : ApplicationService} (hspent : γ.spent = false)
      (hturn : Turn (fun _ => true) s.observed s.nextGeneration s'.observed s'.nextGeneration)
      (hconfig : s'.observed.config = s.observed.config)
      (hsecrets : s'.sessionSecrets = s.sessionSecrets) :
      SecretStep γ s (some .fenced) s' γ.fence
  | sweep {γ : Journal} {s s' : ApplicationService} {e : Option Event}
      (he : e = none ∨ ∃ q, e = some (.stored q .clear) ∧ γ.sweep q ∧ s'.secret q = none)
      (hledger : ledger s' = ledger s)
      (hsecrets : ∀ q, s'.secret q = s.secret q ∨ s'.secret q = none ∧ γ.sweep q) :
      SecretStep γ s e s' γ
  | store {γ : Journal} {s s' : ApplicationService} {p : ProfileId} {update : SessionSecretUpdate}
      (hpending : γ.pending = some (p, update)) (hledger : ledger s' = ledger s)
      (hsecrets : s'.sessionSecrets = update.apply p s.sessionSecrets) :
      SecretStep γ s (some (.stored p update)) s' (γ.store p update)

/-- A task that keeps `SecretStep` in and out of the lane. -/
abbrev Careful (Q : Option (ObservedState × Nat) → Journal → Except ε α → Prop)
    (t : Task ApplicationService (Answer ρ) Event ε α) (held : Option (ObservedState × Nat))
    (γ : Journal) : Prop :=
  t.Guarded ledger Journal.Idle SecretStep Q held γ

/-- A step that leaves the ledger and keeps the journal. -/
def Keeps (γ : Journal) (s : ApplicationService) (e : Option Event) (s' : ApplicationService) : Prop :=
  SecretStep γ s e s' γ ∧ ledger s' = ledger s

/-- A task of such steps. -/
def Plain (t : Task ApplicationService (Answer ρ) Event ε α) : Prop :=
  ∀ γ, t.Steps (Keeps γ) fun _ => True

/-- A task of such steps that succeeds. -/
def Settling (γ : Journal) (t : Task ApplicationService (Answer ρ) Event ε α) : Prop :=
  t.Steps (Keeps γ) fun r => ∃ a, r = .ok a

section
variable {γ : Journal} {t : Task ApplicationService (Answer ρ) Event ε α}

theorem Plain.step {f : Answer ρ → ApplicationService → Effect ApplicationService Event (Except ε α)}
    (he : ∀ i s, plainEvent (f i s).event = true)
    (hledger : ∀ i s, ledger (f i s).state = ledger s)
    (hsecrets : ∀ i s, (f i s).state.sessionSecrets = s.sessionSecrets) : Plain (Task.step f) :=
  fun _ => Task.Steps.step fun i s =>
    ⟨⟨.still (he i s) (hledger i s) (hsecrets i s), hledger i s⟩, trivial⟩

theorem Plain.done (r : Except ε α) :
    Plain (.done r : Task ApplicationService (Answer ρ) Event ε α) := fun _ => trivial

theorem Plain.bind {β : Type} {f : α → Task ApplicationService (Answer ρ) Event ε β}
    (h : Plain t) (hf : ∀ a, Plain (f a)) : Plain (t >>= f) :=
  fun γ => Task.Steps.bind (h γ) (fun a _ => hf a γ) fun _ _ => trivial

theorem Plain.attempt {ε' : Type} (h : Plain t) :
    Plain (t.attempt : Task ApplicationService (Answer ρ) Event ε' (Except ε α)) :=
  fun γ => Task.Steps.attempt (h γ) fun _ _ => trivial

theorem Plain.mapError {ε' : Type} (h : Plain t) (f : ε → ε') : Plain (t.mapError f) :=
  fun γ => Task.Steps.mapError (h γ) fun _ _ => trivial

theorem Plain.of_settles (h : ∀ γ, Settling γ t) : Plain t :=
  fun γ => Task.Steps.weaken (h γ) fun _ _ => trivial

theorem Settling.step {f : Answer ρ → ApplicationService → Effect ApplicationService Event (Except ε α)}
    (h : ∀ i s, Keeps γ s (f i s).event (f i s).state ∧ ∃ a, (f i s).value = .ok a) :
    Settling γ (Task.step f) :=
  Task.Steps.step h

theorem Settling.ok (a : α) :
    Settling γ (.done (.ok a) : Task ApplicationService (Answer ρ) Event ε α) := ⟨a, rfl⟩

theorem Settling.bind {β : Type} {f : α → Task ApplicationService (Answer ρ) Event ε β}
    (h : Settling γ t) (hf : ∀ a, Settling γ (f a)) : Settling γ (t >>= f) := by
  refine Task.Steps.bind h (fun a _ => hf a) fun e he => ?_
  obtain ⟨a, ha⟩ := he
  cases ha

theorem Settling.mapError {ε' : Type} (h : Settling γ t) (f : ε → ε') : Settling γ (t.mapError f) := by
  refine Task.Steps.mapError h fun r hr => ?_
  obtain ⟨a, rfl⟩ := hr
  exact ⟨a, rfl⟩

/-- A task that settles, in front of the rest. -/
theorem Settling.careful_bind {β : Type} {f : α → Task ApplicationService (Answer ρ) Event ε β}
    {Q : Option (ObservedState × Nat) → Journal → Except ε β → Prop}
    {held : Option (ObservedState × Nat)} (h : Settling γ t) (hidle : held = none → γ.Idle)
    (hf : ∀ a, Careful Q (f a) held γ) : Careful Q (t >>= f) held γ := by
  refine Task.Guarded.bind (Q := fun held' γ' r => held' = held ∧ γ' = γ ∧ ∃ a, r = .ok a)
    (Task.Guarded.of_steps h hidle fun r hr => ⟨rfl, rfl, hr⟩) ?_ ?_
  · rintro held' γ' a ⟨rfl, rfl, -⟩
    exact hf a
  · rintro held' γ' e ⟨-, -, a, ha⟩
    cases ha

/-- A task that changes nothing and may fail, in front of the rest. -/
theorem Plain.careful_bind {β : Type} {f : α → Task ApplicationService (Answer ρ) Event ε β}
    {Q : Option (ObservedState × Nat) → Journal → Except ε β → Prop}
    {held : Option (ObservedState × Nat)} (h : Plain t) (hidle : held = none → γ.Idle)
    (hf : ∀ a, Careful Q (f a) held γ) (herror : ∀ e, Q held γ (.error e)) :
    Careful Q (t >>= f) held γ := by
  refine Task.Guarded.bind (Q := fun held' γ' _ => held' = held ∧ γ' = γ)
    (Task.Guarded.of_steps (h γ) hidle fun r _ => ⟨rfl, rfl⟩) ?_ ?_
  · rintro held' γ' a ⟨rfl, rfl⟩
    exact hf a
  · rintro held' γ' e ⟨rfl, rfl⟩
    exact herror e

end

/-! ## Sessions -/

theorem ensureConfigCertain_plain : Plain (ensureConfigCertain : Op ρ Unit) :=
  .step (fun _ _ => rfl) (fun _ _ => rfl) fun _ _ => rfl

theorem ensureGeneration_plain (p : ProfileId) (g : ProfileGeneration) (o : OperationId) :
    Plain (ensureGeneration p g o : Op ρ Unit) :=
  .step (fun _ _ => rfl) (fun _ _ => rfl) fun _ _ => rfl

theorem profile_plain (p : ProfileId) : Plain (profile p : Op ρ ConnectionProfile) :=
  .step (fun _ _ => rfl) (fun _ _ => rfl) fun _ _ => rfl

theorem profileWithGeneration_plain (p : ProfileId) :
    Plain (profileWithGeneration p : Op ρ (ConnectionProfile × ProfileGeneration)) :=
  .step (fun _ _ => rfl) (fun _ _ => rfl) fun _ _ => rfl

theorem ensureSessionObservation_plain (p : ProfileId) (g : ProfileGeneration) (o : OperationId) :
    Plain (ensureSessionObservation p g o : Op ρ Unit) :=
  .step (fun _ _ => rfl) (fun _ _ => rfl) fun _ _ => rfl

theorem allocateSessionGeneration_plain :
    Plain (allocateSessionGeneration : Op ρ SessionGeneration) :=
  .step (fun _ _ => rfl) (fun _ _ => rfl) fun _ _ => rfl

theorem close_settled (γ : Journal) (handle : Handle) : Settling γ (close handle : Op ρ Unit) :=
  .step fun _ _ => ⟨⟨.still rfl rfl rfl, rfl⟩, _, rfl⟩

theorem close_plain (handle : Handle) : Plain (close handle : Op ρ Unit) :=
  .of_settles fun γ => close_settled γ handle

theorem cachedSessionIdentity_plain (p : ProfileId) :
    Plain (cachedSessionIdentity p : Op ρ (Option CachedSessionIdentity)) :=
  .step (fun _ _ => rfl) (fun _ _ => rfl) fun _ _ => rfl

theorem evictCachedSessionExact_settles (γ : Journal) (p : ProfileId) (g : ProfileGeneration)
    (session : SessionGeneration) :
    Settling γ (evictCachedSessionExact p g session : Op ρ Bool) := by
  have htake : Settling γ (takeCachedSessionExact p g session : Op ρ (Option Handle)) := by
    refine .step fun _ s => ?_
    cases s.sessions.lookup p with
    | none => exact ⟨⟨.still rfl rfl rfl, rfl⟩, _, rfl⟩
    | some cached =>
      dsimp only
      split
      · exact ⟨⟨.still rfl rfl rfl, rfl⟩, _, rfl⟩
      · exact ⟨⟨.still rfl rfl rfl, rfl⟩, _, rfl⟩
  refine .bind htake fun removed => ?_
  cases removed with
  | none => exact .ok _
  | some handle => exact .bind (close_settled γ handle) fun _ => .ok _

theorem evictCachedSessionExact_plain (p : ProfileId) (g : ProfileGeneration)
    (session : SessionGeneration) : Plain (evictCachedSessionExact p g session : Op ρ Bool) :=
  .of_settles fun γ => evictCachedSessionExact_settles γ p g session

theorem retagCachedSessionExact_settles (γ : Journal) (p : ProfileId)
    (expected : CachedSessionIdentity) (g : ProfileGeneration)
    (fingerprint : ConnectionFingerprint) :
    Settling γ (retagCachedSessionExact p expected g fingerprint : Op ρ Bool) := by
  refine .step fun _ s => ?_
  cases s.sessions.lookup p with
  | none => exact ⟨⟨.still rfl rfl rfl, rfl⟩, _, rfl⟩
  | some cached =>
    dsimp only
    split
    · exact ⟨⟨.still rfl rfl rfl, rfl⟩, _, rfl⟩
    · exact ⟨⟨.still rfl rfl rfl, rfl⟩, _, rfl⟩

theorem resolveDeferredSession_settles (γ : Journal) (fence : DeferredSessionFence)
    (allowRetag : Bool) : Settling γ (resolveDeferredSession fence allowRetag : Op ρ Bool) := by
  unfold resolveDeferredSession
  split
  · exact retagCachedSessionExact_settles _ _ _ _ _
  · exact .bind (evictCachedSessionExact_settles _ _ _ _) fun _ => .ok _

theorem lookupSession_plain (profile : ConnectionProfile) (g : ProfileGeneration)
    (o : OperationId) : Plain (lookupSession profile g o : Op ρ (Option SessionLease)) := by
  refine .step (fun _ s => ?_) (fun _ s => ?_) fun _ s => ?_
  all_goals
    split
    · rfl
    · split
      · rfl
      · cases s.sessions.lookup profile.id with
        | none => rfl
        | some cached =>
          dsimp only
          split
          · rfl
          · rfl

theorem installSession_plain (profile : ConnectionProfile) (g : ProfileGeneration)
    (session : SessionGeneration) (connected : Handle) :
    Plain (installSession profile g session connected : Op ρ CacheInstall) := by
  refine .step (fun _ s => ?_) (fun _ s => ?_) fun _ s => ?_
  all_goals
    dsimp only
    split
    · rfl
    · split
      · rfl
      · cases s.sessions.lookup profile.id with
        | none => rfl
        | some cached =>
          dsimp only
          split
          · rfl
          · rfl

theorem checkProfileForNetwork_plain (profile : ConnectionProfile) :
    Plain (checkProfileForNetwork profile : Op ρ Unit) :=
  .step (fun _ _ => rfl) (fun _ _ => rfl) fun _ _ => rfl

theorem onSession_plain (lease : SessionLease) :
    Plain (onSession lease : Op ρ (Except DriverError ρ)) :=
  .step (fun _ _ => rfl) (fun _ _ => rfl) fun _ _ => rfl

theorem evictWhen_plain (condition : Bool) (lease : SessionLease) :
    Plain (evictWhen condition lease : Op ρ Unit) := by
  unfold evictWhen
  split
  · exact .bind (evictCachedSessionExact_plain _ _ _) fun _ => .done _
  · exact .done _

/-- The end of an operation: it observes, and gives its session up where it has to. -/
theorem observeAndEvict_plain (lease : SessionLease) (o : OperationId)
    (condition : Except ServiceError Unit → Bool) {f : Except ServiceError Unit → Op ρ α}
    (hf : ∀ observation, Plain (f observation)) :
    Plain (do
      let observation ← (observeSession lease o).attempt
      evictWhen (condition observation) lease
      f observation : Op ρ α) :=
  .bind (.attempt (ensureSessionObservation_plain _ _ _)) fun observation =>
    .bind (evictWhen_plain _ lease) fun _ => hf observation

theorem finishResourceOperation_plain (lease : SessionLease) (o : OperationId)
    (result : Except DriverError ρ) : Plain (finishResourceOperation lease o result : Op ρ ρ) :=
  observeAndEvict_plain lease o (fun observation => resultDisposition result == .evict || !observation.isOk)
    fun _ => .bind (.done _) fun _ => .done _

theorem prepareExecuteRequest_plain (split : Text → Option (List Text)) (request : ExecuteRequest) :
    Plain (prepareExecuteRequest split request : Op ρ TypedExecuteRequest) := by
  refine .bind ensureConfigCertain_plain fun _ => .bind (.done _) fun target =>
    .bind (profileWithGeneration_plain _) fun ⟨profile, generation⟩ => ?_
  dsimp only
  split
  · exact .done _
  · split
    · exact .done _
    · exact .done _

theorem ensureTypedResourceRequest_plain (identity : RequestIdentity) (driver : DriverKind) :
    Plain (ensureTypedResourceRequest identity driver : Op ρ ConnectionFingerprint) := by
  refine .bind ensureConfigCertain_plain fun _ =>
    .bind (profileWithGeneration_plain _) fun ⟨profile, generation⟩ => ?_
  dsimp only
  split
  · exact .done _
  · split
    · exact .done _
    · exact .done _

theorem catalogTokenKey_plain (context : ConnectionFingerprint) :
    Plain (catalogTokenKey context : Op ρ Unit) :=
  .step (fun _ _ => rfl) (fun _ _ => rfl) fun _ _ => rfl

theorem evictCachedSessionProfileGeneration_plain (p : ProfileId) (g : ProfileGeneration) :
    Plain (evictCachedSessionProfileGeneration p g : Op ρ Bool) := by
  refine .bind (cachedSessionIdentity_plain p) fun identity => ?_
  cases identity with
  | none => exact .done _
  | some identity =>
    dsimp only
    split
    · exact evictCachedSessionExact_plain _ _ _
    · exact .done _

theorem disconnectProfileExact_plain (o : OperationId) (p : ProfileId) (g : ProfileGeneration)
    (session : Option SessionGeneration) :
    Plain (disconnectProfileExact o p g session : Op ρ (Option CachedSessionIdentity)) := by
  refine .bind (ensureGeneration_plain p g o) fun _ =>
    .bind (cachedSessionIdentity_plain p) fun identity => ?_
  cases identity with
  | none =>
    cases session with
    | none => exact .done _
    | some expected => exact .done _
  | some identity =>
    cases session with
    | none => exact .done _
    | some expected =>
      dsimp only
      split
      · refine .bind (evictCachedSessionExact_plain _ _ _) fun evicted => ?_
        split
        · exact .done _
        · exact .done _
      · exact .done _

/-! ## Acquiring a session -/

/-- The end of a task outside the lane. -/
abbrev Out (held : Option (ObservedState × Nat)) (γ : Journal) : Prop := held = none ∧ γ.Idle

theorem Plain.out {γ : Journal} {t : Task ApplicationService (Answer ρ) Event ε α} (h : Plain t)
    (hidle : γ.Idle) : Careful (fun held γ' _ => Out held γ') t none γ :=
  Task.Guarded.of_steps (h γ) (fun _ => hidle) fun _ _ => ⟨rfl, hidle⟩

/-- A task that leaves everything, in front of one outside the lane. -/
theorem Plain.out_bind {β : Type} {γ : Journal} {t : Task ApplicationService (Answer ρ) Event ε α}
    {f : α → Task ApplicationService (Answer ρ) Event ε β} (h : Plain t) (hidle : γ.Idle)
    (hf : ∀ a, Careful (fun held γ' _ => Out held γ') (f a) none γ) :
    Careful (fun held γ' _ => Out held γ') (t >>= f) none γ :=
  h.careful_bind (fun _ => hidle) hf fun _ => ⟨rfl, hidle⟩

theorem resolveProfileSecret_session {resolve : Text → Except SecretError SessionSecret}
    {s : ApplicationService} {profile : ConnectionProfile} {secret : Option SessionSecret}
    (h : resolveProfileSecret resolve s profile = .ok secret)
    (hmode : profile.credentialMode = .session) :
    secret = s.secret profile.id ∧ secret.isSome := by
  unfold resolveProfileSecret at h
  rw [hmode] at h
  unfold ApplicationService.secret
  cases hlookup : s.sessionSecrets.lookup profile.id with
  | none =>
    simp only [hlookup] at h
    cases h
  | some stored =>
    simp only [hlookup] at h
    cases h
    exact ⟨rfl, rfl⟩

theorem prepareConnection_careful {γ : Journal} (hidle : γ.Idle) {profile : ConnectionProfile}
    {generation : ProfileGeneration} (hread : γ.read = some (profile, generation)) :
    Careful (fun held γ' r => Out held γ' ∧ ∀ secret, r = .ok secret →
        γ'.read = some (profile, generation) ∧ γ'.resolved = some secret)
      (prepareConnection profile : Op ρ (Option SessionSecret)) none γ := by
  refine Task.Guarded.step_out fun answer s => ?_
  cases hresult : (do
      (ensureReady profile).mapError ServiceError.driver
      (ensureConnectorTlsSupport answer.supportsRedisTls profile).mapError ServiceError.driver
      resolveProfileSecret answer.resolveEnvironment s profile) with
  | error e =>
    refine ⟨_, .refuse profile.id, rfl, ⟨hidle.reserved, hidle.pending⟩,
      ⟨rfl, ⟨hidle.reserved, hidle.pending⟩⟩, ?_⟩
    intro secret h
    cases h
  | ok secret =>
    have hresolved : resolveProfileSecret answer.resolveEnvironment s profile = .ok secret := by
      cases hready : (ensureReady profile).mapError ServiceError.driver with
      | error e =>
        rw [hready] at hresult
        cases hresult
      | ok _ =>
        rw [hready] at hresult
        cases htls : (ensureConnectorTlsSupport answer.supportsRedisTls profile).mapError
            ServiceError.driver with
        | error e =>
          rw [htls] at hresult
          cases hresult
        | ok _ =>
          rw [htls] at hresult
          exact hresult
    refine ⟨_, .resolve secret hread (resolveProfileSecret_session hresolved), rfl,
      ⟨hidle.reserved, hidle.pending⟩, ⟨rfl, ⟨hidle.reserved, hidle.pending⟩⟩, ?_⟩
    intro secret' h
    cases h
    exact ⟨hread, rfl⟩

theorem connect_careful {γ : Journal} (hidle : γ.Idle) {profile : ConnectionProfile}
    {generation : ProfileGeneration} {secret : Option SessionSecret}
    (hread : γ.read = some (profile, generation)) (hresolved : γ.resolved = some secret) :
    Careful (fun held γ' _ => Out held γ')
      (connect profile secret generation : Op ρ (Except DriverError Handle)) none γ := by
  refine Task.Guarded.step_out fun answer s => ⟨γ, ?_⟩
  cases hconnect : answer.connect with
  | error e => exact ⟨.dial hread hresolved rfl rfl, rfl, hidle, rfl, hidle⟩
  | ok _ => exact ⟨.dial hread hresolved rfl rfl, rfl, hidle, rfl, hidle⟩

/-- What `session_for` does with the connection that it has dialled. -/
theorem sessionFor_careful {γ : Journal} (hidle : γ.Idle) {profile : ConnectionProfile}
    {generation : ProfileGeneration} (hread : γ.read = some (profile, generation))
    (o : OperationId) :
    Careful (fun held γ' _ => Out held γ')
      (sessionFor profile generation o : Op ρ SessionLease) none γ := by
  refine Plain.out_bind ensureConfigCertain_plain hidle fun _ =>
    Plain.out_bind (lookupSession_plain profile generation o) hidle fun cached => ?_
  cases cached with
  | some lease => exact Plain.out (.done _) hidle
  | none =>
    refine Task.Guarded.bind (prepareConnection_careful hidle hread) ?_ ?_
    · rintro held γ' secret ⟨⟨rfl, hidle'⟩, h⟩
      obtain ⟨hread', hresolved⟩ := h secret rfl
      refine Plain.out_bind allocateSessionGeneration_plain hidle' fun session => ?_
      refine Task.Guarded.bind (connect_careful hidle' hread' hresolved) ?_ ?_
      · rintro held γ' dialled ⟨rfl, hidle⟩
        refine Plain.out ?_ hidle
        cases dialled with
        | error e => exact .bind (ensureSessionObservation_plain _ _ _) fun _ => .done _
        | ok connected =>
          refine .bind (installSession_plain _ _ _ _) fun install => ?_
          cases install with
          | installed displaced lease =>
            cases displaced with
            | none => exact .done _
            | some displaced => exact .bind (close_plain _) fun _ => .done _
          | existing lease => exact .bind (close_plain _) fun _ => .done _
          | stale => exact .bind (close_plain _) fun _ => .done _
          | uncertain => exact .bind (close_plain _) fun _ => .done _
      · rintro held γ' e h
        exact h
    · rintro held γ' e ⟨h, -⟩
      exact h

theorem acquireSessionAt_careful {γ : Journal} (hidle : γ.Idle) (o : OperationId) (p : ProfileId)
    (g : ProfileGeneration) :
    Careful (fun held γ' _ => Out held γ') (acquireSessionAt o p g : Op ρ SessionLease) none γ := by
  refine Plain.out_bind ensureConfigCertain_plain hidle fun _ => ?_
  refine Task.Guarded.bind (Q := fun held γ' r => Out held γ' ∧
    ∀ profile generation, r = .ok (profile, generation) → γ'.read = some (profile, generation))
    (Task.Guarded.step_out fun _ s => ?_) ?_ ?_
  · cases hobserved : observedProfile s.observed.config p with
    | none =>
      refine ⟨γ, .still rfl rfl rfl, rfl, hidle, ⟨rfl, hidle⟩, ?_⟩
      intro profile generation h
      cases h
    | some profile =>
      have hid : profile.id = p := by simpa using List.find?_some hobserved
      cases hlive : s.observed.generations.lookup p with
      | none =>
        refine ⟨γ, .still rfl rfl rfl, rfl, hidle, ⟨rfl, hidle⟩, ?_⟩
        intro profile generation h
        cases h
      | some generation =>
        refine ⟨_, .read profile generation ?_, rfl, ⟨hidle.reserved, hidle.pending⟩,
          ⟨rfl, ⟨hidle.reserved, hidle.pending⟩⟩, ?_⟩
        · rw [hid]
          exact hlive
        · intro profile' generation' h
          cases h
          rfl
  · rintro held γ' ⟨profile, generation⟩ ⟨⟨rfl, hidle'⟩, hread⟩
    dsimp only
    split
    · exact Plain.out (.done _) hidle'
    · refine Plain.out_bind (checkProfileForNetwork_plain profile) hidle' fun _ => ?_
      exact sessionFor_careful hidle' (hread profile generation rfl) o
  · rintro held γ' e ⟨h, -⟩
    exact h

/-! ## Operations -/

/-- What an operation does with a session that it has acquired. -/
theorem careful_onAcquired {β : Type} {γ : Journal} (hidle : γ.Idle) (o : OperationId)
    (p : ProfileId) (g : ProfileGeneration) {f : SessionLease → Op ρ β}
    (hf : ∀ lease, Plain (f lease)) :
    Careful (fun held γ' _ => Out held γ') (acquireSessionAt o p g >>= f) none γ := by
  refine Task.Guarded.bind (acquireSessionAt_careful hidle o p g) ?_ ?_
  · rintro held γ' lease ⟨rfl, hidle'⟩
    exact Plain.out (hf lease) hidle'
  · rintro held γ' e h
    exact h

theorem executeAt_careful {γ : Journal} (hidle : γ.Idle) (split : Text → Option (List Text))
    (request : ExecuteRequest) :
    Careful (fun held γ' _ => Out held γ')
      (executeAt split request : Op ρ (OperationOutcome ρ)) none γ := by
  refine Plain.out_bind (prepareExecuteRequest_plain split request) hidle fun _ => ?_
  refine careful_onAcquired hidle _ _ _ fun lease => .bind (onSession_plain lease) fun result => ?_
  exact observeAndEvict_plain lease _
    (fun observation => resultDisposition result == .evict || !observation.isOk)
    fun _ => .bind (.done _) fun _ => .bind (.done _) fun _ => .done _

theorem checkAt_careful {γ : Journal} (hidle : γ.Idle) (o : OperationId) (p : ProfileId)
    (g : ProfileGeneration) :
    Careful (fun held γ' _ => Out held γ') (checkAt o p g : Op ρ (OperationOutcome ρ)) none γ := by
  refine careful_onAcquired hidle _ _ _ fun lease => .bind (onSession_plain lease) fun ping => ?_
  exact observeAndEvict_plain lease _ (fun observation => !ping.isOk || !observation.isOk)
    fun _ => .bind (.done _) fun _ => .bind (.done _) fun _ => .done _

theorem browse_careful {γ : Journal} (hidle : γ.Idle) (identity : RequestIdentity) :
    Careful (fun held γ' _ => Out held γ') (browse identity : Op ρ ρ) none γ :=
  careful_onAcquired hidle _ _ _ fun lease => .bind (onSession_plain lease) fun _ =>
    finishResourceOperation_plain lease _ _

/-! ## Cleanup -/

/-- The cleanup drops the secrets only that the call may still drop. -/
structure Journal.Covers (γ : Journal) (cleanup : DeferredRuntimeCleanup) : Prop where
  targets : ∀ p, clearsSecret cleanup.targets p = true → γ.sweep p
  all : cleanup.clearAllSecrets = true → ∀ p, γ.sweep p
  retain : ∀ ids, cleanup.retainSecretProfiles = some ids → ∀ p, p ∉ ids → γ.sweep p

theorem Journal.covers_nothing (γ : Journal) : γ.Covers {} := by
  refine ⟨fun p h => ?_, fun h => ?_, fun ids h => ?_⟩
  · cases h
  · cases h
  · cases h

section
variable {γ : Journal}

theorem evictTargets_settles (targets : List DeferredCleanupTarget) :
    Settling γ (evictTargets targets : Op ρ Unit) := by
  induction targets with
  | nil => exact .ok _
  | cons target targets ih =>
    unfold evictTargets
    split
    · exact .bind (evictCachedSessionExact_settles _ _ _ _) fun _ => ih
    · exact ih

theorem sweep_erase {s s' : ApplicationService} {p : ProfileId} (hp : γ.sweep p)
    (hsecrets : s'.sessionSecrets = s.sessionSecrets.erase p) (q : ProfileId) :
    s'.secret q = s.secret q ∨ s'.secret q = none ∧ γ.sweep q := by
  unfold ApplicationService.secret
  rw [hsecrets]
  by_cases hq : q = p
  · subst hq
    exact .inr ⟨AList.lookup_erase q _, hp⟩
  · exact .inl (AList.lookup_erase_ne hq)

theorem clearTargetSecrets_settles {targets : List DeferredCleanupTarget}
    (h : ∀ p, clearsSecret targets p = true → γ.sweep p) :
    Settling γ (clearTargetSecrets targets : Op ρ Unit) := by
  induction targets with
  | nil => exact .ok _
  | cons target targets ih =>
    have htail : ∀ p, clearsSecret targets p = true → γ.sweep p := by
      intro p hp
      refine h p ?_
      unfold clearsSecret at hp ⊢
      rw [List.any_cons, hp, Bool.or_true]
    unfold clearTargetSecrets
    split
    next hclear =>
      have hswept : γ.sweep target.profileId := by
        refine h _ ?_
        simp [clearsSecret, hclear]
      refine .bind (.step fun _ s => ⟨⟨?_, rfl⟩, _, rfl⟩) fun _ => ih htail
      exact .sweep (.inr ⟨_, rfl, hswept, AList.lookup_erase _ _⟩) rfl (sweep_erase hswept rfl)
    · exact ih htail

theorem retainSecrets_settles {ids : List ProfileId} (h : ∀ p, p ∉ ids → γ.sweep p) :
    Settling γ (retainSecrets ids : Op ρ Unit) := by
  refine .step fun _ s => ⟨⟨.sweep (.inl rfl) rfl fun q => ?_, rfl⟩, _, rfl⟩
  have hlookup := eraseAll_lookup (s.sessionSecrets.keys.filter fun key => !ids.contains key)
    s.sessionSecrets q
  unfold ApplicationService.secret
  dsimp only
  rw [hlookup]
  by_cases hq : q ∈ s.sessionSecrets.keys.filter fun key => !ids.contains key
  · refine .inr ⟨if_pos hq, h q ?_⟩
    simpa using (List.mem_filter.1 hq).2
  · exact .inl (if_neg hq)

theorem clearAllSecrets_settles (h : ∀ p, γ.sweep p) :
    Settling γ (clearAllSecrets : Op ρ Unit) :=
  .step fun _ _ => ⟨⟨.sweep (.inl rfl) rfl fun q => .inr ⟨rfl, h q⟩, rfl⟩, _, rfl⟩

/-- A cleanup that stores nothing. -/
theorem applyDeferredCleanup_settles {cleanup : DeferredRuntimeCleanup} (h : γ.Covers cleanup)
    (hupdates : cleanup.secretUpdates = []) :
    Settling γ (applyDeferredCleanup cleanup : Op ρ Unit) := by
  refine .bind (evictTargets_settles _) fun _ =>
    .bind (clearTargetSecrets_settles h.targets) fun _ => ?_
  split
  next hall => exact clearAllSecrets_settles (h.all hall)
  · rw [hupdates]
    split
    next ids hids => exact .bind (retainSecrets_settles (h.retain ids hids)) fun _ => .ok _
    · exact .ok _

/-- A cleanup that stores what the call has in hand, in the lane. -/
theorem applyDeferredCleanup_stores_pending {cleanup : DeferredRuntimeCleanup}
    {w : ObservedState × Nat} (p : ProfileId) (update : SessionSecretUpdate)
    (h : γ.Covers cleanup) (hall : cleanup.clearAllSecrets = false)
    (hupdates : cleanup.secretUpdates = [(p, update)]) (hpending : γ.pending = some (p, update)) :
    Careful (fun _ γ' r => r = .ok () ∧ γ' = γ.store p update)
      (applyDeferredCleanup cleanup : Op ρ Unit) (some w) γ := by
  have hstore : Careful (fun _ γ' r => r = .ok () ∧ γ' = γ.store p update)
      (applySecretUpdates [(p, update)] : Op ρ Unit) (some w) γ := by
    refine Task.Guarded.bind (Q := fun _ γ' r => r = .ok () ∧ γ' = γ.store p update)
      (Task.Guarded.step_in fun _ s _ => ⟨_, .store hpending rfl rfl, rfl, rfl⟩) ?_ ?_
    · rintro held γ' _ ⟨-, rfl⟩
      exact ⟨rfl, rfl⟩
    · rintro held γ' e ⟨h, -⟩
      cases h
  refine (evictTargets_settles _).careful_bind (fun hnone => (nomatch hnone)) fun _ =>
    (clearTargetSecrets_settles h.targets).careful_bind (fun hnone => (nomatch hnone)) fun _ => ?_
  rw [if_neg (by simp [hall]), hupdates]
  split
  next ids hids =>
    exact (retainSecrets_settles (h.retain ids hids)).careful_bind (fun hnone => (nomatch hnone))
      fun _ => hstore
  · exact hstore

end

end Dbotter.Service
