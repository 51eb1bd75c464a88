import Dbotter.Service.Walks

/-!
What one call does to the session that it uses: it draws a number, leases a session of the cache or
installs its own under that number, and takes the leased session out again. Every other step
brings no session into the cache.
-/

namespace Dbotter.Service
open Dbotter.Utf8 Dbotter.Execution Dbotter.Configuration Dbotter.Program

variable {ρ α : Type}

/-- What a call has of sessions: the number it drew and has not used, the lease it took, and
whether it has evicted the leased session. -/
structure Tenure where
  allocated : Option SessionGeneration := none
  leased : Option SessionLease := none
  evicted : Bool := false

def HasSession (s : ApplicationService) (n : SessionGeneration) : Prop :=
  ∃ p c, s.sessions.lookup p = some c ∧ c.sessionGeneration = n

/-- Every session was there under the same profile, perhaps with another tag. -/
def Shrinks (s s' : ApplicationService) : Prop :=
  ∀ p c', s'.sessions.lookup p = some c' →
    ∃ c, s.sessions.lookup p = some c ∧ c.sessionGeneration = c'.sessionGeneration

inductive TenureStep : Tenure → ApplicationService → Option Event → ApplicationService →
    Tenure → Prop
  | quiet {γ : Tenure} {s s' : ApplicationService} {e : Option Event}
      (event : ∀ g lease, e ≠ some (.leased g lease))
      (next : s'.nextSessionGeneration = s.nextSessionGeneration) (shrinks : Shrinks s s') :
      TenureStep γ s e s' γ
  | allocate {γ : Tenure} {s : ApplicationService} :
      TenureStep γ s none { s with nextSessionGeneration := s.nextSessionGeneration + 1 }
        { γ with allocated := some s.nextSessionGeneration }
  | lease {γ : Tenure} {s : ApplicationService} {g : ProfileGeneration} {lease : SessionLease}
      (free : γ.leased = none)
      (cached : s.sessions.lookup lease.profileId = some ⟨lease.identity, lease.handle⟩) :
      TenureStep γ s (some (.leased g lease)) s
        { γ with leased := some lease, evicted := false }
  | install {γ : Tenure} {s : ApplicationService} {g : ProfileGeneration} {lease : SessionLease}
      (free : γ.leased = none)
      (allocated : γ.allocated = some lease.identity.sessionGeneration) :
      TenureStep γ s (some (.leased g lease))
        { s with sessions := s.sessions.insert lease.profileId ⟨lease.identity, lease.handle⟩ }
        { allocated := none, leased := some lease, evicted := false }
  | evict {γ : Tenure} {s s' : ApplicationService} {lease : SessionLease}
      (leased : γ.leased = some lease)
      (next : s'.nextSessionGeneration = s.nextSessionGeneration) (shrinks : Shrinks s s')
      (gone : ∀ c, s'.sessions.lookup lease.profileId = some c →
        c.isExactly lease.identity.profileGeneration lease.identity.sessionGeneration = false) :
      TenureStep γ s none s' { γ with evicted := true }

theorem Shrinks.of_sessions {s s' : ApplicationService} (h : s'.sessions = s.sessions) :
    Shrinks s s' := by
  intro p c hc
  rw [h] at hc
  exact ⟨c, hc, rfl⟩

theorem Shrinks.erase (s : ApplicationService) (p : ProfileId) :
    Shrinks s { s with sessions := s.sessions.erase p } := by
  intro q c hc
  by_cases hqp : q = p
  · subst hqp
    rw [AList.lookup_erase] at hc
    cases hc
  · rw [AList.lookup_erase_ne hqp] at hc
    exact ⟨c, hc, rfl⟩

theorem Shrinks.retag {s : ApplicationService} {p : ProfileId} {c d : CachedSession}
    (hc : s.sessions.lookup p = some c) (hd : c.sessionGeneration = d.sessionGeneration) :
    Shrinks s { s with sessions := s.sessions.insert p d } := by
  intro q e he
  by_cases hqp : q = p
  · subst hqp
    rw [AList.lookup_insert] at he
    cases he
    exact ⟨c, hc, hd⟩
  · rw [AList.lookup_insert_ne hqp] at he
    exact ⟨e, he, rfl⟩

theorem Shrinks.clear (s : ApplicationService) : Shrinks s { s with sessions := ∅ } := by
  intro p c hc
  change (∅ : ProfileMap CachedSession).lookup p = some c at hc
  rw [AList.lookup_empty] at hc
  cases hc

/-- A step on the cache alone that brings nothing in. -/
theorem TenureStep.shrink {γ : Tenure} {s s' : ApplicationService}
    (hnext : s'.nextSessionGeneration = s.nextSessionGeneration) (hs : Shrinks s s') :
    TenureStep γ s none s' γ :=
  .quiet (fun _ _ h => nomatch h) hnext hs

theorem TenureStep.of_leaves {γ : Tenure} {s s' : ApplicationService} {e : Option Event}
    (h : LeavesSessions s e s') : TenureStep γ s e s' γ :=
  .quiet h.event h.nextSessionGeneration (.of_sessions h.sessions)

/-! ## The sections -/

theorem close_tenure (handle : Handle) : (close handle : Op ρ Unit).Steady TenureStep :=
  .step fun _ _ _ => .shrink rfl (.of_sessions rfl)

/-- Closing does not fail. -/
theorem close_then {γ : Tenure} {handle : Handle} {f : Unit → Op ρ α}
    {R : Tenure → Except ServiceError α → Prop} (h : (f ()).Sat TenureStep R γ) :
    (close handle >>= f).Sat TenureStep R γ :=
  fun _ _ => ⟨γ, .shrink rfl (.of_sessions rfl), h⟩

theorem takeCachedSessionExact_tenure (p : ProfileId) (g : ProfileGeneration)
    (n : SessionGeneration) :
    (takeCachedSessionExact p g n : Op ρ (Option Handle)).Steady TenureStep := by
  apply Task.Steady.step
  intro γ _ s
  have hsame : TenureStep γ s none s γ := .shrink rfl (.of_sessions rfl)
  cases hc : s.sessions.lookup p with
  | none => exact hsame
  | some c =>
      by_cases hexact : c.isExactly g n = true
      · simp only [hexact, if_true]
        exact .shrink rfl (.erase s p)
      · simp only [hexact]
        exact hsame

theorem evictCachedSessionExact_tenure (p : ProfileId) (g : ProfileGeneration)
    (n : SessionGeneration) :
    (evictCachedSessionExact p g n : Op ρ Bool).Steady TenureStep := by
  apply Task.Steady.bind (takeCachedSessionExact_tenure p g n)
  intro removed
  cases removed with
  | none => exact .done _
  | some handle => exact .bind (close_tenure handle) fun _ => .done _

theorem retagCachedSessionExact_tenure (p : ProfileId) (expected : CachedSessionIdentity)
    (g : ProfileGeneration) (f : ConnectionFingerprint) :
    (retagCachedSessionExact p expected g f : Op ρ Bool).Steady TenureStep := by
  apply Task.Steady.step
  intro γ _ s
  have hsame : TenureStep γ s none s γ := .shrink rfl (.of_sessions rfl)
  cases hc : s.sessions.lookup p with
  | none => exact hsame
  | some c =>
      simp only
      split
      · exact hsame
      · exact .shrink rfl (.retag hc rfl)

theorem closeAll_tenure (handles : List Handle) :
    (closeAll handles : Op ρ Unit).Steady TenureStep := by
  induction handles with
  | nil => exact .done _
  | cons handle handles ih => exact .bind (close_tenure handle) fun _ => ih

theorem shutdownRuntime_tenure : (shutdownRuntime : Op ρ Unit).Steady TenureStep := by
  have hdrain : (drainSessions : Op ρ (List Handle)).Steady TenureStep :=
    .step fun _ _ s => .shrink rfl (.clear s)
  have hclear : (clearAllSecrets : Op ρ Unit).Steady TenureStep :=
    .step fun _ _ _ => .shrink rfl (.of_sessions rfl)
  apply Task.Steady.bind hdrain
  intro handles
  exact .bind hclear.attempt fun _ => closeAll_tenure handles

/-- Only the operations on a session touch the ghost value. -/
theorem tenured : LockSections ρ TenureStep where
  quiet _ _ _ _ h := .of_leaves h
  evict := evictCachedSessionExact_tenure
  retag := retagCachedSessionExact_tenure
  shutdown := shutdownRuntime_tenure

/-! ## Acquiring -/

/-- A call has a lease exactly when its acquisition returned one. -/
def Tenure.Acquired (γ : Tenure) : Except ServiceError SessionLease → Prop
  | .ok lease => γ.leased = some lease
  | .error _ => γ.leased = none

theorem lookupSession_tenure {γ : Tenure} (hγ : γ.leased = none) (profile : ConnectionProfile)
    (generation : ProfileGeneration) (o : OperationId) :
    (lookupSession profile generation o : Op ρ (Option SessionLease)).Sat TenureStep
      (fun γ' r => match r with
        | .ok (some lease) => γ'.leased = some lease
        | _ => γ'.leased = none) γ := by
  apply Task.Sat.step
  intro _ s
  have hsame : TenureStep γ s none s γ := .shrink rfl (.of_sessions rfl)
  by_cases huncertain : s.configUncertain = true
  · simp only [huncertain, if_true]
    exact ⟨γ, hsame, hγ⟩
  · by_cases hcurrent : s.isCurrent profile generation = true
    · simp only [huncertain, hcurrent, Bool.not_true, Bool.false_eq_true, if_false]
      cases hc : s.sessions.lookup profile.id with
      | none => exact ⟨γ, hsame, hγ⟩
      | some c =>
          by_cases hserves : c.serves profile generation = true
          · simp only [hserves, if_true]
            exact ⟨_, .lease hγ hc, rfl⟩
          · simp only [hserves]
            exact ⟨γ, hsame, hγ⟩
    · simp only [huncertain, hcurrent]
      exact ⟨γ, hsame, hγ⟩

theorem connect_tenure (profile : ConnectionProfile) (secret : Option SessionSecret)
    (generation : ProfileGeneration) :
    (connect profile secret generation : Op ρ (Except DriverError Handle)).Steady TenureStep := by
  apply Task.Steady.step
  intro γ answer s
  have hevent : ∀ g lease, some (Event.dialled profile secret generation) ≠
      some (.leased g lease) := fun _ _ h => nomatch h
  cases answer.connect with
  | error error => exact .quiet hevent rfl (.of_sessions rfl)
  | ok _ => exact .quiet hevent rfl (.of_sessions rfl)

theorem installSession_tenure {γ : Tenure} {n : SessionGeneration} (hγ : γ.leased = none)
    (hn : γ.allocated = some n) (profile : ConnectionProfile) (generation : ProfileGeneration)
    (connected : Handle) :
    (installSession profile generation n connected : Op ρ CacheInstall).Sat TenureStep
      (fun γ' r => ∃ install, r = .ok install ∧ γ'.leased = install.lease?) γ := by
  apply Task.Sat.step
  intro _ s
  have hsame : TenureStep γ s none s γ := .shrink rfl (.of_sessions rfl)
  by_cases huncertain : s.configUncertain = true
  · simp only [huncertain, if_true]
    exact ⟨γ, hsame, _, rfl, hγ⟩
  · by_cases hcurrent : s.isCurrent profile generation = true
    · have hstale : ¬ (!s.isCurrent profile generation) = true := by simp [hcurrent]
      simp only [if_neg huncertain, if_neg hstale]
      cases hc : s.sessions.lookup profile.id with
      | none => exact ⟨_, .install hγ hn, _, rfl, rfl⟩
      | some c =>
          by_cases hserves : c.serves profile generation = true
          · simp only [hserves, if_true]
            exact ⟨_, .lease hγ hc, _, rfl, rfl⟩
          · simp only [hserves]
            exact ⟨_, .install hγ hn, _, rfl, rfl⟩
    · simp only [huncertain, hcurrent]
      exact ⟨γ, hsame, _, rfl, hγ⟩

theorem sessionFor_tenure {γ : Tenure} (hγ : γ.leased = none) (profile : ConnectionProfile)
    (generation : ProfileGeneration) (o : OperationId) :
    (sessionFor profile generation o : Op ρ SessionLease).Sat TenureStep Tenure.Acquired γ := by
  apply tenured.ensureConfigCertain_steady.andThen _ fun _ => hγ
  intro _
  apply (lookupSession_tenure hγ profile generation o).bind
  · intro γ cached hcached
    cases cached with
    | some lease => exact hcached
    | none =>
        have hfree : γ.leased = none := hcached
        apply (tenured.prepareConnection_steady profile).andThen _ fun _ => hfree
        intro secret _ s
        refine ⟨{ γ with allocated := some s.nextSessionGeneration }, .allocate, ?_⟩
        apply (connect_tenure profile secret generation).andThen _ fun _ => hfree
        intro dialled
        cases dialled with
        | error error =>
            exact (tenured.ensureSessionObservation_steady _ _ _).andThen (fun _ => hfree)
              fun _ => hfree
        | ok connected =>
            have hinstall := installSession_tenure (ρ := ρ)
              (γ := { γ with allocated := some s.nextSessionGeneration }) hfree rfl profile
              generation connected
            apply hinstall.bind
            · rintro γ' install ⟨install, hr, hlease⟩
              cases hr
              cases install with
              | installed displaced lease =>
                  cases displaced with
                  | none => exact hlease
                  | some displaced => exact close_then hlease
              | existing lease => exact close_then hlease
              | stale => exact close_then hlease
              | uncertain => exact close_then hlease
            · rintro γ' e ⟨install, hr, -⟩
              cases hr
  · rintro γ' e he
    exact he

theorem acquireSessionAt_tenure {γ : Tenure} (hγ : γ.leased = none) (o : OperationId)
    (p : ProfileId) (g : ProfileGeneration) :
    (acquireSessionAt o p g : Op ρ SessionLease).Sat TenureStep Tenure.Acquired γ := by
  apply tenured.ensureConfigCertain_steady.andThen _ fun _ => hγ
  intro _
  apply (tenured.profileWithGeneration_steady p).andThen _ fun _ => hγ
  rintro ⟨profile, generation⟩
  show (if _ then _ else _ : Op ρ SessionLease).Sat TenureStep Tenure.Acquired γ
  split
  · exact hγ
  · apply (tenured.checkProfileForNetwork_steady profile).andThen _ fun _ => hγ
    intro _
    exact sessionFor_tenure hγ profile generation o

/-! ## Operations -/

/-- A call that ends with an error that calls for it has evicted the session that it leased. -/
def Tenure.Ended (evicts : ServiceError → Bool) (γ : Tenure) (r : Except ServiceError α) : Prop :=
  ∀ e, r = .error e → evicts e = true → γ.leased = none ∨ γ.evicted = true

theorem takeCachedSessionExact_evicts {γ : Tenure} {lease : SessionLease}
    (hγ : γ.leased = some lease) :
    (takeCachedSessionExact lease.profileId lease.identity.profileGeneration
      lease.identity.sessionGeneration : Op ρ (Option Handle)).Sat TenureStep
      (fun γ' r => γ'.evicted = true ∧ ∃ removed, r = .ok removed) γ := by
  apply Task.Sat.step
  intro _ s
  cases hc : s.sessions.lookup lease.profileId with
  | none =>
      refine ⟨_, .evict hγ rfl (.of_sessions rfl) ?_, rfl, _, rfl⟩
      intro c h
      rw [hc] at h
      cases h
  | some c =>
      by_cases hexact : c.isExactly lease.identity.profileGeneration
          lease.identity.sessionGeneration = true
      · simp only [hexact, if_true]
        refine ⟨_, .evict hγ rfl (.erase s lease.profileId) ?_, rfl, _, rfl⟩
        intro d h
        rw [AList.lookup_erase] at h
        cases h
      · simp only [hexact]
        refine ⟨_, .evict hγ rfl (.of_sessions rfl) ?_, rfl, _, rfl⟩
        intro d h
        change s.sessions.lookup lease.profileId = some d at h
        rw [hc] at h
        cases h
        simpa using hexact

theorem evictWhen_tenure {γ : Tenure} {lease : SessionLease} (hγ : γ.leased = some lease)
    (b : Bool) : (evictWhen b lease : Op ρ Unit).Sat TenureStep
      (fun γ' r => r = .ok () ∧ (b = true → γ'.evicted = true)) γ := by
  cases b with
  | false => exact ⟨rfl, fun h => nomatch h⟩
  | true =>
      have hevict : (evictSessionLease lease : Op ρ Bool).Sat TenureStep
          (fun γ' r => γ'.evicted = true ∧ ∃ b, r = .ok b) γ := by
        apply (takeCachedSessionExact_evicts hγ).bind
        · rintro γ removed ⟨hevicted, -⟩
          cases removed with
          | none => exact ⟨hevicted, _, rfl⟩
          | some handle => exact close_then ⟨hevicted, _, rfl⟩
        · rintro γ e ⟨-, _, he⟩
          cases he
      apply hevict.bind
      · rintro γ _ ⟨hevicted, -⟩
        exact ⟨rfl, fun _ => hevicted⟩
      · rintro γ e ⟨-, _, he⟩
        cases he

/-- The end of an operation: the observation, the eviction, and the result. -/
theorem observing_tenure {γ : Tenure} {lease : SessionLease} (hγ : γ.leased = some lease)
    (o : OperationId) {b : Bool} {r : Except ServiceError α} {evicts : ServiceError → Bool}
    (hb : b = false → ∀ e, r = .error e → evicts e = false) :
    (do let observation ← (observeSession lease o).attempt
        evictWhen (b || !observation.isOk) lease
        .ofExcept observation
        .ofExcept r : Op ρ α).Sat TenureStep (Tenure.Ended evicts) γ := by
  have hobserve : (observeSession lease o : Op ρ Unit).Steady TenureStep :=
    tenured.ensureSessionObservation_steady _ _ _
  have hattempt : ((observeSession lease o).attempt : Op ρ (Except ServiceError Unit)).Sat
      TenureStep (fun γ' r => γ'.leased = some lease ∧ ∃ a, r = .ok a) γ := by
    apply (hobserve γ).attempt
    rintro _ a rfl
    exact ⟨hγ, a, rfl⟩
  apply hattempt.bind
  · rintro γ observation ⟨hγ, -⟩
    apply (evictWhen_tenure hγ (b || !observation.isOk)).bind
    · rintro γ _ ⟨-, hevicted⟩
      cases observation with
      | error e =>
          intro _ _ _
          exact .inr (hevicted (by simp [Except.isOk, Except.toBool]))
      | ok _ =>
          intro e he hevicts
          right
          apply hevicted
          cases b with
          | true => rfl
          | false => rw [hb rfl e he] at hevicts; cases hevicts
    · rintro γ e ⟨he, -⟩
      cases he
  · rintro γ e ⟨-, a, ha⟩
    cases ha

/-- Whether a failed operation is to leave no session behind. -/
def Command.evictsOn : Command → ServiceError → Bool
  | .check _, _ => true
  | _, .driver error => SessionDisposition.forDriverError error == .evict
  | _, _ => true

theorem Tenure.Ended.of_free {γ : Tenure} {evicts : ServiceError → Bool} (hγ : γ.leased = none)
    (r : Except ServiceError α) : γ.Ended evicts r := fun _ _ _ => .inl hγ

theorem onSession_then {γ : Tenure} {lease : SessionLease} {f : Except DriverError ρ → Op ρ α}
    {R : Tenure → Except ServiceError α → Prop} (h : ∀ result, (f result).Sat TenureStep R γ) :
    (onSession lease >>= f).Sat TenureStep R γ :=
  fun answer _ => ⟨γ, .shrink rfl (.of_sessions rfl), h answer.reply⟩

/-- The common course of the operations: acquire, call the driver, observe, evict, answer. -/
theorem operating_tenure {γ : Tenure} (hγ : γ.leased = none) (o : OperationId) (p : ProfileId)
    (g : ProfileGeneration) {b : Except DriverError ρ → Bool}
    {r : SessionLease → Except DriverError ρ → Except ServiceError α}
    (evicts : ServiceError → Bool)
    (hb : ∀ lease result, b result = false → ∀ e, r lease result = .error e →
      evicts e = false) :
    (do let lease ← acquireSessionAt o p g
        let result ← onSession lease
        let observation ← (observeSession lease o).attempt
        evictWhen (b result || !observation.isOk) lease
        .ofExcept observation
        .ofExcept (r lease result) : Op ρ α).Sat TenureStep (Tenure.Ended evicts) γ := by
  apply (acquireSessionAt_tenure hγ o p g).bind
  · intro γ lease hlease
    apply onSession_then
    intro result
    exact observing_tenure hlease o (hb lease result)
  · intro γ e he
    exact .of_free he _

theorem keep_of_resultDisposition {error : DriverError}
    (h : (resultDisposition (.error error : Except DriverError ρ) == .evict) = false) :
    (SessionDisposition.forDriverError error == .evict) = false := h

theorem executeAt_tenure {γ : Tenure} (hγ : γ.leased = none)
    (split : Text → Option (List Text)) (request : ExecuteRequest) :
    (executeAt split request : Op ρ (OperationOutcome ρ)).Sat TenureStep
      (Tenure.Ended (Command.execute request).evictsOn) γ := by
  apply (tenured.prepareExecuteRequest_steady split request).andThen _ fun _ => .of_free hγ _
  intro _
  have hcourse := operating_tenure (ρ := ρ) hγ request.operationId request.profileId
    request.profileGeneration (b := fun result => resultDisposition result == .evict)
    (r := fun lease result =>
      (result.mapError .driver).map (outcome lease request.operationId request.profileId))
    (Command.execute request).evictsOn ?_
  · convert hcourse using 8 with lease result observation
    cases result with
    | error e => rfl
    | ok a => rfl
  · intro lease result hkeep e he
    cases result with
    | ok a => cases he
    | error error =>
        cases he
        exact keep_of_resultDisposition hkeep

theorem checkAt_tenure {γ : Tenure} (hγ : γ.leased = none) (identity : RequestIdentity) :
    (checkAt identity.operationId identity.profileId identity.profileGeneration :
      Op ρ (OperationOutcome ρ)).Sat TenureStep
      (Tenure.Ended (Command.check identity).evictsOn) γ := by
  have hcourse := operating_tenure (ρ := ρ) hγ identity.operationId identity.profileId
    identity.profileGeneration (b := fun ping => !ping.isOk)
    (r := fun lease ping =>
      (ping.mapError .driver).map (outcome lease identity.operationId identity.profileId))
    (Command.check identity).evictsOn ?_
  · unfold checkAt
    convert hcourse using 8 with lease ping observation
    cases ping with
    | error e => rfl
    | ok a => rfl
  · intro lease ping hkeep e he
    cases ping with
    | ok a => cases he
    | error error => cases hkeep

theorem browse_tenure {γ : Tenure} (hγ : γ.leased = none) (identity : RequestIdentity)
    {evicts : ServiceError → Bool}
    (h : ∀ error, evicts (.driver error) = (SessionDisposition.forDriverError error == .evict)) :
    (browse identity : Op ρ ρ).Sat TenureStep (Tenure.Ended evicts) γ := by
  apply operating_tenure hγ identity.operationId identity.profileId identity.profileGeneration
    (b := fun result => resultDisposition result == .evict)
    (r := fun _ result => result.mapError .driver)
  intro lease result hkeep e he
  cases result with
  | ok a => cases he
  | error error =>
      cases he
      rw [h]
      exact keep_of_resultDisposition hkeep

/-- A browse operation after its own preparation. -/
theorem browsing_tenure {γ : Tenure} (hγ : γ.leased = none) (identity : RequestIdentity)
    (driver : DriverKind) {evicts : ServiceError → Bool}
    (h : ∀ error, evicts (.driver error) = (SessionDisposition.forDriverError error == .evict)) :
    (do let _ ← ensureTypedResourceRequest identity driver
        browse identity : Op ρ ρ).Sat TenureStep (Tenure.Ended evicts) γ :=
  (tenured.ensureTypedResourceRequest_steady identity driver).andThen
    (fun _ => browse_tenure hγ identity h) fun _ => .of_free hγ _

/-- A check of the request before everything else. -/
theorem ofExcept_then {γ : Tenure} {r : Except ServiceError Unit} {f : Unit → Op ρ α}
    {R : Tenure → Except ServiceError α → Prop} (hok : (f ()).Sat TenureStep R γ)
    (herror : ∀ e, R γ (.error e)) : (.ofExcept r >>= f : Op ρ α).Sat TenureStep R γ := by
  cases r with
  | ok _ => exact hok
  | error e => exact herror e

theorem loadCatalogPage_tenure {γ : Tenure} (hγ : γ.leased = none) (request : CatalogRequest) :
    (loadCatalogPage request : Op ρ ρ).Sat TenureStep
      (Tenure.Ended (Command.loadCatalogPage request).evictsOn) γ := by
  have hfree : ∀ e : ServiceError, γ.Ended (Command.loadCatalogPage request).evictsOn
      (.error e : Except ServiceError ρ) := fun _ => .of_free hγ _
  apply ofExcept_then _ hfree
  apply (tenured.ensureTypedResourceRequest_steady _ _).andThen _ hfree
  intro context
  apply (tenured.catalogTokenKey_steady context).andThen _ hfree
  intro _
  exact browse_tenure hγ request.identity fun _ => rfl

/-! ## All calls -/

/-- What a finished call leaves of the session that it leased. -/
def Tenure.Settled (command : Command) (γ : Tenure) (r : Except Failure (Outcome ρ)) : Prop :=
  command.operation.isSome = true → ∀ e, r = .error (.service e) → command.evictsOn e = true →
    γ.leased = none ∨ γ.evicted = true

theorem finishWith_settled {command : Command} {wrap : α → Outcome ρ} {op : Op ρ α} {γ : Tenure}
    (h : op.Sat TenureStep (Tenure.Ended command.evictsOn) γ) :
    (finishWith wrap op).Sat TenureStep (Tenure.Settled command) γ := by
  have hwrap : (do let value ← op; return wrap value : Op ρ (Outcome ρ)).Sat TenureStep
      (Tenure.Ended command.evictsOn) γ := by
    apply h.bind
    · intro γ a _ e he
      cases he
    · intro γ e he
      exact fun e' he' => he e' (by cases he'; rfl)
  apply hwrap.mapError
  intro γ r hr _ e he
  cases r with
  | ok a => cases he
  | error e' =>
      cases he
      exact hr e rfl

/-- A command that is no operation on a session leaves nothing to settle. -/
theorem settled_of_no_operation {command : Command} (h : command.operation = none) (γ : Tenure)
    (r : Except Failure (Outcome ρ)) : Tenure.Settled command γ r := by
  intro hsome
  rw [h] at hsome
  cases hsome

theorem begin_settled (split : Text → Option (List Text)) (command : Command) :
    (begin split command : CallTask ρ).Sat TenureStep (Tenure.Settled command) {} := by
  cases command with
  | execute request => exact finishWith_settled (executeAt_tenure rfl split request)
  | check identity => exact finishWith_settled (checkAt_tenure rfl identity)
  | loadCatalogPage request => exact finishWith_settled (loadCatalogPage_tenure rfl request)
  | scanRedisKeys request =>
      exact finishWith_settled (ofExcept_then (browsing_tenure rfl request.identity .redis
        fun _ => rfl) fun _ => .of_free rfl _)
  | inspectRedisKey request =>
      exact finishWith_settled (ofExcept_then (browsing_tenure rfl request.identity .redis
        fun _ => rfl) fun _ => .of_free rfl _)
  | acquire identity =>
      have hacquire := acquireSessionAt_tenure (ρ := ρ) (γ := {}) rfl identity.operationId
        identity.profileId identity.profileGeneration
      have hwrap : (do
          let value ← acquireSessionAt identity.operationId identity.profileId
            identity.profileGeneration
          return .lease value : Op ρ (Outcome ρ)).Sat TenureStep (fun _ _ => True) {} :=
        hacquire.bind (fun _ _ _ => trivial) fun _ _ _ => trivial
      exact hwrap.mapError fun γ r _ => settled_of_no_operation rfl γ _
  | _ =>
      refine (tenured.begin_steady split rfl ?_ _).weaken fun γ r _ =>
        settled_of_no_operation rfl γ r
      exact fun _ h => nomatch h

end Dbotter.Service
