import Dbotter.Service.SessionCustody

/-!
Sessions under every interleaving of the calls of the service: who gets a lease, what enters
the cache, what a successful operation has observed, and that no connection is lost.
-/

namespace Dbotter.Service
open Dbotter.Utf8 Dbotter.Execution Dbotter.Configuration Dbotter.Program
open Dbotter.Program.System

variable {ρ α : Type}

/-! ## What a successful operation has observed -/

abbrev Steps := History ApplicationService Event

/-- The last observation among the steps of a call found the generation current and the
configuration certain. -/
def Observes (p : ProfileId) (g : ProfileGeneration) (steps : Steps) : Prop :=
  ∃ earlier s s' later, steps = earlier ++ (s, some (.observed p g), s') :: later ∧
    (∀ x ∈ later, ∀ q n, x.2.1 ≠ some (.observed q n)) ∧
    s.generationIs p g = true ∧ s.configUncertain = false

theorem Observes.append {p : ProfileId} {g : ProfileGeneration} {steps more : Steps}
    (h : Observes p g steps) (hmore : ∀ x ∈ more, x.2.1 = none) :
    Observes p g (steps ++ more) := by
  obtain ⟨earlier, s, s', later, rfl, hlater, hs⟩ := h
  refine ⟨earlier, s, s', later ++ more, by simp, ?_, hs⟩
  intro x hx q n
  rcases List.mem_append.mp hx with hx | hx
  · exact hlater x hx q n
  · rw [hmore x hx]
    exact nofun

/-- The steps of a task that records nothing. -/
def Silent {ε : Type} (t : Task ApplicationService (Answer ρ) Event ε α) : Prop :=
  ∀ past, Along (fun steps _ => ∃ more, steps = past ++ more ∧ ∀ x ∈ more, x.2.1 = none) t past

theorem Silent.done {ε : Type} (r : Except ε α) :
    Silent (.done r : Task ApplicationService (Answer ρ) Event ε α) :=
  fun past => ⟨[], by simp, by simp⟩

theorem Silent.step {f : Answer ρ → ApplicationService →
      Effect ApplicationService Event (Except ServiceError α)}
    (h : ∀ i s, (f i s).event = none) : Silent (Task.step f : Op ρ α) :=
  fun past i s => ⟨_, rfl, [_], rfl, by simpa using h i s⟩

theorem Silent.bind {ε β : Type} {t : Task ApplicationService (Answer ρ) Event ε α}
    {f : α → Task ApplicationService (Answer ρ) Event ε β} (ht : Silent t)
    (hf : ∀ a, Silent (f a)) : Silent (t >>= f) := by
  intro past
  apply Task.Sat.bind (ht past)
  · rintro steps a ⟨more, rfl, hmore⟩
    apply Task.Sat.weaken (hf a _)
    rintro steps r ⟨more', rfl, hmore'⟩
    refine ⟨more ++ more', by simp, ?_⟩
    intro x hx
    rcases List.mem_append.mp hx with hx | hx
    · exact hmore x hx
    · exact hmore' x hx
  · intro steps e h
    exact h

theorem evictWhen_silent (b : Bool) (lease : SessionLease) :
    Silent (evictWhen b lease : Op ρ Unit) := by
  unfold evictWhen
  split
  · apply Silent.bind
    · apply Silent.bind
      · apply Silent.step
        intro _ s
        cases s.sessions.lookup lease.profileId with
        | none => rfl
        | some c =>
            simp only
            split <;> rfl
      · intro removed
        cases removed with
        | none => exact .done _
        | some h => exact .bind (.step fun _ _ => rfl) fun _ => .done _
    · intro _
      exact .done _
  · exact .done _

/-- The end of every operation: it observes, evicts where it must, and succeeds only if the
observation did. -/
theorem finish_observes {β : Type} (lease : SessionLease) (o : OperationId)
    (evicts : Except ServiceError Unit → Bool) {rest : Op ρ β} (hrest : Silent rest)
    (past : Steps) :
    Along (fun steps r => r.isOk = true →
        Observes lease.profileId lease.identity.profileGeneration steps)
      (do
        let observation ← (observeSession lease o).attempt
        evictWhen (evicts observation) lease
        .ofExcept observation
        rest) past := by
  intro i s
  refine ⟨_, rfl, ?_⟩
  -- the observation is the step just taken; nothing after it is recorded
  have hobserved : ∀ more : Steps, (∀ x ∈ more, x.2.1 = none) → s.configUncertain = false →
      s.generationIs lease.profileId lease.identity.profileGeneration = true →
      Observes lease.profileId lease.identity.profileGeneration
        (past ++ [(s, some (.observed lease.profileId lease.identity.profileGeneration), s)] ++
          more) := by
    intro more hmore hcertain hcurrent
    apply Observes.append _ hmore
    exact ⟨past, s, s, [], rfl, by simp, hcurrent, hcertain⟩
  apply Task.Sat.bind (evictWhen_silent _ lease _)
  · rintro steps _ ⟨more, rfl, hmore⟩
    by_cases huncertain : s.configUncertain = true
    · simp only [huncertain, if_true]
      intro hok
      cases hok
    · by_cases hcurrent :
          s.generationIs lease.profileId lease.identity.profileGeneration = true
      · simp only [huncertain, hcurrent, if_true]
        apply Task.Sat.weaken (hrest _)
        rintro steps r ⟨more', rfl, hmore'⟩ -
        rw [List.append_assoc]
        apply hobserved _ _ (by simpa using huncertain) hcurrent
        intro x hx
        rcases List.mem_append.mp hx with hx | hx
        · exact hmore x hx
        · exact hmore' x hx
      · simp only [huncertain, hcurrent]
        intro hok
        cases hok
  · intro steps e _ hok
    cases hok

/-! ### The lease of a request -/

/-- Whatever the other calls do, a result of `t` has the property `P`. -/
def Returns (P : α → Prop) (t : Op ρ α) : Prop :=
  ∀ past : Steps, Along (fun _ r => ∀ a, r = .ok a → P a) t past

theorem Returns.any (t : Op ρ α) : Returns (fun _ => True) t :=
  fun past => Task.Sat.weaken (Along.trivial t past) fun _ _ _ _ _ => trivial

theorem Returns.ok {P : α → Prop} {a : α} (h : P a) : Returns P (.done (.ok a) : Op ρ α) := by
  rintro past a' ⟨⟩
  exact h

theorem Returns.fail {P : α → Prop} (e : ServiceError) :
    Returns P (.done (.error e) : Op ρ α) := by
  rintro past a ⟨⟩

theorem Returns.step {P : α → Prop} {f : Answer ρ → ApplicationService →
      Effect ApplicationService Event (Except ServiceError α)}
    (h : ∀ i s a, (f i s).value = .ok a → P a) : Returns P (Task.step f : Op ρ α) :=
  fun _ i s => ⟨_, rfl, h i s⟩

theorem Returns.bind {β : Type} {P : α → Prop} {R : β → Prop} {t : Op ρ α} {f : α → Op ρ β}
    (ht : Returns P t) (hf : ∀ a, P a → Returns R (f a)) : Returns R (t >>= f) := by
  intro past
  apply Task.Sat.bind (ht past)
  · intro steps a ha
    exact hf a (ha a rfl) steps
  · rintro steps e - a ⟨⟩

def LeaseFor (p : ProfileId) (g : ProfileGeneration) (lease : SessionLease) : Prop :=
  lease.profileId = p ∧ lease.identity.profileGeneration = g

theorem CachedSession.lease_for {c : CachedSession} {profile : ConnectionProfile}
    {g : ProfileGeneration} (h : c.serves profile g = true) :
    LeaseFor profile.id g (c.lease profile) := by
  unfold CachedSession.serves at h
  simp only [Bool.and_eq_true, beq_iff_eq] at h
  exact ⟨rfl, h.2⟩

theorem lookupSession_returns (profile : ConnectionProfile) (g : ProfileGeneration)
    (o : OperationId) :
    Returns (fun found => ∀ lease, found = some lease → LeaseFor profile.id g lease)
      (lookupSession profile g o : Op ρ (Option SessionLease)) := by
  apply Returns.step
  intro _ s found hfound lease hlease
  subst hlease
  split at hfound
  · cases hfound
  · split at hfound
    · cases hfound
    · split at hfound
      · split at hfound
        · rename_i hserves
          cases hfound
          exact CachedSession.lease_for hserves
        · cases hfound
      · cases hfound

theorem installSession_returns (profile : ConnectionProfile) (g : ProfileGeneration)
    (n : SessionGeneration) (h : Handle) :
    Returns (fun install => match install with
        | .installed _ lease | .existing lease => LeaseFor profile.id g lease
        | .stale | .uncertain => True)
      (installSession profile g n h : Op ρ CacheInstall) := by
  apply Returns.step
  intro _ s install hinstall
  split at hinstall
  · cases hinstall
    trivial
  · split at hinstall
    · cases hinstall
      trivial
    · simp only at hinstall
      split at hinstall
      · split at hinstall
        · rename_i hserves
          cases hinstall
          exact CachedSession.lease_for hserves
        · cases hinstall
          exact ⟨rfl, rfl⟩
      · cases hinstall
        exact ⟨rfl, rfl⟩

theorem sessionFor_returns (profile : ConnectionProfile) (g : ProfileGeneration)
    (o : OperationId) :
    Returns (LeaseFor profile.id g) (sessionFor profile g o : Op ρ SessionLease) := by
  apply Returns.bind (.any _)
  intro _ _
  apply Returns.bind (lookupSession_returns profile g o)
  intro found hfound
  cases found with
  | some lease => exact .ok (hfound lease rfl)
  | none =>
      apply Returns.bind (.any _)
      intro secret _
      apply Returns.bind (.any _)
      intro n _
      apply Returns.bind (.any _)
      intro dialled _
      cases dialled with
      | error error => exact .bind (.any _) fun _ _ => .fail _
      | ok h =>
          apply Returns.bind (installSession_returns profile g n h)
          intro install hlease
          cases install with
          | installed displaced lease =>
              cases displaced with
              | none => exact .ok hlease
              | some displaced => exact .bind (.any _) fun _ _ => .ok hlease
          | existing lease => exact .bind (.any _) fun _ _ => .ok hlease
          | stale => exact .bind (.any _) fun _ _ => .fail _
          | uncertain => exact .bind (.any _) fun _ _ => .fail _

theorem observedProfile_id {config : Config} {p : ProfileId} {profile : ConnectionProfile}
    (h : observedProfile config p = some profile) : profile.id = p := by
  simpa using List.find?_some h

theorem profileWithGeneration_returns (p : ProfileId) :
    Returns (fun found => found.1.id = p)
      (profileWithGeneration p : Op ρ (ConnectionProfile × ProfileGeneration)) := by
  apply Returns.step
  intro _ s found hfound
  simp only at hfound
  split at hfound
  · rename_i hprofile _
    cases hfound
    exact observedProfile_id hprofile
  · cases hfound

theorem acquireSessionAt_returns (o : OperationId) (p : ProfileId) (g : ProfileGeneration) :
    Returns (LeaseFor p g) (acquireSessionAt o p g : Op ρ SessionLease) := by
  apply Returns.bind (.any _)
  intro _ _
  apply Returns.bind (profileWithGeneration_returns p)
  rintro ⟨profile, generation⟩ hid
  show Returns _ (if _ then _ else _)
  split
  · exact .fail _
  · rename_i hgeneration
    have hg : generation = g := by simpa using hgeneration
    apply Returns.bind (.any _)
    intro _ _
    rw [← hid, ← hg]
    exact sessionFor_returns profile generation o

/-! ### Every lease is recorded -/

/-- A lease that `t` returns was handed out in a step of `t` to a request of `g`. -/
def Records (g : ProfileGeneration) (t : Op ρ SessionLease) : Prop :=
  ∀ past : Steps, Along (fun steps r => ∀ lease, r = .ok lease →
    ∃ x ∈ steps, x.2.1 = some (.leased g lease)) t past

theorem Records.fail (g : ProfileGeneration) (e : ServiceError) :
    Records g (.done (.error e) : Op ρ SessionLease) := by
  rintro past lease ⟨⟩

theorem Records.after {g : ProfileGeneration} {t : Op ρ α} {f : α → Op ρ SessionLease}
    (hf : ∀ a, Records g (f a)) : Records g (t >>= f) := by
  intro past
  apply Task.Sat.bind (Along.trivial t past)
  · intro steps a _
    exact hf a steps
  · rintro steps e - lease ⟨⟩

/-- Closing a handle after the lease was recorded. -/
theorem close_records {g : ProfileGeneration} {h : Handle} {lease : SessionLease} {past : Steps}
    (hlease : ∃ x ∈ past, x.2.1 = some (.leased g lease)) :
    Along (fun steps r => ∀ lease, r = .ok lease → ∃ x ∈ steps, x.2.1 = some (.leased g lease))
      (do close h; return lease : Op ρ SessionLease) past := by
  intro i s
  refine ⟨_, rfl, ?_⟩
  rintro lease' ⟨⟩
  obtain ⟨x, hx, he⟩ := hlease
  exact ⟨x, List.mem_append_left _ hx, he⟩

theorem lookupSession_records (profile : ConnectionProfile) (g : ProfileGeneration)
    (o : OperationId) (past : Steps) :
    Along (fun steps r => ∀ lease, r = .ok (some lease) →
        ∃ x ∈ steps, x.2.1 = some (.leased g lease))
      (lookupSession profile g o : Op ρ (Option SessionLease)) past := by
  intro i s
  refine ⟨_, rfl, ?_⟩
  intro lease hlease
  refine ⟨_, List.mem_append_right _ (List.mem_singleton.mpr rfl), ?_⟩
  simp only at hlease ⊢
  split at hlease
  · cases hlease
  · split at hlease
    · cases hlease
    · rename_i huncertain hcurrent
      rw [if_neg huncertain, if_neg hcurrent]
      split at hlease
      · split at hlease
        · rename_i hserves
          cases hlease
          rw [if_pos hserves]
        · cases hlease
      · cases hlease

theorem installSession_records (profile : ConnectionProfile) (g : ProfileGeneration)
    (n : SessionGeneration) (h : Handle) (past : Steps) :
    Along (fun steps r => ∀ install lease, r = .ok install → install.lease? = some lease →
        ∃ x ∈ steps, x.2.1 = some (.leased g lease))
      (installSession profile g n h : Op ρ CacheInstall) past := by
  intro i s
  refine ⟨_, rfl, ?_⟩
  intro install lease hinstall hlease
  refine ⟨_, List.mem_append_right _ (List.mem_singleton.mpr rfl), ?_⟩
  simp only at hinstall ⊢
  split at hinstall
  · cases hinstall
    cases hlease
  · split at hinstall
    · cases hinstall
      cases hlease
    · rename_i huncertain hcurrent
      rw [if_neg huncertain, if_neg hcurrent]
      split at hinstall
      · split at hinstall
        · rename_i hserves
          cases hinstall
          cases hlease
          rw [if_pos hserves]
        · rename_i hserves
          cases hinstall
          cases hlease
          rw [if_neg hserves]
      · cases hinstall
        cases hlease
        rfl

theorem sessionFor_records (profile : ConnectionProfile) (g : ProfileGeneration)
    (o : OperationId) : Records g (sessionFor profile g o : Op ρ SessionLease) := by
  apply Records.after
  intro _ past
  apply Task.Sat.bind (lookupSession_records profile g o past)
  · intro steps found hfound
    cases found with
    | some lease =>
        rintro lease' ⟨⟩
        exact hfound lease rfl
    | none =>
        apply Records.after (fun secret => Records.after fun n => Records.after fun dialled => ?_)
        cases dialled with
        | error error => exact .after fun _ => .fail g _
        | ok h =>
            intro past'
            apply Task.Sat.bind (installSession_records profile g n h past')
            · intro steps' install hinstall
              cases install with
              | installed displaced lease =>
                  have hlease := hinstall _ lease rfl rfl
                  cases displaced with
                  | none =>
                      rintro lease' ⟨⟩
                      exact hlease
                  | some displaced => exact close_records hlease
              | existing lease => exact close_records (hinstall _ lease rfl rfl)
              | stale => exact Records.after (fun _ => .fail g _) steps'
              | uncertain => exact Records.after (fun _ => .fail g _) steps'
            · rintro steps' e - lease ⟨⟩
  · rintro steps e - lease ⟨⟩

theorem acquireSessionAt_records (o : OperationId) (p : ProfileId) (g : ProfileGeneration) :
    Records g (acquireSessionAt o p g : Op ρ SessionLease) := by
  apply Records.after
  intro _
  apply Records.after
  rintro ⟨profile, generation⟩
  show Records g (if _ then _ else _)
  split
  · exact .fail g _
  · rename_i hgeneration
    have hg : generation = g := by simpa using hgeneration
    subst hg
    apply Records.after
    intro _
    exact sessionFor_records profile generation o

/-! ### Operations end with an observation -/

/-- A success comes with an observation of the generation that was asked for. -/
def Answered (p : ProfileId) (g : ProfileGeneration) (t : Op ρ α) : Prop :=
  ∀ past : Steps, Along (fun steps r => r.isOk = true → Observes p g steps) t past

theorem Answered.after {β : Type} {P : α → Prop} {p : ProfileId} {g : ProfileGeneration}
    {t : Op ρ α} {f : α → Op ρ β} (ht : Returns P t) (hf : ∀ a, P a → Answered p g (f a)) :
    Answered p g (t >>= f) := by
  intro past
  apply Task.Sat.bind (ht past)
  · intro steps a ha
    exact hf a (ha a rfl) steps
  · intro steps e _ hok
    cases hok

theorem Answered.finish {β : Type} {p : ProfileId} {g : ProfileGeneration} {lease : SessionLease}
    (hlease : LeaseFor p g lease) (o : OperationId) (evicts : Except ServiceError Unit → Bool)
    {rest : Op ρ β} (hrest : Silent rest) :
    Answered p g (do
      let observation ← (observeSession lease o).attempt
      evictWhen (evicts observation) lease
      .ofExcept observation
      rest) := by
  obtain ⟨rfl, rfl⟩ := hlease
  exact finish_observes lease o evicts hrest

theorem executeAt_answered (split : Text → Option (List Text)) (request : ExecuteRequest) :
    Answered request.profileId request.profileGeneration
      (executeAt split request : Op ρ (OperationOutcome ρ)) := by
  apply Answered.after (.any _)
  intro _ _
  apply Answered.after (acquireSessionAt_returns _ _ _)
  intro lease hlease
  apply Answered.after (.any _)
  intro result _
  exact .finish hlease _ (fun observation => resultDisposition result == .evict || !observation.isOk)
    (.bind (.done _) fun _ => .done _)

theorem checkAt_answered (o : OperationId) (p : ProfileId) (g : ProfileGeneration) :
    Answered p g (checkAt o p g : Op ρ (OperationOutcome ρ)) := by
  apply Answered.after (acquireSessionAt_returns _ _ _)
  intro lease hlease
  apply Answered.after (.any _)
  intro ping _
  exact .finish hlease _ (fun observation => !ping.isOk || !observation.isOk)
    (.bind (.done _) fun _ => .done _)

theorem browse_answered (identity : RequestIdentity) :
    Answered identity.profileId identity.profileGeneration (browse identity : Op ρ ρ) := by
  apply Answered.after (acquireSessionAt_returns _ _ _)
  intro lease hlease
  apply Answered.after (.any _)
  intro result _
  exact .finish hlease _ (fun observation => resultDisposition result == .evict || !observation.isOk)
    (.done _)

theorem loadCatalogPage_answered (request : CatalogRequest) :
    Answered request.identity.profileId request.identity.profileGeneration
      (loadCatalogPage request : Op ρ ρ) := by
  apply Answered.after (.any _)
  intro _ _
  apply Answered.after (.any _)
  intro context _
  exact .after (.any _) fun _ _ => browse_answered _

theorem scanRedisKeys_answered (request : RedisScanRequest) :
    Answered request.identity.profileId request.identity.profileGeneration
      (scanRedisKeys request : Op ρ ρ) := by
  apply Answered.after (.any _)
  intro _ _
  exact .after (.any _) fun _ _ => browse_answered _

theorem inspectRedisKey_answered (request : RedisKeyInspectRequest) :
    Answered request.identity.profileId request.identity.profileGeneration
      (inspectRedisKey request : Op ρ ρ) := by
  apply Answered.after (.any _)
  intro _ _
  exact .after (.any _) fun _ _ => browse_answered _

theorem finishWith_along {wrap : α → Outcome ρ} {op : Op ρ α} {p : ProfileId}
    {g : ProfileGeneration} (h : Answered p g op) (past : Steps) :
    Along (fun steps r => r.isOk = true → Observes p g steps) (finishWith wrap op) past := by
  apply Task.Sat.mapError (Q := fun steps r => r.isOk = true → Observes p g steps)
  · apply Task.Sat.bind (h past)
    · intro steps a ha _
      exact ha rfl
    · intro steps e _ hok
      cases hok
  · intro steps r hr hok
    cases r with
    | ok a => exact hr rfl
    | error e => cases hok

/-- What is known of a finished call: a successful operation has observed its generation, and
a lease that was returned was recorded. -/
structure Success (command : Command) (steps : Steps) (r : Except Failure (Outcome ρ)) :
    Prop where
  observed : ∀ identity, command.operation = some identity → r.isOk = true →
    Observes identity.profileId identity.profileGeneration steps
  leased : ∀ identity lease, command = .acquire identity → r = .ok (.lease lease) →
    ∃ x ∈ steps, x.2.1 = some (.leased identity.profileGeneration lease)

theorem begin_success (split : Text → Option (List Text)) (command : Command) :
    Along (Success command) (begin split command : CallTask ρ) [] := by
  have operation : ∀ {identity : RequestIdentity} {t : CallTask ρ},
      command.operation = some identity →
      Along (fun steps r => r.isOk = true →
        Observes identity.profileId identity.profileGeneration steps) t [] →
      Along (Success command) t [] := by
    intro identity t hcommand ht
    apply Task.Sat.weaken ht
    intro steps r h
    constructor
    · intro identity' hidentity'
      rw [hcommand] at hidentity'
      cases hidentity'
      exact h
    · rintro identity' lease rfl
      cases hcommand
  have other : command.operation = none → (∀ identity, command ≠ .acquire identity) →
      Along (Success command) (begin split command : CallTask ρ) [] := by
    intro hcommand hacquire
    apply Task.Sat.weaken (Along.trivial _ _)
    intro steps r _
    constructor
    · intro identity hidentity
      rw [hcommand] at hidentity
      cases hidentity
    · intro identity lease h
      exact absurd h (hacquire identity)
  cases command with
  | execute request => exact operation rfl (finishWith_along (executeAt_answered split request) [])
  | check identity => exact operation rfl (finishWith_along (checkAt_answered _ _ _) [])
  | loadCatalogPage request =>
      exact operation rfl (finishWith_along (loadCatalogPage_answered request) [])
  | scanRedisKeys request =>
      exact operation rfl (finishWith_along (scanRedisKeys_answered request) [])
  | inspectRedisKey request =>
      exact operation rfl (finishWith_along (inspectRedisKey_answered request) [])
  | acquire identity =>
      apply Task.Sat.mapError (Q := fun steps r => ∀ lease, r = .ok (Outcome.lease lease) →
        ∃ x ∈ steps, x.2.1 = some (.leased identity.profileGeneration lease))
      · apply Task.Sat.bind (acquireSessionAt_records _ _ _ _)
        · rintro steps lease hlease lease' ⟨⟩
          exact hlease lease rfl
        · rintro steps e - lease ⟨⟩
      · intro steps r hr
        constructor
        · intro identity' hidentity'
          cases hidentity'
        · rintro identity' lease ⟨⟩ hlease
          cases r with
          | ok a =>
              cases hlease
              exact hr lease rfl
          | error e => cases hlease
  | _ => exact other rfl (fun _ h => nomatch h)

/-! ## The result -/

/-- What holds of the sessions after a run. -/
structure SessionsSafe (sys : ServiceSystem ρ) : Prop where
  /-- A successful operation found its generation current and the configuration certain at
  its last observation. -/
  observed : ∀ i command outcome, sys.calls[i]? = some ⟨command, .finished (.ok outcome)⟩ →
    ∀ identity, command.operation = some identity →
      Observes identity.profileId identity.profileGeneration (history i sys.trace)
  /-- A lease is to a session with the fingerprint and the generation of the request. -/
  leased : ∀ e ∈ sys.trace, ∀ generation lease,
    e.event = some (.leased generation lease) → LeaseTrue e.before e.after generation lease
  /-- Every lease that a call returns is one of these. -/
  recorded : ∀ i identity lease,
    sys.calls[i]? = some ⟨.acquire identity, .finished (.ok (.lease lease))⟩ →
      ∃ x ∈ history i sys.trace, x.2.1 = some (.leased identity.profileGeneration lease)
  /-- Only a connection of the current generation is put into the cache. -/
  installed : ∀ e ∈ sys.trace, InstallTrue e.before e.after
  /-- What a finished call dialled is closed, unless the call had it in the cache. -/
  dialled : ∀ e ∈ sys.trace, ∀ command r, sys.calls[e.call]? = some ⟨command, .finished r⟩ →
    ∀ h, ¬ Opened e.before h → Opened e.after h →
      Closed sys.shared h ∨ ∃ e' ∈ sys.trace, e'.call = e.call ∧ Cached e'.after h
  /-- What a finished call took out of the cache is closed. -/
  displaced : ∀ e ∈ sys.trace, ∀ command r, sys.calls[e.call]? = some ⟨command, .finished r⟩ →
    ∀ h, Cached e.before h → ¬ Cached e.after h → Closed sys.shared h
  /-- When all calls have finished, no connection is open outside the cache. -/
  settled : (∀ c ∈ sys.calls, ∃ r, c.progress = .finished r) →
    ∀ h, Opened sys.shared h → Closed sys.shared h ∨ Cached sys.shared h

theorem begin_settles (split : Text → Option (List Text)) (command : Command) :
    Settles Opened Cached Closed (begin split command : CallTask ρ) :=
  (begin_steady split command _).mono fun _ _ _ _ _ h => h.1

theorem initial_opened (loaded : LoadedConfig) (h : Handle) :
    ¬ Opened (ApplicationService.initial loaded) h := List.not_mem_nil

theorem initial_cacheTrue (loaded : LoadedConfig) :
    CacheTrue (ApplicationService.initial loaded) := by
  intro p c hc
  change (∅ : ProfileMap CachedSession).lookup p = some c at hc
  rw [AList.lookup_empty] at hc
  cases hc

/-- The sessions are safe after every schedule of calls. -/
theorem runService_sessionsSafe (split : Text → Option (List Text)) (loaded : LoadedConfig)
    (actions : List (Action (Answer ρ) Command)) :
    SessionsSafe (runService split loaded actions) := by
  have hentries := run_entries
    (fun command => (begin_steady (ρ := ρ) split command Custody.none).forget
      fun _ _ _ _ _ h => h.2)
    (initial_cacheTrue loaded) actions
  have hsuccess : ∀ i command r,
      (runService split loaded actions).calls[i]? = some ⟨command, .finished r⟩ →
      Success command (history i (runService split loaded actions).trace) r :=
    fun i command r hc => run_history (begin_success split) _ actions hc
  constructor
  · intro i command outcome hc identity hidentity
    exact (hsuccess i command _ hc).observed identity hidentity rfl
  · intro e he generation lease hlease
    exact (hentries.2 e he).2 generation lease hlease
  · intro i identity lease hc
    exact (hsuccess i _ _ hc).leased identity lease rfl rfl
  · intro e he
    exact (hentries.2 e he).1
  · intro e he command r hc h hbefore hafter
    exact run_opened_settled (begin_settles split) (initial_opened loaded) actions rfl he hc
      hbefore hafter
  · intro e he command r hc h hbefore hafter
    exact run_taken_closed (begin_settles split) (initial_opened loaded) actions rfl he hc
      hbefore hafter
  · intro hall h hh
    exact run_all_settled (begin_settles split) (initial_opened loaded) actions rfl hall hh

/-- A connection check that dials, installs, pings, observes and succeeds. -/
example :
    let profile : ConnectionProfile := ⟨⟨"db".toList, .mySql, "host".toList, 3306, none, none,
      .disabled, .none, none, ⟨none⟩⟩, "db".toList⟩
    let answer : Answer Unit := ⟨.ok (), .ok (), fun _ => .ok (), true, fun _ => .ok [], true,
      none, fun _ _ => none⟩
    let sys := runService (fun _ => none) ⟨⟨2, [profile]⟩, .v2, false, none, none⟩
      (.start (.check ⟨"db".toList, 1, 7⟩) :: List.replicate 12 (.advance 0 answer))
    (sys.calls.map fun c => match c.progress with
      | .finished (.ok _) => true
      | _ => false) = [true] ∧ sys.shared.sessions.keys = ["db".toList] := by
  decide +kernel

end Dbotter.Service
