import Mathlib.Data.Set.Insert
import Dbotter.Service.Walks

/-!
The guarantee that every step of every call of the service keeps: a lease goes to a request
that the session serves, only a connection of the current generation enters the cache, and a
call answers for each connection it has opened or taken out of the cache.
-/

namespace Dbotter.Service
open Dbotter.Utf8 Dbotter.Execution Dbotter.Configuration Dbotter.Program
open Dbotter.Program.System

variable {ρ α : Type}

def Opened (s : ApplicationService) (h : Handle) : Prop := h ∈ s.connections

def Cached (s : ApplicationService) (h : Handle) : Prop :=
  ∃ p c, s.sessions.lookup p = some c ∧ c.handle = h

def Closed (s : ApplicationService) (h : Handle) : Prop := h ∈ s.closed

/-- Every cached session carries the fingerprint that its connection was dialled with. -/
def CacheTrue (s : ApplicationService) : Prop :=
  ∀ p c, s.sessions.lookup p = some c → c.connectionFingerprint = .from c.handle.profile

/-- A lease to a request of `generation`, as handed out in the state `s` and found cached in
the state `s'` that the same step leaves. -/
structure LeaseTrue (s s' : ApplicationService) (generation : ProfileGeneration)
    (lease : SessionLease) : Prop where
  profileId : lease.profileId = lease.profile.id
  cached : s'.sessions.lookup lease.profileId = some ⟨lease.identity, lease.handle⟩
  fingerprint : lease.identity.connectionFingerprint = .from lease.profile
  dialled : ConnectionFingerprint.from lease.handle.profile = .from lease.profile
  tag : lease.identity.profileGeneration = generation
  current : s.isCurrent lease.profile generation = true
  certain : s.configUncertain = false

/-- What a step may put into the cache: a connection that was there under the same profile,
or one that was dialled for the generation that is current now. -/
def InstallTrue (s s' : ApplicationService) : Prop :=
  ∀ p c, s'.sessions.lookup p = some c →
    (∃ c₀, s.sessions.lookup p = some c₀ ∧ c₀.handle = c.handle) ∨
    (s.generationIs p c.profileGeneration = true ∧
      c.handle.profileGeneration = c.profileGeneration ∧ s.configUncertain = false)

def StepTrue (s : ApplicationService) (e : Option Event) (s' : ApplicationService) : Prop :=
  InstallTrue s s' ∧
    ∀ generation lease, e = some (.leased generation lease) → LeaseTrue s s' generation lease

/-- The guarantee of every step of every call. -/
def Guarantee (γ : Custody Handle) (s : ApplicationService) (e : Option Event)
    (s' : ApplicationService) (γ' : Custody Handle) : Prop :=
  Custody.Keeps Opened Cached Closed γ s s' γ' ∧ (CacheTrue s → CacheTrue s' ∧ StepTrue s e s')

theorem InstallTrue.of_sessions {s s' : ApplicationService} (h : s'.sessions = s.sessions) :
    InstallTrue s s' := by
  intro p c hc
  rw [h] at hc
  exact .inl ⟨c, hc, rfl⟩

theorem CacheTrue.of_sessions {s s' : ApplicationService} (h : s'.sessions = s.sessions)
    (hs : CacheTrue s) : CacheTrue s' := by
  intro p c hc
  rw [h] at hc
  exact hs p c hc

theorem cached_congr {s s' : ApplicationService} (h : s'.sessions = s.sessions) (k : Handle) :
    Cached s' k ↔ Cached s k := by
  unfold Cached
  rw [h]

/-- A step that touches no connection and hands out no lease. -/
theorem guarantee_quiet {γ : Custody Handle} {s s' : ApplicationService} {e : Option Event}
    (hconn : s'.connections = s.connections) (hsess : s'.sessions = s.sessions)
    (hclosed : s'.closed = s.closed) (he : ∀ g l, e ≠ some (.leased g l)) :
    Guarantee γ s e s' γ := by
  constructor
  · apply Custody.Keeps.refl
    · intro h
      simp [Opened, hconn]
    · exact cached_congr hsess
    · intro h
      simp [Closed, hclosed]
  · intro hs
    exact ⟨hs.of_sessions hsess, .of_sessions hsess, fun g l hl => absurd hl (he g l)⟩

/-! ## Custody of one handle -/

def own (γ : Custody Handle) (h : Handle) : Custody Handle := { γ with mine := insert h γ.mine }

def owe (γ : Custody Handle) (h : Handle) : Custody Handle := { γ with duty := insert h γ.duty }

def oweAll (γ : Custody Handle) (hs : List Handle) : Custody Handle := hs.foldr (fun h γ => owe γ h) γ

theorem mem_oweAll_duty (γ : Custody Handle) (hs : List Handle) (h : Handle) :
    h ∈ (oweAll γ hs).duty ↔ h ∈ hs ∨ h ∈ γ.duty := by
  induction hs with
  | nil => simp [oweAll]
  | cons k hs ih =>
      change h ∈ insert k (oweAll γ hs).duty ↔ _
      rw [Set.mem_insert_iff, ih, List.mem_cons, or_assoc]

theorem oweAll_mine (γ : Custody Handle) (hs : List Handle) : (oweAll γ hs).mine = γ.mine := by
  induction hs with
  | nil => rfl
  | cons k hs ih => exact ih

/-- Closing a handle settles it, whichever way it came into custody. -/
theorem close_settles {γ γ' : Custody Handle} (h : Handle)
    (hmine : ∀ k ∈ γ.mine, k = h ∨ k ∈ γ'.mine) (hduty : ∀ k ∈ γ.duty, k = h ∨ k ∈ γ'.duty) :
    (close h : Op ρ Unit).Sat Guarantee (fun γ r => γ = γ' ∧ r = .ok ()) γ := by
  apply Task.Sat.step
  intro _ s
  refine ⟨γ', ⟨?_, ?_⟩, rfl, rfl⟩
  · constructor
    · intro k hk
      exact .inl hk
    · intro k hk
      rcases hmine k hk with rfl | hk
      · exact .inr (.inl (List.mem_cons_self ..))
      · exact .inl hk
    · intro k hk
      exact .inl hk
    · intro k hk
      rcases hduty k hk with rfl | hk
      · exact .inr (List.mem_cons_self ..)
      · exact .inl hk
    · intro k hk
      exact List.mem_cons_of_mem h hk
  · intro hs
    exact ⟨hs, .of_sessions rfl, fun _ _ hl => nomatch hl⟩

theorem close_own (γ : Custody Handle) (h : Handle) :
    (close h : Op ρ Unit).Sat Guarantee (fun γ' r => γ' = γ ∧ r = .ok ()) (own γ h) :=
  close_settles h (fun _ hk => hk) (fun _ hk => .inr hk)

theorem close_owe (γ : Custody Handle) (h : Handle) :
    (close h : Op ρ Unit).Sat Guarantee (fun γ' r => γ' = γ ∧ r = .ok ()) (owe γ h) :=
  close_settles h (fun _ hk => .inr hk) (fun _ hk => hk)

theorem closeAll_settles (γ : Custody Handle) (hs : List Handle) :
    (closeAll hs : Op ρ Unit).Sat Guarantee (fun γ' _ => γ' = γ) (oweAll γ hs) := by
  induction hs with
  | nil => rfl
  | cons h hs ih =>
      apply (close_owe (oweAll γ hs) h).bind
      · rintro _ _ ⟨rfl, -⟩
        exact ih
      · rintro _ _ ⟨-, he⟩
        cases he

/-! ## Steps on the cache -/

/-- Taking an entry out leaves its handle, and only its handle, to be closed. -/
theorem guarantee_take {γ : Custody Handle} {s : ApplicationService} {p : ProfileId}
    {c : CachedSession} (hc : s.sessions.lookup p = some c) :
    Guarantee γ s none { s with sessions := s.sessions.erase p } (owe γ c.handle) := by
  have herase : ∀ q d, (s.sessions.erase p).lookup q = some d → s.sessions.lookup q = some d := by
    intro q d hd
    by_cases hqp : q = p
    · subst hqp
      rw [AList.lookup_erase] at hd
      cases hd
    · rwa [AList.lookup_erase_ne hqp] at hd
  constructor
  · constructor
    · intro k hk
      exact .inl hk
    · intro k hk
      exact .inl hk
    · rintro k ⟨q, d, hd, rfl⟩
      by_cases hqp : q = p
      · subst hqp
        rw [hc] at hd
        cases hd
        exact .inr (Set.mem_insert ..)
      · refine .inl ⟨q, d, ?_, rfl⟩
        rwa [AList.lookup_erase_ne hqp]
    · intro k hk
      exact .inl (Set.mem_insert_of_mem _ hk)
    · intro k hk
      exact hk
  · intro hs
    refine ⟨fun q d hd => hs q d (herase q d hd), ?_, fun _ _ hl => nomatch hl⟩
    intro q d hd
    exact .inl ⟨d, herase q d hd, rfl⟩

/-- Writing an entry whose handle was there already. -/
theorem guarantee_retag {γ : Custody Handle} {s : ApplicationService} {p : ProfileId}
    {c d : CachedSession} (hc : s.sessions.lookup p = some c) (hhandle : d.handle = c.handle)
    (hfingerprint : d.connectionFingerprint = c.connectionFingerprint) :
    Guarantee γ s none { s with sessions := s.sessions.insert p d } γ := by
  constructor
  · apply Custody.Keeps.refl
    · intro h
      rfl
    · intro h
      constructor
      · rintro ⟨q, e, he, rfl⟩
        by_cases hqp : q = p
        · subst hqp
          rw [AList.lookup_insert] at he
          cases he
          exact ⟨q, c, hc, hhandle.symm⟩
        · rw [AList.lookup_insert_ne hqp] at he
          exact ⟨q, e, he, rfl⟩
      · rintro ⟨q, e, he, rfl⟩
        by_cases hqp : q = p
        · subst hqp
          rw [hc] at he
          cases he
          exact ⟨q, d, AList.lookup_insert _, hhandle⟩
        · refine ⟨q, e, ?_, rfl⟩
          rwa [AList.lookup_insert_ne hqp]
    · intro h
      rfl
  · intro hs
    refine ⟨?_, ?_, fun _ _ hl => nomatch hl⟩
    · intro q e he
      by_cases hqp : q = p
      · subst hqp
        rw [AList.lookup_insert] at he
        cases he
        rw [hfingerprint, hhandle]
        exact hs q c hc
      · rw [AList.lookup_insert_ne hqp] at he
        exact hs q e he
    · intro q e he
      by_cases hqp : q = p
      · subst hqp
        rw [AList.lookup_insert] at he
        cases he
        exact .inl ⟨c, hc, hhandle.symm⟩
      · rw [AList.lookup_insert_ne hqp] at he
        exact .inl ⟨e, he, rfl⟩

/-- What the caller answers for after the cache was written: the entry that was displaced. -/
def displace (γ : Custody Handle) : Option Handle → Custody Handle
  | some h => owe γ h
  | none => γ

/-- Installing a dialled connection: the caller gives it away and answers for what it
displaced. -/
theorem guarantee_install {γ : Custody Handle} {s : ApplicationService}
    {profile : ConnectionProfile} {generation : ProfileGeneration} {n : SessionGeneration}
    {h : Handle} {fresh : CachedSession} (hfresh : fresh = ⟨⟨generation, n, .from profile⟩, h⟩)
    (hprofile : h.profile = profile) (hgeneration : h.profileGeneration = generation)
    (hcertain : s.configUncertain = false)
    (hcurrent : s.isCurrent profile generation = true) :
    Guarantee (own γ h) s (some (.leased generation (fresh.lease profile)))
      { s with sessions := s.sessions.insert profile.id fresh }
      (displace γ ((s.sessions.lookup profile.id).map (·.handle))) := by
  subst hfresh
  have hgen : s.generationIs profile.id generation = true := by
    unfold ApplicationService.isCurrent at hcurrent
    simp only [Bool.and_eq_true] at hcurrent
    exact hcurrent.1
  constructor
  · constructor
    · intro k hk
      exact .inl hk
    · intro k hk
      rcases Set.mem_insert_iff.mp hk with rfl | hk
      · exact .inr (.inr ⟨profile.id, _, AList.lookup_insert _, rfl⟩)
      · left
        unfold displace
        split <;> exact hk
    · rintro k ⟨q, d, hd, rfl⟩
      by_cases hqp : q = profile.id
      · subst hqp
        rw [hd]
        exact .inr (Set.mem_insert ..)
      · refine .inl ⟨q, d, ?_, rfl⟩
        rwa [AList.lookup_insert_ne hqp]
    · intro k hk
      left
      unfold displace
      split
      · exact Set.mem_insert_of_mem _ hk
      · exact hk
    · intro k hk
      exact hk
  · intro hs
    refine ⟨?_, ?_, ?_⟩
    · intro q d hd
      by_cases hqp : q = profile.id
      · subst hqp
        rw [AList.lookup_insert] at hd
        cases hd
        rw [hprofile]
      · rw [AList.lookup_insert_ne hqp] at hd
        exact hs q d hd
    · intro q d hd
      by_cases hqp : q = profile.id
      · subst hqp
        rw [AList.lookup_insert] at hd
        cases hd
        exact .inr ⟨hgen, hgeneration, hcertain⟩
      · rw [AList.lookup_insert_ne hqp] at hd
        exact .inl ⟨d, hd, rfl⟩
    · intro g lease hl
      cases hl
      exact ⟨rfl, AList.lookup_insert _, rfl, by rw [← hprofile]; rfl, rfl, hcurrent, hcertain⟩

/-- Leasing a cached session that serves the request. -/
theorem guarantee_lease {γ : Custody Handle} {s : ApplicationService}
    {profile : ConnectionProfile} {generation : ProfileGeneration} {c : CachedSession}
    (hc : s.sessions.lookup profile.id = some c) (hserves : c.serves profile generation = true)
    (hcertain : s.configUncertain = false) (hcurrent : s.isCurrent profile generation = true) :
    Guarantee γ s (some (.leased generation (c.lease profile))) s γ := by
  unfold CachedSession.serves at hserves
  simp only [Bool.and_eq_true, beq_iff_eq] at hserves
  obtain ⟨hfingerprint, htag⟩ := hserves
  constructor
  · exact .refl (fun _ => Iff.rfl) (fun _ => Iff.rfl) (fun _ => Iff.rfl)
  · intro hs
    refine ⟨hs, .of_sessions rfl, ?_⟩
    intro g lease hl
    cases hl
    exact ⟨rfl, hc, hfingerprint, (hs _ c hc).symm.trans hfingerprint, htag, hcurrent, hcertain⟩

/-! ## Every task keeps the guarantee

A task that keeps `Guarantee` and ends with the custody it started with is called steady. -/

abbrev Steady {ε : Type} (t : Task ApplicationService (Answer ρ) Event ε α) : Prop :=
  t.Steady Guarantee

/-- A step that touches no connection. -/
theorem steady_quiet {f : Answer ρ → ApplicationService →
      Effect ApplicationService Event (Except ServiceError α)}
    (hconn : ∀ i s, (f i s).state.connections = s.connections)
    (hsess : ∀ i s, (f i s).state.sessions = s.sessions)
    (hclosed : ∀ i s, (f i s).state.closed = s.closed)
    (he : ∀ i s g l, (f i s).event ≠ some (.leased g l)) : Steady (Task.step f : Op ρ α) :=
  .step fun _ i s => guarantee_quiet (hconn i s) (hsess i s) (hclosed i s) (he i s)

theorem allocateSessionGeneration_steady :
    Steady (allocateSessionGeneration : Op ρ SessionGeneration) :=
  steady_quiet (fun _ _ => rfl) (fun _ _ => rfl) (fun _ _ => rfl) fun _ _ _ _ h => nomatch h

/-! ### Evicting -/

theorem takeCachedSessionExact_custody (γ : Custody Handle) (p : ProfileId)
    (g : ProfileGeneration) (n : SessionGeneration) :
    (takeCachedSessionExact p g n : Op ρ (Option Handle)).Sat Guarantee
      (fun γ' r => ∃ removed, r = .ok removed ∧ γ' = displace γ removed) γ := by
  apply Task.Sat.step
  intro _ s
  have quiet : Guarantee γ s none s γ := guarantee_quiet rfl rfl rfl fun _ _ h => nomatch h
  cases hc : s.sessions.lookup p with
  | none => exact ⟨γ, quiet, none, rfl, rfl⟩
  | some c =>
      by_cases hexact : c.isExactly g n = true
      · simp only [hexact, if_true]
        exact ⟨owe γ c.handle, guarantee_take hc, some c.handle, rfl, rfl⟩
      · simp only [hexact]
        exact ⟨γ, quiet, none, rfl, rfl⟩

theorem evictCachedSessionExact_steady (p : ProfileId) (g : ProfileGeneration)
    (n : SessionGeneration) : Steady (evictCachedSessionExact p g n : Op ρ Bool) := by
  intro γ
  apply (takeCachedSessionExact_custody γ p g n).bind
  · rintro γ' removed ⟨removed, hr, rfl⟩
    cases hr
    cases removed with
    | none => rfl
    | some h =>
        apply (close_owe γ h).bind
        · rintro _ _ ⟨rfl, -⟩
          rfl
        · rintro _ _ ⟨-, he⟩
          cases he
  · rintro γ' e ⟨removed, hr, -⟩
    cases hr

theorem retagCachedSessionExact_steady (p : ProfileId) (expected : CachedSessionIdentity)
    (g : ProfileGeneration) (f : ConnectionFingerprint) :
    Steady (retagCachedSessionExact p expected g f : Op ρ Bool) := by
  apply Task.Steady.step
  intro γ _ s
  have quiet : Guarantee γ s none s γ := guarantee_quiet rfl rfl rfl fun _ _ h => nomatch h
  cases hc : s.sessions.lookup p with
  | none => exact quiet
  | some c =>
      simp only
      split
      · exact quiet
      · exact guarantee_retag hc rfl rfl

theorem drainSessions_custody (γ : Custody Handle) :
    (drainSessions : Op ρ (List Handle)).Sat Guarantee
      (fun γ' r => ∃ handles, r = .ok handles ∧ γ' = oweAll γ handles) γ := by
  apply Task.Sat.step
  intro _ s
  refine ⟨_, ⟨?_, ?_⟩, _, rfl, rfl⟩
  · constructor
    · intro k hk
      exact .inl hk
    · intro k hk
      rw [oweAll_mine]
      exact .inl hk
    · rintro k ⟨p, c, hc, rfl⟩
      right
      rw [mem_oweAll_duty]
      left
      apply List.mem_map.mpr
      exact ⟨⟨p, c⟩, AList.mem_lookup_iff.mp hc, rfl⟩
    · intro k hk
      left
      rw [mem_oweAll_duty]
      exact .inr hk
    · intro k hk
      exact hk
  · intro _
    have hempty : ∀ (p : ProfileId) c,
        (∅ : ProfileMap CachedSession).lookup p = some c → False := by
      intro p c hc
      rw [AList.lookup_empty] at hc
      cases hc
    exact ⟨fun p c hc => (hempty p c hc).elim, fun p c hc => (hempty p c hc).elim,
      fun _ _ hl => nomatch hl⟩

theorem shutdownRuntime_steady : Steady (shutdownRuntime : Op ρ Unit) := by
  intro γ
  apply (drainSessions_custody γ).bind
  · rintro γ' handles ⟨handles, hr, rfl⟩
    cases hr
    have hquiet : Steady (clearAllSecrets : Op ρ Unit) :=
      steady_quiet (fun _ _ => rfl) (fun _ _ => rfl) (fun _ _ => rfl) fun _ _ _ _ h => nomatch h
    have hclear : (clearAllSecrets.attempt : Op ρ (Except ServiceError Unit)).Sat Guarantee
        (fun γ' r => γ' = oweAll γ handles ∧ ∃ r', r = .ok r') (oweAll γ handles) :=
      (hquiet _).attempt fun _ r h => ⟨h, r, rfl⟩
    apply hclear.bind
    · rintro _ _ ⟨rfl, -⟩
      exact closeAll_settles γ handles
    · rintro _ _ ⟨-, r', hr'⟩
      cases hr'
  · rintro γ' e ⟨handles, hr, -⟩
    cases hr

theorem guaranteed : LockSections ρ Guarantee where
  quiet _ _ _ _ h := guarantee_quiet h.connections h.sessions h.closed h.event
  evict := evictCachedSessionExact_steady
  retag := retagCachedSessionExact_steady
  shutdown := shutdownRuntime_steady

/-! ### Acquiring -/

theorem connect_custody (γ : Custody Handle) (profile : ConnectionProfile)
    (secret : Option SessionSecret) (generation : ProfileGeneration) :
    (connect profile secret generation : Op ρ (Except DriverError Handle)).Sat Guarantee
      (fun γ' r => ∃ dialled, r = .ok dialled ∧ match dialled with
        | .error _ => γ' = γ
        | .ok h => γ' = own γ h ∧ h.profile = profile ∧ h.profileGeneration = generation) γ := by
  apply Task.Sat.step
  intro answer s
  have quiet : Guarantee γ s (some (.dialled profile secret generation)) s γ :=
    guarantee_quiet rfl rfl rfl fun _ _ h => nomatch h
  cases answer.connect with
  | error error => exact ⟨γ, quiet, _, rfl, rfl⟩
  | ok _ =>
      refine ⟨own γ _, ⟨?_, ?_⟩, _, rfl, rfl, rfl, rfl⟩
      · constructor
        · intro k hk
          rcases List.mem_cons.mp hk with rfl | hk
          · exact .inr (Set.mem_insert ..)
          · exact .inl hk
        · intro k hk
          exact .inl (Set.mem_insert_of_mem _ hk)
        · intro k hk
          exact .inl hk
        · intro k hk
          exact .inl hk
        · intro k hk
          exact hk
      · intro hs
        exact ⟨hs, .of_sessions rfl, fun _ _ hl => nomatch hl⟩

theorem lookupSession_steady (profile : ConnectionProfile) (generation : ProfileGeneration)
    (operationId : OperationId) :
    Steady (lookupSession profile generation operationId : Op ρ (Option SessionLease)) := by
  apply Task.Steady.step
  intro γ _ s
  have quiet : Guarantee γ s none s γ := guarantee_quiet rfl rfl rfl fun _ _ h => nomatch h
  by_cases huncertain : s.configUncertain = true
  · simp only [huncertain, if_true]
    exact quiet
  · by_cases hcurrent : s.isCurrent profile generation = true
    · simp only [huncertain, hcurrent, Bool.not_true, Bool.false_eq_true, if_false]
      cases hc : s.sessions.lookup profile.id with
      | none => exact quiet
      | some c =>
          by_cases hserves : c.serves profile generation = true
          · simp only [hserves, if_true]
            exact guarantee_lease hc hserves (by simpa using huncertain) hcurrent
          · simp only [hserves]
            exact quiet
    · simp only [huncertain, hcurrent]
      exact quiet

/-- What the caller answers for after the write-locked section of `session_for`. -/
def CacheInstall.custody (γ : Custody Handle) (connected : Handle) : CacheInstall → Custody Handle
  | .installed displaced _ => displace γ displaced
  | .existing _ | .stale | .uncertain => own γ connected

theorem installSession_custody (γ : Custody Handle) {profile : ConnectionProfile}
    {generation : ProfileGeneration} (n : SessionGeneration) {h : Handle}
    (hprofile : h.profile = profile) (hgeneration : h.profileGeneration = generation) :
    (installSession profile generation n h : Op ρ CacheInstall).Sat Guarantee
      (fun γ' r => ∃ install, r = .ok install ∧ γ' = install.custody γ h) (own γ h) := by
  apply Task.Sat.step
  intro _ s
  have quiet : Guarantee (own γ h) s none s (own γ h) :=
    guarantee_quiet rfl rfl rfl fun _ _ h => nomatch h
  by_cases huncertain : s.configUncertain = true
  · simp only [huncertain, if_true]
    exact ⟨_, quiet, _, rfl, rfl⟩
  · by_cases hcurrent : s.isCurrent profile generation = true
    · have hstale : ¬ (!s.isCurrent profile generation) = true := by simp [hcurrent]
      simp only [if_neg huncertain, if_neg hstale]
      have hcertain : s.configUncertain = false := by simpa using huncertain
      have hinstall := guarantee_install (γ := γ) (n := n) rfl hprofile hgeneration hcertain
        hcurrent
      cases hc : s.sessions.lookup profile.id with
      | none =>
          rw [hc] at hinstall
          exact ⟨_, hinstall, _, rfl, rfl⟩
      | some c =>
          rw [hc] at hinstall
          by_cases hserves : c.serves profile generation = true
          · simp only [hserves, if_true]
            exact ⟨_, guarantee_lease hc hserves hcertain hcurrent, _, rfl, rfl⟩
          · simp only [hserves]
            exact ⟨_, hinstall, _, rfl, rfl⟩
    · simp only [huncertain, hcurrent]
      exact ⟨_, quiet, _, rfl, rfl⟩

theorem sessionFor_steady (profile : ConnectionProfile) (generation : ProfileGeneration)
    (operationId : OperationId) :
    Steady (sessionFor profile generation operationId : Op ρ SessionLease) := by
  apply Task.Steady.bind guaranteed.ensureConfigCertain_steady
  intro _
  apply Task.Steady.bind (lookupSession_steady profile generation operationId)
  intro cached
  cases cached with
  | some lease => exact .done _
  | none =>
      apply Task.Steady.bind (guaranteed.prepareConnection_steady profile)
      intro secret
      apply Task.Steady.bind allocateSessionGeneration_steady
      intro n γ
      apply (connect_custody γ profile secret generation).bind
      · rintro γ' dialled ⟨dialled, hr, hd⟩
        cases hr
        cases dialled with
        | error error =>
            subst hd
            exact Task.Steady.bind (guaranteed.ensureSessionObservation_steady profile.id generation
              operationId) (fun _ => .done _) _
        | ok h =>
            obtain ⟨rfl, hprofile, hgeneration⟩ := hd
            apply (installSession_custody γ n hprofile hgeneration).bind
            · rintro γ' install ⟨install, hr, rfl⟩
              cases hr
              -- the connection or what it displaced is closed on every way out
              cases install with
              | installed displaced lease =>
                  cases displaced with
                  | none => rfl
                  | some displaced =>
                      apply (close_owe γ displaced).bind
                      · rintro _ _ ⟨rfl, -⟩
                        rfl
                      · rintro _ _ ⟨-, he⟩
                        cases he
              | existing lease =>
                  apply (close_own γ h).bind
                  · rintro _ _ ⟨rfl, -⟩
                    rfl
                  · rintro _ _ ⟨-, he⟩
                    cases he
              | stale =>
                  apply (close_own γ h).bind
                  · rintro _ _ ⟨rfl, -⟩
                    rfl
                  · rintro _ _ ⟨-, he⟩
                    cases he
              | uncertain =>
                  apply (close_own γ h).bind
                  · rintro _ _ ⟨rfl, -⟩
                    rfl
                  · rintro _ _ ⟨-, he⟩
                    cases he
            · rintro γ' e ⟨install, hr, -⟩
              cases hr
      · rintro γ' e ⟨dialled, hr, -⟩
        cases hr

theorem acquireSessionAt_steady (o : OperationId) (p : ProfileId) (g : ProfileGeneration) :
    Steady (acquireSessionAt o p g : Op ρ SessionLease) := by
  apply Task.Steady.bind guaranteed.ensureConfigCertain_steady
  intro _
  apply Task.Steady.bind (guaranteed.profileWithGeneration_steady p)
  rintro ⟨profile, generation⟩
  show Steady (if _ then _ else _)
  split
  · exact .done _
  · apply Task.Steady.bind (guaranteed.checkProfileForNetwork_steady profile)
    intro _
    exact sessionFor_steady profile generation o

/-! ### Operations -/

theorem evictWhen_steady (b : Bool) (lease : SessionLease) :
    Steady (evictWhen b lease : Op ρ Unit) := by
  unfold evictWhen
  split
  · exact .bind (evictCachedSessionExact_steady _ _ _) fun _ => .done _
  · exact .done _

theorem observeSession_steady (lease : SessionLease) (o : OperationId) :
    Steady (observeSession lease o : Op ρ Unit) :=
  guaranteed.ensureSessionObservation_steady _ _ _

theorem finishResourceOperation_steady (lease : SessionLease) (o : OperationId)
    (result : Except DriverError ρ) : Steady (finishResourceOperation lease o result) := by
  apply Task.Steady.bind (observeSession_steady lease o).attempt
  intro observation
  apply Task.Steady.bind (evictWhen_steady _ lease)
  intro _
  exact .bind (.done _) fun _ => .done _

theorem executeAt_steady (split : Text → Option (List Text)) (request : ExecuteRequest) :
    Steady (executeAt split request : Op ρ (OperationOutcome ρ)) := by
  apply Task.Steady.bind (guaranteed.prepareExecuteRequest_steady split request)
  intro _
  apply Task.Steady.bind (acquireSessionAt_steady _ _ _)
  intro lease
  apply Task.Steady.bind (guaranteed.onSession_steady lease)
  intro result
  apply Task.Steady.bind (observeSession_steady lease _).attempt
  intro observation
  apply Task.Steady.bind (evictWhen_steady _ lease)
  intro _
  exact .bind (.done _) fun _ => .bind (.done _) fun _ => .done _

theorem checkAt_steady (o : OperationId) (p : ProfileId) (g : ProfileGeneration) :
    Steady (checkAt o p g : Op ρ (OperationOutcome ρ)) := by
  apply Task.Steady.bind (acquireSessionAt_steady _ _ _)
  intro lease
  apply Task.Steady.bind (guaranteed.onSession_steady lease)
  intro ping
  apply Task.Steady.bind (observeSession_steady lease _).attempt
  intro observation
  apply Task.Steady.bind (evictWhen_steady _ lease)
  intro _
  exact .bind (.done _) fun _ => .bind (.done _) fun _ => .done _

theorem browse_steady (identity : RequestIdentity) : Steady (browse identity : Op ρ ρ) := by
  apply Task.Steady.bind (acquireSessionAt_steady _ _ _)
  intro lease
  apply Task.Steady.bind (guaranteed.onSession_steady lease)
  intro result
  exact finishResourceOperation_steady lease _ result

theorem loadCatalogPage_steady (request : CatalogRequest) :
    Steady (loadCatalogPage request : Op ρ ρ) := by
  apply Task.Steady.bind (.done _)
  intro _
  apply Task.Steady.bind (guaranteed.ensureTypedResourceRequest_steady _ _)
  intro context
  apply Task.Steady.bind (guaranteed.catalogTokenKey_steady context)
  intro _
  exact browse_steady _

theorem scanRedisKeys_steady (request : RedisScanRequest) :
    Steady (scanRedisKeys request : Op ρ ρ) := by
  apply Task.Steady.bind (.done _)
  intro _
  exact .bind (guaranteed.ensureTypedResourceRequest_steady _ _) fun _ => browse_steady _

theorem inspectRedisKey_steady (request : RedisKeyInspectRequest) :
    Steady (inspectRedisKey request : Op ρ ρ) := by
  apply Task.Steady.bind (.done _)
  intro _
  exact .bind (guaranteed.ensureTypedResourceRequest_steady _ _) fun _ => browse_steady _

/-! ### All calls -/

theorem begin_steady (split : Text → Option (List Text)) (command : Command) :
    Steady (begin split command : CallTask ρ) := by
  cases command with
  | execute request => exact finishWith_steady (executeAt_steady split request)
  | check identity => exact finishWith_steady (checkAt_steady _ _ _)
  | loadCatalogPage request => exact finishWith_steady (loadCatalogPage_steady request)
  | scanRedisKeys request => exact finishWith_steady (scanRedisKeys_steady request)
  | inspectRedisKey request => exact finishWith_steady (inspectRedisKey_steady request)
  | acquire identity => exact finishWith_steady (acquireSessionAt_steady _ _ _)
  | _ => exact guaranteed.begin_steady split rfl fun _ h => nomatch h

end Dbotter.Service
