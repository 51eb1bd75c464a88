import Dbotter.Service.Installs
import Dbotter.Service.KeptSecrets
import Dbotter.Service.Tenure

/-!
What a call leaves in the cache.

A number is drawn once, so a session that has left the cache stays out. A call that ends by
evicting the session that it leased has taken it out, unless the entry got another tag meanwhile:
the eviction compares both the number and the tag. An acquisition that is dropped leaves nothing
of its own, unless it was closing what its own session had displaced.
-/

namespace Dbotter.Service
open Dbotter.Utf8 Dbotter.Execution Dbotter.Configuration Dbotter.Program
open Dbotter.Program.System

variable {ρ : Type}

/-! ## Numbers -/

/-- The numbers of the cache and the drawn ones are apart. -/
structure NumbersApart (ghost : Nat → Tenure) (s : ApplicationService) : Prop where
  cached : ∀ p c, s.sessions.lookup p = some c →
    c.sessionGeneration < s.nextSessionGeneration ∧
      ∀ (j : Nat), (ghost j).allocated ≠ some c.sessionGeneration
  apart : ∀ p q c d, s.sessions.lookup p = some c → s.sessions.lookup q = some d →
    c.sessionGeneration = d.sessionGeneration → p = q
  drawn : ∀ (j : Nat) n, (ghost j).allocated = some n → n < s.nextSessionGeneration
  owned : ∀ (j k : Nat) n, (ghost j).allocated = some n → (ghost k).allocated = some n → j = k

/-- The number has been drawn and is not waiting to be installed. -/
structure OutOfUse (ghost : Nat → Tenure) (s : ApplicationService) (n : SessionGeneration) :
    Prop where
  drawn : n < s.nextSessionGeneration
  free : ∀ (j : Nat), (ghost j).allocated ≠ some n

section
variable {ghost : Nat → Tenure} {s s' : ApplicationService} {i : Nat} {e : Option Event}
  {γ γ' : Tenure} {n : SessionGeneration}

/-- A session of the cache was there before, or the step installs it under the drawn number. -/
theorem TenureStep.cached (h : TenureStep γ s e s' γ') {p : ProfileId} {c' : CachedSession}
    (hc : s'.sessions.lookup p = some c') :
    (∃ c, s.sessions.lookup p = some c ∧ c.sessionGeneration = c'.sessionGeneration) ∨
      γ.allocated = some c'.sessionGeneration ∧ γ'.allocated = none ∧
        ∃ g lease, e = some (.leased g lease) ∧ p = lease.profileId ∧
          c' = ⟨lease.identity, lease.handle⟩ := by
  cases h with
  | quiet _ _ shrinks => exact .inl (shrinks p c' hc)
  | allocate => exact .inl ⟨c', hc, rfl⟩
  | lease _ _ => exact .inl ⟨c', hc, rfl⟩
  | @install g lease free allocated =>
      by_cases hp : p = lease.profileId
      · subst hp
        change (s.sessions.insert lease.profileId _).lookup lease.profileId = some c' at hc
        rw [AList.lookup_insert] at hc
        cases hc
        exact .inr ⟨allocated, rfl, g, lease, rfl, rfl, rfl⟩
      · change (s.sessions.insert lease.profileId _).lookup p = some c' at hc
        rw [AList.lookup_insert_ne hp] at hc
        exact .inl ⟨c', hc, rfl⟩
  | evict _ _ shrinks _ => exact .inl (shrinks p c' hc)

/-- The numbers that a step leaves drawn were drawn before, or the counter has passed them. -/
theorem TenureStep.drawn (h : TenureStep γ s e s' γ') :
    s.nextSessionGeneration ≤ s'.nextSessionGeneration ∧
      ∀ n, γ'.allocated = some n → γ.allocated = some n ∨
        n = s.nextSessionGeneration ∧ s'.nextSessionGeneration = s.nextSessionGeneration + 1 := by
  cases h with
  | quiet _ next _ => exact ⟨next.ge, fun n hn => .inl hn⟩
  | allocate =>
      refine ⟨Nat.le_succ _, fun n hn => .inr ⟨?_, rfl⟩⟩
      cases hn
      rfl
  | lease _ _ => exact ⟨Nat.le_refl _, fun n hn => .inl hn⟩
  | install _ _ => exact ⟨Nat.le_refl _, fun n hn => nomatch hn⟩
  | evict _ next _ _ => exact ⟨next.ge, fun n hn => .inl hn⟩

theorem OutOfUse.step (h : OutOfUse ghost s n) (hstep : TenureStep (ghost i) s e s' γ') :
    OutOfUse (Function.update ghost i γ') s' n := by
  obtain ⟨hnext, hdrawn⟩ := hstep.drawn
  refine ⟨Nat.lt_of_lt_of_le h.drawn hnext, ?_⟩
  intro j
  by_cases hj : j = i
  · subst hj
    rw [Function.update_self]
    intro hn
    rcases hdrawn n hn with hold | ⟨hnew, -⟩
    · exact h.free j hold
    · exact Nat.lt_irrefl _ (hnew ▸ h.drawn)
  · rw [Function.update_of_ne hj]
    exact h.free j

/-- No step brings a number back that is out of use. -/
theorem OutOfUse.stays (h : OutOfUse ghost s n) (hstep : TenureStep (ghost i) s e s' γ')
    {p : ProfileId} {c' : CachedSession} (hc : s'.sessions.lookup p = some c')
    (hn : c'.sessionGeneration = n) :
    ∃ c, s.sessions.lookup p = some c ∧ c.sessionGeneration = n := by
  rcases hstep.cached hc with ⟨c, hold, heq⟩ | ⟨hnew, -⟩
  · exact ⟨c, hold, heq.trans hn⟩
  · rw [hn] at hnew
    exact absurd hnew (h.free i)

theorem NumbersApart.outOfUse (h : NumbersApart ghost s) {p : ProfileId} {c : CachedSession}
    (hc : s.sessions.lookup p = some c) : OutOfUse ghost s c.sessionGeneration :=
  ⟨(h.cached p c hc).1, (h.cached p c hc).2⟩

/-- The number that a step installs is drawn by no other call, and was nowhere in the cache. -/
theorem NumbersApart.installed (h : NumbersApart ghost s) (hi : (ghost i).allocated = some n)
    (hγ : γ'.allocated = none) :
    (∀ (j : Nat), (Function.update ghost i γ' j).allocated ≠ some n) ∧
      ∀ p c, s.sessions.lookup p = some c → c.sessionGeneration ≠ n := by
  constructor
  · intro j
    by_cases hj : j = i
    · subst hj
      rw [Function.update_self, hγ]
      exact fun hn => nomatch hn
    · rw [Function.update_of_ne hj]
      exact fun hn => hj (h.owned j i n hn hi)
  · rintro p c hc rfl
    exact (h.cached p c hc).2 i hi

theorem NumbersApart.step (h : NumbersApart ghost s) (hstep : TenureStep (ghost i) s e s' γ') :
    NumbersApart (Function.update ghost i γ') s' := by
  obtain ⟨hnext, hdrawn⟩ := hstep.drawn
  -- the number of a call is one that it had, or the one that the counter has just passed
  have hnumber : ∀ (j : Nat) n, (Function.update ghost i γ' j).allocated = some n →
      (ghost j).allocated = some n ∨ j = i ∧ n = s.nextSessionGeneration ∧
        s'.nextSessionGeneration = s.nextSessionGeneration + 1 := by
    intro j n hn
    by_cases hj : j = i
    · subst hj
      rw [Function.update_self] at hn
      rcases hdrawn n hn with hold | hnew
      · exact .inl hold
      · exact .inr ⟨rfl, hnew⟩
    · rw [Function.update_of_ne hj] at hn
      exact .inl hn
  constructor
  · intro p c' hc'
    rcases hstep.cached hc' with ⟨c, hc, heq⟩ | ⟨hnew, hnone, -⟩
    · rw [← heq]
      have hout := (h.outOfUse hc).step hstep
      exact ⟨hout.drawn, hout.free⟩
    · exact ⟨Nat.lt_of_lt_of_le (h.drawn i _ hnew) hnext, (h.installed hnew hnone).1⟩
  · intro p q c' d' hc' hd' heq
    rcases hstep.cached hc' with ⟨c, hc, hceq⟩ | ⟨hnew, hnone, hlease⟩
    · rcases hstep.cached hd' with ⟨d, hd, hdeq⟩ | ⟨hnew, hnone, -⟩
      · exact h.apart p q c d hc hd (hceq.trans (heq.trans hdeq.symm))
      · exact absurd (hceq.trans heq) ((h.installed hnew hnone).2 p c hc)
    · rcases hstep.cached hd' with ⟨d, hd, hdeq⟩ | ⟨hnew', -, hlease'⟩
      · exact absurd (hdeq.trans heq.symm) ((h.installed hnew hnone).2 q d hd)
      · obtain ⟨g, lease, rfl, rfl, -⟩ := hlease
        obtain ⟨g, lease', hevent, rfl, -⟩ := hlease'
        cases hevent
        rfl
  · intro j n hn
    rcases hnumber j n hn with hold | ⟨-, rfl, hs⟩
    · exact Nat.lt_of_lt_of_le (h.drawn j n hold) hnext
    · rw [hs]
      exact Nat.lt_succ_self _
  · intro j k n hj hk
    rcases hnumber j n hj with hjold | ⟨rfl, rfl, hs⟩
    · rcases hnumber k n hk with hkold | ⟨-, rfl, -⟩
      · exact h.owned j k n hjold hkold
      · exact absurd (h.drawn j _ hjold) (Nat.lt_irrefl _)
    · rcases hnumber k _ hk with hkold | ⟨rfl, -, -⟩
      · exact absurd (h.drawn k _ hkold) (Nat.lt_irrefl _)
      · rfl

end

/-! ## The session of a lease -/

/-- The step gives the leased session another tag. -/
def Retags (lease : SessionLease) (x : Entry ApplicationService Event) : Prop :=
  ∃ c c', x.before.sessions.lookup lease.profileId = some c ∧
    x.after.sessions.lookup lease.profileId = some c' ∧
    c.sessionGeneration = lease.identity.sessionGeneration ∧
    c'.sessionGeneration = lease.identity.sessionGeneration ∧
    c'.profileGeneration ≠ c.profileGeneration

/-- The leased session is where it was, under its tag, until the call evicts it. -/
structure Held (ghost : Nat → Tenure) (s : ApplicationService) (j : Nat) (lease : SessionLease) :
    Prop where
  leased : (ghost j).leased = some lease
  outOfUse : OutOfUse ghost s lease.identity.sessionGeneration
  tagged : ∀ p c, s.sessions.lookup p = some c →
    c.sessionGeneration = lease.identity.sessionGeneration →
    p = lease.profileId ∧ c.profileGeneration = lease.identity.profileGeneration
  gone : (ghost j).evicted = true → ¬HasSession s lease.identity.sessionGeneration

section
variable {ghost : Nat → Tenure} {s s' : ApplicationService} {i j : Nat} {e : Option Event}
  {γ' : Tenure} {lease : SessionLease}

theorem Held.retagged (h : Held ghost s j lease) (hstep : TenureStep (ghost i) s e s' γ')
    (hquiet : ¬Retags lease ⟨i, s, e, s'⟩) {p : ProfileId} {c' : CachedSession}
    (hc' : s'.sessions.lookup p = some c')
    (hn : c'.sessionGeneration = lease.identity.sessionGeneration) :
    p = lease.profileId ∧ c'.profileGeneration = lease.identity.profileGeneration := by
  obtain ⟨c, hc, hcn⟩ := h.outOfUse.stays hstep hc' hn
  obtain ⟨rfl, htag⟩ := h.tagged p c hc hcn
  refine ⟨rfl, ?_⟩
  by_contra hne
  exact hquiet ⟨c, c', hc, hc', hcn, hn, fun heq => hne (heq.trans htag)⟩

/-- A call that has leased keeps its lease, and only its eviction marks it evicted. -/
theorem TenureStep.keeps_lease {γ : Tenure} (h : TenureStep γ s e s' γ')
    (hγ : γ.leased = some lease) :
    γ'.leased = some lease ∧ (γ'.evicted = true → γ.evicted = true ∨
      ∀ c, s'.sessions.lookup lease.profileId = some c →
        c.isExactly lease.identity.profileGeneration lease.identity.sessionGeneration = false) := by
  cases h with
  | quiet _ _ _ => exact ⟨hγ, .inl⟩
  | allocate => exact ⟨hγ, .inl⟩
  | lease free _ =>
      rw [hγ] at free
      cases free
  | install free _ =>
      rw [hγ] at free
      cases free
  | evict leased _ _ gone =>
      rw [hγ] at leased
      cases leased
      exact ⟨hγ, fun _ => .inr gone⟩

theorem Held.step (h : Held ghost s j lease) (hstep : TenureStep (ghost i) s e s' γ')
    (hquiet : ¬Retags lease ⟨i, s, e, s'⟩) :
    Held (Function.update ghost i γ') s' j lease := by
  have htagged := fun p c' hc' hn => @Held.retagged _ _ _ _ _ _ _ _ h hstep hquiet p c' hc' hn
  have hstays : ¬HasSession s lease.identity.sessionGeneration →
      ¬HasSession s' lease.identity.sessionGeneration := by
    rintro hnot ⟨p, c', hc', hn⟩
    obtain ⟨c, hc, hcn⟩ := h.outOfUse.stays hstep hc' hn
    exact hnot ⟨p, c, hc, hcn⟩
  by_cases hj : j = i
  · subst hj
    obtain ⟨hleased, hevicted⟩ := hstep.keeps_lease h.leased
    refine ⟨?_, h.outOfUse.step hstep, htagged, ?_⟩
    · rw [Function.update_self]
      exact hleased
    · rw [Function.update_self]
      intro hγ'
      rcases hevicted hγ' with hold | hgone
      · exact hstays (h.gone hold)
      · rintro ⟨p, c', hc', hn⟩
        obtain ⟨rfl, htag⟩ := htagged p c' hc' hn
        have hexact := hgone c' hc'
        rw [CachedSession.isExactly, htag, hn] at hexact
        simp at hexact
  · refine ⟨?_, h.outOfUse.step hstep, htagged, ?_⟩
    · rw [Function.update_of_ne hj]
      exact h.leased
    · rw [Function.update_of_ne hj]
      exact fun hγ => hstays (h.gone hγ)

/-- The step that hands out a lease. -/
theorem NumbersApart.held (h : NumbersApart ghost s) {g : ProfileGeneration}
    (hstep : TenureStep (ghost i) s (some (.leased g lease)) s' γ') :
    Held (Function.update ghost i γ') s' i lease := by
  have hnumbered := h.step hstep
  cases hstep with
  | quiet event _ _ => exact absurd rfl (event g lease)
  | lease free cached =>
      refine ⟨by rw [Function.update_self], hnumbered.outOfUse cached, ?_, ?_⟩
      · intro p c hc hn
        obtain rfl := hnumbered.apart p lease.profileId c _ hc cached hn
        rw [cached] at hc
        cases hc
        exact ⟨rfl, rfl⟩
      · rw [Function.update_self]
        exact fun h => nomatch h
  | install free allocated =>
      have hnew := AList.lookup_insert (a := lease.profileId)
        (b := (⟨lease.identity, lease.handle⟩ : CachedSession)) s.sessions
      refine ⟨by rw [Function.update_self], hnumbered.outOfUse hnew, ?_, ?_⟩
      · intro p c hc hn
        obtain rfl := hnumbered.apart p lease.profileId c _ hc hnew hn
        rw [hnew] at hc
        cases hc
        exact ⟨rfl, rfl⟩
      · rw [Function.update_self]
        exact fun h => nomatch h

/-- Every lease of the log is held by its call, as long as no step retags it. -/
structure Leases (ghost : Nat → Tenure) (s : ApplicationService) (log : Log) : Prop where
  numbered : NumbersApart ghost s
  held : ∀ before x after g lease, log = before ++ x :: after →
    x.event = some (.leased g lease) → (∀ y ∈ after, ¬Retags lease y) →
    Held ghost s x.call lease

theorem Leases.step {log : Log} (h : Leases ghost s log)
    (hstep : TenureStep (ghost i) s e s' γ') :
    Leases (Function.update ghost i γ') s' (log ++ [⟨i, s, e, s'⟩]) := by
  refine ⟨h.numbered.step hstep, ?_⟩
  intro before x after g lease hlog hevent hquiet
  rcases List.eq_nil_or_concat after with rfl | ⟨after', last, rfl⟩
  · obtain ⟨rfl, hx⟩ := List.append_inj' hlog rfl
    cases hx
    obtain rfl : e = some (.leased g lease) := hevent
    exact h.numbered.held hstep
  · rw [List.concat_eq_append] at hlog hquiet
    rw [← List.cons_append, ← List.append_assoc] at hlog
    obtain ⟨hbefore, hlast⟩ := List.append_inj' hlog rfl
    cases hlast
    have hheld := h.held before x after' g lease hbefore hevent
      fun y hy => hquiet y (List.mem_append_left _ hy)
    exact hheld.step hstep (hquiet _ (by simp))

end

theorem initial_leases (loaded : LoadedConfig) :
    Leases (fun _ => {}) (ApplicationService.initial loaded) [] := by
  have hempty : ∀ p c, (ApplicationService.initial loaded).sessions.lookup p = some c → False := by
    intro p c hc
    change (∅ : ProfileMap CachedSession).lookup p = some c at hc
    rw [AList.lookup_empty] at hc
    cases hc
  refine ⟨⟨fun p c hc => (hempty p c hc).elim, fun p _ c _ hc => (hempty p c hc).elim,
    fun _ _ hn => (nomatch hn), fun _ _ _ hn => (nomatch hn)⟩, ?_⟩
  intro before x after g lease hlog
  simp at hlog

theorem runService_leases (split : Text → Option (List Text)) (loaded : LoadedConfig)
    (actions : List (Action (Answer ρ) Command)) :
    ∃ ghost, Tracked TenureStep Tenure.Settled {} ghost (runService split loaded actions) ∧
      Leases ghost (runService split loaded actions).shared
        (runService split loaded actions).trace :=
  run_tracked (begin_settled split)
    (fun _ _ _ _ _ _ _ h hstep => h.step hstep) (initial_leases loaded) actions

/-- An operation that fails with an error that calls for it has taken its session out. -/
theorem ended_session_gone (split : Text → Option (List Text)) (loaded : LoadedConfig)
    (actions : List (Action (Answer ρ) Command)) {i : Nat} {command : Command}
    {error : ServiceError} {before after : Log} {x : Entry ApplicationService Event}
    {g : ProfileGeneration} {lease : SessionLease}
    (hcall : (runService split loaded actions).calls[i]? =
      some ⟨command, .finished (.error (.service error))⟩)
    (hoperation : command.operation.isSome = true) (hevicts : command.evictsOn error = true)
    (hlog : (runService split loaded actions).trace = before ++ x :: after) (hx : x.call = i)
    (hevent : x.event = some (.leased g lease)) (hquiet : ∀ y ∈ after, ¬Retags lease y) :
    ¬HasSession (runService split loaded actions).shared lease.identity.sessionGeneration := by
  obtain ⟨ghost, htracked, hleases⟩ := runService_leases split loaded actions
  have hheld := hleases.held before x after g lease hlog hevent hquiet
  rw [hx] at hheld
  have hsettled := htracked.calls i _ hcall
  rcases hsettled hoperation error rfl hevicts with hfree | hevicted
  · rw [hheld.leased] at hfree
    cases hfree
  · exact hheld.gone hevicted

/-- A step of an acquisition that waits for something leaves the cache, if it displaces nothing. -/
theorem waiting_session_none (split : Text → Option (List Text)) (loaded : LoadedConfig)
    (actions : List (Action (Answer ρ) Command)) {i : Nat} {identity : RequestIdentity}
    {act : Answer ρ → ApplicationService → ApplicationService}
    {emit : Answer ρ → ApplicationService → Option Event}
    {next : Answer ρ → ApplicationService → CallTask ρ}
    (hcall : (runService split loaded actions).calls[i]? =
      some ⟨.acquire identity, .running (.atomic act emit next)⟩)
    {x : Entry ApplicationService Event} (hx : x ∈ (runService split loaded actions).trace)
    (hxi : x.call = i) (hquiet : ¬Displaces x.before x.event) :
    x.after.sessions = x.before.sessions := by
  let answer : Answer ρ := ⟨.ok (), .error .mySql, fun _ => .ok (), false, fun _ => .ok [], false,
    none, fun _ _ => none⟩
  have hmem : (x.before, x.event, x.after) ∈ history i (runService split loaded actions).trace :=
    List.mem_map.2 ⟨x, List.mem_filter.2 ⟨hx, by simp [hxi]⟩, rfl⟩
  rcases waiting_gentle split loaded actions answer hcall _ hmem with hsame | hdisplaces
  · exact hsame
  · exact absurd hdisplaces hquiet

/-- **Evicted sessions are gone.** An operation that ends with an error that calls for the eviction
leaves no session of the number that it leased, if no step has given this session another tag since
the lease. An acquisition that is dropped while it waits has left the cache as it was at every step,
if none of its steps displaced a session. -/
theorem left_sessions_gone (split : Text → Option (List Text)) (loaded : LoadedConfig)
    (actions : List (Action (Answer ρ) Command)) :
    (∀ (i : Nat) (command : Command) (error : ServiceError) (before : Log)
      (x : Entry ApplicationService Event) (after : Log) (g : ProfileGeneration)
      (lease : SessionLease),
      (runService split loaded actions).calls[i]? =
        some ⟨command, .finished (.error (.service error))⟩ →
      command.operation.isSome = true → command.evictsOn error = true →
      (runService split loaded actions).trace = before ++ x :: after → x.call = i →
      x.event = some (.leased g lease) → (∀ y ∈ after, ¬Retags lease y) →
      ¬HasSession (runService split loaded actions).shared lease.identity.sessionGeneration) ∧
    ∀ (earlier later : List (Action (Answer ρ) Command)) (i : Nat) (identity : RequestIdentity)
      (act : Answer ρ → ApplicationService → ApplicationService)
      (emit : Answer ρ → ApplicationService → Option Event)
      (next : Answer ρ → ApplicationService → CallTask ρ),
      actions = earlier ++ .drop i :: later →
      (runService split loaded earlier).calls[i]? =
        some ⟨.acquire identity, .running (.atomic act emit next)⟩ →
      (∀ x ∈ (runService split loaded earlier).trace, x.call = i →
        ¬Displaces x.before x.event) →
      ∀ x ∈ (runService split loaded earlier).trace, x.call = i →
        x.after.sessions = x.before.sessions := by
  constructor
  · intro i command error before x after g lease hcall hoperation hevicts hlog hx hevent hquiet
    exact ended_session_gone split loaded actions hcall hoperation hevicts hlog hx hevent hquiet
  · intro earlier later i identity act emit next _ hcall hquiet x hx hxi
    exact waiting_session_none split loaded earlier hcall hx hxi (hquiet x hx hxi)

/-! ### A check, with and without an update of its profile -/

/-- Connecting succeeds, and the session does not answer in time. -/
def unanswered (port : Nat) : Answer Unit :=
  { holding [plainProfile "a" port] (some "a".toList) with
    connect := .ok (), reply := .error (.timeout .mySql) }

/-- The check is started and gets its session; then the update runs, then the check goes on. -/
def checkAround (updating : List (Action (Answer Unit) Command)) :
    List (Action (Answer Unit) Command) :=
  .start (.check ⟨"a".toList, 1, 1⟩) :: List.replicate 9 (.advance 0 (unanswered 3306)) ++
    updating ++ List.replicate 6 (.advance 0 (unanswered 3306))

def updatingTo (port : Nat) : UpdateProfileRequest :=
  ⟨"a".toList, 1, 1, (plainProfile "a" port).toConnectionDraft, .clear, .confirmed⟩

/-- An update that changes nothing. -/
def unchanging : List (Action (Answer Unit) Command) :=
  .start (.update (updatingTo 3306)) :: List.replicate 17 (.advance 1 (unanswered 3306))

/-- A session is cached, its profile is updated, and an acquisition for the new profile is closing
the session that its own one displaced. -/
def acquireOver : List (Action (Answer Unit) Command) :=
  .start (.acquire ⟨"a".toList, 1, 1⟩) :: List.replicate 10 (.advance 0 (unanswered 3306)) ++
    .start (.updateForRuntime (updatingTo 3307)) ::
      List.replicate 17 (.advance 1 (unanswered 3307)) ++
    .start (.acquire ⟨"a".toList, 2, 2⟩) :: List.replicate 9 (.advance 2 (unanswered 3307))

abbrev onePlain (actions : List (Action (Answer Unit) Command)) : ServiceSystem Unit :=
  runService (fun _ => none) (plainConfig [plainProfile "a" 3306]) actions

def endsEvicting : Call ApplicationService (Answer ρ) Event Failure (Outcome ρ) Command → Bool
  | ⟨command, .finished (.error (.service error))⟩ =>
      command.operation.isSome && command.evictsOn error
  | _ => false

theorem of_endsEvicting
    {c : Option (Call ApplicationService (Answer ρ) Event Failure (Outcome ρ) Command)}
    (h : c.map endsEvicting = some true) :
    ∃ command error, c = some ⟨command, .finished (.error (.service error))⟩ ∧
      command.operation.isSome = true ∧ command.evictsOn error = true := by
  obtain ⟨call, rfl, hcall⟩ := Option.map_eq_some_iff.1 h
  unfold endsEvicting at hcall
  split at hcall
  · rw [Bool.and_eq_true] at hcall
    exact ⟨_, _, rfl, hcall.1, hcall.2⟩
  · cases hcall

def leasedNumber (x : Entry ApplicationService Event) : Option (Nat × SessionGeneration × ProfileId) :=
  match x.event with
  | some (.leased _ lease) => some (x.call, lease.identity.sessionGeneration, lease.profileId)
  | _ => none

theorem of_leasedNumber {x : Entry ApplicationService Event} {i : Nat} {n : SessionGeneration}
    {p : ProfileId} (h : leasedNumber x = some (i, n, p)) :
    x.call = i ∧ ∃ g lease, x.event = some (.leased g lease) ∧
      lease.identity.sessionGeneration = n ∧ lease.profileId = p := by
  unfold leasedNumber at h
  split at h
  next g lease hevent =>
    cases h
    exact ⟨rfl, g, lease, hevent, rfl, rfl⟩
  · cases h

/-- No step gives an entry of the profile another tag. -/
theorem not_retags {log : Log} {lease : SessionLease}
    (h : log.all (fun y => (y.after.sessions.lookup lease.profileId).all fun c' =>
      (y.before.sessions.lookup lease.profileId).all fun c =>
        c'.profileGeneration == c.profileGeneration) = true) :
    ∀ y ∈ log, ¬Retags lease y := by
  rintro y hy ⟨c, c', hc, hc', -, -, hne⟩
  have hall := List.all_eq_true.1 h y hy
  rw [hc, hc'] at hall
  simp only [Option.all_some, beq_iff_eq] at hall
  exact hne hall

theorem hasSession_of {s : ApplicationService} {p : ProfileId} {n : SessionGeneration}
    (h : (s.sessions.lookup p).map (·.sessionGeneration) = some n) : HasSession s n := by
  obtain ⟨c, hc, hn⟩ := Option.map_eq_some_iff.1 h
  exact ⟨p, c, hc, hn⟩

/-- Without the update the session that did not answer is gone. -/
theorem left_sessions_gone_unanswered : ¬HasSession (onePlain (checkAround [])).shared 1 := by
  obtain ⟨command, error, hcall, hoperation, hevicts⟩ := of_endsEvicting
    (c := (onePlain (checkAround [])).calls[0]?) (by decide +kernel)
  obtain ⟨x, hlog, hx⟩ := entry_at (onePlain (checkAround [])).trace (k := 8)
    (f := leasedNumber) (b := some (0, 1, "a".toList)) (by decide +kernel)
  obtain ⟨hxcall, g, lease, hevent, hn, hp⟩ := of_leasedNumber hx
  have hgone := (left_sessions_gone (fun _ => none) (plainConfig [plainProfile "a" 3306])
    (checkAround [])).1 0 command error _ x _ g lease hcall hoperation hevicts hlog hxcall hevent
  rw [← hn]
  apply hgone
  apply not_retags
  rw [hp]
  decide +kernel

theorem of_waiting
    {c : Option (Call ApplicationService (Answer ρ) Event Failure (Outcome ρ) Command)}
    (h : c.map (fun call => match call with
      | ⟨.acquire _, .running (.atomic _ _ _)⟩ => true
      | _ => false) = some true) :
    ∃ identity act emit next, c = some ⟨.acquire identity, .running (.atomic act emit next)⟩ := by
  obtain ⟨call, rfl, hcall⟩ := Option.map_eq_some_iff.1 h
  split at hcall
  · exact ⟨_, _, _, _, rfl⟩
  · cases hcall

/-- The check that ends with an error leaves the session that the update has retagged, and the
acquisition that is dropped leaves the one that it has installed. -/
theorem retagged_session_left :
    (¬∀ (actions : List (Action (Answer Unit) Command)) (i : Nat) (command : Command)
      (error : ServiceError) (before : Log) (x : Entry ApplicationService Event) (after : Log)
      (g : ProfileGeneration) (lease : SessionLease),
      (onePlain actions).calls[i]? = some ⟨command, .finished (.error (.service error))⟩ →
      command.operation.isSome = true → command.evictsOn error = true →
      (onePlain actions).trace = before ++ x :: after → x.call = i →
      x.event = some (.leased g lease) →
      ¬HasSession (onePlain actions).shared lease.identity.sessionGeneration) ∧
    ¬∀ (earlier : List (Action (Answer Unit) Command)) (i : Nat) (identity : RequestIdentity)
      (act : Answer Unit → ApplicationService → ApplicationService)
      (emit : Answer Unit → ApplicationService → Option Event)
      (next : Answer Unit → ApplicationService → CallTask Unit)
      (x : Entry ApplicationService Event) (g : ProfileGeneration) (lease : SessionLease),
      (onePlain earlier).calls[i]? =
        some ⟨.acquire identity, .running (.atomic act emit next)⟩ →
      x ∈ (onePlain earlier).trace → x.call = i → x.event = some (.leased g lease) →
      x.after.sessions ≠ x.before.sessions →
      ¬HasSession (onePlain (earlier ++ [.drop i])).shared lease.identity.sessionGeneration := by
  constructor
  · intro h
    obtain ⟨command, error, hcall, hoperation, hevicts⟩ := of_endsEvicting
      (c := (onePlain (checkAround unchanging)).calls[0]?) (by decide +kernel)
    obtain ⟨x, hlog, hx⟩ := entry_at (onePlain (checkAround unchanging)).trace (k := 8)
      (f := leasedNumber) (b := some (0, 1, "a".toList)) (by decide +kernel)
    obtain ⟨hxcall, g, lease, hevent, hn, -⟩ := of_leasedNumber hx
    refine h (checkAround unchanging) 0 command error _ x _ g lease hcall hoperation hevicts hlog
      hxcall hevent ?_
    rw [hn]
    exact hasSession_of (p := "a".toList) (by decide +kernel)
  · intro h
    obtain ⟨identity, act, emit, next, hcall⟩ := of_waiting
      (c := (onePlain acquireOver).calls[2]?) (by decide +kernel)
    obtain ⟨x, hlog, hx⟩ := entry_at (onePlain acquireOver).trace (k := 27)
      (f := fun x => (leasedNumber x,
        (x.before.sessions.lookup "a".toList).map (·.sessionGeneration),
        (x.after.sessions.lookup "a".toList).map (·.sessionGeneration)))
      (b := (some (2, 2, "a".toList), some 1, some 2)) (by decide +kernel)
    simp only [Prod.mk.injEq] at hx
    obtain ⟨hleased, hbefore, hafter⟩ := hx
    obtain ⟨hxcall, g, lease, hevent, hn, -⟩ := of_leasedNumber hleased
    have hchanged : x.after.sessions ≠ x.before.sessions := by
      intro hsame
      rw [hsame, hbefore] at hafter
      cases hafter
    refine h acquireOver 2 identity act emit next x g lease hcall (by rw [hlog]; simp) hxcall hevent
      hchanged ?_
    rw [hn]
    exact hasSession_of (p := "a".toList) (by decide +kernel)

end Dbotter.Service
