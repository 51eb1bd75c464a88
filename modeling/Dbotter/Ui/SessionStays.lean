import Dbotter.Service.LeftSessions
import Dbotter.Ui.SessionWork

/-!
What one task does to the sessions: a task of a profile leases sessions of its own generation only,
a control leases none before the session that its handler has found is out of the cache, and a task
that reports that it evicts has done so.
-/

namespace Dbotter.Ui
open Dbotter.Utf8 Dbotter.Execution Dbotter.Configuration Dbotter.Service Dbotter.Program

variable {ρ α β : Type}

/-- No session of the number is cached for the profile under the generation. -/
def Lacks (s : ApplicationService) (identity : RequestIdentity) (n : SessionGeneration) : Prop :=
  ∀ c, s.sessions.lookup identity.profileId = some c →
    c.isExactly identity.profileGeneration n = false

/-- What a task has of sessions, and whether the session that its handler has found is out. -/
structure Stay where
  tenure : Tenure := {}
  cleared : Bool

/-- The session that the handler of a control has found. -/
def RunCommand.found : RunCommand → Option SessionGeneration
  | .control work => work.session
  | _ => none

def Stay.first (command : RunCommand) : Stay := { cleared := command.found.isNone }

/-- The lease is of the profile and the generation of the task. -/
def RunCommand.Leases (command : RunCommand) (lease : SessionLease) : Prop :=
  ∃ identity, command.scope = some identity ∧ lease.profileId = identity.profileId ∧
    lease.identity.profileGeneration = identity.profileGeneration

structure StayStep (command : RunCommand) (γ : Stay) (s : ApplicationService) (e : Option Event)
    (s' : ApplicationService) (γ' : Stay) : Prop where
  tenure : TenureStep γ.tenure s e s' γ'.tenure
  leases : ∀ g lease, e = some (.leased g lease) → γ.cleared = true ∧ command.Leases lease
  clears : γ'.cleared = true → γ.cleared = true ∨
    ∀ identity n, command.scope = some identity → command.found = some n → Lacks s' identity n

/-- What a task has done when it ends. -/
def Stayed (command : RunCommand) (γ : Stay) : Except Failure (RunOutcome ρ) → Prop
  | .ok (.worked progress) =>
    (∀ n attempt observation, progress = .ran n attempt observation →
      ∃ lease, γ.tenure.leased = some lease ∧ lease.identity.sessionGeneration = n) ∧
    (progress.evicts command.keeps = true → γ.tenure.evicted = true)
  | .ok (.disconnected (.ok _)) => γ.cleared = true ∧ γ.tenure.leased = none
  | _ => True

/-! ## Steps that lease nothing -/

/-- The step hands out no lease, or one of the task, which may lease. -/
def LeasesOnly (command : RunCommand) (free : Bool) (_ : Unit) (_ : ApplicationService)
    (e : Option Event) (_ : ApplicationService) (_ : Unit) : Prop :=
  ∀ g lease, e = some (.leased g lease) → free = true ∧ command.Leases lease

section
variable {command : RunCommand} {free : Bool}

theorem leasesOnly_step {f : Answer ρ → ApplicationService →
      Effect ApplicationService Event (Except ServiceError α)}
    (h : ∀ answer s g lease, (f answer s).event ≠ some (.leased g lease)) :
    (Task.step f : Op ρ α).Steady (LeasesOnly command free) :=
  .step fun _ answer s g lease he => absurd he (h answer s g lease)

theorem takeCachedSessionExact_unleased (p : ProfileId) (g : ProfileGeneration)
    (n : SessionGeneration) :
    (takeCachedSessionExact p g n : Op ρ (Option Handle)).Steady (LeasesOnly command free) := by
  apply leasesOnly_step
  intro answer s g' lease
  split
  · split <;> simp
  · simp

theorem close_unleased (handle : Handle) :
    (close handle : Op ρ Unit).Steady (LeasesOnly command free) :=
  leasesOnly_step fun _ _ _ _ => by simp

theorem evictCachedSessionExact_unleased (p : ProfileId) (g : ProfileGeneration)
    (n : SessionGeneration) :
    (evictCachedSessionExact p g n : Op ρ Bool).Steady (LeasesOnly command free) := by
  apply Task.Steady.bind (takeCachedSessionExact_unleased p g n)
  intro removed
  cases removed with
  | none => exact .done _
  | some handle => exact .bind (close_unleased handle) fun _ => .done _

theorem closeAll_unleased (handles : List Handle) :
    (closeAll handles : Op ρ Unit).Steady (LeasesOnly command free) := by
  induction handles with
  | nil => exact .done _
  | cons handle handles ih => exact .bind (close_unleased handle) fun _ => ih

theorem unleased : LockSections ρ (LeasesOnly command free) where
  quiet _ _ _ _ h g lease he := absurd he (h.event g lease)
  evict := evictCachedSessionExact_unleased
  retag p expected g f := by
    apply leasesOnly_step
    intro answer s g' lease
    dsimp only
    split
    · simp
    · split <;> simp
  shutdown := by
    apply Task.Steady.bind (leasesOnly_step fun _ _ _ _ => by simp)
    intro handles
    apply Task.Steady.bind (leasesOnly_step fun _ _ _ _ => by simp).attempt
    exact fun _ => closeAll_unleased handles

theorem evictWhen_unleased (b : Bool) (lease : SessionLease) :
    (evictWhen b lease : Op ρ Unit).Steady (LeasesOnly command free) := by
  cases b with
  | false => exact .done _
  | true => exact .bind (evictCachedSessionExact_unleased _ _ _) fun _ => .done _

/-- A guarantee about the tenure, for a task whose leases are those of the command. -/
theorem stay_of_tenure {t : Op ρ α} {Q : Tenure → Except ServiceError α → Prop} {γ : Stay}
    (h : t.Sat TenureStep Q γ.tenure)
    (hleases : t.Sat (LeasesOnly command γ.cleared) (fun _ _ => True) ()) :
    t.Sat (StayStep command) (fun γ' r => γ'.cleared = γ.cleared ∧ Q γ'.tenure r) γ := by
  refine (h.prod hleases).image (fun x => (⟨x.1, γ.cleared⟩ : Stay)) ?_ ?_
  · rintro x s e s' x' ⟨htenure, hleased⟩
    exact ⟨htenure, hleased, .inl⟩
  · rintro x r ⟨hQ, -⟩
    exact ⟨rfl, hQ⟩

end

/-! ## Acquiring -/

theorem lookupSession_leases {command : RunCommand} {profile : ConnectionProfile}
    {generation : ProfileGeneration}
    (hlease : ∀ cached : CachedSession, cached.profileGeneration = generation →
      command.Leases (cached.lease profile)) (o : OperationId) :
    (lookupSession profile generation o : Op ρ (Option SessionLease)).Steady
      (LeasesOnly command true) := by
  apply Task.Steady.step
  intro _ _ s g lease he
  refine ⟨rfl, ?_⟩
  split at he
  · cases he
  · split at he
    · cases he
    · split at he
      · split at he
        · next cached _ hserves =>
          cases he
          apply hlease
          rw [CachedSession.serves, Bool.and_eq_true, beq_iff_eq, beq_iff_eq] at hserves
          exact hserves.2
        · cases he
      · cases he

theorem installSession_leases {command : RunCommand} {profile : ConnectionProfile}
    {generation : ProfileGeneration}
    (hlease : ∀ cached : CachedSession, cached.profileGeneration = generation →
      command.Leases (cached.lease profile)) (n : SessionGeneration) (connected : Handle) :
    (installSession profile generation n connected : Op ρ CacheInstall).Steady
      (LeasesOnly command true) := by
  apply Task.Steady.step
  intro _ _ s g lease he
  refine ⟨rfl, ?_⟩
  split at he
  · cases he
  · split at he
    · cases he
    · split at he
      · split at he
        · next cached _ hserves =>
          cases he
          apply hlease
          rw [CachedSession.serves, Bool.and_eq_true, beq_iff_eq, beq_iff_eq] at hserves
          exact hserves.2
        · cases he
          exact hlease _ rfl
      · cases he
        exact hlease _ rfl

theorem sessionFor_leases {command : RunCommand} {profile : ConnectionProfile}
    {generation : ProfileGeneration}
    (hlease : ∀ cached : CachedSession, cached.profileGeneration = generation →
      command.Leases (cached.lease profile)) (o : OperationId) :
    (sessionFor profile generation o : Op ρ SessionLease).Steady (LeasesOnly command true) := by
  apply Task.Steady.bind unleased.ensureConfigCertain_steady
  intro _
  apply Task.Steady.bind (lookupSession_leases hlease o)
  intro cached
  cases cached with
  | some lease => exact .done _
  | none =>
    apply Task.Steady.bind (unleased.prepareConnection_steady profile)
    intro secret
    apply Task.Steady.bind (leasesOnly_step fun _ _ _ _ => by simp)
    intro n
    have hconnect : (connect profile secret generation :
        Op ρ (Except DriverError Handle)).Steady (LeasesOnly command true) := by
      apply leasesOnly_step
      intro answer s g lease
      dsimp only
      split <;> simp
    apply Task.Steady.bind hconnect
    intro dialled
    cases dialled with
    | error error =>
      exact .bind (unleased.ensureSessionObservation_steady _ _ _) fun _ => .done _
    | ok connected =>
      apply Task.Steady.bind (installSession_leases hlease n connected)
      intro install
      cases install with
      | installed displaced lease =>
        cases displaced with
        | none => exact .done _
        | some displaced => exact .bind (close_unleased displaced) fun _ => .done _
      | existing lease => exact .bind (close_unleased connected) fun _ => .done _
      | stale => exact .bind (close_unleased connected) fun _ => .done _
      | uncertain => exact .bind (close_unleased connected) fun _ => .done _

/-- The profile of an id, as the section finds it, has this id. -/
theorem profileWithGeneration_id (p : ProfileId) :
    (profileWithGeneration p : Op ρ (ConnectionProfile × ProfileGeneration)).Sat
      (LeasesOnly command free) (fun _ r => ∀ found, r = .ok found → found.1.id = p) () := by
  apply Task.Sat.step
  intro answer s
  refine ⟨(), fun g lease he => by simp at he, ?_⟩
  intro found hfound
  dsimp only at hfound
  split at hfound
  · next profile generation hprofile _ =>
    cases hfound
    have hid := List.find?_some hprofile
    simpa using hid
  · cases hfound

theorem acquireSessionAt_leases {command : RunCommand} {identity : RequestIdentity}
    (hscope : command.scope = some identity) (o : OperationId) :
    (acquireSessionAt o identity.profileId identity.profileGeneration :
      Op ρ SessionLease).Sat (LeasesOnly command true) (fun _ _ => True) () := by
  apply unleased.ensureConfigCertain_steady.andThen _ fun _ => trivial
  intro _
  apply (profileWithGeneration_id identity.profileId).bind
  · rintro ⟨⟩ ⟨profile, generation⟩ hfound
    have hid : profile.id = identity.profileId := hfound _ rfl
    show (if _ then _ else _ : Op ρ SessionLease).Sat (LeasesOnly command true) (fun _ _ => True) ()
    split
    · trivial
    · next hgeneration =>
      rw [not_not] at hgeneration
      apply (unleased.checkProfileForNetwork_steady profile).andThen _ fun _ => trivial
      intro _
      refine (sessionFor_leases ?_ o ()).weaken fun _ _ _ => trivial
      intro cached hcached
      exact ⟨identity, hscope, hid, hcached.trans hgeneration⟩
  · intro _ _ _
    trivial

/-! ## Work on a session -/

section
variable {command : RunCommand} {γ : Stay}

theorem StayStep.still (s : ApplicationService) : StayStep command γ s none s γ :=
  ⟨.shrink rfl (.of_sessions rfl), fun g lease he => by simp at he, .inl⟩

theorem steady_stay {t : Op ρ α} (h : t.Steady TenureStep)
    (hleases : ∀ free, t.Steady (LeasesOnly command free)) : t.Steady (StayStep command) := by
  intro γ
  have hleased : t.Sat (LeasesOnly command γ.cleared) (fun _ _ => True) () :=
    (hleases γ.cleared ()).weaken fun _ _ _ => trivial
  refine (stay_of_tenure (h γ.tenure) hleased).weaken ?_
  rintro ⟨tenure, cleared⟩ r ⟨hcleared, htenure⟩
  cases hcleared
  cases htenure
  rfl

/-- The sections keep the guarantee of every command. -/
theorem stayed : LockSections ρ (StayStep command) where
  quiet _ _ _ _ h := ⟨.of_leaves h, fun g lease he => absurd he (h.event g lease), .inl⟩
  evict p g n := steady_stay (tenured.evict p g n) fun _ => unleased.evict p g n
  retag p expected g f :=
    steady_stay (tenured.retag p expected g f) fun _ => unleased.retag p expected g f
  shutdown := steady_stay tenured.shutdown fun _ => unleased.shutdown

/-- An answer that was not cut short satisfies `Q`. -/
def Selected (Q : Stay → Except ServiceError α → Prop) (γ : Stay)
    (r : Except ServiceError (Except Interruption (Except ServiceError α))) : Prop :=
  ∃ x, r = .ok x ∧ ∀ y, x = .ok y → Q γ y

theorem selecting_stays {op : Op ρ α} {Q : Stay → Except ServiceError α → Prop}
    (h : op.Sat (StayStep command) Q γ) :
    (selecting op).Sat (StayStep command) (Selected Q) γ := by
  apply h.answering.select (fun _ s => .still s)
  · intro γ r hr
    exact ⟨.ok r, rfl, fun y hy => by cases hy; exact hr⟩
  · intro γ why
    exact ⟨.error why, rfl, fun y hy => by cases hy⟩

/-- What the common course of the tasks has done when it ends. -/
def Worked (keeps : Except DriverError ρ → Bool) (γ : Stay)
    (r : Except ServiceError (Progress ρ)) : Prop :=
  ∀ progress, r = .ok progress →
    (∀ n attempt observation, progress = .ran n attempt observation →
      ∃ lease, γ.tenure.leased = some lease ∧ lease.identity.sessionGeneration = n) ∧
    (progress.evicts keeps = true → γ.tenure.evicted = true)

variable {keeps : Except DriverError ρ → Bool}

theorem worked_interrupted (stop : Interruption) : Worked keeps γ (.ok (.interrupted stop)) := by
  rintro progress hprogress
  cases hprogress
  constructor
  · intro n attempt observation h
    cases h
  · intro h
    cases h

theorem worked_refused (error : ServiceError) : Worked keeps γ (.ok (.refused error)) := by
  rintro progress hprogress
  cases hprogress
  constructor
  · intro n attempt observation h
    cases h
  · intro h
    cases h

theorem worked_error (error : ServiceError) : Worked keeps γ (.error error) :=
  fun _ h => by cases h

/-- The work follows where its preparation succeeds. -/
theorem prepared_stays
    {prepare : Work ρ (Except Interruption (Except ServiceError α))} {work : α → Work ρ (Progress ρ)}
    (hprepare : prepare.Sat (StayStep command) (Selected fun γ' _ => γ' = γ) γ)
    (hwork : ∀ a, (work a).Sat (StayStep command) (Worked keeps) γ) :
    (prepared prepare work).Sat (StayStep command) (Worked keeps) γ := by
  apply hprepare.bind
  · rintro γ' x ⟨y, hy, hsame⟩
    cases hy
    cases x with
    | error stop => exact worked_interrupted stop
    | ok result =>
      cases result with
      | error error => exact worked_refused error
      | ok a =>
        rw [hsame _ rfl]
        exact hwork a
  · intro γ' error _
    exact worked_error error

/-- A call that gives the ghost value back, with its failure as a value. -/
theorem attempt_stays {op : Op ρ α} (h : op.Steady (StayStep command)) (γ : Stay) :
    ((awaiting op).attempt : Work ρ (Except ServiceError α)).Sat (StayStep command)
      (fun γ' _ => γ' = γ) γ :=
  (h γ).answering.attempt fun _ _ hγ => hγ

/-- A wait alone changes nothing. -/
theorem wait_stays {f : Awaited ρ → Except ServiceError α} (γ : Stay) :
    (Task.step fun awaited s => ⟨s, f awaited, none⟩ : Work ρ α).Sat (StayStep command)
      (fun γ' _ => γ' = γ) γ :=
  fun _ s => ⟨γ, .still s, rfl⟩

theorem awaitTokenKey_stays (context : ConnectionFingerprint) (γ : Stay) :
    (awaitTokenKey context : Work ρ (Except Interruption (Except ServiceError Unit))).Sat
      (StayStep command) (Selected fun γ' _ => γ' = γ) γ :=
  fun _ s => ⟨γ, .still s, _, rfl, fun _ _ => rfl⟩

/-- The observation and the eviction of a session that is leased. -/
theorem observed_stays {lease : SessionLease} (hlease : γ.tenure.leased = some lease)
    (o : OperationId) (attempt : Except Interruption (Except DriverError ρ)) :
    (do let observation ← (awaiting (observeSession lease o)).attempt
        let progress := Progress.ran lease.identity.sessionGeneration attempt observation
        awaiting (evictWhen (progress.evicts keeps) lease)
        return progress : Work ρ (Progress ρ)).Sat (StayStep command) (Worked keeps) γ := by
  have hobserve : (observeSession lease o : Op ρ Unit).Steady (StayStep command) :=
    stayed.ensureSessionObservation_steady _ _ _
  apply (attempt_stays hobserve γ).bind
  · rintro γ observation rfl
    have hevict := (evictWhen_tenure (ρ := ρ) hlease ((Progress.ran
      lease.identity.sessionGeneration attempt observation).evicts keeps)).keeping
      (I := fun tenure => tenure.leased = some lease) hlease
      fun _ _ _ _ _ hstep hγ => (hstep.keeps_lease hγ).1
    have hunleased : (evictWhen ((Progress.ran lease.identity.sessionGeneration attempt
        observation).evicts keeps) lease : Op ρ Unit).Sat (LeasesOnly command γ.cleared)
          (fun _ _ => True) () :=
      (evictWhen_unleased _ lease ()).weaken fun _ _ _ => trivial
    apply (stay_of_tenure hevict hunleased).answering.bind
    · rintro γ' _ ⟨-, hleased, -, hevicted⟩ progress hprogress
      cases hprogress
      refine ⟨?_, hevicted⟩
      intro n attempt observation h
      cases h
      exact ⟨lease, hleased, rfl⟩
    · rintro γ' error _
      exact worked_error error
  · rintro _ error rfl
    exact worked_error error

/-- The common course keeps the guarantee, once the found session is out. -/
theorem workOn_stays {identity : RequestIdentity} (hscope : command.scope = some identity)
    (hfree : γ.tenure.leased = none) (hcleared : γ.cleared = true) :
    (workOn keeps identity : Work ρ (Progress ρ)).Sat (StayStep command) (Worked keeps) γ := by
  have hleases := acquireSessionAt_leases (ρ := ρ) hscope identity.operationId
  rw [← hcleared] at hleases
  have hacquire := stay_of_tenure (acquireSessionAt_tenure hfree _ _ _) hleases
  apply (selecting_stays hacquire).bind
  · rintro γ x ⟨y, hy, hacquired⟩
    cases hy
    cases x with
    | error stop => exact worked_interrupted stop
    | ok result =>
      cases result with
      | error error => exact worked_refused error
      | ok lease =>
        have hlease : γ.tenure.leased = some lease := (hacquired _ rfl).2
        apply (wait_stays γ).bind
        · rintro γ attempt rfl
          exact observed_stays hlease identity.operationId attempt
        · rintro γ error rfl
          exact worked_error error
  · intro γ error _
    exact worked_error error

/-- A prepared request and then the common course. -/
theorem requested_stays {identity : RequestIdentity} (hscope : command.scope = some identity)
    (hfree : γ.tenure.leased = none) (hcleared : γ.cleared = true) {prepare : Op ρ α}
    (hprepare : prepare.Steady (StayStep command)) :
    (prepared (selecting prepare) fun _ => workOn keeps identity).Sat (StayStep command)
      (Worked keeps) γ :=
  prepared_stays (selecting_stays (hprepare γ)) fun _ => workOn_stays hscope hfree hcleared

theorem validated_steady {r : Except ServiceError Unit} (identity : RequestIdentity)
    (driver : DriverKind) :
    (do .ofExcept r
        ensureTypedResourceRequest identity driver : Op ρ ConnectionFingerprint).Steady
      (StayStep command) :=
  .bind (.done r) fun _ => stayed.ensureTypedResourceRequest_steady identity driver

theorem catalogBrowseWork_stays {request : CatalogRequest}
    (hscope : command.scope = some request.identity) (hfree : γ.tenure.leased = none)
    (hcleared : γ.cleared = true) :
    (catalogBrowseWork request : Work ρ (Progress ρ)).Sat (StayStep command)
      (Worked keepsHealthy) γ := by
  apply prepared_stays (selecting_stays (validated_steady request.identity .mySql γ))
  intro context
  exact prepared_stays (awaitTokenKey_stays context γ)
    fun _ => workOn_stays hscope hfree hcleared

end

/-! ## Controls -/

/-- The session that the handler has found is out of the cache after its eviction. -/
theorem evictFound_stays {work : ProfileControlWork} {γ : Stay}
    (hfirst : work.session = none → γ.cleared = true) :
    (evictFound work.identity work.session : Op ρ Unit).Sat (StayStep (.control work))
      (fun γ' _ => γ'.tenure = γ.tenure ∧ γ'.cleared = true) γ := by
  cases hsession : work.session with
  | none => exact ⟨rfl, hfirst hsession⟩
  | some n =>
    have hcleared : ∀ s : ApplicationService, Lacks s work.identity n →
        ∀ identity m, RunCommand.scope (.control work) = some identity →
          RunCommand.found (.control work) = some m → Lacks s identity m := by
      intro s hlacks identity m hscope hfound
      cases hscope
      rw [RunCommand.found, hsession] at hfound
      cases hfound
      exact hlacks
    have htake : (takeCachedSessionExact work.identity.profileId work.identity.profileGeneration n :
        Op ρ (Option Handle)).Sat (StayStep (.control work))
        (fun γ' r => (γ'.tenure = γ.tenure ∧ γ'.cleared = true) ∧ ∃ removed, r = .ok removed) γ := by
      apply Task.Sat.step
      intro _ s
      cases hc : s.sessions.lookup work.identity.profileId with
      | none =>
        refine ⟨⟨γ.tenure, true⟩, ⟨.shrink rfl (.of_sessions rfl), by simp, ?_⟩, ⟨rfl, rfl⟩, _, rfl⟩
        refine fun _ => .inr (hcleared s ?_)
        intro c h
        rw [hc] at h
        cases h
      | some c =>
        by_cases hexact : c.isExactly work.identity.profileGeneration n = true
        · simp only [hexact, if_true]
          refine ⟨⟨γ.tenure, true⟩, ⟨.shrink rfl (.erase s _), by simp, ?_⟩, ⟨rfl, rfl⟩, _, rfl⟩
          refine fun _ => .inr (hcleared _ ?_)
          intro d h
          rw [AList.lookup_erase] at h
          cases h
        · simp only [hexact]
          refine ⟨⟨γ.tenure, true⟩, ⟨.shrink rfl (.of_sessions rfl), by simp, ?_⟩, ⟨rfl, rfl⟩, _, rfl⟩
          refine fun _ => .inr (hcleared s ?_)
          intro d h
          rw [hc] at h
          cases h
          simpa using hexact
    have hevict : (evictCachedSessionExact work.identity.profileId
        work.identity.profileGeneration n : Op ρ Bool).Sat (StayStep (.control work))
        (fun γ' _ => γ'.tenure = γ.tenure ∧ γ'.cleared = true) γ := by
      apply htake.bind
      · rintro γ' removed ⟨hout, -⟩
        cases removed with
        | none => exact hout
        | some handle =>
          exact fun _ s => ⟨γ', ⟨.shrink rfl (.of_sessions rfl), by simp, .inl⟩, hout⟩
      · rintro γ' error ⟨hout, -⟩
        exact hout
    exact hevict.bind (fun _ _ h => h) fun _ _ h => h

theorem needsSessionCredential_steady {command : RunCommand} (p : ProfileId) :
    (needsSessionCredential p : Op ρ Bool).Steady (StayStep command) := by
  apply Task.Steady.bind (stayed.profile_steady p)
  intro profile
  show Task.Steady _ (if _ then _ else _)
  split
  · exact .bind (stayed.hasCurrentSecret_steady p) fun _ => .done _
  · exact .done _

theorem disconnectWork_stays {identity : RequestIdentity} {session : Option SessionGeneration}
    {γ : Stay} (hfirst : session = none → γ.cleared = true) (hfree : γ.tenure.leased = none) :
    (disconnectWork identity session : Work ρ (Except (Option ServiceError) PostCloseState)).Sat
      (StayStep (.control (.disconnect identity session)))
      (fun γ' r => ∀ postClose, r = .ok (.ok postClose) →
        γ'.cleared = true ∧ γ'.tenure.leased = none) γ := by
  apply (wait_stays γ).bind
  · rintro γ cancelled rfl
    cases cancelled with
    | true =>
      intro postClose h
      cases h
    | false =>
      apply (attempt_stays (stayed.ensureGeneration_steady _ _ _) γ).bind
      · rintro γ ensured rfl
        cases ensured with
        | error error =>
          intro postClose h
          cases h
        | ok _ =>
          have hevict := @evictFound_stays ρ (.disconnect identity session) γ hfirst
          apply hevict.answering.bind
          · rintro γ' _ ⟨htenure, hcleared⟩
            rw [← htenure] at hfree
            apply (attempt_stays (needsSessionCredential_steady _) γ').bind
            · rintro γ needs rfl
              split <;> exact fun _ _ => ⟨hcleared, hfree⟩
            · rintro γ error rfl postClose h
              cases h
          · rintro γ' error - postClose h
            cases h
      · rintro γ error rfl postClose h
        cases h
  · rintro γ error rfl postClose h
    cases h

theorem reconnectWork_stays {identity : RequestIdentity} {session : Option SessionGeneration}
    {γ : Stay} (hfirst : session = none → γ.cleared = true) (hfree : γ.tenure.leased = none) :
    (reconnectWork identity session : Work ρ (RunOutcome ρ)).Sat
      (StayStep (.control (.reconnect identity session)))
      (fun γ' r => ∀ outcome, r = .ok outcome →
        Stayed (.control (.reconnect identity session)) γ' (.ok outcome)) γ := by
  apply (wait_stays γ).bind
  · rintro γ failure rfl
    cases failure with
    | some summary =>
      intro outcome h
      cases h
      trivial
    | none =>
      have hevict := @evictFound_stays ρ (.reconnect identity session) γ hfirst
      apply hevict.answering.bind
      · rintro γ' _ ⟨htenure, hcleared⟩
        rw [← htenure] at hfree
        have hwork : (workOn keepsAnswered identity : Work ρ (Progress ρ)).Sat
            (StayStep (.control (.reconnect identity session))) (Worked keepsAnswered) γ' :=
          workOn_stays rfl hfree hcleared
        apply hwork.bind
        · rintro γ progress hworked outcome h
          cases h
          exact hworked progress rfl
        · rintro γ error - outcome h
          cases h
      · rintro γ' error - outcome h
        cases h
  · rintro γ error rfl outcome h
    cases h

theorem reporting_stays {command : RunCommand} {γ : Stay} {wrap : α → RunOutcome ρ}
    {work : Work ρ α} {Q : Stay → Except ServiceError α → Prop}
    (h : work.Sat (StayStep command) Q γ)
    (hok : ∀ γ a, Q γ (.ok a) → Stayed command γ (.ok (wrap a))) :
    (reporting wrap work).Sat (StayStep command) (Stayed command) γ := by
  have hwrap : (do let a ← work; return wrap a : Work ρ (RunOutcome ρ)).Sat (StayStep command)
      (fun γ r => ∀ outcome, r = .ok outcome → Stayed command γ (.ok outcome)) γ := by
    apply h.bind
    · rintro γ a hQ outcome hr
      cases hr
      exact hok γ a hQ
    · rintro γ error - outcome hr
      cases hr
  apply hwrap.mapError
  intro γ r hr
  cases r with
  | ok outcome => exact hr outcome rfl
  | error error => trivial

theorem reporting_worked {command : RunCommand} {γ : Stay} {work : Work ρ (Progress ρ)}
    (h : work.Sat (StayStep command) (Worked command.keeps) γ) :
    (reporting .worked work).Sat (StayStep command) (Stayed command) γ :=
  reporting_stays h fun _ progress hworked => hworked progress rfl

theorem calling_stays (split : Text → Option (List Text)) {command : Command} {run : RunCommand}
    {γ : Stay} (hupkeep : isUpkeep command = true) :
    (calling (begin split command) : RunTask ρ).Sat (StayStep run) (Stayed run) γ := by
  have hoperation : command.operation = none := by
    cases command with
    | acquire identity => cases hupkeep
    | _ => exact Option.isNone_iff_eq_none.mp hupkeep
  have hacquire : ∀ identity, command ≠ .acquire identity := by
    rintro identity rfl
    cases hupkeep
  have hbegin : (begin split command : CallTask ρ).Steady (StayStep run) :=
    stayed.begin_steady split hoperation hacquire
  apply (hbegin γ).answering.bind
  · intro γ outcome _
    trivial
  · intro γ failure _
    trivial

/-- **The stay of a task.** Every task keeps its guarantee. -/
theorem runCommand_stays (split : Text → Option (List Text)) (command : RunCommand) :
    (runCommand split command : RunTask ρ).Sat (StayStep command) (Stayed command)
      (.first command) := by
  cases command with
  | call command hupkeep => exact calling_stays split hupkeep
  | connect identity => exact reporting_worked (workOn_stays rfl rfl rfl)
  | execute request =>
    exact reporting_worked (requested_stays rfl rfl rfl (stayed.prepareExecuteRequest_steady _ _))
  | browseCatalog request => exact reporting_worked (catalogBrowseWork_stays rfl rfl rfl)
  | scanRedisKeys request =>
    exact reporting_worked (requested_stays rfl rfl rfl (validated_steady _ _))
  | inspectRedisKey request =>
    exact reporting_worked (requested_stays rfl rfl rfl (validated_steady _ _))
  | control work =>
    have hfirst : work.session = none → (Stay.first (.control work)).cleared = true := by
      intro hsession
      simp [Stay.first, RunCommand.found, hsession]
    cases work with
    | disconnect identity session =>
      apply reporting_stays (disconnectWork_stays hfirst rfl)
      intro γ closed hclosed
      cases closed with
      | error refusal => trivial
      | ok postClose => exact hclosed postClose rfl
    | reconnect identity session =>
      apply reporting_stays (reconnectWork_stays hfirst rfl)
      exact fun γ outcome hstayed => hstayed outcome rfl

end Dbotter.Ui
