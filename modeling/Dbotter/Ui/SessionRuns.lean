import Dbotter.Program.Paths
import Dbotter.Ui.SessionStays

/-!
Disconnections and reconnections over whole runs of the controller.

The handler of a control reads the cache once, and the control acts later, after other tasks have
gone on. What the control has read stays true of the session that was cached then, as long as no
step gives it another generation: a number is drawn once, so the session is where it was or gone
for good.
-/

namespace Dbotter.Ui
open Dbotter.Utf8 Dbotter.Execution Dbotter.Configuration Dbotter.Service Dbotter.Program
open Dbotter.Program.System

variable {ρ : Type}

/-! ## Numbers and ghost values -/

section
variable {ghost ghost' : Nat → Tenure} {s : ApplicationService} {n : SessionGeneration}

/-- Calls that have drawn no number of their own. -/
theorem NumbersApart.fewer (h : NumbersApart ghost s)
    (hghost : ∀ (j : Nat) m, (ghost' j).allocated = some m → (ghost j).allocated = some m) :
    NumbersApart ghost' s where
  cached p c hc := ⟨(h.cached p c hc).1, fun j hj => (h.cached p c hc).2 j (hghost j _ hj)⟩
  apart := h.apart
  drawn j m hj := h.drawn j m (hghost j m hj)
  owned j k m hj hk := h.owned j k m (hghost j m hj) (hghost k m hk)

theorem OutOfUse.fewer (h : OutOfUse ghost s n)
    (hghost : ∀ (j : Nat) m, (ghost' j).allocated = some m → (ghost j).allocated = some m) :
    OutOfUse ghost' s n :=
  ⟨h.drawn, fun j hj => h.free j (hghost j n hj)⟩

end

/-! ## What a control has read -/

/-- No step gives the session `n` of the profile another generation. -/
def Untagged (p : ProfileId) (n : SessionGeneration) (log : Log) : Prop :=
  ∀ x ∈ log, ∀ c c', x.before.sessions.lookup p = some c → x.after.sessions.lookup p = some c' →
    c.sessionGeneration = n → c'.sessionGeneration = n → c'.profileGeneration = c.profileGeneration

theorem Untagged.left {p : ProfileId} {n : SessionGeneration} {log later : Log}
    (h : Untagged p n (log ++ later)) : Untagged p n log :=
  fun x hx => h x (List.mem_append_left _ hx)

/-- What is still true of the session that was cached for the profile in the state `sr`, after the
steps `log`; `own` is what the control has done. -/
structure Since (identity : RequestIdentity) (sr : ApplicationService) (log : Log)
    (ghost : Nat → Tenure) (own : Stay) (s : ApplicationService) : Prop where
  outOfUse : ∀ c, sr.sessions.lookup identity.profileId = some c →
    OutOfUse ghost s c.sessionGeneration
  tagged : ∀ c, sr.sessions.lookup identity.profileId = some c →
    Untagged identity.profileId c.sessionGeneration log →
      ∀ q d, s.sessions.lookup q = some d → d.sessionGeneration = c.sessionGeneration →
        q = identity.profileId ∧ d.profileGeneration = c.profileGeneration
  cleared : own.cleared = true → ∀ c, sr.sessions.lookup identity.profileId = some c →
    Untagged identity.profileId c.sessionGeneration log →
      c.profileGeneration = identity.profileGeneration → ¬HasSession s c.sessionGeneration
  leased : ∀ lease, own.tenure.leased = some lease →
    ∀ c, sr.sessions.lookup identity.profileId = some c →
      Untagged identity.profileId c.sessionGeneration log →
        lease.identity.sessionGeneration ≠ c.sessionGeneration

/-- The session of the generation that the handler found. -/
def foundIn (s : ApplicationService) (identity : RequestIdentity) : Option SessionGeneration :=
  ((s.sessions.lookup identity.profileId).filter
    (·.profileGeneration == identity.profileGeneration)).map (·.sessionGeneration)

theorem foundIn_of_cached {s : ApplicationService} {identity : RequestIdentity} {c : CachedSession}
    (hc : s.sessions.lookup identity.profileId = some c)
    (hg : c.profileGeneration = identity.profileGeneration) :
    foundIn s identity = some c.sessionGeneration := by
  simp [foundIn, hc, hg]

section
variable {identity : RequestIdentity} {sr s s' : ApplicationService} {log : Log}
  {ghost : Nat → Tenure} {own : Stay} {i : Nat} {e : Option Event}

/-- At the moment of the reading. -/
theorem Since.read (h : NumbersApart ghost s) (hleased : own.tenure.leased = none)
    (hcleared : own.cleared = true → foundIn s identity = none) :
    Since identity s [] ghost own s := by
  refine ⟨fun c hc => h.outOfUse hc, ?_, ?_, ?_⟩
  · intro c hc _ q d hd heq
    obtain rfl := h.apart q identity.profileId d c hd hc heq
    rw [hc] at hd
    cases hd
    exact ⟨rfl, rfl⟩
  · intro hown c hc _ hg
    rw [foundIn_of_cached hc hg] at hcleared
    cases hcleared hown
  · intro lease hlease
    rw [hleased] at hlease
    cases hlease

/-- A step of any call: what was cached is where it was or gone. -/
theorem Since.step_others (h : Since identity sr log ghost own s) {γ' : Tenure}
    (hstep : TenureStep (ghost i) s e s' γ') :
    Since identity sr (log ++ [⟨i, s, e, s'⟩]) (Function.update ghost i γ') own s' := by
  have hstays {c : CachedSession} (hc : sr.sessions.lookup identity.profileId = some c)
      (hnot : ¬HasSession s c.sessionGeneration) : ¬HasSession s' c.sessionGeneration := by
    rintro ⟨q, d, hd, heq⟩
    obtain ⟨d', hd', heq'⟩ := (h.outOfUse c hc).stays hstep hd heq
    exact hnot ⟨q, d', hd', heq'⟩
  refine ⟨fun c hc => (h.outOfUse c hc).step hstep, ?_, ?_, ?_⟩
  · intro c hc huntagged q d hd heq
    obtain ⟨d', hd', heq'⟩ := (h.outOfUse c hc).stays hstep hd heq
    obtain ⟨rfl, htag⟩ := h.tagged c hc huntagged.left q d' hd' heq'
    refine ⟨rfl, ?_⟩
    have hsame := huntagged ⟨i, s, e, s'⟩ (by simp) d' d hd' hd heq' heq
    exact hsame.trans htag
  · intro hown c hc huntagged hg
    exact hstays hc (h.cleared hown c hc huntagged.left hg)
  · intro lease hlease c hc huntagged
    exact h.leased lease hlease c hc huntagged.left

/-- A step of the control itself: it clears what was found, and leases nothing of before. -/
theorem Since.step_own {stays : Nat → Stay} {work : ProfileControlWork} {γ' : Stay}
    (h : Since work.identity sr log (fun j => (stays j).tenure) (stays i) s)
    (hfound : work.session = foundIn sr work.identity)
    (hstep : StayStep (.control work) (stays i) s e s' γ') :
    Since work.identity sr (log ++ [⟨i, s, e, s'⟩])
      (Function.update (fun j => (stays j).tenure) i γ'.tenure) γ' s' := by
  have hothers := h.step_others hstep.tenure
  refine ⟨hothers.outOfUse, hothers.tagged, ?_, ?_⟩
  · intro hown c hc huntagged hg
    rcases hstep.clears hown with hbefore | hlacks
    · exact hothers.cleared hbefore c hc huntagged hg
    · rintro ⟨q, d, hd, heq⟩
      obtain ⟨rfl, htag⟩ := hothers.tagged c hc huntagged q d hd heq
      have hlacked := hlacks work.identity c.sessionGeneration rfl
        (hfound.trans (foundIn_of_cached hc hg)) d hd
      simp [CachedSession.isExactly, htag, hg, heq] at hlacked
  · intro lease hlease c hc huntagged
    -- the lease is an old one, or this step hands it out
    have hnew : (stays i).tenure.leased = some lease ∨
        ∃ g, e = some (.leased g lease) ∧
          (s.sessions.lookup lease.profileId = some ⟨lease.identity, lease.handle⟩ ∨
            (stays i).tenure.allocated = some lease.identity.sessionGeneration) := by
      have htenure := hstep.tenure
      generalize (stays i).tenure = γ at htenure
      generalize hδ : γ'.tenure = δ at htenure hlease
      cases htenure with
      | quiet _ _ _ => exact .inl hlease
      | allocate => exact .inl hlease
      | @lease g lease' _ cached =>
        cases hlease
        exact .inr ⟨g, rfl, .inl cached⟩
      | @install g lease' _ allocated =>
        cases hlease
        exact .inr ⟨g, rfl, .inr allocated⟩
      | evict _ _ _ _ => exact .inl hlease
    rcases hnew with hold | ⟨g, he, hcached | hallocated⟩
    · exact h.leased lease hold c hc huntagged.left
    · obtain ⟨hcleared, identity, hscope, hp, hgeneration⟩ := hstep.leases g lease he
      cases hscope
      intro heq
      obtain ⟨-, htag⟩ := h.tagged c hc huntagged.left _ _ hcached heq
      exact h.cleared hcleared c hc huntagged.left (htag.symm.trans hgeneration)
        ⟨_, _, hcached, heq⟩
    · intro heq
      rw [heq] at hallocated
      exact (h.outOfUse c hc).free i hallocated

end

/-! ## Runs of the controller -/

/-- The state that a handler has read at `reading`. -/
def ReadAt (loaded : LoadedConfig) (log : Log) (reading : Reading) (sr : ApplicationService) :
    Prop :=
  reading.steps ≤ log.length ∧ Path (ApplicationService.initial loaded) (log.take reading.steps) sr

/-- What a control with the session of its handler knows after the steps `log`. -/
def Knows (loaded : LoadedConfig) (log : Log) (s : ApplicationService) (ghost : Nat → Stay)
    (own : Stay) (work : ProfileControlWork) (reading : Reading) : Prop :=
  ∃ sr, ReadAt loaded log reading sr ∧ work.session = foundIn sr work.identity ∧
    Since work.identity sr (log.drop reading.steps) (fun j => (ghost j).tenure) own s

section
variable {loaded : LoadedConfig} {log : Log} {s s' : ApplicationService} {ghost : Nat → Stay}
  {own : Stay} {work : ProfileControlWork} {reading : Reading}

theorem ReadAt.snoc {sr : ApplicationService} (h : ReadAt loaded log reading sr)
    (x : Entry ApplicationService Event) : ReadAt loaded (log ++ [x]) reading sr := by
  refine ⟨le_trans h.1 (by simp), ?_⟩
  rw [List.take_append_of_le_length h.1]
  exact h.2

/-- A control that has just read the cache. -/
theorem Knows.read (hpath : Path (ApplicationService.initial loaded) log s)
    (hnumbers : NumbersApart (fun j => (ghost j).tenure) s) (hsteps : reading.steps = log.length)
    (hfound : work.session = foundIn s work.identity) :
    Knows loaded log s ghost (.first (.control work)) work reading := by
  refine ⟨s, ⟨le_of_eq hsteps, ?_⟩, hfound, ?_⟩
  · rw [hsteps, List.take_length]
    exact hpath
  · rw [hsteps, List.drop_length]
    refine Since.read hnumbers rfl fun hcleared => ?_
    rw [← hfound]
    simpa [Stay.first, RunCommand.found] using hcleared

theorem Knows.ghosts (h : Knows loaded log s ghost own work reading) {ghost' : Nat → Stay}
    (hghost : ∀ (j : Nat) m, (ghost' j).tenure.allocated = some m →
      (ghost j).tenure.allocated = some m) : Knows loaded log s ghost' own work reading := by
  obtain ⟨sr, hread, hfound, hsince⟩ := h
  exact ⟨sr, hread, hfound, fun c hc => OutOfUse.fewer (hsince.outOfUse c hc) hghost,
    hsince.tagged, hsince.cleared, hsince.leased⟩

/-- A number that is out of use stays so, and its session does not come back. -/
def Onward (ghost : Nat → Stay) (s : ApplicationService) (ghost' : Nat → Stay)
    (s' : ApplicationService) : Prop :=
  ∀ n, OutOfUse (fun j => (ghost j).tenure) s n →
    OutOfUse (fun j => (ghost' j).tenure) s' n ∧ (HasSession s' n → HasSession s n)

theorem Onward.refl : Onward ghost s ghost s := fun _ h => ⟨h, id⟩

theorem Onward.trans {ghost' ghost'' : Nat → Stay} {s'' : ApplicationService}
    (h : Onward ghost s ghost' s') (h' : Onward ghost' s' ghost'' s'') :
    Onward ghost s ghost'' s'' := by
  intro n hn
  obtain ⟨hn', hback⟩ := h n hn
  obtain ⟨hn'', hback'⟩ := h' n hn'
  exact ⟨hn'', fun hhas => hback (hback' hhas)⟩

theorem Onward.fewer {ghost' : Nat → Stay}
    (hghost : ∀ (j : Nat) m, (ghost' j).tenure.allocated = some m →
      (ghost j).tenure.allocated = some m) : Onward ghost s ghost' s :=
  fun _ h => ⟨OutOfUse.fewer h hghost, id⟩

theorem update_tenure (ghost : Nat → Stay) (i : Nat) (γ' : Stay) :
    (fun j => (Function.update ghost i γ' j).tenure) =
      Function.update (fun j => (ghost j).tenure) i γ'.tenure := by
  funext j
  by_cases hj : j = i
  · subst hj
    simp
  · simp [hj]

theorem Onward.step {i : Nat} {command : RunCommand} {e : Option Event} {γ' : Stay}
    (hstep : StayStep command (ghost i) s e s' γ') :
    Onward ghost s (Function.update ghost i γ') s' := by
  intro n hn
  rw [update_tenure]
  refine ⟨hn.step hstep.tenure, ?_⟩
  rintro ⟨p, c, hc, heq⟩
  obtain ⟨c', hc', heq'⟩ := hn.stays hstep.tenure hc heq
  exact ⟨p, c', hc', heq'⟩

theorem Knows.step_others (h : Knows loaded log s ghost own work reading) {i : Nat}
    {command : RunCommand} {e : Option Event} {γ' : Stay}
    (hstep : StayStep command (ghost i) s e s' γ') :
    Knows loaded (log ++ [⟨i, s, e, s'⟩]) s' (Function.update ghost i γ') own work reading := by
  obtain ⟨sr, hread, hfound, hsince⟩ := h
  refine ⟨sr, hread.snoc _, hfound, ?_⟩
  rw [List.drop_append_of_le_length hread.1, update_tenure]
  exact hsince.step_others hstep.tenure

theorem Knows.step_own {i : Nat} (h : Knows loaded log s ghost (ghost i) work reading)
    {e : Option Event} {γ' : Stay} (hstep : StayStep (.control work) (ghost i) s e s' γ') :
    Knows loaded (log ++ [⟨i, s, e, s'⟩]) s' (Function.update ghost i γ') γ' work reading := by
  obtain ⟨sr, hread, hfound, hsince⟩ := h
  refine ⟨sr, hread.snoc _, hfound, ?_⟩
  rw [List.drop_append_of_le_length hread.1, update_tenure]
  exact hsince.step_own hfound hstep

end

/-- The invariant of the controller with the pool of its tasks. -/
structure Runtime.Kept (loaded : LoadedConfig) (ghost : Nat → Stay) (r : Runtime ρ) : Prop where
  follows : Follows StayStep Stayed ghost r.pool
  numbers : NumbersApart (fun j => (ghost j).tenure) r.pool.shared
  path : Path (ApplicationService.initial loaded) r.pool.trace r.pool.shared
  found : ∀ command session reading, r.handling = .found command session reading →
    Knows loaded r.pool.trace r.pool.shared ghost (.first (.control (command.work session)))
      (command.work session) reading
  spawned : ∀ control ∈ r.spawned, ∃ work progress,
    r.pool.calls[control.call]? = some ⟨.control work, progress⟩ ∧
      work.identity = control.identity ∧
      Knows loaded r.pool.trace r.pool.shared ghost (ghost control.call) work control.reading

namespace Runtime.Kept
variable {loaded : LoadedConfig} {ghost : Nat → Stay} {r : Runtime ρ}
  {split : Text → Option (List Text)}

/-- The pool moves on without a step: a task starts, ends, is dropped, or nothing happens. -/
theorem unmoved (h : r.Kept loaded ghost) {ghost' : Nat → Stay} {pool : RunSystem ρ}
    (hfollows : Follows StayStep Stayed ghost' pool) (hshared : pool.shared = r.pool.shared)
    (htrace : pool.trace = r.pool.trace)
    (hallocated : ∀ (j : Nat) m, (ghost' j).tenure.allocated = some m →
      (ghost j).tenure.allocated = some m)
    (hcalls : ∀ (j : Nat) command progress, r.pool.calls[j]? = some ⟨command, progress⟩ →
      ghost' j = ghost j ∧ ∃ progress', pool.calls[j]? = some ⟨command, progress'⟩) :
    { r with pool }.Kept loaded ghost' := by
  refine ⟨hfollows, ?_, ?_, ?_, ?_⟩
  · show NumbersApart _ pool.shared
    rw [hshared]
    exact NumbersApart.fewer h.numbers hallocated
  · show Path _ pool.trace pool.shared
    rw [hshared, htrace]
    exact h.path
  · intro command session reading hfound
    show Knows loaded pool.trace pool.shared ghost' _ _ reading
    rw [hshared, htrace]
    exact (h.found command session reading hfound).ghosts hallocated
  · intro control hmem
    obtain ⟨work, progress, hcall, hidentity, hknows⟩ := h.spawned control hmem
    obtain ⟨hsame, progress', hcall'⟩ := hcalls _ _ _ hcall
    refine ⟨work, progress', hcall', hidentity, ?_⟩
    show Knows loaded pool.trace pool.shared ghost' _ _ control.reading
    rw [hshared, htrace, hsame]
    exact hknows.ghosts hallocated

theorem started (h : r.Kept loaded ghost) (command : RunCommand) {pool : RunSystem ρ}
    (hfollows : Follows StayStep Stayed
      (Function.update ghost r.pool.calls.length (.first command)) pool)
    (hshared : pool.shared = r.pool.shared) (htrace : pool.trace = r.pool.trace)
    (hcalls : pool.calls = r.pool.calls ++ [⟨command, .running (runCommand split command)⟩]) :
    { r with pool }.Kept loaded
      (Function.update ghost r.pool.calls.length (.first command)) := by
  apply h.unmoved hfollows hshared htrace
  · intro j m hm
    by_cases hj : j = r.pool.calls.length
    · subst hj
      rw [Function.update_self] at hm
      cases hm
    · rwa [Function.update_of_ne hj] at hm
  · intro j other progress hcall
    have hlt := (List.getElem?_eq_some_iff.1 hcall).1
    refine ⟨Function.update_of_ne (Nat.ne_of_lt hlt) _ _, progress, ?_⟩
    rw [hcalls]
    exact (List.getElem?_append_left hlt).trans hcall

theorem start (h : r.Kept loaded ghost) (command : RunCommand) :
    (r.inPool split (.start command)).Kept loaded
      (Function.update ghost r.pool.calls.length (.first command)) :=
  h.started command (h.follows.start (runCommand_stays split) command) rfl rfl rfl

theorem started_onward (command : RunCommand) {s : ApplicationService} (n : Nat) :
    Onward ghost s (Function.update ghost n (.first command)) s := by
  apply Onward.fewer
  intro j m hm
  by_cases hj : j = n
  · subst hj
    rw [Function.update_self] at hm
    cases hm
  · rwa [Function.update_of_ne hj] at hm

/-- A task of the pool starts, goes on, ends or is dropped. -/
theorem pool (h : r.Kept loaded ghost) (action : Action (Awaited ρ) RunCommand) :
    ∃ ghost', (r.inPool split action).Kept loaded ghost' ∧
      Onward ghost r.pool.shared ghost' (r.inPool split action).pool.shared := by
  obtain ⟨ghost', hfollows, hcourse⟩ :=
    step_follows (runCommand_stays split) h.follows action
  have hkeeps (j : Nat) (command : RunCommand) (progress)
      (hcall : r.pool.calls[j]? = some ⟨command, progress⟩) :=
    hcourse.keeps_call hcall
  unfold Runtime.inPool
  generalize r.pool.step (runCommand split) action = pool at hfollows hcourse hkeeps
  cases hcourse with
  | start command shared trace calls =>
    refine ⟨_, h.started command hfollows shared trace calls, ?_⟩
    rw [shared]
    exact started_onward command _
  | still running cause shared trace calls =>
    refine ⟨ghost, h.unmoved hfollows shared trace (fun _ _ hm => hm)
      fun j command progress hcall => ⟨rfl, hkeeps j command progress hcall⟩, ?_⟩
    rw [shared]
    exact .refl
  | idle => exact ⟨ghost, h, .refl⟩
  | @act _ i answer command task next event γ' running guaranteed trace calls =>
    refine ⟨Function.update ghost i γ', ⟨hfollows, ?_, ?_, ?_, ?_⟩, .step guaranteed⟩
    · show NumbersApart _ pool.shared
      rw [update_tenure]
      exact h.numbers.step guaranteed.tenure
    · show Path _ pool.trace pool.shared
      rw [trace]
      exact h.path.snoc rfl
    · intro taken session reading hfound
      show Knows loaded pool.trace pool.shared _ _ _ reading
      rw [trace]
      exact (h.found taken session reading hfound).step_others guaranteed
    · intro control hmem
      obtain ⟨work, progress, hcall, hidentity, hknows⟩ := h.spawned control hmem
      obtain ⟨progress', hcall'⟩ := hkeeps _ _ _ hcall
      refine ⟨work, progress', hcall', hidentity, ?_⟩
      show Knows loaded pool.trace pool.shared _ _ _ control.reading
      rw [trace]
      by_cases hown : control.call = i
      · subst hown
        rw [running] at hcall
        cases hcall
        rw [Function.update_self]
        exact hknows.step_own guaranteed
      · rw [Function.update_of_ne hown]
        exact hknows.step_others guaranteed

theorem step (h : r.Kept loaded ghost) (action : RunAction ρ) :
    ∃ ghost', (r.step split action).Kept loaded ghost' ∧
      Onward ghost r.pool.shared ghost' (r.step split action).pool.shared := by
  cases action with
  | start command =>
    simp only [Runtime.step]
    split
    · exact ⟨ghost, h, .refl⟩
    · exact h.pool _
    · exact h.pool _
    · exact ⟨ghost, h, .refl⟩
  | advance call awaited =>
    simp only [Runtime.step]
    split
    · exact ⟨ghost, h, .refl⟩
    · exact h.pool _
  | drop call => exact h.pool _
  | cancel call => exact ⟨ghost, ⟨h.follows, h.numbers, h.path, h.found, h.spawned⟩, .refl⟩
  | handle command =>
    simp only [Runtime.step]
    split
    · split
      · exact ⟨ghost, ⟨h.follows, h.numbers, h.path, fun _ _ _ heq => (nomatch heq), h.spawned⟩,
        .refl⟩
      · exact ⟨ghost, h, .refl⟩
    · exact ⟨ghost, h, .refl⟩
  | refuse =>
    exact ⟨ghost, ⟨h.follows, h.numbers, h.path, fun _ _ _ heq => (nomatch heq), h.spawned⟩,
        .refl⟩
  | read =>
    simp only [Runtime.step]
    split
    next command hhandling =>
      refine ⟨ghost, ⟨h.follows, h.numbers, h.path, ?_, h.spawned⟩, .refl⟩
      intro command' session reading heq
      cases heq
      have hidentity : (command.work (r.foundSession command.identity)).identity =
          command.identity := by
        cases command <;> rfl
      have hsession : (command.work (r.foundSession command.identity)).session =
          foundIn r.pool.shared command.identity := by
        cases command <;> rfl
      apply Knows.read h.path h.numbers rfl
      rw [hsession, hidentity]
    · exact ⟨ghost, h, .refl⟩
  | spawn =>
    simp only [Runtime.step]
    split
    next command session reading hhandling =>
      have hstart : (r.inPool split (.start (.control (command.work session)))).Kept loaded _ :=
        h.start (.control (command.work session))
      refine ⟨_, ⟨hstart.follows, hstart.numbers, hstart.path, fun _ _ _ heq => (nomatch heq), ?_⟩,
        started_onward (.control (command.work session)) _⟩
      intro control hmem
      rcases List.mem_cons.1 hmem with rfl | hmem
      · refine ⟨command.work session, _, List.getElem?_concat_length, rfl, ?_⟩
        rw [Function.update_self]
        exact hstart.found command session reading hhandling
      · exact hstart.spawned control hmem
    · exact ⟨ghost, h, .refl⟩

end Runtime.Kept

theorem Runtime.initial_kept (loaded : LoadedConfig) :
    (Runtime.initial loaded : Runtime ρ).Kept loaded fun _ => { cleared := true } := by
  refine ⟨?_, (initial_leases loaded).numbered, rfl, fun _ _ _ heq => (nomatch heq), ?_⟩
  · intro i c hc
    change ([] : List _)[i]? = some c at hc
    simp at hc
  · intro control hmem
    cases hmem

/-- The invariant after every schedule. -/
theorem Runtime.run_kept (split : Text → Option (List Text)) (loaded : LoadedConfig)
    (actions : List (RunAction ρ)) : ∃ ghost, (Runtime.run split loaded actions).Kept loaded ghost := by
  induction actions using List.reverseRecOn with
  | nil => exact ⟨_, Runtime.initial_kept loaded⟩
  | append_singleton actions action ih =>
    obtain ⟨ghost, h⟩ := ih
    simp only [Runtime.run, List.foldl_append, List.foldl_cons, List.foldl_nil]
    exact (h.step action).imp fun _ hstep => hstep.1

theorem Runtime.Kept.onward {split : Text → Option (List Text)} {loaded : LoadedConfig}
    {ghost : Nat → Stay} {r : Runtime ρ} (h : r.Kept loaded ghost) (later : List (RunAction ρ)) :
    ∃ ghost', Onward ghost r.pool.shared ghost' (later.foldl (Runtime.step split) r).pool.shared := by
  induction later generalizing r ghost with
  | nil => exact ⟨ghost, .refl⟩
  | cons action later ih =>
    obtain ⟨ghost', hkept, hstep⟩ : ∃ ghost', (r.step split action).Kept loaded ghost' ∧
        Onward ghost r.pool.shared ghost' (r.step split action).pool.shared := h.step action
    obtain ⟨ghost'', hlater⟩ := ih hkept
    exact ⟨ghost'', hstep.trans hlater⟩

/-! ## Controls that have their event ready -/

theorem ReadAt.same {loaded : LoadedConfig} {log : Log} {reading : Reading}
    {sr sr' : ApplicationService} (h : ReadAt loaded log reading sr)
    (h' : ReadAt loaded log reading sr') : sr' = sr :=
  h'.2.same h.2

section
variable {work : ProfileControlWork} {outcome : RunOutcome ρ} {identity : RequestIdentity}

/-- Only a disconnection that has gone through reports a closed connection. -/
theorem closed_of_control {postClose : PostCloseState}
    (h : RunCommand.event (.control work) outcome = some (.connectionClosed identity postClose)) :
    (∃ session, work = .disconnect identity session) ∧
      outcome = .disconnected (.ok postClose) := by
  cases work with
  | disconnect target session =>
    cases outcome with
    | disconnected closed =>
      cases closed with
      | error refusal => cases refusal <;> cases h
      | ok state =>
        cases h
        exact ⟨⟨session, rfl⟩, rfl⟩
    | _ => cases h
  | reconnect target session =>
    cases outcome with
    | worked progress =>
      rcases progress with stop | error | ⟨n, _ | _ | _, _ | _⟩ <;> cases h
    | _ => cases h

/-- Only a reconnection whose ping was answered reports a connection. -/
theorem ready_of_control {session : SessionGeneration}
    (h : RunCommand.event (.control work) outcome = some (.connectionReady identity session)) :
    (∃ found, work = .reconnect identity found) ∧
      ∃ reply, outcome = .worked (.ran session (.ok (.ok reply)) (.ok ())) := by
  cases work with
  | disconnect target session =>
    cases outcome with
    | disconnected closed =>
      cases closed with
      | error refusal => cases refusal <;> cases h
      | ok state => cases h
    | _ => cases h
  | reconnect target found =>
    cases outcome with
    | worked progress =>
      rcases progress with stop | error | ⟨n, _ | _ | reply, _ | _⟩ <;> cases h
      exact ⟨⟨found, rfl⟩, reply, rfl⟩
    | _ => cases h

end

section
variable {split : Text → Option (List Text)} {loaded : LoadedConfig}
  {actions : List (RunAction ρ)} {control : Spawned} {identity : RequestIdentity}
  {sr : ApplicationService} {c : CachedSession}

/-- The event of a control comes from its own work, which has kept its guarantee. -/
theorem Runtime.Kept.produced {ghost : Nat → Stay} {r : Runtime ρ} {event : UiEvent}
    (h : r.Kept loaded ghost) (hspawned : control ∈ r.spawned)
    (hproduces : r.Produces control.call event) (hread : ReadAt loaded r.pool.trace control.reading sr) :
    ∃ work outcome, RunCommand.event (.control work) outcome = some event ∧
      Stayed (.control work) (ghost control.call) (.ok outcome : Except Failure (RunOutcome ρ)) ∧
      work.session = foundIn sr work.identity ∧
      Since work.identity sr (r.pool.trace.drop control.reading.steps)
        (fun j => (ghost j).tenure) (ghost control.call) r.pool.shared := by
  obtain ⟨work, progress, hcall, -, sr', hread', hfound, hsince⟩ := h.spawned control hspawned
  obtain rfl := hread.same hread'
  obtain ⟨command, outcome, hdone, hevent⟩ := hproduces
  rw [hcall] at hdone
  cases hdone
  exact ⟨work, outcome, hevent, h.follows _ _ hcall, hfound, hsince⟩

/-- **A reconnection reports another session.** The session of its event is none that was cached
for the profile at the reading. -/
theorem reconnected_session_new {session : SessionGeneration}
    (hspawned : control ∈ (Runtime.run split loaded actions).spawned)
    (hproduces : (Runtime.run split loaded actions).Produces control.call
      (.connectionReady identity session))
    (hread : ReadAt loaded (Runtime.run split loaded actions).pool.trace control.reading sr)
    (huntagged : Untagged identity.profileId c.sessionGeneration
      ((Runtime.run split loaded actions).pool.trace.drop control.reading.steps))
    (hcached : sr.sessions.lookup identity.profileId = some c) :
    session ≠ c.sessionGeneration := by
  obtain ⟨ghost, hkept⟩ := Runtime.run_kept split loaded actions
  obtain ⟨work, outcome, hevent, hstayed, -, hsince⟩ := hkept.produced hspawned hproduces hread
  obtain ⟨⟨found, rfl⟩, reply, rfl⟩ := ready_of_control hevent
  obtain ⟨lease, hleased, rfl⟩ := hstayed.1 session _ _ rfl
  exact hsince.leased lease hleased c hcached huntagged

/-- **A disconnection closes what it has found.** When its event is ready, the session that was
cached for the profile and the generation at the reading is out of the cache, and no later step of
any task brings it back. -/
theorem disconnected_session_gone (later : List (RunAction ρ)) {postClose : PostCloseState}
    (hspawned : control ∈ (Runtime.run split loaded actions).spawned)
    (hproduces : (Runtime.run split loaded actions).Produces control.call
      (.connectionClosed identity postClose))
    (hread : ReadAt loaded (Runtime.run split loaded actions).pool.trace control.reading sr)
    (huntagged : Untagged identity.profileId c.sessionGeneration
      ((Runtime.run split loaded actions).pool.trace.drop control.reading.steps))
    (hcached : sr.sessions.lookup identity.profileId = some c)
    (hgeneration : c.profileGeneration = identity.profileGeneration) :
    ¬HasSession (Runtime.run split loaded (actions ++ later)).pool.shared
      c.sessionGeneration := by
  obtain ⟨ghost, hkept⟩ := Runtime.run_kept split loaded actions
  obtain ⟨work, outcome, hevent, hstayed, hfound, hsince⟩ :=
    hkept.produced hspawned hproduces hread
  obtain ⟨⟨session, rfl⟩, rfl⟩ := closed_of_control hevent
  have hgone := hsince.cleared hstayed.1 c hcached huntagged hgeneration
  rw [Runtime.run, List.foldl_append]
  obtain ⟨ghost', honward⟩ := hkept.onward later
  obtain ⟨-, hback⟩ := honward c.sessionGeneration (hsince.outOfUse c hcached)
  exact fun hhas => hgone (hback hhas)

end

/-! ### A control after a connection -/

/-- Connecting succeeds, and every session answers. -/
def answered : Answer Unit := { unanswered 3306 with reply := .ok () }

/-- A connection runs to its end, then a control is handled and its task makes `n` steps. -/
def connectThen (command : ControlCommand) (n : Nat) : List (RunAction Unit) :=
  .start (.connect ⟨"a".toList, 1, 1⟩) ::
      List.replicate 13 (.advance 0 { answer := answered }) ++
    [.handle command, .read, .spawn] ++ List.replicate n (.advance 1 { answer := answered })

abbrev oneConnected (command : ControlCommand) (n : Nat) : Runtime Unit :=
  Runtime.run (fun _ => none) (plainConfig [plainProfile "a" 3306]) (connectThen command n)

/-- What a control reports of its connection. -/
def reported : UiEvent → Option (RequestIdentity × (SessionGeneration ⊕ PostCloseState))
  | .connectionReady identity session => some (identity, .inl session)
  | .connectionClosed identity postClose => some (identity, .inr postClose)
  | _ => none

def reportOf (r : Runtime ρ) (call : Nat) :
    Option (RequestIdentity × (SessionGeneration ⊕ PostCloseState)) :=
  match r.pool.calls[call]? with
  | some ⟨command, .running (.done (.ok outcome))⟩ => (command.event outcome).bind reported
  | _ => none

/-- The event that is reported so. -/
def reportEvent (identity : RequestIdentity) : SessionGeneration ⊕ PostCloseState → UiEvent
  | .inl session => .connectionReady identity session
  | .inr postClose => .connectionClosed identity postClose

theorem produces_of_reportOf {r : Runtime ρ} {call : Nat} {identity : RequestIdentity}
    {report : SessionGeneration ⊕ PostCloseState} (h : reportOf r call = some (identity, report)) :
    r.Produces call (reportEvent identity report) := by
  unfold reportOf at h
  split at h
  next command outcome hcall =>
    obtain ⟨event, hevent, hreported⟩ := Option.bind_eq_some_iff.1 h
    refine ⟨command, outcome, hcall, hevent.trans ?_⟩
    cases event <;> cases hreported <;> rfl
  · cases h

/-- The handler has read the state before its next step. -/
theorem readAt_entry (split : Text → Option (List Text)) (loaded : LoadedConfig)
    (actions : List (RunAction ρ)) {x : Entry ApplicationService Event} {reading : Reading}
    (hlog : (Runtime.run split loaded actions).pool.trace =
      (Runtime.run split loaded actions).pool.trace.take reading.steps ++ x ::
        (Runtime.run split loaded actions).pool.trace.drop (reading.steps + 1)) :
    ReadAt loaded (Runtime.run split loaded actions).pool.trace reading x.before := by
  obtain ⟨ghost, hkept⟩ := Runtime.run_kept split loaded actions
  have hpath := hkept.path
  rw [hlog] at hpath
  obtain ⟨middle, hbefore, hsame, -⟩ := Path.append.1 hpath
  refine ⟨?_, hsame ▸ hbefore⟩
  by_contra hlong
  have hlength := congrArg List.length hlog
  rw [List.take_of_length_le (by omega), List.length_append, List.length_cons] at hlength
  omega

theorem untagged_of {log : Log} {p : ProfileId} (n : SessionGeneration)
    (h : log.all (fun x => (x.before.sessions.lookup p).all fun c =>
      (x.after.sessions.lookup p).all fun c' =>
        c'.profileGeneration == c.profileGeneration) = true) : Untagged p n log := by
  intro x hx c c' hc hc' _ _
  have hall := List.all_eq_true.1 h x hx
  rw [hc, hc'] at hall
  simpa using hall

theorem spawned_of {r : Runtime ρ} {call steps : Nat}
    (h : r.spawned.any (fun control =>
      control.call == call && control.reading.steps == steps) = true) :
    ∃ control ∈ r.spawned, control.call = call ∧ control.reading.steps = steps := by
  simpa using h

theorem cached_of {s : ApplicationService} {p : ProfileId} {numbers : ProfileGeneration × Nat}
    (h : (s.sessions.lookup p).map (fun c => (c.profileGeneration, c.sessionGeneration)) =
      some numbers) :
    ∃ c, s.sessions.lookup p = some c ∧ c.profileGeneration = numbers.1 ∧
      c.sessionGeneration = numbers.2 := by
  obtain ⟨c, hc, rfl⟩ := Option.map_eq_some_iff.1 h
  exact ⟨c, hc, rfl, rfl⟩

abbrev disconnection : ControlCommand := .disconnectProfile ⟨"a".toList, 1, 2⟩

abbrev reconnection : ControlCommand := .reconnectProfile ⟨"a".toList, 1, 2⟩

/-- The disconnection of a connected profile, and a new connection after it. -/
theorem disconnected_session_gone_connected :
    ¬HasSession (Runtime.run (fun _ => none) (plainConfig [plainProfile "a" 3306])
      (connectThen disconnection 5 ++ .start (.connect ⟨"a".toList, 1, 3⟩) ::
        List.replicate 13 (.advance 2 { answer := answered }))).pool.shared 1 := by
  obtain ⟨control, hmem, hcall, hsteps⟩ :=
    @spawned_of Unit (oneConnected disconnection 5) 1 11 (by decide +kernel)
  obtain ⟨x, hlog, hx⟩ := entry_at (oneConnected disconnection 5).pool.trace (k := 11)
    (f := fun x => (x.before.sessions.lookup "a".toList).map
      fun c => (c.profileGeneration, c.sessionGeneration))
    (b := some (1, 1)) (by decide +kernel)
  obtain ⟨c, hc, htag, hn⟩ := cached_of hx
  have hproduces := @produces_of_reportOf Unit (oneConnected disconnection 5) control.call
    ⟨"a".toList, 1, 2⟩ (.inr .disconnected) (by rw [hcall]; decide +kernel)
  have huntagged : Untagged "a".toList c.sessionGeneration
      ((oneConnected disconnection 5).pool.trace.drop 11) := untagged_of _ (by decide +kernel)
  rw [← hsteps] at hlog huntagged
  have hread := readAt_entry _ _ _ hlog
  rw [← show c.sessionGeneration = 1 from hn]
  exact disconnected_session_gone _ hmem hproduces hread huntagged hc htag

/-- The reconnection of a connected profile. -/
theorem reconnected_session_new_connected :
    ∃ x ∈ (oneConnected reconnection 14).pool.trace,
      ∀ c, x.before.sessions.lookup "a".toList = some c → 2 ≠ c.sessionGeneration := by
  obtain ⟨control, hmem, hcall, hsteps⟩ :=
    @spawned_of Unit (oneConnected reconnection 14) 1 11 (by decide +kernel)
  obtain ⟨x, hlog, -⟩ := entry_at (oneConnected reconnection 14).pool.trace (k := 11)
    (f := fun _ => ()) (b := ()) (by decide +kernel)
  have hproduces := @produces_of_reportOf Unit (oneConnected reconnection 14) control.call
    ⟨"a".toList, 1, 2⟩ (.inl 2) (by rw [hcall]; decide +kernel)
  rw [← hsteps] at hlog
  have hread := readAt_entry _ _ _ hlog
  refine ⟨x, by rw [hlog]; simp, ?_⟩
  intro c hc
  have huntagged : Untagged "a".toList c.sessionGeneration
      ((oneConnected reconnection 14).pool.trace.drop control.reading.steps) := by
    rw [hsteps]
    exact untagged_of _ (by decide +kernel)
  exact reconnected_session_new hmem hproduces hread huntagged hc

end Dbotter.Ui
