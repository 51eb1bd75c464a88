import Dbotter.Program.Paths
import Dbotter.Service.BookCalls
import Dbotter.Service.KeptSecrets
import Dbotter.Service.SessionSafety

/-!
The books over whole runs: which generations ever stand in the ledger, what a fence retires, and
what happens while the configuration is uncertain. All calls of the service may run, in any order,
and any of them may be dropped between two of its steps.
-/

namespace Dbotter.Service
open Dbotter.Utf8 Dbotter.Execution Dbotter.Configuration Dbotter.Program
open ObservedState

variable {ρ : Type}

/-! ## Generations that stand -/

def ObservedState.Stands (o : ObservedState) (p : ProfileId) (g : ProfileGeneration)
    (dead : Bool) : Prop :=
  (if dead then o.tombstone p else o.live p) = some g

/-- At some moment up to this state the generation stands for the profile, live or as tombstone. -/
def Stood (log : Log) (s : ApplicationService) (p : ProfileId) (g : ProfileGeneration)
    (dead : Bool) : Prop :=
  s.observed.Stands p g dead ∨ ∃ x ∈ log, x.before.observed.Stands p g dead

section
variable {log : Log} {s s' : ApplicationService} {p q : ProfileId} {g : ProfileGeneration}
  {dead dead' : Bool}

theorem stood_snoc {x : Entry ApplicationService Event} (hx : x.before = s) :
    Stood (log ++ [x]) s' p g dead ↔ s'.observed.Stands p g dead ∨ Stood log s p g dead := by
  subst hx
  simp only [Stood, List.mem_append, List.mem_singleton]
  constructor
  · rintro (h | ⟨y, hy | rfl, h⟩)
    · exact .inl h
    · exact .inr (.inr ⟨y, hy, h⟩)
    · exact .inr (.inl h)
  · rintro (h | h | ⟨y, hy, h⟩)
    · exact .inl h
    · exact .inr ⟨x, .inr rfl, h⟩
    · exact .inr ⟨y, .inl hy, h⟩

/-- A sound ledger enters a generation at one place. -/
theorem ObservedState.Sound.stands_unique {o : ObservedState} {next : Nat} (h : o.Sound next)
    (hp : o.Stands p g dead) (hq : o.Stands q g dead') : p = q ∧ dead = dead' := by
  cases dead with
  | false =>
    cases dead' with
    | false => exact ⟨h.live_inj p q g hp hq, rfl⟩
    | true => exact absurd hq (h.disjoint p q g hp)
  | true =>
    cases dead' with
    | false => exact absurd hp (h.disjoint q p g hq)
    | true => exact ⟨h.tombstone_inj p q g hp hq, rfl⟩

theorem ObservedState.Sound.stands_lt {o : ObservedState} {next : Nat} (h : o.Sound next)
    (hp : o.Stands p g dead) : g < next := by
  cases dead with
  | false => exact h.live_lt p g hp
  | true => exact h.tombstone_lt p g hp

/-- What stands after a turn stood there before, or it was taken from the counter. -/
theorem ObservedState.Turn.stands {forced : ProfileId → Bool} {o o' : ObservedState}
    {next next' : Nat} (h : Turn forced o next o' next') (hs : o.Sound next)
    (hp : o'.Stands p g dead) : o.Stands p g dead ∨ next ≤ g := by
  cases dead with
  | false =>
    by_cases hfresh : forced p = true ∨ ¬ o.Unchanged o' p
    · exact .inr (h.fresh p g hfresh hp)
    · push Not at hfresh
      have hkept := h.kept hs p (by simpa using hfresh.1) hfresh.2
      exact .inl (hkept.symm.trans hp)
  | true => exact h.tombstone p g hp

end

/-! ## One step -/

/-- What the ledger does in a step that changes it. -/
structure Turned (command : Command) (before : Log) (x : Entry ApplicationService Event) :
    Prop where
  /-- A generation that becomes live, or that a profile with another content or behind a fence
  has, is above all that ever stood. -/
  raised : ∀ p g, x.after.observed.live p = some g →
    x.before.observed.live p ≠ some g ∨
      ¬ x.before.observed.Unchanged x.after.observed p ∨ x.event = some .fenced →
    ∀ q old dead, Stood before x.before q old dead → old < g
  /-- An unchanged profile keeps its generation, but for one that the call has created or
  updated. -/
  kept : x.event ≠ some .fenced → ∃ target : Option ProfileId,
    (∀ p, target = some p → command.Renews x.after.observed.config p) ∧
    ∀ p, target ≠ some p → x.before.observed.Unchanged x.after.observed p →
      x.after.observed.live p = x.before.observed.live p

/-- A step that leaves the ledger. -/
theorem Turned.same {command : Command} {before : Log} {x : Entry ApplicationService Event}
    (hobserved : x.after.observed = x.before.observed) (hevent : x.event ≠ some .fenced) :
    Turned command before x := by
  constructor
  · intro p g hlive hcause
    rw [hobserved] at hlive hcause
    rcases hcause with hne | hne | hfenced
    · exact absurd hlive hne
    · exact absurd (unchanged_refl _ p) hne
    · exact absurd hfenced hevent
  · intro _
    refine ⟨none, ?_, fun p _ _ => by rw [hobserved]⟩
    intro p h
    cases h

/-- The discipline of the ledger, with what the calls have in hand. -/
structure Registered (ghost : Nat → Clerk) (n : Nat) (log : Log) (s : ApplicationService) :
    Prop where
  sound : s.observed.Sound s.nextGeneration
  below : ∀ p g dead, Stood log s p g dead → g < s.nextGeneration
  distinct : ∀ p q g dead dead', Stood log s p g dead → Stood log s q g dead' →
    p = q ∧ dead = dead'
  reserved : ∀ i next, (ghost i).reserved = some next → s.observed.Sound next ∧
    ∀ p g dead, Stood log s p g dead → g < next
  steps : ∀ before x after, log = before ++ x :: after → x.call < n ∧
    Turned (ghost x.call).command before x ∧
    ∃ γ γ', γ.command = (ghost x.call).command ∧ BookStep γ x.before x.event x.after γ'

section
variable {ghost : Nat → Clerk} {n : Nat} {log : Log} {s s' : ApplicationService}

/-- The log grows by a step, and what was said of its other steps stays. -/
theorem Registered.steps_snoc (h : Registered ghost n log s) {i : Nat} {γ' : Clerk}
    {e : Option Event} (hi : i < n) (hstep : BookStep (ghost i) s e s' γ')
    (hturned : Turned (ghost i).command log ⟨i, s, e, s'⟩) :
    ∀ before x after, log ++ [⟨i, s, e, s'⟩] = before ++ x :: after → x.call < n ∧
      Turned (Function.update ghost i γ' x.call).command before x ∧
      ∃ γ δ, γ.command = (Function.update ghost i γ' x.call).command ∧
        BookStep γ x.before x.event x.after δ := by
  have hcommand (j : Nat) : (Function.update ghost i γ' j).command = (ghost j).command := by
    by_cases hij : j = i
    · subst hij
      rw [Function.update_self]
      exact hstep.command_eq
    · rw [Function.update_of_ne hij]
  intro before x after heq
  rw [hcommand]
  rcases List.eq_nil_or_concat after with rfl | ⟨after', last, rfl⟩
  · obtain ⟨rfl, hx⟩ := List.append_inj' heq rfl
    cases hx
    exact ⟨hi, hturned, _, _, rfl, hstep⟩
  · rw [List.concat_eq_append, ← List.cons_append, ← List.append_assoc] at heq
    obtain ⟨rfl, -⟩ := List.append_inj' heq rfl
    exact h.steps before x after' rfl

/-- A step that leaves the ledger, and the counter or more. -/
theorem Registered.step_same (h : Registered ghost n log s) {i : Nat} {γ' : Clerk}
    {e : Option Event} (hi : i < n) (hstep : BookStep (ghost i) s e s' γ')
    (hobserved : s'.observed = s.observed) (hnext : s.nextGeneration ≤ s'.nextGeneration)
    (hevent : e ≠ some .fenced)
    (hreserved : γ'.reserved = (ghost i).reserved ∨ γ'.reserved = some s.nextGeneration) :
    Registered (Function.update ghost i γ') n (log ++ [⟨i, s, e, s'⟩]) s' := by
  have hstood {p : ProfileId} {g : ProfileGeneration} {dead : Bool}
      (hp : Stood (log ++ [⟨i, s, e, s'⟩]) s' p g dead) : Stood log s p g dead := by
    rcases (stood_snoc rfl).1 hp with hp | hp
    · rw [hobserved] at hp
      exact .inl hp
    · exact hp
  refine ⟨?_, ?_, ?_, ?_, h.steps_snoc hi hstep (Turned.same hobserved hevent)⟩
  · rw [hobserved]
    exact h.sound.mono hnext
  · intro p g dead hp
    exact lt_of_lt_of_le (h.below p g dead (hstood hp)) hnext
  · intro p q g dead dead' hp hq
    exact h.distinct p q g dead dead' (hstood hp) (hstood hq)
  · intro j next hj
    have hold : s.observed.Sound next ∧ ∀ p g dead, Stood log s p g dead → g < next := by
      by_cases hij : j = i
      · subst hij
        rw [Function.update_self] at hj
        rcases hreserved with heq | heq
        · exact h.reserved j next (heq.symm.trans hj)
        · obtain rfl : s.nextGeneration = next := Option.some.inj (heq.symm.trans hj)
          exact ⟨h.sound, h.below⟩
      · rw [Function.update_of_ne hij] at hj
        exact h.reserved j next hj
    rw [hobserved]
    exact ⟨hold.1, fun p g dead hp => hold.2 p g dead (hstood hp)⟩

/-- A step that turns the ledger, from a counter that all generations are below. -/
theorem Registered.step_turn (h : Registered ghost n log s) {i : Nat} {γ' : Clerk}
    {e : Option Event} {forced : ProfileId → Bool} {next : Nat} (target : Option ProfileId)
    (hi : i < n)
    (hstep : BookStep (ghost i) s e s' γ')
    (hturn : Turn forced s.observed next s'.observed s'.nextGeneration)
    (hsound : s.observed.Sound next) (hbelow : ∀ p g dead, Stood log s p g dead → g < next)
    (hforced : e ≠ some .fenced → ∀ p, forced p = true → target = some p)
    (htarget : ∀ p, target = some p → (ghost i).command.Renews s'.observed.config p)
    (hfenced : e = some .fenced → ∀ p, forced p = true)
    (hreserved : ∀ j next', (Function.update ghost i γ' j).reserved = some next' →
      s'.observed = s.observed ∧ (ghost j).reserved = some next') :
    Registered (Function.update ghost i γ') n (log ++ [⟨i, s, e, s'⟩]) s' := by
  have hsound' := hturn.sound hsound
  have hstood {p : ProfileId} {g : ProfileGeneration} {dead : Bool}
      (hp : Stood (log ++ [⟨i, s, e, s'⟩]) s' p g dead) :
      Stood log s p g dead ∨ s'.observed.Stands p g dead ∧ next ≤ g := by
    rcases (stood_snoc rfl).1 hp with hp | hp
    · rcases hturn.stands hsound hp with hold | hge
      · exact .inl (.inl hold)
      · exact .inr ⟨hp, hge⟩
    · exact .inl hp
  refine ⟨hsound', ?_, ?_, ?_, h.steps_snoc hi hstep ⟨?_, ?_⟩⟩
  · intro p g dead hp
    rcases hstood hp with hold | ⟨hnew, -⟩
    · exact lt_of_lt_of_le (hbelow p g dead hold) hturn.next_le
    · exact hsound'.stands_lt hnew
  · intro p q g dead dead' hp hq
    rcases hstood hp with hp | ⟨hp, hge⟩
    · rcases hstood hq with hq | ⟨-, hge⟩
      · exact h.distinct p q g dead dead' hp hq
      · exact absurd (hbelow p g dead hp) (not_lt.2 hge)
    · rcases hstood hq with hq | ⟨hq, -⟩
      · exact absurd (hbelow q g dead' hq) (not_lt.2 hge)
      · exact hsound'.stands_unique hp hq
  · intro j next' hj
    obtain ⟨hobserved, hj⟩ := hreserved j next' hj
    obtain ⟨hs, hlt⟩ := h.reserved j next' hj
    rw [hobserved]
    refine ⟨hs, fun p g dead hp => ?_⟩
    rcases (stood_snoc rfl).1 hp with hp | hp
    · rw [hobserved] at hp
      exact hlt p g dead (.inl hp)
    · exact hlt p g dead hp
  · intro p g hlive hcause q old dead hold
    apply lt_of_lt_of_le (hbelow q old dead hold)
    by_cases hfresh : forced p = true ∨ ¬ s.observed.Unchanged s'.observed p
    · exact hturn.fresh p g hfresh hlive
    · push Not at hfresh
      have hkept := hturn.kept hsound p (by simpa using hfresh.1) hfresh.2
      rcases hcause with hne | hne | he
      · exact absurd (hkept.symm.trans hlive) hne
      · exact absurd hfresh.2 hne
      · exact absurd (hfenced he p) hfresh.1
  · intro he
    refine ⟨target, htarget, fun p hne hcontent => hturn.kept hsound p ?_ hcontent⟩
    rw [← Bool.not_eq_true]
    exact fun hp => hne (hforced he p hp)

/-- Calls that start, and calls that are dropped with what they have in hand. -/
theorem Registered.ghosts (h : Registered ghost n log s) {ghost' : Nat → Clerk} {n' : Nat}
    (hn : n ≤ n') (hcommand : ∀ j < n, (ghost' j).command = (ghost j).command)
    (hreserved : ∀ j next, (ghost' j).reserved = some next → (ghost j).reserved = some next) :
    Registered ghost' n' log s := by
  refine ⟨h.sound, h.below, h.distinct, fun j next hj => h.reserved j next (hreserved j next hj), ?_⟩
  intro before x after heq
  obtain ⟨hx, hturned, γ, γ', hγ, hstep⟩ := h.steps before x after heq
  rw [hcommand x.call hx]
  exact ⟨lt_of_lt_of_le hx hn, hturned, γ, γ', hγ, hstep⟩

theorem Registered.start (h : Registered ghost n log s) (command : Command) :
    Registered (Function.update ghost n ⟨command, none⟩) (n + 1) log s := by
  apply h.ghosts (Nat.le_succ n)
  · intro j hj
    rw [Function.update_of_ne (Nat.ne_of_lt hj)]
  · intro j next hj
    by_cases hij : j = n
    · subst hij
      rw [Function.update_self] at hj
      cases hj
    · rwa [Function.update_of_ne hij] at hj

theorem Registered.drop (h : Registered ghost n log s) (i : Nat) :
    Registered (Function.update ghost i (ghost i).put) n log s := by
  apply h.ghosts le_rfl
  · intro j _
    by_cases hij : j = i
    · subst hij
      rw [Function.update_self]
      rfl
    · rw [Function.update_of_ne hij]
  · intro j next hj
    by_cases hij : j = i
    · subst hij
      rw [Function.update_self] at hj
      cases hj
    · rwa [Function.update_of_ne hij] at hj

theorem Registered.step (h : Registered ghost n log s) {i : Nat} {γ' : Clerk} {e : Option Event}
    (hi : i < n) (hstep : BookStep (ghost i) s e s' γ')
    (hapart : System.Apart books Clerk.Idle ghost i s s') :
    Registered (Function.update ghost i γ') n (log ++ [⟨i, s, e, s'⟩]) s' := by
  have hothers (hput : γ' = (ghost i).put) (j : Nat) (next' : Nat)
      (hj : (Function.update ghost i γ' j).reserved = some next') :
      s'.observed = s.observed ∧ (ghost j).reserved = some next' := by
    by_cases hij : j = i
    · subst hij
      rw [Function.update_self, hput] at hj
      cases hj
    · rw [Function.update_of_ne hij] at hj
      rcases hapart with ⟨-, hbooks⟩ | hidle
      · exact ⟨congrArg (fun b => b.1.1) hbooks, hj⟩
      · have hnone : (ghost j).reserved = none := hidle j hij
        rw [hnone] at hj
        cases hj
  have hcopy := hstep
  cases hstep with
  | still hpermits hbooks =>
    refine h.step_same hi hcopy (congrArg (fun b => b.1.1) hbooks)
      (le_of_eq (congrArg (fun b => b.1.2) hbooks).symm) ?_ (.inl rfl)
    rintro rfl
    exact hpermits
  | flag hledger hlowered =>
    exact h.step_same hi hcopy (congrArg Prod.fst hledger)
      (le_of_eq (congrArg Prod.snd hledger).symm) (fun he => nomatch he) (.inl rfl)
  | reserve hobserved hnext hflag =>
    exact h.step_same hi hcopy hobserved hnext (fun he => nomatch he) (.inr rfl)
  | publish hreserved hturn hnext hflag htarget hcertain =>
    obtain ⟨hsound, hbelow⟩ := h.reserved i _ hreserved
    exact h.step_turn _ hi hcopy hturn hsound hbelow (fun _ p hp => by simpa using hp) htarget
      (fun he => nomatch he) (hothers rfl)
  | fence hturn hconfig huncertain hflag =>
    exact h.step_turn none hi hcopy hturn h.sound h.below (fun he => absurd rfl he)
      (fun _ h => by cases h) (fun _ _ => rfl) (hothers rfl)

end

/-- The discipline after every run. -/
theorem runService_registered (split : Text → Option (List Text)) (loaded : LoadedConfig)
    (actions : List (Action (Answer ρ) Command)) :
    ∃ ghost, Registered ghost (runService split loaded actions).calls.length
        (runService split loaded actions).trace (runService split loaded actions).shared ∧
      ∀ i command progress, (runService split loaded actions).calls[i]? =
        some ⟨command, progress⟩ → (ghost i).command = command := by
  have hinitial : Registered (fun _ => ⟨.shutdown, none⟩) 0 []
      (ApplicationService.initial loaded) := by
    have hsound := initial_sound loaded
    have hstood {p : ProfileId} {g : ProfileGeneration} {dead : Bool}
        (h : Stood [] (ApplicationService.initial loaded) p g dead) :
        (ApplicationService.initial loaded).observed.Stands p g dead := by
      rcases h with h | ⟨x, hx, -⟩
      · exact h
      · cases hx
    refine ⟨hsound, fun p g dead hp => hsound.stands_lt (hstood hp),
      fun p q g dead dead' hp hq => hsound.stands_unique (hstood hp) (hstood hq),
      fun _ _ h => (nomatch h), ?_⟩
    intro before x after heq
    simp at heq
  obtain ⟨ghost, -, hregistered, hcommands⟩ := System.run_traced
    (fun command => (⟨command, none⟩ : Clerk)) Clerk.put (fun _ => ⟨.shutdown, none⟩)
    (fun _ => True) (K := fun c γ => γ.command = c) (J := Registered)
    (Q := fun _ _ _ => True)
    (fun command _ => Task.Guarded.weaken (begin_leaves split command) fun _ _ _ h => ⟨h.1, trivial⟩)
    (fun _ _ => rfl) (fun _ => rfl)
    ⟨fun _ => rfl, fun _ _ h => h, fun _ _ _ _ _ _ h hstep => hstep.command_eq.trans h⟩
    (fun ghost n log s command h => h.start command) (fun ghost n log s i h => h.drop i)
    (fun ghost n log s k e s' γ' h hk hstep hapart => h.step hk hstep hapart)
    (fun _ => rfl) hinitial actions (fun _ _ => trivial)
  exact ⟨ghost, hregistered, hcommands⟩

/-! ## The discipline of the generations -/

/-- What a maintainer may rely on about the generations of a run. -/
structure GenerationsKept (sys : ServiceSystem ρ) : Prop where
  /-- A generation stands for one profile, and it is its live generation or its tombstone. -/
  distinct : ∀ p q g dead dead', Stood sys.trace sys.shared p g dead →
    Stood sys.trace sys.shared q g dead' → p = q ∧ dead = dead'
  below : ∀ p g dead, Stood sys.trace sys.shared p g dead → g < sys.shared.nextGeneration
  listed : ∀ p, (sys.shared.observed.live p).isSome ↔
    ∃ profile ∈ sys.shared.observed.config.profiles, profile.id = p
  /-- A generation that is live no more stays so. -/
  gone : ∀ before x after, sys.trace = before ++ x :: after → ∀ p g,
    x.before.observed.live p = some g → x.after.observed.live p ≠ some g →
    sys.shared.observed.live p ≠ some g ∧ ∀ y ∈ after, y.before.observed.live p ≠ some g
  turned : ∀ before x after, sys.trace = before ++ x :: after → ∀ command progress,
    sys.calls[x.call]? = some ⟨command, progress⟩ → Turned command before x

theorem stood_of_live {log : Log} {x : Entry ApplicationService Event} {s : ApplicationService}
    {p : ProfileId} {g : ProfileGeneration} (hx : x ∈ log)
    (h : x.before.observed.live p = some g) : Stood log s p g false :=
  .inr ⟨x, hx, h⟩

/-- **The discipline of the generations.** It holds after every schedule of calls, whichever of
them are dropped on the way. -/
theorem runService_generationsKept (split : Text → Option (List Text)) (loaded : LoadedConfig)
    (actions : List (Action (Answer ρ) Command)) :
    GenerationsKept (runService split loaded actions) := by
  obtain ⟨ghost, hregistered, hcommands⟩ := runService_registered split loaded actions
  have hpath : Path (ApplicationService.initial loaded) (runService split loaded actions).trace
    (runService split loaded actions).shared := System.run_path _ actions
  refine ⟨hregistered.distinct, hregistered.below, ?_, ?_, ?_⟩
  · intro p
    rw [hregistered.sound.listed p, content_eq_latest, latest_isSome]
  · intro before x after heq p g hlive hgone
    rw [heq] at hpath
    obtain ⟨middle, -, rfl, hafter⟩ := Path.append.1 hpath
    -- a generation that comes back would be above itself
    have hkept := hafter.keeps (I := fun s => s.observed.live p ≠ some g) hgone ?_
    · exact ⟨hkept.2, hkept.1⟩
    intro y hy hbefore hback
    obtain ⟨front, rear, rfl⟩ := List.append_of_mem hy
    have hturned := (hregistered.steps (before ++ x :: front) y rear (by simp [heq])).2.1
    exact lt_irrefl g (hturned.raised p g hback (.inl hbefore) p g false
      (stood_of_live (by simp) hlive))
  · intro before x after heq command progress hcall
    have hturned := (hregistered.steps before x after heq).2.1
    rwa [hcommands x.call command progress hcall] at hturned

end Dbotter.Service
