import Mathlib.Data.List.Induction
import Dbotter.Program.Task

/-!
Runs of a pool of tasks: which calls there are, how a schedule advances them, and the rules
that carry a guarantee of every single task over to every interleaving.
-/

namespace Dbotter.Program

variable {σ ι E ε α κ Γ H : Type}

inductive Progress (σ ι E ε α : Type)
  | running (task : Task σ ι E ε α)
  | finished (result : Except ε α)
  | dropped

structure Call (σ ι E ε α κ : Type) where
  command : κ
  progress : Progress σ ι E ε α

/-- One step of the call `call`: the state it found and the state it left. -/
structure Entry (σ E : Type) where
  call : Nat
  before : σ
  event : Option E
  after : σ

/-- The shared state, the owner of the lane, the calls and the steps taken so far. -/
structure System (σ ι E ε α κ : Type) where
  shared : σ
  owner : Option Nat := none
  calls : List (Call σ ι E ε α κ) := []
  trace : List (Entry σ E) := []

inductive Action (ι κ : Type)
  | start (command : κ)
  | advance (call : Nat) (answer : ι)
  | drop (call : Nat)

namespace System

def setProgress (sys : System σ ι E ε α κ) (i : Nat) (progress : Progress σ ι E ε α) :
    System σ ι E ε α κ :=
  { sys with calls := sys.calls.modify i fun c => { c with progress } }

def leaveLane (sys : System σ ι E ε α κ) (i : Nat) : System σ ι E ε α κ :=
  if sys.owner = some i then { sys with owner := none } else sys

def advanceTask (sys : System σ ι E ε α κ) (i : Nat) (answer : ι) :
    Task σ ι E ε α → System σ ι E ε α κ
  | .done r => (sys.leaveLane i).setProgress i (.finished r)
  | .atomic act emit next =>
      { sys.setProgress i (.running (next answer sys.shared)) with
        shared := act answer sys.shared
        trace := sys.trace ++ [⟨i, sys.shared, emit answer sys.shared, act answer sys.shared⟩] }
  | .acquire next =>
      match sys.owner with
      | none => { sys.setProgress i (.running next) with owner := some i }
      | some _ => sys
  | .release next => (sys.leaveLane i).setProgress i (.running next)

section
variable (begin : κ → Task σ ι E ε α)

def step (sys : System σ ι E ε α κ) : Action ι κ → System σ ι E ε α κ
  | .start command =>
      { sys with calls := sys.calls ++ [⟨command, .running (begin command)⟩] }
  | .advance i answer =>
      match sys.calls[i]? with
      | some ⟨_, .running task⟩ => sys.advanceTask i answer task
      | _ => sys
  | .drop i =>
      match sys.calls[i]? with
      | some ⟨_, .running _⟩ => (sys.leaveLane i).setProgress i .dropped
      | _ => sys

def run (sys : System σ ι E ε α κ) (actions : List (Action ι κ)) : System σ ι E ε α κ :=
  actions.foldl (step begin) sys

end

@[simp] theorem setProgress_shared (sys : System σ ι E ε α κ) (i : Nat)
    (p : Progress σ ι E ε α) : (sys.setProgress i p).shared = sys.shared := rfl

@[simp] theorem setProgress_trace (sys : System σ ι E ε α κ) (i : Nat)
    (p : Progress σ ι E ε α) : (sys.setProgress i p).trace = sys.trace := rfl

@[simp] theorem leaveLane_shared (sys : System σ ι E ε α κ) (i : Nat) :
    (sys.leaveLane i).shared = sys.shared := by
  unfold leaveLane
  split <;> rfl

@[simp] theorem leaveLane_trace (sys : System σ ι E ε α κ) (i : Nat) :
    (sys.leaveLane i).trace = sys.trace := by
  unfold leaveLane
  split <;> rfl

@[simp] theorem leaveLane_calls (sys : System σ ι E ε α κ) (i : Nat) :
    (sys.leaveLane i).calls = sys.calls := by
  unfold leaveLane
  split <;> rfl

theorem setProgress_calls_getElem? (sys : System σ ι E ε α κ) (i j : Nat)
    (p : Progress σ ι E ε α) :
    (sys.setProgress i p).calls[j]? =
      if i = j then sys.calls[j]?.map (fun c => { c with progress := p }) else sys.calls[j]? := by
  show (sys.calls.modify i _)[j]? = _
  rw [List.getElem?_modify]
  split
  · rfl
  · cases sys.calls[j]? <;> rfl

/-! ## Ghost values along a run -/

/-- What is known of a call that holds the ghost value `γ`. -/
def Progress.Sat (G : Γ → σ → Option E → σ → Γ → Prop) (Q : Γ → Except ε α → Prop) (γ : Γ) :
    Progress σ ι E ε α → Prop
  | .running task => task.Sat G Q γ
  | .finished r => Q γ r
  | .dropped => True

/-- Every call keeps its guarantee from its own ghost value on, and a call that has not
started holds `γ₀`. -/
structure Tracked (G : Γ → σ → Option E → σ → Γ → Prop) (Q : κ → Γ → Except ε α → Prop)
    (γ₀ : Γ) (ghost : Nat → Γ) (sys : System σ ι E ε α κ) : Prop where
  calls : ∀ i c, sys.calls[i]? = some c → Progress.Sat G (Q c.command) (ghost i) c.progress
  fresh : ∀ i, sys.calls.length ≤ i → ghost i = γ₀

variable {G : Γ → σ → Option E → σ → Γ → Prop} {Q : κ → Γ → Except ε α → Prop} {γ₀ : Γ}
  {begin : κ → Task σ ι E ε α}

/-- Moving one call on, with a new ghost value for it, keeps all calls tracked. -/
theorem Tracked.setProgress {ghost : Nat → Γ} {sys : System σ ι E ε α κ} {i : Nat}
    {c : Call σ ι E ε α κ} {p : Progress σ ι E ε α} {γ : Γ} (h : Tracked G Q γ₀ ghost sys)
    (hc : sys.calls[i]? = some c) (hp : Progress.Sat G (Q c.command) γ p) :
    Tracked G Q γ₀ (Function.update ghost i γ) (sys.setProgress i p) := by
  constructor
  · intro j d hd
    rw [setProgress_calls_getElem?] at hd
    by_cases hij : i = j
    · subst hij
      rw [if_pos rfl, hc] at hd
      cases hd
      simpa using hp
    · rw [if_neg hij] at hd
      rw [Function.update_of_ne (Ne.symm hij)]
      exact h.calls j d hd
  · intro j hj
    have hlen : sys.calls.length ≤ j := by
      simpa [System.setProgress] using hj
    have hi : i < sys.calls.length := (List.getElem?_eq_some_iff.mp hc).1
    rw [Function.update_of_ne (by omega)]
    exact h.fresh j hlen

theorem Tracked.congr {ghost : Nat → Γ} {sys sys' : System σ ι E ε α κ}
    (h : Tracked G Q γ₀ ghost sys) (hcalls : sys'.calls = sys.calls) :
    Tracked G Q γ₀ ghost sys' :=
  ⟨by rw [hcalls]; exact h.calls, by rw [hcalls]; exact h.fresh⟩

section
variable {J : (Nat → Γ) → σ → List (Entry σ E) → Prop}

/-- One action of the schedule keeps a property `J` of the ghost values, the state and the
trace, if every guaranteed step does. -/
theorem step_tracked (hbegin : ∀ command, (begin command).Sat G (Q command) γ₀)
    (hJ : ∀ ghost s tr i e s' γ', J ghost s tr → G (ghost i) s e s' γ' →
      J (Function.update ghost i γ') s' (tr ++ [⟨i, s, e, s'⟩]))
    {sys : System σ ι E ε α κ} {ghost : Nat → Γ} (action : Action ι κ)
    (ht : Tracked G Q γ₀ ghost sys) (hj : J ghost sys.shared sys.trace) :
    ∃ ghost', Tracked G Q γ₀ ghost' (sys.step begin action) ∧
      J ghost' (sys.step begin action).shared (sys.step begin action).trace := by
  cases action with
  | start command =>
      refine ⟨ghost, ⟨?_, ?_⟩, hj⟩
      · intro i c hc
        change (sys.calls ++ [_])[i]? = some c at hc
        rw [List.getElem?_append] at hc
        split at hc
        · exact ht.calls i c hc
        · have hi : i - sys.calls.length = 0 := by
            by_contra hne
            rw [List.getElem?_eq_none (by simp; omega)] at hc
            cases hc
          rw [hi] at hc
          cases hc
          rw [ht.fresh i (by omega)]
          exact hbegin command
      · intro i hi
        change (sys.calls ++ [_]).length ≤ i at hi
        rw [List.length_append] at hi
        exact ht.fresh i (by omega)
  | advance i answer =>
      simp only [step]
      split
      · rename_i command task hc
        have htask := ht.calls i _ hc
        cases task with
        | done r =>
            refine ⟨Function.update ghost i (ghost i), ?_, ?_⟩
            · exact (ht.congr (leaveLane_calls sys i)).setProgress
                (by rw [leaveLane_calls]; exact hc) htask
            · rw [Function.update_eq_self]
              simpa [advanceTask] using hj
        | atomic act emit next =>
            obtain ⟨γ', hG, hn⟩ := htask answer sys.shared
            exact ⟨Function.update ghost i γ',
              (ht.setProgress (p := .running (next answer sys.shared)) hc hn).congr rfl,
              hJ ghost sys.shared sys.trace i _ _ γ' hj hG⟩
        | acquire next =>
            simp only [advanceTask]
            split
            · refine ⟨Function.update ghost i (ghost i),
                (ht.setProgress (p := .running next) hc htask).congr rfl, ?_⟩
              rw [Function.update_eq_self]
              exact hj
            · exact ⟨ghost, ht, hj⟩
        | release next =>
            refine ⟨Function.update ghost i (ghost i), ?_, ?_⟩
            · exact (ht.congr (leaveLane_calls sys i)).setProgress
                (by rw [leaveLane_calls]; exact hc) htask
            · rw [Function.update_eq_self]
              simpa [advanceTask] using hj
      · exact ⟨ghost, ht, hj⟩
  | drop i =>
      simp only [step]
      split
      · rename_i hc
        refine ⟨Function.update ghost i (ghost i), ?_, ?_⟩
        · exact (ht.congr (leaveLane_calls sys i)).setProgress
            (by rw [leaveLane_calls]; exact hc) trivial
        · rw [Function.update_eq_self]
          simpa using hj
      · exact ⟨ghost, ht, hj⟩

/-- `J` is kept by a run that goes on from a tracked system. -/
theorem run_tracked_from (hbegin : ∀ command, (begin command).Sat G (Q command) γ₀)
    (hJ : ∀ ghost s tr i e s' γ', J ghost s tr → G (ghost i) s e s' γ' →
      J (Function.update ghost i γ') s' (tr ++ [⟨i, s, e, s'⟩]))
    {sys : System σ ι E ε α κ} {ghost : Nat → Γ} (ht : Tracked G Q γ₀ ghost sys)
    (hj : J ghost sys.shared sys.trace) (actions : List (Action ι κ)) :
    ∃ ghost', Tracked G Q γ₀ ghost' (run begin sys actions) ∧
      J ghost' (run begin sys actions).shared (run begin sys actions).trace := by
  induction actions using List.reverseRecOn with
  | nil => exact ⟨ghost, ht, hj⟩
  | append_singleton actions action ih =>
      obtain ⟨ghost', ht', hj'⟩ := ih
      simp only [run, List.foldl_append, List.foldl_cons, List.foldl_nil]
      exact step_tracked hbegin hJ action ht' hj'

/-- The run rule: `J` holds after every schedule that starts from a system without calls. -/
theorem run_tracked (hbegin : ∀ command, (begin command).Sat G (Q command) γ₀)
    (hJ : ∀ ghost s tr i e s' γ', J ghost s tr → G (ghost i) s e s' γ' →
      J (Function.update ghost i γ') s' (tr ++ [⟨i, s, e, s'⟩]))
    {s : σ} (hinit : J (fun _ => γ₀) s []) (actions : List (Action ι κ)) :
    ∃ ghost, Tracked G Q γ₀ ghost (run begin ⟨s, none, [], []⟩ actions) ∧
      J ghost (run begin ⟨s, none, [], []⟩ actions).shared
        (run begin ⟨s, none, [], []⟩ actions).trace :=
  run_tracked_from hbegin hJ ⟨fun i c hc => by simp at hc, fun _ _ => rfl⟩ hinit actions

end

/-! ## Invariants of the state -/

/-- An invariant that every step of every task keeps holds after every run, and with it what
the steps guarantee under the invariant. -/
theorem run_entries {I : σ → Prop} {P : σ → Option E → σ → Prop}
    (hbegin : ∀ command, (begin command).Sat
      (fun (_ : Unit) s e s' _ => I s → I s' ∧ P s e s') (fun _ _ => True) ())
    {s : σ} (hinit : I s) (actions : List (Action ι κ)) :
    I (run begin ⟨s, none, [], []⟩ actions).shared ∧
      ∀ e ∈ (run begin ⟨s, none, [], []⟩ actions).trace, P e.before e.event e.after := by
  have hrun := run_tracked (s := s) (Q := fun _ _ _ => True)
    (J := fun _ s tr => I s ∧ ∀ e ∈ tr, P e.before e.event e.after) hbegin ?_ ?_ actions
  · obtain ⟨-, -, h⟩ := hrun
    exact h
  · rintro - s tr i e s' - ⟨hI, htr⟩ hG
    obtain ⟨hI', hP⟩ := hG hI
    refine ⟨hI', ?_⟩
    intro e' he'
    rw [List.mem_append, List.mem_singleton] at he'
    rcases he' with he' | rfl
    · exact htr e' he'
    · exact hP
  · exact ⟨hinit, by simp⟩

/-! ## The history of one call -/

/-- The steps of one call, as far as the call itself can tell. -/
abbrev History (σ E : Type) := List (σ × Option E × σ)

def history (i : Nat) (trace : List (Entry σ E)) : History σ E :=
  (trace.filter fun e => e.call == i).map fun e => (e.before, e.event, e.after)

/-- A task ends with `Q` about its own steps, whatever states they find. -/
def Along (Q : History σ E → Except ε α → Prop) (task : Task σ ι E ε α)
    (past : History σ E) : Prop :=
  task.Sat (fun γ s e s' γ' => γ' = γ ++ [(s, e, s')]) Q past

theorem Along.trivial (task : Task σ ι E ε α) (past : History σ E) :
    Along (fun _ _ => True) task past := by
  induction task generalizing past with
  | done r => exact True.intro
  | atomic act emit next ih => exact fun i s => ⟨_, rfl, ih i s _⟩
  | acquire next ih => exact ih past
  | release next ih => exact ih past

/-- The steps that a task has taken stay taken. -/
theorem Along.grows (task : Task σ ι E ε α) (past : History σ E) :
    Along (fun steps _ => past <+: steps) task past := by
  suffices h : ∀ now, past <+: now → Along (fun steps _ => past <+: steps) task now from
    h past (List.prefix_refl past)
  induction task with
  | done r => exact fun now hnow => hnow
  | atomic act emit next ih =>
      exact fun now hnow i s => ⟨_, rfl, ih i s _ (hnow.trans (List.prefix_append now _))⟩
  | acquire next ih => exact ih
  | release next ih => exact ih

/-- A task that has a step to take ends with more than it has so far. -/
theorem Along.reaches {Q : History σ E → Except ε α → Prop} (answer : ι) (s : σ)
    {task : Task σ ι E ε α} {past : History σ E} (h : Along Q task past) :
    ∃ steps r, Q steps r ∧ past <+: steps := by
  induction task generalizing past with
  | done r => exact ⟨past, r, h, List.prefix_refl past⟩
  | atomic act emit next ih =>
      obtain ⟨_, rfl, hn⟩ := h answer s
      obtain ⟨steps, r, hQ, hpre⟩ := ih answer s hn
      exact ⟨steps, r, hQ, (List.prefix_append past _).trans hpre⟩
  | acquire next ih => exact ih h
  | release next ih => exact ih h

/-- What a call has done so far is its own history. -/
theorem run_along {Q : κ → History σ E → Except ε α → Prop}
    (hbegin : ∀ command, Along (Q command) (begin command) []) (s : σ)
    (actions : List (Action ι κ)) {i : Nat} {c : Call σ ι E ε α κ}
    (hc : (run begin ⟨s, none, [], []⟩ actions).calls[i]? = some c) :
    Progress.Sat (fun γ s e s' γ' => γ' = γ ++ [(s, e, s')]) (Q c.command)
      (history i (run begin ⟨s, none, [], []⟩ actions).trace) c.progress := by
  have hrun := run_tracked (s := s)
    (J := fun ghost _ tr => ∀ i, ghost i = history i tr) hbegin ?_ (fun _ => rfl) actions
  · obtain ⟨ghost, ht, hghost⟩ := hrun
    rw [← hghost i]
    exact ht.calls i _ hc
  · intro ghost s tr i e s' γ' hJ hG j
    by_cases hij : j = i
    · subst hij
      rw [Function.update_self, hG, hJ j]
      simp [history]
    · rw [Function.update_of_ne hij, hJ j]
      simp [history, Ne.symm hij]

theorem run_history {Q : κ → History σ E → Except ε α → Prop}
    (hbegin : ∀ command, Along (Q command) (begin command) []) (s : σ)
    (actions : List (Action ι κ)) {i : Nat} {command : κ} {r : Except ε α}
    (hc : (run begin ⟨s, none, [], []⟩ actions).calls[i]? = some ⟨command, .finished r⟩) :
    Q command (history i (run begin ⟨s, none, [], []⟩ actions).trace) r :=
  run_along hbegin s actions hc

/-! ## Custody of resources

A resource is opened, may be kept in a shared store, and is closed in the end. A call answers
for what it opened until that is stored or closed, and for what it took out of the store until
that is closed. -/

structure Custody (H : Type) where
  mine : Set H
  duty : Set H

namespace Custody

def none : Custody H := ⟨∅, ∅⟩

structure Keeps (opened stored closed : σ → H → Prop) (γ : Custody H) (s s' : σ)
    (γ' : Custody H) : Prop where
  opens : ∀ h, opened s' h → opened s h ∨ h ∈ γ'.mine
  mine : ∀ h ∈ γ.mine, h ∈ γ'.mine ∨ closed s' h ∨ stored s' h
  takes : ∀ h, stored s h → stored s' h ∨ h ∈ γ'.duty
  duty : ∀ h ∈ γ.duty, h ∈ γ'.duty ∨ closed s' h
  closed : ∀ h, closed s h → closed s' h

variable {opened stored closed : σ → H → Prop}

/-- A step that leaves the resources alone keeps every custody. -/
theorem Keeps.refl {γ : Custody H} {s s' : σ} (ho : ∀ h, opened s' h ↔ opened s h)
    (hs : ∀ h, stored s' h ↔ stored s h) (hc : ∀ h, closed s' h ↔ closed s h) :
    Keeps opened stored closed γ s s' γ where
  opens h hh := .inl ((ho h).1 hh)
  mine _ hh := .inl hh
  takes h hh := .inl ((hs h).2 hh)
  duty _ hh := .inl hh
  closed h hh := (hc h).2 hh

/-- What a run owes: for every step of a call, for every resource, and for the present. -/
structure Accounts (opened stored closed : σ → H → Prop) (ghost : Nat → Custody H) (s : σ)
    (tr : List (Entry σ E)) : Prop where
  opens : ∀ e ∈ tr, ∀ h, ¬ opened e.before h → opened e.after h →
    h ∈ (ghost e.call).mine ∨ closed s h ∨ ∃ e' ∈ tr, e'.call = e.call ∧ stored e'.after h
  takes : ∀ e ∈ tr, ∀ h, stored e.before h → ¬ stored e.after h →
    h ∈ (ghost e.call).duty ∨ closed s h
  present : ∀ h, opened s h → closed s h ∨ stored s h ∨
    ∃ i, h ∈ (ghost i).mine ∨ h ∈ (ghost i).duty

theorem Accounts.step {ghost : Nat → Custody H} {s s' : σ} {tr : List (Entry σ E)} {i : Nat}
    {event : Option E} {γ' : Custody H} (ha : Accounts opened stored closed ghost s tr)
    (hk : Keeps opened stored closed (ghost i) s s' γ') :
    Accounts opened stored closed (Function.update ghost i γ') s'
      (tr ++ [⟨i, s, event, s'⟩]) := by
  have hmine : ∀ j h, h ∈ (ghost j).mine →
      h ∈ (Function.update ghost i γ' j).mine ∨ closed s' h ∨ (j = i ∧ stored s' h) := by
    intro j h hh
    by_cases hij : j = i
    · subst hij
      rw [Function.update_self]
      rcases hk.mine h hh with h1 | h1 | h1
      · exact .inl h1
      · exact .inr (.inl h1)
      · exact .inr (.inr ⟨rfl, h1⟩)
    · rw [Function.update_of_ne hij]
      exact .inl hh
  have hduty : ∀ j h, h ∈ (ghost j).duty →
      h ∈ (Function.update ghost i γ' j).duty ∨ closed s' h := by
    intro j h hh
    by_cases hij : j = i
    · subst hij
      rw [Function.update_self]
      exact hk.duty h hh
    · rw [Function.update_of_ne hij]
      exact .inl hh
  constructor
  · intro e he h hb hf
    rw [List.mem_append, List.mem_singleton] at he
    rcases he with he | rfl
    · rcases ha.opens e he h hb hf with h1 | h1 | ⟨e', he', hcall, hs⟩
      · rcases hmine e.call h h1 with h2 | h2 | ⟨hcall, h2⟩
        · exact .inl h2
        · exact .inr (.inl h2)
        · exact .inr (.inr ⟨⟨i, s, event, s'⟩, by simp, hcall.symm, h2⟩)
      · exact .inr (.inl (hk.closed h h1))
      · exact .inr (.inr ⟨e', by simp [he'], hcall, hs⟩)
    · rcases hk.opens h hf with h1 | h1
      · exact absurd h1 hb
      · rw [Function.update_self]
        exact .inl h1
  · intro e he h hb hf
    rw [List.mem_append, List.mem_singleton] at he
    rcases he with he | rfl
    · rcases ha.takes e he h hb hf with h1 | h1
      · exact hduty e.call h h1
      · exact .inr (hk.closed h h1)
    · rcases hk.takes h hb with h1 | h1
      · exact absurd h1 hf
      · rw [Function.update_self]
        exact .inl h1
  · intro h hh
    have hself : h ∈ γ'.mine ∨ h ∈ γ'.duty → ∃ j,
        h ∈ (Function.update ghost i γ' j).mine ∨ h ∈ (Function.update ghost i γ' j).duty := by
      intro h1
      exact ⟨i, by rw [Function.update_self]; exact h1⟩
    rcases hk.opens h hh with h1 | h1
    · rcases ha.present h h1 with h2 | h2 | ⟨j, h2 | h2⟩
      · exact .inl (hk.closed h h2)
      · rcases hk.takes h h2 with h3 | h3
        · exact .inr (.inl h3)
        · exact .inr (.inr (hself (.inr h3)))
      · rcases hmine j h h2 with h3 | h3 | ⟨-, h3⟩
        · exact .inr (.inr ⟨j, .inl h3⟩)
        · exact .inl h3
        · exact .inr (.inl h3)
      · rcases hduty j h h2 with h3 | h3
        · exact .inr (.inr ⟨j, .inr h3⟩)
        · exact .inl h3
    · exact .inr (.inr (hself (.inl h1)))

end Custody

variable {opened stored closed : σ → H → Prop}

/-- A task that answers for nothing when it ends. -/
def Settles (opened stored closed : σ → H → Prop) (task : Task σ ι E ε α) : Prop :=
  task.Sat (fun γ s _ s' γ' => Custody.Keeps opened stored closed γ s s' γ')
    (fun γ _ => γ = Custody.none) Custody.none

theorem run_accounts (hbegin : ∀ command, Settles opened stored closed (begin command))
    {s : σ} (hinit : ∀ h, ¬ opened s h) (actions : List (Action ι κ)) :
    ∃ ghost, Custody.Accounts opened stored closed ghost
        (run begin ⟨s, none, [], []⟩ actions).shared
        (run begin ⟨s, none, [], []⟩ actions).trace ∧
      (∀ i c r, (run begin ⟨s, none, [], []⟩ actions).calls[i]? = some ⟨c, .finished r⟩ →
        ghost i = Custody.none) ∧
      ∀ i, (run begin ⟨s, none, [], []⟩ actions).calls.length ≤ i → ghost i = Custody.none := by
  have hrun := run_tracked (s := s)
    (J := fun ghost s tr => Custody.Accounts opened stored closed ghost s tr) hbegin ?_ ?_ actions
  · obtain ⟨ghost, ht, ha⟩ := hrun
    exact ⟨ghost, ha, fun i c r hc => ht.calls i _ hc, ht.fresh⟩
  · intro ghost s tr i e s' γ' ha hk
    exact ha.step hk
  · exact ⟨by simp, by simp, fun h hh => absurd hh (hinit h)⟩

/-- What a call opened is closed or was stored by it, once the call has finished. -/
theorem run_opened_settled (hbegin : ∀ command, Settles opened stored closed (begin command))
    {s : σ} (hinit : ∀ h, ¬ opened s h) (actions : List (Action ι κ))
    {sys : System σ ι E ε α κ} (hsys : sys = run begin ⟨s, none, [], []⟩ actions)
    {e : Entry σ E} (he : e ∈ sys.trace) {c : κ} {r : Except ε α}
    (hc : sys.calls[e.call]? = some ⟨c, .finished r⟩) {h : H} (hb : ¬ opened e.before h)
    (hf : opened e.after h) :
    closed sys.shared h ∨ ∃ e' ∈ sys.trace, e'.call = e.call ∧ stored e'.after h := by
  subst hsys
  obtain ⟨ghost, ha, hdone, -⟩ := run_accounts hbegin hinit actions
  rcases ha.opens e he h hb hf with h1 | h1
  · rw [hdone _ c r hc] at h1
    exact absurd h1 (Set.notMem_empty h)
  · exact h1

/-- What a call took out of the store is closed, once the call has finished. -/
theorem run_taken_closed (hbegin : ∀ command, Settles opened stored closed (begin command))
    {s : σ} (hinit : ∀ h, ¬ opened s h) (actions : List (Action ι κ))
    {sys : System σ ι E ε α κ} (hsys : sys = run begin ⟨s, none, [], []⟩ actions)
    {e : Entry σ E} (he : e ∈ sys.trace) {c : κ} {r : Except ε α}
    (hc : sys.calls[e.call]? = some ⟨c, .finished r⟩) {h : H} (hb : stored e.before h)
    (hf : ¬ stored e.after h) : closed sys.shared h := by
  subst hsys
  obtain ⟨ghost, ha, hdone, -⟩ := run_accounts hbegin hinit actions
  rcases ha.takes e he h hb hf with h1 | h1
  · rw [hdone _ c r hc] at h1
    exact absurd h1 (Set.notMem_empty h)
  · exact h1

/-- Once every call has finished, every opened resource is closed or in the store. -/
theorem run_all_settled (hbegin : ∀ command, Settles opened stored closed (begin command))
    {s : σ} (hinit : ∀ h, ¬ opened s h) (actions : List (Action ι κ))
    {sys : System σ ι E ε α κ} (hsys : sys = run begin ⟨s, none, [], []⟩ actions)
    (hall : ∀ c ∈ sys.calls, ∃ r, c.progress = .finished r) {h : H}
    (hh : opened sys.shared h) : closed sys.shared h ∨ stored sys.shared h := by
  subst hsys
  obtain ⟨ghost, ha, hdone, hfresh⟩ := run_accounts hbegin hinit actions
  have hnone : ∀ i, ghost i = Custody.none := by
    intro i
    by_cases hi : i < (run begin ⟨s, none, [], []⟩ actions).calls.length
    · obtain ⟨r, hr⟩ := hall _ (List.getElem_mem hi)
      apply hdone i _ r
      rw [List.getElem?_eq_getElem hi, ← hr]
    · exact hfresh i (by omega)
  rcases ha.present h hh with h1 | h1 | ⟨i, h1⟩
  · exact .inl h1
  · exact .inr h1
  · rw [hnone i] at h1
    exact absurd h1 (by simp [Custody.none])

end System

end Dbotter.Program
