import Dbotter.Program.Interleaving

/-!
The trace of a run as a path: every step finds the state that the step before it left.

What holds at some moment of a path and is kept by its steps holds from there on, and what held
nowhere before is told by the steps that changed it.
-/

namespace Dbotter.Program

variable {σ ι E ε α κ : Type}

/-- The steps lead from the first state to the last one. -/
def Path : σ → List (Entry σ E) → σ → Prop
  | s, [], s' => s = s'
  | s, x :: log, s' => x.before = s ∧ Path x.after log s'

namespace Path
variable {s s' : σ} {log later : List (Entry σ E)}

theorem append : Path s (log ++ later) s' ↔ ∃ middle, Path s log middle ∧ Path middle later s' := by
  induction log generalizing s with
  | nil => simp [Path]
  | cons x log ih => simp [Path, ih, and_assoc]

theorem snoc (h : Path s log s') {x : Entry σ E} (hx : x.before = s') :
    Path s (log ++ [x]) x.after :=
  append.2 ⟨s', h, hx, rfl⟩

/-- Steps from one state lead to one state. -/
theorem same {s'' : σ} (h : Path s log s') (h' : Path s log s'') : s' = s'' := by
  induction log generalizing s with
  | nil => exact h.symm.trans h'
  | cons x log ih => exact ih h.2 h'.2

/-- What the steps keep holds from the first state on. -/
theorem keeps {I : σ → Prop} (h : Path s log s') (hs : I s)
    (hstep : ∀ x ∈ log, I x.before → I x.after) : (∀ x ∈ log, I x.before) ∧ I s' := by
  induction log generalizing s with
  | nil =>
    cases h
    exact ⟨fun x hx => (nomatch hx), hs⟩
  | cons x log ih =>
    obtain ⟨rfl, hpath⟩ := h
    have hnext := ih hpath (hstep x List.mem_cons_self hs) fun y hy =>
      hstep y (List.mem_cons_of_mem _ hy)
    refine ⟨fun y hy => ?_, hnext.2⟩
    rcases List.mem_cons.1 hy with rfl | hy
    · exact hs
    · exact hnext.1 y hy

end Path

namespace System
variable {begin : κ → Task σ ι E ε α} {s : σ} {sys : System σ ι E ε α κ}

theorem step_path (h : Path s sys.trace sys.shared) (action : Action ι κ) :
    Path s (sys.step begin action).trace (sys.step begin action).shared := by
  cases action with
  | start command => exact h
  | advance i answer =>
    simp only [step]
    split
    next command task hc =>
      cases task with
      | done r => simpa [advanceTask] using h
      | atomic act emit next => exact h.snoc rfl
      | acquire next =>
        simp only [advanceTask]
        split
        · exact h
        · exact h
      | release next => simpa [advanceTask] using h
    · exact h
  | drop i =>
    simp only [step]
    split
    · simpa using h
    · exact h

/-- The trace of a run leads from the state it started in to the shared state. -/
theorem run_path (s : σ) (actions : List (Action ι κ)) :
    Path s (run begin ⟨s, none, [], []⟩ actions).trace
      (run begin ⟨s, none, [], []⟩ actions).shared := by
  induction actions using List.reverseRecOn with
  | nil => exact rfl
  | append_singleton actions action ih =>
    simp only [run, List.foldl_append, List.foldl_cons, List.foldl_nil]
    exact step_path ih action

end System

end Dbotter.Program
