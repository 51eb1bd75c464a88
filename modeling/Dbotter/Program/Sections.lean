import Dbotter.Program.Fallible
import Dbotter.Program.Solo

/-!
Programs cut into sections that other tasks may come between.

`t.Runs i m` says that the task `t`, when it runs alone and the world always answers `i`, does
what the program `m` does.
-/

namespace Dbotter.Program.Task

variable {σ ι E ε α β : Type}

/-- The whole program as one step. -/
def atomically (m : ι → Prog σ ε α) : Task σ ι E ε α :=
  .step fun i s => ⟨(m i s).2, (m i s).1, none⟩

def Runs (i : ι) (t : Task σ ι E ε α) (m : Prog σ ε α) : Prop :=
  ∀ s, t.solo (fun _ => i) s = ((m s).2, (m s).1)

theorem solo_bind (i : ι) (t : Task σ ι E ε α) (f : α → Task σ ι E ε β) (s : σ) :
    (t.bind f).solo (fun _ => i) s =
      match t.solo (fun _ => i) s with
      | (s', .ok a) => (f a).solo (fun _ => i) s'
      | (s', .error e) => (s', .error e) := by
  induction t generalizing s with
  | done r => cases r <;> rfl
  | atomic act emit next ih => exact ih i s (act i s)
  | acquire next ih => exact ih s
  | release next ih => exact ih s

theorem solo_attempt (i : ι) (t : Task σ ι E ε α) (s : σ) :
    (t.attempt : Task σ ι E ε (Except ε α)).solo (fun _ => i) s =
      ((t.solo (fun _ => i) s).1, .ok (t.solo (fun _ => i) s).2) := by
  induction t generalizing s with
  | done r => rfl
  | atomic act emit next ih => exact ih i s (act i s)
  | acquire next ih => exact ih s
  | release next ih => exact ih s

namespace Runs
variable {i : ι}

theorem done (r : Except ε α) : Runs i (Task.done r : Task σ ι E ε α) (.ofExcept r) := fun _ => rfl

theorem pure (a : α) : Runs i (Task.done (.ok a) : Task σ ι E ε α) (Pure.pure a) := fun _ => rfl

theorem atomically (m : ι → Prog σ ε α) : Runs i (Task.atomically m : Task σ ι E ε α) (m i) :=
  fun _ => rfl

theorem lane : Runs i (Task.lane : Task σ ι E ε Unit) (Pure.pure ()) := fun _ => rfl

theorem unlane : Runs i (Task.unlane : Task σ ι E ε Unit) (Pure.pure ()) := fun _ => rfl

theorem bind {t : Task σ ι E ε α} {m : Prog σ ε α} {f : α → Task σ ι E ε β} {g : α → Prog σ ε β}
    (ht : Runs i t m) (hf : ∀ a, Runs i (f a) (g a)) : Runs i (t >>= f) (m >>= g) := by
  intro s
  rw [bind_eq, solo_bind, ht s]
  cases hm : m s with
  | mk r s' =>
      cases r with
      | ok a =>
          rw [Prog.run_bind_ok hm]
          exact hf a s'
      | error e => rw [Prog.run_bind_error hm]

theorem attempt {t : Task σ ι E ε α} {m : Prog σ ε α} (ht : Runs i t m) :
    Runs i (t.attempt : Task σ ι E ε (Except ε α)) m.attempt := by
  intro s
  rw [solo_attempt, ht s]
  rfl

end Runs

end Dbotter.Program.Task
