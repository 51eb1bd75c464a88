import Mathlib.Data.List.Nodup

/-!
Items that a machine emits at most once.

A machine emits items as it goes along. Where the step that emits an item also retires it, where
an item that is retired stays so, and where no retired item is emitted, no run emits an item
twice. The items of a whole run are again such a family, so that a machine whose steps are runs
of a smaller machine needs nothing new.
-/

namespace Dbotter.Program

variable {σ α ι : Type*}

/-- The items of a run, in order. -/
def emitted (step : σ → α → σ) (emits : σ → α → List ι) : σ → List α → List ι
  | _, [] => []
  | s, a :: as => emits s a ++ emitted step emits (step s a) as

structure OneShot (step : σ → α → σ) (emits : σ → α → List ι) (inv : σ → Prop)
    (retired : σ → ι → Prop) : Prop where
  inv_step : ∀ {s}, inv s → ∀ a, inv (step s a)
  retired_step : ∀ {s i}, inv s → retired s i → ∀ a, retired (step s a) i
  live : ∀ {s a i}, inv s → i ∈ emits s a → ¬retired s i
  retires : ∀ {s a i}, inv s → i ∈ emits s a → retired (step s a) i
  nodup : ∀ {s}, inv s → ∀ a, (emits s a).Nodup

namespace OneShot

variable {step : σ → α → σ} {emits : σ → α → List ι} {inv : σ → Prop} {retired : σ → ι → Prop}

theorem retired_run (h : OneShot step emits inv retired) {s : σ} {i : ι} (hs : inv s)
    (hi : retired s i) (as : List α) : retired (as.foldl step s) i := by
  induction as generalizing s with
  | nil => exact hi
  | cons a as ih => exact ih (h.inv_step hs a) (h.retired_step hs hi a)

/-- What a run emits was not retired when the run started. -/
theorem live_run (h : OneShot step emits inv retired) {s : σ} {i : ι} (hs : inv s) {as : List α}
    (hi : i ∈ emitted step emits s as) : ¬retired s i := by
  induction as generalizing s with
  | nil => exact absurd hi List.not_mem_nil
  | cons a as ih =>
    intro hretired
    obtain hi | hi := List.mem_append.1 hi
    · exact h.live hs hi hretired
    · exact ih (h.inv_step hs a) hi (h.retired_step hs hretired a)

theorem retires_run (h : OneShot step emits inv retired) {s : σ} {i : ι} (hs : inv s)
    {as : List α} (hi : i ∈ emitted step emits s as) : retired (as.foldl step s) i := by
  induction as generalizing s with
  | nil => exact absurd hi List.not_mem_nil
  | cons a as ih =>
    obtain hi | hi := List.mem_append.1 hi
    · exact h.retired_run (h.inv_step hs a) (h.retires hs hi) as
    · exact ih (h.inv_step hs a) hi

theorem nodup_run (h : OneShot step emits inv retired) {s : σ} (hs : inv s) (as : List α) :
    (emitted step emits s as).Nodup := by
  induction as generalizing s with
  | nil => exact List.nodup_nil
  | cons a as ih =>
    -- What the first step emits is retired when the rest begins.
    refine List.nodup_append'.2 ⟨h.nodup hs a, ih (h.inv_step hs a), fun i hi hi' => ?_⟩
    exact h.live_run (h.inv_step hs a) hi' (h.retires hs hi)

end OneShot

end Dbotter.Program
