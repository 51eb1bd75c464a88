import Mathlib.Logic.Basic

/-!
Programs over a state that may fail, where a failure keeps the state it happened in.

`Ensures P m Q` says what holds of the result and of the state after `m` when `P`
held before it. The postcondition sees the whole result, so one statement covers
the successful and the failed runs.
-/

namespace Dbotter.Program

def Prog (σ ε α : Type) : Type := σ → Except ε α × σ

namespace Prog

variable {σ ε α β : Type}

protected def pure (a : α) : Prog σ ε α := fun s => (.ok a, s)

protected def bind (m : Prog σ ε α) (f : α → Prog σ ε β) : Prog σ ε β := fun s =>
  match m s with
  | (.ok a, s') => f a s'
  | (.error e, s') => (.error e, s')

instance : Monad (Prog σ ε) where
  pure := Prog.pure
  bind := Prog.bind

def fail (e : ε) : Prog σ ε α := fun s => (.error e, s)

def get : Prog σ ε σ := fun s => (.ok s, s)

def modify (f : σ → σ) : Prog σ ε Unit := fun s => (.ok (), f s)

def ofExcept (r : Except ε α) : Prog σ ε α := fun s => (r, s)

/-- The result of `m` as a value: nothing that `m` does is undone. -/
def attempt (m : Prog σ ε α) : Prog σ ε (Except ε α) := fun s => (.ok (m s).1, (m s).2)

def mapError {ε' : Type} (f : ε → ε') (m : Prog σ ε α) : Prog σ ε' α := fun s =>
  match m s with
  | (.ok a, s') => (.ok a, s')
  | (.error e, s') => (.error (f e), s')

/-- `final` runs on both ways out of `m`. -/
def cleanup (m : Prog σ ε α) (final : σ → σ) : Prog σ ε α := fun s => ((m s).1, final (m s).2)

theorem run_bind_ok {m : Prog σ ε α} {f : α → Prog σ ε β} {s s' : σ} {a : α}
    (h : m s = (.ok a, s')) : (m >>= f) s = f a s' := by
  show Prog.bind m f s = f a s'
  simp only [Prog.bind, h]

theorem run_bind_error {m : Prog σ ε α} {f : α → Prog σ ε β} {s s' : σ} {e : ε}
    (h : m s = (.error e, s')) : (m >>= f) s = (.error e, s') := by
  show Prog.bind m f s = (.error e, s')
  simp only [Prog.bind, h]

theorem bind_assoc {γ : Type} (m : Prog σ ε α) (f : α → Prog σ ε β) (g : β → Prog σ ε γ) :
    (m >>= f) >>= g = m >>= fun a => f a >>= g := by
  funext s
  show Prog.bind (Prog.bind m f) g s = Prog.bind m (fun a => Prog.bind (f a) g) s
  unfold Prog.bind
  rcases m s with ⟨r, s'⟩
  cases r <;> rfl

end Prog

def Ensures {σ ε α : Type} (P : σ → Prop) (m : Prog σ ε α) (Q : Except ε α → σ → Prop) : Prop :=
  ∀ s, P s → Q (m s).1 (m s).2

namespace Ensures

variable {σ ε α β : Type} {P P' : σ → Prop} {Q Q' : Except ε α → σ → Prop}

theorem weaken {m : Prog σ ε α} (h : Ensures P m Q) (hQ : ∀ r s, Q r s → Q' r s) :
    Ensures P m Q' := fun s hs => hQ _ _ (h s hs)

theorem strengthen {m : Prog σ ε α} (h : Ensures P m Q) (hP : ∀ s, P' s → P s) :
    Ensures P' m Q := fun s hs => h s (hP s hs)

theorem pure {a : α} (h : ∀ s, P s → Q (.ok a) s) : Ensures P (Pure.pure a : Prog σ ε α) Q := h

theorem fail {e : ε} (h : ∀ s, P s → Q (.error e) s) : Ensures P (Prog.fail e : Prog σ ε α) Q := h

theorem modify {f : σ → σ} {Q : Except ε Unit → σ → Prop} (h : ∀ s, P s → Q (.ok ()) (f s)) :
    Ensures P (Prog.modify f) Q := h

theorem ofExcept {r : Except ε α} (h : ∀ s, P s → Q r s) : Ensures P (Prog.ofExcept r) Q := h

/-- The rule of sequence: `m` establishes the intermediate condition `R` where it
succeeds, and the postcondition itself where it fails. -/
theorem bind {m : Prog σ ε α} {f : α → Prog σ ε β} {Q : Except ε β → σ → Prop}
    (R : α → σ → Prop)
    (hm : Ensures P m fun
      | .ok a => R a
      | .error e => Q (.error e))
    (hf : ∀ a, Ensures (R a) (f a) Q) : Ensures P (m >>= f) Q := by
  intro s hs
  have hmid := hm s hs
  show Q (Prog.bind m f s).1 (Prog.bind m f s).2
  unfold Prog.bind
  cases hrun : m s with
  | mk r s' =>
      rw [hrun] at hmid
      cases r with
      | ok a => exact hf a s' hmid
      | error e => exact hmid

/-- A step that keeps the precondition whatever its result is. -/
theorem keep_bind {m : Prog σ ε α} {f : α → Prog σ ε β} {Q : Except ε β → σ → Prop}
    (hm : Ensures P m fun _ => P) (he : ∀ e s, P s → Q (.error e) s)
    (hf : ∀ a, Ensures P (f a) Q) : Ensures P (m >>= f) Q := by
  refine bind (fun _ => P) (hm.weaken ?_) hf
  intro r s hs
  cases r with
  | ok a => exact hs
  | error e => exact he e s hs

theorem get {f : σ → Prog σ ε β} {Q : Except ε β → σ → Prop}
    (h : ∀ s₀, P s₀ → Ensures (· = s₀) (f s₀) Q) : Ensures P (Prog.get >>= f) Q :=
  fun s hs => h s hs s rfl

theorem attempt {m : Prog σ ε α} {Q : Except ε (Except ε α) → σ → Prop}
    (h : Ensures P m fun r => Q (.ok r)) : Ensures P m.attempt Q := h

theorem mapError {ε' : Type} {f : ε → ε'} {m : Prog σ ε α} {Q : Except ε' α → σ → Prop}
    (hm : Ensures P m fun
      | .ok a => Q (.ok a)
      | .error e => Q (.error (f e))) : Ensures P (m.mapError f) Q := by
  intro s hs
  have hrun := hm s hs
  unfold Prog.mapError
  cases h : m s with
  | mk r s' =>
      rw [h] at hrun
      cases r with
      | ok a => exact hrun
      | error e => exact hrun

theorem cleanup {m : Prog σ ε α} {final : σ → σ}
    (h : Ensures P m fun r s => Q r (final s)) : Ensures P (m.cleanup final) Q := h

theorem ite {c : Prop} [Decidable c] {m m' : Prog σ ε α} (h : c → Ensures P m Q)
    (h' : ¬ c → Ensures P m' Q) : Ensures P (if c then m else m') Q := by
  split
  · next hc => exact h hc
  · next hc => exact h' hc

end Ensures

end Dbotter.Program
