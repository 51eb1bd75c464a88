import Mathlib.Data.Set.Basic
import Mathlib.Logic.Function.Basic

/-!
Tasks that share a state, and their interleavings.

A task is a sequence of atomic steps; between two of them every other task may run. `ι` is
what the outside world answers to a step and `E` what is recorded of it. One lane is shared
by all tasks: a task waits for it with `acquire` and loses it when it ends or is dropped.
-/

namespace Dbotter.Program

inductive Task (σ ι E ε α : Type)
  | done (result : Except ε α)
  | atomic (act : ι → σ → σ) (emit : ι → σ → Option E) (next : ι → σ → Task σ ι E ε α)
  | acquire (next : Task σ ι E ε α)
  | release (next : Task σ ι E ε α)

variable {σ ι E ε ε' α β Γ κ H : Type}

/-- What one atomic step does: the state it leaves, its result and its record. -/
structure Effect (σ E β : Type) where
  state : σ
  value : β
  event : Option E := none

namespace Task

def bind : Task σ ι E ε α → (α → Task σ ι E ε β) → Task σ ι E ε β
  | done (.ok a), f => f a
  | done (.error e), _ => done (.error e)
  | atomic act emit next, f => atomic act emit fun i s => (next i s).bind f
  | acquire next, f => acquire (next.bind f)
  | release next, f => release (next.bind f)

instance : Monad (Task σ ι E ε) where
  pure a := done (.ok a)
  bind := bind

def fail (e : ε) : Task σ ι E ε α := done (.error e)

def ofExcept (r : Except ε α) : Task σ ι E ε α := done r

def step (f : ι → σ → Effect σ E (Except ε α)) : Task σ ι E ε α :=
  atomic (fun i s => (f i s).state) (fun i s => (f i s).event) fun i s => done (f i s).value

/-- Takes the lane, waiting while another task has it. -/
def lane : Task σ ι E ε Unit := acquire (done (.ok ()))

def unlane : Task σ ι E ε Unit := release (done (.ok ()))

/-- Turns a failure into a value. -/
def attempt : Task σ ι E ε α → Task σ ι E ε' (Except ε α)
  | done r => done (.ok r)
  | atomic act emit next => atomic act emit fun i s => (next i s).attempt
  | acquire next => acquire next.attempt
  | release next => release next.attempt

def mapError (f : ε → ε') : Task σ ι E ε α → Task σ ι E ε' α
  | done r => done (r.mapError f)
  | atomic act emit next => atomic act emit fun i s => (next i s).mapError f
  | acquire next => acquire (next.mapError f)
  | release next => release (next.mapError f)

@[simp] theorem pure_eq (a : α) : (pure a : Task σ ι E ε α) = done (.ok a) := rfl

@[simp] theorem bind_eq (t : Task σ ι E ε α) (f : α → Task σ ι E ε β) :
    t >>= f = t.bind f := rfl

/-! ## Guarantees of a task

`t.Sat G Q γ` says that the task `t`, holding the ghost value `γ`, keeps `G` at every step of
its own, whatever state the step finds, and ends with `Q`. -/

def Sat (G : Γ → σ → Option E → σ → Γ → Prop) (Q : Γ → Except ε α → Prop) :
    Task σ ι E ε α → Γ → Prop
  | done r, γ => Q γ r
  | atomic act emit next, γ =>
      ∀ i s, ∃ γ', G γ s (emit i s) (act i s) γ' ∧ (next i s).Sat G Q γ'
  | acquire next, γ => next.Sat G Q γ
  | release next, γ => next.Sat G Q γ

section
variable {G : Γ → σ → Option E → σ → Γ → Prop} {Q : Γ → Except ε α → Prop} {γ : Γ}

theorem Sat.weaken {Q' : Γ → Except ε α → Prop} {t : Task σ ι E ε α} (h : t.Sat G Q γ)
    (hQ : ∀ γ r, Q γ r → Q' γ r) : t.Sat G Q' γ := by
  induction t generalizing γ with
  | done r => exact hQ γ r h
  | atomic act emit next ih =>
      intro i s
      obtain ⟨γ', hG, hn⟩ := h i s
      exact ⟨γ', hG, ih i s hn⟩
  | acquire next ih => exact ih h
  | release next ih => exact ih h

/-- A sequence of two tasks: what the first one leaves, the second one starts from. -/
theorem Sat.bind {t : Task σ ι E ε α} {f : α → Task σ ι E ε β}
    {R : Γ → Except ε β → Prop} (h : t.Sat G Q γ)
    (hok : ∀ γ a, Q γ (.ok a) → (f a).Sat G R γ)
    (herror : ∀ γ e, Q γ (.error e) → R γ (.error e)) : (t.bind f).Sat G R γ := by
  induction t generalizing γ with
  | done r =>
      cases r with
      | ok a => exact hok γ a h
      | error e => exact herror γ e h
  | atomic act emit next ih =>
      intro i s
      obtain ⟨γ', hG, hn⟩ := h i s
      exact ⟨γ', hG, ih i s hn⟩
  | acquire next ih => exact ih h
  | release next ih => exact ih h

theorem Sat.attempt {t : Task σ ι E ε α} {R : Γ → Except ε' (Except ε α) → Prop}
    (h : t.Sat G Q γ) (hQ : ∀ γ r, Q γ r → R γ (.ok r)) : t.attempt.Sat G R γ := by
  induction t generalizing γ with
  | done r => exact hQ γ r h
  | atomic act emit next ih =>
      intro i s
      obtain ⟨γ', hG, hn⟩ := h i s
      exact ⟨γ', hG, ih i s hn⟩
  | acquire next ih => exact ih h
  | release next ih => exact ih h

theorem Sat.mapError {t : Task σ ι E ε α} {f : ε → ε'} {R : Γ → Except ε' α → Prop}
    (h : t.Sat G Q γ) (hQ : ∀ γ r, Q γ r → R γ (r.mapError f)) : (t.mapError f).Sat G R γ := by
  induction t generalizing γ with
  | done r => exact hQ γ r h
  | atomic act emit next ih =>
      intro i s
      obtain ⟨γ', hG, hn⟩ := h i s
      exact ⟨γ', hG, ih i s hn⟩
  | acquire next ih => exact ih h
  | release next ih => exact ih h

/-- A guarantee may be weakened, and its ghost values forgotten. -/
theorem Sat.forget {t : Task σ ι E ε α} {P : σ → Option E → σ → Prop} (h : t.Sat G Q γ)
    (hP : ∀ γ s e s' γ', G γ s e s' γ' → P s e s') :
    t.Sat (fun (_ : Unit) s e s' _ => P s e s') (fun _ _ => True) () := by
  induction t generalizing γ with
  | done r => trivial
  | atomic act emit next ih =>
      intro i s
      obtain ⟨γ', hG, hn⟩ := h i s
      exact ⟨(), hP γ s _ _ γ' hG, ih i s hn⟩
  | acquire next ih => exact ih h
  | release next ih => exact ih h

theorem Sat.mono {t : Task σ ι E ε α} {G' : Γ → σ → Option E → σ → Γ → Prop} (h : t.Sat G Q γ)
    (hG : ∀ γ s e s' γ', G γ s e s' γ' → G' γ s e s' γ') : t.Sat G' Q γ := by
  induction t generalizing γ with
  | done r => exact h
  | atomic act emit next ih =>
      intro i s
      obtain ⟨γ', hγ, hn⟩ := h i s
      exact ⟨γ', hG γ s _ _ γ' hγ, ih i s hn⟩
  | acquire next ih => exact ih h
  | release next ih => exact ih h

theorem Sat.step {f : ι → σ → Effect σ E (Except ε α)}
    (h : ∀ i s, ∃ γ', G γ s (f i s).event (f i s).state γ' ∧ Q γ' (f i s).value) :
    (Task.step f).Sat G Q γ := h

end

/-! ## Tasks that give back what they found

`t.Steady G` says that `t` keeps `G` and ends with the ghost value it started with. -/

def Steady (G : Γ → σ → Option E → σ → Γ → Prop) (t : Task σ ι E ε α) : Prop :=
  ∀ γ, t.Sat G (fun γ' _ => γ' = γ) γ

namespace Steady
variable {G : Γ → σ → Option E → σ → Γ → Prop}

theorem done (r : Except ε α) : (Task.done r : Task σ ι E ε α).Steady G := fun _ => rfl

theorem step {f : ι → σ → Effect σ E (Except ε α)}
    (h : ∀ γ i s, G γ s (f i s).event (f i s).state γ) : (Task.step f).Steady G :=
  fun γ i s => ⟨γ, h γ i s, rfl⟩

theorem lane : (Task.lane : Task σ ι E ε Unit).Steady G := fun _ => rfl

theorem unlane : (Task.unlane : Task σ ι E ε Unit).Steady G := fun _ => rfl

theorem bind {t : Task σ ι E ε α} {f : α → Task σ ι E ε β} (ht : t.Steady G)
    (hf : ∀ a, (f a).Steady G) : (t >>= f).Steady G := by
  intro γ
  apply (ht γ).bind
  · rintro _ a rfl
    exact hf a _
  · rintro _ _ rfl
    rfl

/-- A task after one that gives back what it found. -/
theorem andThen {t : Task σ ι E ε α} {f : α → Task σ ι E ε β} {R : Γ → Except ε β → Prop}
    {γ : Γ} (ht : t.Steady G) (hok : ∀ a, (f a).Sat G R γ) (herror : ∀ e, R γ (.error e)) :
    (t >>= f).Sat G R γ := by
  apply (ht γ).bind
  · rintro _ a rfl
    exact hok a
  · rintro _ e rfl
    exact herror e

theorem attempt {t : Task σ ι E ε α} (ht : t.Steady G) :
    (t.attempt : Task σ ι E ε' (Except ε α)).Steady G :=
  fun γ => (ht γ).attempt fun _ _ h => h

theorem mapError {t : Task σ ι E ε α} {f : ε → ε'} (ht : t.Steady G) :
    (t.mapError f).Steady G :=
  fun γ => (ht γ).mapError fun _ _ h => h

end Steady

end Task

end Dbotter.Program
