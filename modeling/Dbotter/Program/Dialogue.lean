import Mathlib.Data.List.Infix

/-!
Dialogues of a client with a server that others use as well.

A client sends one command after the other and waits for each reply. `κ` are the commands and
`ρ k` the replies to `k`. What the server answers may depend on the moment at which the command
comes, because other clients write between two commands.
-/

namespace Dbotter.Program

inductive Dialogue (κ : Type) (ρ : κ → Type) (ε α : Type)
  | done (result : Except ε α)
  | ask (command : κ) (next : ρ command → Dialogue κ ρ ε α)

variable {κ ε ε' α β : Type} {ρ : κ → Type}

namespace Dialogue

def bind : Dialogue κ ρ ε α → (α → Dialogue κ ρ ε β) → Dialogue κ ρ ε β
  | done (.ok a), f => f a
  | done (.error e), _ => done (.error e)
  | ask command next, f => ask command fun reply => (next reply).bind f

instance : Monad (Dialogue κ ρ ε) where
  pure a := done (.ok a)
  bind := bind

def fail (e : ε) : Dialogue κ ρ ε α := done (.error e)

def ofExcept (r : Except ε α) : Dialogue κ ρ ε α := done r

@[simp] theorem pure_eq (a : α) : (pure a : Dialogue κ ρ ε α) = done (.ok a) := rfl

@[simp] theorem bind_eq (d : Dialogue κ ρ ε α) (f : α → Dialogue κ ρ ε β) :
    d >>= f = d.bind f := rfl

/-! ## Runs -/

/-- The commands that are sent, behind those that were, and the result. The command at place `n`
gets the reply of `answer n`. -/
def run (answer : Nat → (command : κ) → ρ command) :
    Dialogue κ ρ ε α → List κ → List κ × Except ε α
  | done r, sent => (sent, r)
  | ask command next, sent =>
      (next (answer sent.length command)).run answer (sent ++ [command])

variable {answer : Nat → (command : κ) → ρ command} {sent : List κ}

theorem run_bind (d : Dialogue κ ρ ε α) (f : α → Dialogue κ ρ ε β) :
    (d.bind f).run answer sent =
      match d.run answer sent with
      | (sent', .ok a) => (f a).run answer sent'
      | (sent', .error e) => (sent', .error e) := by
  induction d generalizing sent with
  | done r => cases r <;> rfl
  | ask command next ih => exact ih _

/-! ## What a run comes to

`d.Meets answer Q sent` says that the run of `d` behind the commands `sent` comes to commands and
a result with `Q`. -/

def Meets (answer : Nat → (command : κ) → ρ command) (Q : List κ → Except ε α → Prop)
    (d : Dialogue κ ρ ε α) (sent : List κ) : Prop :=
  Q (d.run answer sent).1 (d.run answer sent).2

section
variable {Q : List κ → Except ε α → Prop}

@[simp] theorem meets_done {r : Except ε α} :
    (done r : Dialogue κ ρ ε α).Meets answer Q sent ↔ Q sent r := .rfl

@[simp] theorem meets_ask {command : κ} {next : ρ command → Dialogue κ ρ ε α} :
    (ask command next).Meets answer Q sent ↔
      (next (answer sent.length command)).Meets answer Q (sent ++ [command]) := .rfl

theorem Meets.weaken {Q' : List κ → Except ε α → Prop} {d : Dialogue κ ρ ε α}
    (h : d.Meets answer Q sent) (hQ : ∀ sent r, Q sent r → Q' sent r) : d.Meets answer Q' sent :=
  hQ _ _ h

/-- A sequence of two dialogues: what the first one sent stands before the second one. -/
theorem Meets.bind {d : Dialogue κ ρ ε α} {f : α → Dialogue κ ρ ε β}
    {R : List κ → Except ε β → Prop} (h : d.Meets answer Q sent)
    (hok : ∀ sent a, Q sent (.ok a) → (f a).Meets answer R sent)
    (herror : ∀ sent e, Q sent (.error e) → R sent (.error e)) :
    (d.bind f).Meets answer R sent := by
  unfold Meets at h ⊢
  rw [run_bind]
  rcases hrun : d.run answer sent with ⟨sent', r⟩
  rw [hrun] at h
  cases r with
  | ok a => exact hok sent' a h
  | error e => exact herror sent' e h

theorem meets_ofExcept_bind {r : Except ε α} {f : α → Dialogue κ ρ ε β}
    {R : List κ → Except ε β → Prop} :
    ((ofExcept r : Dialogue κ ρ ε α).bind f).Meets answer R sent ↔
      (∀ a, r = .ok a → (f a).Meets answer R sent) ∧ ∀ e, r = .error e → R sent (.error e) := by
  cases r with
  | ok a => exact ⟨fun h => ⟨fun _ h' => by cases h'; exact h, fun _ h' => (nomatch h')⟩,
      fun h => h.1 a rfl⟩
  | error e => exact ⟨fun h => ⟨fun _ h' => (nomatch h'), fun _ h' => by cases h'; exact h⟩,
      fun h => h.2 e rfl⟩

end

end Dialogue

end Dbotter.Program
