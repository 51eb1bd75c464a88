import Dbotter.Program.Interleaving

/-!
Tasks whose waits may be cut short, and runs in which the guarantee of a call depends on its
command.

A task that is selected against an interruption takes no further step once it is interrupted. A
run is followed with one ghost value for every call, which starts as its command says.
-/

namespace Dbotter.Program

variable {σ ι ι' E ε ε' α Γ Δ χ κ : Type}

namespace Task

/-- The task itself, where the outside world says more than the task asks for. -/
def answering (f : ι' → ι) : Task σ ι E ε α → Task σ ι' E ε α
  | done r => done r
  | atomic act emit next =>
      atomic (fun i s => act (f i) s) (fun i s => emit (f i) s) fun i s => (next (f i) s).answering f
  | acquire next => acquire (next.answering f)
  | release next => release (next.answering f)

/-- The task, or the interruption that ends one of its waits; what is left of it is dropped. -/
def select (stop : ι → Option χ) : Task σ ι E ε α → Task σ ι E ε' (Except χ (Except ε α))
  | done r => done (.ok (.ok r))
  | atomic act emit next =>
      atomic (fun i s => if (stop i).isSome then s else act i s)
        (fun i s => if (stop i).isSome then none else emit i s)
        fun i s => match stop i with
          | some why => done (.ok (.error why))
          | none => (next i s).select stop
  | acquire next => acquire (next.select stop)
  | release next => release (next.select stop)

section
variable {G : Γ → σ → Option E → σ → Γ → Prop} {Q : Γ → Except ε α → Prop} {γ : Γ}

theorem Sat.answering {f : ι' → ι} {t : Task σ ι E ε α} (h : t.Sat G Q γ) :
    (t.answering f).Sat G Q γ := by
  induction t generalizing γ with
  | done r => exact h
  | atomic act emit next ih =>
    intro i s
    obtain ⟨γ', hG, hn⟩ := h (f i) s
    exact ⟨γ', hG, ih (f i) s hn⟩
  | acquire next ih => exact ih h
  | release next ih => exact ih h

/-- Where nothing may always happen, a selected task keeps what the task itself keeps. -/
theorem Sat.select {stop : ι → Option χ} {t : Task σ ι E ε α}
    {R : Γ → Except ε' (Except χ (Except ε α)) → Prop} (h : t.Sat G Q γ)
    (hstill : ∀ γ s, G γ s none s γ) (hready : ∀ γ r, Q γ r → R γ (.ok (.ok r)))
    (hstop : ∀ γ why, R γ (.ok (.error why))) : (t.select stop).Sat G R γ := by
  induction t generalizing γ with
  | done r => exact hready γ r h
  | atomic act emit next ih =>
    intro i s
    obtain ⟨γ', hG, hn⟩ := h i s
    cases hi : stop i with
    | some why =>
      simp only [hi, Option.isSome_some, if_true]
      exact ⟨γ, hstill γ s, hstop γ why⟩
    | none =>
      simp only [hi, Option.isSome_none, Bool.false_eq_true, if_false]
      exact ⟨γ', hG, ih i s hn⟩
  | acquire next ih => exact ih h
  | release next ih => exact ih h

/-- Two guarantees of one task, with a ghost value for each. -/
theorem Sat.prod {G' : Δ → σ → Option E → σ → Δ → Prop} {Q' : Δ → Except ε α → Prop} {δ : Δ}
    {t : Task σ ι E ε α} (h : t.Sat G Q γ) (h' : t.Sat G' Q' δ) :
    t.Sat (fun x s e s' x' => G x.1 s e s' x'.1 ∧ G' x.2 s e s' x'.2)
      (fun x r => Q x.1 r ∧ Q' x.2 r) (γ, δ) := by
  induction t generalizing γ δ with
  | done r => exact ⟨h, h'⟩
  | atomic act emit next ih =>
    intro i s
    obtain ⟨γ', hG, hn⟩ := h i s
    obtain ⟨δ', hG', hn'⟩ := h' i s
    exact ⟨(γ', δ'), ⟨hG, hG'⟩, ih i s hn hn'⟩
  | acquire next ih => exact ih h h'
  | release next ih => exact ih h h'

/-- What every step keeps of the ghost value holds in the end. -/
theorem Sat.keeping {I : Γ → Prop} {t : Task σ ι E ε α} (h : t.Sat G Q γ) (hγ : I γ)
    (hI : ∀ γ s e s' γ', G γ s e s' γ' → I γ → I γ') :
    t.Sat G (fun γ r => I γ ∧ Q γ r) γ := by
  induction t generalizing γ with
  | done r => exact ⟨hγ, h⟩
  | atomic act emit next ih =>
    intro i s
    obtain ⟨γ', hG, hn⟩ := h i s
    exact ⟨γ', hG, ih i s hn (hI γ s _ _ γ' hG hγ)⟩
  | acquire next ih => exact ih h hγ
  | release next ih => exact ih h hγ

/-- The same guarantee, told with other ghost values. -/
theorem Sat.image {G' : Δ → σ → Option E → σ → Δ → Prop} {Q' : Δ → Except ε α → Prop}
    {t : Task σ ι E ε α} (h : t.Sat G Q γ) (f : Γ → Δ)
    (hG : ∀ γ s e s' γ', G γ s e s' γ' → G' (f γ) s e s' (f γ'))
    (hQ : ∀ γ r, Q γ r → Q' (f γ) r) : t.Sat G' Q' (f γ) := by
  induction t generalizing γ with
  | done r => exact hQ γ r h
  | atomic act emit next ih =>
    intro i s
    obtain ⟨γ', hγ, hn⟩ := h i s
    exact ⟨f γ', hG γ s _ _ γ' hγ, ih i s hn⟩
  | acquire next ih => exact ih h
  | release next ih => exact ih h

end

end Task

namespace System

/-- Every call keeps the guarantee of its command from its own ghost value on. -/
def Follows (G : κ → Γ → σ → Option E → σ → Γ → Prop) (Q : κ → Γ → Except ε α → Prop)
    (ghost : Nat → Γ) (sys : System σ ι E ε α κ) : Prop :=
  ∀ i c, sys.calls[i]? = some c → Progress.Sat (G c.command) (Q c.command) (ghost i) c.progress

/-- What an action does to the calls: a call starts, a step of a running call is recorded, or one
call goes on, ends or is dropped without a step. -/
inductive Course (G : κ → Γ → σ → Option E → σ → Γ → Prop) (begin : κ → Task σ ι E ε α)
    (γ₀ : κ → Γ) (ghost : Nat → Γ) (sys : System σ ι E ε α κ) :
    Action ι κ → (Nat → Γ) → System σ ι E ε α κ → Prop
  | start {sys' : System σ ι E ε α κ} (command : κ) (shared : sys'.shared = sys.shared)
      (trace : sys'.trace = sys.trace)
      (calls : sys'.calls = sys.calls ++ [⟨command, .running (begin command)⟩]) :
      Course G begin γ₀ ghost sys (.start command)
        (Function.update ghost sys.calls.length (γ₀ command)) sys'
  | act {sys' : System σ ι E ε α κ} {i : Nat} {answer : ι} {command : κ}
      {task next : Task σ ι E ε α} {event : Option E} {γ' : Γ}
      (running : sys.calls[i]? = some ⟨command, .running task⟩)
      (guaranteed : G command (ghost i) sys.shared event sys'.shared γ')
      (trace : sys'.trace = sys.trace ++ [⟨i, sys.shared, event, sys'.shared⟩])
      (calls : sys'.calls = (sys.setProgress i (.running next)).calls) :
      Course G begin γ₀ ghost sys (.advance i answer) (Function.update ghost i γ') sys'
  | still {sys' : System σ ι E ε α κ} {action : Action ι κ} {i : Nat} {command : κ}
      {task : Task σ ι E ε α} {p : Progress σ ι E ε α}
      (running : sys.calls[i]? = some ⟨command, .running task⟩)
      (cause : action = .drop i ∧ p = .dropped ∨ ∃ answer, action = .advance i answer)
      (shared : sys'.shared = sys.shared) (trace : sys'.trace = sys.trace)
      (calls : sys'.calls = (sys.setProgress i p).calls) :
      Course G begin γ₀ ghost sys action ghost sys'
  | idle {action : Action ι κ} : Course G begin γ₀ ghost sys action ghost sys

variable {G : κ → Γ → σ → Option E → σ → Γ → Prop} {Q : κ → Γ → Except ε α → Prop}
  {begin : κ → Task σ ι E ε α} {γ₀ : κ → Γ} {ghost : Nat → Γ} {sys : System σ ι E ε α κ}

theorem Follows.congr {sys' : System σ ι E ε α κ} (h : Follows G Q ghost sys)
    (hcalls : sys'.calls = sys.calls) : Follows G Q ghost sys' := by
  unfold Follows
  rw [hcalls]
  exact h

theorem Follows.setProgress {i : Nat} {c : Call σ ι E ε α κ} {p : Progress σ ι E ε α} {γ : Γ}
    (h : Follows G Q ghost sys) (hc : sys.calls[i]? = some c)
    (hp : Progress.Sat (G c.command) (Q c.command) γ p) :
    Follows G Q (Function.update ghost i γ) (sys.setProgress i p) := by
  intro j d hd
  rw [setProgress_calls_getElem?] at hd
  by_cases hij : i = j
  · subst hij
    rw [if_pos rfl, hc] at hd
    cases hd
    simpa using hp
  · rw [if_neg hij] at hd
    rw [Function.update_of_ne (Ne.symm hij)]
    exact h j d hd

/-- A call that goes on without a step keeps its ghost value. -/
theorem Follows.still {i : Nat} {c : Call σ ι E ε α κ} {p : Progress σ ι E ε α}
    (h : Follows G Q ghost sys) (hc : sys.calls[i]? = some c)
    (hp : Progress.Sat (G c.command) (Q c.command) (ghost i) p) :
    Follows G Q ghost (sys.setProgress i p) := by
  have hset := h.setProgress hc hp
  rwa [Function.update_eq_self] at hset

theorem Follows.start (hbegin : ∀ command, (begin command).Sat (G command) (Q command) (γ₀ command))
    (h : Follows G Q ghost sys) (command : κ) :
    Follows G Q (Function.update ghost sys.calls.length (γ₀ command))
      (sys.step begin (.start command)) := by
  intro i c hc
  change (sys.calls ++ [_])[i]? = some c at hc
  rcases Nat.lt_trichotomy i sys.calls.length with hlt | rfl | hgt
  · rw [List.getElem?_append_left hlt] at hc
    rw [Function.update_of_ne (Nat.ne_of_lt hlt)]
    exact h i c hc
  · rw [List.getElem?_concat_length] at hc
    cases hc
    rw [Function.update_self]
    exact hbegin command
  · rw [List.getElem?_eq_none (by simp; omega)] at hc
    cases hc

theorem step_follows
    (hbegin : ∀ command, (begin command).Sat (G command) (Q command) (γ₀ command))
    (h : Follows G Q ghost sys) (action : Action ι κ) :
    ∃ ghost', Follows G Q ghost' (sys.step begin action) ∧
      Course G begin γ₀ ghost sys action ghost' (sys.step begin action) := by
  cases action with
  | start command => exact ⟨_, h.start hbegin command, .start command rfl rfl rfl⟩
  | advance i answer =>
    simp only [step]
    split
    next command task hc =>
      have htask := h i _ hc
      cases task with
      | done r =>
        have hleft : (sys.leaveLane i).calls[i]? = some ⟨command, .running (.done r)⟩ := by
          rw [leaveLane_calls]
          exact hc
        have hended := (h.congr (leaveLane_calls sys i)).still (p := .finished r) hleft htask
        exact ⟨ghost, hended, .still (p := .finished r) hc (.inr ⟨answer, rfl⟩) (leaveLane_shared sys i)
          (leaveLane_trace sys i) (by simp [setProgress, advanceTask])⟩
      | atomic act emit next =>
        obtain ⟨γ', hG, hn⟩ := htask answer sys.shared
        exact ⟨_, (h.setProgress (p := .running (next answer sys.shared)) hc hn).congr rfl,
          .act hc hG rfl rfl⟩
      | acquire next =>
        simp only [advanceTask]
        split
        · exact ⟨ghost, (h.still (p := .running next) hc htask).congr rfl,
            .still hc (.inr ⟨answer, rfl⟩) rfl rfl rfl⟩
        · exact ⟨ghost, h, .idle⟩
      | release next =>
        have hleft : (sys.leaveLane i).calls[i]? = some ⟨command, .running (.release next)⟩ := by
          rw [leaveLane_calls]
          exact hc
        have hgone := (h.congr (leaveLane_calls sys i)).still (p := .running next) hleft htask
        exact ⟨ghost, hgone, .still (p := .running next) hc (.inr ⟨answer, rfl⟩) (leaveLane_shared sys i)
          (leaveLane_trace sys i) (by simp [setProgress, advanceTask])⟩
    · exact ⟨ghost, h, .idle⟩
  | drop i =>
    simp only [step]
    split
    next command task hc =>
      have hleft : (sys.leaveLane i).calls[i]? = some ⟨command, .running task⟩ := by
        rw [leaveLane_calls]
        exact hc
      have hdropped := (h.congr (leaveLane_calls sys i)).still (p := .dropped) hleft trivial
      exact ⟨ghost, hdropped, .still (p := .dropped) hc (.inl ⟨rfl, rfl⟩) (leaveLane_shared sys i)
        (leaveLane_trace sys i) (by simp [setProgress])⟩
    · exact ⟨ghost, h, .idle⟩

/-- A call after an action was there before, or has been started by it. What was not running has
stayed as it was, and what was running has moved only if the action was about it. -/
theorem Course.call {action : Action ι κ} {ghost' : Nat → Γ} {sys' : System σ ι E ε α κ}
    (h : Course G begin γ₀ ghost sys action ghost' sys') {j : Nat} {command : κ}
    {p' : Progress σ ι E ε α} (hj : sys'.calls[j]? = some ⟨command, p'⟩) :
    action = .start command ∧ j = sys.calls.length ∧ p' = .running (begin command) ∨
      ∃ p, sys.calls[j]? = some ⟨command, p⟩ ∧
        (p' = p ∨ (∃ task, p = .running task) ∧
          (action = .drop j ∧ p' = .dropped ∨ ∃ answer, action = .advance j answer)) := by
  have hmoved : ∀ {i : Nat} {c : Call σ ι E ε α κ} {q : Progress σ ι E ε α},
      sys.calls[i]? = some c → sys'.calls = (sys.setProgress i q).calls →
      i ≠ j ∧ sys.calls[j]? = some ⟨command, p'⟩ ∨ i = j ∧ c.command = command ∧ q = p' := by
    intro i c q hc hcalls
    rw [hcalls, setProgress_calls_getElem?] at hj
    by_cases hij : i = j
    · subst hij
      rw [if_pos rfl, hc] at hj
      cases hj
      exact .inr ⟨rfl, rfl, rfl⟩
    · rw [if_neg hij] at hj
      exact .inl ⟨hij, hj⟩
  cases h with
  | start started shared trace calls =>
    rw [calls] at hj
    rcases Nat.lt_trichotomy j sys.calls.length with hlt | rfl | hgt
    · rw [List.getElem?_append_left hlt] at hj
      exact .inr ⟨p', hj, .inl rfl⟩
    · rw [List.getElem?_concat_length] at hj
      cases hj
      exact .inl ⟨rfl, rfl, rfl⟩
    · rw [List.getElem?_eq_none (by simp; omega)] at hj
      cases hj
  | act running guaranteed trace calls =>
    rcases hmoved running calls with ⟨-, hsame⟩ | ⟨rfl, rfl, -⟩
    · exact .inr ⟨p', hsame, .inl rfl⟩
    · exact .inr ⟨_, running, .inr ⟨⟨_, rfl⟩, .inr ⟨_, rfl⟩⟩⟩
  | still running cause shared trace calls =>
    rcases hmoved running calls with ⟨-, hsame⟩ | ⟨rfl, rfl, rfl⟩
    · exact .inr ⟨p', hsame, .inl rfl⟩
    · exact .inr ⟨_, running, .inr ⟨⟨_, rfl⟩, cause.symm.symm⟩⟩
  | idle => exact .inr ⟨p', hj, .inl rfl⟩

/-- The calls that there are stay. -/
theorem Course.keeps_call {action : Action ι κ} {ghost' : Nat → Γ} {sys' : System σ ι E ε α κ}
    (h : Course G begin γ₀ ghost sys action ghost' sys') {j : Nat} {command : κ}
    {p : Progress σ ι E ε α} (hj : sys.calls[j]? = some ⟨command, p⟩) :
    ∃ p', sys'.calls[j]? = some ⟨command, p'⟩ := by
  have hmoved : ∀ {i : Nat} {q : Progress σ ι E ε α}, sys'.calls = (sys.setProgress i q).calls →
      ∃ p', sys'.calls[j]? = some ⟨command, p'⟩ := by
    intro i q hcalls
    rw [hcalls, setProgress_calls_getElem?, hj]
    split
    · exact ⟨q, rfl⟩
    · exact ⟨p, rfl⟩
  cases h with
  | start started shared trace calls =>
    refine ⟨p, ?_⟩
    rw [calls, List.getElem?_append_left (List.getElem?_eq_some_iff.mp hj).1]
    exact hj
  | act running guaranteed trace calls => exact hmoved calls
  | still running cause shared trace calls => exact hmoved calls
  | idle => exact ⟨p, hj⟩

end System

end Dbotter.Program
