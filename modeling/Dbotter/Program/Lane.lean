import Dbotter.Program.Interleaving

/-!
A lane that protects a part of the state.

Only the task that has the lane changes `view`, so while it has the lane it finds the view as it
left it. `Guarded` is the condition on a single task: `held` is what it knows of the view, nothing
outside the lane. A ghost value that a task has outside the lane is `idle`. The run rule carries
this over to every interleaving.
-/

namespace Dbotter.Program

variable {σ ι E ε ε' α β Γ κ ω : Type}

namespace Task

def Guarded (view : σ → ω) (idle : Γ → Prop) (G : Γ → σ → Option E → σ → Γ → Prop)
    (Q : Option ω → Γ → Except ε α → Prop) : Task σ ι E ε α → Option ω → Γ → Prop
  | done r, held, γ => Q held γ r
  | atomic act emit next, held, γ =>
      ∀ i s, (∀ w, held = some w → view s = w) →
        ∃ γ', G γ s (emit i s) (act i s) γ' ∧
          (held = none → view (act i s) = view s ∧ idle γ') ∧
          (next i s).Guarded view idle G Q (held.map fun _ => view (act i s)) γ'
  | acquire next, held, γ => held = none ∧ ∀ w, next.Guarded view idle G Q (some w) γ
  | release next, _, γ => idle γ ∧ next.Guarded view idle G Q none γ

section
variable {view : σ → ω} {idle : Γ → Prop} {G : Γ → σ → Option E → σ → Γ → Prop}
  {Q : Option ω → Γ → Except ε α → Prop} {held : Option ω} {γ : Γ}

theorem Guarded.weaken {Q' : Option ω → Γ → Except ε α → Prop} {t : Task σ ι E ε α}
    (h : t.Guarded view idle G Q held γ) (hQ : ∀ held γ r, Q held γ r → Q' held γ r) :
    t.Guarded view idle G Q' held γ := by
  induction t generalizing held γ with
  | done r => exact hQ held γ r h
  | atomic act emit next ih =>
    intro i s hs
    obtain ⟨γ', hG, hview, hn⟩ := h i s hs
    exact ⟨γ', hG, hview, ih i s hn⟩
  | acquire next ih => exact ⟨h.1, fun w => ih (h.2 w)⟩
  | release next ih => exact ⟨h.1, ih h.2⟩

theorem Guarded.bind {t : Task σ ι E ε α} {f : α → Task σ ι E ε β}
    {R : Option ω → Γ → Except ε β → Prop} (h : t.Guarded view idle G Q held γ)
    (hok : ∀ held γ a, Q held γ (.ok a) → (f a).Guarded view idle G R held γ)
    (herror : ∀ held γ e, Q held γ (.error e) → R held γ (.error e)) :
    (t.bind f).Guarded view idle G R held γ := by
  induction t generalizing held γ with
  | done r =>
    cases r with
    | ok a => exact hok held γ a h
    | error e => exact herror held γ e h
  | atomic act emit next ih =>
    intro i s hs
    obtain ⟨γ', hG, hview, hn⟩ := h i s hs
    exact ⟨γ', hG, hview, ih i s hn⟩
  | acquire next ih => exact ⟨h.1, fun w => ih (h.2 w)⟩
  | release next ih => exact ⟨h.1, ih h.2⟩

theorem Guarded.attempt {t : Task σ ι E ε α} {R : Option ω → Γ → Except ε' (Except ε α) → Prop}
    (h : t.Guarded view idle G Q held γ) (hQ : ∀ held γ r, Q held γ r → R held γ (.ok r)) :
    t.attempt.Guarded view idle G R held γ := by
  induction t generalizing held γ with
  | done r => exact hQ held γ r h
  | atomic act emit next ih =>
    intro i s hs
    obtain ⟨γ', hG, hview, hn⟩ := h i s hs
    exact ⟨γ', hG, hview, ih i s hn⟩
  | acquire next ih => exact ⟨h.1, fun w => ih (h.2 w)⟩
  | release next ih => exact ⟨h.1, ih h.2⟩

theorem Guarded.mapError {t : Task σ ι E ε α} {f : ε → ε'}
    {R : Option ω → Γ → Except ε' α → Prop} (h : t.Guarded view idle G Q held γ)
    (hQ : ∀ held γ r, Q held γ r → R held γ (r.mapError f)) :
    (t.mapError f).Guarded view idle G R held γ := by
  induction t generalizing held γ with
  | done r => exact hQ held γ r h
  | atomic act emit next ih =>
    intro i s hs
    obtain ⟨γ', hG, hview, hn⟩ := h i s hs
    exact ⟨γ', hG, hview, ih i s hn⟩
  | acquire next ih => exact ⟨h.1, fun w => ih (h.2 w)⟩
  | release next ih => exact ⟨h.1, ih h.2⟩

/-- A step outside the lane. -/
theorem Guarded.step_out {f : ι → σ → Effect σ E (Except ε α)}
    (h : ∀ i s, ∃ γ', G γ s (f i s).event (f i s).state γ' ∧ view (f i s).state = view s ∧
      idle γ' ∧ Q none γ' (f i s).value) : (Task.step f).Guarded view idle G Q none γ := by
  intro i s _
  obtain ⟨γ', hG, hview, hidle, hQ⟩ := h i s
  exact ⟨γ', hG, fun _ => ⟨hview, hidle⟩, hQ⟩

/-- A step in the lane. -/
theorem Guarded.step_in {f : ι → σ → Effect σ E (Except ε α)} {w : ω}
    (h : ∀ i s, view s = w → ∃ γ', G γ s (f i s).event (f i s).state γ' ∧
      Q (some (view (f i s).state)) γ' (f i s).value) :
    (Task.step f).Guarded view idle G Q (some w) γ := by
  intro i s hs
  obtain ⟨γ', hG, hQ⟩ := h i s (hs w rfl)
  exact ⟨γ', hG, fun hnone => (nomatch hnone), hQ⟩

/-- Every step of the task is as `P` says, the lane is left alone, and the task ends with `R`. -/
def Steps (P : σ → Option E → σ → Prop) (R : Except ε α → Prop) : Task σ ι E ε α → Prop
  | done r => R r
  | atomic act emit next => ∀ i s, P s (emit i s) (act i s) ∧ (next i s).Steps P R
  | acquire _ => False
  | release _ => False

section
variable {P : σ → Option E → σ → Prop} {R : Except ε α → Prop} {t : Task σ ι E ε α}

theorem Steps.step {f : ι → σ → Effect σ E (Except ε α)}
    (h : ∀ i s, P s (f i s).event (f i s).state ∧ R (f i s).value) : (Task.step f).Steps P R :=
  fun i s => h i s

theorem Steps.weaken {R' : Except ε α → Prop} (h : t.Steps P R) (hR : ∀ r, R r → R' r) :
    t.Steps P R' := by
  induction t with
  | done r => exact hR r h
  | atomic act emit next ih => exact fun i s => ⟨(h i s).1, ih i s (h i s).2⟩
  | acquire next ih => exact h
  | release next ih => exact h

theorem Steps.bind {S : Except ε β → Prop} {f : α → Task σ ι E ε β} (h : t.Steps P R)
    (hok : ∀ a, R (.ok a) → (f a).Steps P S) (herror : ∀ e, R (.error e) → S (.error e)) :
    (t >>= f).Steps P S := by
  rw [bind_eq]
  induction t with
  | done r =>
    cases r with
    | ok a => exact hok a h
    | error e => exact herror e h
  | atomic act emit next ih => exact fun i s => ⟨(h i s).1, ih i s (h i s).2⟩
  | acquire next ih => exact h.elim
  | release next ih => exact h.elim

theorem Steps.attempt {S : Except ε' (Except ε α) → Prop} (h : t.Steps P R)
    (hS : ∀ r, R r → S (.ok r)) : t.attempt.Steps P S := by
  induction t with
  | done r => exact hS r h
  | atomic act emit next ih => exact fun i s => ⟨(h i s).1, ih i s (h i s).2⟩
  | acquire next ih => exact h
  | release next ih => exact h

theorem Steps.mapError {S : Except ε' α → Prop} {f : ε → ε'} (h : t.Steps P R)
    (hS : ∀ r, R r → S (r.mapError f)) : (t.mapError f).Steps P S := by
  induction t with
  | done r => exact hS r h
  | atomic act emit next ih => exact fun i s => ⟨(h i s).1, ih i s (h i s).2⟩
  | acquire next ih => exact h
  | release next ih => exact h

end

/-- Steps that leave the view and keep the ghost value. -/
theorem Guarded.of_steps {R : Except ε α → Prop} {t : Task σ ι E ε α}
    (h : t.Steps (fun s e s' => G γ s e s' γ ∧ view s' = view s) R) (hidle : held = none → idle γ)
    (hQ : ∀ r, R r → Q held γ r) : t.Guarded view idle G Q held γ := by
  induction t with
  | done r => exact hQ r h
  | atomic act emit next ih =>
    intro i s hs
    obtain ⟨⟨hG, hview⟩, hn⟩ := h i s
    refine ⟨γ, hG, fun hnone => ⟨hview, hidle hnone⟩, ?_⟩
    have hheld : (held.map fun _ => view (act i s)) = held := by
      cases held with
      | none => rfl
      | some w => rw [Option.map_some, hview, hs w rfl]
    rw [hheld]
    exact ih i s hn
  | acquire next ih => exact h.elim
  | release next ih => exact h.elim

theorem Guarded.lane {Q : Option ω → Γ → Except ε Unit → Prop} (h : ∀ w, Q (some w) γ (.ok ())) :
    (Task.lane : Task σ ι E ε Unit).Guarded view idle G Q none γ := ⟨rfl, h⟩

theorem Guarded.unlane {Q : Option ω → Γ → Except ε Unit → Prop} (hidle : idle γ)
    (h : Q none γ (.ok ())) :
    (Task.unlane : Task σ ι E ε Unit).Guarded view idle G Q held γ := ⟨hidle, h⟩

end

end Task

/-! ## Runs -/

namespace System

/-- What a call knows of the protected view. -/
def held (view : σ → ω) (sys : System σ ι E ε α κ) (i : Nat) : Option ω :=
  if sys.owner = some i then some (view sys.shared) else none

structure Guards (view : σ → ω) (idle : Γ → Prop) (G : Γ → σ → Option E → σ → Γ → Prop)
    (Q : κ → Γ → Except ε α → Prop) (ghost : Nat → Γ) (sys : System σ ι E ε α κ) : Prop where
  running : ∀ (i : Nat) (c : κ) (task : Task σ ι E ε α), sys.calls[i]? = some ⟨c, .running task⟩ →
    task.Guarded view idle G (fun held γ r => held = none ∧ Q c γ r) (sys.held view i) (ghost i)
  finished : ∀ (i : Nat) (c : κ) (r : Except ε α), sys.calls[i]? = some ⟨c, .finished r⟩ → Q c (ghost i) r
  idle : ∀ i, sys.owner ≠ some i → idle (ghost i)
  owner : ∀ i, sys.owner = some i → ∃ (c : κ) (task : Task σ ι E ε α),
    sys.calls[i]? = some ⟨c, .running task⟩

variable {view : σ → ω} {idle : Γ → Prop} {G : Γ → σ → Option E → σ → Γ → Prop}
  {Q : κ → Γ → Except ε α → Prop} {γ₀ : κ → Γ} {rest : Γ → Γ} {begin : κ → Task σ ι E ε α}

/-- What one action does to a guarded system and its ghost values. A call that is dropped goes to
`rest`. -/
inductive Moves (begin : κ → Task σ ι E ε α) (view : σ → ω)
    (G : Γ → σ → Option E → σ → Γ → Prop) (Q : κ → Γ → Except ε α → Prop) (γ₀ : κ → Γ)
    (rest : Γ → Γ)
    (ghost : Nat → Γ) (sys : System σ ι E ε α κ) :
    Action ι κ → (Nat → Γ) → System σ ι E ε α κ → Prop
  | start (command : κ) :
      Moves begin view G Q γ₀ rest ghost sys (.start command)
        (Function.update ghost sys.calls.length (γ₀ command))
        { sys with calls := sys.calls ++ [⟨command, .running (begin command)⟩] }
  | idle (action : Action ι κ) : Moves begin view G Q γ₀ rest ghost sys action ghost sys
  | step {i : Nat} {c : κ} {task next : Task σ ι E ε α} {event : Option E} {s' : σ} {γ' : Γ}
      (answer : ι) (hc : sys.calls[i]? = some ⟨c, .running task⟩)
      (hG : G (ghost i) sys.shared event s' γ')
      (hview : sys.owner ≠ some i → view s' = view sys.shared) :
      Moves begin view G Q γ₀ rest ghost sys (.advance i answer) (Function.update ghost i γ')
        { sys.setProgress i (.running next) with
          shared := s'
          trace := sys.trace ++ [⟨i, sys.shared, event, s'⟩] }
  | finish {i : Nat} {c : κ} {r : Except ε α} (answer : ι)
      (hc : sys.calls[i]? = some ⟨c, .running (.done r)⟩) (hQ : Q c (ghost i) r) :
      Moves begin view G Q γ₀ rest ghost sys (.advance i answer) ghost
        ((sys.leaveLane i).setProgress i (.finished r))
  | acquire {i : Nat} {c : κ} {next : Task σ ι E ε α} (answer : ι)
      (hc : sys.calls[i]? = some ⟨c, .running (.acquire next)⟩) (hfree : sys.owner = none) :
      Moves begin view G Q γ₀ rest ghost sys (.advance i answer) ghost
        { sys.setProgress i (.running next) with owner := some i }
  | release {i : Nat} {c : κ} {next : Task σ ι E ε α} (answer : ι)
      (hc : sys.calls[i]? = some ⟨c, .running (.release next)⟩) :
      Moves begin view G Q γ₀ rest ghost sys (.advance i answer) ghost
        ((sys.leaveLane i).setProgress i (.running next))
  | drop {i : Nat} {c : κ} {task : Task σ ι E ε α}
      (hc : sys.calls[i]? = some ⟨c, .running task⟩) :
      Moves begin view G Q γ₀ rest ghost sys (.drop i) (Function.update ghost i (rest (ghost i)))
        ((sys.leaveLane i).setProgress i .dropped)

theorem leaveLane_owner (sys : System σ ι E ε α κ) (i : Nat) :
    (sys.leaveLane i).owner = if sys.owner = some i then none else sys.owner := by
  unfold leaveLane
  split <;> rfl

@[simp] theorem setProgress_calls_length (sys : System σ ι E ε α κ) (i : Nat)
    (p : Progress σ ι E ε α) : (sys.setProgress i p).calls.length = sys.calls.length := by
  simp [setProgress]

@[simp] theorem setProgress_owner (sys : System σ ι E ε α κ) (i : Nat)
    (p : Progress σ ι E ε α) : (sys.setProgress i p).owner = sys.owner := rfl

theorem held_congr {sys sys' : System σ ι E ε α κ} (howner : sys'.owner = sys.owner)
    (hshared : view sys'.shared = view sys.shared) (i : Nat) :
    sys'.held view i = sys.held view i := by
  unfold held
  rw [howner, hshared]

theorem held_leaveLane (sys : System σ ι E ε α κ) {i j : Nat} (hij : i ≠ j) :
    (sys.leaveLane i).held view j = sys.held view j := by
  unfold held
  rw [leaveLane_owner, leaveLane_shared]
  by_cases howner : sys.owner = some i
  · have hother : sys.owner ≠ some j := by
      rw [howner]
      exact fun h => hij (Option.some.inj h)
    rw [if_pos howner, if_neg hother]
    rfl
  · rw [if_neg howner]

theorem owner_of_leaveLane {sys : System σ ι E ε α κ} {i j : Nat}
    (h : (sys.leaveLane i).owner = some j) : i ≠ j ∧ sys.owner = some j := by
  rw [leaveLane_owner] at h
  by_cases howner : sys.owner = some i
  · rw [if_pos howner] at h
    cases h
  · rw [if_neg howner] at h
    refine ⟨fun hij => howner ?_, h⟩
    rw [hij, h]

/-- A call that leaves the lane and goes on, or ends. -/
theorem Guards.leave {ghost : Nat → Γ} {sys : System σ ι E ε α κ} {i : Nat} {c : κ}
    {task : Task σ ι E ε α} {p : Progress σ ι E ε α} {γ' : Γ} (h : Guards view idle G Q ghost sys)
    (hc : sys.calls[i]? = some ⟨c, .running task⟩) (hidle : idle γ')
    (hrunning : ∀ next, p = .running next → next.Guarded view idle G
      (fun held γ r => held = none ∧ Q c γ r) none γ')
    (hfinished : ∀ r, p = .finished r → Q c γ' r) :
    Guards view idle G Q (Function.update ghost i γ') ((sys.leaveLane i).setProgress i p) := by
  have hcalls (j : Nat) : ((sys.leaveLane i).setProgress i p).calls[j]? =
      if i = j then some ⟨c, p⟩ else sys.calls[j]? := by
    rw [setProgress_calls_getElem?, leaveLane_calls]
    by_cases hij : i = j
    · subst hij
      rw [if_pos rfl, if_pos rfl, hc]
      rfl
    · rw [if_neg hij, if_neg hij]
  have howner : (sys.leaveLane i).owner ≠ some i := fun hself => (owner_of_leaveLane hself).1 rfl
  refine ⟨?_, ?_, ?_, ?_⟩
  · intro j d next hd
    rw [hcalls] at hd
    by_cases hij : i = j
    · subst hij
      rw [if_pos rfl] at hd
      cases hd
      have hheld : ((sys.leaveLane i).setProgress i (.running next)).held view i = none :=
        if_neg howner
      rw [hheld, Function.update_self]
      exact hrunning next rfl
    · rw [if_neg hij] at hd
      have hheld : ((sys.leaveLane i).setProgress i p).held view j = sys.held view j :=
        (held_congr rfl rfl j).trans (held_leaveLane sys hij)
      rw [hheld, Function.update_of_ne (Ne.symm hij)]
      exact h.running j d next hd
  · intro j d r hd
    rw [hcalls] at hd
    by_cases hij : i = j
    · subst hij
      rw [if_pos rfl] at hd
      cases hd
      rw [Function.update_self]
      exact hfinished r rfl
    · rw [if_neg hij] at hd
      rw [Function.update_of_ne (Ne.symm hij)]
      exact h.finished j d r hd
  · intro j hj
    by_cases hij : i = j
    · subst hij
      rw [Function.update_self]
      exact hidle
    · rw [Function.update_of_ne (Ne.symm hij)]
      refine h.idle j fun hself => hj ?_
      rw [setProgress_owner, leaveLane_owner, if_neg, hself]
      rw [hself]
      exact fun heq => hij (Option.some.inj heq).symm
  · intro j hj
    rw [setProgress_owner] at hj
    obtain ⟨hij, hj⟩ := owner_of_leaveLane hj
    obtain ⟨d, next, hd⟩ := h.owner j hj
    refine ⟨d, next, ?_⟩
    rw [hcalls, if_neg hij]
    exact hd

/-- An atomic step of one call. -/
theorem Guards.act {ghost : Nat → Γ} {sys : System σ ι E ε α κ} {i : Nat} {c : κ}
    {task next : Task σ ι E ε α} {s' : σ} {γ' : Γ} {trace : List (Entry σ E)}
    (h : Guards view idle G Q ghost sys) (hc : sys.calls[i]? = some ⟨c, .running task⟩)
    (hview : sys.owner ≠ some i → view s' = view sys.shared ∧ idle γ')
    (hnext : next.Guarded view idle G (fun held γ r => held = none ∧ Q c γ r)
      ((sys.held view i).map fun _ => view s') γ') :
    Guards view idle G Q (Function.update ghost i γ')
      { sys.setProgress i (.running next) with shared := s', trace } := by
  have hcalls (j : Nat) : (sys.setProgress i (.running next)).calls[j]? =
      if i = j then some ⟨c, .running next⟩ else sys.calls[j]? := by
    rw [setProgress_calls_getElem?]
    by_cases hij : i = j
    · subst hij
      rw [if_pos rfl, if_pos rfl, hc]
      rfl
    · rw [if_neg hij, if_neg hij]
  refine ⟨?_, ?_, ?_, ?_⟩
  · intro j d task' hd
    change (sys.setProgress i (.running next)).calls[j]? = _ at hd
    rw [hcalls] at hd
    by_cases hij : i = j
    · subst hij
      rw [if_pos rfl] at hd
      cases hd
      rw [Function.update_self]
      have hheld : held view { sys.setProgress i (.running next) with shared := s', trace } i =
          (sys.held view i).map fun _ => view s' := by
        change (if sys.owner = some i then some (view s') else none) = _
        unfold held
        split <;> rfl
      rw [hheld]
      exact hnext
    · rw [if_neg hij] at hd
      rw [Function.update_of_ne (Ne.symm hij)]
      have hheld : held view { sys.setProgress i (.running next) with shared := s', trace } j =
          sys.held view j := by
        change (if sys.owner = some j then some (view s') else none) = _
        unfold held
        by_cases howner : sys.owner = some j
        · have hother : sys.owner ≠ some i := by
            rw [howner]
            exact fun heq => hij (Option.some.inj heq).symm
          rw [if_pos howner, if_pos howner, (hview hother).1]
        · rw [if_neg howner, if_neg howner]
      rw [hheld]
      exact h.running j d task' hd
  · intro j d r hd
    change (sys.setProgress i (.running next)).calls[j]? = _ at hd
    rw [hcalls] at hd
    by_cases hij : i = j
    · subst hij
      rw [if_pos rfl] at hd
      cases hd
    · rw [if_neg hij] at hd
      rw [Function.update_of_ne (Ne.symm hij)]
      exact h.finished j d r hd
  · intro j hj
    by_cases hij : i = j
    · subst hij
      rw [Function.update_self]
      exact (hview hj).2
    · rw [Function.update_of_ne (Ne.symm hij)]
      exact h.idle j hj
  · intro j hj
    obtain ⟨d, task', hd⟩ := h.owner j hj
    show ∃ c task, (sys.setProgress i (.running next)).calls[j]? = some ⟨c, .running task⟩
    rw [hcalls]
    by_cases hij : i = j
    · rw [if_pos hij]
      exact ⟨c, next, rfl⟩
    · rw [if_neg hij]
      exact ⟨d, task', hd⟩

/-- A call that takes the lane. -/
theorem Guards.enter {ghost : Nat → Γ} {sys : System σ ι E ε α κ} {i : Nat} {c : κ}
    {next : Task σ ι E ε α} (h : Guards view idle G Q ghost sys)
    (hc : sys.calls[i]? = some ⟨c, .running (.acquire next)⟩) (hfree : sys.owner = none) :
    Guards view idle G Q ghost { sys.setProgress i (.running next) with owner := some i } := by
  have hcalls (j : Nat) : (sys.setProgress i (.running next)).calls[j]? =
      if i = j then some ⟨c, .running next⟩ else sys.calls[j]? := by
    rw [setProgress_calls_getElem?]
    by_cases hij : i = j
    · subst hij
      rw [if_pos rfl, if_pos rfl, hc]
      rfl
    · rw [if_neg hij, if_neg hij]
  have hguard := (h.running i c _ hc).2 (view sys.shared)
  refine ⟨?_, ?_, ?_, ?_⟩
  · intro j d task hd
    change (sys.setProgress i (.running next)).calls[j]? = _ at hd
    rw [hcalls] at hd
    by_cases hij : i = j
    · subst hij
      rw [if_pos rfl] at hd
      cases hd
      rw [show held view { sys.setProgress i (.running next) with owner := some i } i =
        some (view sys.shared) from if_pos rfl]
      exact hguard
    · rw [if_neg hij] at hd
      have hheld := h.running j d task hd
      rw [show sys.held view j = none from if_neg (by rw [hfree]; exact fun heq => nomatch heq)]
        at hheld
      rw [show held view { sys.setProgress i (.running next) with owner := some i } j = none from
        if_neg fun heq => hij (Option.some.inj heq)]
      exact hheld
  · intro j d r hd
    change (sys.setProgress i (.running next)).calls[j]? = _ at hd
    rw [hcalls] at hd
    by_cases hij : i = j
    · subst hij
      rw [if_pos rfl] at hd
      cases hd
    · rw [if_neg hij] at hd
      exact h.finished j d r hd
  · intro j _
    exact h.idle j (by rw [hfree]; exact fun heq => nomatch heq)
  · intro j hj
    cases hj
    refine ⟨c, next, ?_⟩
    show (sys.setProgress i (.running next)).calls[i]? = _
    rw [hcalls, if_pos rfl]

/-- A call that begins. -/
theorem Guards.start {ghost : Nat → Γ} {sys : System σ ι E ε α κ} (command : κ)
    (hbegin : (begin command).Guarded view idle G (fun held γ r => held = none ∧ Q command γ r)
      none (γ₀ command)) (hidle : idle (γ₀ command)) (h : Guards view idle G Q ghost sys) :
    Guards view idle G Q (Function.update ghost sys.calls.length (γ₀ command))
      { sys with calls := sys.calls ++ [⟨command, .running (begin command)⟩] } := by
  have hnew {j : Nat} {d : Call σ ι E ε α κ}
      (hd : (sys.calls ++ [⟨command, .running (begin command)⟩])[j]? = some d) :
      (j ≠ sys.calls.length ∧ sys.calls[j]? = some d) ∨
        (j = sys.calls.length ∧ d = ⟨command, .running (begin command)⟩) := by
    rw [List.getElem?_append] at hd
    split at hd
    next hlt => exact .inl ⟨by omega, hd⟩
    next hge =>
      have hzero : j - sys.calls.length = 0 := by
        by_contra hne
        rw [List.getElem?_eq_none (by simp; omega)] at hd
        cases hd
      rw [hzero] at hd
      cases hd
      exact .inr ⟨by omega, rfl⟩
  have howner : sys.owner ≠ some sys.calls.length := by
    intro heq
    obtain ⟨d, task, hd⟩ := h.owner _ heq
    rw [List.getElem?_eq_none le_rfl] at hd
    cases hd
  refine ⟨?_, ?_, ?_, ?_⟩
  · intro j d task hd
    rcases hnew hd with ⟨hj, hd⟩ | ⟨rfl, heq⟩
    · rw [Function.update_of_ne hj]
      exact h.running j d task hd
    · cases heq
      rw [Function.update_self]
      rw [show held view { sys with calls := sys.calls ++ [⟨command, .running (begin command)⟩] }
        sys.calls.length = none from if_neg howner]
      exact hbegin
  · intro j d r hd
    rcases hnew hd with ⟨hj, hd⟩ | ⟨rfl, heq⟩
    · rw [Function.update_of_ne hj]
      exact h.finished j d r hd
    · cases heq
  · intro j hj
    by_cases hij : j = sys.calls.length
    · subst hij
      rw [Function.update_self]
      exact hidle
    · rw [Function.update_of_ne hij]
      exact h.idle j hj
  · intro j hj
    obtain ⟨d, task, hd⟩ := h.owner j hj
    refine ⟨d, task, ?_⟩
    show (sys.calls ++ _)[j]? = _
    rw [List.getElem?_append_left (List.getElem?_eq_some_iff.mp hd).1]
    exact hd

/-- The inversion of one action: a guarded system moves to a guarded system. -/
theorem step_guarded {started : κ → Prop}
    (hbegin : ∀ command, started command → (begin command).Guarded view idle G
      (fun held γ r => held = none ∧ Q command γ r) none (γ₀ command))
    (hidle : ∀ command, started command → idle (γ₀ command)) (hrest : ∀ γ, idle (rest γ))
    {ghost : Nat → Γ} {sys : System σ ι E ε α κ} (h : Guards view idle G Q ghost sys)
    (action : Action ι κ) (hstarted : ∀ command, action = .start command → started command) :
    ∃ ghost', Guards view idle G Q ghost' (sys.step begin action) ∧
      Moves begin view G Q γ₀ rest ghost sys action ghost' (sys.step begin action) := by
  cases action with
  | start command =>
    have hcommand := hstarted command rfl
    exact ⟨_, h.start command (hbegin command hcommand) (hidle command hcommand), .start command⟩
  | advance i answer =>
    simp only [step]
    split
    next command task hc =>
      have htask := h.running i command task hc
      cases task with
      | done r =>
        have howner : sys.owner ≠ some i := by
          intro heq
          have hheld := htask.1
          rw [held, if_pos heq] at hheld
          cases hheld
        have hleave := h.leave (p := .finished r) hc (h.idle i howner) (fun next heq => by cases heq)
          fun r' heq => by
            cases heq
            exact htask.2
        rw [Function.update_eq_self] at hleave
        exact ⟨ghost, hleave, .finish answer hc htask.2⟩
      | atomic act emit next =>
        have hheld : ∀ w, sys.held view i = some w → view sys.shared = w := by
          intro w hw
          unfold held at hw
          split at hw
          · exact Option.some.inj hw
          · cases hw
        obtain ⟨γ', hG, hview, hnext⟩ := htask answer sys.shared hheld
        have hout : sys.owner ≠ some i →
            view (act answer sys.shared) = view sys.shared ∧ idle γ' :=
          fun howner => hview (if_neg howner)
        exact ⟨_, h.act hc hout hnext, .step answer hc hG fun howner => (hout howner).1⟩
      | acquire next =>
        simp only [advanceTask]
        split
        next hfree => exact ⟨ghost, h.enter hc hfree, .acquire answer hc hfree⟩
        · exact ⟨ghost, h, .idle _⟩
      | release next =>
        have hleave := h.leave (p := .running next) hc htask.1
          (fun next' heq => by
            cases heq
            exact htask.2) fun r' heq => by cases heq
        rw [Function.update_eq_self] at hleave
        exact ⟨ghost, hleave, .release answer hc⟩
    · exact ⟨ghost, h, .idle _⟩
  | drop i =>
    simp only [step]
    split
    next command task hc =>
      have hleave := h.leave (p := .dropped) hc (hrest (ghost i)) (fun next heq => by cases heq)
        fun r heq => by cases heq
      exact ⟨_, hleave, .drop hc⟩
    · exact ⟨ghost, h, .idle _⟩

/-- The run rule: `J` holds after every run whose actions keep it. -/
theorem run_guarded {started : κ → Prop} {J : (Nat → Γ) → System σ ι E ε α κ → Prop}
    (hbegin : ∀ command, started command → (begin command).Guarded view idle G
      (fun held γ r => held = none ∧ Q command γ r) none (γ₀ command))
    (hidle : ∀ command, started command → idle (γ₀ command)) (hrest : ∀ γ, idle (rest γ))
    (hJ : ∀ ghost sys action ghost' sys', Guards view idle G Q ghost sys → J ghost sys →
      Moves begin view G Q γ₀ rest ghost sys action ghost' sys' → J ghost' sys')
    {ghost : Nat → Γ} {sys : System σ ι E ε α κ} (h : Guards view idle G Q ghost sys)
    (hj : J ghost sys) (actions : List (Action ι κ))
    (hstarted : ∀ command, .start command ∈ actions → started command) :
    ∃ ghost', Guards view idle G Q ghost' (run begin sys actions) ∧
      J ghost' (run begin sys actions) := by
  induction actions using List.reverseRecOn with
  | nil => exact ⟨ghost, h, hj⟩
  | append_singleton actions action ih =>
    obtain ⟨ghost', h', hj'⟩ := ih fun command hmem => hstarted command (by simp [hmem])
    obtain ⟨ghost'', h'', hmoves⟩ := step_guarded hbegin hidle hrest h' action fun command heq =>
      hstarted command (by simp [heq])
    simp only [run, List.foldl_append, List.foldl_cons, List.foldl_nil]
    exact ⟨ghost'', h'', hJ _ _ action _ _ h' hj' hmoves⟩

theorem Guards.initial {ghost : Nat → Γ} (hidle : ∀ i, idle (ghost i)) (s : σ) :
    Guards view idle G Q ghost (⟨s, none, [], []⟩ : System σ ι E ε α κ) := by
  refine ⟨?_, ?_, ?_, ?_⟩
  · intro i c task h
    simp at h
  · intro i c r h
    simp at h
  · exact fun i _ => hidle i
  · intro i h
    cases h

/-! ## Runs by their entries -/

/-- Where the lane is while a call takes a step: the call is outside and leaves the view, or every
other call is outside. -/
def Apart (view : σ → ω) (idle : Γ → Prop) (ghost : Nat → Γ) (i : Nat) (s s' : σ) : Prop :=
  (idle (ghost i) ∧ view s' = view s) ∨ ∀ j, j ≠ i → idle (ghost j)

theorem Guards.apart {ghost : Nat → Γ} {sys : System σ ι E ε α κ} {i : Nat} {s' : σ}
    (h : Guards view idle G Q ghost sys)
    (hview : sys.owner ≠ some i → view s' = view sys.shared) :
    Apart view idle ghost i sys.shared s' := by
  by_cases howner : sys.owner = some i
  · refine .inr fun j hj => h.idle j ?_
    rw [howner]
    exact fun heq => hj (Option.some.inj heq).symm
  · exact .inl ⟨h.idle i howner, hview howner⟩

theorem getElem?_setProgress {sys : System σ ι E ε α κ} {i : Nat} {c : κ}
    {q : Progress σ ι E ε α} (hc : sys.calls[i]? = some ⟨c, q⟩) (p : Progress σ ι E ε α) {j : Nat}
    {d : κ} {r : Progress σ ι E ε α} (hd : (sys.setProgress i p).calls[j]? = some ⟨d, r⟩) :
    ∃ r', sys.calls[j]? = some ⟨d, r'⟩ := by
  rw [setProgress_calls_getElem?] at hd
  by_cases hij : i = j
  · subst hij
    rw [if_pos rfl, hc] at hd
    cases hd
    exact ⟨q, hc⟩
  · rw [if_neg hij] at hd
    exact ⟨r, hd⟩

/-- The run rule for what is said of the ghost values, the number of calls, the trace and the state.
`K` is what a call keeps of its command. -/
theorem run_traced (γ₀ : κ → Γ) (rest : Γ → Γ) (ghost : Nat → Γ) (started : κ → Prop)
    {K : κ → Γ → Prop}
    {J : (Nat → Γ) → Nat → List (Entry σ E) → σ → Prop}
    (hbegin : ∀ command, started command → (begin command).Guarded view idle G
      (fun held γ r => held = none ∧ Q command γ r) none (γ₀ command))
    (hidle : ∀ command, started command → idle (γ₀ command)) (hrest : ∀ γ, idle (rest γ))
    (hK : (∀ c, K c (γ₀ c)) ∧ (∀ c γ, K c γ → K c (rest γ)) ∧
      ∀ c γ s e s' γ', K c γ → G γ s e s' γ' → K c γ')
    (hstart : ∀ ghost n trace s c, J ghost n trace s →
      J (Function.update ghost n (γ₀ c)) (n + 1) trace s)
    (hdrop : ∀ ghost n trace s i, J ghost n trace s →
      J (Function.update ghost i (rest (ghost i))) n trace s)
    (hstep : ∀ ghost n trace s i e s' γ', J ghost n trace s → i < n → G (ghost i) s e s' γ' →
      Apart view idle ghost i s s' →
      J (Function.update ghost i γ') n (trace ++ [⟨i, s, e, s'⟩]) s')
    {s : σ} (hghost : ∀ i, idle (ghost i)) (hj : J ghost 0 [] s)
    (actions : List (Action ι κ)) (hstarted : ∀ command, .start command ∈ actions → started command) :
    ∃ ghost', Guards view idle G Q ghost' (run begin ⟨s, none, [], []⟩ actions) ∧
      J ghost' (run begin ⟨s, none, [], []⟩ actions).calls.length
        (run begin ⟨s, none, [], []⟩ actions).trace
        (run begin ⟨s, none, [], []⟩ actions).shared ∧
      ∀ (i : Nat) (c : κ) (p : Progress σ ι E ε α),
        (run begin ⟨s, none, [], []⟩ actions).calls[i]? = some ⟨c, p⟩ → K c (ghost' i) := by
  refine run_guarded (J := fun ghost sys => J ghost sys.calls.length sys.trace sys.shared ∧
    ∀ (i : Nat) (c : κ) (p : Progress σ ι E ε α), sys.calls[i]? = some ⟨c, p⟩ → K c (ghost i))
    hbegin hidle hrest ?_ (Guards.initial hghost s) ⟨hj, ?_⟩ actions hstarted
  case refine_2 =>
    intro i c p h
    simp at h
  intro ghost sys action ghost' sys' h hj hmoves
  obtain ⟨hj, hk⟩ := hj
  cases hmoves with
  | start command =>
    refine ⟨?_, fun i c p hd => ?_⟩
    · simpa using hstart ghost sys.calls.length sys.trace sys.shared command hj
    · simp only [List.getElem?_append] at hd
      split at hd
      next hlt =>
        rw [Function.update_of_ne (by omega)]
        exact hk i c p hd
      next hge =>
        have hlength := (List.getElem?_eq_some_iff.1 hd).1
        simp only [List.length_singleton] at hlength
        obtain rfl : i = sys.calls.length := by omega
        simp only [Nat.sub_self, List.getElem?_cons_zero, Option.some.injEq, Call.mk.injEq] at hd
        rw [Function.update_self, ← hd.1]
        exact hK.1 command
  | idle => exact ⟨hj, hk⟩
  | @step i c task next event s' γ' answer hc hG hview =>
    have hlength : i < sys.calls.length := (List.getElem?_eq_some_iff.1 hc).1
    refine ⟨?_, fun j d p hd => ?_⟩
    · have hkept := hstep ghost _ sys.trace sys.shared i event s' γ' hj hlength hG (h.apart hview)
      rwa [← setProgress_calls_length sys i (.running next)] at hkept
    · change (sys.setProgress i (.running next)).calls[j]? = _ at hd
      obtain ⟨p', hd'⟩ := getElem?_setProgress hc (.running next) hd
      by_cases hij : j = i
      · subst hij
        rw [Function.update_self]
        exact hK.2.2 d _ _ _ _ _ (hk j d p' hd') hG
      · rw [Function.update_of_ne hij]
        exact hk j d p' hd'
  | @finish i c r answer hc hQ =>
    refine ⟨by simpa using hj, fun j d p hd => ?_⟩
    have hc' : (sys.leaveLane i).calls[i]? = some ⟨c, .running (.done r)⟩ := by simpa using hc
    obtain ⟨p', hd⟩ := getElem?_setProgress hc' (.finished r) hd
    exact hk j d p' (by simpa using hd)
  | @acquire i c next answer hc hfree =>
    refine ⟨?_, fun j d p hd => ?_⟩
    · change J ghost (sys.setProgress i (.running next)).calls.length sys.trace sys.shared
      rwa [setProgress_calls_length]
    · change (sys.setProgress i (.running next)).calls[j]? = _ at hd
      obtain ⟨p', hd⟩ := getElem?_setProgress hc (.running next) hd
      exact hk j d p' hd
  | @release i c next answer hc =>
    refine ⟨by simpa using hj, fun j d p hd => ?_⟩
    have hc' : (sys.leaveLane i).calls[i]? = some ⟨c, .running (.release next)⟩ := by simpa using hc
    obtain ⟨p', hd⟩ := getElem?_setProgress hc' (.running next) hd
    exact hk j d p' (by simpa using hd)
  | @drop i c task hc =>
    refine ⟨by simpa using hdrop ghost _ _ _ i hj, fun j d p hd => ?_⟩
    have hc' : (sys.leaveLane i).calls[i]? = some ⟨c, .running task⟩ := by simpa using hc
    obtain ⟨p', hd⟩ := getElem?_setProgress hc' .dropped hd
    by_cases hij : j = i
    · subst hij
      rw [Function.update_self]
      exact hK.2.1 d _ (hk j d p' (by simpa using hd))
    · rw [Function.update_of_ne hij]
      exact hk j d p' (by simpa using hd)

end System

end Dbotter.Program
