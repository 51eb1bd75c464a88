import Dbotter.Program.Commands
import Dbotter.Program.Lane

/-!
Guarantees in and out of the lane for tasks whose waits may be cut short, and what a guarantee says
of the steps that a task has taken.
-/

namespace Dbotter.Program

variable {σ ι ι' E ε ε' α Γ Δ χ κ ω : Type}

namespace Task

/-! ## Lanes -/

section
variable {view : σ → ω} {idle : Γ → Prop} {G : Γ → σ → Option E → σ → Γ → Prop}
  {Q : Option ω → Γ → Except ε α → Prop} {held : Option ω} {γ : Γ}

theorem Guarded.answering {f : ι' → ι} {t : Task σ ι E ε α}
    (h : t.Guarded view idle G Q held γ) : (t.answering f).Guarded view idle G Q held γ := by
  induction t generalizing held γ with
  | done r => exact h
  | atomic act emit next ih =>
    intro i s hs
    obtain ⟨γ', hG, hview, hn⟩ := h (f i) s hs
    exact ⟨γ', hG, hview, ih (f i) s hn⟩
  | acquire next ih => exact ⟨h.1, fun w => ih (h.2 w)⟩
  | release next ih => exact ⟨h.1, ih h.2⟩

/-- The same guarantee, told with other ghost values. -/
theorem Guarded.image {idle' : Δ → Prop} {G' : Δ → σ → Option E → σ → Δ → Prop}
    {Q' : Option ω → Δ → Except ε α → Prop} {t : Task σ ι E ε α}
    (h : t.Guarded view idle G Q held γ) (f : Γ → Δ)
    (hG : ∀ γ s e s' γ', G γ s e s' γ' → G' (f γ) s e s' (f γ'))
    (hidle : ∀ γ, idle γ → idle' (f γ)) (hQ : ∀ held γ r, Q held γ r → Q' held (f γ) r) :
    t.Guarded view idle' G' Q' held (f γ) := by
  induction t generalizing held γ with
  | done r => exact hQ held γ r h
  | atomic act emit next ih =>
    intro i s hs
    obtain ⟨γ', hγ, hview, hn⟩ := h i s hs
    refine ⟨f γ', hG γ s _ _ γ' hγ, ?_, ih i s hn⟩
    exact fun hnone => ⟨(hview hnone).1, hidle γ' (hview hnone).2⟩
  | acquire next ih => exact ⟨h.1, fun w => ih (h.2 w)⟩
  | release next ih => exact ⟨hidle γ h.1, ih h.2⟩

end

section
variable {P : σ → Option E → σ → Prop} {R : Except ε α → Prop} {t : Task σ ι E ε α}

theorem Steps.answering {f : ι' → ι} (h : t.Steps P R) : (t.answering f).Steps P R := by
  induction t with
  | done r => exact h
  | atomic act emit next ih => exact fun i s => ⟨(h (f i) s).1, ih (f i) s (h (f i) s).2⟩
  | acquire next ih => exact h
  | release next ih => exact h

/-- Where nothing may always happen, a selected task takes the steps of the task itself. -/
theorem Steps.select {stop : ι → Option χ} {S : Except ε' (Except χ (Except ε α)) → Prop}
    (h : t.Steps P R) (hstill : ∀ s, P s none s) (hready : ∀ r, R r → S (.ok (.ok r)))
    (hstop : ∀ why, S (.ok (.error why))) : (t.select stop).Steps P S := by
  induction t with
  | done r => exact hready r h
  | atomic act emit next ih =>
    intro i s
    obtain ⟨hP, hn⟩ := h i s
    cases hi : stop i with
    | some why =>
      simp only [hi, Option.isSome_some, if_true]
      exact ⟨hstill s, hstop why⟩
    | none =>
      simp only [hi, Option.isSome_none, Bool.false_eq_true, if_false]
      exact ⟨hP, ih i s hn⟩
  | acquire next ih => exact h
  | release next ih => exact h

end

/-- Nothing is asked of the task. -/
theorem Sat.trivial (t : Task σ ι E ε α) (γ : Γ) :
    t.Sat (fun _ _ _ _ _ => True) (fun _ _ => True) γ := by
  induction t with
  | done r => exact True.intro
  | atomic act emit next ih => exact fun i s => ⟨γ, True.intro, ih i s⟩
  | acquire next ih => exact ih
  | release next ih => exact ih

/-- A selected task that is cut short has come to a step, so `I` still holds. -/
theorem Sat.select_at {G : Γ → σ → Option E → σ → Γ → Prop} {Q : Γ → Except ε α → Prop} {γ : Γ}
    {I : Γ → Prop} {stop : ι → Option χ} {t : Task σ ι E ε α}
    {S : Γ → Except ε' (Except χ (Except ε α)) → Prop}
    (h : t.Sat (fun γ s e s' γ' => I γ ∧ G γ s e s' γ') Q γ) (hstill : ∀ γ s, G γ s none s γ)
    (hready : ∀ γ r, Q γ r → S γ (.ok (.ok r)))
    (hstop : ∀ γ why, I γ → S γ (.ok (.error why))) : (t.select stop).Sat G S γ := by
  induction t generalizing γ with
  | done r => exact hready γ r h
  | atomic act emit next ih =>
    intro i s
    obtain ⟨γ', ⟨hI, hG⟩, hn⟩ := h i s
    cases hi : stop i with
    | some why =>
      simp only [hi, Option.isSome_some, if_true]
      exact ⟨γ, hstill γ s, hstop γ why hI⟩
    | none =>
      simp only [hi, Option.isSome_none, Bool.false_eq_true, if_false]
      exact ⟨γ', hG, ih i s hn⟩
  | acquire next ih => exact ih h
  | release next ih => exact ih h

end Task

/-! ## Steps that were taken -/

namespace System

/-- The steps lead from the first ghost value to the last one. -/
inductive Told (G : Γ → σ → Option E → σ → Γ → Prop) (γ : Γ) : History σ E → Γ → Prop
  | nil : Told G γ [] γ
  | snoc {steps : History σ E} {γ' γ'' : Γ} {s s' : σ} {e : Option E} (h : Told G γ steps γ')
      (hG : G γ' s e s' γ'') : Told G γ (steps ++ [(s, e, s')]) γ''

theorem history_snoc (i : Nat) (log : List (Entry σ E)) (x : Entry σ E) :
    history i (log ++ [x]) =
      history i log ++ if x.call = i then [(x.before, x.event, x.after)] else [] := by
  by_cases hx : x.call = i
  · simp [history, hx]
  · simp [history, hx]

theorem history_of_fresh {n : Nat} {log : List (Entry σ E)} (h : ∀ x ∈ log, x.call < n) :
    history n log = [] := by
  simp only [history, List.map_eq_nil_iff, List.filter_eq_nil_iff, beq_iff_eq]
  intro x hx heq
  exact Nat.lt_irrefl n (heq ▸ h x hx)

/-- Every call has taken steps that its guarantee tells of, whatever has become of it. -/
structure Telling (G : κ → Γ → σ → Option E → σ → Γ → Prop) (γ₀ : κ → Γ) (ghost : Nat → Γ)
    (sys : System σ ι E ε α κ) : Prop where
  calls : ∀ x ∈ sys.trace, x.call < sys.calls.length
  told : ∀ (i : Nat) c, sys.calls[i]? = some c →
    Told (G c.command) (γ₀ c.command) (history i sys.trace) (ghost i)

section
variable {G : κ → Γ → σ → Option E → σ → Γ → Prop} {Q : κ → Γ → Except ε α → Prop}
  {begin : κ → Task σ ι E ε α} {γ₀ : κ → Γ} {ghost ghost' : Nat → Γ}
  {sys sys' : System σ ι E ε α κ}

theorem Telling.course (h : Telling G γ₀ ghost sys) {action : Action ι κ}
    (hcourse : Course G begin γ₀ ghost sys action ghost' sys') : Telling G γ₀ ghost' sys' := by
  cases hcourse with
  | idle => exact h
  | start command hshared htrace hcalls =>
    constructor
    · intro x hx
      rw [htrace] at hx
      rw [hcalls, List.length_append]
      exact Nat.lt_of_lt_of_le (h.calls x hx) (Nat.le_add_right _ _)
    · intro i c hc
      rw [hcalls] at hc
      rw [htrace]
      by_cases hi : i = sys.calls.length
      · subst hi
        rw [List.getElem?_concat_length] at hc
        cases hc
        rw [Function.update_self, history_of_fresh h.calls]
        exact .nil
      · rw [Function.update_of_ne hi]
        have hlt : i < sys.calls.length := by
          have hle := (List.getElem?_eq_some_iff.1 hc).1
          simp only [List.length_append, List.length_singleton] at hle
          omega
        rw [List.getElem?_append_left hlt] at hc
        exact h.told i c hc
  | still running cause hshared htrace hcalls =>
    constructor
    · intro x hx
      rw [htrace] at hx
      rw [hcalls, setProgress_calls_length]
      exact h.calls x hx
    · intro i c hc
      rw [hcalls] at hc
      obtain ⟨r, hold⟩ := getElem?_setProgress running _ hc
      rw [htrace]
      exact h.told i ⟨c.command, r⟩ hold
  | @act _ j answer command task next event γ' running guaranteed htrace hcalls =>
    constructor
    · intro x hx
      rw [hcalls, setProgress_calls_length]
      rw [htrace] at hx
      rcases List.mem_append.1 hx with hx | hx
      · exact h.calls x hx
      · rw [List.mem_singleton.1 hx]
        exact (List.getElem?_eq_some_iff.1 running).1
    · intro i c hc
      rw [hcalls] at hc
      obtain ⟨r, hold⟩ := getElem?_setProgress running _ hc
      rw [htrace, history_snoc]
      by_cases hij : i = j
      · subst hij
        rw [running] at hold
        cases hold
        rw [Function.update_self]
        simpa using (h.told i _ running).snoc guaranteed
      · rw [Function.update_of_ne hij]
        simpa [Ne.symm hij] using h.told i _ hold

/-- The run rule: what every command keeps, its call has kept in every run. -/
theorem run_told [Nonempty Γ] (hbegin : ∀ command,
    (begin command).Sat (G command) (Q command) (γ₀ command)) (s : σ)
    (actions : List (Action ι κ)) :
    ∃ ghost, Follows G Q ghost (run begin ⟨s, none, [], []⟩ actions) ∧
      Telling G γ₀ ghost (run begin ⟨s, none, [], []⟩ actions) := by
  induction actions using List.reverseRecOn with
  | nil =>
    obtain ⟨γ⟩ := ‹Nonempty Γ›
    exact ⟨fun _ => γ, fun i c hc => by simp [run] at hc,
      ⟨fun x hx => by simp [run] at hx, fun i c hc => by simp [run] at hc⟩⟩
  | append_singleton actions action ih =>
    obtain ⟨ghost, hfollows, htelling⟩ := ih
    obtain ⟨ghost', hfollows', hcourse⟩ := step_follows hbegin hfollows action
    simp only [run, List.foldl_append, List.foldl_cons, List.foldl_nil]
    exact ⟨ghost', hfollows', htelling.course hcourse⟩

end

end System

end Dbotter.Program
