import Dbotter.Program.Task

/-!
A task that runs alone.

`solo` runs a task to its end with no other task in between, and `Ends` is its weakest
precondition: whatever the world answers, the run from `s` ends in a state and with a result
that satisfy `Q`.
-/

namespace Dbotter.Program.Task

variable {σ ι E ε ε' α β : Type}

/-- The state and the result of a task that runs alone; the step number `n` gets the answer
`answers n`. -/
def solo : Task σ ι E ε α → (Nat → ι) → σ → σ × Except ε α
  | done r, _, s => (s, r)
  | atomic act _ next, answers, s =>
      (next (answers 0) s).solo (fun n => answers (n + 1)) (act (answers 0) s)
  | acquire next, answers, s => next.solo answers s
  | release next, answers, s => next.solo answers s

def Ends : Task σ ι E ε α → σ → (σ → Except ε α → Prop) → Prop
  | done r, s, Q => Q s r
  | atomic act _ next, s, Q => ∀ i, (next i s).Ends (act i s) Q
  | acquire next, s, Q => next.Ends s Q
  | release next, s, Q => next.Ends s Q

variable {Q : σ → Except ε α → Prop} {s : σ}

/-- What a task ensures holds of every run of it alone. -/
theorem Ends.solo {t : Task σ ι E ε α} (h : t.Ends s Q) (answers : Nat → ι) :
    Q (t.solo answers s).1 (t.solo answers s).2 := by
  induction t generalizing s answers with
  | done r => exact h
  | atomic act emit next ih => exact ih (answers 0) s (h (answers 0)) _
  | acquire next ih => exact ih h answers
  | release next ih => exact ih h answers

theorem Ends.mono {Q' : σ → Except ε α → Prop} {t : Task σ ι E ε α} (h : t.Ends s Q)
    (hQ : ∀ s' r, Q s' r → Q' s' r) : t.Ends s Q' := by
  induction t generalizing s with
  | done r => exact hQ s r h
  | atomic act emit next ih => exact fun i => ih i s (h i)
  | acquire next ih => exact ih h
  | release next ih => exact ih h

@[simp] theorem ends_done (r : Except ε α) : (done r : Task σ ι E ε α).Ends s Q ↔ Q s r := Iff.rfl

@[simp] theorem ends_ofExcept (r : Except ε α) :
    (ofExcept r : Task σ ι E ε α).Ends s Q ↔ Q s r := Iff.rfl

@[simp] theorem ends_fail (e : ε) :
    (fail e : Task σ ι E ε α).Ends s Q ↔ Q s (.error e) := Iff.rfl

@[simp] theorem ends_step (f : ι → σ → Effect σ E (Except ε α)) :
    (step f).Ends s Q ↔ ∀ i, Q (f i s).state (f i s).value := Iff.rfl

@[simp] theorem ends_lane {Q : σ → Except ε Unit → Prop} :
    (lane : Task σ ι E ε Unit).Ends s Q ↔ Q s (.ok ()) := Iff.rfl

@[simp] theorem ends_unlane {Q : σ → Except ε Unit → Prop} :
    (unlane : Task σ ι E ε Unit).Ends s Q ↔ Q s (.ok ()) := Iff.rfl

/-- The sequence rule: the second task runs from what the first one leaves. -/
theorem ends_bind {t : Task σ ι E ε α} {f : α → Task σ ι E ε β}
    {Q : σ → Except ε β → Prop} :
    (t.bind f).Ends s Q ↔ t.Ends s fun s' r =>
      match r with
      | .ok a => (f a).Ends s' Q
      | .error e => Q s' (.error e) := by
  induction t generalizing s with
  | done r => cases r <;> rfl
  | atomic act emit next ih => exact forall_congr' fun i => ih i s
  | acquire next ih => exact ih
  | release next ih => exact ih

theorem ends_attempt {t : Task σ ι E ε α} {Q : σ → Except ε' (Except ε α) → Prop} :
    (t.attempt : Task σ ι E ε' (Except ε α)).Ends s Q ↔ t.Ends s fun s' r => Q s' (.ok r) := by
  induction t generalizing s with
  | done r => rfl
  | atomic act emit next ih => exact forall_congr' fun i => ih i s
  | acquire next ih => exact ih
  | release next ih => exact ih

theorem ends_mapError {t : Task σ ι E ε α} {f : ε → ε'} {Q : σ → Except ε' α → Prop} :
    (t.mapError f).Ends s Q ↔ t.Ends s fun s' r => Q s' (r.mapError f) := by
  induction t generalizing s with
  | done r => rfl
  | atomic act emit next ih => exact forall_congr' fun i => ih i s
  | acquire next ih => exact ih
  | release next ih => exact ih

/-- The sequence rule with an intermediate condition. -/
theorem Ends.bind {t : Task σ ι E ε α} {f : α → Task σ ι E ε β} {R : σ → Except ε β → Prop}
    (h : t.Ends s Q) (hok : ∀ s' a, Q s' (.ok a) → (f a).Ends s' R)
    (herror : ∀ s' e, Q s' (.error e) → R s' (.error e)) : (t >>= f).Ends s R := by
  refine ends_bind.2 (h.mono ?_)
  rintro s' (e | a) hQ
  · exact herror s' e hQ
  · exact hok s' a hQ

/-! ## A world that keeps its promises -/

/-- As `Ends`, where the world gives only answers with `ok`. -/
def EndsOn (ok : ι → Prop) : Task σ ι E ε α → σ → (σ → Except ε α → Prop) → Prop
  | done r, s, Q => Q s r
  | atomic act _ next, s, Q => ∀ i, ok i → (next i s).EndsOn ok (act i s) Q
  | acquire next, s, Q => next.EndsOn ok s Q
  | release next, s, Q => next.EndsOn ok s Q

section
variable {ok : ι → Prop}

theorem EndsOn.solo {t : Task σ ι E ε α} (h : t.EndsOn ok s Q) {answers : Nat → ι}
    (hok : ∀ n, ok (answers n)) : Q (t.solo answers s).1 (t.solo answers s).2 := by
  induction t generalizing s answers with
  | done r => exact h
  | atomic act emit next ih => exact ih _ s (h _ (hok 0)) fun n => hok (n + 1)
  | acquire next ih => exact ih h hok
  | release next ih => exact ih h hok

theorem EndsOn.mono {Q' : σ → Except ε α → Prop} {t : Task σ ι E ε α} (h : t.EndsOn ok s Q)
    (hQ : ∀ s' r, Q s' r → Q' s' r) : t.EndsOn ok s Q' := by
  induction t generalizing s with
  | done r => exact hQ s r h
  | atomic act emit next ih => exact fun i hi => ih i s (h i hi)
  | acquire next ih => exact ih h
  | release next ih => exact ih h

theorem Ends.on {t : Task σ ι E ε α} (h : t.Ends s Q) : t.EndsOn ok s Q := by
  induction t generalizing s with
  | done r => exact h
  | atomic act emit next ih => exact fun i _ => ih i s (h i)
  | acquire next ih => exact ih h
  | release next ih => exact ih h

theorem endsOn_bind {t : Task σ ι E ε α} {f : α → Task σ ι E ε β} {Q : σ → Except ε β → Prop} :
    (t.bind f).EndsOn ok s Q ↔ t.EndsOn ok s fun s' r =>
      match r with
      | .ok a => (f a).EndsOn ok s' Q
      | .error e => Q s' (.error e) := by
  induction t generalizing s with
  | done r => cases r <;> rfl
  | atomic act emit next ih => exact forall_congr' fun i => imp_congr_right fun _ => ih i s
  | acquire next ih => exact ih
  | release next ih => exact ih

theorem endsOn_attempt {t : Task σ ι E ε α} {Q : σ → Except ε' (Except ε α) → Prop} :
    (t.attempt : Task σ ι E ε' (Except ε α)).EndsOn ok s Q ↔
      t.EndsOn ok s fun s' r => Q s' (.ok r) := by
  induction t generalizing s with
  | done r => rfl
  | atomic act emit next ih => exact forall_congr' fun i => imp_congr_right fun _ => ih i s
  | acquire next ih => exact ih
  | release next ih => exact ih

theorem endsOn_mapError {t : Task σ ι E ε α} {f : ε → ε'} {Q : σ → Except ε' α → Prop} :
    (t.mapError f).EndsOn ok s Q ↔ t.EndsOn ok s fun s' r => Q s' (r.mapError f) := by
  induction t generalizing s with
  | done r => rfl
  | atomic act emit next ih => exact forall_congr' fun i => imp_congr_right fun _ => ih i s
  | acquire next ih => exact ih
  | release next ih => exact ih

theorem EndsOn.bind {t : Task σ ι E ε α} {f : α → Task σ ι E ε β} {R : σ → Except ε β → Prop}
    (h : t.EndsOn ok s Q) (hok : ∀ s' a, Q s' (.ok a) → (f a).EndsOn ok s' R)
    (herror : ∀ s' e, Q s' (.error e) → R s' (.error e)) : (t >>= f).EndsOn ok s R := by
  refine endsOn_bind.2 (h.mono ?_)
  rintro s' (e | a) hQ
  · exact herror s' e hQ
  · exact hok s' a hQ

end

end Dbotter.Program.Task
