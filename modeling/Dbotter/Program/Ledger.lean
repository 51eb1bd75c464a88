import Mathlib.Data.Finset.Insert
import Mathlib.Data.Multiset.UnionInter
import Mathlib.Data.Multiset.Dedup

/-!
Operations that are each answered once.

An operation is taken, and either refused at once or registered under a terminal token. What is
registered is settled with one answer; before that it may give up its exclusive lane, or move on
to a second phase with a token of its own.
-/

namespace Dbotter.Program

variable {ι : Type}

/-- A registered operation. -/
structure Slip (ι : Type) where
  operation : ι
  terminal : Nat
  exclusive : Bool

/-- `terminals` holds the operation of each token, and `last` an operation that is answered
after all others. -/
@[ext]
structure Ledger (ι : Type) where
  held : Multiset (Slip ι) := 0
  terminals : List ι := []
  cancelled : Finset Nat := ∅
  moved : Finset Nat := ∅
  busy : Bool := false
  taken : List ι := []
  answered : List ι := []
  last : Option ι := none

namespace Ledger

inductive Step : Ledger ι → Ledger ι → Prop
  | idle (l : Ledger ι) : Step l l
  | refuse (l : Ledger ι) (o : ι) :
      Step l { l with taken := l.taken ++ [o], answered := l.answered ++ [o] }
  | register (l : Ledger ι) (o : ι) (exclusive : Bool) (h : exclusive → l.busy = false) :
      Step l { l with
        held := ⟨o, l.terminals.length, exclusive⟩ ::ₘ l.held
        terminals := l.terminals ++ [o]
        busy := l.busy || exclusive
        taken := l.taken ++ [o] }
  | demote (l : Ledger ι) (slip : Slip ι) (rest : Multiset (Slip ι)) (h : l.held = slip ::ₘ rest) :
      Step l { l with
        held := { slip with exclusive := false } ::ₘ rest
        busy := l.busy && !slip.exclusive }
  | move (l : Ledger ι) (slip : Slip ι) (rest : Multiset (Slip ι)) (h : l.held = slip ::ₘ rest)
      (hexclusive : slip.exclusive) :
      Step l { l with
        held := ⟨slip.operation, l.terminals.length, true⟩ ::ₘ rest
        terminals := l.terminals ++ [slip.operation]
        cancelled := insert slip.terminal l.cancelled
        moved := insert slip.terminal l.moved }
  | settle (l : Ledger ι) (slip : Slip ι) (rest : Multiset (Slip ι)) (h : l.held = slip ::ₘ rest) :
      Step l { l with
        held := rest
        cancelled := insert slip.terminal l.cancelled
        busy := l.busy && !slip.exclusive
        answered := l.answered ++ [slip.operation] }
  | close (l : Ledger ι) (o : ι) (h : l.last = none) :
      Step l { l with taken := l.taken ++ [o], last := some o }
  | stop (l : Ledger ι) (o : ι) (h : l.last = some o) :
      Step l { l with answered := l.answered ++ [o], last := none }

/-- A token is open as long as its operation is registered under it. -/
def Open (l : Ledger ι) (t : Nat) (o : ι) : Prop :=
  ∃ slip ∈ l.held, slip.operation = o ∧ slip.terminal = t

structure Sound (l : Ledger ι) : Prop where
  held_nodup : (l.held.map Slip.operation).Nodup
  answered_nodup : l.answered.Nodup
  answered_taken : ∀ o ∈ l.answered, o ∈ l.taken
  terminals_taken : ∀ o ∈ l.terminals, o ∈ l.taken
  last_fresh : ∀ o, l.last = some o → o ∈ l.taken ∧ o ∉ l.answered ∧ o ∉ l.terminals
  held_open : ∀ slip ∈ l.held, slip.operation ∉ l.answered ∧
    l.terminals[slip.terminal]? = some slip.operation ∧
    slip.terminal ∉ l.cancelled ∧ slip.terminal ∉ l.moved
  closed : ∀ t o, l.terminals[t]? = some o →
    t ∈ l.cancelled ∧ (o ∈ l.answered ∨ t ∈ l.moved) ∨ t ∉ l.cancelled ∧ l.Open t o
  cancelled_lt : ∀ t ∈ l.cancelled, t < l.terminals.length
  moved_cancelled : ∀ t ∈ l.moved, t ∈ l.cancelled
  accounted : ∀ o ∈ l.terminals, o ∈ l.answered ∨ ∃ slip ∈ l.held, slip.operation = o
  busy_iff : l.busy = true ↔ ∃ slip ∈ l.held, slip.exclusive
  exclusive_unique : ∀ slip ∈ l.held, ∀ slip' ∈ l.held, slip.exclusive → slip'.exclusive →
    slip.operation = slip'.operation

variable {l l' : Ledger ι}

theorem sound_empty : Sound ({} : Ledger ι) where
  held_nodup := Multiset.nodup_zero
  answered_nodup := List.nodup_nil
  answered_taken o h := (nomatch h)
  terminals_taken o h := (nomatch h)
  last_fresh o h := (nomatch h)
  held_open slip h := by simp at h
  closed t o h := by simp at h
  cancelled_lt t h := by simp at h
  moved_cancelled t h := by simp at h
  accounted o h := (nomatch h)
  busy_iff := by simp
  exclusive_unique slip h := by simp at h

namespace Sound

/-- Two registered slips of one operation are one slip. -/
theorem slip_ne {slip other : Slip ι} {rest : Multiset (Slip ι)} (h : l.Sound)
    (hheld : l.held = slip ::ₘ rest) (hother : other ∈ rest) :
    other.operation ≠ slip.operation := by
  have hnodup := h.held_nodup
  rw [hheld, Multiset.map_cons, Multiset.nodup_cons] at hnodup
  intro heq
  exact hnodup.1 (heq ▸ Multiset.mem_map_of_mem _ hother)

theorem rest_nodup {slip : Slip ι} {rest : Multiset (Slip ι)} (h : l.Sound)
    (hheld : l.held = slip ::ₘ rest) : (rest.map Slip.operation).Nodup := by
  have hnodup := h.held_nodup
  rw [hheld, Multiset.map_cons, Multiset.nodup_cons] at hnodup
  exact hnodup.2

/-- Tokens of different operations differ. -/
theorem terminal_ne {slip other : Slip ι} {rest : Multiset (Slip ι)} (h : l.Sound)
    (hheld : l.held = slip ::ₘ rest) (hother : other ∈ rest) :
    other.terminal ≠ slip.terminal := by
  intro heq
  have hslip := (h.held_open slip (hheld ▸ Multiset.mem_cons_self ..)).2.1
  have hopen := (h.held_open other (hheld ▸ Multiset.mem_cons_of_mem hother)).2.1
  rw [heq, hslip] at hopen
  exact h.slip_ne hheld hother (Option.some.inj hopen).symm

/-- Of the registered operations only one may be exclusive. -/
theorem rest_shared {slip other : Slip ι} {rest : Multiset (Slip ι)} (h : l.Sound)
    (hheld : l.held = slip ::ₘ rest) (hexclusive : slip.exclusive) (hother : other ∈ rest) :
    other.exclusive = false := by
  by_contra hcontra
  refine h.slip_ne hheld hother ?_
  exact h.exclusive_unique other (hheld ▸ Multiset.mem_cons_of_mem hother) slip
    (hheld ▸ Multiset.mem_cons_self ..) (by simpa using hcontra) hexclusive

/-- What is left of the busy flag once a slip is gone. -/
theorem busy_rest {slip : Slip ι} {rest : Multiset (Slip ι)} (h : l.Sound)
    (hheld : l.held = slip ::ₘ rest) :
    (l.busy && !slip.exclusive) = true ↔ ∃ other ∈ rest, other.exclusive := by
  cases hslip : slip.exclusive with
  | true =>
    have hrest := fun other (hother : other ∈ rest) => h.rest_shared hheld hslip hother
    simp only [Bool.not_true, Bool.and_false, Bool.false_eq_true, false_iff]
    rintro ⟨other, hother, hexclusive⟩
    rw [hrest other hother] at hexclusive
    cases hexclusive
  | false =>
    have hbusy := h.busy_iff
    rw [hheld] at hbusy
    simpa [hslip] using hbusy

/-- A token that is not cancelled is the one of the slip of its operation. -/
theorem closed_of_ne {slip : Slip ι} {rest : Multiset (Slip ι)} (h : l.Sound)
    (hheld : l.held = slip ::ₘ rest) {t : Nat} {o : ι} (ht : l.terminals[t]? = some o)
    (hne : t ≠ slip.terminal) :
    t ∈ l.cancelled ∧ (o ∈ l.answered ∨ t ∈ l.moved) ∨
      t ∉ l.cancelled ∧ ∃ other ∈ rest, other.operation = o ∧ other.terminal = t := by
  rcases h.closed t o ht with hclosed | ⟨hopen, other, hother, ho, hterminal⟩
  · exact .inl hclosed
  · rw [hheld, Multiset.mem_cons] at hother
    rcases hother with rfl | hother
    · exact absurd hterminal.symm hne
    · exact .inr ⟨hopen, other, hother, ho, hterminal⟩

theorem terminal_lt {slip : Slip ι} (h : l.Sound) (hslip : slip ∈ l.held) :
    slip.terminal < l.terminals.length :=
  (List.getElem?_eq_some_iff.1 (h.held_open slip hslip).2.1).1

theorem operation_mem {slip : Slip ι} (h : l.Sound) (hslip : slip ∈ l.held) :
    slip.operation ∈ l.terminals :=
  List.mem_of_getElem? (h.held_open slip hslip).2.1

theorem not_mem_cancelled (h : l.Sound) : l.terminals.length ∉ l.cancelled :=
  fun hmem => (h.cancelled_lt _ hmem).ne rfl

theorem not_mem_moved (h : l.Sound) : l.terminals.length ∉ l.moved :=
  fun hmem => h.not_mem_cancelled (h.moved_cancelled _ hmem)

/-- The token of a new entry is the next one, and the others are as they were. -/
theorem getElem?_snoc_cases {terminals : List ι} {o o' : ι} {t : Nat}
    (h : (terminals ++ [o])[t]? = some o') :
    terminals[t]? = some o' ∧ t ≠ terminals.length ∨ t = terminals.length ∧ o' = o := by
  rcases Nat.lt_trichotomy t terminals.length with hlt | heq | hgt
  · rw [List.getElem?_append_left hlt] at h
    exact .inl ⟨h, hlt.ne⟩
  · subst heq
    exact .inr ⟨rfl, by simpa using h.symm⟩
  · rw [List.getElem?_append_right hgt.le] at h
    have hsome := (List.getElem?_eq_some_iff.1 h).1
    simp only [List.length_singleton] at hsome
    omega

theorem refuse (h : l.Sound) {o : ι} (ho : o ∉ l.taken) :
    Sound { l with taken := l.taken ++ [o], answered := l.answered ++ [o] } where
  held_nodup := h.held_nodup
  answered_nodup := by
    have hfresh : o ∉ l.answered := fun hmem => ho (h.answered_taken o hmem)
    simpa using h.answered_nodup.concat hfresh
  answered_taken o' ho' := by
    rcases List.mem_append.1 ho' with hmem | hmem
    · exact List.mem_append_left _ (h.answered_taken o' hmem)
    · exact List.mem_append_right _ hmem
  terminals_taken o' ho' := List.mem_append_left _ (h.terminals_taken o' ho')
  last_fresh o' ho' := by
    obtain ⟨htaken, hanswered, hterminals⟩ := h.last_fresh o' ho'
    refine ⟨List.mem_append_left _ htaken, ?_, hterminals⟩
    rw [List.mem_append, List.mem_singleton]
    rintro (hmem | rfl)
    · exact hanswered hmem
    · exact ho htaken
  held_open slip hslip := by
    obtain ⟨hanswered, hopen⟩ := h.held_open slip hslip
    refine ⟨?_, hopen⟩
    rw [List.mem_append, List.mem_singleton]
    rintro (hmem | heq)
    · exact hanswered hmem
    · exact ho (heq ▸ h.terminals_taken _ (h.operation_mem hslip))
  closed t o' ht := by
    refine (h.closed t o' ht).imp ?_ id
    exact fun hclosed => ⟨hclosed.1, hclosed.2.imp (List.mem_append_left _) id⟩
  cancelled_lt := h.cancelled_lt
  moved_cancelled := h.moved_cancelled
  accounted o' ho' := (h.accounted o' ho').imp (List.mem_append_left _) id
  busy_iff := h.busy_iff
  exclusive_unique := h.exclusive_unique

theorem register (h : l.Sound) {o : ι} {exclusive : Bool} (hbusy : exclusive → l.busy = false)
    (ho : o ∉ l.taken) :
    Sound { l with
      held := ⟨o, l.terminals.length, exclusive⟩ ::ₘ l.held
      terminals := l.terminals ++ [o]
      busy := l.busy || exclusive
      taken := l.taken ++ [o] } where
  held_nodup := by
    rw [Multiset.map_cons, Multiset.nodup_cons]
    refine ⟨?_, h.held_nodup⟩
    intro hmem
    obtain ⟨slip, hslip, heq⟩ := Multiset.mem_map.1 hmem
    have hknown := h.terminals_taken _ (h.operation_mem hslip)
    rw [heq] at hknown
    exact ho hknown
  answered_nodup := h.answered_nodup
  answered_taken o' ho' := List.mem_append_left _ (h.answered_taken o' ho')
  terminals_taken o' ho' := by
    rcases List.mem_append.1 ho' with hmem | hmem
    · exact List.mem_append_left _ (h.terminals_taken o' hmem)
    · exact List.mem_append_right _ hmem
  last_fresh o' ho' := by
    obtain ⟨htaken, hanswered, hterminals⟩ := h.last_fresh o' ho'
    refine ⟨List.mem_append_left _ htaken, hanswered, ?_⟩
    rw [List.mem_append, List.mem_singleton]
    rintro (hmem | rfl)
    · exact hterminals hmem
    · exact ho htaken
  held_open slip hslip := by
    rcases Multiset.mem_cons.1 hslip with rfl | hslip
    · refine ⟨fun hmem => ho (h.answered_taken o hmem), by simp, h.not_mem_cancelled, ?_⟩
      exact h.not_mem_moved
    · obtain ⟨hanswered, hterminal, hopen⟩ := h.held_open slip hslip
      refine ⟨hanswered, ?_, hopen⟩
      rw [List.getElem?_append_left (h.terminal_lt hslip)]
      exact hterminal
  closed t o' ht := by
    rcases getElem?_snoc_cases ht with ⟨hold, -⟩ | ⟨rfl, rfl⟩
    · refine (h.closed t o' hold).imp id ?_
      rintro ⟨hopen, slip, hslip, heq⟩
      exact ⟨hopen, slip, Multiset.mem_cons_of_mem hslip, heq⟩
    · exact .inr ⟨h.not_mem_cancelled, _, Multiset.mem_cons_self .., rfl, rfl⟩
  cancelled_lt t ht := by
    have hlt := h.cancelled_lt t ht
    rw [List.length_append]
    omega
  moved_cancelled := h.moved_cancelled
  accounted o' ho' := by
    rcases List.mem_append.1 ho' with hmem | hmem
    · refine (h.accounted o' hmem).imp id ?_
      rintro ⟨slip, hslip, heq⟩
      exact ⟨slip, Multiset.mem_cons_of_mem hslip, heq⟩
    · exact .inr ⟨_, Multiset.mem_cons_self .., (List.mem_singleton.1 hmem).symm⟩
  busy_iff := by
    rw [Bool.or_eq_true, h.busy_iff]
    simp only [Multiset.mem_cons, exists_eq_or_imp]
    exact or_comm
  exclusive_unique := by
    -- A new exclusive slip finds the lane free, so that no other slip is exclusive.
    have hfree : exclusive → ∀ slip ∈ l.held, slip.exclusive = false := by
      intro hexclusive slip hslip
      by_contra hcontra
      have hsome := h.busy_iff.2 ⟨slip, hslip, by simpa using hcontra⟩
      rw [hbusy hexclusive] at hsome
      cases hsome
    intro slip hslip slip' hslip' hex hex'
    rcases Multiset.mem_cons.1 hslip with rfl | hslip <;>
      rcases Multiset.mem_cons.1 hslip' with rfl | hslip'
    · rfl
    · exact absurd hex' (by simp [hfree hex slip' hslip'])
    · exact absurd hex (by simp [hfree hex' slip hslip])
    · exact h.exclusive_unique slip hslip slip' hslip' hex hex'

theorem demote (h : l.Sound) {slip : Slip ι} {rest : Multiset (Slip ι)}
    (hheld : l.held = slip ::ₘ rest) :
    Sound { l with
      held := { slip with exclusive := false } ::ₘ rest
      busy := l.busy && !slip.exclusive } where
  held_nodup := by
    have hnodup := h.held_nodup
    rw [hheld, Multiset.map_cons] at hnodup
    rwa [Multiset.map_cons]
  answered_nodup := h.answered_nodup
  answered_taken := h.answered_taken
  terminals_taken := h.terminals_taken
  last_fresh := h.last_fresh
  held_open other hother := by
    rcases Multiset.mem_cons.1 hother with rfl | hother
    · exact h.held_open slip (hheld ▸ Multiset.mem_cons_self ..)
    · exact h.held_open other (hheld ▸ Multiset.mem_cons_of_mem hother)
  closed t o ht := by
    by_cases heq : t = slip.terminal
    · subst heq
      have hopen := h.held_open slip (hheld ▸ Multiset.mem_cons_self ..)
      have ho : slip.operation = o := Option.some.inj (hopen.2.1.symm.trans ht)
      exact .inr ⟨hopen.2.2.1, _, Multiset.mem_cons_self .., ho, rfl⟩
    · refine (h.closed_of_ne hheld ht heq).imp id ?_
      rintro ⟨hopen, other, hother, hmatch⟩
      exact ⟨hopen, other, Multiset.mem_cons_of_mem hother, hmatch⟩
  cancelled_lt := h.cancelled_lt
  moved_cancelled := h.moved_cancelled
  accounted o ho := by
    refine (h.accounted o ho).imp id ?_
    rintro ⟨other, hother, heq⟩
    rw [hheld] at hother
    rcases Multiset.mem_cons.1 hother with rfl | hother
    · exact ⟨_, Multiset.mem_cons_self .., heq⟩
    · exact ⟨other, Multiset.mem_cons_of_mem hother, heq⟩
  busy_iff := by
    rw [h.busy_rest hheld]
    simp
  exclusive_unique := by
    intro first hfirst second hsecond hex hex'
    rcases Multiset.mem_cons.1 hfirst with rfl | hfirst
    · cases hex
    · rcases Multiset.mem_cons.1 hsecond with rfl | hsecond
      · cases hex'
      · exact h.exclusive_unique first (hheld ▸ Multiset.mem_cons_of_mem hfirst) second
          (hheld ▸ Multiset.mem_cons_of_mem hsecond) hex hex'

theorem move (h : l.Sound) {slip : Slip ι} {rest : Multiset (Slip ι)}
    (hheld : l.held = slip ::ₘ rest) (hexclusive : slip.exclusive) :
    Sound { l with
      held := ⟨slip.operation, l.terminals.length, true⟩ ::ₘ rest
      terminals := l.terminals ++ [slip.operation]
      cancelled := insert slip.terminal l.cancelled
      moved := insert slip.terminal l.moved } := by
  have hslip : slip ∈ l.held := hheld ▸ Multiset.mem_cons_self ..
  have hlt := h.terminal_lt hslip
  have hknown := h.terminals_taken _ (h.operation_mem hslip)
  constructor
  case held_nodup =>
    have hnodup := h.held_nodup
    rw [hheld, Multiset.map_cons] at hnodup
    rwa [Multiset.map_cons]
  case answered_nodup => exact h.answered_nodup
  case answered_taken => exact h.answered_taken
  case terminals_taken =>
    intro o ho
    rcases List.mem_append.1 ho with hmem | hmem
    · exact h.terminals_taken o hmem
    · exact List.mem_singleton.1 hmem ▸ hknown
  case last_fresh =>
    intro o ho
    obtain ⟨htaken, hanswered, hterminals⟩ := h.last_fresh o ho
    refine ⟨htaken, hanswered, ?_⟩
    rw [List.mem_append, List.mem_singleton]
    rintro (hmem | rfl)
    · exact hterminals hmem
    · exact hterminals (h.operation_mem hslip)
  case held_open =>
    intro other hother
    rcases Multiset.mem_cons.1 hother with rfl | hother
    · refine ⟨(h.held_open slip hslip).1, by simp, ?_, ?_⟩ <;> rw [Finset.mem_insert, not_or]
      · exact ⟨hlt.ne', h.not_mem_cancelled⟩
      · exact ⟨hlt.ne', h.not_mem_moved⟩
    · have hmem : other ∈ l.held := hheld ▸ Multiset.mem_cons_of_mem hother
      have hne := h.terminal_ne hheld hother
      obtain ⟨hanswered, hterminal, hcancelled, hmoved⟩ := h.held_open other hmem
      refine ⟨hanswered, ?_, by simp [hne, hcancelled], by simp [hne, hmoved]⟩
      rw [List.getElem?_append_left (h.terminal_lt hmem)]
      exact hterminal
  case closed =>
    intro t o ht
    rcases getElem?_snoc_cases ht with ⟨hold, -⟩ | ⟨rfl, rfl⟩
    · by_cases heq : t = slip.terminal
      · exact .inl ⟨by simp [heq], .inr (by simp [heq])⟩
      · rcases h.closed_of_ne hheld hold heq with ⟨hcancelled, hwhy⟩ | ⟨hopen, other, hother, hmatch⟩
        · refine .inl ⟨Finset.mem_insert_of_mem hcancelled, ?_⟩
          exact hwhy.imp id Finset.mem_insert_of_mem
        · refine .inr ⟨by simp [heq, hopen], other, Multiset.mem_cons_of_mem hother, hmatch⟩
    · refine .inr ⟨?_, _, Multiset.mem_cons_self .., rfl, rfl⟩
      rw [Finset.mem_insert, not_or]
      exact ⟨hlt.ne', h.not_mem_cancelled⟩
  case cancelled_lt =>
    intro t ht
    rw [List.length_append, List.length_singleton]
    rcases Finset.mem_insert.1 ht with rfl | ht
    · omega
    · have := h.cancelled_lt t ht
      omega
  case moved_cancelled =>
    intro t ht
    rcases Finset.mem_insert.1 ht with rfl | ht
    · exact Finset.mem_insert_self ..
    · exact Finset.mem_insert_of_mem (h.moved_cancelled t ht)
  case accounted =>
    intro o ho
    have hold : o ∈ l.terminals := by
      rcases List.mem_append.1 ho with hmem | hmem
      · exact hmem
      · exact List.mem_singleton.1 hmem ▸ h.operation_mem hslip
    refine (h.accounted o hold).imp id ?_
    rintro ⟨other, hother, heq⟩
    rw [hheld] at hother
    rcases Multiset.mem_cons.1 hother with rfl | hother
    · exact ⟨_, Multiset.mem_cons_self .., heq⟩
    · exact ⟨other, Multiset.mem_cons_of_mem hother, heq⟩
  case busy_iff =>
    have hbusy := h.busy_iff.2 ⟨slip, hslip, hexclusive⟩
    simp [hbusy]
  case exclusive_unique =>
    have hrest := fun other (hother : other ∈ rest) => h.rest_shared hheld hexclusive hother
    intro first hfirst second hsecond hex hex'
    rcases Multiset.mem_cons.1 hfirst with rfl | hfirst <;>
      rcases Multiset.mem_cons.1 hsecond with rfl | hsecond
    · rfl
    · exact absurd hex' (by simp [hrest second hsecond])
    · exact absurd hex (by simp [hrest first hfirst])
    · exact absurd hex (by simp [hrest first hfirst])

theorem settle (h : l.Sound) {slip : Slip ι} {rest : Multiset (Slip ι)}
    (hheld : l.held = slip ::ₘ rest) :
    Sound { l with
      held := rest
      cancelled := insert slip.terminal l.cancelled
      busy := l.busy && !slip.exclusive
      answered := l.answered ++ [slip.operation] } := by
  have hslip : slip ∈ l.held := hheld ▸ Multiset.mem_cons_self ..
  have hmem_of_rest : ∀ other ∈ rest, other ∈ l.held := fun other hother =>
    hheld ▸ Multiset.mem_cons_of_mem hother
  have hopen := h.held_open slip hslip
  constructor
  case held_nodup => exact h.rest_nodup hheld
  case answered_nodup =>
    simpa using h.answered_nodup.concat hopen.1
  case answered_taken =>
    intro o ho
    rcases List.mem_append.1 ho with hmem | hmem
    · exact h.answered_taken o hmem
    · rw [List.mem_singleton.1 hmem]
      exact h.terminals_taken _ (h.operation_mem hslip)
  case terminals_taken => exact h.terminals_taken
  case last_fresh =>
    intro o ho
    obtain ⟨htaken, hanswered, hterminals⟩ := h.last_fresh o ho
    refine ⟨htaken, ?_, hterminals⟩
    rw [List.mem_append, List.mem_singleton]
    rintro (hmem | rfl)
    · exact hanswered hmem
    · exact hterminals (h.operation_mem hslip)
  case held_open =>
    intro other hother
    obtain ⟨hanswered, hterminal, hcancelled, hmoved⟩ := h.held_open other (hmem_of_rest other hother)
    refine ⟨?_, hterminal, by simp [h.terminal_ne hheld hother, hcancelled], hmoved⟩
    rw [List.mem_append, List.mem_singleton, not_or]
    exact ⟨hanswered, h.slip_ne hheld hother⟩
  case closed =>
    intro t o ht
    by_cases heq : t = slip.terminal
    · subst heq
      have ho : slip.operation = o := Option.some.inj (hopen.2.1.symm.trans ht)
      exact .inl ⟨by simp, .inl (by simp [ho])⟩
    · rcases h.closed_of_ne hheld ht heq with ⟨hcancelled, hwhy⟩ | ⟨hclosed, other, hother, hmatch⟩
      · refine .inl ⟨Finset.mem_insert_of_mem hcancelled, ?_⟩
        exact hwhy.imp (List.mem_append_left _) id
      · exact .inr ⟨by simp [heq, hclosed], other, hother, hmatch⟩
  case cancelled_lt =>
    intro t ht
    rcases Finset.mem_insert.1 ht with rfl | ht
    · exact h.terminal_lt hslip
    · exact h.cancelled_lt t ht
  case moved_cancelled =>
    exact fun t ht => Finset.mem_insert_of_mem (h.moved_cancelled t ht)
  case accounted =>
    intro o ho
    rcases h.accounted o ho with hanswered | ⟨other, hother, heq⟩
    · exact .inl (List.mem_append_left _ hanswered)
    · rw [hheld] at hother
      rcases Multiset.mem_cons.1 hother with rfl | hother
      · exact .inl (by simp [heq])
      · exact .inr ⟨other, hother, heq⟩
  case busy_iff => exact h.busy_rest hheld
  case exclusive_unique =>
    exact fun first hfirst second hsecond => h.exclusive_unique first (hmem_of_rest first hfirst)
      second (hmem_of_rest second hsecond)

theorem close (h : l.Sound) {o : ι} (ho : o ∉ l.taken) :
    Sound { l with taken := l.taken ++ [o], last := some o } where
  held_nodup := h.held_nodup
  answered_nodup := h.answered_nodup
  answered_taken o' ho' := List.mem_append_left _ (h.answered_taken o' ho')
  terminals_taken o' ho' := List.mem_append_left _ (h.terminals_taken o' ho')
  last_fresh o' ho' := by
    cases ho'
    exact ⟨by simp, fun hmem => ho (h.answered_taken o hmem),
      fun hmem => ho (h.terminals_taken o hmem)⟩
  held_open := h.held_open
  closed := h.closed
  cancelled_lt := h.cancelled_lt
  moved_cancelled := h.moved_cancelled
  accounted := h.accounted
  busy_iff := h.busy_iff
  exclusive_unique := h.exclusive_unique

theorem stop (h : l.Sound) {o : ι} (hlast : l.last = some o) :
    Sound { l with answered := l.answered ++ [o], last := none } := by
  obtain ⟨htaken, hanswered, hterminals⟩ := h.last_fresh o hlast
  constructor
  case held_nodup => exact h.held_nodup
  case answered_nodup =>
    simpa using h.answered_nodup.concat hanswered
  case answered_taken =>
    intro o' ho'
    rcases List.mem_append.1 ho' with hmem | hmem
    · exact h.answered_taken o' hmem
    · exact List.mem_singleton.1 hmem ▸ htaken
  case terminals_taken => exact h.terminals_taken
  case last_fresh => exact fun o' ho' => (nomatch ho')
  case held_open =>
    intro slip hslip
    obtain ⟨hnot, hopen⟩ := h.held_open slip hslip
    refine ⟨?_, hopen⟩
    rw [List.mem_append, List.mem_singleton]
    rintro (hmem | heq)
    · exact hnot hmem
    · exact hterminals (heq ▸ h.operation_mem hslip)
  case closed =>
    intro t o' ht
    refine (h.closed t o' ht).imp ?_ id
    exact fun hclosed => ⟨hclosed.1, hclosed.2.imp (List.mem_append_left _) id⟩
  case cancelled_lt => exact h.cancelled_lt
  case moved_cancelled => exact h.moved_cancelled
  case accounted => exact fun o' ho' => (h.accounted o' ho').imp (List.mem_append_left _) id
  case busy_iff => exact h.busy_iff
  case exclusive_unique => exact h.exclusive_unique

end Sound

/-- A step keeps the ledger sound as long as no operation is taken twice. -/
theorem Step.sound (h : Step l l') (hl : l.Sound) (htaken : l'.taken.Nodup) : l'.Sound := by
  have hfresh : ∀ o, l'.taken = l.taken ++ [o] → o ∉ l.taken := by
    intro o ho hmem
    rw [ho, List.nodup_append] at htaken
    exact htaken.2.2 o hmem o (by simp) rfl
  cases h with
  | idle => exact hl
  | refuse o => exact hl.refuse (hfresh o rfl)
  | register o exclusive hbusy => exact hl.register hbusy (hfresh o rfl)
  | demote slip rest hheld => exact hl.demote hheld
  | move slip rest hheld hexclusive => exact hl.move hheld hexclusive
  | settle slip rest hheld => exact hl.settle hheld
  | close o hlast => exact hl.close (hfresh o rfl)
  | stop o hlast => exact hl.stop hlast

/-- Answers stay in the order in which they were given. -/
theorem Step.answered_prefix (h : Step l l') : l.answered <+: l'.answered := by
  cases h with
  | refuse o => exact List.prefix_append ..
  | settle slip rest hheld => exact List.prefix_append ..
  | stop o hlast => exact List.prefix_append ..
  | _ => exact List.prefix_rfl

/-- What is registered stays so until it is answered. -/
theorem Step.held_or_answered (h : Step l l') {slip : Slip ι} (hslip : slip ∈ l.held) :
    (∃ slip' ∈ l'.held, slip'.operation = slip.operation) ∨ slip.operation ∈ l'.answered := by
  have hreplaced : ∀ {old new : Slip ι} {rest : Multiset (Slip ι)}, l.held = old ::ₘ rest →
      new.operation = old.operation → l'.held = new ::ₘ rest →
        ∃ slip' ∈ l'.held, slip'.operation = slip.operation := by
    intro old new rest hheld hnew hheld'
    rw [hheld, Multiset.mem_cons] at hslip
    rcases hslip with rfl | hrest
    · exact ⟨new, by simp [hheld'], hnew⟩
    · exact ⟨slip, by simp [hheld', hrest], rfl⟩
  cases h with
  | register o exclusive hbusy => exact .inl ⟨slip, Multiset.mem_cons_of_mem hslip, rfl⟩
  | demote old rest hheld =>
    exact .inl (@hreplaced old { old with exclusive := false } rest hheld rfl rfl)
  | move old rest hheld hexclusive =>
    exact .inl (@hreplaced old ⟨old.operation, l.terminals.length, true⟩ rest hheld rfl rfl)
  | settle old rest hheld =>
    rw [hheld, Multiset.mem_cons] at hslip
    rcases hslip with rfl | hrest
    · exact .inr (by simp)
    · exact .inl ⟨slip, hrest, rfl⟩
  | _ => exact .inl ⟨slip, hslip, rfl⟩

end Ledger

end Dbotter.Program
