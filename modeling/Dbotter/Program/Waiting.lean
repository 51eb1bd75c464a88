import Mathlib.Data.Finset.Insert
import Mathlib.Data.Multiset.Dedup
import Mathlib.Data.Set.Insert
import Mathlib.Logic.Relation

/-!
Waiting that cannot deadlock.

Tasks are registered under tokens, and a task may wait for the tokens of tasks that were registered
before it. A token is closed when what is registered under it is settled; until then another task
may come in the place of the one that is registered.
-/

namespace Dbotter.Program

/-- A cycle has no edge of `P` where nothing leads to a start of such an edge. -/
theorem acyclic_or {α : Type} {T P : α → α → Prop} (hT : ∀ a, ¬Relation.TransGen T a a)
    (hP : ∀ w x y, T w x ∨ P w x → ¬P x y) (a : α) :
    ¬Relation.TransGen (fun x y => T x y ∨ P x y) a a := by
  -- Along a path from where an edge ends every edge is one of `T`.
  have hpath : ∀ x y, Relation.TransGen (fun x y => T x y ∨ P x y) x y →
      (∃ w, T w x ∨ P w x) → Relation.TransGen T x y := by
    intro x y hpath hreached
    induction hpath using Relation.TransGen.head_induction_on with
    | single hedge =>
      obtain ⟨w, hw⟩ := hreached
      exact .single (hedge.resolve_right (hP w _ _ hw))
    | head hedge _ ih =>
      obtain ⟨w, hw⟩ := hreached
      exact .head (hedge.resolve_right (hP w _ _ hw)) (ih ⟨_, hedge⟩)
  intro hcycle
  obtain ⟨w, -, hlast⟩ := Relation.TransGen.tail'_iff.1 hcycle
  exact hT a (hpath a a hcycle ⟨w, hlast⟩)

/-- `held` says which task is registered under which token, `awaits` what each task waits for, and
`quiet` which tasks wait for nothing else. -/
@[ext]
structure Desk where
  held : Multiset (Nat × Nat) := 0
  tokens : Nat := 0
  closed : Finset Nat := ∅
  awaits : List (List Nat) := []
  quiet : Set Nat := ∅

namespace Desk

inductive Step : Desk → Desk → Prop
  | hush (d : Desk) (quiet : Set Nat) (h : d.quiet ⊆ quiet) : Step d { d with quiet }
  | enter (d : Desk) (tokens : List Nat)
      (h : ∀ t ∈ tokens, ∃ task, (t, task) ∈ d.held ∧ task ∈ d.quiet) :
      Step d { d with
        held := (d.tokens, d.awaits.length) ::ₘ d.held
        tokens := d.tokens + 1
        awaits := d.awaits ++ [tokens] }
  | replace (d : Desk) (t task : Nat) (rest : Multiset (Nat × Nat))
      (h : d.held = (t, task) ::ₘ rest) :
      Step d { d with
        held := (t, d.awaits.length) ::ₘ rest
        awaits := d.awaits ++ [[]]
        quiet := insert d.awaits.length d.quiet }
  | close (d : Desk) (t task : Nat) (rest : Multiset (Nat × Nat)) (h : d.held = (t, task) ::ₘ rest) :
      Step d { d with held := rest, closed := insert t d.closed }

/-- Each task waits for tokens that are older than its own, and for quiet tasks. -/
structure Sound (d : Desk) : Prop where
  nodup : (d.held.map Prod.fst).Nodup
  registered : ∀ t task, (t, task) ∈ d.held →
    t < d.tokens ∧ ∃ tokens, d.awaits[task]? = some tokens ∧ ∀ u ∈ tokens, u < t
  accounted : ∀ t < d.tokens, t ∈ d.closed ∨ ∃ task, (t, task) ∈ d.held
  awaited : ∀ tokens ∈ d.awaits, ∀ t ∈ tokens,
    t < d.tokens ∧ ∀ task, (t, task) ∈ d.held → task ∈ d.quiet

variable {d d' : Desk}

theorem sound_empty : Sound {} where
  nodup := Multiset.nodup_zero
  registered _ _ h := by simp at h
  accounted _ h := (nomatch h)
  awaited _ h := (nomatch h)

namespace Sound

/-- Under a token one task is registered. -/
theorem unique {t task other : Nat} (h : d.Sound) (htask : (t, task) ∈ d.held)
    (hother : (t, other) ∈ d.held) : task = other := by
  obtain ⟨rest, hrest⟩ := Multiset.exists_cons_of_mem htask
  have hnodup := h.nodup
  rw [hrest, Multiset.map_cons, Multiset.nodup_cons] at hnodup
  rw [hrest, Multiset.mem_cons] at hother
  rcases hother with heq | hmem
  · exact (Prod.mk.inj heq).2.symm
  · exact absurd (Multiset.mem_map_of_mem Prod.fst hmem) hnodup.1

theorem hush (h : d.Sound) {quiet : Set Nat} (hquiet : d.quiet ⊆ quiet) :
    Sound { d with quiet } where
  nodup := h.nodup
  registered := h.registered
  accounted := h.accounted
  awaited tokens htokens t ht := by
    obtain ⟨hlt, htask⟩ := h.awaited tokens htokens t ht
    exact ⟨hlt, fun task hheld => hquiet (htask task hheld)⟩

theorem enter (h : d.Sound) {tokens : List Nat}
    (htokens : ∀ t ∈ tokens, ∃ task, (t, task) ∈ d.held ∧ task ∈ d.quiet) :
    Sound { d with
      held := (d.tokens, d.awaits.length) ::ₘ d.held
      tokens := d.tokens + 1
      awaits := d.awaits ++ [tokens] } where
  nodup := by
    rw [Multiset.map_cons, Multiset.nodup_cons]
    refine ⟨fun hmem => ?_, h.nodup⟩
    obtain ⟨⟨t, task⟩, hheld, heq⟩ := Multiset.mem_map.1 hmem
    have hlt := (h.registered t task hheld).1
    change t = d.tokens at heq
    omega
  registered t task hheld := by
    rcases Multiset.mem_cons.1 hheld with heq | hmem
    · obtain ⟨rfl, rfl⟩ := Prod.mk.inj heq
      refine ⟨Nat.lt_succ_self _, tokens, List.getElem?_concat_length, fun u hu => ?_⟩
      obtain ⟨task, htask, -⟩ := htokens u hu
      exact (h.registered u task htask).1
    · obtain ⟨hlt, found, hfound, hbelow⟩ := h.registered t task hmem
      have hindex : task < d.awaits.length := (List.getElem?_eq_some_iff.1 hfound).1
      exact ⟨Nat.lt_succ_of_lt hlt, found, by rwa [List.getElem?_append_left hindex], hbelow⟩
  accounted t ht := by
    rcases Nat.lt_succ_iff_lt_or_eq.1 ht with hlt | rfl
    · exact (h.accounted t hlt).imp id fun ⟨task, hmem⟩ => ⟨task, Multiset.mem_cons_of_mem hmem⟩
    · exact .inr ⟨_, Multiset.mem_cons_self ..⟩
  awaited found hfound t ht := by
    -- The new token is awaited by nobody.
    have hold : t < d.tokens ∧ ∀ task, (t, task) ∈ d.held → task ∈ d.quiet := by
      rcases List.mem_append.1 hfound with hmem | hmem
      · exact h.awaited found hmem t ht
      · obtain rfl := List.mem_singleton.1 hmem
        obtain ⟨task, htask, hquiet⟩ := htokens t ht
        exact ⟨(h.registered t task htask).1, fun other hother => h.unique htask hother ▸ hquiet⟩
    refine ⟨Nat.lt_succ_of_lt hold.1, fun task hheld => ?_⟩
    rcases Multiset.mem_cons.1 hheld with heq | hmem
    · have hnew := (Prod.mk.inj heq).1
      omega
    · exact hold.2 task hmem

theorem replace (h : d.Sound) {t task : Nat} {rest : Multiset (Nat × Nat)}
    (hheld : d.held = (t, task) ::ₘ rest) :
    Sound { d with
      held := (t, d.awaits.length) ::ₘ rest
      awaits := d.awaits ++ [[]]
      quiet := insert d.awaits.length d.quiet } where
  nodup := by
    have hnodup := h.nodup
    rw [hheld, Multiset.map_cons] at hnodup
    rwa [Multiset.map_cons]
  registered u other hmem := by
    rcases Multiset.mem_cons.1 hmem with heq | hmem
    · obtain ⟨rfl, rfl⟩ := Prod.mk.inj heq
      have hlt := (h.registered u task (hheld ▸ Multiset.mem_cons_self ..)).1
      exact ⟨hlt, [], List.getElem?_concat_length, nofun⟩
    · obtain ⟨hlt, found, hfound, hbelow⟩ :=
        h.registered u other (hheld ▸ Multiset.mem_cons_of_mem hmem)
      have hindex : other < d.awaits.length := (List.getElem?_eq_some_iff.1 hfound).1
      exact ⟨hlt, found, by rwa [List.getElem?_append_left hindex], hbelow⟩
  accounted u hu := by
    refine (h.accounted u hu).imp id ?_
    rintro ⟨other, hmem⟩
    rw [hheld] at hmem
    rcases Multiset.mem_cons.1 hmem with heq | hmem
    · obtain ⟨rfl, -⟩ := Prod.mk.inj heq
      exact ⟨_, Multiset.mem_cons_self ..⟩
    · exact ⟨other, Multiset.mem_cons_of_mem hmem⟩
  awaited found hfound u hu := by
    rcases List.mem_append.1 hfound with hmem | hmem
    · obtain ⟨hlt, hquiet⟩ := h.awaited found hmem u hu
      refine ⟨hlt, fun other hother => ?_⟩
      rcases Multiset.mem_cons.1 hother with heq | hrest
      · exact .inl (Prod.mk.inj heq).2
      · exact .inr (hquiet other (hheld ▸ Multiset.mem_cons_of_mem hrest))
    · rw [List.mem_singleton.1 hmem] at hu
      cases hu

theorem close (h : d.Sound) {t task : Nat} {rest : Multiset (Nat × Nat)}
    (hheld : d.held = (t, task) ::ₘ rest) :
    Sound { d with held := rest, closed := insert t d.closed } where
  nodup := by
    have hnodup := h.nodup
    rw [hheld, Multiset.map_cons, Multiset.nodup_cons] at hnodup
    exact hnodup.2
  registered u other hmem := h.registered u other (hheld ▸ Multiset.mem_cons_of_mem hmem)
  accounted u hu := by
    rcases h.accounted u hu with hclosed | ⟨other, hmem⟩
    · exact .inl (Finset.mem_insert_of_mem hclosed)
    · rw [hheld] at hmem
      rcases Multiset.mem_cons.1 hmem with heq | hmem
      · exact .inl ((Prod.mk.inj heq).1 ▸ Finset.mem_insert_self ..)
      · exact .inr ⟨other, hmem⟩
  awaited found hfound u hu := by
    obtain ⟨hlt, hquiet⟩ := h.awaited found hfound u hu
    exact ⟨hlt, fun other hmem => hquiet other (hheld ▸ Multiset.mem_cons_of_mem hmem)⟩

end Sound

theorem Step.sound (hstep : Step d d') (h : d.Sound) : d'.Sound := by
  cases hstep with
  | hush _ hquiet => exact h.hush hquiet
  | enter _ htokens => exact h.enter htokens
  | replace _ _ _ hheld => exact h.replace hheld
  | close _ _ _ hheld => exact h.close hheld

/-- A token that is registered stays so, with the task or another one, until it is closed. -/
theorem Step.carries (hstep : Step d d') (t : Nat) :
    (t ∈ d.closed → t ∈ d'.closed) ∧
      ((∃ task, (t, task) ∈ d.held) → t ∈ d'.closed ∨ ∃ task, (t, task) ∈ d'.held) := by
  cases hstep with
  | hush _ _ => exact ⟨id, .inr⟩
  | enter _ _ => exact ⟨id, fun ⟨task, hmem⟩ => .inr ⟨task, Multiset.mem_cons_of_mem hmem⟩⟩
  | replace u other rest hheld =>
    refine ⟨id, ?_⟩
    rintro ⟨task, hmem⟩
    rw [hheld] at hmem
    rcases Multiset.mem_cons.1 hmem with heq | hmem
    · obtain ⟨rfl, -⟩ := Prod.mk.inj heq
      exact .inr ⟨_, Multiset.mem_cons_self ..⟩
    · exact .inr ⟨task, Multiset.mem_cons_of_mem hmem⟩
  | close u other rest hheld =>
    refine ⟨Finset.mem_insert_of_mem, ?_⟩
    rintro ⟨task, hmem⟩
    rw [hheld] at hmem
    rcases Multiset.mem_cons.1 hmem with heq | hmem
    · exact .inl ((Prod.mk.inj heq).1 ▸ Finset.mem_insert_self ..)
    · exact .inr ⟨task, hmem⟩

abbrev Steps : Desk → Desk → Prop := Relation.ReflTransGen Step

theorem Steps.sound (hsteps : Steps d d') (h : d.Sound) : d'.Sound := by
  induction hsteps with
  | refl => exact h
  | tail _ hstep ih => exact hstep.sound ih

theorem Steps.carries (hsteps : Steps d d') {t : Nat}
    (h : t ∈ d.closed ∨ ∃ task, (t, task) ∈ d.held) :
    t ∈ d'.closed ∨ ∃ task, (t, task) ∈ d'.held := by
  induction hsteps with
  | refl => exact h
  | tail _ hstep ih =>
    obtain ⟨hclosed, hheld⟩ := hstep.carries t
    exact ih.elim (fun hmem => .inl (hclosed hmem)) hheld

theorem Steps.closed (hsteps : Steps d d') : d.closed ⊆ d'.closed := by
  induction hsteps with
  | refl => exact Finset.Subset.refl _
  | tail _ hstep ih => exact ih.trans fun t => (hstep.carries t).1

/-- The first task waits for a token under which the second is registered. -/
def Awaits (d : Desk) (a b : Nat) : Prop :=
  ∃ tokens t, d.awaits[a]? = some tokens ∧ t ∈ tokens ∧ (t, b) ∈ d.held

theorem Sound.awaits_quiet (h : d.Sound) {a b : Nat} (hawaits : d.Awaits a b) : b ∈ d.quiet := by
  obtain ⟨tokens, t, htokens, ht, hheld⟩ := hawaits
  exact (h.awaited tokens (List.mem_of_getElem? htokens) t ht).2 b hheld

/-- Whoever is reached has an older token than whoever waits. -/
theorem Sound.older (h : d.Sound) {a b : Nat} (hpath : Relation.TransGen d.Awaits a b) :
    ∃ u, (u, b) ∈ d.held ∧ ∀ t, (t, a) ∈ d.held → u < t := by
  have hstep : ∀ {x y : Nat}, d.Awaits x y →
      ∃ u, (u, y) ∈ d.held ∧ ∀ t, (t, x) ∈ d.held → u < t := by
    rintro x y ⟨tokens, u, htokens, hu, hheld⟩
    refine ⟨u, hheld, fun t ht => ?_⟩
    obtain ⟨-, found, hfound, hbelow⟩ := h.registered t x ht
    exact hbelow u (Option.some.inj (htokens.symm.trans hfound) ▸ hu)
  induction hpath with
  | single hedge => exact hstep hedge
  | tail _ hedge ih =>
    obtain ⟨u, hu, holder⟩ := ih
    obtain ⟨v, hv, holder'⟩ := hstep hedge
    exact ⟨v, hv, fun t ht => (holder' u hu).trans (holder t ht)⟩

theorem Sound.acyclic (h : d.Sound) (a : Nat) : ¬Relation.TransGen d.Awaits a a := by
  intro hcycle
  obtain ⟨u, hu, holder⟩ := h.older hcycle
  exact Nat.lt_irrefl u (holder u hu)

end Desk

end Dbotter.Program
