import Dbotter.Service.BookRuns

/-!
What a fence retires, and what happens while the configuration is uncertain.
-/

namespace Dbotter.Service
open Dbotter.Utf8 Dbotter.Execution Dbotter.Configuration Dbotter.Program
open ObservedState Dbotter.Program.System

variable {ρ : Type}

theorem Stood.mono {log later : Log} {x : Entry ApplicationService Event}
    {s : ApplicationService} {p : ProfileId} {g : ProfileGeneration} {dead : Bool}
    (h : Stood log x.before p g dead) : Stood (log ++ x :: later) s p g dead := by
  rcases h with h | ⟨y, hy, h⟩
  · exact .inr ⟨x, by simp, h⟩
  · exact .inr ⟨y, by simp [hy], h⟩

/-- Where the last member of a list with a property is, if the second part has one with it. -/
theorem last_mem_right {α : Type} {P : α → Prop} {earlier later left right : List α} {m : α}
    (h : earlier ++ m :: later = left ++ right) (hlater : ∀ a ∈ later, ¬P a)
    (hright : ∃ a ∈ right, P a) : m ∈ right := by
  rcases List.append_eq_append_iff.1 h with ⟨middle, rfl, heq⟩ | ⟨middle, rfl, rfl⟩
  · cases middle with
    | nil =>
      rw [List.nil_append] at heq
      rw [← heq]
      exact List.mem_cons_self
    | cons first middle =>
      obtain ⟨a, ha, hP⟩ := hright
      cases heq
      exact absurd hP (hlater a (List.mem_append_right _ ha))
  · simp

/-- The last observation of a call is in a part of the trace in which it observes. -/
theorem observes_in {p : ProfileId} {g : ProfileGeneration} {i : Nat} {left right : Log}
    (h : Observes p g (history i (left ++ right)))
    (hright : ∃ y ∈ right, y.call = i ∧ ∃ q n, y.event = some (.observed q n)) :
    ∃ z ∈ right, z.call = i ∧ z.event = some (.observed p g) ∧
      z.before.generationIs p g = true ∧ z.before.configUncertain = false := by
  obtain ⟨earlier, s, s', later, heq, hlater, hcurrent, hcertain⟩ := h
  have hsplit : history i (left ++ right) = history i left ++ history i right := by
    simp [history]
  have hmem : (s, some (Event.observed p g), s') ∈ history i right := by
    apply last_mem_right (P := fun x : _ × Option Event × ApplicationService =>
      ∃ q n, x.2.1 = some (.observed q n)) (heq.symm.trans hsplit)
    · rintro x hx ⟨q, n, hobserved⟩
      exact hlater x hx q n hobserved
    · obtain ⟨y, hy, hcall, q, n, hevent⟩ := hright
      refine ⟨(y.before, y.event, y.after), ?_, q, n, hevent⟩
      simp only [history, List.mem_map, List.mem_filter, beq_iff_eq]
      exact ⟨y, ⟨hy, hcall⟩, rfl⟩
  simp only [history, List.mem_map, List.mem_filter, beq_iff_eq] at hmem
  obtain ⟨z, ⟨hz, hcall⟩, hstep⟩ := hmem
  obtain ⟨rfl, hevent⟩ := Prod.mk.inj hstep
  exact ⟨z, hz, hcall, (Prod.mk.inj hevent).1, hcurrent, hcertain⟩

/-! ## The fence -/

/-- What the fence `x` retires: everything that stood by then. -/
structure Retires (sys : ServiceSystem ρ) (before : Log) (x : Entry ApplicationService Event)
    (after : Log) : Prop where
  live : (∀ y ∈ after, ∀ p g, y.before.observed.live p = some g →
      ∀ q old dead, Stood before x.before q old dead → old < g) ∧
    ∀ p g, sys.shared.observed.live p = some g →
      ∀ q old dead, Stood before x.before q old dead → old < g
  leased : ∀ y ∈ after, ∀ g lease, y.event = some (.leased g lease) →
    ∀ q old dead, Stood before x.before q old dead → old < g
  /-- A successful operation of a retired generation made its last observation before. -/
  operations : ∀ i command outcome identity q dead,
    sys.calls[i]? = some ⟨command, .finished (.ok outcome)⟩ →
    command.operation = some identity →
    Stood before x.before q identity.profileGeneration dead →
    ∀ y ∈ x :: after, y.call = i → ∀ p g, y.event ≠ some (.observed p g)

/-- **The fence.** From its step on no generation that ever stood before is live, leased or
successfully observed again, whatever is reloaded later. -/
theorem fence_retires (split : Text → Option (List Text)) (loaded : LoadedConfig)
    (actions : List (Action (Answer ρ) Command)) (before after : Log)
    (x : Entry ApplicationService Event)
    (hlog : (runService split loaded actions).trace = before ++ x :: after)
    (hfence : x.event = some .fenced) :
    Retires (runService split loaded actions) before x after := by
  obtain ⟨ghost, hregistered, -⟩ := runService_registered split loaded actions
  have hpath : Path (ApplicationService.initial loaded) (runService split loaded actions).trace
    (runService split loaded actions).shared := run_path _ actions
  rw [hlog] at hpath
  obtain ⟨middle, -, rfl, hafter⟩ := Path.append.1 hpath
  have hturned := (hregistered.steps before x after hlog).2.1
  have hlive := hafter.keeps (I := fun s => ∀ p g, s.observed.live p = some g →
    ∀ q old dead, Stood before x.before q old dead → old < g)
    (fun p g hg => hturned.raised p g hg (.inr (.inr hfence))) ?_
  case refine_1 =>
    -- what becomes live later is above everything before it
    intro y hy hkept p g hg q old dead hold
    by_cases hsame : y.before.observed.live p = some g
    · exact hkept p g hsame q old dead hold
    · obtain ⟨front, rear, rfl⟩ := List.append_of_mem hy
      have hturned := (hregistered.steps (before ++ x :: front) y rear (by simp [hlog])).2.1
      exact hturned.raised p g hg (.inl hsame) q old dead hold.mono
  refine ⟨hlive, ?_, ?_⟩
  · intro y hy g lease hevent
    obtain ⟨front, rear, rfl⟩ := List.append_of_mem hy
    obtain ⟨-, -, γ, γ', -, hstep⟩ :=
      hregistered.steps (before ++ x :: front) y rear (by simp [hlog])
    rw [hevent] at hstep
    cases hstep with
    | still hpermits hbooks => exact hlive.1 y hy lease.profileId g hpermits.2
  · intro i command outcome identity q dead hcall hoperation hold y hy hyi p g hobserved
    have hobserves := (runService_sessionsSafe split loaded actions).observed i command outcome
      hcall identity hoperation
    rw [hlog] at hobserves
    obtain ⟨z, hz, -, hevent, hcurrent, -⟩ :=
      observes_in hobserves ⟨y, hy, hyi, p, g, hobserved⟩
    rcases List.mem_cons.1 hz with rfl | hz
    · rw [hfence] at hevent
      cases hevent
    · have hlast : z.before.observed.live identity.profileId = some identity.profileGeneration := by
        simpa [ApplicationService.generationIs, ObservedState.live] using hcurrent
      exact lt_irrefl _ (hlive.1 z hz _ _ hlast q _ dead hold)

/-! ### A reload that finds no file, and one that finds it again -/

def answering (loadPath : Option LoadedConfig) : Answer Unit :=
  { silence 0 with connect := .ok (), reply := .ok (), loadPath }

/-- A check succeeds, a reload puts up the fence, a check under the old generation fails, and a
second reload finds the same file. -/
def fencing : List (Action (Answer Unit) Command) :=
  let config := plainConfig [plainProfile "a" 3306]
  .start (.check ⟨"a".toList, 1, 1⟩) :: List.replicate 12 (.advance 0 (answering none)) ++
    .start .reload :: List.replicate 8 (.advance 1 (answering none)) ++
    .start (.check ⟨"a".toList, 1, 2⟩) :: List.replicate 2 (.advance 2 (answering none)) ++
    .start .reload :: List.replicate 10 (.advance 3 (answering (some config)))

abbrev fenced : ServiceSystem Unit :=
  runService (fun _ => none) (plainConfig [plainProfile "a" 3306]) fencing

theorem fence_retires_reload : ∃ x,
    fenced.trace = fenced.trace.take 13 ++ x :: fenced.trace.drop 14 ∧
      Retires fenced (fenced.trace.take 13) x (fenced.trace.drop 14) := by
  obtain ⟨x, hlog, hx⟩ := entry_at fenced.trace (k := 13)
    (f := fun x => x.event == some .fenced) (b := true) (by decide +kernel)
  exact ⟨x, hlog, fence_retires (fun _ => none) (plainConfig [plainProfile "a" 3306]) fencing _ _ x
    hlog (by simpa using hx)⟩

/-! ## Windows of uncertainty -/

/-- What the steps of a run leave alone while the configuration is uncertain. -/
structure BooksKept (sys : ServiceSystem ρ) : Prop where
  /-- A lease is for the live generation of a certain configuration. -/
  leased : ∀ x ∈ sys.trace, ∀ g lease, x.event = some (.leased g lease) →
    x.before.configUncertain = false ∧ x.before.observed.live lease.profileId = some g
  /-- Only a reload publishes a ledger while the configuration is uncertain, -/
  published : ∀ x ∈ sys.trace, ∀ command progress,
    sys.calls[x.call]? = some ⟨command, progress⟩ → x.event = some .published →
    command.reloads = true ∨ x.before.configUncertain = false
  /-- and only a reload ends the uncertainty. -/
  lowered : ∀ x ∈ sys.trace, ∀ command progress,
    sys.calls[x.call]? = some ⟨command, progress⟩ → x.before.configUncertain = true →
    x.after.configUncertain = false → command.reloads = true
  /-- A credential goes to a profile of a certain configuration, unless a cleanup stores it; on
  its own it goes to the session profile whose live generation it was entered for. -/
  credited : ∀ x ∈ sys.trace, ∀ command progress p secret,
    sys.calls[x.call]? = some ⟨command, progress⟩ → x.event = some (.stored p (.replace secret)) →
    Credits command x.before p

/-- **The books.** They are kept after every schedule of calls. -/
theorem runService_booksKept (split : Text → Option (List Text)) (loaded : LoadedConfig)
    (actions : List (Action (Answer ρ) Command)) : BooksKept (runService split loaded actions) := by
  obtain ⟨ghost, hregistered, hcommands⟩ := runService_registered split loaded actions
  have hstep (x) (hx : x ∈ (runService split loaded actions).trace) :
      ∃ γ γ', γ.command = (ghost x.call).command ∧ BookStep γ x.before x.event x.after γ' := by
    obtain ⟨front, rear, heq⟩ := List.append_of_mem hx
    exact (hregistered.steps front x rear heq).2.2
  refine ⟨?_, ?_, ?_, ?_⟩
  · intro x hx g lease hevent
    obtain ⟨γ, γ', -, h⟩ := hstep x hx
    rw [hevent] at h
    cases h with
    | still hpermits hbooks => exact hpermits
  · intro x hx command progress hcall hevent
    obtain ⟨γ, γ', hγ, h⟩ := hstep x hx
    rw [hcommands x.call command progress hcall] at hγ
    rw [hevent] at h
    cases h with
    | still hpermits hbooks => exact hpermits.elim
    | publish hreserved hturn hnext hflag hforced hcertain =>
      rw [hγ] at hcertain
      exact hcertain
  · intro x hx command progress hcall hbefore hafter
    obtain ⟨γ, γ', hγ, h⟩ := hstep x hx
    rw [hcommands x.call command progress hcall] at hγ
    have hsame : x.after.configUncertain ≠ x.before.configUncertain := by
      rw [hbefore, hafter]
      exact Bool.false_ne_true
    generalize x.event = e at h
    cases h with
    | still hpermits hbooks => exact absurd (congrArg Prod.snd hbooks) hsame
    | flag hledger hlowered =>
      rw [← hγ]
      exact hlowered hafter
    | reserve hobserved hnext hflag => exact absurd hflag hsame
    | publish hreserved hturn hnext hflag hforced hcertain => exact absurd hflag hsame
    | fence hturn hconfig huncertain hflag =>
      rw [hafter] at hflag
      cases hflag
  · intro x hx command progress p secret hcall hevent
    obtain ⟨γ, γ', hγ, h⟩ := hstep x hx
    rw [hcommands x.call command progress hcall] at hγ
    rw [hevent] at h
    cases h with
    | still hpermits hbooks =>
      rw [hγ] at hpermits
      exact hpermits

/-- What a window of the trace in which the flag stays up rules out. -/
structure Suspended (sys : ServiceSystem ρ) (window after : Log) : Prop where
  uncertain : ∀ x ∈ window, x.before.configUncertain = true
  leased : ∀ x ∈ window, ∀ g lease, x.event ≠ some (.leased g lease)
  published : ∀ x ∈ window, ∀ command progress,
    sys.calls[x.call]? = some ⟨command, progress⟩ → x.event = some .published →
    command.reloads = true
  credited : ∀ x ∈ window, ∀ command progress p secret,
    sys.calls[x.call]? = some ⟨command, progress⟩ → x.event = some (.stored p (.replace secret)) →
    ∃ cleanup, command = .applyCleanup cleanup
  /-- An operation that succeeds and observes in the window observes once more after it. -/
  operations : ∀ i command outcome,
    sys.calls[i]? = some ⟨command, .finished (.ok outcome)⟩ → command.operation.isSome = true →
    (∃ x ∈ window, x.call = i ∧ ∃ p g, x.event = some (.observed p g)) →
    ∃ x ∈ after, x.call = i ∧ ∃ p g, x.event = some (.observed p g)

/-- **A window of uncertainty.** From a moment at which the configuration is uncertain to the
first reload that makes it certain again. -/
theorem uncertain_window (split : Text → Option (List Text)) (loaded : LoadedConfig)
    (actions : List (Action (Answer ρ) Command)) (before window after : Log)
    (first : Entry ApplicationService Event)
    (hlog : (runService split loaded actions).trace = before ++ first :: window ++ after)
    (hfirst : first.before.configUncertain = true)
    (hreloads : ∀ x ∈ first :: window, ∀ command progress,
      (runService split loaded actions).calls[x.call]? = some ⟨command, progress⟩ →
      command.reloads = true → x.after.configUncertain = true) :
    Suspended (runService split loaded actions) (first :: window) after := by
  have hkept := runService_booksKept split loaded actions
  obtain ⟨ghost, hregistered, -⟩ := runService_registered split loaded actions
  have hmem (x) (hx : x ∈ first :: window) : x ∈ (runService split loaded actions).trace := by
    rw [hlog]
    exact List.mem_append_left _ (List.mem_append_right _ hx)
  have hpath : Path (ApplicationService.initial loaded) (runService split loaded actions).trace
    (runService split loaded actions).shared := run_path _ actions
  rw [hlog, List.append_assoc] at hpath
  obtain ⟨s, -, hrest⟩ := Path.append.1 hpath
  obtain ⟨s', hwindow, -⟩ := Path.append.1 hrest
  have huncertain := (hwindow.keeps (I := fun s => s.configUncertain = true) ?_ ?_).1
  · refine ⟨huncertain, ?_, ?_, ?_, ?_⟩
    · intro x hx g lease hevent
      have hcertain := (hkept.leased x (hmem x hx) g lease hevent).1
      rw [huncertain x hx] at hcertain
      cases hcertain
    · intro x hx command progress hcall hevent
      rcases hkept.published x (hmem x hx) command progress hcall hevent with h | hcertain
      · exact h
      · rw [huncertain x hx] at hcertain
        cases hcertain
    · intro x hx command progress p secret hcall hevent
      have hcredits := hkept.credited x (hmem x hx) command progress p secret hcall hevent
      have hflag := huncertain x hx
      cases command with
      | applyCleanup cleanup => exact ⟨cleanup, rfl⟩
      | _ =>
        have hcertain : x.before.configUncertain = false := hcredits.1
        rw [hflag] at hcertain
        cases hcertain
    · rintro i command outcome hcall hoperation ⟨x, hx, hxi, p, g, hevent⟩
      obtain ⟨identity, hidentity⟩ := Option.isSome_iff_exists.1 hoperation
      have hobserves := (runService_sessionsSafe split loaded actions).observed i command outcome
        hcall identity hidentity
      rw [hlog, List.append_assoc] at hobserves
      obtain ⟨z, hz, hzi, hzevent, -, hcertain⟩ :=
        observes_in hobserves ⟨x, List.mem_append_left _ hx, hxi, p, g, hevent⟩
      rcases List.mem_append.1 hz with hz | hz
      · rw [huncertain z hz] at hcertain
        cases hcertain
      · exact ⟨z, hz, hzi, _, _, hzevent⟩
  · obtain ⟨rfl, -⟩ := hwindow
    exact hfirst
  · intro x hx hbefore
    cases hafter : x.after.configUncertain with
    | true => rfl
    | false =>
      obtain ⟨front, rear, heq⟩ := List.append_of_mem (hmem x hx)
      have hlt := (hregistered.steps front x rear heq).1
      have hcall : ∃ command progress, (runService split loaded actions).calls[x.call]? =
          some ⟨command, progress⟩ := ⟨_, _, List.getElem?_eq_getElem hlt⟩
      obtain ⟨command, progress, hcall⟩ := hcall
      have hreload := hkept.lowered x (hmem x hx) command progress hcall hbefore hafter
      rw [hreloads x hx command progress hcall hreload] at hafter
      cases hafter

/-- The window from the fence to the end of the second reload. -/
theorem uncertain_window_reload : ∃ first,
    fenced.trace = fenced.trace.take 13 ++ first :: (fenced.trace.drop 14).take 8 ++
        fenced.trace.drop 22 ∧
      Suspended fenced (first :: (fenced.trace.drop 14).take 8) (fenced.trace.drop 22) := by
  obtain ⟨first, hlog, hfirst⟩ := entry_at fenced.trace (k := 13)
    (f := fun x => x.before.configUncertain && x.after.configUncertain) (b := true)
    (by decide +kernel)
  rw [Bool.and_eq_true] at hfirst
  have hsplit : fenced.trace = fenced.trace.take 13 ++ first :: (fenced.trace.drop 14).take 8 ++
      fenced.trace.drop 22 := by
    have hdrop : (fenced.trace.drop 14).take 8 ++ fenced.trace.drop 22 = fenced.trace.drop 14 := by
      rw [show fenced.trace.drop 22 = (fenced.trace.drop 14).drop 8 by rw [List.drop_drop]]
      exact List.take_append_drop 8 _
    rw [List.append_assoc, List.cons_append, hdrop]
    exact hlog
  refine ⟨first, hsplit, uncertain_window (fun _ => none) (plainConfig [plainProfile "a" 3306])
    fencing _ _ _ first hsplit hfirst.1 ?_⟩
  intro x hx command progress _ _
  rcases List.mem_cons.1 hx with rfl | hx
  · exact hfirst.2
  · have hall : ((fenced.trace.drop 14).take 8).all (fun x => x.after.configUncertain) = true := by
      decide +kernel
    exact List.all_eq_true.1 hall x hx

end Dbotter.Service
