import Dbotter.Ui.Desktop

/-!
Invariants of whole runs of the desktop.

An invariant is about the board and the events heard so far. It holds along every run once it
holds at the start and is kept by each step of a submission, by each event, and by the pruning
at the end of a poll.
-/

namespace Dbotter.Ui
open Dbotter.Utf8 Dbotter.Configuration Dbotter.Service Dbotter.Drivers

def UiCommand.isCancel : UiCommand → Bool
  | .cancelOperation _ => true
  | _ => false

/-- A command that was put on a lane has been answered. -/
def Ended (sent : List UiCommand) (heard : List UiEvent) (o : OperationId) : Prop :=
  ∃ event ∈ heard, ∃ command ∈ sent, command.operationId = o ∧ command.endedBy event

instance (sent : List UiCommand) (heard : List UiEvent) (o : OperationId) :
    Decidable (Ended sent heard o) :=
  decidable_of_iff (heard.any fun event => sent.any fun command =>
    command.operationId == o && command.endedBy event) (by simp [Ended])

/-- What the controller may have emitted. -/
def Expected (sent : List UiCommand) (event : UiEvent) : Prop :=
  (∃ command ∈ sent, command.endedBy event) ∨ (∃ o, event = .runtimeShutdown o) ∨
    ∃ o summary error, event = .profilesFailed o summary error

theorem expected_of_mayEmit {port : UiPort} {event : UiEvent} (h : port.mayEmit event) :
    Expected port.sent event := by
  unfold UiPort.mayEmit at h
  rw [Bool.or_eq_true, List.any_eq_true] at h
  rcases h with h | h
  · exact .inl h
  · cases event with
    | runtimeShutdown o => exact .inr (.inl ⟨o, rfl⟩)
    | profilesFailed o summary error => exact .inr (.inr ⟨o, summary, error, rfl⟩)
    | _ => cases h

namespace Board

/-! ## What a step issues -/

/-- What a step leaves alone. -/
structure SameConfig (b b' : Board) : Prop where
  events : b'.events = b.events
  profiles : b'.profiles = b.profiles
  activeGenerations : b'.activeGenerations = b.activeGenerations
  tombstones : b'.tombstones = b.tombstones
  configUncertain : b'.configUncertain = b.configUncertain
  lastProfilesOperation : b'.lastProfilesOperation = b.lastProfilesOperation

/-- The commands of a step: none, a cancellation, or one under a fresh operation. -/
inductive Issues (b b' : Board) : Prop
  | nothing (hsent : b'.sent = b.sent) (hmerged : b'.merged = b.merged)
      (hnext : b.nextOperationId ≤ b'.nextOperationId)
  | cancel (command : UiCommand) (hcancel : command.isCancel)
      (hissued : b'.sent = b.sent ++ [command] ∧ b'.merged = b.merged ∨
        b'.sent = b.sent ∧ b'.merged = b.merged ++ [command])
      (hnext : b'.nextOperationId = b.nextOperationId)
  | fresh (command : UiCommand) (ho : command.operationId = b.nextOperationId)
      (hissued : b'.sent = b.sent ++ [command] ∧ b'.merged = b.merged ∨
        b'.sent = b.sent ∧ b'.merged = b.merged ++ [command])
      (hnext : b'.nextOperationId = b.nextOperationId + 1)

theorem Marks.frame {command : UiCommand} {b b' : Board} (h : Marks command b b') :
    b'.sent = b.sent ∧ b'.merged = b.merged ∧ b'.nextOperationId = b.nextOperationId ∧
      SameConfig b b' := by
  cases h <;> exact ⟨rfl, rfl, rfl, rfl, rfl, rfl, rfl, rfl, rfl⟩

theorem Step.sameConfig {b b' : Board} (h : Step b b') : SameConfig b b' := by
  cases h with
  | start command ho marks =>
    obtain ⟨-, -, -, h⟩ := marks.frame
    exact ⟨h.events, h.profiles, h.activeGenerations, h.tombstones, h.configUncertain,
      h.lastProfilesOperation⟩
  | merge command ho hlane marks =>
    obtain ⟨-, -, -, h⟩ := marks.frame
    exact ⟨h.events, h.profiles, h.activeGenerations, h.tombstones, h.configUncertain,
      h.lastProfilesOperation⟩
  | _ => exact ⟨rfl, rfl, rfl, rfl, rfl, rfl⟩

theorem Step.issues {b b' : Board} (h : Step b b') : Issues b b' := by
  cases h with
  | skip => exact .nothing rfl rfl (Nat.le_succ _)
  | side command hside ho => exact .fresh command ho (.inl ⟨rfl, rfl⟩) rfl
  | cancel o => exact .cancel (.cancelOperation o) rfl (.inl ⟨rfl, rfl⟩) rfl
  | cancelMerged o => exact .cancel (.cancelOperation o) rfl (.inr ⟨rfl, rfl⟩) rfl
  | start command ho marks =>
    obtain ⟨hsent, hmerged, hnext, -⟩ := marks.frame
    exact .fresh command ho (.inl ⟨hsent, hmerged⟩) hnext
  | merge command ho hlane marks =>
    obtain ⟨hsent, hmerged, hnext, -⟩ := marks.frame
    exact .fresh command ho (.inr ⟨hsent, hmerged⟩) hnext
  | tidyMysql => exact .nothing rfl rfl le_rfl
  | tidyRedis => exact .nothing rfl rfl le_rfl
  | edit => exact .nothing rfl rfl le_rfl

theorem Step.sent_mono {b b' : Board} (h : Step b b') {command : UiCommand}
    (hmem : command ∈ b.sent) : command ∈ b'.sent := by
  cases h.issues with
  | nothing hsent => rwa [hsent]
  | cancel other hcancel hissued | fresh other ho hissued =>
    obtain ⟨hsent, -⟩ | ⟨hsent, -⟩ := hissued
    · rw [hsent]
      exact List.mem_append_left _ hmem
    · rwa [hsent]

theorem Step.next_le {b b' : Board} (h : Step b b') : b.nextOperationId ≤ b'.nextOperationId := by
  cases h.issues with
  | nothing hsent hmerged hnext => exact hnext
  | cancel other hcancel hissued hnext => exact hnext.ge
  | fresh other ho hissued hnext => exact hnext ▸ Nat.le_succ _

/-! ## The base -/

/-- Commands carry operations of their own, and what was heard was expected. -/
structure Based (b : Board) (heard : List UiEvent) : Prop where
  lt_next : ∀ command ∈ b.sent ++ b.merged, command.isCancel = false →
    command.operationId < b.nextOperationId
  distinct : ∀ command ∈ b.sent ++ b.merged, ∀ command' ∈ b.sent ++ b.merged,
    command.isCancel = false → command'.isCancel = false →
    command.operationId = command'.operationId → command = command'
  expected : ∀ event ∈ heard, Expected b.sent event
  aboveTombstones : ∀ p g, b.activeGenerations p = some g → (b.tombstones p).all (· < g)

theorem expected_mono {sent sent' : List UiCommand} {event : UiEvent}
    (h : Expected sent event) (hle : ∀ command ∈ sent, command ∈ sent') :
    Expected sent' event := by
  obtain ⟨command, hmem, hends⟩ | h := h
  · exact .inl ⟨command, hle command hmem, hends⟩
  · exact .inr h

theorem not_isCancel_of_endedBy {command : UiCommand} {event : UiEvent}
    (h : command.endedBy event) : command.isCancel = false := by
  cases command <;> first | rfl | cases h

theorem Based.step {b b' : Board} {heard : List UiEvent} (h : Based b heard) (hstep : Step b b') :
    Based b' heard := by
  have hconfig := hstep.sameConfig
  have hexpected : ∀ event ∈ heard, Expected b'.sent event := fun event hevent =>
    expected_mono (h.expected event hevent) fun _ => hstep.sent_mono
  have htombstones : ∀ p g, b'.activeGenerations p = some g → (b'.tombstones p).all (· < g) := by
    rw [hconfig.activeGenerations, hconfig.tombstones]
    exact h.aboveTombstones
  cases hstep.issues with
  | nothing hsent hmerged hnext =>
    refine ⟨?_, ?_, hexpected, htombstones⟩
    · rw [hsent, hmerged]
      exact fun command hmem hcancel => lt_of_lt_of_le (h.lt_next command hmem hcancel) hnext
    · rw [hsent, hmerged]
      exact h.distinct
  | cancel issued hcancel hissued hnext =>
    have hold : ∀ command ∈ b'.sent ++ b'.merged, command.isCancel = false →
        command ∈ b.sent ++ b.merged := by
      intro command hmem hother
      have hne : command ≠ issued := by
        rintro rfl
        rw [hcancel] at hother
        cases hother
      obtain ⟨hsent, hmerged⟩ | ⟨hsent, hmerged⟩ := hissued <;> rw [hsent, hmerged] at hmem <;>
        simpa [hne] using hmem
    refine ⟨fun command hmem hother => ?_, fun command hmem command' hmem' hother hother' => ?_,
      hexpected, htombstones⟩
    · rw [hnext]
      exact h.lt_next command (hold command hmem hother) hother
    · exact h.distinct command (hold command hmem hother) command' (hold command' hmem' hother')
        hother hother'
  | fresh issued ho hissued hnext =>
    have hold : ∀ command ∈ b'.sent ++ b'.merged,
        command ∈ b.sent ++ b.merged ∨ command = issued := by
      intro command hmem
      obtain ⟨hsent, hmerged⟩ | ⟨hsent, hmerged⟩ := hissued <;> rw [hsent, hmerged] at hmem
      · simp only [List.mem_append, List.mem_singleton] at hmem ⊢
        tauto
      · simp only [List.mem_append, List.mem_singleton] at hmem ⊢
        tauto
    refine ⟨fun command hmem hother => ?_, fun command hmem command' hmem' hother hother' heq => ?_,
      hexpected, htombstones⟩
    · rw [hnext]
      obtain hmem | rfl := hold command hmem
      · exact Nat.lt_succ_of_lt (h.lt_next command hmem hother)
      · exact ho ▸ Nat.lt_succ_self _
    · obtain hmem | rfl := hold command hmem <;> obtain hmem' | rfl := hold command' hmem'
      · exact h.distinct command hmem command' hmem' hother hother' heq
      · exact absurd (heq.trans ho) (Nat.ne_of_lt (h.lt_next command hmem hother))
      · exact absurd (heq.symm.trans ho) (Nat.ne_of_lt (h.lt_next command' hmem' hother'))
      · rfl

/-! ## Operations that have ended -/

/-- A step ends no operation that had been taken before it. -/
theorem Step.ended {b b' : Board} {heard : List UiEvent} {o : OperationId} (hstep : Step b b')
    (ho : o < b.nextOperationId) (hended : Ended b'.sent heard o) : Ended b.sent heard o := by
  obtain ⟨event, hevent, command, hmem, rfl, hends⟩ := hended
  refine ⟨event, hevent, command, ?_, rfl, hends⟩
  cases hstep.issues with
  | nothing hsent => rwa [hsent] at hmem
  | cancel issued hcancel hissued =>
    obtain ⟨hsent, -⟩ | ⟨hsent, -⟩ := hissued <;> rw [hsent] at hmem
    · obtain hmem | hmem := List.mem_append.1 hmem
      · exact hmem
      · rw [List.mem_singleton.1 hmem] at hends
        rw [not_isCancel_of_endedBy hends] at hcancel
        cases hcancel
    · exact hmem
  | fresh issued hissuedOp hissued =>
    obtain ⟨hsent, -⟩ | ⟨hsent, -⟩ := hissued <;> rw [hsent] at hmem
    · obtain hmem | hmem := List.mem_append.1 hmem
      · exact hmem
      · rw [List.mem_singleton.1 hmem, hissuedOp] at ho
        exact absurd ho (Nat.lt_irrefl _)
    · exact hmem

/-- The fresh operation of a command that leaves marks has not ended. -/
theorem Marks.not_ended {b b' : Board} {heard : List UiEvent} {command : UiCommand}
    (h : Based b heard) (ho : command.operationId = b.nextOperationId)
    (marks : Marks command
      { b with sent := b.sent ++ [command], nextOperationId := b.nextOperationId + 1 } b') :
    ¬Ended b'.sent heard command.operationId := by
  rintro ⟨event, hevent, ended, hmem, hended, hends⟩
  rw [marks.frame.1] at hmem
  obtain hmem | hmem := List.mem_append.1 hmem
  · have := h.lt_next ended (List.mem_append_left _ hmem) (not_isCancel_of_endedBy hends)
    rw [hended, ho] at this
    exact Nat.lt_irrefl _ this
  · rw [List.mem_singleton.1 hmem] at hends
    obtain ⟨sender, hsender, hsent⟩ | ⟨o, rfl⟩ | ⟨o, summary, error, rfl⟩ := h.expected event hevent
    · have := h.lt_next sender (List.mem_append_left _ hsender) (not_isCancel_of_endedBy hsent)
      rw [← UiCommand.endedBy_operationId hsent, UiCommand.endedBy_operationId hends, ho] at this
      exact Nat.lt_irrefl _ this
    · cases command <;> cases hends
    · cases marks <;> try cases hends
      next editor hfree o form connect =>
        unfold ProfileEditor.saveCommand at hends
        split at hends <;> cases hends

/-- A merged command is not on a lane, so that its operation cannot end. -/
theorem Marks.not_ended_merged {b b' : Board} {heard : List UiEvent} {command : UiCommand}
    (h : Based b heard) (ho : command.operationId = b.nextOperationId)
    (marks : Marks command
      { b with merged := b.merged ++ [command], nextOperationId := b.nextOperationId + 1 } b') :
    ¬Ended b'.sent heard command.operationId := by
  rintro ⟨event, hevent, ended, hmem, hended, hends⟩
  rw [marks.frame.1] at hmem
  have := h.lt_next ended (List.mem_append_left _ hmem) (not_isCancel_of_endedBy hends)
  rw [hended, ho] at this
  exact Nat.lt_irrefl _ this

/-! ## Commands without an answer -/

/-- The command is on a lane and has not been answered. -/
structure Open (b : Board) (heard : List UiEvent) (command : UiCommand) : Prop where
  sent : command ∈ b.sent
  not_ended : ¬Ended b.sent heard command.operationId

theorem Open.congr {b b' : Board} {heard : List UiEvent} {command : UiCommand}
    (h : Open b heard command) (hsent : b'.sent = b.sent) : Open b' heard command := by
  refine ⟨hsent ▸ h.sent, ?_⟩
  rw [hsent]
  exact h.not_ended

theorem Open.step {b b' : Board} {heard : List UiEvent} {command : UiCommand}
    (h : Open b heard command) (hcancel : command.isCancel = false) (hb : Based b heard)
    (hstep : Step b b') : Open b' heard command := by
  have hlt := hb.lt_next command (List.mem_append_left _ h.sent) hcancel
  exact ⟨hstep.sent_mono h.sent, fun hended => h.not_ended (hstep.ended hlt hended)⟩

theorem Open.hear {b b' : Board} {heard : List UiEvent} {command : UiCommand} {event : UiEvent}
    (h : Open b heard command) (hcancel : command.isCancel = false) (hb : Based b heard)
    (hsent : b'.sent = b.sent) (hends : command.endedBy event = false) :
    Open b' (heard ++ [event]) command := by
  refine ⟨hsent ▸ h.sent, ?_⟩
  rw [hsent]
  rintro ⟨event', hevent', ended, hended, ho, hends'⟩
  obtain hevent' | hevent' := List.mem_append.1 hevent'
  · exact h.not_ended ⟨event', hevent', ended, hended, ho, hends'⟩
  · rw [List.mem_singleton.1 hevent'] at hends'
    have hsame : ended = command := hb.distinct ended (List.mem_append_left _ hended) command
      (List.mem_append_left _ h.sent) (not_isCancel_of_endedBy hends') hcancel ho
    rw [hsame, hends] at hends'
    cases hends'

theorem Marks.opens {b b' : Board} {heard : List UiEvent} {command : UiCommand}
    (h : Based b heard) (ho : command.operationId = b.nextOperationId)
    (marks : Marks command
      { b with sent := b.sent ++ [command], nextOperationId := b.nextOperationId + 1 } b') :
    Open b' heard command := by
  refine ⟨?_, marks.not_ended h ho⟩
  rw [marks.frame.1]
  exact List.mem_append_right _ (List.mem_singleton_self _)

/-! ## The rule -/

open DbotterApp Relation

/-- What a chain of steps keeps. -/
theorem Reaches.keeps {I : Board → Prop} (hstep : ∀ b b', Step b b' → I b → I b') {b b' : Board}
    (h : Reaches b b') (hb : I b) : I b' := by
  induction h with
  | refl => exact hb
  | tail _ hlast ih => exact hstep _ _ hlast ih

/-- An event, as far as it moves the board. -/
theorem consumeEvent_board (app : DbotterApp) (event : UiEvent) :
    app.redisResourceEventDisposition event = .ignore ∧
        (app.consumeEvent event).board = app.board ∨
      (∃ o, app.redisResourceEventDisposition event = .staleTerminal o) ∧
        (app.consumeEvent event).board = (app.finishActiveOperation event).board ∨
      (app.redisResourceEventDisposition event = .notRedis ∨
          app.redisResourceEventDisposition event = .apply) ∧
        Reaches (app.settled (app.attachRetryRecipe event)).board
          (app.consumeEvent event).board := by
  unfold consumeEvent
  cases h : app.redisResourceEventDisposition event with
  | ignore => exact .inl ⟨rfl, rfl⟩
  | staleTerminal o => exact .inr (.inl ⟨⟨o, rfl⟩, rfl⟩)
  | notRedis => exact .inr (.inr ⟨.inl rfl, app.applyEvent_reaches event⟩)
  | apply => exact .inr (.inr ⟨.inr rfl, app.applyEvent_reaches event⟩)

/-- What is kept of the board and of the moments so far. -/
structure Kept (I : Board → List Moment → Prop) : Prop where
  start : I ({} : DbotterApp).board []
  step : ∀ {b b' : Board} {moments : List Moment}, Based b (moments.map (·.event)) → Step b b' →
    I b moments → I b' moments
  consume : ∀ {app : DbotterApp} {event : UiEvent} {moments : List Moment},
    Based app.board (moments.map (·.event)) → Expected app.port.sent event →
    I app.board moments → I (app.consumeEvent event).board (moments ++ [⟨app, event⟩])
  prune : ∀ {app : DbotterApp} {moments : List Moment}, I app.board moments →
    I app.prune.board moments
  events : ∀ {b : Board} {moments : List Moment} (events : List UiEvent), I b moments →
    I { b with events } moments

/-- An invariant `I` that every event keeps whose moment meets `C`. -/
structure Keeps (C : Moment → Prop) (I : Board → List UiEvent → Prop) : Prop where
  start : I ({} : DbotterApp).board []
  step : ∀ {b b' : Board} {heard : List UiEvent}, Based b heard → Step b b' → I b heard →
    I b' heard
  consume : ∀ {app : DbotterApp} {event : UiEvent} {heard : List UiEvent},
    Based app.board heard → Expected app.port.sent event → C ⟨app, event⟩ → I app.board heard →
    I (app.consumeEvent event).board (heard ++ [event])
  prune : ∀ {app : DbotterApp} {heard : List UiEvent}, I app.board heard →
    I app.prune.board heard
  events : ∀ {b : Board} {heard : List UiEvent} (events : List UiEvent), I b heard →
    I { b with events } heard

/-- Under the condition on the moments, what is kept on the way. -/
theorem Keeps.kept {C : Moment → Prop} {I : Board → List UiEvent → Prop} (h : Keeps C I) :
    Kept fun b moments => (∀ m ∈ moments, C m) → I b (moments.map (·.event)) where
  start _ := h.start
  step hb hstep hI hC := h.step hb hstep (hI hC)
  consume := by
    intro app event moments hb hexpected hI hC
    rw [List.map_append, List.map_singleton]
    refine h.consume hb hexpected (hC _ ?_) (hI fun m hm => hC m ?_)
    · exact List.mem_append_right _ (List.mem_singleton_self _)
    · exact List.mem_append_left _ hm
  prune hI hC := h.prune (hI hC)
  events events hI hC := h.events events (hI hC)

/-- Every moment of the past was reached with what is kept. -/
structure Remembered (I : Board → List Moment → Prop) (b : Board) (moments : List Moment) :
    Prop where
  now : I b moments
  before : ∀ earlier m later, moments = earlier ++ m :: later →
    I m.app.board earlier ∧ Based m.app.board (earlier.map (·.event)) ∧
      Expected m.app.port.sent m.event

theorem Kept.remembered {I : Board → List Moment → Prop} (h : Kept I) : Kept (Remembered I) where
  start := ⟨h.start, fun earlier m later heq => by simp at heq⟩
  step hb hstep hI := ⟨h.step hb hstep hI.now, hI.before⟩
  consume := by
    intro app event moments hb hexpected hI
    refine ⟨h.consume hb hexpected hI.now, fun earlier m later heq => ?_⟩
    obtain rfl | ⟨later, last, rfl⟩ := later.eq_nil_or_concat'
    · obtain ⟨rfl, hm⟩ := List.append_inj' heq rfl
      obtain rfl := List.singleton_inj.1 hm
      exact ⟨hI.now, hb, hexpected⟩
    · rw [← List.cons_append, ← List.append_assoc] at heq
      obtain ⟨rfl, -⟩ := List.append_inj' heq rfl
      exact hI.before earlier m later rfl
  prune hI := ⟨h.prune hI.now, hI.before⟩
  events events hI := ⟨h.events events hI.now, hI.before⟩

theorem onlyOperations_board {app app' : DbotterApp} (h : OnlyOperations app app') :
    app'.board = { app.board with
      activeOperations := app'.activeOperations
      pendingDeletes := app'.pendingDeletes } := by
  obtain ⟨active, deletes, recipes, rfl⟩ := h
  rfl

theorem Based.hear {b b' : Board} {heard : List UiEvent} {event : UiEvent} (h : Based b heard)
    (hexpected : Expected b.sent event) (hsent : b'.sent = b.sent) (hmerged : b'.merged = b.merged)
    (hnext : b'.nextOperationId = b.nextOperationId)
    (htombstones : ∀ p g, b'.activeGenerations p = some g → (b'.tombstones p).all (· < g)) :
    Based b' (heard ++ [event]) := by
  refine ⟨?_, ?_, ?_, htombstones⟩
  · rw [hsent, hmerged, hnext]
    exact h.lt_next
  · rw [hsent, hmerged]
    exact h.distinct
  · rw [hsent]
    intro event' hevent'
    obtain hevent' | hevent' := List.mem_append.1 hevent'
    · exact h.expected event' hevent'
    · rwa [List.mem_singleton.1 hevent']

theorem Based.reaches {b b' : Board} {heard : List UiEvent} (h : Based b heard)
    (hreaches : Reaches b b') : Based b' heard :=
  Reaches.keeps (I := fun b => Based b heard) (fun _ _ hstep hb => hb.step hstep) hreaches h

/-- What a step keeps on top of the base, a chain of steps keeps. -/
theorem Based.keeps {I : Board → List UiEvent → Prop} {b b' : Board} {heard : List UiEvent}
    (h : Based b heard)
    (hstep : ∀ {c c' : Board}, Based c heard → Step c c' → I c heard → I c' heard)
    (hreaches : Reaches b b') (hI : I b heard) : I b' heard := by
  have hboth : Based b' heard ∧ I b' heard :=
    Reaches.keeps (I := fun c => Based c heard ∧ I c heard)
      (fun _ _ hlast hc => ⟨hc.1.step hlast, hstep hc.1 hlast hc.2⟩) hreaches ⟨h, hI⟩
  exact hboth.2

theorem Based.settled {app : DbotterApp} {event event' : UiEvent} {heard : List UiEvent}
    (h : Based app.board heard) (hexpected : Expected app.port.sent event) :
    Based (app.settled event').board (heard ++ [event]) := by
  refine h.hear hexpected ?_ ?_ ?_ ?_
  · exact congrArg UiPort.sent (app.settled_port event')
  · exact congrArg UiPort.merged (app.settled_port event')
  · show (app.settled event').model.nextOperationId = app.model.nextOperationId
    rw [app.settled_model, UiModel.fold_nextOperationId]
  · show (app.settled event').model.AboveTombstones
    rw [app.settled_model]
    exact UiModel.fold_aboveTombstones h.aboveTombstones event'

theorem Based.consume {app : DbotterApp} {event : UiEvent} {heard : List UiEvent}
    (h : Based app.board heard) (hexpected : Expected app.port.sent event) :
    Based (app.consumeEvent event).board (heard ++ [event]) := by
  obtain ⟨-, heq⟩ | ⟨-, heq⟩ | ⟨-, hreaches⟩ := consumeEvent_board app event
  · rw [heq]
    exact h.hear hexpected rfl rfl rfl h.aboveTombstones
  · rw [heq, onlyOperations_board (app.finishActiveOperation_only event)]
    exact h.hear hexpected rfl rfl rfl h.aboveTombstones
  · exact (h.settled hexpected).reaches hreaches

theorem consumeEvent_next_le (app : DbotterApp) (event : UiEvent) :
    app.model.nextOperationId ≤ (app.consumeEvent event).model.nextOperationId := by
  obtain ⟨-, heq⟩ | ⟨-, heq⟩ | ⟨-, hreaches⟩ := consumeEvent_board app event
  · exact (congrArg Board.nextOperationId heq).ge
  · rw [onlyOperations_board (app.finishActiveOperation_only event)] at heq
    exact (congrArg Board.nextOperationId heq).ge
  · have hle := Reaches.keeps (I := fun b => app.model.nextOperationId ≤ b.nextOperationId)
      (fun _ _ hstep h => le_trans h hstep.next_le) hreaches
    refine hle (le_of_eq ?_)
    show app.model.nextOperationId =
      (app.settled (app.attachRetryRecipe event)).model.nextOperationId
    rw [app.settled_model, UiModel.fold_nextOperationId]

/-- A command that an event does not end stays without an answer. -/
theorem Open.consume {app : DbotterApp} {event : UiEvent} {heard : List UiEvent}
    {command : UiCommand} (h : Open app.board heard command) (hcancel : command.isCancel = false)
    (hb : Based app.board heard) (hexpected : Expected app.port.sent event)
    (hends : command.endedBy event = false) :
    Open (app.consumeEvent event).board (heard ++ [event]) command := by
  obtain ⟨-, heq⟩ | ⟨-, heq⟩ | ⟨-, hreaches⟩ := consumeEvent_board app event
  · rw [heq]
    exact h.hear hcancel hb rfl hends
  · rw [heq, onlyOperations_board (app.finishActiveOperation_only event)]
    exact h.hear hcancel hb rfl hends
  · have hsent : (app.settled (app.attachRetryRecipe event)).board.sent = app.port.sent :=
      congrArg UiPort.sent (app.settled_port _)
    exact (hb.settled hexpected).keeps (I := fun b heard => Open b heard command)
      (fun hb hstep hopen => hopen.step hcancel hb hstep) hreaches
      (h.hear hcancel hb hsent hends)

/-- Pruning removes entries and leaves the rest of the board alone. -/
theorem prune_board (app : DbotterApp) : app.prune.board = { app.board with
    mysqlExplorers := fun key =>
      if app.model.activeGenerations key.profileId = some key.profileGeneration then
        app.mysqlExplorers key
      else none
    redisExplorers := fun key =>
      if !app.model.configUncertain &&
          app.model.activeGenerations key.profileId = some key.profileGeneration then
        app.redisExplorers key
      else none
    activeOperations := fun p => (app.activeOperations p).filter
      (app.model.activeGenerations p = some ·.profileGeneration)
    pendingDeletes := fun p => (app.pendingDeletes p).filter
      (app.model.activeGenerations p = some ·.profileGeneration)
    profileEditor := app.profileEditor.map (·.setConfigUncertain app.model.configUncertain) } := by
  have hredis (app : DbotterApp) : app.pruneRedisExplorers.board = { app.board with
      redisExplorers := fun key =>
        if !app.model.configUncertain &&
            app.model.activeGenerations key.profileId = some key.profileGeneration then
          app.redisExplorers key
        else none } := by
    unfold pruneRedisExplorers
    split
    · next huncertain => simp [huncertain, clearRedisExplorers, board]
    · next hcertain =>
      simp only [Bool.not_eq_true] at hcertain
      simp only [board, hcertain, Bool.not_false, Bool.true_and, decide_eq_true_eq]
  have hactive (app : DbotterApp) : app.pruneActiveOperations.board = { app.board with
      activeOperations := fun p => (app.board.activeOperations p).filter
        (app.board.activeGenerations p = some ·.profileGeneration)
      pendingDeletes := fun p => (app.board.pendingDeletes p).filter
        (app.board.activeGenerations p = some ·.profileGeneration) } := by
    unfold pruneActiveOperations
    simp only
    split <;> rfl
  have hdialogs (app : DbotterApp) : app.refreshDialogs.board = { app.board with
      profileEditor :=
        app.board.profileEditor.map (·.setConfigUncertain app.board.configUncertain) } := rfl
  unfold prune
  rw [hdialogs, hactive, hredis]
  rfl

theorem Reaches.frame {b b' : Board} (h : Reaches b b') :
    SameConfig b b' ∧ ∀ command ∈ b.sent, command ∈ b'.sent := by
  refine Reaches.keeps (I := fun c => SameConfig b c ∧ ∀ command ∈ b.sent, command ∈ c.sent)
    (fun c c' hstep hc => ?_) h ⟨⟨rfl, rfl, rfl, rfl, rfl, rfl⟩, fun _ h => h⟩
  have hsame := hstep.sameConfig
  exact ⟨⟨hsame.events.trans hc.1.events, hsame.profiles.trans hc.1.profiles,
    hsame.activeGenerations.trans hc.1.activeGenerations, hsame.tombstones.trans hc.1.tombstones,
    hsame.configUncertain.trans hc.1.configUncertain,
    hsame.lastProfilesOperation.trans hc.1.lastProfilesOperation⟩,
    fun command hmem => hstep.sent_mono (hc.2 command hmem)⟩

/-- Consuming an event takes no other event and withdraws no command. -/
theorem consumeEvent_port (app : DbotterApp) (event : UiEvent) :
    (app.consumeEvent event).port.events = app.port.events ∧
      ∀ command ∈ app.port.sent, command ∈ (app.consumeEvent event).port.sent := by
  obtain ⟨-, heq⟩ | ⟨-, heq⟩ | ⟨-, hreaches⟩ := consumeEvent_board app event
  · have hsent : (app.consumeEvent event).port.sent = app.port.sent := congrArg Board.sent heq
    exact ⟨congrArg Board.events heq, fun command hmem => hsent ▸ hmem⟩
  · rw [onlyOperations_board (app.finishActiveOperation_only event)] at heq
    have hsent : (app.consumeEvent event).port.sent = app.port.sent := congrArg Board.sent heq
    exact ⟨congrArg Board.events heq, fun command hmem => hsent ▸ hmem⟩
  · obtain ⟨hsame, hsent⟩ := Reaches.frame hreaches
    have hport := app.settled_port (app.attachRetryRecipe event)
    refine ⟨hsame.events.trans (congrArg UiPort.events hport), fun command hmem => hsent command ?_⟩
    show command ∈ (app.settled (app.attachRetryRecipe event)).port.sent
    rwa [hport]

end Board

namespace Desktop
open Board DbotterApp

def heard (d : Desktop) : List UiEvent := d.consumed.map (·.event)

/-- What is known of a desktop along a run. -/
structure Sound (I : Board → List Moment → Prop) (d : Desktop) : Prop where
  based : Based d.app.board d.heard
  awaited : ∀ event ∈ d.app.port.events, Expected d.app.port.sent event
  holds : I d.app.board d.consumed

variable {I : Board → List Moment → Prop}

theorem Sound.reaches {d : Desktop} {app : DbotterApp} (hI : Kept I) (h : d.Sound I)
    (hreaches : Reaches d.app.board app.board) : Sound I { d with app } := by
  obtain ⟨hsame, hsent⟩ := Reaches.frame hreaches
  refine ⟨h.based.reaches hreaches, fun event hevent => ?_, ?_⟩
  · have : app.port.events = d.app.port.events := hsame.events
    exact expected_mono (h.awaited event (this ▸ hevent)) hsent
  · exact h.based.keeps (I := fun b _ => I b d.consumed) (fun hb hstep => hI.step hb hstep)
      hreaches h.holds

theorem Sound.consume {d : Desktop} {event : UiEvent} (hI : Kept I) (h : d.Sound I)
    (hexpected : Expected d.app.port.sent event) : (d.consume event).Sound I := by
  have hheard : (d.consume event).heard = d.heard ++ [event] := by
    simp [heard, Desktop.consume]
  obtain ⟨hevents, hsent⟩ := consumeEvent_port d.app event
  refine ⟨?_, fun event' hevent' => ?_, ?_⟩
  · rw [hheard]
    exact h.based.consume hexpected
  · exact expected_mono (h.awaited event' (hevents ▸ hevent')) hsent
  · exact hI.consume h.based hexpected h.holds

theorem Sound.foldl {d : Desktop} {events : List UiEvent} (hI : Kept I) (h : d.Sound I)
    (hexpected : ∀ event ∈ events, Expected d.app.port.sent event) :
    (events.foldl Desktop.consume d).Sound I := by
  induction events generalizing d with
  | nil => exact h
  | cons event events ih =>
    refine ih (h.consume hI (hexpected event (List.mem_cons_self ..))) fun event' hevent' => ?_
    exact expected_mono (hexpected event' (List.mem_cons_of_mem _ hevent'))
      (consumeEvent_port d.app event).2

theorem Sound.prune {d : Desktop} (hI : Kept I) (h : d.Sound I) :
    Sound I { d with app := d.app.prune } := by
  have hport : d.app.prune.board.sent = d.app.port.sent ∧
      d.app.prune.board.events = d.app.port.events := by
    rw [prune_board]
    exact ⟨rfl, rfl⟩
  refine ⟨?_, fun event hevent => ?_, hI.prune h.holds⟩
  · show Based d.app.prune.board d.heard
    rw [prune_board]
    exact ⟨h.based.lt_next, h.based.distinct, h.based.expected, h.based.aboveTombstones⟩
  · have hmem : event ∈ d.app.port.events := hport.2 ▸ hevent
    have hsent : d.app.prune.port.sent = d.app.port.sent := hport.1
    show Expected d.app.prune.port.sent event
    rw [hsent]
    exact h.awaited event hmem

/-- The controller's end of the port. -/
theorem Sound.port {d : Desktop} {port : UiPort} (hI : Kept I) (h : d.Sound I)
    (hsent : port.sent = d.app.port.sent) (hmerged : port.merged = d.app.port.merged)
    (hevents : ∀ event ∈ port.events, Expected d.app.port.sent event) :
    Sound I { d with app := { d.app with port } } := by
  have hboard : ({ d.app with port } : DbotterApp).board =
      { d.app.board with events := port.events } := by
    simp only [board, hsent, hmerged]
  refine ⟨?_, fun event hevent => ?_, ?_⟩
  · show Based ({ d.app with port } : DbotterApp).board d.heard
    rw [hboard]
    exact ⟨h.based.lt_next, h.based.distinct, h.based.expected, h.based.aboveTombstones⟩
  · show Expected port.sent event
    rw [hsent]
    exact hevents event hevent
  · show I ({ d.app with port } : DbotterApp).board d.consumed
    rw [hboard]
    exact hI.events _ h.holds

theorem Sound.poll {d : Desktop} (hI : Kept I) (h : d.Sound I) : d.poll.Sound I := by
  have hdrained : Sound I { d with app := { d.app with
      port := (d.app.port.drainEvents eventDrainLimit).2 } } :=
    h.port hI rfl rfl fun event hevent => h.awaited event (List.mem_of_mem_drop hevent)
  refine Sound.prune hI (hdrained.foldl hI fun event hevent => ?_)
  exact h.awaited event (List.mem_of_mem_take hevent)

theorem tryEmit_port (port : UiPort) (event : UiEvent) :
    (port.tryEmit event).sent = port.sent ∧ (port.tryEmit event).merged = port.merged ∧
      ∀ e ∈ (port.tryEmit event).events, e ∈ port.events ∨ e = event := by
  have hreleased : (port.releaseForEvent event).sent = port.sent ∧
      (port.releaseForEvent event).merged = port.merged ∧
      (port.releaseForEvent event).events = port.events := by
    simp only [UiPort.releaseForEvent]
    cases UiPort.releasedKey event <;> exact ⟨rfl, rfl, rfl⟩
  obtain ⟨hsent, hmerged, hevents⟩ := hreleased
  simp only [UiPort.tryEmit]
  split
  · refine ⟨hsent, hmerged, fun e he => ?_⟩
    simpa [hevents] using he
  · exact ⟨hsent, hmerged, fun e he => .inl (hevents ▸ he)⟩

theorem Sound.step {d : Desktop} {move : Move} (hI : Kept I) (h : d.Sound I) :
    (d.step move).Sound I := by
  cases move with
  | act action => exact h.reaches hI (d.app.act_reaches action)
  | poll => exact h.poll hI
  | receive lane => cases lane <;> exact h.port hI rfl rfl h.awaited
  | emit event =>
    simp only [Desktop.step]
    split
    · next hmay =>
      obtain ⟨hsent, hmerged, hevents⟩ := tryEmit_port d.app.port event
      refine h.port hI hsent hmerged fun e he => ?_
      obtain he | rfl := hevents e he
      · exact h.awaited e he
      · exact expected_of_mayEmit hmay
    · exact h
  | release key => exact h.port hI rfl rfl h.awaited
  | close => exact h.port hI rfl rfl h.awaited

theorem run_snoc (moves : List Move) (move : Move) :
    run (moves ++ [move]) = (run moves).step move := by
  simp only [run, List.foldl_append, List.foldl_cons, List.foldl_nil]

/-- **The rule.** What is kept holds along every run. -/
theorem run_sound (hI : Kept I) (moves : List Move) : (run moves).Sound I := by
  induction moves using List.reverseRecOn with
  | nil =>
    have hbased : Based ({} : DbotterApp).board [] :=
      ⟨fun _ h => absurd h List.not_mem_nil, fun _ h => absurd h List.not_mem_nil,
        fun _ h => absurd h List.not_mem_nil, fun _ _ h => nomatch h⟩
    have hempty : Sound I ⟨{}, []⟩ :=
      ⟨hbased, fun _ h => absurd h List.not_mem_nil, hI.start⟩
    have hnew : Reaches ({} : DbotterApp).board new.board := submitRefresh_reaches {}
    show Sound I ⟨new, []⟩
    exact hempty.reaches hI hnew
  | append_singleton moves move ih =>
    rw [run_snoc]
    exact ih.step hI

/-- What is kept holds at every moment of every run. -/
theorem run_moment (hI : Kept I) {moves : List Move} {earlier later : List Moment} {m : Moment}
    (h : (run moves).consumed = earlier ++ m :: later) :
    I m.app.board earlier ∧ Based m.app.board (earlier.map (·.event)) ∧
      Expected m.app.port.sent m.event :=
  (run_sound hI.remembered moves).holds.before earlier m later h

/-! ## Numbered commands -/

/-- The operations of the commands, where a cancellation has none of its own. -/
def operations (commands : List UiCommand) : List OperationId :=
  (commands.filter fun command => !command.isCancel).map (·.operationId)

theorem operations_snoc (commands : List UiCommand) (command : UiCommand) :
    operations (commands ++ [command]) =
      operations commands ++ if command.isCancel then [] else [command.operationId] := by
  cases h : command.isCancel <;> simp [operations, h]

theorem operations_step {b b' : Board} {heard : List UiEvent} (hb : Based b heard)
    (hstep : Step b b') (h : (operations b.sent).Nodup) : (operations b'.sent).Nodup := by
  cases hstep.issues with
  | nothing hsent => rwa [hsent]
  | cancel command hcancel hissued =>
    obtain ⟨hsent, -⟩ | ⟨hsent, -⟩ := hissued
    · rw [hsent, operations_snoc, if_pos hcancel, List.append_nil]
      exact h
    · rwa [hsent]
  | fresh command ho hissued =>
    obtain ⟨hsent, -⟩ | ⟨hsent, -⟩ := hissued
    · rw [hsent, operations_snoc]
      cases hcancel : command.isCancel with
      | true => simpa using h
      | false =>
        -- Whatever was sent before has a smaller operation.
        have hfresh : command.operationId ∉ operations b.sent := by
          intro hmem
          obtain ⟨earlier, hearlier, heq⟩ := List.mem_map.1 hmem
          obtain ⟨hsent, hkept⟩ := List.mem_filter.1 hearlier
          have hlt := hb.lt_next earlier (List.mem_append_left _ hsent) (by simpa using hkept)
          rw [heq, ho] at hlt
          exact lt_irrefl _ hlt
        simpa using h.concat hfresh
    · rwa [hsent]

theorem operations_kept : Kept fun b _ => (operations b.sent).Nodup where
  start := List.nodup_nil
  step hb hstep h := operations_step hb hstep h
  consume := by
    intro app event moments hb hexpected h
    obtain ⟨-, heq⟩ | ⟨-, heq⟩ | ⟨-, hreaches⟩ := consumeEvent_board app event
    · rwa [heq]
    · rw [heq, onlyOperations_board (app.finishActiveOperation_only event)]
      exact h
    · have hsent : (app.settled (app.attachRetryRecipe event)).board.sent = app.port.sent :=
        congrArg UiPort.sent (app.settled_port _)
      exact (hb.settled hexpected).keeps (I := fun b _ => (operations b.sent).Nodup)
        operations_step hreaches (by rwa [hsent])
  prune := by
    intro app moments h
    rw [prune_board]
    exact h
  events _ h := h

/-- The desktop never sends two commands under one operation. -/
theorem sent_numbered (moves : List Move) : (operations (run moves).app.port.sent).Nodup :=
  (run_sound operations_kept moves).holds

end Desktop

end Dbotter.Ui
