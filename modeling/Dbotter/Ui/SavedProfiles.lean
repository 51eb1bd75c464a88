import Dbotter.Ui.Editing
import Dbotter.Ui.Snapshots

/-!
How a save becomes visible.

A save publishes the new generation of its profile. Its snapshot comes with a load, and this
load is asked for where the open editor recognises its own save. Until the load is answered it
stands under an operation above all that the model has ordered so far.
-/

namespace Dbotter.Ui
open Dbotter.Utf8 Dbotter.Configuration Dbotter.Service Dbotter.Drivers

/-! ## The saves of an editor -/

/-- The open editor waits for the save that the event reports. -/
def DbotterApp.recognises (app : DbotterApp) : UiEvent → Bool
  | .profileSaved o p _ _ _ _ =>
    app.profileEditor.any fun editor => !editor.configUncertain && editor.awaitsSave o p
  | _ => false

/-- The port would take a load now. -/
def DbotterApp.acceptsRefresh (app : DbotterApp) : Bool :=
  match app.port.trySubmit (.refreshProfiles app.model.nextOperationId) with
  | .ok _ => true
  | .error _ => false

namespace DbotterApp
open Board

variable {app : DbotterApp} {event : UiEvent}

theorem recognises_handleEvent (h : app.recognises event = true) :
    ∃ editor p, app.profileEditor = some editor ∧
      ((editor.handleEvent event).2 = .saved p ∨ (editor.handleEvent event).2 = .savedAndConnect p) := by
  cases event <;> try cases h
  next o p previous g retained warning =>
  obtain ⟨editor, heditor, hawaits⟩ := (Option.any_eq_true _ _).1 h
  refine ⟨editor, p, heditor, ?_⟩
  simp only [ProfileEditor.handleEvent, hawaits, ↓reduceIte]
  split
  · exact .inr rfl
  · exact .inl rfl

/-- A save that the open editor recognises is followed by a load. -/
theorem consumeEvent_recognised (h : app.recognises event = true)
    (haccepts : app.acceptsRefresh = true) :
    (app.consumeEvent event).port.sent =
        app.port.sent ++ [.refreshProfiles app.model.nextOperationId] ∧
      (app.consumeEvent event).model.nextOperationId = app.model.nextOperationId + 1 := by
  have hnotRedis : app.redisResourceEventDisposition event = .notRedis := by
    cases event <;> first | rfl | cases h
  have hattach : app.attachRetryRecipe event = event := by
    cases event <;> first | rfl | cases h
  obtain ⟨editor, p, heditor, hresult⟩ := recognises_handleEvent h
  obtain ⟨hport, hmodel, hsettling⟩ := app.settleEvent_frame event
  have hfinish (settled : DbotterApp) (connect : Bool) (hport : settled.port = app.port)
      (hmodel : settled.model = app.model) :
      (settled.finishSave event p connect).port.sent =
          app.port.sent ++ [.refreshProfiles app.model.nextOperationId] ∧
        (settled.finishSave event p connect).model.nextOperationId =
          app.model.nextOperationId + 1 := by
    have hnext := UiModel.fold_nextOperationId app.model event
    unfold acceptsRefresh at haccepts
    split at haccepts
    · next port hok =>
      obtain ⟨-, ⟨hsent, -⟩ | ⟨-, -, hlane⟩⟩ := UiPort.trySubmit_cases hok
      · simp only [finishSave, submit, UiModel.nextOperation, hmodel, hport, hnext, hok]
        cases connect
        · exact ⟨hsent, rfl⟩
        · exact ⟨hsent, rfl⟩
      · cases hlane
    · cases haccepts
  have hconsume : app.consumeEvent event = app.applyEvent event := by
    simp only [consumeEvent, hnotRedis]
  rw [hconsume]
  have heditor' : (app.settleEvent event).1.profileEditor = some editor := hsettling.trans heditor
  simp only [applyEvent, hattach, notifyEditor, heditor']
  obtain hresult | hresult := hresult
  · rw [hresult]
    exact hfinish _ false hport hmodel
  · rw [hresult]
    exact hfinish _ true hport hmodel

end DbotterApp

namespace Board
open DbotterApp UiModel

/-! ## The invariant -/

/-- Every active generation has its snapshot, unless the configuration is uncertain or a load
that will be taken has not been answered. -/
structure Visible (b : Board) (heard : List UiEvent) : Prop where
  last_lt : ∀ last, b.lastProfilesOperation = some last → last < b.nextOperationId
  noFailure : ∀ o summary error, .profilesFailed o summary error ∉ heard
  shown : Listed b.profiles b.activeGenerations ∨ b.configUncertain = true ∨
    ∃ o, Open b heard (.refreshProfiles o) ∧
      ∀ last, b.lastProfilesOperation = some last → last < o

theorem Visible.step {b b' : Board} {heard : List UiEvent} (h : Visible b heard)
    (hb : Based b heard) (hstep : Step b b') : Visible b' heard := by
  have hsame := hstep.sameConfig
  refine ⟨fun last hlast => ?_, h.noFailure, ?_⟩
  · rw [hsame.lastProfilesOperation] at hlast
    exact lt_of_lt_of_le (h.last_lt last hlast) hstep.next_le
  · rw [hsame.profiles, hsame.activeGenerations, hsame.configUncertain,
      hsame.lastProfilesOperation]
    obtain hlisted | huncertain | ⟨o, hopen, hlast⟩ := h.shown
    · exact .inl hlisted
    · exact .inr (.inl huncertain)
    · exact .inr (.inr ⟨o, hopen.step rfl hb hstep, hlast⟩)

/-! ## One event -/

/-- A save is taken that the open editor does not wait for, and its generation is not listed. -/
def unlisted (m : Moment) : Bool :=
  match m.event with
  | .profileSaved _ p previous g _ _ =>
    !m.app.model.configUncertain && m.app.model.saveIsCurrent p previous g &&
      !(m.app.model.profiles.any fun profile => profile.id = p && profile.generation = g) &&
      !m.app.recognises m.event
  | _ => false

/-- A load that is asked for after a save is refused. -/
def refusesRefresh (m : Moment) : Bool := m.app.recognises m.event && !m.app.acceptsRefresh

def isFailedLoad : UiEvent → Bool
  | .profilesFailed _ _ _ => true
  | _ => false

section
variable {app : DbotterApp} {event : UiEvent} {heard : List UiEvent}

/-- No event so far carries an operation that has not been taken. -/
theorem not_ended_of_next {sent : List UiCommand} (hb : Based app.board heard)
    (hfailed : ∀ o summary error, .profilesFailed o summary error ∉ heard) :
    ¬Ended sent heard app.model.nextOperationId := by
  rintro ⟨event, hevent, command, -, ho, hends⟩
  obtain ⟨sender, hsender, hsent⟩ | ⟨o, rfl⟩ | ⟨o, summary, error, rfl⟩ := hb.expected event hevent
  · have hlt := hb.lt_next sender (List.mem_append_left _ hsender) (not_isCancel_of_endedBy hsent)
    rw [← UiCommand.endedBy_operationId hsent, UiCommand.endedBy_operationId hends, ho] at hlt
    exact Nat.lt_irrefl _ hlt
  · cases command <;> cases hends
  · exact hfailed o summary error hevent

theorem noFailure_snoc (h : ∀ o summary error, .profilesFailed o summary error ∉ heard)
    (hevent : isFailedLoad event = false) :
    ∀ o summary error, .profilesFailed o summary error ∉ heard ++ [event] := by
  intro o summary error hmem
  obtain hmem | hmem := List.mem_append.1 hmem
  · exact h o summary error hmem
  · rw [← List.mem_singleton.1 hmem] at hevent
    cases hevent

/-- The load that follows a save stands above all that has been ordered. -/
theorem Visible.recognised (h : Visible app.board heard) (hb : Based app.board heard)
    (hexpected : Expected app.port.sent event) (hfailed : isFailedLoad event = false)
    (hrecognised : app.recognises event = true) (haccepts : app.acceptsRefresh = true)
    (hlast : (app.consumeEvent event).model.lastProfilesOperation =
      app.model.lastProfilesOperation) :
    ∃ o, Open (app.consumeEvent event).board (heard ++ [event]) (.refreshProfiles o) ∧
      ∀ last, (app.consumeEvent event).model.lastProfilesOperation = some last → last < o := by
  obtain ⟨hsent, -⟩ := consumeEvent_recognised hrecognised haccepts
  have hheard : Based app.board (heard ++ [event]) :=
    hb.hear hexpected rfl rfl rfl hb.aboveTombstones
  refine ⟨app.model.nextOperationId, ⟨?_, ?_⟩, fun last hl => ?_⟩
  · show _ ∈ (app.consumeEvent event).port.sent
    rw [hsent]
    simp
  · exact not_ended_of_next hheard (noFailure_snoc h.noFailure hfailed)
  · rw [hlast] at hl
    exact h.last_lt last hl

/-- An ordered event that is not a failed load carries an operation that has been taken. -/
theorem lt_next_of_ordered (hb : Based app.board heard)
    (hexpected : Expected app.port.sent event) (hordered : event.isOrdered = true)
    (hfailed : isFailedLoad event = false) : event.operationId < app.model.nextOperationId := by
  obtain ⟨command, hmem, hends⟩ | ⟨o, rfl⟩ | ⟨o, summary, error, rfl⟩ := hexpected
  · rw [UiCommand.endedBy_operationId hends]
    exact hb.lt_next command (List.mem_append_left _ hmem) (not_isCancel_of_endedBy hends)
  · cases hordered
  · cases hfailed

/-- A load that stands above all that has been ordered is not ended by an event that the model
discards. -/
theorem refresh_not_endedBy {o : OperationId}
    (hlast : ∀ last, app.model.lastProfilesOperation = some last → last < o)
    (hstale : event.isOrdered = true →
      app.model.profilesOperationIsNewer event.operationId = false) :
    (UiCommand.refreshProfiles o).endedBy event = false := by
  refine Bool.eq_false_iff.2 fun hends => ?_
  have hordered : event.isOrdered = true := by
    cases event <;> first | rfl | cases hends
  have hnewer : app.model.profilesOperationIsNewer event.operationId = true := by
    rw [UiCommand.endedBy_operationId hends]
    show app.model.profilesOperationIsNewer o = true
    simpa [profilesOperationIsNewer, Option.all_eq_true] using hlast
  rw [hstale hordered] at hnewer
  cases hnewer

theorem Visible.consume (h : Visible app.board heard) (hb : Based app.board heard)
    (hexpected : Expected app.port.sent event) (hlisted : unlisted ⟨app, event⟩ = false)
    (hrefresh : refusesRefresh ⟨app, event⟩ = false) (hfailed : isFailedLoad event = false) :
    Visible (app.consumeEvent event).board (heard ++ [event]) := by
  have hnext := consumeEvent_next_le app event
  have hfailures := noFailure_snoc h.noFailure hfailed
  have htaken (hordered : event.isOrdered = true)
      (hlast : (app.consumeEvent event).model.lastProfilesOperation = some event.operationId) :
      ∀ last, (app.consumeEvent event).model.lastProfilesOperation = some last →
        last < (app.consumeEvent event).model.nextOperationId := by
    intro last hl
    rw [hlast] at hl
    cases hl
    exact lt_of_lt_of_le (lt_next_of_ordered hb hexpected hordered hfailed) hnext
  have hkept (hlast : (app.consumeEvent event).model.lastProfilesOperation =
      app.model.lastProfilesOperation) :
      ∀ last, (app.consumeEvent event).model.lastProfilesOperation = some last →
        last < (app.consumeEvent event).model.nextOperationId := by
    intro last hl
    rw [hlast] at hl
    exact lt_of_lt_of_le (h.last_lt last hl) hnext
  have hopen {o : OperationId} (hlast : (app.consumeEvent event).model.lastProfilesOperation =
        app.model.lastProfilesOperation)
      (hstale : event.isOrdered = true →
        app.model.profilesOperationIsNewer event.operationId = false)
      (hopen : Open app.board heard (.refreshProfiles o))
      (ho : ∀ last, app.model.lastProfilesOperation = some last → last < o) :
      ∃ o, Open (app.consumeEvent event).board (heard ++ [event]) (.refreshProfiles o) ∧
        ∀ last, (app.consumeEvent event).model.lastProfilesOperation = some last → last < o :=
    ⟨o, hopen.consume rfl hb hexpected (refresh_not_endedBy ho hstale), by rwa [hlast]⟩
  cases consumeEvent_tells app event with
  | loaded o profiles config hevent hnewer hcertain hlast hprofiles hgenerations =>
    subst hevent
    refine ⟨htaken rfl hlast, hfailures, .inl ?_⟩
    show Listed (app.consumeEvent _).model.profiles (app.consumeEvent _).model.activeGenerations
    rw [hprofiles, hgenerations]
    exact foldProfiles_listed app.model profiles
  | failed o summary error hevent =>
    subst hevent
    cases hfailed
  | uncertain o hevent hnewer huncertain hlast =>
    subst hevent
    exact ⟨htaken rfl hlast, hfailures, .inr (.inl huncertain)⟩
  | saved o p previous g retained warning hevent hcurrent huncertain hlast hprofiles
      hgenerations =>
    refine ⟨hkept hlast, hfailures, ?_⟩
    cases hbefore : app.model.configUncertain with
    | true => exact .inr (.inl (huncertain.trans hbefore))
    | false =>
      cases hrecognised : app.recognises event with
      | true =>
        have haccepts : app.acceptsRefresh = true := by
          simpa [refusesRefresh, hrecognised] using hrefresh
        exact .inr (.inr (h.recognised hb hexpected hfailed hrecognised haccepts hlast))
      | false =>
        have hshown : ∃ profile ∈ app.model.profiles, profile.id = p ∧ profile.generation = g := by
          simpa [unlisted, hevent, hbefore, hcurrent, hevent ▸ hrecognised] using hlisted
        obtain hbeforeListed | huncertain' | ⟨r, hr, hr'⟩ := h.shown
        · refine .inl fun q g' hg' => ?_
          change (app.consumeEvent event).model.activeGenerations q = some g' at hg'
          show ∃ profile ∈ (app.consumeEvent event).model.profiles, _
          rw [hprofiles]
          rw [hgenerations] at hg'
          by_cases hq : q = p
          · subst hq
            rw [Function.update_self] at hg'
            cases hg'
            exact hshown
          · rw [Function.update_of_ne hq] at hg'
            exact hbeforeListed q g' hg'
        · rw [show app.model.configUncertain = true from huncertain'] at hbefore
          cases hbefore
        · exact .inr (.inr (hopen hlast (by rw [hevent]; exact nofun) hr hr'))
  | nothing hstale huncertain hlast hlisted' =>
    refine ⟨hkept hlast, hfailures, ?_⟩
    obtain hbefore | hbefore | ⟨r, hr, hr'⟩ := h.shown
    · exact .inl (hlisted' hbefore)
    · exact .inr (.inl (huncertain.trans hbefore))
    · exact .inr (.inr (hopen hlast hstale hr hr'))

end

theorem visible_keeps : Keeps (fun m => unlisted m = false ∧ refusesRefresh m = false ∧
    isFailedLoad m.event = false) Visible where
  start := ⟨fun _ h => (nomatch h), fun _ _ _ h => absurd h List.not_mem_nil,
    .inl fun _ _ h => (nomatch h)⟩
  step hb hstep h := h.step hb hstep
  consume hb hexpected hmoment h := h.consume hb hexpected hmoment.1 hmoment.2.1 hmoment.2.2
  prune {app heard} h := by
    rw [prune_board]
    refine ⟨h.last_lt, h.noFailure, h.shown.imp_right (Or.imp_right ?_)⟩
    exact fun ⟨o, hopen, hlast⟩ => ⟨o, hopen.congr rfl, hlast⟩
  events _ h := by
    refine ⟨h.last_lt, h.noFailure, h.shown.imp_right (Or.imp_right ?_)⟩
    exact fun ⟨o, hopen, hlast⟩ => ⟨o, hopen.congr rfl, hlast⟩

end Board

namespace Desktop
open Board DbotterApp

/-- **Saved profiles.** As long as every save that is taken is one that the open editor waits
for, and no load is refused or fails, every active generation has its snapshot once the
configuration is certain and every command of the mutation lane has been answered. -/
theorem run_saved_listed (moves : List Move)
    (hlisted : ∀ m ∈ (run moves).consumed, unlisted m = false)
    (hrefresh : ∀ m ∈ (run moves).consumed, refusesRefresh m = false)
    (hloads : ∀ m ∈ (run moves).consumed, isFailedLoad m.event = false)
    (hcertain : (run moves).app.model.configUncertain = false)
    (hrest : ∀ command ∈ (run moves).app.port.sent, command.lane = .mutation →
      Ended (run moves).app.port.sent (run moves).heard command.operationId) :
    Listed (run moves).app.model.profiles (run moves).app.model.activeGenerations := by
  have h := (run_sound visible_keeps.kept moves).holds fun m hm =>
    ⟨hlisted m hm, hrefresh m hm, hloads m hm⟩
  obtain hshown | huncertain | ⟨o, hopen, -⟩ := h.shown
  · exact hshown
  · rw [show (run moves).app.model.configUncertain = true from huncertain] at hcertain
    cases hcertain
  · exact absurd (hrest _ hopen.sent rfl) hopen.not_ended

def secondProfile : ProfileSnapshot :=
  { firstProfile .mySql with id := "q".toList, generation := 2 }

def secondSaved : UiEvent := .profileSaved 2 "q".toList none 2 false none

/-- The second profile is saved while its editor is open, and listed by the load that follows. -/
def saveAndLoad : List Move :=
  saveSecond ++ hears secondSaved ++
    hears (.profilesLoaded 3 [firstProfile .mySql, secondProfile] {})

theorem run_saved_listed_second :
    (run saveAndLoad).app.model.activeGenerations "q".toList = some 2 ∧
      ∃ profile ∈ (run saveAndLoad).app.model.profiles,
        profile.id = "q".toList ∧ profile.generation = 2 := by
  have hactive : (run saveAndLoad).app.model.activeGenerations "q".toList = some 2 := by
    decide +kernel
  refine ⟨hactive, run_saved_listed saveAndLoad ?_ ?_ ?_ ?_ ?_ _ _ hactive⟩
  · decide +kernel
  · decide +kernel
  · decide +kernel
  · decide +kernel
  · decide +kernel

/-- The editor of the second profile is replaced while it is being saved: no load follows, and
the profile is not listed. -/
def saveReplaced : List Move := saveSecond ++ [.act .addProfile] ++ hears secondSaved

theorem saved_not_listed :
    (run saveReplaced).app.model.activeGenerations "q".toList = some 2 ∧
      (¬∃ profile ∈ (run saveReplaced).app.model.profiles, profile.id = "q".toList) ∧
      (run saveReplaced).app.model.configUncertain = false ∧
      (run saveReplaced).app.port.events = [] ∧
      (∀ m ∈ (run saveReplaced).consumed,
        refusesRefresh m = false ∧ isFailedLoad m.event = false) ∧
      ∀ command ∈ (run saveReplaced).app.port.sent, command.lane = .mutation →
        Ended (run saveReplaced).app.port.sent (run saveReplaced).heard command.operationId := by
  decide +kernel

end Desktop

end Dbotter.Ui
