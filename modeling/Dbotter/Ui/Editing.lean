import Dbotter.Ui.Runs

/-!
What the profile editor waits for.

The open editor remembers the save and the draft test it has submitted. A draft test is always
taken off once it has ended. A save is taken off by the three events that report on a save, and
only while the editor takes the configuration for certain.
-/

namespace Dbotter.Ui
open Dbotter.Utf8 Dbotter.Configuration Dbotter.Service Dbotter.Drivers

/-- The command that a pending save stands for. -/
def PendingSave.Of : PendingSave → UiCommand → Prop
  | .create o draftId _, .createProfile request => request.operationId = o ∧ request.draftId = draftId
  | .update o key _, .updateProfile request =>
    request.operationId = o ∧ request.profileId = key.profileId ∧
      request.expectedGeneration = key.profileGeneration
  | _, _ => False

/-- The save is one of this editor. -/
def PendingSave.From (editor : ProfileEditor) : PendingSave → Prop
  | .create _ draftId _ => editor.mode = .add ∧ draftId = editor.draftId
  | .update _ key _ => editor.mode = .edit key.profileId key.profileGeneration

theorem PendingSave.From.same {editor editor' : ProfileEditor} {pending : PendingSave}
    (h : pending.From editor) (hmode : editor'.mode = editor.mode)
    (hdraft : editor'.draftId = editor.draftId) : pending.From editor' := by
  cases pending with
  | create o draftId connect => exact ⟨hmode.trans h.1, h.2.trans hdraft.symm⟩
  | update o key connect => exact hmode.trans h

def PendingSave.operationId : PendingSave → OperationId
  | .create o _ _ | .update o _ _ => o

theorem PendingSave.Of.operationId {pending : PendingSave} {command : UiCommand}
    (h : pending.Of command) :
    command.operationId = pending.operationId ∧ command.isCancel = false := by
  cases pending <;> cases command <;> first | exact ⟨h.1, rfl⟩ | cases h

namespace ProfileEditor

/-- The operations that the editor waits for. -/
def Holds (editor : ProfileEditor) (o : OperationId) : Prop :=
  (∃ pending ∈ editor.pendingSave, pending.operationId = o) ∨ editor.pendingDraftTest = some o

instance (editor : ProfileEditor) (o : OperationId) : Decidable (editor.Holds o) :=
  inferInstanceAs (Decidable (_ ∨ _))

theorem saveCommand_of (editor : ProfileEditor) (o : OperationId) (form : ValidatedForm)
    (connect : Bool) :
    (editor.saveCommand o form connect).2.Of (editor.saveCommand o form connect).1 := by
  unfold saveCommand
  split
  · exact ⟨rfl, rfl⟩
  · exact ⟨rfl, rfl, rfl⟩

theorem saveCommand_from (editor : ProfileEditor) (o : OperationId) (form : ValidatedForm)
    (connect : Bool) : (editor.saveCommand o form connect).2.From editor := by
  unfold saveCommand
  split
  · next hmode => exact ⟨hmode, rfl⟩
  · next hmode => exact hmode

theorem blocked_eq_false {editor : ProfileEditor} (h : editor.blocked = false) :
    editor.configUncertain = false ∧ editor.pendingSave = none ∧
      editor.pendingDraftTest = none := by
  simpa [blocked, and_assoc] using h

/-- The editor waits for no more than before, and is the same draft. -/
structure Settles (editor editor' : ProfileEditor) : Prop where
  mode : editor'.mode = editor.mode
  draftId : editor'.draftId = editor.draftId
  save : editor'.pendingSave = editor.pendingSave ∨ editor'.pendingSave = none
  test : editor'.pendingDraftTest = editor.pendingDraftTest ∨ editor'.pendingDraftTest = none
  uncertain : editor'.configUncertain = editor.configUncertain ∨
    (editor'.configUncertain = true → editor'.pendingDraftTest = none)

theorem Settles.refl (editor : ProfileEditor) : Settles editor editor :=
  ⟨rfl, rfl, .inl rfl, .inl rfl, .inl rfl⟩

theorem setConfigUncertain_settles (editor : ProfileEditor) (uncertain : Bool) :
    Settles editor (editor.setConfigUncertain uncertain) := by
  refine ⟨rfl, rfl, .inl rfl, ?_, .inr fun h => ?_⟩
  · cases uncertain
    · exact .inl rfl
    · exact .inr rfl
  · simp only [setConfigUncertain] at h ⊢
    rw [if_pos h]

theorem handleEvent_settles (editor : ProfileEditor) (event : UiEvent) :
    Settles editor (editor.handleEvent event).1 := by
  have hsame : Settles editor editor := .refl editor
  have hsaved : Settles editor { editor with pendingSave := none } :=
    ⟨rfl, rfl, .inr rfl, .inl rfl, .inl rfl⟩
  have htested : Settles editor { editor with pendingDraftTest := none } :=
    ⟨rfl, rfl, .inl rfl, .inr rfl, .inl rfl⟩
  cases event with
  | configUncertain o => exact editor.setConfigUncertain_settles true
  | profileSaved o profileId previous generation retained warning =>
    simp only [handleEvent]
    split
    · exact hsaved
    · exact hsame
  | profileCreateFailed o draftId summary error =>
    simp only [handleEvent]
    split
    · split
      · exact hsaved
      · exact hsame
    · exact hsame
  | profileUpdateFailed identity summary error =>
    simp only [handleEvent]
    split
    · split
      · exact hsaved
      · exact hsame
    · exact hsame
  | draftConnectionReady o draftId =>
    simp only [handleEvent]
    split
    · exact htested
    · exact hsame
  | draftOperationFailed o draftId summary error =>
    simp only [handleEvent]
    split
    · exact htested
    · exact hsame
  | _ => exact hsame

/-- The events that report on a save. -/
def reportsSave : UiEvent → Bool
  | .profileSaved _ _ _ _ _ _ | .profileCreateFailed _ _ _ _ | .profileUpdateFailed _ _ _ => true
  | _ => false

/-- The report on its save takes the save off the editor. -/
theorem handleEvent_save {editor : ProfileEditor} {event : UiEvent} {pending : PendingSave}
    {command : UiCommand} (hpending : editor.pendingSave = some pending)
    (hof : pending.Of command) (hends : command.endedBy event)
    (hcertain : editor.configUncertain = false) (hreport : reportsSave event) :
    (editor.handleEvent event).1.pendingSave = none := by
  cases pending with
  | create o draftId connect =>
    cases command with
    | createProfile request =>
      obtain ⟨rfl, rfl⟩ := hof
      cases event <;> simp [UiCommand.endedBy, UiEvent.isRefusalOf, reportsSave] at hends hreport
      · simp [handleEvent, awaitsSave, hpending, hcertain, hends]
      · simp [handleEvent, hpending, hcertain, hends]
    | _ => cases hof
  | update o key connect =>
    cases command with
    | updateProfile request =>
      obtain ⟨rfl, hprofile, hgeneration⟩ := hof
      cases event <;> simp [UiCommand.endedBy, UiEvent.isRefusalOf, UiEvent.isFailureOf,
        reportsSave] at hends hreport
      · simp [handleEvent, awaitsSave, hpending, hcertain, hends, hprofile]
      · simp [handleEvent, hpending, hcertain, hends, hprofile, hgeneration, workspaceKey]
    | _ => cases hof

/-- Whatever ends a draft test takes it off an editor that is certain. -/
theorem handleEvent_test {editor : ProfileEditor} {event : UiEvent} {o : OperationId}
    (htest : editor.pendingDraftTest = some o) (hcertain : editor.configUncertain = false)
    (hends : (UiCommand.prepareDraftConnectionTest o editor.draftId).endedBy event) :
    (editor.handleEvent event).1.pendingDraftTest = none := by
  cases event <;> simp [UiCommand.endedBy, UiEvent.isRefusalOf] at hends
  · simp [handleEvent, htest, hcertain, hends]
  · simp [handleEvent, htest, hcertain, hends]
  · simp [handleEvent, setConfigUncertain]

end ProfileEditor

namespace Board
open DbotterApp ProfileEditor

/-! ## The invariant -/

structure Edited (b : Board) (heard : List UiEvent) : Prop where
  save : ∀ editor, b.profileEditor = some editor → ∀ pending, editor.pendingSave = some pending →
    pending.From editor ∧ ∃ command, pending.Of command ∧ Open b heard command
  test : ∀ editor, b.profileEditor = some editor → ∀ o, editor.pendingDraftTest = some o →
    Open b heard (.prepareDraftConnectionTest o editor.draftId)
  certain : ∀ editor, b.profileEditor = some editor → editor.configUncertain = true →
    editor.pendingDraftTest = none

/-- An editor that waits for no more than before, while nothing it waits for has been
answered. -/
theorem Edited.of_settles {b b' : Board} {heard heard' : List UiEvent} (h : Edited b heard)
    (hedits : ∀ editor', b'.profileEditor = some editor' →
      ∃ editor, b.profileEditor = some editor ∧ Settles editor editor' ∧
        (∀ pending command, editor.pendingSave = some pending →
          editor'.pendingSave = some pending → pending.Of command → Open b heard command →
          Open b' heard' command) ∧
        ∀ o, editor.pendingDraftTest = some o → editor'.pendingDraftTest = some o →
          Open b heard (.prepareDraftConnectionTest o editor.draftId) →
          Open b' heard' (.prepareDraftConnectionTest o editor.draftId)) : Edited b' heard' := by
  refine ⟨fun editor' heditor' pending hpending => ?_, fun editor' heditor' o ho => ?_,
    fun editor' heditor' huncertain => ?_⟩
  · obtain ⟨editor, heditor, hsettles, hopen, -⟩ := hedits editor' heditor'
    obtain hsave | hnone := hsettles.save
    · have hbefore := hsave ▸ hpending
      obtain ⟨hfrom, command, hof, hcommand⟩ := h.save editor heditor pending hbefore
      exact ⟨hfrom.same hsettles.mode hsettles.draftId, command, hof,
        hopen pending command hbefore hpending hof hcommand⟩
    · rw [hnone] at hpending
      cases hpending
  · obtain ⟨editor, heditor, hsettles, -, hopen⟩ := hedits editor' heditor'
    obtain htest | hnone := hsettles.test
    · have hbefore := htest ▸ ho
      rw [hsettles.draftId]
      exact hopen o hbefore ho (h.test editor heditor o hbefore)
    · rw [hnone] at ho
      cases ho
  · obtain ⟨editor, heditor, hsettles, -, -⟩ := hedits editor' heditor'
    obtain hsame | hnone := hsettles.uncertain
    · obtain htest | hnone := hsettles.test
      · rw [htest]
        exact h.certain editor heditor (hsame ▸ huncertain)
      · exact hnone
    · exact hnone huncertain

/-- An editor that has just been opened waits for nothing. -/
theorem Edited.of_free {b : Board} {heard : List UiEvent}
    (h : ∀ editor, b.profileEditor = some editor → editor.blocked = false) : Edited b heard := by
  refine ⟨fun editor heditor pending hpending => ?_, fun editor heditor o ho => ?_,
    fun editor heditor _ => (blocked_eq_false (h editor heditor)).2.2⟩
  · rw [(blocked_eq_false (h editor heditor)).2.1] at hpending
    cases hpending
  · rw [(blocked_eq_false (h editor heditor)).2.2] at ho
    cases ho

theorem Edited.same {b b' : Board} {heard : List UiEvent} (h : Edited b heard)
    (heditor : b'.profileEditor = b.profileEditor)
    (hopen : ∀ command : UiCommand, command.isCancel = false → Open b heard command →
      Open b' heard command) : Edited b' heard := by
  refine h.of_settles fun editor' heditor' => ⟨editor', heditor ▸ heditor',
    .refl editor', fun pending command _ _ hof hcommand => ?_,
    fun o _ _ hcommand => hopen _ rfl hcommand⟩
  exact hopen command hof.operationId.2 hcommand

theorem Edited.step {b b' : Board} {heard : List UiEvent} (h : Edited b heard)
    (hb : Based b heard) (hstep : Step b b') : Edited b' heard := by
  have hsame (heditor : b'.profileEditor = b.profileEditor) : Edited b' heard :=
    h.same heditor fun command hcancel hopen => hopen.step hcancel hb hstep
  cases hstep with
  | edit editor hfree => exact .of_free hfree
  | start command ho marks =>
    have hopen := marks.opens hb ho
    cases marks with
    | save _ editor hfree o form connect =>
      obtain ⟨hcertain, -, htest⟩ := blocked_eq_false hfree
      refine ⟨?_, ?_, ?_⟩
      · rintro _ ⟨⟩ _ ⟨⟩
        exact ⟨(editor.saveCommand_from o form connect).same rfl rfl, _,
          editor.saveCommand_of o form connect, hopen⟩
      · rintro _ ⟨⟩ o ho
        simp [htest] at ho
      · rintro _ ⟨⟩ huncertain
        simp [hcertain] at huncertain
    | testDraft _ editor hfree o =>
      obtain ⟨hcertain, hsave, -⟩ := blocked_eq_false hfree
      refine ⟨?_, ?_, ?_⟩
      · rintro _ ⟨⟩ pending hpending
        simp [hsave] at hpending
      · rintro _ ⟨⟩ _ ⟨⟩
        exact hopen
      · rintro _ ⟨⟩ huncertain
        simp [hcertain] at huncertain
    | _ => exact hsame rfl
  | merge command ho hlane marks =>
    cases marks with
    | save _ editor hfree o form connect =>
      unfold ProfileEditor.saveCommand at hlane
      split at hlane <;> cases hlane
    | testDraft => cases hlane
    | _ => exact hsame rfl
  | _ => exact hsame rfl

/-! ## One event -/

/-- The save of the open editor ends and the editor is not told: the event is not a report on a
save, or the editor takes the configuration for uncertain. -/
def locks (m : Moment) : Bool :=
  m.app.profileEditor.any fun editor => editor.pendingSave.any fun pending =>
    (m.app.port.sent.any fun command =>
        command.operationId == pending.operationId && command.endedBy m.event) &&
      (editor.configUncertain || !reportsSave m.event)

section
variable {app : DbotterApp} {event : UiEvent}

theorem told_of_save {editor : ProfileEditor} {pending : PendingSave} {command : UiCommand}
    (htold : locks ⟨app, event⟩ = false) (heditor : app.profileEditor = some editor)
    (hpending : editor.pendingSave = some pending) (hof : pending.Of command)
    (hmem : command ∈ app.port.sent) (hends : command.endedBy event) :
    editor.configUncertain = false ∧ reportsSave event = true := by
  have hended : (app.port.sent.any fun command =>
      command.operationId == pending.operationId && command.endedBy event) = true :=
    List.any_eq_true.2 ⟨command, hmem, by simp [hof.operationId.1, hends]⟩
  simpa [locks, heditor, hpending, hended] using htold

theorem handleEvent_attachRetryRecipe (editor : ProfileEditor) :
    editor.handleEvent (app.attachRetryRecipe event) = editor.handleEvent event := by
  cases event <;> simp only [attachRetryRecipe] <;> split <;> rfl

/-- The answers of Redis end no save and no draft test. -/
theorem not_endedBy_redis {command : UiCommand}
    (hredis : app.redisResourceEventDisposition event ≠ .notRedis)
    (hedits : (∃ pending : PendingSave, pending.Of command) ∨
      ∃ o draftId, command = .prepareDraftConnectionTest o draftId) :
    command.endedBy event = false := by
  have hidentity : redisResourceEventIdentity event ≠ none := by
    intro hnone
    simp [redisResourceEventDisposition, hnone] at hredis
  obtain ⟨pending, hof⟩ | ⟨o, draftId, rfl⟩ := hedits
  · cases pending <;> cases command <;> try cases hof
    all_goals cases event <;>
      simp [redisResourceEventIdentity, UiCommand.endedBy, UiEvent.isRefusalOf,
        UiEvent.isFailureOf] at hidentity ⊢
  · cases event <;> simp [redisResourceEventIdentity, UiCommand.endedBy, UiEvent.isRefusalOf]
      at hidentity ⊢

theorem Edited.dropped {b' : Board} {heard : List UiEvent} (h : Edited app.board heard)
    (hb : Based app.board heard) (hredis : app.redisResourceEventDisposition event ≠ .notRedis)
    (hsent : b'.sent = app.port.sent) (heditor : b'.profileEditor = app.profileEditor) :
    Edited b' (heard ++ [event]) := by
  refine h.of_settles fun editor' heditor' => ⟨editor', heditor.symm.trans heditor',
    .refl editor', fun pending command _ _ hof hopen => ?_,
    fun o _ _ hopen => ?_⟩
  · exact hopen.hear hof.operationId.2 hb hsent (not_endedBy_redis hredis (.inl ⟨pending, hof⟩))
  · exact hopen.hear rfl hb hsent (not_endedBy_redis hredis (.inr ⟨o, _, rfl⟩))

theorem Edited.settled {heard : List UiEvent} (h : Edited app.board heard)
    (hb : Based app.board heard) (htold : locks ⟨app, event⟩ = false) :
    Edited (app.settled (app.attachRetryRecipe event)).board (heard ++ [event]) := by
  have hsent : (app.settled (app.attachRetryRecipe event)).board.sent = app.port.sent :=
    congrArg UiPort.sent (app.settled_port _)
  refine h.of_settles fun editor' heditor' => ?_
  have hsettled : (app.settled (app.attachRetryRecipe event)).profileEditor = some editor' :=
    heditor'
  rw [app.settled_profileEditor] at hsettled
  obtain ⟨editor, heditor, rfl⟩ := Option.map_eq_some_iff.1 hsettled
  rw [handleEvent_attachRetryRecipe]
  refine ⟨editor, heditor, editor.handleEvent_settles event,
    fun pending command hpending hkept hof hopen => ?_, fun o htest hkept hopen => ?_⟩
  · refine hopen.hear hof.operationId.2 hb hsent (Bool.eq_false_iff.2 fun hends => ?_)
    obtain ⟨hcertain, hreport⟩ := told_of_save htold heditor hpending hof hopen.sent hends
    rw [handleEvent_save hpending hof hends hcertain hreport] at hkept
    cases hkept
  · refine hopen.hear rfl hb hsent (Bool.eq_false_iff.2 fun hends => ?_)
    have hcertain : editor.configUncertain = false := by
      refine Bool.eq_false_iff.2 fun huncertain => ?_
      rw [h.certain editor heditor huncertain] at htest
      cases htest
    rw [handleEvent_test htest hcertain hends] at hkept
    cases hkept

theorem Edited.consume {heard : List UiEvent} (h : Edited app.board heard)
    (hb : Based app.board heard) (hexpected : Expected app.port.sent event)
    (htold : locks ⟨app, event⟩ = false) :
    Edited (app.consumeEvent event).board (heard ++ [event]) := by
  obtain ⟨hignore, heq⟩ | ⟨⟨o, hstale⟩, heq⟩ | ⟨-, hreaches⟩ := consumeEvent_board app event
  · rw [heq]
    exact h.dropped hb (by simp [hignore]) rfl rfl
  · rw [heq, onlyOperations_board (app.finishActiveOperation_only event)]
    exact h.dropped hb (by simp [hstale]) rfl rfl
  · exact (hb.settled hexpected).keeps (fun hb hstep h => h.step hb hstep) hreaches
      (h.settled hb htold)

end

theorem edited_keeps : Keeps (locks · = false) Edited where
  start := .of_free fun _ h => (nomatch h)
  step hb hstep h := h.step hb hstep
  consume hb hexpected htold h := h.consume hb hexpected htold
  prune := by
    intro app heard h
    rw [prune_board]
    refine h.of_settles fun editor' heditor' => ?_
    obtain ⟨editor, heditor, rfl⟩ := Option.map_eq_some_iff.1 heditor'
    exact ⟨editor, heditor, editor.setConfigUncertain_settles _,
      fun _ _ _ _ _ hopen => hopen.congr rfl, fun _ _ _ hopen => hopen.congr rfl⟩
  events events h := h.same rfl fun _ _ hopen => hopen.congr rfl

end Board

/-- The commands that this editor submits. -/
def UiCommand.fromEditor (editor : ProfileEditor) : UiCommand → Bool
  | .createProfile request => editor.mode == .add && request.draftId == editor.draftId
  | .updateProfile request => editor.mode == .edit request.profileId request.expectedGeneration
  | .prepareDraftConnectionTest _ draftId => draftId == editor.draftId
  | _ => false

theorem PendingSave.Of.fromEditor {editor : ProfileEditor} {pending : PendingSave}
    {command : UiCommand} (h : pending.Of command) (hfrom : pending.From editor) :
    command.fromEditor editor := by
  cases pending with
  | create o draftId connect =>
    cases command with
    | createProfile request =>
      obtain ⟨-, rfl⟩ := h
      simp [UiCommand.fromEditor, hfrom.1, hfrom.2]
    | _ => cases h
  | update o key connect =>
    cases command with
    | updateProfile request =>
      obtain ⟨-, hprofile, hgeneration⟩ := h
      have hmode : editor.mode = .edit key.profileId key.profileGeneration := hfrom
      simp [UiCommand.fromEditor, hmode, hprofile, hgeneration]
    | _ => cases h

namespace Desktop
open Board DbotterApp

/-- Between polls the editor takes the configuration for uncertain only where the model does. -/
theorem run_editor_uncertain (moves : List Move) {editor : ProfileEditor}
    (heditor : (run moves).app.profileEditor = some editor)
    (huncertain : editor.configUncertain = true) :
    (run moves).app.model.configUncertain = true := by
  have hstep : ∀ {b b' : Board}, Step b b' →
      (∀ e, b.profileEditor = some e → e.configUncertain = true → b.configUncertain = true) →
      ∀ e, b'.profileEditor = some e → e.configUncertain = true → b'.configUncertain = true := by
    intro b b' hstep h e he hu
    rw [hstep.sameConfig.configUncertain]
    cases hstep with
    | edit editor hfree =>
      rw [(ProfileEditor.blocked_eq_false (hfree e he)).1] at hu
      cases hu
    | start command ho marks | merge command ho hlane marks =>
      cases marks with
      | save _ editor hfree | testDraft _ editor hfree =>
        cases he
        simp [(ProfileEditor.blocked_eq_false hfree).1] at hu
      | _ => exact h e he hu
    | _ => exact h e he hu
  have hreaches : ∀ {app app' : DbotterApp}, Reaches app.board app'.board →
      (∀ e, app.profileEditor = some e → e.configUncertain = true →
        app.model.configUncertain = true) →
      ∀ e, app'.profileEditor = some e → e.configUncertain = true →
        app'.model.configUncertain = true := fun hreaches h =>
    Reaches.keeps (I := fun b => ∀ e, b.profileEditor = some e → e.configUncertain = true →
      b.configUncertain = true) (fun _ _ hlast hb => hstep hlast hb) hreaches h
  induction moves using List.reverseRecOn generalizing editor with
  | nil =>
    have hnew : Reaches ({} : DbotterApp).board new.board := submitRefresh_reaches {}
    exact hreaches hnew (fun _ h => nomatch h) editor heditor huncertain
  | append_singleton moves move ih =>
    rw [run_snoc] at heditor ⊢
    cases move with
    | act action =>
      exact hreaches ((run moves).app.act_reaches action) (fun e he hu => ih he hu) editor heditor
        huncertain
    | poll =>
      simp only [Desktop.step, poll] at heditor ⊢
      generalize (List.foldl consume _ _).app = polled at heditor ⊢
      have hpruned : polled.prune.board.profileEditor = some editor := heditor
      show polled.prune.board.configUncertain = true
      rw [prune_board] at hpruned ⊢
      obtain ⟨before, -, rfl⟩ := Option.map_eq_some_iff.1 hpruned
      exact huncertain
    | emit event =>
      simp only [Desktop.step] at heditor ⊢
      split at heditor <;> split <;> exact ih heditor huncertain
    | receive lane => exact ih heditor huncertain
    | release key => exact ih heditor huncertain
    | close => exact ih heditor huncertain

/-- **The profile editor.** As long as the editor is told of the end of its save, it waits only
for operations that have not ended. Once none of its own is under way it can be left, and once the
configuration is certain its form can be saved and tested again. -/
theorem run_editor_waits (moves : List Move)
    (htold : ∀ m ∈ (run moves).consumed, locks m = false) (editor : ProfileEditor)
    (heditor : (run moves).app.profileEditor = some editor) :
    (∀ o, editor.Holds o → ¬Ended (run moves).app.port.sent (run moves).heard o) ∧
      ((∀ command ∈ (run moves).app.port.sent, command.fromEditor editor →
          Ended (run moves).app.port.sent (run moves).heard command.operationId) →
        editor.cancelEnabled ∧ ((run moves).app.model.configUncertain = false →
          ∀ driver ≠ .mongoDb, editor.actionsEnabled driver)) := by
  have h := (run_sound edited_keeps.kept moves).holds htold
  refine ⟨fun o ho => ?_, fun hrest => ?_⟩
  · obtain ⟨pending, hpending, rfl⟩ | htest := ho
    · obtain ⟨-, command, hof, hopen⟩ := h.save editor heditor pending hpending
      rw [← hof.operationId.1]
      exact hopen.not_ended
    · exact (h.test editor heditor o htest).not_ended
  · have hsave : editor.pendingSave = none := by
      cases hpending : editor.pendingSave with
      | none => rfl
      | some pending =>
        obtain ⟨hfrom, command, hof, hopen⟩ := h.save editor heditor pending hpending
        exact absurd (hrest command hopen.sent (hof.fromEditor hfrom)) hopen.not_ended
    have htest : editor.pendingDraftTest = none := by
      cases ho : editor.pendingDraftTest with
      | none => rfl
      | some o =>
        have hopen := h.test editor heditor o ho
        exact absurd (hrest _ hopen.sent (beq_self_eq_true editor.draftId)) hopen.not_ended
    refine ⟨by simp [ProfileEditor.cancelEnabled, hsave, htest], fun hcertain driver hdriver => ?_⟩
    have heditorCertain : editor.configUncertain = false := by
      refine Bool.eq_false_iff.2 fun huncertain => ?_
      rw [run_editor_uncertain moves heditor huncertain] at hcertain
      cases hcertain
    simp [ProfileEditor.actionsEnabled, hsave, htest, heditorCertain, hdriver]

/-- A second profile is being saved. -/
def saveSecond : List Move :=
  firstLoad .mySql ++ [.act .addProfile, .act (.save (some
    ⟨some "q".toList, (firstProfile .mySql).persisted.toConnectionDraft, .keep, .cancelled⟩)
    false)]

def createFailed : UiEvent :=
  .profileCreateFailed 2 1 .invalidInput (.newOrInternal .createProfile .invalidInput .none
    (.draft 1 2))

/-- The save fails, and the form can be left and saved again. -/
theorem run_editor_waits_failed :
    (run (saveSecond ++ hears createFailed)).app.profileEditor.any fun editor =>
      editor.cancelEnabled && editor.actionsEnabled .mySql := by
  have hopen : (run (saveSecond ++ hears createFailed)).app.profileEditor =
      some { mode := .add, draftId := 1 } := by decide +kernel
  have htold : ∀ m ∈ (run (saveSecond ++ hears createFailed)).consumed, locks m = false := by
    decide +kernel
  have hrest : ∀ command ∈ (run (saveSecond ++ hears createFailed)).app.port.sent,
      command.fromEditor { mode := .add, draftId := 1 } →
      Ended (run (saveSecond ++ hears createFailed)).app.port.sent
        (run (saveSecond ++ hears createFailed)).heard command.operationId := by
    decide +kernel
  have hcertain : (run (saveSecond ++ hears createFailed)).app.model.configUncertain = false := by
    decide +kernel
  obtain ⟨hcancel, hactions⟩ := (run_editor_waits _ htold _ hopen).2 hrest
  rw [hopen, Option.any_some, hcancel, hactions hcertain .mySql (by decide)]
  rfl

/-- The save ends with an uncertain configuration and the profiles are loaded again, and the
form still waits for the save and can be neither left nor saved. -/
theorem editor_locked_after_reload :
    ((run (saveSecond ++ hears (.configUncertain 2) ++ [.act .refresh] ++
        hears (.profilesLoaded 3 [firstProfile .mySql] {}))).app.profileEditor.any fun editor =>
      editor.Holds 2 && !editor.cancelEnabled && !editor.actionsEnabled .mySql) ∧
    Ended (run (saveSecond ++ hears (.configUncertain 2) ++ [.act .refresh] ++
        hears (.profilesLoaded 3 [firstProfile .mySql] {}))).app.port.sent
      (run (saveSecond ++ hears (.configUncertain 2) ++ [.act .refresh] ++
        hears (.profilesLoaded 3 [firstProfile .mySql] {}))).heard 2 ∧
    (run (saveSecond ++ hears (.configUncertain 2) ++ [.act .refresh] ++
        hears (.profilesLoaded 3 [firstProfile .mySql] {}))).app.model.configUncertain = false := by
  decide +kernel

end Desktop

end Dbotter.Ui
