import Dbotter.Ui.Runs

/-!
The operations that the desktop shows as under way.

A profile has at most one active operation, and a delete that displaces it remembers it. Along
every run both are operations of commands that were issued for this profile. They have not
ended as long as no answer of Redis is dropped while its operation is shown.
-/

namespace Dbotter.Ui
open Dbotter.Utf8 Dbotter.Configuration Dbotter.Service Dbotter.Drivers

/-- The request under which an accepted command becomes the active operation of its profile. -/
def UiCommand.activeIdentity : UiCommand → Option RequestIdentity
  | .testConnection identity _ | .execute identity _ _ _ _ | .disconnectProfile identity
  | .reconnectProfile identity _ => some identity
  | .browseCatalog request => some request.identity
  | .scanRedisKeys request => some request.identity
  | .inspectRedisKey request => some request.identity
  | .deleteProfile request =>
    some ⟨request.profileId, request.expectedGeneration, request.operationId⟩
  | _ => none

theorem UiCommand.activeIdentity_operationId {command : UiCommand} {identity : RequestIdentity}
    (h : command.activeIdentity = some identity) :
    command.operationId = identity.operationId ∧ command.isCancel = false := by
  cases command <;> cases h <;> exact ⟨rfl, rfl⟩

namespace Board
open DbotterApp

/-- What ends the command of an active operation takes it off the table. -/
theorem terminalOf_of_endedBy {command : UiCommand} {event : UiEvent} {identity : RequestIdentity}
    (hidentity : command.activeIdentity = some identity) (h : command.endedBy event) :
    clearsOperations event = true ∨
      terminalOf event = some (identity.profileId, identity.operationId) := by
  cases command <;> cases hidentity <;> cases event <;>
    simp [UiCommand.endedBy, UiEvent.isFailureOf, UiEvent.isRefusalOf, clearsOperations,
      terminalOf] at h ⊢ <;> grind

/-- The entry `a` of profile `p` stands for a command that was issued and has not ended. -/
structure Running (b : Board) (heard : List UiEvent) (p : ProfileId) (a : ActiveOperation) :
    Prop where
  issued : ∃ command ∈ b.sent ++ b.merged,
    command.activeIdentity = some ⟨p, a.profileGeneration, a.operationId⟩
  not_ended : ¬Ended b.sent heard a.operationId

structure Tracked (b : Board) (heard : List UiEvent) : Prop where
  active : ∀ p a, b.activeOperations p = some a → Running b heard p a
  displaced : ∀ p pending, b.pendingDeletes p = some pending → pending.priorFinished = false →
    ∀ a, pending.priorActive = some a → Running b heard p a

theorem Running.lt_next {b : Board} {heard : List UiEvent} {p : ProfileId} {a : ActiveOperation}
    (h : Running b heard p a) (hb : Based b heard) : a.operationId < b.nextOperationId := by
  obtain ⟨command, hmem, hidentity⟩ := h.issued
  obtain ⟨ho, hcancel⟩ := UiCommand.activeIdentity_operationId hidentity
  have hlt := hb.lt_next command hmem hcancel
  rwa [ho] at hlt

theorem Issues.mono {b b' : Board} (h : Issues b b') {command : UiCommand}
    (hmem : command ∈ b.sent ++ b.merged) : command ∈ b'.sent ++ b'.merged := by
  cases h with
  | nothing hsent hmerged => rwa [hsent, hmerged]
  | cancel issued hcancel hissued | fresh issued ho hissued =>
    obtain ⟨hsent, hmerged⟩ | ⟨hsent, hmerged⟩ := hissued <;> rw [hsent, hmerged] <;>
      simp only [List.mem_append] at hmem ⊢ <;> tauto

theorem Running.step {b b' : Board} {heard : List UiEvent} {p : ProfileId} {a : ActiveOperation}
    (h : Running b heard p a) (hb : Based b heard) (hstep : Step b b') :
    Running b' heard p a := by
  obtain ⟨command, hmem, hidentity⟩ := h.issued
  exact ⟨⟨command, hstep.issues.mono hmem, hidentity⟩,
    fun hended => h.not_ended (hstep.ended (h.lt_next hb) hended)⟩

/-- An event that does not take the entry off the table has not ended it. -/
theorem Running.hear {b b' : Board} {heard : List UiEvent} {p : ProfileId} {a : ActiveOperation}
    {event : UiEvent} (h : Running b heard p a) (hb : Based b heard) (hsent : b'.sent = b.sent)
    (hmerged : b'.merged = b.merged) (hclears : clearsOperations event = false)
    (hterminal : terminalOf event ≠ some (p, a.operationId)) :
    Running b' (heard ++ [event]) p a := by
  obtain ⟨command, hmem, hidentity⟩ := h.issued
  obtain ⟨ho, hcancel⟩ := UiCommand.activeIdentity_operationId hidentity
  refine ⟨⟨command, by rwa [hsent, hmerged], hidentity⟩, ?_⟩
  rw [hsent]
  rintro ⟨event', hevent', ended, hended, heq, hends⟩
  obtain hevent' | hevent' := List.mem_append.1 hevent'
  · exact h.not_ended ⟨event', hevent', ended, hended, heq, hends⟩
  · rw [List.mem_singleton.1 hevent'] at hends
    have hsame : ended = command := hb.distinct ended (List.mem_append_left _ hended) command hmem
      (not_isCancel_of_endedBy hends) hcancel (heq.trans ho.symm)
    rw [hsame] at hends
    obtain hends | hends := terminalOf_of_endedBy hidentity hends
    · rw [hclears] at hends
      cases hends
    · exact hterminal hends

/-! ## One step -/

theorem Marks.tracks {command : UiCommand} {b b' : Board} (h : Marks command b b') :
    (∀ p a, b'.activeOperations p = some a → b.activeOperations p = some a ∨
        command.activeIdentity = some ⟨p, a.profileGeneration, a.operationId⟩) ∧
      ∀ p pending, b'.pendingDeletes p = some pending → b.pendingDeletes p = some pending ∨
        pending.priorActive = b.activeOperations p := by
  have hactivate : ∀ (c : Board) (identity : RequestIdentity) (kind : OperationKind) p a,
      c.activeOperations = b.activeOperations →
      (c.activate identity kind).activeOperations p = some a → b.activeOperations p = some a ∨
        some identity = some ⟨p, a.profileGeneration, a.operationId⟩ := by
    intro c identity kind p a hc ha
    simp only [activate] at ha
    by_cases hp : p = identity.profileId
    · subst hp
      rw [Function.update_self, Option.some_inj] at ha
      subst ha
      exact .inr rfl
    · rw [Function.update_of_ne hp, hc] at ha
      exact .inl ha
  cases h with
  | delete _ request =>
    refine ⟨fun p a ha => hactivate _ _ _ p a rfl ha, fun p pending hpending => ?_⟩
    simp only [activate, setConnection] at hpending
    by_cases hp : p = request.profileId
    · subst hp
      rw [Function.update_self, Option.some_inj] at hpending
      subst hpending
      exact .inr rfl
    · rw [Function.update_of_ne hp] at hpending
      exact .inl hpending
  | save | testDraft => exact ⟨fun _ _ => .inl, fun _ _ => .inl⟩
  | _ => exact ⟨fun p a ha => hactivate _ _ _ p a rfl ha, fun _ _ => .inl⟩

theorem Tracked.marks {b b' : Board} {heard : List UiEvent} {command : UiCommand}
    (h : Tracked b heard) (hb : Based b heard) (hstep : Step b b')
    (hissued : command ∈ b'.sent ++ b'.merged)
    (hunended : ¬Ended b'.sent heard command.operationId)
    (hactive : ∀ p a, b'.activeOperations p = some a → b.activeOperations p = some a ∨
        command.activeIdentity = some ⟨p, a.profileGeneration, a.operationId⟩)
    (hpending : ∀ p pending, b'.pendingDeletes p = some pending →
        b.pendingDeletes p = some pending ∨ pending.priorActive = b.activeOperations p) :
    Tracked b' heard := by
  refine ⟨fun p a ha => ?_, fun p pending hpd hunfinished a ha => ?_⟩
  · obtain hbefore | hidentity := hactive p a ha
    · exact (h.active p a hbefore).step hb hstep
    · refine ⟨⟨command, hissued, hidentity⟩, ?_⟩
      rwa [(UiCommand.activeIdentity_operationId hidentity).1] at hunended
  · obtain hbefore | hprior := hpending p pending hpd
    · exact (h.displaced p pending hbefore hunfinished a ha).step hb hstep
    · exact (h.active p a (hprior ▸ ha)).step hb hstep

theorem Tracked.step {b b' : Board} {heard : List UiEvent} (h : Tracked b heard)
    (hb : Based b heard) (hstep : Step b b') : Tracked b' heard := by
  have hsame : b'.activeOperations = b.activeOperations → b'.pendingDeletes = b.pendingDeletes →
      Tracked b' heard := by
    intro hactive hpending
    refine ⟨fun p a ha => ?_, fun p pending hpd hunfinished a ha => ?_⟩
    · exact (h.active p a (hactive ▸ ha)).step hb hstep
    · exact (h.displaced p pending (hpending ▸ hpd) hunfinished a ha).step hb hstep
  cases hstep with
  | start command ho marks =>
    obtain ⟨hactive, hpending⟩ := marks.tracks
    refine h.marks hb (.start command ho marks) ?_ (marks.not_ended hb ho) hactive hpending
    rw [marks.frame.1]
    simp
  | merge command ho hlane marks =>
    obtain ⟨hactive, hpending⟩ := marks.tracks
    refine h.marks hb (.merge command ho hlane marks) ?_ (marks.not_ended_merged hb ho) hactive
      hpending
    rw [marks.frame.2.1]
    simp
  | _ => exact hsame rfl rfl

/-! ## One event -/

/-- The operations that an entry shows are the ones that were shown before, and none of them
has been taken off by the event. -/
theorem Tracked.hear {app : DbotterApp} {b' : Board} {heard : List UiEvent} {event : UiEvent}
    (h : Tracked app.board heard) (hb : Based app.board heard) (hsent : b'.sent = app.port.sent)
    (hmerged : b'.merged = app.port.merged)
    (hactive : ∀ p a, b'.activeOperations p = some a →
      clearsOperations event = false ∧ terminalOf event ≠ some (p, a.operationId) ∧
        (app.activeOperations p = some a ∨ ∃ pending, app.pendingDeletes p = some pending ∧
          pending.priorActive = some a ∧ pending.priorFinished = false))
    (hpending : ∀ p pending', b'.pendingDeletes p = some pending' →
      clearsOperations event = false ∧ ∃ pending, app.pendingDeletes p = some pending ∧
        pending'.priorActive = pending.priorActive ∧
        (pending'.priorFinished = false → pending.priorFinished = false ∧
          ∀ a, pending.priorActive = some a → terminalOf event ≠ some (p, a.operationId))) :
    Tracked b' (heard ++ [event]) := by
  refine ⟨fun p a ha => ?_, fun p pending' hpd hunfinished a ha => ?_⟩
  · obtain ⟨hclears, hterminal, hbefore | ⟨pending, hpd, hprior, hunfinished⟩⟩ := hactive p a ha
    · exact (h.active p a hbefore).hear hb hsent hmerged hclears hterminal
    · exact (h.displaced p pending hpd hunfinished a hprior).hear hb hsent hmerged hclears
        hterminal
  · obtain ⟨hclears, pending, hbefore, hprior, hfinished⟩ := hpending p pending' hpd
    obtain ⟨hunfinished, hterminal⟩ := hfinished hunfinished
    rw [hprior] at ha
    exact (h.displaced p pending hbefore hunfinished a ha).hear hb hsent hmerged hclears
      (hterminal a ha)

/-- An answer of Redis is dropped while its operation is shown as active, or is remembered by
the delete that displaced it. -/
def losesTrack (m : Moment) : Bool :=
  m.app.redisResourceEventDisposition m.event == .ignore &&
    (terminalOf m.event).any fun (p, o) =>
      (m.app.activeOperations p).any (·.operationId == o) ||
        (m.app.pendingDeletes p).any fun pending =>
          !pending.priorFinished && pending.priorActive.any (·.operationId == o)

theorem clearsOperations_of_ignore {app : DbotterApp} {event : UiEvent}
    (h : app.redisResourceEventDisposition event = .ignore) : clearsOperations event = false := by
  cases event with
  | configUncertain o => cases h
  | runtimeShutdown o => cases h
  | _ => rfl

theorem Tracked.consume {app : DbotterApp} {event : UiEvent} {heard : List UiEvent}
    (h : Tracked app.board heard) (hb : Based app.board heard)
    (hexpected : Expected app.port.sent event) (hkept : losesTrack ⟨app, event⟩ = false) :
    Tracked (app.consumeEvent event).board (heard ++ [event]) := by
  obtain ⟨hignore, heq⟩ | ⟨-, heq⟩ | ⟨-, hreaches⟩ := consumeEvent_board app event
  · have hclears := clearsOperations_of_ignore hignore
    rw [heq]
    refine h.hear hb rfl rfl (fun p a ha => ⟨hclears, fun hterminal => ?_, .inl ha⟩)
      fun p pending hpd => ⟨hclears, pending, hpd, rfl, fun hunfinished =>
        ⟨hunfinished, fun a ha hterminal => ?_⟩⟩
    · have hshown : app.activeOperations p = some a := ha
      simp [losesTrack, hignore, hterminal, hshown] at hkept
    · have hshown : app.pendingDeletes p = some pending := hpd
      simp [losesTrack, hignore, hterminal, hshown, hunfinished, ha] at hkept
  · rw [heq, onlyOperations_board (app.finishActiveOperation_only event)]
    refine h.hear hb rfl rfl (fun p a ha => finishActiveOperation_active ha)
      fun p pending' hpd => ?_
    obtain ⟨hclears, pending, hbefore, -, -, hprior, hfinished⟩ :=
      finishActiveOperation_pending hpd
    exact ⟨hclears, pending, hbefore, hprior, hfinished⟩
  · have hsettled : Tracked (app.settled (app.attachRetryRecipe event)).board
        (heard ++ [event]) := by
      have hclears : clearsOperations (app.attachRetryRecipe event) = clearsOperations event := by
        cases event <;> simp only [attachRetryRecipe] <;> split <;> rfl
      refine h.hear hb (congrArg UiPort.sent (app.settled_port _))
        (congrArg UiPort.merged (app.settled_port _)) (fun p a ha => ?_) fun p pending' hpd => ?_
      · have hactive := settled_active ha
        rwa [hclears, attachRetryRecipe_terminalOf] at hactive
      · obtain ⟨hclear, pending, hbefore, -, -, hprior, hfinished⟩ := settled_pending hpd
        rw [attachRetryRecipe_terminalOf] at hfinished
        exact ⟨hclears ▸ hclear, pending, hbefore, hprior, hfinished⟩
    exact (hb.settled hexpected).keeps (fun hb hstep h => h.step hb hstep) hreaches hsettled

theorem tracked_keeps : Keeps (losesTrack · = false) Tracked where
  start := ⟨fun _ _ h => (nomatch h), fun _ _ h => (nomatch h)⟩
  step hb hstep h := h.step hb hstep
  consume hb hexpected hkept h := h.consume hb hexpected hkept
  prune := by
    intro app heard h
    rw [prune_board]
    refine ⟨fun p a ha => ?_, fun p pending hpd hunfinished a ha => ?_⟩
    · have := h.active p a (Option.filter_eq_some_iff.1 ha).1
      exact ⟨this.issued, this.not_ended⟩
    · have := h.displaced p pending (Option.filter_eq_some_iff.1 hpd).1 hunfinished a ha
      exact ⟨this.issued, this.not_ended⟩
  events := by
    intro b heard events h
    refine ⟨fun p a ha => ?_, fun p pending hpd hunfinished a ha => ?_⟩
    · exact ⟨(h.active p a ha).issued, (h.active p a ha).not_ended⟩
    · have := h.displaced p pending hpd hunfinished a ha
      exact ⟨this.issued, this.not_ended⟩

end Board

/-! ## What a delete displaces -/

namespace DbotterApp

variable (app : DbotterApp)

theorem submit_pendingDeletes (command : OperationId → UiCommand)
    {accepted : OperationId → DbotterApp → DbotterApp} {refused : DbotterApp → DbotterApp}
    (haccepted : ∀ o (app : DbotterApp), (accepted o app).pendingDeletes = app.pendingDeletes)
    (hrefused : ∀ app : DbotterApp, (refused app).pendingDeletes = app.pendingDeletes) :
    (app.submit command accepted refused).pendingDeletes = app.pendingDeletes := by
  unfold submit
  simp only
  split
  · exact haccepted _ _
  · exact hrefused _

theorem submitTest_pendingDeletes (profileId : ProfileId) :
    (app.submitTest profileId).pendingDeletes = app.pendingDeletes := by
  simp only [submitTest, openSessionCredentialPrompt, openCredentialPromptFor, submitConnectExact]
  repeat' split
  all_goals first
    | rfl
    | exact app.submit_pendingDeletes _ (fun _ _ => rfl) (fun _ => rfl)

theorem retryRecipe_pendingDeletes (recipeId : OperationRecipeId)
    (expected : Option OperationKind) :
    (app.retryRecipe recipeId expected).pendingDeletes = app.pendingDeletes := by
  have hretry (app : DbotterApp) (recipe : RetryRecipe) :
      (app.retryWith recipe).pendingDeletes = app.pendingDeletes := by
    cases recipe <;> simp only [retryWith, submitConnectExact, submitReconnectExact,
      retryCatalogRequest, retryRedisScan, retryRedisInspect] <;> split <;>
      first
        | rfl
        | exact app.submit_pendingDeletes _ (fun _ _ => rfl) (fun _ => rfl)
  unfold retryRecipe
  split
  · rfl
  · simp only
    split
    · rfl
    · split
      · rfl
      · exact hretry _ _

/-- Only the confirmation of a delete adds to the pending deletes. -/
theorem act_pendingDeletes (action : UiAction) (h : action ≠ .confirmDelete) :
    (app.act action).pendingDeletes = app.pendingDeletes := by
  cases action with
  | confirmDelete => exact absurd rfl h
  | connect profileId => exact app.submitTest_pendingDeletes profileId
  | recover operationId error action =>
    simp only [act, dispatchErrorRecovery]
    split
    · rfl
    · cases action <;> simp only [openCredentialEditor, openCredentialPromptFor,
        openProfileEditorAt, openEditor, cancelOperation, submitReconnect, submitReconnectExact,
        restartProfileRedisScan, retryRedisScan, clearProfileCatalog] <;> repeat' split
      all_goals first
        | rfl
        | exact app.retryRecipe_pendingDeletes _ _
        | exact app.submit_pendingDeletes _ (fun _ _ => rfl) (fun _ => rfl)
  | _ =>
    simp only [act, submitRefresh, submitDisconnect, submitReconnect, submitReconnectExact,
      openSessionCredentialPrompt, openCredentialPromptFor, submitCredentialPrompt, submitExecute,
      submitCancelExecute, cancelOperation, submitResultExportTo, showExplorer, browse,
      submitMysqlExplorerIntent, submitRedisIntent, submitRedisIntentFor, submitRedisCancel,
      openProfileEditorAt, cancelEditor, saveProfile, testDraft, openDeleteConfirmation]
    repeat' split
    all_goals first
      | rfl
      | exact app.submit_pendingDeletes _ (fun _ _ => rfl) (fun _ => rfl)

/-- The confirmation of a delete records the operation that it displaces. -/
theorem confirmDelete_pendingDeletes {p : ProfileId} {pending : PendingDelete}
    (h : app.confirmDeleteConfirmation.pendingDeletes p = some pending) :
    app.pendingDeletes p = some pending ∨
      pending.operationId = app.model.nextOperationId ∧
        pending.priorActive = app.activeOperations p := by
  simp only [confirmDeleteConfirmation] at h
  split at h
  · exact .inl h
  · next confirmation _ =>
    split at h
    · exact .inl h
    · simp only [submit, UiModel.nextOperation] at h
      split at h
      · by_cases hp : p = confirmation.profileId
        · subst hp
          simp only [Function.update_self, Option.some_inj] at h
          subst h
          exact .inr ⟨rfl, rfl⟩
        · simp only [Function.update_of_ne hp] at h
          exact .inl h
      · exact .inl h

theorem applyEvent_pendingDeletes (event : UiEvent) :
    (app.applyEvent event).pendingDeletes =
      (app.settled (app.attachRetryRecipe event)).pendingDeletes := by
  have hfollow (app : DbotterApp) (connect : Option (ProfileId × Bool))
      (retry : Option (OperationRecipeId × OperationKind)) :
      (app.followUp connect retry).pendingDeletes = app.pendingDeletes := by
    have hretry (app : DbotterApp) :
        (app.followUp none retry).pendingDeletes = app.pendingDeletes := by
      cases retry with
      | none => rfl
      | some recipe => exact app.retryRecipe_pendingDeletes _ _
    unfold followUp
    refine (hretry _).trans ?_
    split
    · rfl
    · simp only
      split
      · exact submitTest_pendingDeletes _ _
      · rfl
  have hsave (app : DbotterApp) (event : UiEvent) (profileId : ProfileId) (connect : Bool) :
      (app.finishSave event profileId connect).pendingDeletes = app.pendingDeletes := by
    refine submit_pendingDeletes _ _ (fun o app => ?_) fun app => ?_
    · split <;> rfl
    · split <;> rfl
  simp only [applyEvent, settled]
  split
  · exact hsave _ _ _ _
  · exact hsave _ _ _ _
  · rfl
  · exact hfollow _ _ _

/-- A delete that is pending after an event was pending before it, with the same displaced
operation. -/
theorem consumeEvent_pending {app : DbotterApp} {event : UiEvent} {p : ProfileId}
    {pending' : PendingDelete}
    (h : (app.consumeEvent event).pendingDeletes p = some pending') :
    ∃ pending, app.pendingDeletes p = some pending ∧
      pending'.operationId = pending.operationId ∧ pending'.priorActive = pending.priorActive := by
  unfold consumeEvent at h
  cases hdisposition : app.redisResourceEventDisposition event with
  | ignore =>
    rw [hdisposition] at h
    exact ⟨pending', h, rfl, rfl⟩
  | staleTerminal o =>
    rw [hdisposition] at h
    obtain ⟨-, pending, hpending, ho, -, hprior, -⟩ := finishActiveOperation_pending h
    exact ⟨pending, hpending, ho, hprior⟩
  | notRedis | apply =>
    simp only [hdisposition, applyEvent_pendingDeletes] at h
    obtain ⟨-, pending, hpending, ho, -, hprior, -⟩ := settled_pending h
    exact ⟨pending, hpending, ho, hprior⟩

theorem prune_pendingDeletes {app : DbotterApp} {p : ProfileId} {pending : PendingDelete}
    (h : app.prune.pendingDeletes p = some pending) : app.pendingDeletes p = some pending := by
  have hpruned : app.prune.board.pendingDeletes p = some pending := h
  rw [Board.prune_board] at hpruned
  exact (Option.filter_eq_some_iff.1 hpruned).1

end DbotterApp

namespace Desktop
open Board DbotterApp

/-- The pending deletes were confirmed in the run, and what each displaces was active then. -/
def Recorded (moves : List Move) (app : DbotterApp) : Prop :=
  ∀ p pending, app.pendingDeletes p = some pending →
    ∃ before after, moves = before ++ .act .confirmDelete :: after ∧
      (run before).app.model.nextOperationId = pending.operationId ∧
      (run before).app.activeOperations p = pending.priorActive

theorem Recorded.snoc {moves : List Move} {app app' : DbotterApp} (h : Recorded moves app)
    (move : Move)
    (hpending : ∀ p pending', app'.pendingDeletes p = some pending' →
      ∃ pending, app.pendingDeletes p = some pending ∧
        pending'.operationId = pending.operationId ∧
        pending'.priorActive = pending.priorActive) :
    Recorded (moves ++ [move]) app' := by
  intro p pending' hp
  obtain ⟨pending, hp, ho, hprior⟩ := hpending p pending' hp
  obtain ⟨before, after, rfl, hnext, hactive⟩ := h p pending hp
  exact ⟨before, after ++ [move], by simp, hnext.trans ho.symm, hactive.trans hprior.symm⟩

theorem foldl_recorded {moves : List Move} {d : Desktop} (events : List UiEvent)
    (h : Recorded moves d.app) (hconsumed : ∀ m ∈ d.consumed, Recorded moves m.app) :
    Recorded moves (events.foldl consume d).app ∧
      ∀ m ∈ (events.foldl consume d).consumed, Recorded moves m.app := by
  induction events generalizing d with
  | nil => exact ⟨h, hconsumed⟩
  | cons event events ih =>
    refine ih ?_ fun m hm => ?_
    · intro p pending' hp
      obtain ⟨pending, hp, ho, hprior⟩ := consumeEvent_pending hp
      rw [ho, hprior]
      exact h p pending hp
    · obtain hm | hm := List.mem_append.1 hm
      · exact hconsumed m hm
      · rw [List.mem_singleton.1 hm]
        exact h

theorem run_recorded (moves : List Move) :
    Recorded moves (run moves).app ∧ ∀ m ∈ (run moves).consumed, Recorded moves m.app := by
  induction moves using List.reverseRecOn with
  | nil =>
    have hempty : (run []).app.pendingDeletes = fun _ => none :=
      submit_pendingDeletes {} .refreshProfiles (fun _ _ => rfl) fun _ => rfl
    refine ⟨fun p pending hp => ?_, fun m hm => absurd hm List.not_mem_nil⟩
    rw [hempty] at hp
    cases hp
  | append_singleton moves move ih =>
    obtain ⟨hnow, hbefore⟩ := ih
    have hsame {app app' : DbotterApp} (h : Recorded moves app)
        (heq : app'.pendingDeletes = app.pendingDeletes) : Recorded (moves ++ [move]) app' :=
      h.snoc move fun p pending hp => ⟨pending, heq ▸ hp, rfl, rfl⟩
    have hpast : ∀ m ∈ (run moves).consumed, Recorded (moves ++ [move]) m.app :=
      fun m hm => hsame (hbefore m hm) rfl
    rw [run_snoc]
    cases move with
    | act action =>
      refine ⟨?_, hpast⟩
      by_cases hconfirm : action = .confirmDelete
      · subst hconfirm
        intro p pending hp
        obtain hp | ⟨ho, hprior⟩ := confirmDelete_pendingDeletes _ hp
        · exact hsame hnow rfl p pending hp
        · exact ⟨moves, [], rfl, ho.symm, hprior.symm⟩
      · exact hsame hnow (act_pendingDeletes _ action hconfirm)
    | poll =>
      obtain ⟨hpolled, hconsumed⟩ := foldl_recorded
        (d := ⟨{ (run moves).app with
          port := ((run moves).app.port.drainEvents eventDrainLimit).2 }, (run moves).consumed⟩)
        ((run moves).app.port.drainEvents eventDrainLimit).1 (hsame hnow rfl) hpast
      exact ⟨fun p pending hp => hpolled p pending (prune_pendingDeletes hp), hconsumed⟩
    | emit event =>
      simp only [Desktop.step]
      split
      · exact ⟨hsame hnow rfl, hpast⟩
      · exact ⟨hsame hnow rfl, hpast⟩
    | receive lane => exact ⟨hsame hnow rfl, hpast⟩
    | release key => exact ⟨hsame hnow rfl, hpast⟩
    | close => exact ⟨hsame hnow rfl, hpast⟩

/-- **Active operations.** As long as no answer of Redis is dropped while its operation is
shown, no operation that has ended is shown as active. An operation that is active again after
a delete failed is the one that was active when the delete was confirmed, and has not ended. -/
theorem run_active_not_ended (moves : List Move)
    (hkept : ∀ m ∈ (run moves).consumed, losesTrack m = false) :
    (∀ p a, (run moves).app.activeOperations p = some a →
        ¬Ended (run moves).app.port.sent (run moves).heard a.operationId) ∧
      ∀ earlier m later identity session summary error disposition outcome pending a,
        (run moves).consumed = earlier ++ m :: later →
        m.event = .operationFailed identity session .deleteProfile summary error disposition
          outcome →
        m.app.pendingDeletes identity.profileId = some pending →
        pending.operationId = identity.operationId →
        m.app.activeOperations identity.profileId ≠ some a →
        (m.app.consumeEvent m.event).activeOperations identity.profileId = some a →
          (∃ before after, moves = before ++ .act .confirmDelete :: after ∧
            (run before).app.model.nextOperationId = identity.operationId ∧
            (run before).app.activeOperations identity.profileId = some a) ∧
          ¬Ended (m.app.consumeEvent m.event).port.sent
            (earlier.map (·.event) ++ [m.event]) a.operationId := by
  constructor
  · intro p a ha
    exact ((run_sound tracked_keeps.kept moves).holds hkept).active p a ha |>.not_ended
  · intro earlier m later identity session summary error disposition outcome pending a hsplit
      hevent hpending ho hbefore hafter
    have hmem : m ∈ (run moves).consumed := by simp [hsplit]
    constructor
    · -- The delete is over, so that what is active now was displaced by it.
      have hprior : pending.priorActive = some a := by
        obtain ⟨error', -, heq⟩ := m.app.applyEvent_operationFailed identity session
          .deleteProfile summary error disposition outcome
        have hconsume : m.app.consumeEvent m.event = m.app.applyEvent m.event := by
          rw [hevent]
          rfl
        rw [hconsume, hevent, heq] at hafter
        obtain ⟨-, -, hactive | ⟨pending', hpending', hprior, -⟩⟩ := settled_active hafter
        · exact absurd hactive hbefore
        · cases hpending.symm.trans hpending'
          exact hprior
      obtain ⟨before, after, hmoves, hnext, hactive⟩ :=
        (run_recorded moves).2 m hmem identity.profileId pending hpending
      exact ⟨before, after, hmoves, hnext.trans ho, hactive.trans hprior⟩
    · obtain ⟨htracked, hbased, hexpected⟩ := run_moment tracked_keeps.kept hsplit
      have hearlier : ∀ m' ∈ earlier, losesTrack m' = false := fun m' hm' =>
        hkept m' (by simp [hsplit, hm'])
      exact ((htracked hearlier).consume hbased hexpected (hkept m hmem)).active _ a hafter
        |>.not_ended

/-- A scan of the keys is under way when the profile is about to be deleted. -/
def scanThenDelete : List Move :=
  firstLoad .redis ++ [.act .showExplorer,
    .act (.browseRedis (.scan (.literalPrefix []) 0 true)),
    .act (.openDelete (firstProfile .redis)), .act .confirmDelete]

def deleteBusy : UiEvent :=
  failedProfileEvent ⟨"p".toList, 1, 3⟩ .deleteProfile .resourceBusy

def keysLoaded (o : OperationId) : UiEvent :=
  .redisKeysLoaded ⟨⟨"p".toList, 1, o⟩, 0, [], 0, 0, 0, false, false⟩ 1 .keep

/-- The delete fails, and the scan is active again and has not ended. -/
theorem run_active_not_ended_scan :
    (run (scanThenDelete ++ hears deleteBusy)).app.activeOperations "p".toList =
        some ⟨2, 1, .browseRedis⟩ ∧
      ¬Ended (run (scanThenDelete ++ hears deleteBusy)).app.port.sent
        (run (scanThenDelete ++ hears deleteBusy)).heard 2 := by
  have hactive : (run (scanThenDelete ++ hears deleteBusy)).app.activeOperations "p".toList =
      some ⟨2, 1, .browseRedis⟩ := by decide +kernel
  have hkept : ∀ m ∈ (run (scanThenDelete ++ hears deleteBusy)).consumed, losesTrack m = false := by
    decide +kernel
  exact ⟨hactive, (run_active_not_ended _ hkept).1 _ _ hactive⟩

/-- The scan ends while the delete is under way, and is active again once the delete fails. -/
theorem active_after_dropped_answer :
    (run (scanThenDelete ++ hears (keysLoaded 2) ++ hears deleteBusy)).app.activeOperations
        "p".toList = some ⟨2, 1, .browseRedis⟩ ∧
      Ended (run (scanThenDelete ++ hears (keysLoaded 2) ++ hears deleteBusy)).app.port.sent
        (run (scanThenDelete ++ hears (keysLoaded 2) ++ hears deleteBusy)).heard 2 := by
  decide +kernel

end Desktop

end Dbotter.Ui
