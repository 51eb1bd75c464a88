import Dbotter.Ui.Board
import Dbotter.Ui.Fencing

/-!
What consuming an event can do.

`settled` is the application once an event has reached every part of it. What follows from the
event, a refresh after a save, a connection after that refresh, a retry after a credential, are
submissions, and move the board by the steps of a submission.
-/

namespace Dbotter.Ui
open Dbotter.Utf8 Dbotter.Configuration Dbotter.Service Dbotter.Drivers

namespace DbotterApp
open Board Relation

variable (app : DbotterApp) (event : UiEvent)

/-! ## The event that is applied -/

@[simp] theorem attachRetryRecipe_endedBy (command : UiCommand) :
    command.endedBy (app.attachRetryRecipe event) = command.endedBy event := by
  cases event <;> simp only [attachRetryRecipe] <;> split <;> cases command <;> rfl

@[simp] theorem attachRetryRecipe_terminalOf :
    terminalOf (app.attachRetryRecipe event) = terminalOf event := by
  cases event <;> simp only [attachRetryRecipe] <;> split <;> rfl

/-! ## Before the model hears of it -/

/-- The application once an event has reached every part of it. -/
def settled : DbotterApp :=
  ((app.settleEvent event).1.notifyEditor event).1.foldIntoModel event

theorem captureCommonError_eq :
    ∃ commonError, app.captureCommonError event = { app with commonError } := by
  cases event <;> simp only [captureCommonError] <;> try exact ⟨_, rfl⟩
  split <;> exact ⟨_, rfl⟩

theorem handleCredentialTerminal_eq :
    ∃ credentialPrompt retryRecipes, (app.handleCredentialTerminal event).1 =
      { app with credentialPrompt, retryRecipes } := by
  unfold handleCredentialTerminal
  split
  · exact ⟨_, _, rfl⟩
  · exact ⟨_, _, rfl⟩
  · split
    · split
      · simp only
        split <;> exact ⟨_, _, rfl⟩
      · exact ⟨_, _, rfl⟩
    · exact ⟨_, _, rfl⟩

/-! ## Active operations -/

/-- The events after which no operation is under way. -/
def clearsOperations : UiEvent → Bool
  | .configUncertain _ | .runtimeShutdown _ => true
  | _ => false

theorem deactivate_active {app : DbotterApp} {profileId p : ProfileId} {o : OperationId}
    {a : ActiveOperation} (h : (app.deactivate profileId o).activeOperations p = some a) :
    app.activeOperations p = some a ∧ (profileId = p → o ≠ a.operationId) := by
  unfold deactivate at h
  split at h
  · by_cases hp : p = profileId
    · subst hp
      simp at h
    · rw [show ({ app with activeOperations := _ } : DbotterApp).activeOperations p =
        app.activeOperations p from Function.update_of_ne hp _ _] at h
      exact ⟨h, fun hp' => absurd hp'.symm hp⟩
  · next hactive =>
    refine ⟨h, ?_⟩
    rintro rfl rfl
    simp [h] at hactive

@[simp] theorem deactivate_pendingDeletes (profileId : ProfileId) (o : OperationId) :
    (app.deactivate profileId o).pendingDeletes = app.pendingDeletes := by
  unfold deactivate
  split <;> rfl

@[simp] theorem removeRecipe_pendingDeletes (recipeId : Option OperationRecipeId) :
    (app.removeRecipe recipeId).pendingDeletes = app.pendingDeletes := rfl

/-- The pending deletes once the operation that one of them displaced has ended. -/
theorem markPriorFinished_pending {app : DbotterApp} {profileId p : ProfileId} {o : OperationId}
    {pending' : PendingDelete}
    (h : (app.markPriorFinished profileId o).pendingDeletes p = some pending') :
    ∃ pending, app.pendingDeletes p = some pending ∧
      pending'.operationId = pending.operationId ∧
      pending'.profileGeneration = pending.profileGeneration ∧
      pending'.priorActive = pending.priorActive ∧
      (pending'.priorFinished = false → pending.priorFinished = false ∧
        ∀ a, pending.priorActive = some a → profileId = p → o ≠ a.operationId) := by
  simp only [markPriorFinished] at h
  by_cases hp : p = profileId
  · subst hp
    rw [Function.update_self] at h
    obtain ⟨pending, hpending, rfl⟩ := Option.map_eq_some_iff.1 h
    refine ⟨pending, hpending, ?_⟩
    split
    · exact ⟨rfl, rfl, rfl, nofun⟩
    · next hprior =>
      refine ⟨rfl, rfl, rfl, fun hfinished => ⟨hfinished, ?_⟩⟩
      rintro a ha - rfl
      simp [ha] at hprior
  · rw [Function.update_of_ne hp] at h
    exact ⟨pending', h, rfl, rfl, rfl, fun hfinished =>
      ⟨hfinished, fun _ _ hp' => absurd hp'.symm hp⟩⟩

theorem failedDelete_eq {app : DbotterApp} {event : UiEvent} {pending : PendingDelete}
    {summary : PublicSummary} (h : app.failedDelete event = some (pending, summary)) :
    ∃ p, app.pendingDeletes p = some pending ∧ terminalOf event = some (p, pending.operationId) := by
  unfold failedDelete at h
  split at h
  · next identity _ _ _ _ _ =>
    split at h
    · next other hother =>
      split at h
      · next ho =>
        cases h
        exact ⟨identity.profileId, hother, by rw [ho]; rfl⟩
      · cases h
    · cases h
  · cases h

/-- After a failed delete the active operation is another one than the delete, or the one that
the delete had displaced. -/
theorem finishFailedDelete_active {app : DbotterApp} {profileId p : ProfileId}
    {pending : PendingDelete} {summary : PublicSummary} {a : ActiveOperation}
    (h : (app.finishFailedDelete profileId pending summary).activeOperations p = some a) :
    app.activeOperations p = some a ∧ (profileId = p → pending.operationId ≠ a.operationId) ∨
      profileId = p ∧ pending.priorActive = some a ∧ pending.priorFinished = false := by
  simp only [finishFailedDelete] at h
  split at h
  · next hrestores =>
    simp only [Bool.and_eq_true, Bool.not_eq_true'] at hrestores
    by_cases hp : p = profileId
    · subst hp
      simp only [Function.update_self] at h
      exact .inr ⟨rfl, h, hrestores.1.1.2⟩
    · simp only [Function.update_of_ne hp] at h
      have hother := deactivate_active h
      exact .inl hother
  · have hother := deactivate_active h
    exact .inl hother

/-- An operation is active after an event only if the event does not end it, and it was active
before or is the one that a failed delete had displaced. -/
theorem finishActiveOperation_active {app : DbotterApp} {event : UiEvent} {p : ProfileId}
    {a : ActiveOperation} (h : (app.finishActiveOperation event).activeOperations p = some a) :
    clearsOperations event = false ∧ terminalOf event ≠ some (p, a.operationId) ∧
      (app.activeOperations p = some a ∨ ∃ pending, app.pendingDeletes p = some pending ∧
        pending.priorActive = some a ∧ pending.priorFinished = false) := by
  unfold finishActiveOperation at h
  split at h
  · cases h
  · cases h
  next hne hne' =>
  refine ⟨by cases event <;> simp_all [clearsOperations], ?_⟩
  cases hterminal : terminalOf event with
  | none =>
    rw [hterminal] at h
    exact ⟨by simp, .inl h⟩
  | some ended =>
    obtain ⟨profileId, o⟩ := ended
    simp only [hterminal] at h
    split at h
    · next pending summary hfailed =>
      obtain ⟨p', hp', hop⟩ := failedDelete_eq hfailed
      cases hterminal.symm.trans hop
      obtain ⟨before, hbefore, -, -, hprior, hfinished⟩ := markPriorFinished_pending hp'
      obtain ⟨hactive, hdelete⟩ | ⟨rfl, hrestored, hunfinished⟩ := finishFailedDelete_active h
      · refine ⟨fun heq => ?_, .inl hactive⟩
        simp only [Option.some_inj, Prod.mk.injEq] at heq
        exact hdelete heq.1 heq.2
      · obtain ⟨hbeforeFinished, hother⟩ := hfinished hunfinished
        refine ⟨fun heq => ?_, .inr ⟨before, hbefore, hprior ▸ hrestored, hbeforeFinished⟩⟩
        simp only [Option.some_inj, Prod.mk.injEq, true_and] at heq
        exact hother a (hprior ▸ hrestored) rfl heq
    · have hdeactivated : ∃ app' : DbotterApp, app'.activeOperations = app.activeOperations ∧
          (app'.deactivate profileId o).activeOperations p = some a := by
        split at h
        · exact ⟨_, by split <;> rfl, h⟩
        · exact ⟨_, by split <;> rfl, h⟩
      obtain ⟨app', heq, hactive⟩ := hdeactivated
      obtain ⟨hactive, hother⟩ := deactivate_active hactive
      refine ⟨?_, .inl (heq ▸ hactive)⟩
      rintro ⟨⟩
      exact hother rfl rfl

/-- A delete that is pending after an event was pending before it, and knows whether the event
ended the operation that it had displaced. -/
theorem finishActiveOperation_pending {app : DbotterApp} {event : UiEvent} {p : ProfileId}
    {pending' : PendingDelete}
    (h : (app.finishActiveOperation event).pendingDeletes p = some pending') :
    clearsOperations event = false ∧ ∃ pending, app.pendingDeletes p = some pending ∧
      pending'.operationId = pending.operationId ∧
      pending'.profileGeneration = pending.profileGeneration ∧
      pending'.priorActive = pending.priorActive ∧
      (pending'.priorFinished = false → pending.priorFinished = false ∧
        ∀ a, pending.priorActive = some a → terminalOf event ≠ some (p, a.operationId)) := by
  unfold finishActiveOperation at h
  split at h
  · cases h
  · cases h
  next hne hne' =>
  refine ⟨by cases event <;> simp_all [clearsOperations], ?_⟩
  cases hterminal : terminalOf event with
  | none =>
    rw [hterminal] at h
    exact ⟨pending', h, rfl, rfl, rfl, fun hfinished => ⟨hfinished, by simp⟩⟩
  | some ended =>
    obtain ⟨profileId, o⟩ := ended
    simp only [hterminal] at h
    have hmarked : (app.markPriorFinished profileId o).pendingDeletes p = some pending' := by
      split at h
      · next pending summary _ =>
        simp only [finishFailedDelete] at h
        have : Function.update (app.markPriorFinished profileId o).pendingDeletes profileId none p
            = some pending' := by
          split at h <;> simpa using h
        by_cases hp : p = profileId
        · subst hp
          simp at this
        · simpa [hp] using this
      · have hkept : ∃ deletes, deletes p = some pending' ∧
            (deletes = (app.markPriorFinished profileId o).pendingDeletes ∨
              deletes = Function.update (app.markPriorFinished profileId o).pendingDeletes
                profileId none) := by
          split at h
          · refine ⟨_, h, ?_⟩
            rw [deactivate_pendingDeletes]
            split <;> simp
          · refine ⟨_, h, ?_⟩
            rw [removeRecipe_pendingDeletes, deactivate_pendingDeletes]
            split <;> simp
        obtain ⟨deletes, hdeletes, rfl | rfl⟩ := hkept
        · exact hdeletes
        · by_cases hp : p = profileId
          · subst hp
            simp at hdeletes
          · simpa [hp] using hdeletes
    obtain ⟨pending, hpending, ho, hgeneration, hprior, hfinished⟩ :=
      markPriorFinished_pending hmarked
    refine ⟨pending, hpending, ho, hgeneration, hprior, fun hunfinished => ?_⟩
    obtain ⟨hbefore, hother⟩ := hfinished hunfinished
    refine ⟨hbefore, ?_⟩
    rintro a ha ⟨⟩
    exact hother a ha rfl rfl

/-- The two differ in the operations under way and in the recipes to retry them alone. -/
def OnlyOperations (app app' : DbotterApp) : Prop :=
  ∃ activeOperations pendingDeletes retryRecipes,
    app' = { app with activeOperations, pendingDeletes, retryRecipes }

theorem OnlyOperations.trans {app app' app'' : DbotterApp} (h : OnlyOperations app app')
    (h' : OnlyOperations app' app'') : OnlyOperations app app'' := by
  obtain ⟨active, deletes, recipes, rfl⟩ := h
  obtain ⟨active', deletes', recipes', rfl⟩ := h'
  exact ⟨active', deletes', recipes', rfl⟩

theorem OnlyOperations.deactivate (p : ProfileId) (o : OperationId) :
    OnlyOperations app (app.deactivate p o) := by
  unfold DbotterApp.deactivate
  split <;> exact ⟨_, _, _, rfl⟩

theorem OnlyOperations.finishFailedDelete (p : ProfileId) (pending : PendingDelete)
    (summary : PublicSummary) :
    OnlyOperations app (app.finishFailedDelete p pending summary) := by
  have hsettled : OnlyOperations app (({ app with
      pendingDeletes := Function.update app.pendingDeletes p none }).deactivate p
        pending.operationId) :=
    OnlyOperations.trans ⟨_, _, _, rfl⟩ (.deactivate _ p pending.operationId)
  simp only [DbotterApp.finishFailedDelete]
  split
  · exact hsettled.trans ⟨_, _, _, rfl⟩
  · exact hsettled

theorem finishActiveOperation_only : OnlyOperations app (app.finishActiveOperation event) := by
  unfold finishActiveOperation
  split
  · exact ⟨_, _, _, rfl⟩
  · exact ⟨_, _, _, rfl⟩
  · split
    · exact ⟨_, _, _, rfl⟩
    · next p o _ =>
      have hmarked : OnlyOperations app (app.markPriorFinished p o) := ⟨_, _, _, rfl⟩
      simp only
      split
      · exact hmarked.trans (.finishFailedDelete _ p _ _)
      · split
        · refine OnlyOperations.trans ?_ (.deactivate _ p o)
          split <;> exact ⟨_, _, _, rfl⟩
        · refine OnlyOperations.trans (OnlyOperations.trans ?_ (.deactivate _ p o)) ⟨_, _, _, rfl⟩
          split <;> exact ⟨_, _, _, rfl⟩

/-! ## The explorers -/

theorem foldRedisExplorerEvent_eq :
    ∃ redisExplorers visibleRedisWorkspace, app.foldRedisExplorerEvent event =
      { app with redisExplorers, visibleRedisWorkspace } := by
  unfold foldRedisExplorerEvent
  split
  · exact ⟨_, _, rfl⟩
  · split
    · exact ⟨_, _, rfl⟩
    · exact ⟨_, _, rfl⟩
    · cases app.closedRedisWorkspace event <;> exact ⟨_, _, rfl⟩

/-- An explorer that is there after an event was there before it, and has heard of the event if
it is about its workspace. -/
theorem foldRedisExplorerEvent_explorer {app : DbotterApp} {event : UiEvent} {key : WorkspaceKey}
    {explorer' : RedisExplorer}
    (h : (app.foldRedisExplorerEvent event).redisExplorers key = some explorer') :
    clearsOperations event = false ∧ ∃ explorer, app.redisExplorers key = some explorer ∧
      explorer' = if (redisResourceEventIdentity event).any (workspaceKey ·.1 = key) then
        explorer.handleEvent event else explorer := by
  unfold foldRedisExplorerEvent at h
  cases hidentity : redisResourceEventIdentity event with
  | some request =>
    obtain ⟨identity, kind, session⟩ := request
    simp only [hidentity] at h
    refine ⟨by cases event <;> simp_all [redisResourceEventIdentity, clearsOperations], ?_⟩
    by_cases hkey : key = workspaceKey identity
    · subst hkey
      rw [Function.update_self] at h
      obtain ⟨explorer, hexplorer, rfl⟩ := Option.map_eq_some_iff.1 h
      exact ⟨explorer, hexplorer, by simp⟩
    · rw [Function.update_of_ne hkey] at h
      exact ⟨explorer', h, by simp [Ne.symm hkey]⟩
  | none =>
    simp only [hidentity] at h
    split at h
    · cases h
    · cases h
    · next hne hne' =>
      refine ⟨by cases event <;> simp_all [clearsOperations], explorer', ?_, by simp⟩
      cases hclosed : app.closedRedisWorkspace event with
      | none => simpa [hclosed] using h
      | some closed =>
        simp only [hclosed, Option.elim_some, removeRedisExplorer] at h
        by_cases hkey : key = closed
        · subst hkey
          simp at h
        · simpa [hkey] using h

/-- The request that an event of the catalog answers. -/
def catalogAnswer : UiEvent → Option RequestIdentity
  | .catalogPageLoaded page _ _ => some page.identity
  | .catalogPageFailed request _ _ _ _ => some request.identity
  | _ => none

theorem foldMysqlExplorerEvent_eq :
    ∃ mysqlExplorers, app.foldMysqlExplorerEvent event = { app with mysqlExplorers } := by
  cases event <;> exact ⟨_, rfl⟩

/-- What an explorer waits for after an event it waited for before, and the event is not the
answer. -/
theorem mysqlExplorerMut_awaits {app : DbotterApp} {key key' : WorkspaceKey}
    {change : MySqlExplorerState → MySqlExplorerState} {answered o : OperationId}
    {explorer' : MySqlExplorerState}
    (hchange : ∀ explorer, (change explorer).pending =
      Function.update explorer.pending answered none)
    (h : (app.mysqlExplorerMut key' change).mysqlExplorers key = some explorer')
    (ho : explorer'.Awaits o) :
    (∃ explorer, app.mysqlExplorers key = some explorer ∧ explorer.Awaits o) ∧
      (key' = key → answered ≠ o) := by
  simp only [mysqlExplorerMut] at h
  by_cases hkey : key = key'
  · subst hkey
    rw [Function.update_self, Option.some_inj] at h
    subst h
    unfold MySqlExplorerState.Awaits at ho
    rw [hchange] at ho
    by_cases heq : o = answered
    · subst heq
      simp at ho
    · rw [Function.update_of_ne heq] at ho
      refine ⟨?_, fun _ h => heq h.symm⟩
      cases hexplorer : app.mysqlExplorers key with
      | none => simp [hexplorer] at ho
      | some explorer =>
        rw [hexplorer] at ho
        exact ⟨explorer, rfl, ho⟩
  · rw [Function.update_of_ne hkey] at h
    exact ⟨⟨explorer', h, ho⟩, fun h => absurd h.symm hkey⟩

theorem foldMysqlExplorerEvent_awaits {app : DbotterApp} {event : UiEvent} {key : WorkspaceKey}
    {explorer' : MySqlExplorerState} {o : OperationId}
    (h : (app.foldMysqlExplorerEvent event).mysqlExplorers key = some explorer')
    (ho : explorer'.Awaits o) :
    (∃ explorer, app.mysqlExplorers key = some explorer ∧ explorer.Awaits o) ∧
      ∀ identity, catalogAnswer event = some identity → workspaceKey identity = key →
        identity.operationId ≠ o := by
  cases event with
  | catalogPageLoaded page session disposition =>
    obtain ⟨hbefore, hother⟩ := mysqlExplorerMut_awaits
      (MySqlExplorerState.handleLoaded_pending · page) h ho
    exact ⟨hbefore, by rintro _ ⟨⟩; exact hother⟩
  | catalogPageFailed request summary error session disposition =>
    obtain ⟨hbefore, hother⟩ := mysqlExplorerMut_awaits
      (MySqlExplorerState.handleFailed_pending · request error.summary) h ho
    exact ⟨hbefore, by rintro _ ⟨⟩; exact hother⟩
  | profileDeleted identity unknown =>
    refine ⟨⟨explorer', ?_, ho⟩, nofun⟩
    simp only [foldMysqlExplorerEvent] at h
    by_cases hkey : key = workspaceKey identity
    · subst hkey
      simp at h
    · simpa [hkey] using h
  | _ => exact ⟨⟨explorer', h, ho⟩, nofun⟩

/-! ## The settled application -/

/-- Before the editor hears of an event, the port, the model and the editor are as they were. -/
theorem settleEvent_frame : (app.settleEvent event).1.port = app.port ∧
    (app.settleEvent event).1.model = app.model ∧
    (app.settleEvent event).1.profileEditor = app.profileEditor := by
  obtain ⟨commonError, hcommon⟩ := app.captureCommonError_eq event
  obtain ⟨prompt, recipes, hcredential⟩ :=
    (app.captureCommonError event).handleCredentialTerminal_eq event
  let before := ((app.captureCommonError event).handleCredentialTerminal event).1
  have hbefore : before = { app with
      commonError, credentialPrompt := prompt, retryRecipes := recipes } := by
    simp only [before, hcredential, hcommon]
  obtain ⟨redis, visible, hredis⟩ := before.foldRedisExplorerEvent_eq event
  obtain ⟨active, deletes, recipes', hfinished⟩ :=
    (before.foldRedisExplorerEvent event).finishActiveOperation_only event
  obtain ⟨mysql, hmysql⟩ :=
    ((before.foldRedisExplorerEvent event).finishActiveOperation event).foldMysqlExplorerEvent_eq
      event
  have hsettle : (app.settleEvent event).1 =
      ((before.foldRedisExplorerEvent event).finishActiveOperation event).foldMysqlExplorerEvent
        event := rfl
  rw [hsettle, hmysql, hfinished, hredis, hbefore]
  exact ⟨rfl, rfl, rfl⟩

/-- The stages of an event: whatever the prompt and the visible error have become, the
explorers and the active operations see the board that was there. -/
theorem settled_stages : ∃ before : DbotterApp,
    before.board = app.board ∧ before.port = app.port ∧ before.model = app.model ∧
      app.settled event =
        { ((before.foldRedisExplorerEvent event).finishActiveOperation event).foldMysqlExplorerEvent
            event with
          model := app.model.fold event
          profileEditor := app.profileEditor.map fun editor => (editor.handleEvent event).1 } := by
  obtain ⟨commonError, hcommon⟩ := app.captureCommonError_eq event
  obtain ⟨prompt, recipes, hcredential⟩ :=
    (app.captureCommonError event).handleCredentialTerminal_eq event
  let before := ((app.captureCommonError event).handleCredentialTerminal event).1
  have hbefore : before = { app with
      commonError, credentialPrompt := prompt, retryRecipes := recipes } := by
    simp only [before, hcredential, hcommon]
  refine ⟨before, by rw [hbefore]; rfl, by rw [hbefore], by rw [hbefore], ?_⟩
  have hsettle : (app.settleEvent event).1 =
      ((before.foldRedisExplorerEvent event).finishActiveOperation event).foldMysqlExplorerEvent
        event := rfl
  obtain ⟨-, hmodel, heditor⟩ := app.settleEvent_frame event
  unfold settled notifyEditor foldIntoModel
  rw [heditor, ← hsettle]
  cases heq : app.profileEditor with
  | none =>
    simp only [hmodel, Option.map_none]
    rw [← heq, ← heditor]
  | some editor => simp only [hmodel, Option.map_some]

theorem settled_port : (app.settled event).port = app.port := by
  obtain ⟨before, -, hport, -, h⟩ := app.settled_stages event
  obtain ⟨redis, visible, hredis⟩ := before.foldRedisExplorerEvent_eq event
  obtain ⟨active, deletes, recipes, hfinished⟩ :=
    (before.foldRedisExplorerEvent event).finishActiveOperation_only event
  obtain ⟨mysql, hmysql⟩ :=
    ((before.foldRedisExplorerEvent event).finishActiveOperation event).foldMysqlExplorerEvent_eq
      event
  rw [h, hmysql, hfinished, hredis, ← hport]

theorem settled_model : (app.settled event).model = app.model.fold event := by
  obtain ⟨before, -, -, -, h⟩ := app.settled_stages event
  rw [h]

theorem settled_profileEditor : (app.settled event).profileEditor =
    app.profileEditor.map fun editor => (editor.handleEvent event).1 := by
  obtain ⟨before, -, -, -, h⟩ := app.settled_stages event
  rw [h]

variable {app event}

theorem settled_active {p : ProfileId} {a : ActiveOperation}
    (h : (app.settled event).activeOperations p = some a) :
    clearsOperations event = false ∧ terminalOf event ≠ some (p, a.operationId) ∧
      (app.activeOperations p = some a ∨ ∃ pending, app.pendingDeletes p = some pending ∧
        pending.priorActive = some a ∧ pending.priorFinished = false) := by
  obtain ⟨before, hboard, -, -, hsettled⟩ := app.settled_stages event
  obtain ⟨redis, visible, hredis⟩ := before.foldRedisExplorerEvent_eq event
  obtain ⟨mysql, hmysql⟩ :=
    ((before.foldRedisExplorerEvent event).finishActiveOperation event).foldMysqlExplorerEvent_eq
      event
  rw [hsettled, hmysql] at h
  have hactive := finishActiveOperation_active h
  rw [hredis] at hactive
  have hboard₁ : before.activeOperations = app.activeOperations :=
    congrArg Board.activeOperations hboard
  have hboard₂ : before.pendingDeletes = app.pendingDeletes :=
    congrArg Board.pendingDeletes hboard
  simpa only [hboard₁, hboard₂] using hactive

theorem settled_pending {p : ProfileId} {pending' : PendingDelete}
    (h : (app.settled event).pendingDeletes p = some pending') :
    clearsOperations event = false ∧ ∃ pending, app.pendingDeletes p = some pending ∧
      pending'.operationId = pending.operationId ∧
      pending'.profileGeneration = pending.profileGeneration ∧
      pending'.priorActive = pending.priorActive ∧
      (pending'.priorFinished = false → pending.priorFinished = false ∧
        ∀ a, pending.priorActive = some a → terminalOf event ≠ some (p, a.operationId)) := by
  obtain ⟨before, hboard, -, -, hsettled⟩ := app.settled_stages event
  obtain ⟨redis, visible, hredis⟩ := before.foldRedisExplorerEvent_eq event
  obtain ⟨mysql, hmysql⟩ :=
    ((before.foldRedisExplorerEvent event).finishActiveOperation event).foldMysqlExplorerEvent_eq
      event
  rw [hsettled, hmysql] at h
  have hpending := finishActiveOperation_pending h
  rw [hredis] at hpending
  have hboard₂ : before.pendingDeletes = app.pendingDeletes :=
    congrArg Board.pendingDeletes hboard
  simpa only [hboard₂] using hpending

theorem settled_redis {key : WorkspaceKey} {explorer' : RedisExplorer}
    (h : (app.settled event).redisExplorers key = some explorer') :
    clearsOperations event = false ∧ ∃ explorer, app.redisExplorers key = some explorer ∧
      explorer' = if (redisResourceEventIdentity event).any (workspaceKey ·.1 = key) then
        explorer.handleEvent event else explorer := by
  obtain ⟨before, hboard, -, -, hsettled⟩ := app.settled_stages event
  obtain ⟨active, deletes, recipes, hfinished⟩ :=
    (before.foldRedisExplorerEvent event).finishActiveOperation_only event
  obtain ⟨mysql, hmysql⟩ :=
    ((before.foldRedisExplorerEvent event).finishActiveOperation event).foldMysqlExplorerEvent_eq
      event
  rw [hsettled, hmysql, hfinished] at h
  have hexplorer := foldRedisExplorerEvent_explorer h
  have hboard' : before.redisExplorers = app.redisExplorers := congrArg Board.redisExplorers hboard
  rwa [hboard'] at hexplorer

theorem settled_mysql {key : WorkspaceKey} {explorer' : MySqlExplorerState} {o : OperationId}
    (h : (app.settled event).mysqlExplorers key = some explorer') (ho : explorer'.Awaits o) :
    (∃ explorer, app.mysqlExplorers key = some explorer ∧ explorer.Awaits o) ∧
      ∀ identity, catalogAnswer event = some identity → workspaceKey identity = key →
        identity.operationId ≠ o := by
  obtain ⟨before, hboard, -, -, hsettled⟩ := app.settled_stages event
  obtain ⟨redis, visible, hredis⟩ := before.foldRedisExplorerEvent_eq event
  obtain ⟨active, deletes, recipes, hfinished⟩ :=
    (before.foldRedisExplorerEvent event).finishActiveOperation_only event
  rw [hsettled] at h
  have hawaits := foldMysqlExplorerEvent_awaits h ho
  rw [hfinished, hredis] at hawaits
  have hboard' : before.mysqlExplorers = app.mysqlExplorers := congrArg Board.mysqlExplorers hboard
  simpa only [hboard'] using hawaits

/-! ## What follows -/

variable (app event)

theorem followUp_reaches (connect : Option (ProfileId × Bool))
    (credentialRetry : Option (OperationRecipeId × OperationKind)) :
    Reaches app.board (app.followUp connect credentialRetry).board := by
  have hretry (app : DbotterApp) : Reaches app.board (app.followUp none credentialRetry).board := by
    cases credentialRetry with
    | none => exact .refl
    | some recipe => exact app.retryRecipe_reaches _ _
  unfold followUp
  refine ReflTransGen.trans ?_ (hretry _)
  split
  · exact .refl
  · simp only
    split
    · exact submitTest_reaches { app with
        pendingConnectAfterRefresh := none
        model := { app.model with selectedProfile := some _ } } _
    · exact .refl

theorem finishSave_reaches (profileId : ProfileId) (connect : Bool) :
    Reaches (app.foldIntoModel event).board (app.finishSave event profileId connect).board := by
  have hclosed : Reaches (app.foldIntoModel event).board ({ app with
      model := { app.model.fold event with selectedProfile := some profileId }
      profileEditor := none } : DbotterApp).board :=
    .single (.edit _ none nofun)
  refine hclosed.trans (submit_side_reaches _ rfl rfl (fun app => ?_) fun app' => ?_)
  · split <;> rfl
  · split <;> rfl

/-- A failed save tells the model nothing. -/
theorem handleEvent_failed {editor : ProfileEditor} {event : UiEvent}
    (h : (editor.handleEvent event).2 = .failed) (model : UiModel) : model.fold event = model := by
  cases event with
  | profileCreateFailed | profileUpdateFailed => rfl
  | _ =>
    unfold ProfileEditor.handleEvent at h
    simp only at h
    first
      | cases h
      | (split at h <;> simp only at h <;> first | cases h | (split at h <;> cases h))

theorem applyEvent_reaches :
    Reaches (app.settled (app.attachRetryRecipe event)).board (app.applyEvent event).board := by
  simp only [applyEvent, settled]
  generalize app.attachRetryRecipe event = event
  generalize (app.settleEvent event).1 = settling
  split
  · exact finishSave_reaches _ _ _ false
  · exact finishSave_reaches _ _ _ true
  · next hfailed =>
    have hmodel : ((settling.notifyEditor event).1.foldIntoModel event) =
        (settling.notifyEditor event).1 := by
      unfold notifyEditor at hfailed ⊢
      split at hfailed
      · cases hfailed
      · unfold foldIntoModel
        simp only at hfailed
        rw [handleEvent_failed hfailed]
    rw [hmodel]
  · exact followUp_reaches _ _ _

/-- Only a stored credential is followed by a retry. -/
theorem handleCredentialTerminal_retry {app : DbotterApp} {event : UiEvent}
    (h : ∀ identity, event ≠ .credentialsStored identity) :
    (app.handleCredentialTerminal event).2 = none := by
  unfold handleCredentialTerminal
  split
  · rfl
  · rfl
  · split
    · next identity stored prompt hterminal _ =>
      have hstored : stored = false := by
        cases event with
        | credentialsStored identity => exact absurd rfl (h identity)
        | credentialsStoreFailed identity summary error =>
          cases hterminal
          rfl
        | operationFailed identity session kind summary error disposition outcome =>
          simp only [credentialTerminal] at hterminal
          split at hterminal <;> cases hterminal
          rfl
        | _ => cases hterminal
      subst hstored
      split <;> rfl
    · rfl

/-- An event of an operation is not followed by a submission. -/
theorem applyEvent_eq_settled {event : UiEvent}
    (hretry : ∀ identity, app.attachRetryRecipe event ≠ .credentialsStored identity)
    (heditor : ∀ editor : ProfileEditor,
      (editor.handleEvent (app.attachRetryRecipe event)).2 = .ignored)
    (hconnect : ∀ app' : DbotterApp, app'.connectFollowUp (app.attachRetryRecipe event) = none) :
    app.applyEvent event = app.settled (app.attachRetryRecipe event) := by
  have hresult : ((app.settleEvent (app.attachRetryRecipe event)).1.notifyEditor
      (app.attachRetryRecipe event)).2 = .ignored := by
    unfold notifyEditor
    split
    · rfl
    · exact heditor _
  have hnone : (app.settleEvent (app.attachRetryRecipe event)).2 = none :=
    handleCredentialTerminal_retry hretry
  simp only [applyEvent, hresult, hconnect, hnone, settled]
  rfl

theorem applyEvent_operationFailed (identity : RequestIdentity)
    (session : Option SessionGeneration) (kind : OperationKind) (summary : PublicSummary)
    (error : PublicOperationError) (disposition : Option SessionDisposition)
    (outcome : ConnectionFailureOutcome) :
    ∃ error', app.attachRetryRecipe
          (.operationFailed identity session kind summary error disposition outcome) =
        .operationFailed identity session kind summary error' disposition outcome ∧
      app.applyEvent (.operationFailed identity session kind summary error disposition outcome) =
        app.settled (.operationFailed identity session kind summary error' disposition outcome) := by
  have hattach : ∃ error', app.attachRetryRecipe
      (.operationFailed identity session kind summary error disposition outcome) =
        .operationFailed identity session kind summary error' disposition outcome := by
    simp only [attachRetryRecipe]
    split <;> exact ⟨_, rfl⟩
  obtain ⟨error', hattach⟩ := hattach
  refine ⟨error', hattach, ?_⟩
  rw [← hattach]
  refine app.applyEvent_eq_settled ?_ ?_ ?_
  · rw [hattach]
    exact nofun
  · rw [hattach]
    exact fun _ => rfl
  · rw [hattach]
    intro app'
    unfold connectFollowUp
    cases app'.pendingConnectAfterRefresh <;> rfl

end DbotterApp

end Dbotter.Ui
