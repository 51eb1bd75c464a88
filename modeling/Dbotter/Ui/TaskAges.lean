import Dbotter.Ui.Terminals

/-!
What becomes of the tasks that the controller has spawned: their work stays what it was, and what
has happened to them has happened.
-/

namespace Dbotter.Ui
open Dbotter.Utf8 Dbotter.Configuration Dbotter.Service Dbotter.Drivers Dbotter.Program

/-- A task returns only after its message, and ends once. -/
structure SpawnedTask.Ages (task task' : SpawnedTask) : Prop where
  work : task'.work = task.work
  cancelled : task.cancelled → task'.cancelled
  sent : task'.completionSent = task.completionSent
  returned : task'.status = .returned → task.status = .returned ∨ task.completionSent
  ended : task.status ≠ .running → task'.status = task.status

namespace SpawnedTask.Ages

variable {task task' task'' : SpawnedTask}

theorem refl (task : SpawnedTask) : task.Ages task := ⟨rfl, fun h => h, rfl, .inl, fun _ => rfl⟩

theorem trans (h : task.Ages task') (h' : task'.Ages task'') : task.Ages task'' where
  work := h'.work.trans h.work
  cancelled hcancelled := h'.cancelled (h.cancelled hcancelled)
  sent := h'.sent.trans h.sent
  returned hreturned := by
    rcases h'.returned hreturned with hstatus | hsent
    · exact h.returned hstatus
    · exact .inr (h.sent ▸ hsent)
  ended hended := by
    have hstatus := h.ended hended
    exact (h'.ended (hstatus ▸ hended)).trans hstatus

end SpawnedTask.Ages

/-- Each task is where it was, and has aged. -/
structure Grows (tasks tasks' : List SpawnedTask) : Prop where
  ages : ∀ (id : TaskId) (task : SpawnedTask), tasks[id]? = some task →
    ∃ task', tasks'[id]? = some task' ∧ task.Ages task'

namespace Grows

variable {tasks tasks' tasks'' : List SpawnedTask}

theorem refl (tasks : List SpawnedTask) : Grows tasks tasks :=
  ⟨fun _ task htask => ⟨task, htask, .refl task⟩⟩

theorem trans (h : Grows tasks tasks') (h' : Grows tasks' tasks'') : Grows tasks tasks'' := by
  refine ⟨fun id task htask => ?_⟩
  obtain ⟨task', htask', hages⟩ := h.ages id task htask
  obtain ⟨task'', htask'', hages'⟩ := h'.ages id task' htask'
  exact ⟨task'', htask'', hages.trans hages'⟩

theorem append (tasks new : List SpawnedTask) : Grows tasks (tasks ++ new) := by
  refine ⟨fun id task htask => ?_⟩
  have hlt : id < tasks.length := (List.getElem?_eq_some_iff.1 htask).1
  exact ⟨task, by rwa [List.getElem?_append_left hlt], .refl task⟩

theorem set {id : TaskId} {task task' : SpawnedTask} (htask : tasks[id]? = some task)
    (hages : task.Ages task') : Grows tasks (tasks.set id task') := by
  refine ⟨fun other found hfound => ?_⟩
  by_cases hother : id = other
  · subst hother
    obtain rfl : found = task := Option.some.inj (hfound.symm.trans htask)
    have hlt : id < tasks.length := (List.getElem?_eq_some_iff.1 htask).1
    exact ⟨task', List.getElem?_set_self hlt, hages⟩
  · exact ⟨found, by rwa [List.getElem?_set_ne hother], .refl found⟩

end Grows

namespace Controller

variable {c : Controller}

theorem cancelTasks_grows (c : Controller) (entries : List RegistryEntry) :
    Grows c.tasks (c.cancelTasks entries).tasks := by
  refine ⟨fun id task htask => ?_⟩
  simp only [cancelTasks, List.getElem?_mapIdx, htask, Option.map_some]
  split
  · exact ⟨_, rfl, ⟨rfl, fun _ => rfl, rfl, .inl, fun _ => rfl⟩⟩
  · exact ⟨_, rfl, .refl task⟩

/-- A running task that ages while it does its step. -/
theorem taskStep_grows {id : TaskId} {act : SpawnedTask → Controller}
    (hact : ∀ task, c.tasks[id]? = some task → task.status = .running →
      Grows c.tasks (act task).tasks) : Grows c.tasks (c.taskStep id act).tasks := by
  unfold taskStep
  split
  · rename_i task htask
    split
    · exact hact task htask ‹_›
    · exact .refl c.tasks
  · exact .refl c.tasks

theorem abortTask_grows (c : Controller) (id : TaskId) :
    Grows c.tasks (c.abortTask id).tasks :=
  taskStep_grows fun _ htask hrunning =>
    .set htask ⟨rfl, fun h => h, rfl, nofun, fun hended => absurd hrunning hended⟩

theorem commitReservation_grows (c : Controller) (o : OperationId) (scope : TaskScope)
    (taskClass : TaskClass) (failure : FailureContext) (work : TaskWork) :
    Grows c.tasks (c.commitReservation o scope taskClass failure work).1.tasks := by
  simp only [commitReservation]
  split
  · exact .append ..
  · exact .refl c.tasks

theorem settleFailure_grows (c : Controller) (entry : RegistryEntry) (report : Bool) :
    Grows c.tasks (c.settleFailure entry report).tasks := by
  have hgive : ∀ c' : Controller,
      ((if report then c'.emitInternalFailure entry.operationId entry.failure
        else c').cancelTerminal entry.terminal).tasks = c'.tasks := by
    intro c'
    cases report <;> rfl
  have hcleanup : Grows c.tasks (c.startRegisteredFailureCleanup entry).1.tasks := by
    unfold startRegisteredFailureCleanup
    split
    · exact .refl c.tasks
    · dsimp only
      split
      · exact .append ..
      · exact .refl c.tasks
  simp only [settleFailure]
  split
  · rw [hgive c]
    exact .refl c.tasks
  · split <;> rename_i heq <;> rw [heq] at hcleanup
    · exact hcleanup
    · rw [hgive]
      exact hcleanup

theorem finishJoined_grows (c : Controller) (entry : RegistryEntry) (output : TaskOutput)
    (configUncertain : Bool) (event : UiEvent) :
    Grows c.tasks (c.finishJoined entry output configUncertain event).tasks := by
  have hcompletion : Grows c.tasks
      (c.startRegisteredMutationCompletion entry output configUncertain).1.tasks := by
    unfold startRegisteredMutationCompletion
    split
    · exact .refl c.tasks
    · refine Grows.trans ?_ (commitReservation_grows ..)
      exact c.cancelTasks_grows _
  unfold Controller.finishJoined
  split
  · split <;> rename_i heq <;> rw [heq] at hcompletion
    · exact hcompletion
    · exact hcompletion
  · exact .refl c.tasks

theorem advance_grows (c : Controller) (configUncertain : Bool) (event : UiEvent) :
    Grows c.tasks (c.advance configUncertain event).tasks := by
  unfold Controller.advance
  split
  · exact .refl c.tasks
  · rename_i entry output _
    split
    · exact .refl c.tasks
    · exact settleFailure_grows (({ c with stage := .idle } : Controller).endMutation entry) ..
    · split
      · exact finishJoined_grows { c with stage := .idle } ..
      · exact .refl c.tasks
  · exact .refl c.tasks
  · exact .refl c.tasks
  · rename_i entry rest _
    exact settleFailure_grows (({ c with stage := .reaping rest } : Controller).endMutation entry) ..
  · rename_i entry rest _
    exact (({ c with stage := .aborting rest } : Controller).abortTask_grows entry.join).trans
      (settleFailure_grows ..)

/-! ## Commands -/

theorem startWork_grows (c : Controller) (command : UiCommand) (scope : TaskScope)
    (taskClass : TaskClass) (failure : FailureContext) (busy : UiEvent) (permits : Bool) :
    Grows c.tasks (c.startWork command scope taskClass failure busy permits).tasks := by
  simp only [startWork]
  split
  · exact .refl c.tasks
  · rename_i registry _
    split
    · have hcommit := ({ c with registry } : Controller).commitReservation_grows
        command.operationId scope taskClass failure (.command command [])
      split <;> rename_i heq <;> rw [heq] at hcommit
      · exact hcommit
      · exact hcommit
    · exact .refl c.tasks

theorem startProfileControl_grows (c : Controller) (command : UiCommand)
    (identity : RequestIdentity) (kind : OperationKind) (around : Surroundings) :
    Grows c.tasks (c.startProfileControl command identity kind around).tasks := by
  simp only [startProfileControl]
  split
  · exact .refl c.tasks
  · rename_i registry _
    let targets := registry.values.filter
      (·.isNetworkOf identity.profileId identity.profileGeneration)
    have hcancelled := ({ c with registry } : Controller).cancelTasks_grows targets
    split
    · exact hcancelled
    · have hcommit := (({ c with registry } : Controller).cancelTasks targets).commitReservation_grows
        identity.operationId (.profile identity.profileId identity.profileGeneration around.session)
        .asyncNetwork (.profile identity.profileId identity.profileGeneration kind)
        (.command command (targets.map (·.terminal)))
      split <;> rename_i heq <;> rw [heq] at hcommit
      · exact hcancelled.trans hcommit
      · exact hcancelled.trans hcommit

theorem startMutation_grows (c : Controller) (command : UiCommand) (around : Surroundings) :
    Grows c.tasks (c.startMutation command around).1.tasks := by
  simp only [startMutation]
  split
  · exact .refl c.tasks
  · split
    · exact .refl c.tasks
    · rename_i registry _
      split
      · exact .refl c.tasks
      · exact commitReservation_grows { c with registry } ..

theorem unlessUncertain_grows {command : UiCommand} {around : Surroundings} {handled : Controller}
    (h : Grows c.tasks handled.tasks) :
    Grows c.tasks (c.unlessUncertain command around handled).tasks := by
  unfold unlessUncertain
  split
  · exact .refl c.tasks
  · exact h

theorem handle_grows (c : Controller) (command : UiCommand) (around : Surroundings) :
    Grows c.tasks (c.handle command around).tasks := by
  have hprofile : ∀ identity kind,
      Grows c.tasks (c.startProfileWork command identity kind around).tasks := by
    intro identity kind
    simp only [startProfileWork]
    split
    · exact .refl c.tasks
    · exact startWork_grows ..
  cases command with
  | exportResult o resultId =>
    simp only [handle, startExportWork]
    split
    · exact .refl c.tasks
    · exact startWork_grows ..
  | prepareDraftConnectionTest o draftId => exact unlessUncertain_grows (startWork_grows ..)
  | testConnection identity timeoutMs => exact unlessUncertain_grows (hprofile ..)
  | execute identity language text rowLimit timeoutMs => exact unlessUncertain_grows (hprofile ..)
  | browseCatalog request => exact unlessUncertain_grows (hprofile ..)
  | scanRedisKeys request => exact unlessUncertain_grows (hprofile ..)
  | inspectRedisKey request => exact unlessUncertain_grows (hprofile ..)
  | cancelOperation o =>
    simp only [handle, cancelOperation]
    split
    · exact cancelTasks_grows ..
    · exact .refl c.tasks
  | disconnectProfile identity => exact unlessUncertain_grows (startProfileControl_grows ..)
  | reconnectProfile identity timeoutMs =>
    refine unlessUncertain_grows ?_
    split
    · exact .refl c.tasks
    · exact startProfileControl_grows ..
  | shutdownRuntime o => exact cancelTasks_grows ..
  | refreshProfiles o => exact startMutation_grows ..
  | createProfile request => exact startMutation_grows ..
  | updateProfile request => exact startMutation_grows ..
  | deleteProfile request => exact startMutation_grows ..
  | storeCredentials identity sourceOperation secret => exact startMutation_grows ..

theorem takeCommand_grows (c : Controller) (command : UiCommand) (around : Surroundings) :
    Grows c.tasks (c.takeCommand command around).tasks := by
  have hhandle := c.handle_grows command around
  unfold takeCommand
  split
  · exact hhandle
  · exact hhandle

/-! ## Steps -/

/-- Only a task that says that it has completed changes otherwise. -/
theorem step_grows (c : Controller) {action : Action}
    (hquiet : ∀ id output, action ≠ .complete id output) :
    Grows c.tasks (c.step action).tasks := by
  cases action with
  | command command around =>
    simp only [Controller.step]
    split
    · exact takeCommand_grows ..
    · exact .refl c.tasks
  | portClosed =>
    simp only [Controller.step]
    split
    · exact cancelTasks_grows ..
    · exact .refl c.tasks
  | receive =>
    simp only [Controller.step]
    split
    · unfold Controller.receive
      split
      · exact .refl c.tasks
      · exact .refl c.tasks
      · split <;> exact .refl c.tasks
    · exact .refl c.tasks
  | reap =>
    simp only [Controller.step]
    split <;> exact .refl c.tasks
  | deadline =>
    simp only [Controller.step]
    split <;> exact .refl c.tasks
  | advance configUncertain event => exact advance_grows ..
  | stop =>
    simp only [Controller.step]
    split
    · split <;> exact .refl c.tasks
    · exact .refl c.tasks
  | acquire id sessionGeneration =>
    refine taskStep_grows fun task _ _ => ?_
    split
    · exact .refl c.tasks
    · unfold Controller.acquire
      split <;> exact .refl c.tasks
  | evict id cached =>
    refine taskStep_grows fun task htask _ => ?_
    unfold Controller.evict
    split
    · split
      · exact .refl c.tasks
      · exact .set htask ⟨rfl, fun h => h, rfl, .inl, fun _ => rfl⟩
    · exact .refl c.tasks
  | complete id output => exact absurd rfl (hquiet id output)
  | finish id panicked =>
    refine taskStep_grows fun task htask hrunning => ?_
    unfold Controller.finish
    split
    · exact .set htask ⟨rfl, fun h => h, rfl, fun h => (by cases h), fun hended => absurd hrunning hended⟩
    · split
      · exact .set htask ⟨rfl, fun h => h, rfl, fun _ => .inr ‹_›, fun hended => absurd hrunning hended⟩
      · exact .refl c.tasks

end Controller

end Dbotter.Ui
