import Dbotter.Ui.Admission
import Dbotter.Ui.TaskAges

/-!
Admission control: the permits that are out are those of the tasks that run, nothing stays
reserved, and no semaphore is forgotten while a task points to it.
-/

namespace Dbotter.Ui
open Dbotter.Utf8 Dbotter.Configuration Dbotter.Service Dbotter.Drivers Dbotter.Program

/-! ## Reservations -/

namespace TaskRegistry

theorem updateSession_reserved (registry : TaskRegistry) (o : OperationId)
    (sessionGeneration : SessionGeneration) :
    (registry.updateSession o sessionGeneration).reserved = registry.reserved := by
  unfold updateSession
  split
  · split <;> rfl
  · rfl

end TaskRegistry

namespace Controller

/-- A command leaves no reservation behind, whether it is refused or registered. -/
theorem handle_reserved (c : Controller) (command : UiCommand) (around : Surroundings) :
    (c.handle command around).registry.reserved = c.registry.reserved := by
  have hwork : ∀ scope taskClass failure busy permits,
      (c.startWork command scope taskClass failure busy permits).registry.reserved =
        c.registry.reserved := by
    intro scope taskClass failure busy permits
    cases hreserve : c.registry.reserve command.operationId with
    | none => simp only [startWork, hreserve, tryEmit]
    | some registry =>
      simp only [startWork, hreserve]
      split
      · rw [commitReservation_eq hreserve rfl]
        rfl
      · exact congrArg TaskRegistry.reserved (TaskRegistry.release_of_reserve hreserve)
  have hprofile : ∀ identity kind, (c.startProfileWork command identity kind around).registry.reserved
      = c.registry.reserved := by
    intro identity kind
    simp only [startProfileWork]
    split
    · rfl
    · exact hwork ..
  have hcontrol : ∀ identity kind,
      (c.startProfileControl command identity kind around).registry.reserved
        = c.registry.reserved := by
    intro identity kind
    cases hreserve : c.registry.reserve identity.operationId with
    | none => simp only [startProfileControl, hreserve, tryEmit]
    | some registry =>
      simp only [startProfileControl, hreserve]
      split
      · exact congrArg TaskRegistry.reserved (TaskRegistry.release_of_reserve hreserve)
      · rw [commitReservation_eq hreserve rfl]
        rfl
  have hmutation : (c.startMutation command around).1.registry.reserved = c.registry.reserved := by
    simp only [startMutation]
    split
    · rfl
    · cases hreserve : c.registry.reserve command.operationId with
      | none => rfl
      | some registry =>
        dsimp only
        split
        · exact congrArg TaskRegistry.reserved (TaskRegistry.release_of_reserve hreserve)
        · rw [commitReservation_eq hreserve rfl]
          rfl
  have huncertain : ∀ handled : Controller, handled.registry.reserved = c.registry.reserved →
      (c.unlessUncertain command around handled).registry.reserved = c.registry.reserved := by
    intro handled hhandled
    unfold unlessUncertain
    split
    · rfl
    · exact hhandled
  cases command with
  | exportResult o resultId =>
    simp only [handle, startExportWork]
    split
    · rfl
    · exact hwork ..
  | prepareDraftConnectionTest o draftId => exact huncertain _ (hwork ..)
  | testConnection identity timeoutMs => exact huncertain _ (hprofile ..)
  | execute identity language text rowLimit timeoutMs => exact huncertain _ (hprofile ..)
  | browseCatalog request => exact huncertain _ (hprofile ..)
  | scanRedisKeys request => exact huncertain _ (hprofile ..)
  | inspectRedisKey request => exact huncertain _ (hprofile ..)
  | cancelOperation o =>
    simp only [handle, cancelOperation]
    split <;> rfl
  | disconnectProfile identity => exact huncertain _ (hcontrol ..)
  | reconnectProfile identity timeoutMs =>
    refine huncertain _ ?_
    split
    · rfl
    · exact hcontrol ..
  | shutdownRuntime o => rfl
  | refreshProfiles o => exact hmutation
  | createProfile request => exact hmutation
  | updateProfile request => exact hmutation
  | deleteProfile request => exact hmutation
  | storeCredentials identity sourceOperation secret => exact hmutation

theorem settleFailure_reserved (c : Controller) (entry : RegistryEntry) (report : Bool) :
    (c.settleFailure entry report).registry.reserved = c.registry.reserved := by
  have hgive : ∀ c' : Controller,
      ((if report then c'.emitInternalFailure entry.operationId entry.failure
        else c').cancelTerminal entry.terminal).registry = c'.registry := by
    intro c'
    cases report <;> rfl
  simp only [settleFailure]
  split
  · rw [hgive]
  · cases hreserve : c.registry.reserve entry.operationId with
    | none =>
      simp only [startRegisteredFailureCleanup, hreserve]
      rw [hgive]
    | some registry =>
      rw [startRegisteredFailureCleanup_eq hreserve]
      rfl

theorem advance_reserved (c : Controller) (configUncertain : Bool) (event : UiEvent) :
    (c.advance configUncertain event).registry.reserved = c.registry.reserved := by
  unfold Controller.advance
  split
  · rfl
  · rename_i entry output _
    split
    · rfl
    · rw [settleFailure_reserved]
      rfl
    · split
      · simp only [finishJoined]
        split
        · cases hreserve : c.registry.reserve entry.operationId with
          | none =>
            simp only [startRegisteredMutationCompletion, hreserve]
            rfl
          | some registry =>
            obtain ⟨entries, waiters, hadActive, hcommit⟩ :=
              startRegisteredMutationCompletion_eq (c := { c with stage := .idle }) output hreserve
                configUncertain
            rw [hcommit]
            rfl
        · rfl
      · rfl
  · rfl
  · rfl
  · rw [settleFailure_reserved]
    rfl
  · rename_i entry rest _
    rw [settleFailure_reserved]
    obtain ⟨tasks, heq⟩ := ({ c with stage := .aborting rest } : Controller).abortTask_frame entry.join
    rw [heq]

/-- Every reservation is given up in the step that made it. -/
theorem step_reserved (c : Controller) (action : Action) :
    (c.step action).registry.reserved = c.registry.reserved := by
  have htask : ∀ id act, (∀ task, (act task : Controller).registry = c.registry) →
      (c.taskStep id act).registry.reserved = c.registry.reserved := by
    intro id act hact
    rcases c.taskStep_cases id act with heq | ⟨task, -, -, heq⟩
    · rw [heq]
    · rw [heq, hact]
  cases action with
  | command command around =>
    simp only [Controller.step]
    split
    · have hhandle := c.handle_reserved command around
      unfold takeCommand
      split
      · exact hhandle
      · exact hhandle
    · rfl
  | portClosed =>
    simp only [Controller.step]
    split <;> rfl
  | receive =>
    simp only [Controller.step]
    split
    · unfold Controller.receive
      split
      · rfl
      · exact TaskRegistry.updateSession_reserved ..
      · rename_i o output rest _
        simp only [TaskRegistry.take]
        cases c.registry.entries.lookup o <;> rfl
    · rfl
  | reap =>
    simp only [Controller.step]
    split <;> rfl
  | deadline =>
    simp only [Controller.step]
    split <;> rfl
  | advance configUncertain event => exact advance_reserved ..
  | stop =>
    simp only [Controller.step]
    split
    · split <;> rfl
    · rfl
  | acquire id sessionGeneration =>
    refine htask id _ fun task => ?_
    split
    · rfl
    · unfold Controller.acquire
      split <;> rfl
  | evict id cached =>
    refine htask id _ fun task => ?_
    unfold Controller.evict
    split
    · split <;> rfl
    · rfl
  | complete id output =>
    refine htask id _ fun task => ?_
    split
    · rfl
    · unfold Controller.complete
      split <;> rfl
  | finish id panicked =>
    refine htask id _ fun task => ?_
    unfold Controller.finish
    split
    · rfl
    · split <;> rfl

end Controller

/-! ## The controller beside its semaphores -/

namespace Admission

variable {s : Admission}

theorem startNetworkWork_controller (s : Admission) (command : UiCommand) (scope : TaskScope)
    (failure : FailureContext) (busy : UiEvent)
    (acquire : ControllerPermits → TaskId → ControllerPermits × Bool) :
    (s.startNetworkWork command scope failure busy acquire).controller =
      s.controller.startWork command scope .asyncNetwork failure busy
        (acquire s.permits s.nextTask).2 := by
  cases hreserve : s.controller.registry.reserve command.operationId with
  | none => simp only [startNetworkWork, Controller.startWork, hreserve, tryEmit]
  | some registry =>
    simp only [startNetworkWork, Controller.startWork, hreserve]
    split
    · simp only [commit]
      generalize Controller.commitReservation _ _ _ _ _ _ = committed
      obtain ⟨controller, _ | _⟩ := committed <;> rfl
    · rfl

theorem startProfileWork_controller (s : Admission) (command : UiCommand)
    (identity : RequestIdentity) (kind : OperationKind) (around : Surroundings) :
    ∃ permits, (s.startProfileWork command identity kind).controller =
      s.controller.startProfileWork command identity kind { around with permits } := by
  simp only [startProfileWork, Controller.startProfileWork]
  split
  · exact ⟨true, rfl⟩
  · exact ⟨_, startNetworkWork_controller ..⟩

theorem startProfileControl_controller (s : Admission) (command : UiCommand)
    (identity : RequestIdentity) (kind : OperationKind) (around : Surroundings) :
    ∃ permits, (s.startProfileControl command identity kind around).controller =
      s.controller.startProfileControl command identity kind { around with permits } := by
  cases hreserve : s.controller.registry.reserve identity.operationId with
  | none =>
    exact ⟨true, by simp only [startProfileControl, Controller.startProfileControl, hreserve,
      tryEmit]⟩
  | some registry =>
    simp only [startProfileControl, Controller.startProfileControl, hreserve]
    generalize hplan : reconnectPermits s.permits s.nextTask identity.profileId kind
      (registry.values.filter (·.isNetworkOf identity.profileId identity.profileGeneration)) = plan
    refine ⟨plan.2, ?_⟩
    by_cases htaken : plan.2 = true
    · rw [if_pos htaken, htaken]
      simp only [commit, Bool.not_true, Bool.false_eq_true, and_false, if_false]
      split <;> rename_i heq <;> simp only [heq]
    · -- Only a reconnection without targets may be short of permits.
      have hshort : kind = .reconnectProfile ∧ registry.values.filter
          (·.isNetworkOf identity.profileId identity.profileGeneration) = [] := by
        rw [← hplan] at htaken
        unfold reconnectPermits at htaken
        split at htaken
        · split at htaken
          · exact ⟨‹_›, ‹_›⟩
          · exact absurd rfl htaken
        · exact absurd rfl htaken
      rw [if_neg htaken, if_pos ⟨hshort.1, hshort.2, by simpa using htaken⟩]

theorem unlessUncertain_controller {command : UiCommand} {around : Surroundings}
    {handled : Admission} {c : Surroundings → Controller}
    (h : ∃ permits, handled.controller = c { around with permits }) :
    ∃ permits, (s.unlessUncertain command around handled).controller =
      s.controller.unlessUncertain command { around with permits }
        (c { around with permits }) := by
  obtain ⟨permits, heq⟩ := h
  refine ⟨permits, ?_⟩
  simp only [unlessUncertain, Controller.unlessUncertain]
  split
  · rfl
  · exact heq

/-- The controller does what it does where its surroundings say whether there are permits. -/
theorem takeCommand_controller (s : Admission) (command : UiCommand) (around : Surroundings) :
    ∃ permits, (s.takeCommand command around).controller =
      s.controller.takeCommand command { around with permits } := by
  have hhandle : ∃ permits, (s.handle command around).controller =
      s.controller.handle command { around with permits } := by
    cases command with
    | prepareDraftConnectionTest o draftId =>
      exact unlessUncertain_controller (c := fun around => s.controller.startDraftWork _ _ around)
        ⟨_, startNetworkWork_controller ..⟩
    | testConnection identity timeoutMs =>
      exact unlessUncertain_controller
        (c := fun around => s.controller.startProfileWork _ _ _ around)
        (s.startProfileWork_controller ..)
    | execute identity language text rowLimit timeoutMs =>
      exact unlessUncertain_controller
        (c := fun around => s.controller.startProfileWork _ _ around.executeKind around)
        (s.startProfileWork_controller ..)
    | browseCatalog request =>
      exact unlessUncertain_controller
        (c := fun around => s.controller.startProfileWork _ _ _ around)
        (s.startProfileWork_controller ..)
    | scanRedisKeys request =>
      exact unlessUncertain_controller
        (c := fun around => s.controller.startProfileWork _ _ _ around)
        (s.startProfileWork_controller ..)
    | inspectRedisKey request =>
      exact unlessUncertain_controller
        (c := fun around => s.controller.startProfileWork _ _ _ around)
        (s.startProfileWork_controller ..)
    | disconnectProfile identity =>
      exact unlessUncertain_controller
        (c := fun around => s.controller.startProfileControl _ _ _ around)
        (s.startProfileControl_controller ..)
    | reconnectProfile identity timeoutMs =>
      cases hrefused : around.refused with
      | some error =>
        simp only [handle, Controller.handle, hrefused]
        exact unlessUncertain_controller (c := fun _ => s.controller.tryEmit _) ⟨true, rfl⟩
      | none =>
        simp only [handle, Controller.handle, hrefused]
        exact unlessUncertain_controller
          (c := fun around => s.controller.startProfileControl _ _ _ around)
          (s.startProfileControl_controller ..)
    | _ => exact ⟨around.permits, rfl⟩
  obtain ⟨permits, heq⟩ := hhandle
  refine ⟨permits, ?_⟩
  unfold takeCommand Controller.takeCommand
  split
  · exact heq
  · simp only [heq]

end Admission

/-! ## Asking for permits -/

/-- What asking for permits comes to: new ones for the task, or nothing. -/
structure Admits (p : ControllerPermits) (task : TaskId) (r : ControllerPermits × Bool) : Prop where
  sound : r.1.Sound PermitKey.limit
  grips : ∃ new, r.1.grips = new ++ p.grips ∧ (r.2 = false → new = []) ∧
    (∀ g ∈ new, g.owner = task) ∧ (new.filter (·.key != .network)).length ≤ 1

variable {p : ControllerPermits} {task : TaskId}

/-- A permit that a task has got alone is given back whole. -/
theorem dropWhere_owner {g : Grip PermitKey TaskId} {q : ControllerPermits}
    (hgrips : q.grips = g :: p.grips) (howner : g.owner = task)
    (hfresh : ∀ g ∈ p.grips, g.owner ≠ task) :
    (q.dropWhere (·.owner == task)).grips = p.grips := by
  have hothers : p.grips.filter (·.owner == task) = [] := by
    simpa [List.filter_eq_nil_iff] using hfresh
  rw [(q.dropWhere_eq _).2, hgrips]
  simp [howner, hothers]

theorem withGlobalPermit_admits (h : p.Sound PermitKey.limit) {key : PermitKey}
    (hfresh : ∀ g ∈ p.grips, g.owner ≠ task) :
    Admits p task (withGlobalPermit task (p.tryAcquire PermitKey.limit task key)) := by
  have hsound := h.tryAcquire task key
  have hgrips := p.tryAcquire_grips PermitKey.limit task key
  generalize p.tryAcquire PermitKey.limit task key = first at hsound hgrips ⊢
  obtain ⟨q, taken⟩ := first
  cases taken with
  | false =>
    rw [if_neg (by simp)] at hgrips
    exact ⟨hsound, [], hgrips, fun _ => rfl, nofun, by simp⟩
  | true =>
    rw [if_pos rfl] at hgrips
    have hsound' := hsound.tryAcquire task .network
    have hgrips' := q.tryAcquire_grips PermitKey.limit task .network
    simp only [withGlobalPermit]
    split
    · rename_i htaken
      rw [if_pos htaken, hgrips] at hgrips'
      refine ⟨hsound', [_, _], hgrips', fun hrefused => ?_, ?_, ?_⟩
      · exact absurd htaken (by simpa using hrefused)
      · simp
      · cases key <;> simp
    · rename_i hrefused
      rw [if_neg hrefused, hgrips] at hgrips'
      exact ⟨hsound'.dropWhere _, [], dropWhere_owner hgrips' rfl hfresh, fun _ => rfl, nofun,
        by simp⟩

theorem waitPlan_admits (h : p.Sound PermitKey.limit) (profileId : ProfileId) :
    Admits p task (waitPlan p task profileId, true) := by
  obtain ⟨hsound, hslot, hgrips⟩ := h.slot (.profile profileId)
  have hshared := hsound.share task hslot
  obtain ⟨hsound', hslot', hgrips'⟩ := hshared.slot .network
  obtain ⟨profile, global, hplan⟩ : ∃ profile global, (waitPlan p task profileId).grips =
      [⟨task, .network, global, false⟩, ⟨task, .profile profileId, profile, false⟩] ++ p.grips := by
    simp only [waitPlan, Permits.share_grips, hgrips', hgrips]
    exact ⟨_, _, rfl⟩
  exact ⟨hsound'.share task hslot', _, hplan, nofun, by simp, by simp⟩

theorem reconnectPermits_admits (h : p.Sound PermitKey.limit)
    (hfresh : ∀ g ∈ p.grips, g.owner ≠ task) (profileId : ProfileId) (kind : OperationKind)
    (targets : List RegistryEntry) :
    Admits p task (Admission.reconnectPermits p task profileId kind targets) := by
  unfold Admission.reconnectPermits
  split
  · split
    · exact withGlobalPermit_admits h hfresh
    · exact waitPlan_admits h profileId
  · exact ⟨h, [], rfl, fun _ => rfl, nofun, by simp⟩

namespace Admission

variable {s s' : Admission}

/-! ## Commands -/

/-- A task that runs for a command and has not completed. -/
def Working (c : Controller) (id : TaskId) : Prop :=
  ∃ task, c.tasks[id]? = some task ∧ task.status = .running ∧ task.completionSent = false ∧
    ∃ command targets, task.work = .command command targets

/-- What a command does to the permits: the task that is spawned for it gets some, if there is
one. -/
structure Takes (s s' : Admission) : Prop where
  sound : s'.permits.Sound PermitKey.limit
  grows : Grows s.controller.tasks s'.controller.tasks
  grips : ∃ new, s'.permits.grips = new ++ s.permits.grips ∧
    (∀ g ∈ new, g.owner = s.nextTask ∧ Working s'.controller s.nextTask) ∧
    (new.filter (·.key != .network)).length ≤ 1

theorem Takes.kept {c : Controller} (h : s.permits.Sound PermitKey.limit)
    (hgrows : Grows s.controller.tasks c.tasks) : Takes s ⟨c, s.permits⟩ :=
  ⟨h, hgrows, [], rfl, nofun, by simp⟩

/-- A task that is registered has the permits that were asked for. -/
theorem commit_takes {c : Controller} {registry : TaskRegistry} {taken : ControllerPermits × Bool}
    {command : UiCommand} {targets : List Terminal} {o : OperationId} {busy : UiEvent}
    (hreserve : s.controller.registry.reserve o = some registry) (hregistry : c.registry = registry)
    (htasks : Grows s.controller.tasks c.tasks)
    (hlength : c.tasks.length = s.controller.tasks.length)
    (htaken : Admits s.permits s.nextTask taken) (scope : TaskScope) (failure : FailureContext) :
    Takes s (commit c taken.1 o scope failure (.command command targets) busy) := by
  have hcommit := Controller.commitReservation_eq hreserve hregistry scope .asyncNetwork failure
    (.command command targets)
  obtain ⟨new, hgrips, -, howner, hslot⟩ := htaken.grips
  simp only [commit, hcommit]
  refine ⟨htaken.sound, htasks.trans (.append ..), new, hgrips, fun g hg => ?_, hslot⟩
  refine ⟨howner g hg, { operationId := o, work := .command command targets }, ?_, rfl, rfl,
    command, targets, rfl⟩
  rw [nextTask, ← hlength]
  exact List.getElem?_concat_length

/-- A command that is refused leaves the permits as they were. -/
theorem refuse_takes {c : Controller} {taken : ControllerPermits × Bool}
    (htasks : Grows s.controller.tasks c.tasks) (htaken : Admits s.permits s.nextTask taken)
    (hrefused : ¬taken.2 = true) : Takes s ⟨c, taken.1⟩ := by
  obtain ⟨new, hgrips, hnone, -⟩ := htaken.grips
  have hempty := hnone (by simpa using hrefused)
  exact ⟨htaken.sound, htasks, [], by rw [hgrips, hempty], nofun, by simp⟩

theorem startNetworkWork_takes {command : UiCommand} {scope : TaskScope} {failure : FailureContext}
    {busy : UiEvent} {acquire : ControllerPermits → TaskId → ControllerPermits × Bool}
    (h : s.permits.Sound PermitKey.limit)
    (hacquire : Admits s.permits s.nextTask (acquire s.permits s.nextTask)) :
    Takes s (s.startNetworkWork command scope failure busy acquire) := by
  cases hreserve : s.controller.registry.reserve command.operationId with
  | none =>
    simp only [startNetworkWork, hreserve]
    exact .kept h (.refl _)
  | some registry =>
    simp only [startNetworkWork, hreserve]
    split
    · exact commit_takes (c := { s.controller with registry }) hreserve rfl (.refl _) rfl hacquire
        scope failure
    · exact refuse_takes (.refl _) hacquire ‹_›

theorem startProfileWork_takes (h : s.permits.Sound PermitKey.limit)
    (hfresh : ∀ g ∈ s.permits.grips, g.owner ≠ s.nextTask) (command : UiCommand)
    (identity : RequestIdentity) (kind : OperationKind) :
    Takes s (s.startProfileWork command identity kind) := by
  simp only [startProfileWork]
  split
  · exact .kept h (.refl _)
  · exact startNetworkWork_takes h (withGlobalPermit_admits h hfresh)

theorem startProfileControl_takes (h : s.permits.Sound PermitKey.limit)
    (hfresh : ∀ g ∈ s.permits.grips, g.owner ≠ s.nextTask) (command : UiCommand)
    (identity : RequestIdentity) (kind : OperationKind) (around : Surroundings) :
    Takes s (s.startProfileControl command identity kind around) := by
  cases hreserve : s.controller.registry.reserve identity.operationId with
  | none =>
    simp only [startProfileControl, hreserve]
    exact .kept h (.refl _)
  | some registry =>
    let targets := registry.values.filter
      (·.isNetworkOf identity.profileId identity.profileGeneration)
    have hcancelled := ({ s.controller with registry } : Controller).cancelTasks_grows targets
    have hplan := reconnectPermits_admits h hfresh identity.profileId kind targets
    simp only [startProfileControl, hreserve]
    split
    · exact commit_takes hreserve rfl hcancelled (List.length_mapIdx ..) hplan _ _
    · exact refuse_takes hcancelled hplan ‹_›

theorem unlessUncertain_takes {command : UiCommand} {around : Surroundings} {handled : Admission}
    (h : s.permits.Sound PermitKey.limit) (hhandled : Takes s handled) :
    Takes s (s.unlessUncertain command around handled) := by
  unfold unlessUncertain
  split
  · exact .kept h (.refl _)
  · exact hhandled

theorem handle_takes (h : s.permits.Sound PermitKey.limit)
    (hfresh : ∀ g ∈ s.permits.grips, g.owner ≠ s.nextTask) (command : UiCommand)
    (around : Surroundings) : Takes s (s.handle command around) := by
  have hprofile := startProfileWork_takes h hfresh
  have hcontrol := startProfileControl_takes h hfresh
  cases command with
  | prepareDraftConnectionTest o draftId =>
    exact unlessUncertain_takes h (startNetworkWork_takes h (withGlobalPermit_admits h hfresh))
  | testConnection identity timeoutMs => exact unlessUncertain_takes h (hprofile ..)
  | execute identity language text rowLimit timeoutMs =>
    exact unlessUncertain_takes h (hprofile ..)
  | browseCatalog request => exact unlessUncertain_takes h (hprofile ..)
  | scanRedisKeys request => exact unlessUncertain_takes h (hprofile ..)
  | inspectRedisKey request => exact unlessUncertain_takes h (hprofile ..)
  | disconnectProfile identity => exact unlessUncertain_takes h (hcontrol ..)
  | reconnectProfile identity timeoutMs =>
    refine unlessUncertain_takes h ?_
    split
    · exact .kept h (.refl _)
    · exact hcontrol ..
  | _ => exact .kept h (s.controller.handle_grows ..)

theorem takeCommand_takes (h : s.permits.Sound PermitKey.limit)
    (hfresh : ∀ g ∈ s.permits.grips, g.owner ≠ s.nextTask) (command : UiCommand)
    (around : Surroundings) : Takes s (s.takeCommand command around) := by
  have hhandle := handle_takes h hfresh command around
  unfold takeCommand
  split
  · exact hhandle
  · exact ⟨hhandle.sound, hhandle.grows, hhandle.grips⟩

/-! ## The invariant -/

/-- Whoever points to a semaphore is a task that runs, and it points to one profile's or one
draft's only. -/
structure Admitted (s : Admission) : Prop where
  sound : s.permits.Sound PermitKey.limit
  working : ∀ g ∈ s.permits.grips, Working s.controller g.owner
  single : ((s.permits.grips.filter (·.key != .network)).map Grip.owner).Nodup

theorem admitted_initial : Admitted {} where
  sound := Permits.sound_empty.make rfl
  working _ h := (nomatch h)
  single := List.nodup_nil

theorem Working.lt {c : Controller} {id : TaskId} (h : Working c id) : id < c.tasks.length := by
  obtain ⟨task, htask, -⟩ := h
  exact (List.getElem?_eq_some_iff.1 htask).1

/-- A task works on until it completes or fails. -/
theorem Working.grows {c c' : Controller} {id : TaskId} (h : Working c id)
    (hgrows : Grows c.tasks c'.tasks) (hfailed : c'.statusOf id ≠ .failed) : Working c' id := by
  obtain ⟨task, htask, hrunning, hsent, command, targets, hwork⟩ := h
  obtain ⟨task', htask', hages⟩ := hgrows.ages id task htask
  refine ⟨task', htask', ?_, hages.sent.trans hsent, command, targets, hages.work.trans hwork⟩
  cases hstatus : task'.status with
  | running => rfl
  | returned =>
    rcases hages.returned hstatus with hreturned | hcompleted
    · exact absurd (hrunning.symm.trans hreturned) nofun
    · exact absurd (hsent.symm.trans hcompleted) nofun
  | failed => exact absurd (by simpa [Controller.statusOf, htask'] using hstatus) hfailed

theorem statusOf_of_mem_dropFailed {g : Grip PermitKey TaskId}
    (hg : g ∈ s.dropFailed.permits.grips) : s.controller.statusOf g.owner ≠ .failed := by
  have hkept := (Permits.mem_dropWhere.1 hg).2
  simpa using hkept

theorem Admitted.drop (h : s.permits.Sound PermitKey.limit)
    (hworking : ∀ g ∈ s.permits.grips, s.controller.statusOf g.owner ≠ .failed →
      Working s.controller g.owner)
    (hsingle : ((s.permits.grips.filter (·.key != .network)).map Grip.owner).Nodup) :
    Admitted s.dropFailed where
  sound := h.dropWhere _
  working g hg := hworking g (Permits.mem_dropWhere.1 hg).1 (statusOf_of_mem_dropFailed hg)
  single := hsingle.sublist (((Permits.dropWhere_sublist _).filter _).map _)

theorem Admitted.takes (h : Admitted s) (htakes : Takes s s') : Admitted s'.dropFailed := by
  obtain ⟨new, hgrips, hnew, hslot⟩ := htakes.grips
  refine .drop htakes.sound ?_ ?_
  · intro g hg hfailed
    rw [hgrips] at hg
    rcases List.mem_append.1 hg with hg | hg
    · obtain ⟨howner, hworking⟩ := hnew g hg
      exact howner ▸ hworking
    · exact (h.working g hg).grows htakes.grows hfailed
  · -- The new task owned nothing before.
    rw [hgrips, List.filter_append, List.map_append, List.nodup_append]
    refine ⟨?_, h.single, ?_⟩
    · rw [List.nodup_iff_count_le_one]
      intro owner
      exact (List.count_le_length ..).trans (by simpa using hslot)
    · intro a ha b hb hab
      obtain ⟨g, hg, rfl⟩ := List.mem_map.1 ha
      obtain ⟨g', hg', rfl⟩ := List.mem_map.1 hb
      have howner := (hnew g (List.mem_filter.1 hg).1).1
      have hlt := (h.working g' (List.mem_filter.1 hg').1).lt
      have hnext : g'.owner = s.controller.tasks.length := hab.symm.trans howner
      exact absurd hnext (Nat.ne_of_lt hlt)

theorem Admitted.fresh (h : Admitted s) : ∀ g ∈ s.permits.grips, g.owner ≠ s.nextTask :=
  fun g hg => Nat.ne_of_lt (h.working g hg).lt

/-- A task that completes changes no other one. -/
theorem complete_getElem? (c : Controller) {id other : TaskId} (output : TaskOutput)
    (hother : other ≠ id) : (c.step (.complete id output)).tasks[other]? = c.tasks[other]? := by
  have hset : ∀ task : SpawnedTask, (c.setTask id task).tasks[other]? = c.tasks[other]? :=
    fun task => List.getElem?_set_ne (Ne.symm hother)
  simp only [Controller.step, Controller.taskStep]
  split
  · split
    · split
      · rfl
      · unfold Controller.complete
        split
        · exact hset _
        · rfl
    · rfl
  · rfl

theorem Admitted.controllerStep (h : Admitted s) (action : Controller.Action) :
    Admitted (s.controllerStep action).dropFailed := by
  have hrest : Admitted s.dropFailed :=
    .drop h.sound (fun g hg _ => h.working g hg) h.single
  have hquiet : (∀ id output, action ≠ .complete id output) →
      Admitted ({ s with controller := s.controller.step action } : Admission).dropFailed := by
    intro hquiet
    have hgrows := s.controller.step_grows hquiet
    exact .drop h.sound (fun g hg hfailed => (h.working g hg).grows hgrows hfailed) h.single
  cases action with
  | command command around =>
    simp only [Admission.controllerStep]
    split
    · exact h.takes (takeCommand_takes h.sound h.fresh command around)
    · exact hrest
  | complete id output =>
    simp only [Admission.controllerStep]
    split
    · exact hrest
    · rename_i hnone
      refine .drop h.sound (fun g hg _ => ?_) h.single
      have hother : g.owner ≠ id := by
        intro howner
        exact hnone (List.any_eq_true.2 ⟨g, hg, by simpa using howner⟩)
      obtain ⟨task, htask, hworks⟩ := h.working g hg
      exact ⟨task, (complete_getElem? _ output hother).trans htask, hworks⟩
  | _ =>
    simp only [Admission.controllerStep]
    exact hquiet fun _ _ heq => (nomatch heq)

/-- A task that takes a permit keeps to the semaphore that it waited for. -/
theorem Admitted.acquire (h : Admitted s) (id : TaskId) (key : PermitKey) :
    Admitted (s.step (.acquire id key)) := by
  simp only [step]
  split
  · rename_i g hfound
    have hmem := List.mem_of_find?_eq_some hfound
    have hkey := List.find?_some hfound
    simp only [Bool.and_eq_true, beq_iff_eq, Bool.not_eq_true'] at hkey
    obtain ⟨⟨rfl, rfl⟩, hpointer⟩ := hkey
    obtain ⟨owner, key, semaphore, permit⟩ := g
    subst hpointer
    have hgrips := s.permits.acquire_grips owner key semaphore
    refine ⟨h.sound.acquire .., ?_, ?_⟩
    · intro g hg
      simp only [hgrips] at hg
      split at hg
      · rcases List.mem_cons.1 hg with rfl | hg
        · have howner := h.working _ hmem
          exact howner
        · exact h.working g (List.mem_of_mem_erase hg)
      · exact h.working g hg
    · simp only [hgrips]
      split
      · have hperm := ((List.perm_cons_erase hmem).filter (·.key != .network)).map Grip.owner
        have hsingle := hperm.nodup_iff.1 h.single
        by_cases hnetwork : key = .network
        · simpa [List.filter_cons, hnetwork] using hsingle
        · simpa [List.filter_cons, hnetwork] using hsingle
      · exact h.single
  · exact h

theorem Admitted.step (h : Admitted s) (action : Action) : Admitted (s.step action) := by
  cases action with
  | controller action => exact h.controllerStep action
  | acquire id key => exact h.acquire id key
  | release id key =>
    refine ⟨h.sound.dropWhere _, fun g hg => h.working g (Permits.mem_dropWhere.1 hg).1, ?_⟩
    exact h.single.sublist (((Permits.dropWhere_sublist _).filter _).map _)
  | prune =>
    simp only [Admission.step]
    split
    · exact ⟨(h.sound.retain _).retain _, h.working, h.single⟩
    · exact h

theorem run_admitted (actions : List Action) : Admitted (run actions) := by
  induction actions using List.reverseRecOn with
  | nil => exact admitted_initial
  | append_singleton actions action ih =>
    rw [run_snoc]
    exact ih.step action

theorem run_reserved (actions : List Action) :
    (run actions).controller.registry.reserved = ∅ := by
  induction actions using List.reverseRecOn with
  | nil => rfl
  | append_singleton actions action ih =>
    rw [run_snoc, ← ih]
    cases action with
    | controller action =>
      simp only [step, dropFailed]
      cases action with
      | command command around =>
        simp only [controllerStep]
        split
        · obtain ⟨permits, heq⟩ := (run actions).takeCommand_controller command around
          have hstep := (run actions).controller.step_reserved
            (.command command { around with permits })
          simp only [Controller.step, ‹(run actions).controller.takes command = true›, if_true]
            at hstep
          rw [heq, hstep]
        · rfl
      | complete id output =>
        simp only [controllerStep]
        split
        · rfl
        · exact Controller.step_reserved ..
      | _ => exact Controller.step_reserved ..
    | acquire id key =>
      simp only [step]
      split <;> rfl
    | release id key => rfl
    | prune =>
      simp only [step]
      split <;> rfl

/-! ## Admission control -/

/-- What is out of the permits, and who has it. -/
structure Controlled (s : Admission) : Prop where
  profile : ∀ profileId, (s.permits.holders (.profile profileId)).length ≤ 1
  draft : ∀ draftId, (s.permits.holders (.draft draftId)).length ≤ 1
  network : (s.permits.holders .network).length ≤ 4
  /-- Neither a task that has ended or completed nor a command that was refused has anything. -/
  working : ∀ g ∈ s.permits.grips, Working s.controller g.owner
  /-- No permit is lost: what is missing is in somebody's hands. -/
  balanced : ∀ key id, s.permits.slots key = some id →
    s.permits.available id + (s.permits.holders key).length = key.limit
  unreserved : s.controller.registry.reserved = ∅
  /-- Whoever has a permit of a key or waits for one points to the one semaphore that the registry
  knows for the key. -/
  referred : ∀ g ∈ s.permits.grips, s.permits.slots g.key = some g.semaphore

theorem Admitted.controlled (h : Admitted s) (hreserved : s.controller.registry.reserved = ∅) :
    Controlled s where
  profile profileId := h.sound.holders_le (.profile profileId)
  draft draftId := h.sound.holders_le (.draft draftId)
  network := h.sound.holders_le .network
  working := h.working
  balanced _ _ hslot := h.sound.available_add_holders hslot
  unreserved := hreserved
  referred := h.sound.gripped

/-- A command for which no task is spawned takes no permit. -/
theorem Admitted.refused (h : Admitted s) {command : UiCommand} {around : Surroundings}
    (hlength : (s.step (.controller (.command command around))).controller.tasks.length =
      s.controller.tasks.length) :
    ∀ g ∈ (s.step (.controller (.command command around))).permits.grips, g ∈ s.permits.grips := by
  intro g hg
  have hkept := (Permits.mem_dropWhere.1 hg).1
  simp only [Admission.step, Admission.controllerStep] at hkept hlength
  split at hkept
  · obtain ⟨new, hgrips, hnew, -⟩ := (takeCommand_takes h.sound h.fresh command around).grips
    rw [hgrips] at hkept
    rcases List.mem_append.1 hkept with hmem | hmem
    · have hlt := (hnew g hmem).2.lt
      rw [if_pos ‹_›] at hlength
      have hlength' : (s.takeCommand command around).controller.tasks.length =
          s.controller.tasks.length := hlength
      rw [hlength'] at hlt
      exact absurd rfl (Nat.ne_of_lt hlt)
    · exact hmem
  · exact hkept

/-- In every reachable state at most one task has the permit of a profile, at most one that of a
draft, and at most four a global one. Whatever is refused or ends gives back its permits and its
reservation, and pruning keeps every semaphore that a task points to. -/
theorem admission_control (actions : List Action) :
    Controlled (run actions) ∧
      (∀ command around,
        ((run actions).step (.controller (.command command around))).controller.tasks.length =
            (run actions).controller.tasks.length →
          ∀ g ∈ ((run actions).step (.controller (.command command around))).permits.grips,
            g ∈ (run actions).permits.grips) ∧
      ∀ g ∈ (run actions).permits.grips,
        g ∈ ((run actions).step .prune).permits.grips ∧
          ((run actions).step .prune).permits.slots g.key = some g.semaphore := by
  have hrun := run_admitted actions
  refine ⟨hrun.controlled (run_reserved actions), fun command around => hrun.refused, ?_⟩
  intro g hg
  have hpruned := hrun.step .prune
  have hkept : g ∈ ((run actions).step .prune).permits.grips := by
    simp only [step]
    split
    · exact hg
    · exact hg
  exact ⟨hkept, hpruned.sound.gripped g hkept⟩

end Admission

end Dbotter.Ui
