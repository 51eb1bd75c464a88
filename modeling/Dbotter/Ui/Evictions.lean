import Dbotter.Ui.Terminals

/-!
What a failure cleanup may evict: the session that was recorded for the task, and no other.
-/

namespace Dbotter.Ui
open Dbotter.Utf8 Dbotter.Configuration Dbotter.Service Dbotter.Drivers Dbotter.Program

def TaskWork.isCleanup : TaskWork → Bool
  | .cleanup _ _ => true
  | _ => false

namespace Controller

/-! ## Scopes that were recorded -/

/-- Whatever the controller cleans up, or will, has a scope that `R` records for its operation. -/
structure Traced (R : OperationId → TaskScope → Prop) (c : Controller) : Prop where
  tasks : ∀ task ∈ c.tasks, ∀ scope failure, task.work = .cleanup scope failure →
    R task.operationId scope
  inHand : ∀ entry ∈ c.stage.inHand, R entry.operationId entry.scope
  evicted : ∀ e ∈ c.evicted, R e.operationId
    (.profile e.profileId e.identity.profileGeneration (some e.identity.sessionGeneration))

variable {R R' : OperationId → TaskScope → Prop} {c : Controller} {entry : RegistryEntry}

theorem Traced.mono (h : Traced R c) (hle : ∀ o scope, R o scope → R' o scope) : Traced R' c where
  tasks task htask scope failure hwork := hle _ _ (h.tasks task htask scope failure hwork)
  inHand entry hentry := hle _ _ (h.inHand entry hentry)
  evicted e he := hle _ _ (h.evicted e he)

theorem Traced.cancelTasks (h : Traced R c) (entries : List RegistryEntry) :
    Traced R (c.cancelTasks entries) where
  tasks task htask := by
    obtain ⟨id, hid, rfl⟩ := List.mem_mapIdx.1 htask
    have htraced := h.tasks _ (List.getElem_mem hid)
    split
    · exact htraced
    · exact htraced
  inHand := h.inHand
  evicted := h.evicted

theorem Traced.spawn {task : SpawnedTask} {tasks : List SpawnedTask} (h : Traced R c)
    (htasks : tasks = c.tasks ++ [task])
    (htask : ∀ scope failure, task.work = .cleanup scope failure → R task.operationId scope) :
    ∀ other ∈ tasks, ∀ scope failure, other.work = .cleanup scope failure →
      R other.operationId scope := by
  intro other hother
  rw [htasks] at hother
  rcases List.mem_append.1 hother with hmem | hmem
  · exact h.tasks other hmem
  · exact List.mem_singleton.1 hmem ▸ htask

theorem Traced.setTask {task : SpawnedTask} (h : Traced R c) (id : TaskId)
    (htask : ∀ scope failure, task.work = .cleanup scope failure → R task.operationId scope) :
    Traced R (c.setTask id task) where
  tasks other hother := by
    rcases List.mem_or_eq_of_mem_set hother with hmem | rfl
    · exact h.tasks other hmem
    · exact htask
  inHand := h.inHand
  evicted := h.evicted

theorem Traced.commitReservation (h : Traced R c) {work : TaskWork}
    (hwork : work.isCleanup = false) (o : OperationId) (scope : TaskScope) (taskClass : TaskClass)
    (failure : FailureContext) :
    Traced R (c.commitReservation o scope taskClass failure work).1 := by
  simp only [Controller.commitReservation]
  split
  · refine ⟨h.spawn rfl fun scope failure heq => ?_, h.inHand, h.evicted⟩
    change work = _ at heq
    rw [heq] at hwork
    cases hwork
  · exact ⟨h.tasks, h.inHand, h.evicted⟩

/-! ## Commands -/

theorem Traced.tryEmit (h : Traced R c) (event : UiEvent) : Traced R (c.tryEmit event) :=
  ⟨h.tasks, h.inHand, h.evicted⟩

theorem Traced.withRegistry (h : Traced R c) (registry : TaskRegistry) :
    Traced R { c with registry } :=
  ⟨h.tasks, h.inHand, h.evicted⟩

theorem Traced.startWork (h : Traced R c) (command : UiCommand) (scope : TaskScope)
    (taskClass : TaskClass) (failure : FailureContext) (busy : UiEvent) (permits : Bool) :
    Traced R (c.startWork command scope taskClass failure busy permits) := by
  simp only [Controller.startWork]
  split
  · exact h.tryEmit busy
  · rename_i registry _
    split
    · have hwork : (TaskWork.command command []).isCleanup = false := rfl
      have hcommit := (h.withRegistry registry).commitReservation hwork command.operationId scope
        taskClass failure
      split <;> rename_i heq <;> rw [heq] at hcommit
      · exact hcommit
      · exact hcommit.tryEmit busy
    · exact (h.withRegistry _).tryEmit busy

theorem Traced.startProfileWork (h : Traced R c) (command : UiCommand) (identity : RequestIdentity)
    (kind : OperationKind) (around : Surroundings) :
    Traced R (c.startProfileWork command identity kind around) := by
  simp only [Controller.startProfileWork]
  split
  · exact h.tryEmit _
  · exact h.startWork ..

theorem Traced.startProfileControl (h : Traced R c) (command : UiCommand)
    (identity : RequestIdentity) (kind : OperationKind) (around : Surroundings) :
    Traced R (c.startProfileControl command identity kind around) := by
  simp only [Controller.startProfileControl]
  split
  · exact h.tryEmit _
  · rename_i registry _
    let targets := registry.values.filter
      (·.isNetworkOf identity.profileId identity.profileGeneration)
    have hcancelled := (h.withRegistry registry).cancelTasks targets
    split
    · exact (hcancelled.withRegistry _).tryEmit _
    · have hwork : (TaskWork.command command (targets.map RegistryEntry.terminal)).isCleanup =
          false := rfl
      have hcommit := hcancelled.commitReservation hwork identity.operationId
        (.profile identity.profileId identity.profileGeneration around.session) .asyncNetwork
        (.profile identity.profileId identity.profileGeneration kind)
      split <;> rename_i heq <;> rw [heq] at hcommit
      · exact hcommit
      · exact hcommit.tryEmit _

theorem Traced.startMutation (h : Traced R c) (command : UiCommand) (around : Surroundings) :
    Traced R (c.startMutation command around).1 := by
  simp only [Controller.startMutation]
  split
  · exact h.tryEmit _
  · split
    · exact h.tryEmit _
    · split
      · exact h.withRegistry _
      · exact (h.withRegistry _).commitReservation rfl ..

theorem Traced.unlessUncertain {handled : Controller} (h : Traced R c) (hhandled : Traced R handled)
    (command : UiCommand) (around : Surroundings) :
    Traced R (c.unlessUncertain command around handled) := by
  unfold Controller.unlessUncertain
  split
  · exact h.tryEmit _
  · exact hhandled

theorem Traced.handle (h : Traced R c) (command : UiCommand) (around : Surroundings) :
    Traced R (c.handle command around) := by
  have hmutation : ∀ command, Traced R { (c.startMutation command around).1 with
      mutationActive := (c.startMutation command around).2 } := by
    intro command
    have hstarted := h.startMutation command around
    exact ⟨hstarted.tasks, hstarted.inHand, hstarted.evicted⟩
  cases command with
  | exportResult o resultId =>
    simp only [Controller.handle, startExportWork]
    split
    · exact h.tryEmit _
    · exact h.startWork ..
  | prepareDraftConnectionTest o draftId => exact h.unlessUncertain (h.startWork ..) _ around
  | testConnection identity timeoutMs => exact h.unlessUncertain (h.startProfileWork ..) _ around
  | execute identity language text rowLimit timeoutMs =>
    exact h.unlessUncertain (h.startProfileWork ..) _ around
  | browseCatalog request => exact h.unlessUncertain (h.startProfileWork ..) _ around
  | scanRedisKeys request => exact h.unlessUncertain (h.startProfileWork ..) _ around
  | inspectRedisKey request => exact h.unlessUncertain (h.startProfileWork ..) _ around
  | cancelOperation o =>
    simp only [Controller.handle, cancelOperation]
    split
    · exact h.cancelTasks _
    · exact h
  | disconnectProfile identity => exact h.unlessUncertain (h.startProfileControl ..) _ around
  | reconnectProfile identity timeoutMs =>
    refine h.unlessUncertain ?_ _ around
    split
    · exact h.tryEmit _
    · exact h.startProfileControl ..
  | shutdownRuntime o =>
    have hcancelled := h.cancelTasks c.registry.values
    exact ⟨hcancelled.tasks, hcancelled.inHand, hcancelled.evicted⟩
  | refreshProfiles o => exact hmutation _
  | createProfile request => exact hmutation _
  | updateProfile request => exact hmutation _
  | deleteProfile request => exact hmutation _
  | storeCredentials identity sourceOperation secret => exact hmutation _

/-! ## The loop -/

theorem Traced.settleFailure {report : Bool} (h : Traced R c)
    (hentry : R entry.operationId entry.scope) : Traced R (c.settleFailure entry report) := by
  have hgive : ∀ c', Traced R c' →
      Traced R ((if report then c'.emitInternalFailure entry.operationId entry.failure
        else c').cancelTerminal entry.terminal) := by
    intro c' h'
    cases report <;> exact ⟨h'.tasks, h'.inHand, h'.evicted⟩
  have hcleanup : Traced R (c.startRegisteredFailureCleanup entry).1 := by
    unfold startRegisteredFailureCleanup
    split
    · exact h
    · dsimp only
      split
      · refine ⟨h.spawn rfl fun scope failure heq => ?_, h.inHand, h.evicted⟩
        cases heq
        exact hentry
      · exact h.withRegistry _
  simp only [Controller.settleFailure]
  split
  · exact hgive c h
  · split <;> rename_i heq <;> rw [heq] at hcleanup
    · exact hcleanup
    · exact hgive _ hcleanup

theorem Traced.finishJoined (h : Traced R c) (output : TaskOutput) (configUncertain : Bool)
    (event : UiEvent) : Traced R (c.finishJoined entry output configUncertain event) := by
  have hcompletion :
      Traced R (c.startRegisteredMutationCompletion entry output configUncertain).1 := by
    unfold startRegisteredMutationCompletion
    split
    · exact h
    · rename_i registry _
      exact ((h.withRegistry registry).cancelTasks _).commitReservation rfl ..
  unfold Controller.finishJoined
  split
  · split <;> rename_i heq <;> rw [heq] at hcompletion
    · exact ⟨hcompletion.tasks, hcompletion.inHand, hcompletion.evicted⟩
    · exact ⟨hcompletion.tasks, hcompletion.inHand, hcompletion.evicted⟩
  · exact ⟨h.tasks, h.inHand, h.evicted⟩

theorem Traced.withStage {stage : Stage} (h : Traced R c)
    (hstage : ∀ entry ∈ stage.inHand, R entry.operationId entry.scope) :
    Traced R { c with stage } :=
  ⟨h.tasks, hstage, h.evicted⟩

theorem Traced.taskStep (h : Traced R c) (id : TaskId) {act : SpawnedTask → Controller}
    (hact : ∀ task ∈ c.tasks, Traced R (act task)) : Traced R (c.taskStep id act) := by
  rcases c.taskStep_cases id act with heq | ⟨task, hmem, -, heq⟩
  · rwa [heq]
  · rw [heq]
    exact hact task hmem

theorem Traced.advance (h : Traced R c) (configUncertain : Bool) (event : UiEvent) :
    Traced R (c.advance configUncertain event) := by
  have hidle : Traced R { c with stage := .idle } := h.withStage fun entry hentry => (nomatch hentry)
  unfold Controller.advance
  split
  · exact h
  · rename_i entry output hstage
    have hentry := h.inHand entry (by simp [hstage, Stage.inHand])
    split
    · exact h
    · have hended : Traced R (({ c with stage := .idle } : Controller).endMutation entry) :=
        ⟨hidle.tasks, hidle.inHand, hidle.evicted⟩
      exact hended.settleFailure hentry
    · split
      · exact hidle.finishJoined ..
      · exact h
  · exact hidle
  · exact hidle
  · rename_i entry rest hstage
    have hhand := h.inHand
    simp only [hstage, Stage.inHand, List.mem_cons, forall_eq_or_imp] at hhand
    have hrest : Traced R { c with stage := .reaping rest } := h.withStage hhand.2
    have hended : Traced R (({ c with stage := .reaping rest } : Controller).endMutation entry) :=
      ⟨hrest.tasks, hrest.inHand, hrest.evicted⟩
    exact hended.settleFailure hhand.1
  · rename_i entry rest hstage
    have hhand := h.inHand
    simp only [hstage, Stage.inHand, List.mem_cons, forall_eq_or_imp] at hhand
    have hrest : Traced R { c with stage := .aborting rest } := h.withStage hhand.2
    refine (hrest.taskStep entry.join fun task htask => ?_).settleFailure hhand.1
    exact hrest.setTask entry.join (h.tasks task htask)

theorem Traced.receive (h : Traced R c)
    (hrecorded : ∀ entry ∈ c.registry.values, R entry.operationId entry.scope) :
    Traced R c.receive := by
  unfold Controller.receive
  split
  · exact h
  · exact ⟨h.tasks, h.inHand, h.evicted⟩
  · rename_i o output rest hmessages
    unfold TaskRegistry.take
    cases hlookup : c.registry.entries.lookup o with
    | none => exact ⟨h.tasks, h.inHand, h.evicted⟩
    | some entry =>
      refine ⟨h.tasks, fun other hother => ?_, h.evicted⟩
      rw [List.mem_singleton.1 hother]
      exact hrecorded entry (TaskRegistry.mem_values.2 ⟨o, hlookup⟩)

/-- What a cleanup evicts is the session of its own scope. -/
theorem mem_cleanupFailedScope {o : OperationId} {scope : TaskScope}
    {cached : Option CachedSession} {e : Eviction} (h : e ∈ cleanupFailedScope o scope cached) :
    e.operationId = o ∧ scope = .profile e.profileId e.identity.profileGeneration
      (some e.identity.sessionGeneration) := by
  unfold cleanupFailedScope at h
  split at h
  · split at h
    · rename_i hexact
      simp only [CachedSession.isExactly, Bool.and_eq_true, beq_iff_eq] at hexact
      rw [List.mem_singleton.1 h, ← hexact.1, ← hexact.2]
      exact ⟨rfl, rfl⟩
    · cases h
  · cases h

theorem Traced.evict {task : SpawnedTask} (h : Traced R c) (htask : task ∈ c.tasks) (id : TaskId)
    (cached : Option CachedSession) : Traced R (c.evict id task cached) := by
  unfold Controller.evict
  split
  · rename_i scope failure hwork
    have hscope := h.tasks task htask scope failure hwork
    split
    · exact h
    · have hset : Traced R (c.setTask id { task with cleaned := true }) :=
        h.setTask id (h.tasks task htask)
      refine ⟨hset.tasks, hset.inHand, fun e he => ?_⟩
      rcases List.mem_append.1 he with hmem | hmem
      · exact h.evicted e hmem
      · obtain ⟨hoperation, heq⟩ := mem_cleanupFailedScope hmem
        rw [hoperation, ← heq]
        exact hscope
  · exact h

theorem Traced.step (h : Traced R c)
    (hrecorded : ∀ entry ∈ c.registry.values, R entry.operationId entry.scope) (action : Action) :
    Traced R (c.step action) := by
  cases action with
  | command command around =>
    simp only [Controller.step]
    split
    · unfold Controller.takeCommand
      split
      · exact h.handle _ around
      · have hhandled := h.handle command around
        exact ⟨hhandled.tasks, hhandled.inHand, hhandled.evicted⟩
    · exact h
  | portClosed =>
    simp only [Controller.step]
    split
    · have hcancelled := h.cancelTasks c.registry.values
      exact ⟨hcancelled.tasks, hcancelled.inHand, hcancelled.evicted⟩
    · exact h
  | receive =>
    simp only [Controller.step]
    split
    · exact h.receive hrecorded
    · exact h
  | reap =>
    simp only [Controller.step]
    split
    · exact ⟨h.tasks, fun entry hentry => hrecorded entry (List.mem_filter.1 hentry).1, h.evicted⟩
    · exact h
  | deadline =>
    simp only [Controller.step]
    split
    · exact ⟨h.tasks, fun entry hentry => hrecorded entry (List.mem_filter.1 hentry).1, h.evicted⟩
    · exact h
  | advance configUncertain event => exact h.advance configUncertain event
  | stop =>
    simp only [Controller.step]
    split
    · split
      · exact ⟨h.tasks, h.inHand, h.evicted⟩
      · exact h
    · exact h
  | acquire id sessionGeneration =>
    refine h.taskStep id fun task _ => ?_
    split
    · exact h
    · unfold Controller.acquire
      split
      · exact ⟨h.tasks, h.inHand, h.evicted⟩
      · exact h
  | evict id cached => exact h.taskStep id fun task htask => h.evict htask id cached
  | complete id output =>
    refine h.taskStep id fun task htask => ?_
    split
    · exact h
    · unfold Controller.complete
      split
      · have hset : Traced R (c.setTask id { task with completionSent := true }) :=
          h.setTask id (h.tasks task htask)
        exact ⟨hset.tasks, hset.inHand, hset.evicted⟩
      · exact h
  | finish id panicked =>
    refine h.taskStep id fun task htask => ?_
    unfold Controller.finish
    split
    · exact h.setTask id (h.tasks task htask)
    · split
      · exact h.setTask id (h.tasks task htask)
      · exact h

/-! ## Runs -/

/-- At some point of the run the operation was registered with this scope. -/
def Recorded (actions : List Action) (o : OperationId) (scope : TaskScope) : Prop :=
  ∃ earlier, earlier <+: actions ∧
    ∃ entry, (run earlier).registry.entries.lookup o = some entry ∧ entry.scope = scope

theorem Recorded.mono {actions later : List Action} {o : OperationId} {scope : TaskScope}
    (h : Recorded actions o scope) : Recorded (actions ++ later) o scope := by
  obtain ⟨earlier, hpre, hentry⟩ := h
  exact ⟨earlier, hpre.trans (List.prefix_append ..), hentry⟩

/-- Along a run the controller cleans up what was recorded. -/
theorem run_traced (actions : List Action) (htaken : (run actions).taken.Nodup) :
    Traced (Recorded actions) (run actions) := by
  induction actions using List.reverseRecOn with
  | nil =>
    exact ⟨fun _ h => (nomatch h), fun _ h => (nomatch h), fun _ h => (nomatch h)⟩
  | append_singleton actions action ih =>
    rw [run_snoc] at htaken ⊢
    have hbefore := htaken.sublist ((run actions).step_taken_grows action).sublist
    have hkeyed := (run_sound actions hbefore).1.keyed
    have hrecorded : ∀ entry ∈ (run actions).registry.values,
        Recorded actions entry.operationId entry.scope := fun entry hentry =>
      ⟨actions, List.prefix_rfl, entry, hkeyed.lookup_of_mem hentry, rfl⟩
    exact ((ih hbefore).step hrecorded action).mono fun o scope h => h.mono

/-- What the controller owes the operations of a run: each is answered at most once, and with
the answer it is forgotten and its terminal token cancelled. -/
structure AnsweredOnce (actions : List Action) : Prop where
  once : ∀ o, ((run actions).attempts.filter (·.operationId = o)).length ≤ 1
  forgotten : ∀ event ∈ (run actions).attempts,
    event.operationId ∉ (run actions).registry.entries ∧
      event.operationId ∉ (run actions).registry.reserved ∧
      ∀ entry ∈ (run actions).held, entry.operationId ≠ event.operationId
  terminal : ∀ t o, (run actions).terminals[t]? = some o →
    (t ∈ (run actions).cancelled ↔
      (∃ event ∈ (run actions).attempts, event.operationId = o) ∨ t ∈ (run actions).moved)
  accounted : ∀ o ∈ (run actions).terminals,
    (∃ event ∈ (run actions).attempts, event.operationId = o) ∨
      ∃ entry ∈ (run actions).held, entry.operationId = o
  mutation : (run actions).mutationActive = true ↔
    ∃ entry ∈ (run actions).held, entry.taskClass = .mutation
  evicted : ∀ e ∈ (run actions).evicted, Recorded actions e.operationId
    (.profile e.profileId e.identity.profileGeneration (some e.identity.sessionGeneration))

theorem mem_answered {o : OperationId} :
    o ∈ c.answered ↔ ∃ event ∈ c.attempts, event.operationId = o :=
  List.mem_map

theorem exists_slip {P : Slip OperationId → Prop} :
    (∃ slip ∈ c.ledger.held, P slip) ↔ ∃ entry ∈ c.held, P entry.slip := by
  constructor
  · rintro ⟨slip, hslip, hP⟩
    obtain ⟨entry, hentry, rfl⟩ := List.mem_map.1 (Multiset.mem_coe.1 hslip)
    exact ⟨entry, hentry, hP⟩
  · rintro ⟨entry, hentry, hP⟩
    exact ⟨entry.slip, Multiset.mem_coe.2 (List.mem_map_of_mem hentry), hP⟩

theorem filter_length_le_one {events : List UiEvent} (h : (events.map UiEvent.operationId).Nodup)
    (o : OperationId) : (events.filter (·.operationId = o)).length ≤ 1 := by
  have hcount := List.nodup_iff_count_le_one.1 h o
  rw [List.count, List.countP_map, List.countP_eq_length_filter] at hcount
  have hsame : (fun event : UiEvent => decide (event.operationId = o)) =
      (fun other => other == o) ∘ UiEvent.operationId := by
    funext event
    exact (beq_eq_decide ..).symm
  rwa [hsame]

/-- Every order of commands, completions, panics, reaping, cancellations, cleanups, mutation
phases and shutdown aborts answers each operation at most once. That no two commands carry one
operation is the desktop's part (`Desktop.sent_numbered`). -/
theorem operations_answered_once (actions : List Action)
    (hnumbered : (run actions).taken.Nodup) : AnsweredOnce actions := by
  obtain ⟨horderly, hsound⟩ := run_sound actions hnumbered
  have hopen : ∀ event ∈ (run actions).attempts, ∀ entry ∈ (run actions).held,
      entry.operationId ≠ event.operationId := by
    intro event hevent entry hentry heq
    have hslip : entry.slip ∈ (run actions).ledger.held :=
      Multiset.mem_coe.2 (List.mem_map_of_mem hentry)
    exact (hsound.held_open entry.slip hslip).1 (mem_answered.2 ⟨event, hevent, heq.symm⟩)
  constructor
  case once => exact filter_length_le_one hsound.answered_nodup
  case forgotten =>
    intro event hevent
    refine ⟨fun hmem => ?_, by simp [horderly.unreserved], hopen event hevent⟩
    obtain ⟨entry, hentry⟩ := Option.isSome_iff_exists.1 (AList.lookup_isSome.2 hmem)
    refine hopen event hevent entry ?_ (horderly.keyed _ _ hentry)
    exact List.mem_append_right _ (TaskRegistry.mem_values.2 ⟨_, hentry⟩)
  case terminal =>
    intro t o ht
    rw [← mem_answered]
    rcases hsound.closed t o ht with ⟨hcancelled, hwhy⟩ | ⟨hnot, slip, hslip, rfl, rfl⟩
    · exact iff_of_true hcancelled hwhy
    · obtain ⟨hanswered, -, -, hmoved⟩ := hsound.held_open slip hslip
      exact iff_of_false hnot (not_or.2 ⟨hanswered, hmoved⟩)
  case accounted =>
    intro o ho
    exact (hsound.accounted o ho).imp mem_answered.1 exists_slip.1
  case mutation =>
    have hbusy := hsound.busy_iff.trans exists_slip
    simpa [RegistryEntry.slip, RegistryEntry.isMutation, ledger] using hbusy
  case evicted => exact (run_traced actions hnumbered).evicted

/-- A connection whose task panics after it got a session, while another profile is
deleted: the cleanup evicts that session and the failure is reported, and the deletion goes on
to its completion. -/
def panickedConnection : List Action :=
  let profile := (Desktop.firstProfile .redis).persisted
  let cached : CachedSession :=
    ⟨⟨1, 7, .from profile⟩, ⟨0, profile, none, 1⟩⟩
  let failed := internalFailureEvent 5 (.profile profile.id 1 .connectProfile)
  let other : ProfileId := "q".toList
  [.command (.testConnection ⟨profile.id, 1, 5⟩ 1000) {},
    .command (.deleteProfile ⟨other, 1, 6, .cancelled⟩) {},
    .acquire 0 7, .receive, .finish 0 true, .reap,
    .advance false (.configUncertain 0), .advance false (.configUncertain 0),
    .evict 2 (some cached), .complete 2 (.event failed), .finish 2 false,
    .complete 1 (.delete 6 other 1 []), .finish 1 false,
    .receive, .advance false failed, .receive, .advance false failed]

theorem operations_answered_once_panicked :
    (run panickedConnection).taken.Nodup ∧ AnsweredOnce panickedConnection :=
  have hnumbered : (run panickedConnection).taken.Nodup := by decide +kernel
  ⟨hnumbered, operations_answered_once panickedConnection hnumbered⟩

end Controller

end Dbotter.Ui
