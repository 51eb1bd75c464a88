import Dbotter.Program.Ledger
import Dbotter.Ui.Controller

/-!
The controller answers each operation once.

The controller is read as a ledger of operations: what it holds, in the registry or in its own
hands, which terminal tokens are cancelled and what it has answered. Each of its steps is a step
of the ledger.
-/

namespace Dbotter.Ui
open Dbotter.Utf8 Dbotter.Configuration Dbotter.Service Dbotter.Drivers Dbotter.Program

/-! ## The ledger of a controller -/

def RegistryEntry.isMutation (entry : RegistryEntry) : Bool := entry.taskClass == .mutation

def RegistryEntry.slip (entry : RegistryEntry) : Slip OperationId :=
  ⟨entry.operationId, entry.terminal, entry.isMutation⟩

/-- The entries that the controller has taken out of the registry and not settled yet. -/
def Stage.inHand : Stage → List RegistryEntry
  | .idle => []
  | .joining entry _ => [entry]
  | .reaping entries | .aborting entries => entries

/-- A task works for the operation that it is registered under. -/
def SpawnedTask.Labelled (task : SpawnedTask) : Prop :=
  match task.work with
  | .command command _ => command.operationId = task.operationId
  | .completion output _ _ => output.operationId = task.operationId
  | .cleanup _ _ => True

namespace Controller

def held (c : Controller) : List RegistryEntry := c.stage.inHand ++ c.registry.values

def answered (c : Controller) : List OperationId := c.attempts.map UiEvent.operationId

def ledger (c : Controller) : Ledger OperationId where
  held := (c.held.map RegistryEntry.slip : List (Slip OperationId))
  terminals := c.terminals
  cancelled := c.cancelled
  moved := c.moved
  busy := c.mutationActive
  taken := c.taken
  answered := c.answered
  last := if c.stopped then none else c.shutdown

/-- What the controller keeps besides its ledger: nothing stays reserved, and every message,
task and entry is about one operation. -/
structure Orderly (c : Controller) : Prop where
  keyed : c.registry.Keyed
  unreserved : c.registry.reserved = ∅
  messages : ∀ o output, .completed o output ∈ c.messages → output.operationId = o
  tasks : ∀ task ∈ c.tasks, task.Labelled
  joining : ∀ entry output, c.stage = .joining entry output →
    output.operationId = entry.operationId
  aborting : ∀ entries, c.stage = .aborting entries →
    ∀ entry ∈ entries, entry.taskClass = .asyncNetwork

/-- A step of the controller that is a step of its ledger. -/
structure Moves (c c' : Controller) : Prop where
  orderly : c'.Orderly
  step : Ledger.Step c.ledger c'.ledger

variable {c c' : Controller} {entry : RegistryEntry}

theorem orderly_initial : Orderly {} where
  keyed _ _ h := (nomatch h)
  unreserved := rfl
  messages _ _ h := (nomatch h)
  tasks _ h := (nomatch h)
  joining _ _ h := (nomatch h)
  aborting _ h := (nomatch h)

/-- A step that the ledger does not see. -/
theorem Moves.of_ledger_eq (horderly : c'.Orderly) (h : c'.ledger = c.ledger) : Moves c c' :=
  ⟨horderly, h ▸ .idle _⟩

/-! ## Tasks -/

theorem Orderly.cancelTasks (h : c.Orderly) (entries : List RegistryEntry) :
    (c.cancelTasks entries).Orderly where
  keyed := h.keyed
  unreserved := h.unreserved
  messages := h.messages
  tasks task htask := by
    obtain ⟨id, hid, rfl⟩ := List.mem_mapIdx.1 htask
    have hlabel := h.tasks _ (List.getElem_mem hid)
    split
    · exact hlabel
    · exact hlabel
  joining := h.joining
  aborting := h.aborting

theorem Orderly.setTask {task : SpawnedTask} (h : c.Orderly) (id : TaskId)
    (htask : task.Labelled) : (c.setTask id task).Orderly where
  keyed := h.keyed
  unreserved := h.unreserved
  messages := h.messages
  tasks other hother := by
    rcases List.mem_or_eq_of_mem_set hother with hmem | rfl
    · exact h.tasks other hmem
    · exact htask
  joining := h.joining
  aborting := h.aborting

/-- A task that is running does a step, or nothing happens. -/
theorem taskStep_cases (c : Controller) (id : TaskId) (act : SpawnedTask → Controller) :
    c.taskStep id act = c ∨
      ∃ task ∈ c.tasks, task.status = .running ∧ c.taskStep id act = act task := by
  unfold taskStep
  split
  · rename_i task htask
    split
    · exact .inr ⟨task, List.mem_of_getElem? htask, ‹_›, rfl⟩
    · exact .inl rfl
  · exact .inl rfl

theorem Orderly.abortTask (h : c.Orderly) (id : TaskId) : (c.abortTask id).Orderly := by
  rcases c.taskStep_cases id fun task => c.setTask id { task with status := .failed } with
    heq | ⟨task, htask, -, heq⟩
  · rw [Controller.abortTask, heq]
    exact h
  · rw [Controller.abortTask, heq]
    exact h.setTask id (h.tasks task htask)

theorem abortTask_frame (c : Controller) (id : TaskId) :
    ∃ tasks, c.abortTask id = { c with tasks } := by
  rcases c.taskStep_cases id fun task => c.setTask id { task with status := .failed } with
    heq | ⟨task, -, -, heq⟩
  · exact ⟨c.tasks, heq⟩
  · exact ⟨_, heq⟩

theorem Orderly.send {message : ControllerMessage} (h : c.Orderly)
    (hmessage : ∀ o output, message = .completed o output → output.operationId = o) :
    Orderly { c with messages := c.messages ++ [message] } where
  keyed := h.keyed
  unreserved := h.unreserved
  messages o output hmem := by
    rcases List.mem_append.1 hmem with hmem | hmem
    · exact h.messages o output hmem
    · exact hmessage o output (List.mem_singleton.1 hmem).symm
  tasks := h.tasks
  joining := h.joining
  aborting := h.aborting

/-- What a task sends is about its own operation. -/
theorem maySend_operationId {task : SpawnedTask} {output : TaskOutput} (hlabel : task.Labelled)
    (h : c.maySend task output) : output.operationId = task.operationId := by
  unfold maySend at h
  unfold SpawnedTask.Labelled at hlabel
  split at h <;> rename_i hwork <;> rw [hwork] at hlabel
  · rw [Bool.and_eq_true] at h
    rw [UiCommand.mayOutput_operationId h.1]
    exact hlabel
  · rw [Bool.and_eq_true] at h
    cases output with
    | event event =>
      have hfinished := TaskOutput.finishedBy_operationId h.2
      exact hfinished.trans hlabel
    | _ => cases h.2
  · rw [Bool.and_eq_true] at h
    cases output with
    | event event =>
      have hevent := eq_of_beq h.2
      exact (congrArg UiEvent.operationId hevent).trans (internalFailureEvent_operationId ..)
    | _ => cases h.2

theorem Moves.acquire {task : SpawnedTask} (h : c.Orderly) (sessionGeneration : SessionGeneration) :
    Moves c (c.acquire task sessionGeneration) := by
  unfold Controller.acquire
  split
  · exact .of_ledger_eq (h.send fun _ _ heq => (nomatch heq)) rfl
  · exact .of_ledger_eq h rfl

theorem Moves.evict {task : SpawnedTask} (h : c.Orderly) (id : TaskId) (htask : task.Labelled)
    (cached : Option CachedSession) : Moves c (c.evict id task cached) := by
  unfold Controller.evict
  split
  · split
    · exact .of_ledger_eq h rfl
    · have hset : (c.setTask id { task with cleaned := true }).Orderly := h.setTask id htask
      exact .of_ledger_eq ⟨hset.keyed, hset.unreserved, hset.messages, hset.tasks, hset.joining,
        hset.aborting⟩ rfl
  · exact .of_ledger_eq h rfl

theorem Moves.complete {task : SpawnedTask} (h : c.Orderly) (id : TaskId) (htask : task.Labelled)
    (output : TaskOutput) : Moves c (c.complete id task output) := by
  unfold Controller.complete
  split
  · rename_i hsend
    have hset : (c.setTask id { task with completionSent := true }).Orderly :=
      h.setTask id htask
    refine .of_ledger_eq (hset.send fun o sent heq => ?_) rfl
    cases heq
    exact maySend_operationId htask hsend
  · exact .of_ledger_eq h rfl

theorem Moves.finish {task : SpawnedTask} (h : c.Orderly) (id : TaskId) (htask : task.Labelled)
    (panicked : Bool) : Moves c (c.finish id task panicked) := by
  unfold Controller.finish
  split
  · exact .of_ledger_eq (h.setTask id htask) rfl
  · split
    · exact .of_ledger_eq (h.setTask id htask) rfl
    · exact .of_ledger_eq h rfl

/-! ## Commands -/

/-- An entry and its task, as they are after a registration. -/
def enter (c : Controller) (entry : RegistryEntry) (work : TaskWork) : Controller :=
  { c with
    registry := { c.registry with
      entries := c.registry.entries.insert entry.operationId entry }
    terminals := c.terminals ++ [entry.operationId]
    tasks := c.tasks ++ [{ operationId := entry.operationId, work }] }

theorem cancelTasks_nil (c : Controller) : c.cancelTasks [] = c := by
  have htasks : c.tasks.mapIdx (fun _ task => task) = c.tasks := by
    apply List.ext_getElem?
    simp
  simp [Controller.cancelTasks, htasks]

/-- The entry that `commit_reservation` makes. -/
def newEntry (c : Controller) (operationId : OperationId) (scope : TaskScope)
    (taskClass : TaskClass) (failure : FailureContext) : RegistryEntry where
  operationId := operationId
  scope := scope
  join := c.tasks.length
  taskClass := taskClass
  failure := failure
  terminal := c.terminals.length
  cleanupStarted := false

/-- A reservation that was made is committed: the entry and its task are there. -/
theorem commitReservation_eq {registry reserved : TaskRegistry} {o : OperationId}
    (hreserve : registry.reserve o = some reserved) (hc : c.registry = reserved)
    (scope : TaskScope) (taskClass : TaskClass) (failure : FailureContext) (work : TaskWork) :
    c.commitReservation o scope taskClass failure work =
      (({ c with registry }).enter (c.newEntry o scope taskClass failure) work, true) := by
  have hcommit := TaskRegistry.commit_of_reserve (c.newEntry o scope taskClass failure) hreserve
  rw [← hc] at hcommit
  simp only [newEntry] at hcommit
  simp only [commitReservation, hcommit]
  rfl

theorem Orderly.enter {entry : RegistryEntry} {work : TaskWork} (h : c.Orderly)
    (hlabel : SpawnedTask.Labelled { operationId := entry.operationId, work }) :
    (c.enter entry work).Orderly where
  keyed := h.keyed.insert entry
  unreserved := h.unreserved
  messages := h.messages
  tasks task htask := by
    rcases List.mem_append.1 htask with hmem | hmem
    · exact h.tasks task hmem
    · exact List.mem_singleton.1 hmem ▸ hlabel
  joining := h.joining
  aborting := h.aborting

theorem Orderly.tryEmit (h : c.Orderly) (event : UiEvent) : (c.tryEmit event).Orderly :=
  ⟨h.keyed, h.unreserved, h.messages, h.tasks, h.joining, h.aborting⟩

/-- An entry that is put into the registry is held. -/
theorem ledger_insert (entry : RegistryEntry)
    (hfree : entry.operationId ∉ c.registry.entries) (tasks : List SpawnedTask) :
    ledger { c with
      registry := { c.registry with
        entries := c.registry.entries.insert entry.operationId entry }
      tasks } = { c.ledger with held := entry.slip ::ₘ c.ledger.held } := by
  ext1 <;> try rfl
  simp only [ledger, held, TaskRegistry.values_insert hfree]
  exact Multiset.coe_eq_coe.2 (List.perm_middle.map RegistryEntry.slip)

theorem ledger_enter (entry : RegistryEntry) (work : TaskWork)
    (hfree : entry.operationId ∉ c.registry.entries) :
    (c.enter entry work).ledger = { c.ledger with
      held := entry.slip ::ₘ c.ledger.held
      terminals := c.terminals ++ [entry.operationId] } := by
  have hledger : (c.enter entry work).ledger =
      { ledger { c with
          registry := { c.registry with
            entries := c.registry.entries.insert entry.operationId entry }
          tasks := c.tasks ++ [{ operationId := entry.operationId, work }] } with
        terminals := c.terminals ++ [entry.operationId] } := rfl
  rw [hledger, ledger_insert entry hfree]

/-- The ledger of an operation that is registered anew and gives up its first token. -/
theorem ledger_move (entry : RegistryEntry) (work : TaskWork)
    (hfree : entry.operationId ∉ c.registry.entries) (terminal : Terminal) :
    ledger { (c.enter entry work).cancelTerminal terminal with
      moved := insert terminal (c.enter entry work).moved } = { c.ledger with
        held := entry.slip ::ₘ c.ledger.held
        terminals := c.ledger.terminals ++ [entry.operationId]
        cancelled := insert terminal c.ledger.cancelled
        moved := insert terminal c.ledger.moved } := by
  have hledger : ledger { (c.enter entry work).cancelTerminal terminal with
      moved := insert terminal (c.enter entry work).moved } = { (c.enter entry work).ledger with
        cancelled := insert terminal c.ledger.cancelled
        moved := insert terminal c.ledger.moved } := rfl
  rw [hledger, ledger_enter entry work hfree]
  rfl

theorem ledger_settle (event : UiEvent) (terminal : Terminal) :
    ((c.tryEmit event).cancelTerminal terminal).ledger = { c.ledger with
      cancelled := insert terminal c.ledger.cancelled
      answered := c.ledger.answered ++ [event.operationId] } := by
  ext1 <;> try rfl
  simp [ledger, Controller.tryEmit, Controller.cancelTerminal, answered]

/-- What a command may come to: it is refused with an event, or a task is registered for it. -/
inductive Handled (c : Controller) (o : OperationId) : Controller → Prop
  | refused (entries : List RegistryEntry) (event : UiEvent) (h : event.operationId = o) :
      Handled c o ((c.cancelTasks entries).tryEmit event)
  | entered (entries : List RegistryEntry) (entry : RegistryEntry) (work : TaskWork)
      (hoperation : entry.operationId = o) (hfree : o ∉ c.registry.entries)
      (hterminal : entry.terminal = c.terminals.length) (hclass : entry.isMutation = false)
      (hlabel : SpawnedTask.Labelled { operationId := o, work }) :
      Handled c o ((c.cancelTasks entries).enter entry work)

theorem Handled.emit {o : OperationId} {event : UiEvent} (h : event.operationId = o) :
    Handled c o (c.tryEmit event) := by
  have hrefused : Handled c o ((c.cancelTasks []).tryEmit event) := .refused [] event h
  rwa [cancelTasks_nil] at hrefused

theorem startWork_handled {command : UiCommand} {scope : TaskScope} {taskClass : TaskClass}
    {failure : FailureContext} {busy : UiEvent} {permits : Bool} (hclass : taskClass ≠ .mutation)
    (hbusy : busy.operationId = command.operationId) :
    Handled c command.operationId
      (c.startWork command scope taskClass failure busy permits) := by
  simp only [startWork]
  split
  · exact .emit hbusy
  · rename_i reserved hreserve
    split
    · rw [commitReservation_eq hreserve rfl]
      have hentered : Handled c command.operationId ((c.cancelTasks []).enter
          (c.newEntry command.operationId scope taskClass failure) (.command command [])) :=
        .entered [] _ _ rfl (TaskRegistry.reserve_eq_some hreserve).1 rfl
          (by simpa [RegistryEntry.isMutation, newEntry] using hclass) rfl
      rwa [cancelTasks_nil] at hentered
    · rw [TaskRegistry.release_of_reserve hreserve]
      exact .emit hbusy

theorem startProfileWork_handled (c : Controller) {command : UiCommand}
    {identity : RequestIdentity} (hidentity : identity.operationId = command.operationId)
    (kind : OperationKind) (around : Surroundings) :
    Handled c command.operationId (c.startProfileWork command identity kind around) := by
  simp only [startProfileWork]
  split
  · exact .emit hidentity
  · exact startWork_handled (by decide) (by exact hidentity)

theorem startExportWork_handled (c : Controller) (command : UiCommand) (resultId : ResultId)
    (around : Surroundings) :
    Handled c command.operationId (c.startExportWork command resultId around) := by
  simp only [startExportWork]
  split
  · exact .emit rfl
  · exact startWork_handled (by decide) (by rfl)

theorem startDraftWork_handled (c : Controller) (command : UiCommand) (draftId : DraftId)
    (around : Surroundings) :
    Handled c command.operationId (c.startDraftWork command draftId around) :=
  startWork_handled (by decide) (by exact draftFailedEvent_operationId ..)

theorem startProfileControl_handled (c : Controller) {command : UiCommand}
    {identity : RequestIdentity} (hidentity : command.operationId = identity.operationId)
    (kind : OperationKind) (around : Surroundings) :
    Handled c identity.operationId (c.startProfileControl command identity kind around) := by
  simp only [startProfileControl]
  split
  · exact .emit rfl
  · rename_i reserved hreserve
    split
    · simp only [Controller.cancelTasks, TaskRegistry.release_of_reserve hreserve]
      exact .refused _ _ rfl
    · rw [commitReservation_eq hreserve rfl]
      exact .entered _ _ _ rfl (TaskRegistry.reserve_eq_some hreserve).1 rfl rfl hidentity

theorem Moves.refuse (h : c.Orderly) {o : OperationId} {event : UiEvent}
    (hevent : event.operationId = o) :
    Moves c { c.tryEmit event with taken := c.taken ++ [o] } := by
  refine ⟨⟨h.keyed, h.unreserved, h.messages, h.tasks, h.joining, h.aborting⟩, ?_⟩
  have hledger : ({ c.tryEmit event with taken := c.taken ++ [o] } : Controller).ledger =
      { c.ledger with taken := c.taken ++ [o], answered := c.answered ++ [o] } := by
    ext1 <;> try rfl
    simp [ledger, Controller.tryEmit, answered, hevent]
  rw [hledger]
  exact .refuse ..

theorem Moves.register (entry : RegistryEntry) (work : TaskWork) {o : OperationId} (h : c.Orderly)
    (hoperation : entry.operationId = o) (hfree : o ∉ c.registry.entries)
    (hterminal : entry.terminal = c.terminals.length)
    (hmutation : entry.isMutation → c.mutationActive = false)
    (hlabel : SpawnedTask.Labelled { operationId := o, work }) :
    Moves c { c.enter entry work with
      mutationActive := c.mutationActive || entry.isMutation, taken := c.taken ++ [o] } := by
  subst hoperation
  have horderly := h.enter hlabel
  refine ⟨⟨horderly.keyed, horderly.unreserved, horderly.messages, horderly.tasks,
    horderly.joining, horderly.aborting⟩, ?_⟩
  have hslip : entry.slip = ⟨entry.operationId, c.terminals.length, entry.isMutation⟩ := by
    rw [RegistryEntry.slip, hterminal]
  have hledger : ({ c.enter entry work with
      mutationActive := c.mutationActive || entry.isMutation,
      taken := c.taken ++ [entry.operationId] } : Controller).ledger =
      { (c.enter entry work).ledger with
        busy := c.mutationActive || entry.isMutation
        taken := c.taken ++ [entry.operationId] } := rfl
  rw [hledger, ledger_enter entry work hfree, hslip]
  exact .register c.ledger entry.operationId entry.isMutation hmutation

theorem Moves.of_cancelTasks {entries : List RegistryEntry} (h : Moves (c.cancelTasks entries) c') :
    Moves c c' :=
  ⟨h.orderly, h.step⟩

theorem Handled.moves {o : OperationId} (h : c.Orderly) (hhandled : Handled c o c') :
    Moves c { c' with taken := c.taken ++ [o] } := by
  cases hhandled with
  | refused entries event hevent =>
    exact (Moves.refuse (h.cancelTasks entries) hevent).of_cancelTasks
  | entered entries entry work hoperation hfree hterminal hclass hlabel =>
    have hmoves := (Moves.register entry work (h.cancelTasks entries) hoperation hfree hterminal
      (fun hmutation => by simp [hclass] at hmutation) hlabel).of_cancelTasks
    rwa [hclass, Bool.or_false] at hmoves

/-- A mutation is started while none is active, and is the active one where it is registered. -/
theorem Moves.mutation (h : c.Orderly) (hactive : c.mutationActive = false) {command : UiCommand}
    (hscope : (mutationScope command).isSome) (around : Surroundings) :
    Moves c { (c.startMutation command around).1 with
      mutationActive := (c.startMutation command around).2
      taken := c.taken ++ [command.operationId] } := by
  have hrefuse : ∀ event : UiEvent, event.operationId = command.operationId →
      Moves c { c.tryEmit event with
        mutationActive := false, taken := c.taken ++ [command.operationId] } := by
    intro event hevent
    have hmoves := Moves.refuse h hevent
    rwa [← hactive]
  simp only [startMutation]
  split
  · exact hrefuse _ rfl
  · split
    · exact hrefuse _ (failureForUnavailable_operationId ..)
    · rename_i reserved hreserve
      split
      · rename_i hnone
        rw [hnone] at hscope
        cases hscope
      · rename_i scope failure _
        rw [commitReservation_eq hreserve rfl]
        have hmoves := Moves.register (c.newEntry command.operationId scope .mutation failure)
          (.command command []) h rfl (TaskRegistry.reserve_eq_some hreserve).1 rfl
          (fun _ => hactive) rfl
        rw [hactive] at hmoves
        exact hmoves

theorem unlessUncertain_handled {command : UiCommand} {around : Surroundings}
    {handled : Controller} (h : Handled c command.operationId handled) :
    Handled c command.operationId (c.unlessUncertain command around handled) := by
  unfold unlessUncertain
  split
  · exact .emit rfl
  · exact h

/-- The ledger of a controller that takes a shutdown. -/
theorem Moves.shutdown (h : c.Orderly) (hopen : c.shutdown = none) (hrunning : c.stopped = false)
    (o : OperationId) :
    Moves c { c.cancelTasks c.registry.values with
      shutdown := some o, taken := c.taken ++ [o] } := by
  have hcancel := h.cancelTasks c.registry.values
  refine ⟨⟨hcancel.keyed, hcancel.unreserved, hcancel.messages, hcancel.tasks, hcancel.joining,
    hcancel.aborting⟩, ?_⟩
  have hledger : ({ c.cancelTasks c.registry.values with
      shutdown := some o, taken := c.taken ++ [o] } : Controller).ledger =
      { c.ledger with taken := c.taken ++ [o], last := some o } := by
    ext1 <;> try rfl
    simp [ledger, Controller.cancelTasks, hrunning]
  rw [hledger]
  exact .close c.ledger o (by simp [ledger, hopen])

theorem Moves.takeCommand (h : c.Orderly) {command : UiCommand} (htakes : c.takes command)
    (around : Surroundings) : Moves c (c.takeCommand command around) := by
  simp only [takes, idle, Bool.and_eq_true, Option.isNone_iff_eq_none] at htakes
  obtain ⟨⟨hidle, hopen⟩, hlane⟩ := htakes
  have hrunning : c.stopped = false := by
    split at hidle
    · simpa using hidle
    · cases hidle
  cases command with
  | exportResult o resultId => exact (c.startExportWork_handled _ resultId around).moves h
  | prepareDraftConnectionTest o draftId =>
    exact (unlessUncertain_handled (c.startDraftWork_handled _ draftId around)).moves h
  | testConnection identity timeoutMs =>
    exact (unlessUncertain_handled (c.startProfileWork_handled rfl _ around)).moves h
  | execute identity language text rowLimit timeoutMs =>
    exact (unlessUncertain_handled (c.startProfileWork_handled rfl _ around)).moves h
  | browseCatalog request =>
    exact (unlessUncertain_handled (c.startProfileWork_handled rfl _ around)).moves h
  | scanRedisKeys request =>
    exact (unlessUncertain_handled (c.startProfileWork_handled rfl _ around)).moves h
  | inspectRedisKey request =>
    exact (unlessUncertain_handled (c.startProfileWork_handled rfl _ around)).moves h
  | cancelOperation o =>
    simp only [Controller.takeCommand, handle, cancelOperation]
    split
    · exact .of_ledger_eq (h.cancelTasks _) rfl
    · exact .of_ledger_eq h rfl
  | disconnectProfile identity =>
    exact (unlessUncertain_handled (c.startProfileControl_handled rfl _ around)).moves h
  | reconnectProfile identity timeoutMs =>
    refine (unlessUncertain_handled ?_).moves h
    split
    · exact .emit rfl
    · exact c.startProfileControl_handled rfl _ around
  | shutdownRuntime o => exact .shutdown h hopen hrunning o
  | refreshProfiles o => exact .mutation h (by simpa [UiCommand.lane] using hlane) rfl around
  | createProfile request => exact .mutation h (by simpa [UiCommand.lane] using hlane) rfl around
  | updateProfile request => exact .mutation h (by simpa [UiCommand.lane] using hlane) rfl around
  | deleteProfile request => exact .mutation h (by simpa [UiCommand.lane] using hlane) rfl around
  | storeCredentials identity sourceOperation secret =>
    exact .mutation h (by simpa [UiCommand.lane] using hlane) rfl around

/-! ## Entries in the hands of the controller -/

/-- One entry is out of the hands of the controller, and its mutation, if it was one, is over. -/
structure Released (c c₁ : Controller) (entry : RegistryEntry) : Prop where
  orderly : c₁.Orderly
  held : c.held.Perm (entry :: c₁.held)
  ledger : c₁.ledger =
    { c.ledger with held := c₁.ledger.held, busy := c.mutationActive && !entry.isMutation }

variable {c₁ : Controller}

theorem ledger_held (h : c.held.Perm (entry :: c₁.held)) :
    c.ledger.held = entry.slip ::ₘ c₁.ledger.held :=
  Multiset.coe_eq_coe.2 (h.map RegistryEntry.slip)

/-- Nothing is registered for an operation whose entry the controller has in its hands. -/
theorem not_mem_entries (hsound : c.ledger.Sound) (horderly : c₁.Orderly)
    (h : c.held.Perm (entry :: c₁.held)) : entry.operationId ∉ c₁.registry.entries := by
  intro hmem
  obtain ⟨found, hfound⟩ := Option.isSome_iff_exists.1 (AList.lookup_isSome.2 hmem)
  have hother : found.slip ∈ c₁.ledger.held := by
    refine Multiset.mem_coe.2 (List.mem_map_of_mem ?_)
    exact List.mem_append_right _ (TaskRegistry.mem_values.2 ⟨_, hfound⟩)
  exact hsound.slip_ne (ledger_held h) hother (horderly.keyed _ _ hfound)

theorem reserve_of_not_mem {o : OperationId} (h : c.Orderly) (hfree : o ∉ c.registry.entries) :
    ∃ reserved, c.registry.reserve o = some reserved := by
  refine ⟨{ c.registry with reserved := insert o c.registry.reserved }, ?_⟩
  simp [TaskRegistry.reserve, hfree, h.unreserved]

theorem Released.settle {event : UiEvent} (h : Released c c₁ entry)
    (hevent : event.operationId = entry.operationId) :
    Moves c ((c₁.tryEmit event).cancelTerminal entry.terminal) := by
  have horderly := h.orderly
  refine ⟨⟨horderly.keyed, horderly.unreserved, horderly.messages, horderly.tasks,
    horderly.joining, horderly.aborting⟩, ?_⟩
  rw [ledger_settle, h.ledger, hevent]
  exact .settle c.ledger entry.slip c₁.ledger.held (ledger_held h.held)

/-- The entry of a failed operation, as it is while the operation is cleaned up. -/
def cleanupEntry (c : Controller) (entry : RegistryEntry) : RegistryEntry :=
  { entry with join := c.tasks.length, taskClass := .asyncNetwork, cleanupStarted := true }

def enterCleanup (c : Controller) (entry : RegistryEntry) : Controller :=
  { c with
    registry := { c.registry with
      entries := c.registry.entries.insert entry.operationId (c.cleanupEntry entry) }
    tasks := c.tasks ++
      [{ operationId := entry.operationId, work := .cleanup entry.scope entry.failure }] }

theorem startRegisteredFailureCleanup_eq {reserved : TaskRegistry}
    (h : c.registry.reserve entry.operationId = some reserved) :
    c.startRegisteredFailureCleanup entry = (c.enterCleanup entry, true) := by
  have hcommit := TaskRegistry.commit_of_reserve (c.cleanupEntry entry) h
  simp only [cleanupEntry] at hcommit
  simp only [startRegisteredFailureCleanup, h, hcommit]
  rfl

/-- An operation without a cleanup gets one, under the terminal token that it has. -/
theorem Released.cleanup (h : Released c c₁ entry) (hsound : c.ledger.Sound) :
    c₁.startRegisteredFailureCleanup entry = (c₁.enterCleanup entry, true) ∧
      Moves c (c₁.enterCleanup entry) := by
  have hfree := not_mem_entries hsound h.orderly h.held
  obtain ⟨reserved, hreserve⟩ := reserve_of_not_mem h.orderly hfree
  have horderly := h.orderly
  refine ⟨startRegisteredFailureCleanup_eq hreserve, ⟨horderly.keyed.insert (c₁.cleanupEntry entry),
    horderly.unreserved, horderly.messages, ?_, horderly.joining, horderly.aborting⟩, ?_⟩
  · intro task htask
    rcases List.mem_append.1 htask with hmem | hmem
    · exact horderly.tasks task hmem
    · rw [List.mem_singleton.1 hmem]
      exact trivial
  · have hledger : (c₁.enterCleanup entry).ledger =
        { c₁.ledger with held := (c₁.cleanupEntry entry).slip ::ₘ c₁.ledger.held } :=
      ledger_insert (c₁.cleanupEntry entry) hfree _
    rw [hledger, h.ledger]
    exact .demote c.ledger entry.slip c₁.ledger.held (ledger_held h.held)

theorem Released.settleFailure {report : Bool} (h : Released c c₁ entry)
    (hsound : c.ledger.Sound) (hreport : entry.cleanupStarted → report) :
    Moves c (c₁.settleFailure entry report) := by
  simp only [Controller.settleFailure]
  split
  · rename_i hstarted
    rw [if_pos (hreport hstarted)]
    exact h.settle (internalFailureEvent_operationId ..)
  · obtain ⟨hcleanup, hmoves⟩ := h.cleanup hsound
    rw [hcleanup]
    exact hmoves

/-- A completion that is reserved is registered: a mutation once more, with a new token. -/
theorem startRegisteredMutationCompletion_eq (output : TaskOutput) {reserved : TaskRegistry}
    (h : c.registry.reserve entry.operationId = some reserved) (configUncertain : Bool) :
    ∃ entries waiters hadActive,
      c.startRegisteredMutationCompletion entry output configUncertain =
        ((c.cancelTasks entries).enter
          ((c.cancelTasks entries).newEntry entry.operationId entry.scope .mutation entry.failure)
          (.completion output waiters hadActive), true) := by
  let waiters := mutationCompletionWaiters reserved output configUncertain
  refine ⟨waiters.1, waiters.1.map RegistryEntry.terminal, waiters.2, ?_⟩
  simp only [startRegisteredMutationCompletion, h]
  exact commitReservation_eq h rfl ..

/-- The mutation goes on to its completion under a token of its own. -/
theorem Moves.completion {output : TaskOutput} (configUncertain : Bool) (horderly : c₁.Orderly)
    (hheld : c.held.Perm (entry :: c₁.held))
    (hledger : c₁.ledger = { c.ledger with held := c₁.ledger.held })
    (hsound : c.ledger.Sound) (hmutation : entry.isMutation)
    (houtput : output.operationId = entry.operationId) :
    ∃ c₂, c₁.startRegisteredMutationCompletion entry output configUncertain = (c₂, true) ∧
      Moves c { c₂.cancelTerminal entry.terminal with
        moved := insert entry.terminal c₂.moved } := by
  have hfree := not_mem_entries hsound horderly hheld
  obtain ⟨reserved, hreserve⟩ := reserve_of_not_mem horderly hfree
  obtain ⟨entries, waiters, hadActive, hcommit⟩ :=
    startRegisteredMutationCompletion_eq output hreserve configUncertain
  let completion := (c₁.cancelTasks entries).newEntry entry.operationId entry.scope .mutation
    entry.failure
  have hentered : ((c₁.cancelTasks entries).enter completion
      (.completion output waiters hadActive)).Orderly := (horderly.cancelTasks entries).enter houtput
  refine ⟨_, hcommit, ⟨hentered.keyed, hentered.unreserved, hentered.messages, hentered.tasks,
    hentered.joining, hentered.aborting⟩, ?_⟩
  have hterminals : c₁.terminals = c.terminals := congrArg Ledger.terminals hledger
  have hslip : completion.slip = ⟨entry.operationId, c.ledger.terminals.length, true⟩ := by
    change (⟨_, c₁.terminals.length, _⟩ : Slip OperationId) = ⟨_, c.terminals.length, _⟩
    rw [hterminals]
    rfl
  have hkept : (c₁.cancelTasks entries).ledger = c₁.ledger := rfl
  have hmove := ledger_move (c := c₁.cancelTasks entries) completion
    (.completion output waiters hadActive) hfree entry.terminal
  rw [hkept, hledger, hslip] at hmove
  exact (congrArg (Ledger.Step c.ledger) hmove).mpr
    (.move c.ledger entry.slip c₁.ledger.held (ledger_held hheld) hmutation)

/-! ## The steps of the loop -/

theorem endMutation_released (horderly : c₁.Orderly) (hheld : c.held.Perm (entry :: c₁.held))
    (hledger : c₁.ledger = { c.ledger with held := c₁.ledger.held }) :
    Released c (c₁.endMutation entry) entry := by
  refine ⟨⟨horderly.keyed, horderly.unreserved, horderly.messages, horderly.tasks,
    horderly.joining, horderly.aborting⟩, hheld, ?_⟩
  have hended : (c₁.endMutation entry).ledger =
      { c₁.ledger with busy := c₁.ledger.busy && !entry.isMutation } := rfl
  rw [hended, hledger]
  rfl

theorem Orderly.withStage {stage : Stage} (h : c.Orderly)
    (hjoining : ∀ entry output, stage ≠ .joining entry output)
    (haborting : ∀ entries, stage = .aborting entries →
      ∀ entry ∈ entries, entry.taskClass = .asyncNetwork) : Orderly { c with stage } where
  keyed := h.keyed
  unreserved := h.unreserved
  messages := h.messages
  tasks := h.tasks
  joining entry output heq := absurd heq (hjoining entry output)
  aborting := haborting

theorem Orderly.idle (h : c.Orderly) : Orderly { c with stage := .idle } :=
  h.withStage (fun _ _ => nofun) fun _ => nofun

theorem Moves.finishJoined {output : TaskOutput} {configUncertain : Bool} {event : UiEvent}
    (h : c.Orderly) (hsound : c.ledger.Sound) (hstage : c.stage = .joining entry output)
    (hevent : output.finishedBy false event ∨ entry.taskClass = .mutation ∧ !output.isEvent) :
    Moves c (({ c with stage := .idle } : Controller).finishJoined entry output configUncertain
      event) := by
  have houtput := h.joining entry output hstage
  have hheld : c.held.Perm (entry :: ({ c with stage := .idle } : Controller).held) := by
    simp only [held, hstage]
    exact .refl _
  simp only [Controller.finishJoined]
  split
  · rename_i hmutation
    obtain ⟨c₂, hcommit, hmoves⟩ := Moves.completion configUncertain h.idle hheld rfl hsound
      (by simpa [RegistryEntry.isMutation] using hmutation.1) houtput
    rw [hcommit]
    exact hmoves
  · rename_i hmutation
    have hfinished := hevent.resolve_right hmutation
    have hoperation : event.operationId = entry.operationId :=
      (TaskOutput.finishedBy_operationId hfinished).trans houtput
    exact (endMutation_released h.idle hheld rfl).settle hoperation

theorem Moves.advance (h : c.Orderly) (hsound : c.ledger.Sound) (configUncertain : Bool)
    (event : UiEvent) : Moves c (c.advance configUncertain event) := by
  unfold Controller.advance
  split
  · exact .of_ledger_eq h rfl
  · rename_i entry output hstage
    have hheld : c.held.Perm (entry :: ({ c with stage := .idle } : Controller).held) := by
      simp only [held, hstage]
      exact .refl _
    split
    · exact .of_ledger_eq h rfl
    · exact (endMutation_released h.idle hheld rfl).settleFailure hsound fun _ => rfl
    · split
      · exact .finishJoined h hsound hstage ‹_›
      · exact .of_ledger_eq h rfl
  · rename_i hstage
    refine .of_ledger_eq h.idle ?_
    simp only [ledger, held, hstage]
    rfl
  · rename_i hstage
    refine .of_ledger_eq h.idle ?_
    simp only [ledger, held, hstage]
    rfl
  · rename_i entry rest hstage
    have hheld : c.held.Perm
        (entry :: ({ c with stage := .reaping rest } : Controller).held) := by
      simp only [held, hstage]
      exact .refl _
    have hreaping : Orderly { c with stage := .reaping rest } :=
      h.withStage (fun _ _ => nofun) fun _ => nofun
    refine (endMutation_released hreaping hheld rfl).settleFailure hsound ?_
    intro hstarted
    simp [hstarted]
  · rename_i entry rest hstage
    have hclass := h.aborting _ hstage
    have hheld : c.held.Perm
        (entry :: ({ c with stage := .aborting rest } : Controller).held) := by
      simp only [held, hstage]
      exact .refl _
    have haborting : Orderly { c with stage := .aborting rest } := by
      refine h.withStage (fun _ _ => nofun) ?_
      intro entries heq other hother
      cases heq
      exact hclass other (List.mem_cons_of_mem _ hother)
    -- An entry that is aborted is no mutation, so that the flag stays as it is.
    have hshared : entry.isMutation = false := by
      simp [RegistryEntry.isMutation, hclass entry (List.mem_cons_self ..)]
    obtain ⟨tasks, htasks⟩ :=
      ({ c with stage := .aborting rest } : Controller).abortTask_frame entry.join
    refine Released.settleFailure ⟨haborting.abortTask entry.join, ?_, ?_⟩ hsound fun _ => rfl
    · rw [htasks]
      exact hheld
    · rw [htasks, hshared, Bool.not_false, Bool.and_true]
      rfl

/-! ## Messages, reaping and the deadline -/

theorem held_of_idle (hidle : c.idle) : c.stage = .idle ∧ c.held = c.registry.values := by
  unfold Controller.idle at hidle
  split at hidle
  · rename_i hstage
    simp [held, hstage, Stage.inHand]
  · cases hidle

/-- A session that is recorded changes neither what is held nor under which token. -/
theorem Moves.updateSession (h : c.Orderly) (o : OperationId)
    (sessionGeneration : SessionGeneration) :
    Moves c { c with registry := c.registry.updateSession o sessionGeneration } := by
  rcases c.registry.updateSession_cases o sessionGeneration with
    hsame | ⟨entry, profileId, profileGeneration, session, hlookup, -, hupdated⟩
  · rw [hsame]
    exact .of_ledger_eq h rfl
  · let updated : RegistryEntry :=
      { entry with scope := .profile profileId profileGeneration (some sessionGeneration) }
    have hoperation : updated.operationId = o := h.keyed o entry hlookup
    obtain ⟨others, hbefore, hafter⟩ := TaskRegistry.values_replace hlookup updated
    have hkeyed := h.keyed.insert updated
    rw [hoperation] at hkeyed
    rw [hupdated]
    refine .of_ledger_eq
      ⟨hkeyed, h.unreserved, h.messages, h.tasks, h.joining, h.aborting⟩ ?_
    have hslips : (c.registry.values.map RegistryEntry.slip).Perm
        ((updated :: others).map RegistryEntry.slip) := hbefore.map RegistryEntry.slip
    ext1 <;> try rfl
    simp only [ledger, held, List.map_append]
    rw [hafter]
    exact Multiset.coe_eq_coe.2 (hslips.symm.append_left _)

theorem Orderly.dropMessage {message : ControllerMessage} {rest : List ControllerMessage}
    (h : c.Orderly) (hmessages : c.messages = message :: rest) :
    Orderly { c with messages := rest } where
  keyed := h.keyed
  unreserved := h.unreserved
  messages o output hmem := h.messages o output (hmessages ▸ List.mem_cons_of_mem _ hmem)
  tasks := h.tasks
  joining := h.joining
  aborting := h.aborting

theorem Moves.receive (h : c.Orderly) (hidle : c.idle) : Moves c c.receive := by
  obtain ⟨hstage, hheld⟩ := held_of_idle hidle
  unfold Controller.receive
  split
  · exact .of_ledger_eq h rfl
  · rename_i o sessionGeneration rest hmessages
    have hmoves := Moves.updateSession (h.dropMessage hmessages) o sessionGeneration
    exact ⟨hmoves.orderly, hmoves.step⟩
  · rename_i o output rest hmessages
    have hdropped := h.dropMessage hmessages
    have houtput : output.operationId = o := h.messages o output (by simp [hmessages])
    unfold TaskRegistry.take
    cases hlookup : c.registry.entries.lookup o with
    | none => exact .of_ledger_eq hdropped rfl
    | some entry =>
      refine .of_ledger_eq ⟨h.keyed.erase, h.unreserved, hdropped.messages, h.tasks, ?_, ?_⟩ ?_
      · intro taken sent heq
        cases heq
        exact houtput.trans (h.keyed o entry hlookup).symm
      · intro entries heq
        cases heq
      · have hvalues := TaskRegistry.values_perm_erase hlookup
        ext1 <;> try rfl
        simp only [ledger, hheld]
        exact Multiset.coe_eq_coe.2 (hvalues.symm.map RegistryEntry.slip)

/-- Entries that go from the registry into the hands of the controller are still held. -/
theorem Moves.takeWhere {stage : Stage} {test : RegistryEntry → Bool} (h : c.Orderly)
    (hidle : c.idle) (hstage : stage.inHand = (c.registry.takeWhere test).1)
    (hjoining : ∀ entry output, stage ≠ .joining entry output)
    (haborting : ∀ entries, stage = .aborting entries →
      ∀ entry ∈ entries, entry.taskClass = .asyncNetwork) :
    Moves c { c with registry := (c.registry.takeWhere test).2, stage } := by
  obtain ⟨-, hheld⟩ := held_of_idle hidle
  obtain ⟨hvalues, hkeyed⟩ := TaskRegistry.takeWhere_values h.keyed test
  refine .of_ledger_eq ⟨hkeyed, h.unreserved, h.messages, h.tasks, ?_, haborting⟩ ?_
  · exact fun entry output heq => absurd heq (hjoining entry output)
  · ext1 <;> try rfl
    simp only [ledger, hheld]
    simp only [held, hstage]
    exact Multiset.coe_eq_coe.2 (hvalues.symm.map RegistryEntry.slip)

theorem Moves.reap (h : c.Orderly) (hidle : c.idle) : Moves c c.reap :=
  .takeWhere h hidle rfl (fun _ _ => nofun) fun _ => nofun

theorem Moves.abortAll (h : c.Orderly) (hidle : c.idle) : Moves c c.abortAll := by
  refine .takeWhere h hidle rfl (fun _ _ => nofun) ?_
  intro entries heq entry hentry
  cases heq
  have hclass := (List.mem_filter.1 hentry).2
  simpa using hclass

/-! ## Runs -/

theorem Moves.stop (h : c.Orderly) (hrunning : c.stopped = false) {o : OperationId}
    (hshutdown : c.shutdown = some o) :
    Moves c { c.tryEmit (.runtimeShutdown o) with stopped := true } := by
  refine ⟨⟨h.keyed, h.unreserved, h.messages, h.tasks, h.joining, h.aborting⟩, ?_⟩
  have hledger : ledger { c.tryEmit (.runtimeShutdown o) with stopped := true } =
      { c.ledger with answered := c.ledger.answered ++ [o], last := none } := by
    ext1 <;> try rfl
    simp [ledger, Controller.tryEmit, answered, UiEvent.operationId]
  rw [hledger]
  exact .stop c.ledger o (by simp [ledger, hrunning, hshutdown])

theorem running_of_idle (hidle : c.idle) : c.stopped = false := by
  unfold Controller.idle at hidle
  split at hidle
  · simpa using hidle
  · cases hidle

/-- Every step of the controller is a step of its ledger. -/
theorem step_moves (h : c.Orderly) (hsound : c.ledger.Sound) (action : Action) :
    Moves c (c.step action) := by
  have hrest : Moves c c := .of_ledger_eq h rfl
  have htask : ∀ id (act : SpawnedTask → Controller),
      (∀ task, task.Labelled → Moves c (act task)) → Moves c (c.taskStep id act) := by
    intro id act hact
    rcases c.taskStep_cases id act with heq | ⟨task, hmem, -, heq⟩
    · rwa [heq]
    · rw [heq]
      exact hact task (h.tasks task hmem)
  cases action with
  | command command around =>
    simp only [Controller.step]
    split
    · exact .takeCommand h ‹_› around
    · exact hrest
  | portClosed =>
    simp only [Controller.step]
    split
    · rename_i hopen
      rw [Bool.and_eq_true, Option.isNone_iff_eq_none] at hopen
      exact .shutdown h hopen.2 (running_of_idle hopen.1) 0
    · exact hrest
  | receive =>
    simp only [Controller.step]
    split
    · exact .receive h ‹_›
    · exact hrest
  | reap =>
    simp only [Controller.step]
    split
    · exact .reap h ‹_›
    · exact hrest
  | deadline =>
    simp only [Controller.step]
    split
    · rename_i hdeadline
      rw [Bool.and_eq_true, Bool.and_eq_true] at hdeadline
      exact .abortAll h hdeadline.1.1
    · exact hrest
  | advance configUncertain event => exact .advance h hsound configUncertain event
  | stop =>
    simp only [Controller.step]
    split
    · rename_i o hshutdown
      split
      · rename_i hopen
        rw [Bool.and_eq_true] at hopen
        exact .stop h (running_of_idle hopen.1) hshutdown
      · exact hrest
    · exact hrest
  | acquire id sessionGeneration =>
    refine htask id _ fun task _ => ?_
    split
    · exact hrest
    · exact .acquire h sessionGeneration
  | evict id cached => exact htask id _ fun task hlabel => .evict h id hlabel cached
  | complete id output =>
    refine htask id _ fun task hlabel => ?_
    split
    · exact hrest
    · exact .complete h id hlabel output
  | finish id panicked => exact htask id _ fun task hlabel => .finish h id hlabel panicked

theorem commitReservation_taken (c : Controller) (o : OperationId) (scope : TaskScope)
    (taskClass : TaskClass) (failure : FailureContext) (work : TaskWork) :
    (c.commitReservation o scope taskClass failure work).1.taken = c.taken := by
  simp only [commitReservation]
  split <;> rfl

theorem settleFailure_taken (c : Controller) (entry : RegistryEntry) (report : Bool) :
    (c.settleFailure entry report).taken = c.taken := by
  have hgive : ∀ c' : Controller,
      ((if report then c'.emitInternalFailure entry.operationId entry.failure
        else c').cancelTerminal entry.terminal).taken = c'.taken := by
    intro c'
    cases report <;> rfl
  have hcleanup : (c.startRegisteredFailureCleanup entry).1.taken = c.taken := by
    unfold startRegisteredFailureCleanup
    split
    · rfl
    · dsimp only
      split <;> rfl
  simp only [settleFailure]
  split
  · exact hgive c
  · split
    · rename_i c' heq
      rw [← hcleanup, heq]
    · rename_i c' heq
      rw [hgive c', ← hcleanup, heq]

theorem finishJoined_taken (c : Controller) (entry : RegistryEntry) (output : TaskOutput)
    (configUncertain : Bool) (event : UiEvent) :
    (c.finishJoined entry output configUncertain event).taken = c.taken := by
  have hcompletion :
      (c.startRegisteredMutationCompletion entry output configUncertain).1.taken = c.taken := by
    unfold startRegisteredMutationCompletion
    split
    · rfl
    · exact commitReservation_taken ..
  unfold Controller.finishJoined
  split
  · split
    · rename_i c' heq
      rw [← hcompletion, heq]
      rfl
    · rename_i c' heq
      rw [← hcompletion, heq]
      rfl
  · rfl

theorem taskStep_taken (c : Controller) (id : TaskId) {act : SpawnedTask → Controller}
    (hact : ∀ task, (act task).taken = c.taken) : (c.taskStep id act).taken = c.taken := by
  rcases c.taskStep_cases id act with heq | ⟨task, -, -, heq⟩
  · rw [heq]
  · rw [heq]
    exact hact task

theorem advance_taken (c : Controller) (configUncertain : Bool) (event : UiEvent) :
    (c.advance configUncertain event).taken = c.taken := by
  unfold Controller.advance
  split
  · rfl
  · split
    · rfl
    · rw [settleFailure_taken]
      rfl
    · split
      · rw [finishJoined_taken]
      · rfl
  · rfl
  · rfl
  · rw [settleFailure_taken]
    rfl
  · rw [settleFailure_taken]
    exact taskStep_taken _ _ fun task => rfl

/-- The operation that a step takes. -/
def takenBy (c : Controller) : Action → List OperationId
  | .command (.cancelOperation _) _ => []
  | .command command _ => if c.takes command then [command.operationId] else []
  | .portClosed => if c.idle && c.shutdown.isNone then [0] else []
  | _ => []

theorem step_taken (c : Controller) (action : Action) :
    (c.step action).taken = c.taken ++ c.takenBy action := by
  cases action with
  | command command around =>
    by_cases htakes : c.takes command
    · simp only [Controller.step, if_pos htakes, Controller.takeCommand]
      cases command with
      | cancelOperation o =>
        simp only [handle, cancelOperation, takenBy, List.append_nil]
        split <;> rfl
      | _ => simp [takenBy, htakes]
    · simp only [Controller.step, if_neg htakes]
      cases command <;> simp [takenBy, htakes]
  | portClosed =>
    simp only [Controller.step, takenBy]
    split <;> simp
  | receive =>
    simp only [Controller.step, takenBy, List.append_nil]
    split
    · unfold Controller.receive
      split
      · rfl
      · rfl
      · split <;> rfl
    · rfl
  | reap =>
    simp only [Controller.step, takenBy, List.append_nil]
    split <;> rfl
  | deadline =>
    simp only [Controller.step, takenBy, List.append_nil]
    split <;> rfl
  | advance configUncertain event =>
    simp only [takenBy, List.append_nil]
    exact c.advance_taken configUncertain event
  | stop =>
    simp only [Controller.step, takenBy, List.append_nil]
    split
    · split <;> rfl
    · rfl
  | acquire id sessionGeneration =>
    simp only [takenBy, List.append_nil]
    refine c.taskStep_taken id fun task => ?_
    split
    · rfl
    · unfold Controller.acquire
      split <;> rfl
  | evict id cached =>
    simp only [takenBy, List.append_nil]
    refine c.taskStep_taken id fun task => ?_
    unfold Controller.evict
    split
    · split <;> rfl
    · rfl
  | complete id output =>
    simp only [takenBy, List.append_nil]
    refine c.taskStep_taken id fun task => ?_
    split
    · rfl
    · unfold Controller.complete
      split <;> rfl
  | finish id panicked =>
    simp only [takenBy, List.append_nil]
    refine c.taskStep_taken id fun task => ?_
    unfold Controller.finish
    split
    · rfl
    · split <;> rfl

/-- What is taken stays in the order in which it was taken. -/
theorem step_taken_grows (c : Controller) (action : Action) :
    c.taken <+: (c.step action).taken := by
  rw [step_taken]
  exact List.prefix_append ..

/-- A run in which no operation is taken twice keeps the ledger sound. -/
theorem run_sound (actions : List Action) (htaken : (run actions).taken.Nodup) :
    (run actions).Orderly ∧ (run actions).ledger.Sound := by
  induction actions using List.reverseRecOn with
  | nil => exact ⟨orderly_initial, Ledger.sound_empty⟩
  | append_singleton actions action ih =>
    rw [run_snoc] at htaken ⊢
    have hpre := (run actions).step_taken_grows action
    obtain ⟨horderly, hsound⟩ := ih (htaken.sublist hpre.sublist)
    have hmoves := step_moves horderly hsound action
    exact ⟨hmoves.orderly, hmoves.step.sound hsound htaken⟩

end Controller

end Dbotter.Ui
