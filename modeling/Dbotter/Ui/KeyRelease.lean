import Dbotter.Ui.Terminals

/-!
The end of a connection control releases its key.

`K` gives the key of each operation that is a disconnection or a reconnection. Every entry,
task, message and event of the controller speaks for the key of its operation, so that the
event with which such an operation ends is one that releases the key.
-/

namespace Dbotter.Ui
open Dbotter.Utf8 Dbotter.Service Dbotter.Drivers

/-! ## Keys of operations -/

/-- The control key of a command that is answered under its own operation. -/
def UiCommand.ownKey : UiCommand → Option ControlKey
  | .disconnectProfile identity =>
    some (.disconnect identity.profileId identity.profileGeneration)
  | .reconnectProfile identity _ =>
    some (.reconnect identity.profileId identity.profileGeneration)
  | _ => none

def FailureContext.ownKey : FailureContext → Option ControlKey
  | .profile profileId profileGeneration .disconnectProfile =>
    some (.disconnect profileId profileGeneration)
  | .profile profileId profileGeneration .reconnectProfile =>
    some (.reconnect profileId profileGeneration)
  | _ => none

/-- The event releases the key, if there is one. -/
def UiEvent.Releases (event : UiEvent) (key : Option ControlKey) : Prop :=
  ∀ k, key = some k → UiPort.releasedKey event = some k

def TaskOutput.Answers (output : TaskOutput) (key : Option ControlKey) : Prop :=
  match output with
  | .event reported => reported.Releases key
  | _ => key = none

def SpawnedTask.Speaks (K : OperationId → Option ControlKey) (task : SpawnedTask) : Prop :=
  match task.work with
  | .command command _ => command.ownKey = K task.operationId
  | .completion _ _ _ => K task.operationId = none
  | .cleanup _ failure => failure.ownKey = K task.operationId

theorem UiEvent.releases_none (event : UiEvent) : event.Releases none := nofun

theorem releases_failedProfile (identity : RequestIdentity)
    (session : Option SessionGeneration) (kind : OperationKind) (summary : PublicSummary)
    (code : PublicCode) :
    (failedProfileEventWithCode identity session kind summary code).Releases
      (FailureContext.ownKey (.profile identity.profileId identity.profileGeneration kind)) := by
  intro key hkey
  cases kind <;> first | cases hkey; rfl | cases hkey

theorem releases_internalFailure (o : OperationId) (failure : FailureContext) :
    (internalFailureEvent o failure).Releases failure.ownKey := by
  cases failure with
  | profile profileId profileGeneration kind =>
    exact releases_failedProfile ⟨profileId, profileGeneration, o⟩ none kind .internalFailure .none
  | _ => exact UiEvent.releases_none _

/-- What ends a control, unless it is a refusal, releases its key. -/
theorem releases_of_endedBy {command : UiCommand} {event : UiEvent} (h : command.endedBy event)
    (hrefusal : ¬event.isRefusalOf command.operationId) : event.Releases command.ownKey := by
  cases command with
  | disconnectProfile identity =>
    rintro key ⟨rfl⟩
    cases event with
    | connectionClosed closed post =>
      have hclosed : closed = identity := by
        simpa [UiCommand.endedBy, UiEvent.isFailureOf, UiEvent.isRefusalOf] using h
      rw [hclosed]
      rfl
    | operationFailed failed session kind summary error disposition outcome =>
      have hfailed : failed = identity ∧ kind = .disconnectProfile := by
        simpa [UiCommand.endedBy, UiEvent.isFailureOf, UiEvent.isRefusalOf] using h
      rw [hfailed.1, hfailed.2]
      rfl
    | configUncertain o =>
      have hrefused : UiEvent.isRefusalOf (.configUncertain o) identity.operationId := by
        simpa [UiCommand.endedBy, UiEvent.isFailureOf] using h
      exact absurd hrefused hrefusal
    | _ => simp [UiCommand.endedBy, UiEvent.isFailureOf, UiEvent.isRefusalOf] at h
  | reconnectProfile identity timeoutMs =>
    rintro key ⟨rfl⟩
    cases event with
    | connectionReady ready session =>
      have hready : ready = identity := by
        simpa [UiCommand.endedBy, UiEvent.isFailureOf, UiEvent.isRefusalOf] using h
      rw [hready]
      rfl
    | operationFailed failed session kind summary error disposition outcome =>
      have hfailed : failed = identity ∧ kind = .reconnectProfile := by
        simpa [UiCommand.endedBy, UiEvent.isFailureOf, UiEvent.isRefusalOf] using h
      rw [hfailed.1, hfailed.2]
      rfl
    | configUncertain o =>
      have hrefused : UiEvent.isRefusalOf (.configUncertain o) identity.operationId := by
        simpa [UiCommand.endedBy, UiEvent.isFailureOf] using h
      exact absurd hrefused hrefusal
    | _ => simp [UiCommand.endedBy, UiEvent.isFailureOf, UiEvent.isRefusalOf] at h
  | _ => exact UiEvent.releases_none _

/-- An execution reads or mutates. -/
def Surroundings.Proper (around : Surroundings) : Prop :=
  around.executeKind = .executeRead ∨ around.executeKind = .executeMutation

namespace Controller

variable {K : OperationId → Option ControlKey} {c c' : Controller}

/-- Everything in the controller speaks for the key of its operation. -/
structure Speaks (K : OperationId → Option ControlKey) (c : Controller) : Prop where
  held : ∀ entry ∈ c.held, entry.failure.ownKey = K entry.operationId
  tasks : ∀ task ∈ c.tasks, task.Speaks K
  messages : ∀ o output, .completed o output ∈ c.messages → output.Answers (K o)
  joining : ∀ entry output, c.stage = .joining entry output →
    output.Answers (K entry.operationId)
  attempts : ∀ event ∈ c.attempts, event.Releases (K event.operationId)
  shutdown : ∀ o, c.shutdown = some o → K o = none

theorem speaks_initial : Speaks K {} where
  held _ h := (nomatch h)
  tasks _ h := (nomatch h)
  messages _ _ h := (nomatch h)
  joining _ _ h := (nomatch h)
  attempts _ h := (nomatch h)
  shutdown _ h := (nomatch h)

/-! ## Parts of a step -/

/-- Fewer entries and other tasks, stage and flags. -/
theorem Speaks.of_less (h : c.Speaks K) (hheld : ∀ entry ∈ c'.held, entry ∈ c.held)
    (htasks : ∀ task ∈ c'.tasks, task.Speaks K)
    (hmessages : ∀ message ∈ c'.messages, message ∈ c.messages)
    (hjoining : ∀ entry output, c'.stage = .joining entry output →
      output.Answers (K entry.operationId))
    (hattempts : c'.attempts = c.attempts) (hshutdown : c'.shutdown = c.shutdown) :
    c'.Speaks K where
  held entry hentry := h.held entry (hheld entry hentry)
  tasks := htasks
  messages o output hmem := h.messages o output (hmessages _ hmem)
  joining := hjoining
  attempts event hevent := h.attempts event (hattempts ▸ hevent)
  shutdown o ho := h.shutdown o (hshutdown ▸ ho)

theorem Speaks.tryEmit (h : c.Speaks K) {event : UiEvent}
    (hevent : event.Releases (K event.operationId)) : (c.tryEmit event).Speaks K where
  held := h.held
  tasks := h.tasks
  messages := h.messages
  joining := h.joining
  attempts other hother := by
    rcases List.mem_append.1 hother with hmem | hmem
    · exact h.attempts other hmem
    · rw [List.mem_singleton.1 hmem]
      exact hevent
  shutdown := h.shutdown

theorem Speaks.cancelTasks (h : c.Speaks K) (entries : List RegistryEntry) :
    (c.cancelTasks entries).Speaks K where
  held := h.held
  tasks task htask := by
    obtain ⟨id, hid, rfl⟩ := List.mem_mapIdx.1 htask
    have hspeaks := h.tasks _ (List.getElem_mem hid)
    split
    · exact hspeaks
    · exact hspeaks
  messages := h.messages
  joining := h.joining
  attempts := h.attempts
  shutdown := h.shutdown

theorem Speaks.setTask (h : c.Speaks K) (id : TaskId) {task : SpawnedTask}
    (htask : task.Speaks K) : (c.setTask id task).Speaks K where
  held := h.held
  tasks other hother := by
    rcases List.mem_or_eq_of_mem_set hother with hmem | rfl
    · exact h.tasks other hmem
    · exact htask
  messages := h.messages
  joining := h.joining
  attempts := h.attempts
  shutdown := h.shutdown

/-- What stands in the registry after an insertion. -/
theorem mem_values_insert {registry : TaskRegistry} {o : OperationId}
    {entry found : RegistryEntry}
    (h : found ∈ TaskRegistry.values { registry with entries := registry.entries.insert o entry }) :
    found = entry ∨ found ∈ registry.values := by
  obtain ⟨other, hlookup⟩ := TaskRegistry.mem_values.1 h
  by_cases hother : other = o
  · subst hother
    rw [AList.lookup_insert] at hlookup
    exact .inl (Option.some.inj hlookup).symm
  · rw [AList.lookup_insert_ne hother] at hlookup
    exact .inr (TaskRegistry.mem_values.2 ⟨other, hlookup⟩)

/-- An entry and its task come in for an operation whose key they speak for. -/
theorem Speaks.insert (h : c.Speaks K) {entry : RegistryEntry} {task : SpawnedTask}
    (hentry : entry.failure.ownKey = K entry.operationId) (htask : task.Speaks K)
    (terminals : List OperationId) :
    Speaks K { c with
      registry := { c.registry with
        entries := c.registry.entries.insert entry.operationId entry }
      terminals
      tasks := c.tasks ++ [task] } where
  held found hfound := by
    rcases List.mem_append.1 hfound with hmem | hmem
    · exact h.held found (List.mem_append_left _ hmem)
    · rcases mem_values_insert hmem with rfl | hmem
      · exact hentry
      · exact h.held found (List.mem_append_right _ hmem)
  tasks other hother := by
    rcases List.mem_append.1 hother with hmem | hmem
    · exact h.tasks other hmem
    · rw [List.mem_singleton.1 hmem]
      exact htask
  messages := h.messages
  joining := h.joining
  attempts := h.attempts
  shutdown := h.shutdown

theorem Speaks.enter (h : c.Speaks K) {entry : RegistryEntry} {work : TaskWork}
    (hentry : entry.failure.ownKey = K entry.operationId)
    (htask : SpawnedTask.Speaks K { operationId := entry.operationId, work }) :
    (c.enter entry work).Speaks K :=
  h.insert hentry htask _

/-! ## Commands -/

/-- The operation of the command has the key of the command. -/
def Keyed (K : OperationId → Option ControlKey) (command : UiCommand) : Prop :=
  K command.operationId = command.ownKey

theorem Speaks.startWork (h : c.Speaks K) {command : UiCommand} {scope : TaskScope}
    {taskClass : TaskClass} {failure : FailureContext} {busy : UiEvent} {permits : Bool}
    (hnone : K command.operationId = none) (hkeyed : Keyed K command)
    (hfailure : failure.ownKey = none) (hbusy : busy.operationId = command.operationId) :
    (c.startWork command scope taskClass failure busy permits).Speaks K := by
  have hrefused : (c.tryEmit busy).Speaks K :=
    h.tryEmit (by rw [hbusy, hnone]; exact UiEvent.releases_none busy)
  simp only [Controller.startWork]
  split
  · exact hrefused
  · rename_i reserved hreserve
    split
    · rw [commitReservation_eq hreserve rfl]
      exact h.enter (hfailure.trans hnone.symm) hkeyed.symm
    · rw [TaskRegistry.release_of_reserve hreserve]
      exact hrefused

theorem Speaks.startProfileControl (h : c.Speaks K) {command : UiCommand}
    {identity : RequestIdentity} {kind : OperationKind} (hkeyed : Keyed K command)
    (hoperation : command.operationId = identity.operationId)
    (hkind : command.ownKey =
      FailureContext.ownKey (.profile identity.profileId identity.profileGeneration kind))
    (around : Surroundings) : (c.startProfileControl command identity kind around).Speaks K := by
  have hkey : K identity.operationId =
      FailureContext.ownKey (.profile identity.profileId identity.profileGeneration kind) := by
    rw [← hoperation, ← hkind]
    exact hkeyed
  have hbusy : UiEvent.Releases
      (failedProfileEventWithCode identity around.session kind .resourceBusy .none)
      (K identity.operationId) := by
    rw [hkey]
    exact releases_failedProfile identity around.session kind .resourceBusy .none
  simp only [Controller.startProfileControl]
  split
  · exact h.tryEmit hbusy
  · rename_i reserved hreserve
    split
    · simp only [Controller.cancelTasks, TaskRegistry.release_of_reserve hreserve]
      exact (h.cancelTasks _).tryEmit hbusy
    · rw [commitReservation_eq hreserve rfl]
      have hcancelled := h.cancelTasks (reserved.values.filter
        (·.isNetworkOf identity.profileId identity.profileGeneration))
      refine Speaks.enter (c := { c.cancelTasks _ with registry := c.registry }) hcancelled
        hkey.symm ?_
      have hspeaks : command.ownKey = K identity.operationId := by rw [hkind, hkey]
      exact hspeaks

theorem mutationScope_ownKey {command : UiCommand} {scope : TaskScope} {failure : FailureContext}
    (h : mutationScope command = some (scope, failure)) :
    failure.ownKey = none ∧ command.ownKey = none := by
  cases command <;> cases h <;> exact ⟨rfl, rfl⟩

theorem Speaks.startMutation (h : c.Speaks K) {command : UiCommand} (hkeyed : Keyed K command)
    (hscope : (mutationScope command).isSome) (around : Surroundings) :
    (c.startMutation command around).1.Speaks K := by
  obtain ⟨⟨scope, failure⟩, hsome⟩ := Option.isSome_iff_exists.1 hscope
  obtain ⟨hfailure, hcommand⟩ := mutationScope_ownKey hsome
  have hnone : K command.operationId = none := hkeyed.trans hcommand
  have hrefused : ∀ event : UiEvent, event.operationId = command.operationId →
      (c.tryEmit event).Speaks K := by
    intro event hevent
    exact h.tryEmit (by rw [hevent, hnone]; exact UiEvent.releases_none event)
  simp only [Controller.startMutation, hsome]
  split
  · exact hrefused _ rfl
  · split
    · exact hrefused _ (failureForUnavailable_operationId ..)
    · rename_i reserved hreserve
      rw [commitReservation_eq hreserve rfl]
      exact h.enter (hfailure.trans hnone.symm) hkeyed.symm

theorem Speaks.withTaken (h : c.Speaks K) (taken : List OperationId) (mutationActive : Bool) :
    Speaks K { c with taken, mutationActive } :=
  ⟨h.held, h.tasks, h.messages, h.joining, h.attempts, h.shutdown⟩

theorem Speaks.close (h : c.Speaks K) {o : OperationId} (hnone : K o = none)
    (taken : List OperationId) :
    Speaks K { c.cancelTasks c.registry.values with shutdown := some o, taken } := by
  have hcancelled := h.cancelTasks c.registry.values
  refine ⟨hcancelled.held, hcancelled.tasks, hcancelled.messages, hcancelled.joining,
    hcancelled.attempts, ?_⟩
  rintro _ ⟨rfl⟩
  exact hnone

/-- A command speaks for its key where it is not a control that is refused. -/
structure Taken (K : OperationId → Option ControlKey) (command : UiCommand)
    (around : Surroundings) : Prop where
  keyed : Keyed K command
  certain : around.configUncertain → command.ownKey = none

theorem Speaks.unlessUncertain (h : c.Speaks K) {command : UiCommand} {around : Surroundings}
    (htaken : Taken K command around) {handled : Controller} (hhandled : handled.Speaks K) :
    (c.unlessUncertain command around handled).Speaks K := by
  unfold Controller.unlessUncertain
  split
  · rename_i huncertain
    have hnone : K command.operationId = none := htaken.keyed.trans (htaken.certain huncertain)
    have hrefusal : UiEvent.Releases (.configUncertain command.operationId)
        (K command.operationId) := by
      rw [hnone]
      exact UiEvent.releases_none _
    exact h.tryEmit hrefusal
  · exact hhandled

theorem Speaks.startProfileWork (h : c.Speaks K) {command : UiCommand} {identity : RequestIdentity}
    {kind : OperationKind} (hkeyed : Keyed K command) (hnone : command.ownKey = none)
    (hoperation : identity.operationId = command.operationId)
    (hkind : FailureContext.ownKey
      (.profile identity.profileId identity.profileGeneration kind) = none)
    (around : Surroundings) : (c.startProfileWork command identity kind around).Speaks K := by
  have hkey : K command.operationId = none := hkeyed.trans hnone
  simp only [Controller.startProfileWork]
  split
  · have hbusy : UiEvent.Releases
        (failedProfileEventWithCode identity none kind .resourceBusy .none)
        (K identity.operationId) := by
      rw [hoperation, hkey]
      exact UiEvent.releases_none _
    exact h.tryEmit hbusy
  · exact h.startWork hkey hkeyed hkind hoperation

theorem Speaks.takeCommand (h : c.Speaks K) {command : UiCommand} {around : Surroundings}
    (htakes : (∀ o, command ≠ .cancelOperation o) → Taken K command around)
    (hproper : around.Proper) : (c.takeCommand command around).Speaks K := by
  cases command with
  | cancelOperation o =>
    simp only [Controller.takeCommand, handle, cancelOperation]
    split
    · exact h.cancelTasks _
    · exact h
  | exportResult o resultId =>
    have hkeyed := (htakes (by simp)).keyed
    refine Speaks.withTaken ?_ _ _
    simp only [handle, Controller.startExportWork]
    split
    · have hnone : K o = none := hkeyed
      have hbusy : UiEvent.Releases
          (resultExportFailedEvent o resultId .resourceBusy .none false) (K o) := by
        rw [hnone]
        exact UiEvent.releases_none _
      exact h.tryEmit hbusy
    · exact h.startWork hkeyed hkeyed rfl rfl
  | prepareDraftConnectionTest o draftId =>
    have htake := htakes (by simp)
    refine Speaks.withTaken (h.unlessUncertain htake ?_) _ _
    exact h.startWork htake.keyed htake.keyed rfl (draftFailedEvent_operationId ..)
  | testConnection identity timeoutMs =>
    have htake := htakes (by simp)
    exact (h.unlessUncertain htake (h.startProfileWork htake.keyed rfl rfl rfl around)).withTaken _ _
  | execute identity language text rowLimit timeoutMs =>
    have htake := htakes (by simp)
    refine (h.unlessUncertain htake (h.startProfileWork htake.keyed rfl rfl ?_ around)).withTaken _ _
    rcases hproper with hread | hmutation
    · rw [hread]
      rfl
    · rw [hmutation]
      rfl
  | browseCatalog request =>
    have htake := htakes (by simp)
    exact (h.unlessUncertain htake (h.startProfileWork htake.keyed rfl rfl rfl around)).withTaken _ _
  | scanRedisKeys request =>
    have htake := htakes (by simp)
    exact (h.unlessUncertain htake (h.startProfileWork htake.keyed rfl rfl rfl around)).withTaken _ _
  | inspectRedisKey request =>
    have htake := htakes (by simp)
    exact (h.unlessUncertain htake (h.startProfileWork htake.keyed rfl rfl rfl around)).withTaken _ _
  | disconnectProfile identity =>
    have htake := htakes (by simp)
    exact (h.unlessUncertain htake
      (h.startProfileControl htake.keyed rfl rfl around)).withTaken _ _
  | reconnectProfile identity timeoutMs =>
    have htake := htakes (by simp)
    refine (h.unlessUncertain htake ?_).withTaken _ _
    split
    · rename_i summary code _
      have hkey : K identity.operationId = FailureContext.ownKey
          (.profile identity.profileId identity.profileGeneration .reconnectProfile) := htake.keyed
      have hfailed : UiEvent.Releases
          (failedProfileEventWithCode identity none .reconnectProfile summary code)
          (K identity.operationId) := by
        rw [hkey]
        exact releases_failedProfile identity none .reconnectProfile summary code
      exact h.tryEmit hfailed
    · exact h.startProfileControl htake.keyed rfl rfl around
  | shutdownRuntime o => exact h.close (htakes (by simp)).keyed _
  | refreshProfiles o => exact (h.startMutation (htakes (by simp)).keyed rfl around).withTaken _ _
  | createProfile request => exact (h.startMutation (htakes (by simp)).keyed rfl around).withTaken _ _
  | updateProfile request => exact (h.startMutation (htakes (by simp)).keyed rfl around).withTaken _ _
  | deleteProfile request => exact (h.startMutation (htakes (by simp)).keyed rfl around).withTaken _ _
  | storeCredentials identity sourceOperation secret =>
    exact (h.startMutation (htakes (by simp)).keyed rfl around).withTaken _ _

/-! ## Entries in the hands of the controller -/

variable {entry : RegistryEntry}

theorem Speaks.cancelTerminal (h : c.Speaks K) (terminal : Terminal) :
    (c.cancelTerminal terminal).Speaks K :=
  ⟨h.held, h.tasks, h.messages, h.joining, h.attempts, h.shutdown⟩

theorem Speaks.endMutation (h : c.Speaks K) (entry : RegistryEntry) :
    (c.endMutation entry).Speaks K :=
  ⟨h.held, h.tasks, h.messages, h.joining, h.attempts, h.shutdown⟩

theorem Speaks.emitInternalFailure (h : c.Speaks K)
    (hentry : entry.failure.ownKey = K entry.operationId) :
    (c.emitInternalFailure entry.operationId entry.failure).Speaks K := by
  refine h.tryEmit ?_
  rw [internalFailureEvent_operationId, ← hentry]
  exact releases_internalFailure entry.operationId entry.failure

theorem Speaks.settleFailure (h : c.Speaks K)
    (hentry : entry.failure.ownKey = K entry.operationId) (report : Bool) :
    (c.settleFailure entry report).Speaks K := by
  have hgive : (((if report then c.emitInternalFailure entry.operationId entry.failure else c) :
      Controller).cancelTerminal entry.terminal).Speaks K := by
    split
    · exact (h.emitInternalFailure hentry).cancelTerminal _
    · exact h.cancelTerminal _
  simp only [Controller.settleFailure]
  split
  · exact hgive
  · cases hreserve : c.registry.reserve entry.operationId with
    | none =>
      simp only [startRegisteredFailureCleanup, hreserve]
      exact hgive
    | some reserved =>
      rw [startRegisteredFailureCleanup_eq hreserve]
      have hcleanup : (c.cleanupEntry entry).failure.ownKey =
          K (c.cleanupEntry entry).operationId := hentry
      have htask : SpawnedTask.Speaks K
          { operationId := entry.operationId, work := .cleanup entry.scope entry.failure } := hentry
      exact h.insert hcleanup htask c.terminals

theorem Speaks.finishJoined (h : c.Speaks K) {output : TaskOutput}
    (hentry : entry.failure.ownKey = K entry.operationId)
    (hanswers : output.Answers (K entry.operationId)) {event : UiEvent}
    (hoperation : event.operationId = entry.operationId)
    (hevent : output.finishedBy false event ∨ entry.taskClass = .mutation ∧ !output.isEvent)
    (configUncertain : Bool) : (c.finishJoined entry output configUncertain event).Speaks K := by
  simp only [Controller.finishJoined]
  split
  · rename_i hmutation
    have hnone : K entry.operationId = none := by
      cases output with
      | event reported => cases hmutation.2
      | _ => exact hanswers
    cases hreserve : c.registry.reserve entry.operationId with
    | none =>
      simp only [startRegisteredMutationCompletion, hreserve]
      exact ((h.cancelTerminal entry.terminal).endMutation entry).emitInternalFailure hentry
    | some reserved =>
      obtain ⟨entries, waiters, hadActive, heq⟩ :=
        startRegisteredMutationCompletion_eq output hreserve configUncertain
      rw [heq]
      have hnew : ((c.cancelTasks entries).newEntry entry.operationId entry.scope .mutation
          entry.failure).failure.ownKey = K entry.operationId := hentry
      have htask : SpawnedTask.Speaks K
          { operationId := entry.operationId
            work := .completion output waiters hadActive } := hnone
      have hentered := (h.cancelTasks entries).enter hnew htask
      have hcancelled := hentered.cancelTerminal entry.terminal
      exact ⟨hcancelled.held, hcancelled.tasks, hcancelled.messages, hcancelled.joining,
        hcancelled.attempts, hcancelled.shutdown⟩
  · rename_i hmutation
    have hfinished := hevent.resolve_right hmutation
    refine ((h.endMutation entry).tryEmit ?_).cancelTerminal entry.terminal
    rw [hoperation]
    cases output with
    | event own =>
      have heq : event = own := by simpa [TaskOutput.finishedBy] using hfinished
      rw [heq]
      exact hanswers
    | _ =>
      have hnone : K entry.operationId = none := hanswers
      rw [hnone]
      exact UiEvent.releases_none event

theorem Speaks.abortTask (h : c.Speaks K) (id : TaskId) : (c.abortTask id).Speaks K := by
  rcases c.taskStep_cases id fun task => c.setTask id { task with status := .failed } with
    heq | ⟨task, htask, -, heq⟩
  · rw [Controller.abortTask, heq]
    exact h
  · rw [Controller.abortTask, heq]
    exact h.setTask id (h.tasks task htask)

theorem Speaks.advance (h : c.Speaks K) (horderly : c.Orderly) (configUncertain : Bool)
    (event : UiEvent) : (c.advance configUncertain event).Speaks K := by
  have hstaged : ∀ stage : Stage, (∀ entry ∈ stage.inHand, entry ∈ c.held) →
      (∀ entry output, stage ≠ .joining entry output) → Speaks K { c with stage } := by
    intro stage hinHand hjoining
    refine h.of_less ?_ h.tasks (fun _ hmem => hmem) ?_ rfl rfl
    · intro entry hentry
      rcases List.mem_append.1 hentry with hmem | hmem
      · exact hinHand entry hmem
      · exact List.mem_append_right _ hmem
    · intro entry output heq
      exact absurd heq (hjoining entry output)
  have hidle : Speaks K { c with stage := .idle } :=
    hstaged .idle (fun _ hmem => absurd hmem List.not_mem_nil) fun _ _ => by simp
  unfold Controller.advance
  split
  · exact h
  · rename_i entry output hstage
    have hentry := h.held entry (List.mem_append_left _ (by simp [hstage, Stage.inHand]))
    split
    · exact h
    · exact (hidle.endMutation entry).settleFailure hentry true
    · split
      · rename_i hfinished
        have houtput := horderly.joining entry output hstage
        by_cases hmutation : entry.taskClass = .mutation ∧ !output.isEvent
        · -- The event is not looked at where the mutation goes on to its completion.
          have hsame : ∀ event', ({ c with stage := .idle } : Controller).finishJoined entry output
              configUncertain event = ({ c with stage := .idle } : Controller).finishJoined entry
                output configUncertain event' := by
            intro event'
            simp only [Controller.finishJoined, if_pos hmutation]
          rw [hsame (.configUncertain entry.operationId)]
          exact hidle.finishJoined hentry (h.joining entry output hstage) rfl (.inr hmutation)
            configUncertain
        · have hoperation := TaskOutput.finishedBy_operationId (hfinished.resolve_right hmutation)
          exact hidle.finishJoined hentry (h.joining entry output hstage)
            (hoperation.trans houtput) hfinished configUncertain
      · exact h
  · exact hidle
  · exact hidle
  · rename_i entry rest hstage
    have hentry := h.held entry (List.mem_append_left _ (by simp [hstage, Stage.inHand]))
    have hrest := hstaged (.reaping rest)
      (fun other (hother : other ∈ rest) =>
        List.mem_append_left _ (by simp [hstage, Stage.inHand, hother]))
      fun _ _ => by simp
    exact (hrest.endMutation entry).settleFailure hentry _
  · rename_i entry rest hstage
    have hentry := h.held entry (List.mem_append_left _ (by simp [hstage, Stage.inHand]))
    have hrest := hstaged (.aborting rest)
      (fun other (hother : other ∈ rest) =>
        List.mem_append_left _ (by simp [hstage, Stage.inHand, hother]))
      fun _ _ => by simp
    exact (hrest.abortTask entry.join).settleFailure hentry true

/-! ## Messages, reaping and the deadline -/

theorem Speaks.receive (h : c.Speaks K) (horderly : c.Orderly) (hidle : c.idle) :
    c.receive.Speaks K := by
  obtain ⟨-, hheld⟩ := held_of_idle hidle
  unfold Controller.receive
  split
  · exact h
  · rename_i o sessionGeneration rest hmessages
    have hrest : ∀ message ∈ rest, message ∈ c.messages := by
      intro message hmem
      simp [hmessages, hmem]
    refine ⟨?_, h.tasks, fun other output hmem => h.messages other output (hrest _ hmem),
      h.joining, h.attempts, h.shutdown⟩
    intro found hfound
    rcases List.mem_append.1 hfound with hmem | hmem
    · exact h.held found (List.mem_append_left _ hmem)
    · rcases c.registry.updateSession_cases o sessionGeneration with
        hsame | ⟨entry, profileId, profileGeneration, session, hlookup, -, hupdated⟩
      · rw [hsame] at hmem
        exact h.held found (List.mem_append_right _ hmem)
      · rw [hupdated] at hmem
        rcases mem_values_insert hmem with rfl | hother
        · exact h.held entry (List.mem_append_right _ (TaskRegistry.mem_values.2 ⟨o, hlookup⟩))
        · exact h.held found (List.mem_append_right _ hother)
  · rename_i o output rest hmessages
    have hrest : ∀ message ∈ rest, message ∈ c.messages := by
      intro message hmem
      simp [hmessages, hmem]
    unfold TaskRegistry.take
    cases hlookup : c.registry.entries.lookup o with
    | none => exact h.of_less (fun _ hmem => hmem) h.tasks hrest h.joining rfl rfl
    | some entry =>
      have hvalues := TaskRegistry.values_perm_erase hlookup
      refine h.of_less ?_ h.tasks hrest ?_ rfl rfl
      · intro found hfound
        have hmem : found ∈ c.registry.values := hvalues.mem_iff.2 hfound
        rw [hheld]
        exact hmem
      · rintro taken sent ⟨rfl, rfl⟩
        have hanswers := h.messages o output (by simp [hmessages])
        rwa [horderly.keyed o entry hlookup]

theorem Speaks.takeWhere (h : c.Speaks K) (horderly : c.Orderly) (hidle : c.idle)
    {test : RegistryEntry → Bool} {stage : Stage}
    (hstage : stage.inHand = (c.registry.takeWhere test).1)
    (hjoining : ∀ entry output, stage ≠ .joining entry output) :
    Speaks K { c with registry := (c.registry.takeWhere test).2, stage } := by
  obtain ⟨-, hheld⟩ := held_of_idle hidle
  obtain ⟨hvalues, -⟩ := TaskRegistry.takeWhere_values horderly.keyed test
  refine h.of_less ?_ h.tasks (fun _ hmem => hmem) ?_ rfl rfl
  · intro entry hentry
    have hmem : entry ∈ stage.inHand ++ (c.registry.takeWhere test).2.values := hentry
    rw [hstage] at hmem
    rw [hheld]
    exact hvalues.mem_iff.2 hmem
  · intro entry output heq
    exact absurd heq (hjoining entry output)

/-! ## Tasks -/

/-- The output refuses its operation. A control does not end with such an output. -/
def refuses : TaskOutput → Bool
  | .event (.configUncertain _) => true
  | _ => false

theorem answers_of_maySend {task : SpawnedTask} {output : TaskOutput} (htask : task.Speaks K)
    (hlabel : task.Labelled) (hrefuses : ∀ command targets, task.work = .command command targets →
      command.ownKey ≠ none → refuses output = false)
    (h : c.maySend task output) : output.Answers (K task.operationId) := by
  unfold maySend at h
  unfold SpawnedTask.Speaks at htask
  unfold SpawnedTask.Labelled at hlabel
  split at h <;> rename_i hwork <;> rw [hwork] at htask hlabel
  · rename_i command targets
    rw [Bool.and_eq_true] at h
    have hkey : command.ownKey = K task.operationId := htask
    rw [← hkey]
    have hrefused := hrefuses command targets hwork
    cases command with
    | disconnectProfile identity =>
      cases output with
      | event event =>
        refine releases_of_endedBy h.1 ?_
        cases event <;> simp_all [UiEvent.isRefusalOf, refuses, UiCommand.ownKey]
      | _ => cases h.1
    | reconnectProfile identity timeoutMs =>
      cases output with
      | event event =>
        refine releases_of_endedBy h.1 ?_
        cases event <;> simp_all [UiEvent.isRefusalOf, refuses, UiCommand.ownKey]
      | _ => cases h.1
    | _ =>
      cases output with
      | event event => exact UiEvent.releases_none event
      | _ => rfl
  · have hnone : K task.operationId = none := htask
    rw [hnone]
    cases output with
    | event event => exact UiEvent.releases_none event
    | _ => rfl
  · rename_i scope failure
    rw [Bool.and_eq_true] at h
    cases output with
    | event event =>
      have hkey : failure.ownKey = K task.operationId := htask
      have hevent := eq_of_beq h.2
      have hreleases := releases_internalFailure task.operationId failure
      rw [← hkey, hevent]
      exact hreleases
    | _ => cases h.2

theorem Speaks.acquire (h : c.Speaks K) (task : SpawnedTask)
    (sessionGeneration : SessionGeneration) : (c.acquire task sessionGeneration).Speaks K := by
  unfold Controller.acquire
  split
  · refine ⟨h.held, h.tasks, ?_, h.joining, h.attempts, h.shutdown⟩
    intro o output hmem
    exact h.messages o output (by simpa using hmem)
  · exact h

theorem Speaks.evict (h : c.Speaks K) {id : TaskId} {task : SpawnedTask} (htask : task.Speaks K)
    (cached : Option CachedSession) : (c.evict id task cached).Speaks K := by
  unfold Controller.evict
  split
  · split
    · exact h
    · have hset : (c.setTask id { task with cleaned := true }).Speaks K := h.setTask id htask
      exact ⟨hset.held, hset.tasks, hset.messages, hset.joining, hset.attempts, hset.shutdown⟩
  · exact h

theorem Speaks.complete (h : c.Speaks K) {id : TaskId} {task : SpawnedTask}
    (htask : task.Speaks K) (hlabel : task.Labelled) {output : TaskOutput}
    (hrefuses : ∀ command targets, task.work = .command command targets →
      command.ownKey ≠ none → refuses output = false) :
    (c.complete id task output).Speaks K := by
  unfold Controller.complete
  split
  · rename_i hsend
    have hset : (c.setTask id { task with completionSent := true }).Speaks K :=
      h.setTask id htask
    refine ⟨hset.held, hset.tasks, ?_, hset.joining, hset.attempts, hset.shutdown⟩
    intro o sent hmem
    rcases List.mem_append.1 hmem with hold | hnew
    · exact h.messages o sent hold
    · cases List.mem_singleton.1 hnew
      exact answers_of_maySend htask hlabel hrefuses hsend
  · exact h

theorem Speaks.finish (h : c.Speaks K) {id : TaskId} {task : SpawnedTask} (htask : task.Speaks K)
    (panicked : Bool) : (c.finish id task panicked).Speaks K := by
  unfold Controller.finish
  split
  · exact h.setTask id htask
  · split
    · exact h.setTask id htask
    · exact h

/-! ## Steps -/

/-- What a step brings in speaks for the keys of its operations. -/
def Fits (K : OperationId → Option ControlKey) (c : Controller) : Action → Prop
  | .command command around =>
    around.Proper ∧ ((∀ o, command ≠ .cancelOperation o) → Taken K command around)
  | .portClosed => K 0 = none
  | .complete id output =>
    ∀ task ∈ c.tasks[id]?, ∀ command targets, task.work = .command command targets →
      command.ownKey ≠ none → refuses output = false
  | _ => True

theorem Speaks.step (h : c.Speaks K) (horderly : c.Orderly) {action : Action}
    (hfits : c.Fits K action) : (c.step action).Speaks K := by
  have htask : ∀ id (act : SpawnedTask → Controller),
      (∀ task, c.tasks[id]? = some task → task.Speaks K → task.Labelled → (act task).Speaks K) →
        (c.taskStep id act).Speaks K := by
    intro id act hact
    unfold taskStep
    split
    · rename_i task hfound
      have hmem := List.mem_of_getElem? hfound
      split
      · exact hact task hfound (h.tasks task hmem) (horderly.tasks task hmem)
      · exact h
    · exact h
  cases action with
  | command command around =>
    simp only [Controller.step]
    split
    · exact h.takeCommand hfits.2 hfits.1
    · exact h
  | portClosed =>
    simp only [Controller.step]
    split
    · exact h.close hfits _
    · exact h
  | receive =>
    simp only [Controller.step]
    split
    · exact h.receive horderly ‹_›
    · exact h
  | reap =>
    simp only [Controller.step]
    split
    · exact h.takeWhere horderly ‹_› rfl fun _ _ => by simp
    · exact h
  | deadline =>
    simp only [Controller.step]
    split
    · rename_i hdeadline
      rw [Bool.and_eq_true, Bool.and_eq_true] at hdeadline
      exact h.takeWhere horderly hdeadline.1.1 rfl fun _ _ => by simp
    · exact h
  | advance configUncertain event => exact h.advance horderly configUncertain event
  | stop =>
    simp only [Controller.step]
    split
    · rename_i o hshutdown
      split
      · have hemitted : (c.tryEmit (.runtimeShutdown o)).Speaks K := by
          refine h.tryEmit ?_
          have hnone : K (UiEvent.operationId (.runtimeShutdown o)) = none :=
            h.shutdown o hshutdown
          rw [hnone]
          exact UiEvent.releases_none _
        exact ⟨hemitted.held, hemitted.tasks, hemitted.messages, hemitted.joining,
          hemitted.attempts, hemitted.shutdown⟩
      · exact h
    · exact h
  | acquire id sessionGeneration =>
    refine htask id _ fun task _ _ _ => ?_
    split
    · exact h
    · exact h.acquire task sessionGeneration
  | evict id cached => exact htask id _ fun task _ hspeaks _ => h.evict hspeaks cached
  | complete id output =>
    refine htask id _ fun task hfound hspeaks hlabel => ?_
    split
    · exact h
    · exact h.complete hspeaks hlabel (hfits task hfound)
  | finish id panicked => exact htask id _ fun task _ hspeaks _ => h.finish hspeaks panicked

end Controller
end Dbotter.Ui
