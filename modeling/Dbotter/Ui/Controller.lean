import Dbotter.Ui.TaskRegistry

/-!
The controller of the runtime: how it takes commands, how it answers, reaps and aborts the tasks
that it has spawned for them, and what those tasks do meanwhile.
-/

namespace Dbotter.Ui
open Dbotter.Utf8 Dbotter.Configuration Dbotter.Service Dbotter.Drivers

/-! ## The state -/

/-- What the controller asks of its surroundings while it takes a command: the service's flag,
the permits, the kind of an execution, the session that a profile has in the cache, and the
error with which the service refuses a generation. -/
structure Surroundings where
  configUncertain : Bool := false
  permits : Bool := true
  executeKind : OperationKind := .executeRead
  session : Option SessionGeneration := none
  refused : Option (PublicSummary × PublicCode) := none

/-- Where `run_controller` stands: between two turns of its loop, or inside one of them with
entries that it has taken out of the registry and not settled yet. -/
inductive Stage
  | idle
  | joining (entry : RegistryEntry) (output : TaskOutput)
  | reaping (reaped : List RegistryEntry)
  | aborting (entries : List RegistryEntry)

/-- A session that a failure cleanup took out of the cache. -/
structure Eviction where
  operationId : OperationId
  profileId : ProfileId
  identity : CachedSessionIdentity

/-- The controller with its tasks and the queue between them. `terminals` holds the operation
of each terminal token, `moved` the tokens of the mutations that went on to their completion,
`taken` the operations of the commands that it took off the port, and `attempts` the events
that it gave to `try_emit`. -/
structure Controller where
  registry : TaskRegistry := {}
  messages : List ControllerMessage := []
  tasks : List SpawnedTask := []
  terminals : List OperationId := []
  cancelled : Finset Terminal := ∅
  moved : Finset Terminal := ∅
  mutationActive : Bool := false
  shutdown : Option OperationId := none
  stopped : Bool := false
  stage : Stage := .idle
  taken : List OperationId := []
  attempts : List UiEvent := []
  evicted : List Eviction := []

namespace Controller

def tryEmit (c : Controller) (event : UiEvent) : Controller :=
  { c with attempts := c.attempts ++ [event] }

def emitInternalFailure (c : Controller) (operationId : OperationId) (failure : FailureContext) :
    Controller :=
  c.tryEmit (internalFailureEvent operationId failure)

def cancelTerminal (c : Controller) (terminal : Terminal) : Controller :=
  { c with cancelled := insert terminal c.cancelled }

/-- The cancellation tokens of these entries' tasks are cancelled. -/
def cancelTasks (c : Controller) (entries : List RegistryEntry) : Controller :=
  { c with
    tasks := c.tasks.mapIdx fun id task =>
      if entries.any (·.join == id) then { task with cancelled := true } else task }

/-- `commit_reservation`: the task is registered under a new terminal token and starts. -/
def commitReservation (c : Controller) (operationId : OperationId) (scope : TaskScope)
    (taskClass : TaskClass) (failure : FailureContext) (work : TaskWork) : Controller × Bool :=
  let entry : RegistryEntry :=
    { operationId, scope, taskClass, failure, join := c.tasks.length,
      terminal := c.terminals.length, cleanupStarted := false }
  match c.registry.commitReservationWithState operationId entry with
  | (registry, true) =>
    ({ c with
      registry
      terminals := c.terminals ++ [operationId]
      tasks := c.tasks ++ [{ operationId, work }] }, true)
  | (registry, false) => ({ c with registry }, false)

/-! ## Commands -/

/-- The common course of the `start_*_work` functions: the operation is reserved, the permits
are asked for, and the task is registered. -/
def startWork (c : Controller) (command : UiCommand) (scope : TaskScope) (taskClass : TaskClass)
    (failure : FailureContext) (busy : UiEvent) (permits : Bool) : Controller :=
  match c.registry.reserve command.operationId with
  | none => c.tryEmit busy
  | some registry =>
    if permits then
      match ({ c with registry }).commitReservation command.operationId scope taskClass failure
        (.command command []) with
      | (c, true) => c
      | (c, false) => c.tryEmit busy
    else
      ({ c with registry := registry.releaseReservation command.operationId }).tryEmit busy

def startExportWork (c : Controller) (command : UiCommand) (resultId : ResultId)
    (around : Surroundings) : Controller :=
  let busy := resultExportFailedEvent command.operationId resultId .resourceBusy .none false
  if c.registry.activeExport resultId then c.tryEmit busy
  else c.startWork command (.exported resultId) .exportFile (.exported resultId) busy around.permits

def startDraftWork (c : Controller) (command : UiCommand) (draftId : DraftId)
    (around : Surroundings) : Controller :=
  c.startWork command (.draft draftId) .asyncNetwork (.draft draftId .testDraftConnection)
    (draftFailedEvent command.operationId draftId .testDraftConnection .resourceBusy .none)
    around.permits

def startProfileWork (c : Controller) (command : UiCommand) (identity : RequestIdentity)
    (kind : OperationKind) (around : Surroundings) : Controller :=
  let busy := failedProfileEventWithCode identity none kind .resourceBusy .none
  if c.registry.hasProfileNetworkForId identity.profileId then c.tryEmit busy
  else
    c.startWork command (.profile identity.profileId identity.profileGeneration none) .asyncNetwork
      (.profile identity.profileId identity.profileGeneration kind) busy around.permits

/-- `start_profile_control`. The tasks of the profile stay registered: each of them still ends
with an event of its own. A reconnection that finds none of them needs its permits at once. -/
def startProfileControl (c : Controller) (command : UiCommand) (identity : RequestIdentity)
    (kind : OperationKind) (around : Surroundings) : Controller :=
  let busy := failedProfileEventWithCode identity around.session kind .resourceBusy .none
  match c.registry.reserve identity.operationId with
  | none => c.tryEmit busy
  | some registry =>
    let targets := registry.values.filter
      (·.isNetworkOf identity.profileId identity.profileGeneration)
    let c := ({ c with registry }).cancelTasks targets
    if kind = .reconnectProfile ∧ targets = [] ∧ !around.permits then
      ({ c with registry := c.registry.releaseReservation identity.operationId }).tryEmit busy
    else
      match c.commitReservation identity.operationId
        (.profile identity.profileId identity.profileGeneration around.session) .asyncNetwork
        (.profile identity.profileId identity.profileGeneration kind)
        (.command command (targets.map (·.terminal))) with
      | (c, true) => c
      | (c, false) => c.tryEmit busy

/-- The scope and the failure under which `start_mutation` registers a command. -/
def mutationScope : UiCommand → Option (TaskScope × FailureContext)
  | .refreshProfiles _ => some (.globalScope, .profiles)
  | .createProfile request =>
    some (.draft request.draftId, .draft request.draftId .createProfile)
  | .updateProfile request =>
    some (.profile request.profileId request.expectedGeneration none,
      .profile request.profileId request.expectedGeneration .updateProfile)
  | .deleteProfile request =>
    some (.profile request.profileId request.expectedGeneration none,
      .profile request.profileId request.expectedGeneration .deleteProfile)
  | .storeCredentials identity _ _ =>
    some (.profile identity.profileId identity.profileGeneration none,
      .profile identity.profileId identity.profileGeneration .updateProfile)
  | _ => none

def isRefresh : UiCommand → Bool
  | .refreshProfiles _ => true
  | _ => false

/-- `start_mutation`, and whether a mutation is active after it. -/
def startMutation (c : Controller) (command : UiCommand) (around : Surroundings) :
    Controller × Bool :=
  if around.configUncertain && !isRefresh command then
    (c.tryEmit (.configUncertain command.operationId), false)
  else
    match c.registry.reserve command.operationId with
    | none => (c.tryEmit (failureForUnavailable command .resourceBusy), false)
    | some registry =>
      match mutationScope command with
      | none =>
        ({ c with registry := registry.releaseReservation command.operationId }, false)
      | some (scope, failure) =>
        ({ c with registry }).commitReservation command.operationId scope .mutation failure
          (.command command [])

/-- `CancelOperation`, whose target stays registered. -/
def cancelOperation (c : Controller) (operationId : OperationId) : Controller :=
  match c.registry.entries.lookup operationId with
  | some entry => c.cancelTasks [entry]
  | none => c

/-- The refusal of everything but exports, cancellations and reloads while the configuration is
uncertain. -/
def unlessUncertain (c : Controller) (command : UiCommand) (around : Surroundings)
    (handled : Controller) : Controller :=
  if around.configUncertain then c.tryEmit (.configUncertain command.operationId) else handled

/-- `handle_work`, `handle_control` and the mutation arm of the loop. A profile's work, and
its control, is refused while the configuration is uncertain; an export is not. -/
def handle (c : Controller) (command : UiCommand) (around : Surroundings) : Controller :=
  match command with
  | .exportResult _ resultId => c.startExportWork command resultId around
  | .prepareDraftConnectionTest _ draftId =>
    c.unlessUncertain command around (c.startDraftWork command draftId around)
  | .testConnection identity _ =>
    c.unlessUncertain command around (c.startProfileWork command identity .connectProfile around)
  | .execute identity _ _ _ _ =>
    c.unlessUncertain command around
      (c.startProfileWork command identity around.executeKind around)
  | .browseCatalog request =>
    c.unlessUncertain command around
      (c.startProfileWork command request.identity .browseMySql around)
  | .scanRedisKeys request =>
    c.unlessUncertain command around
      (c.startProfileWork command request.identity .browseRedis around)
  | .inspectRedisKey request =>
    c.unlessUncertain command around
      (c.startProfileWork command request.identity .inspectRedis around)
  | .cancelOperation operationId => c.cancelOperation operationId
  | .disconnectProfile identity =>
    c.unlessUncertain command around
      (c.startProfileControl command identity .disconnectProfile around)
  | .reconnectProfile identity _ =>
    c.unlessUncertain command around <|
      match around.refused with
      | some (summary, code) =>
        c.tryEmit (failedProfileEventWithCode identity none .reconnectProfile summary code)
      | none => c.startProfileControl command identity .reconnectProfile around
  | .refreshProfiles _ | .createProfile _ | .updateProfile _ | .deleteProfile _
  | .storeCredentials _ _ _ =>
    let (started, active) := c.startMutation command around
    { started with mutationActive := active }
  -- `finish_controller_shutdown` starts by cancelling every task.
  | .shutdownRuntime operationId =>
    { c.cancelTasks c.registry.values with shutdown := some operationId }

/-! ## Messages, reaping and the shutdown deadline -/

/-- `start_registered_failure_cleanup`: the operation is registered once more, with the terminal
token that it had, for a task that evicts the session of the failed one. -/
def startRegisteredFailureCleanup (c : Controller) (entry : RegistryEntry) : Controller × Bool :=
  match c.registry.reserve entry.operationId with
  | none => (c, false)
  | some registry =>
    let cleanup :=
      { entry with join := c.tasks.length, taskClass := .asyncNetwork, cleanupStarted := true }
    match registry.commitReservationWithState entry.operationId cleanup with
    | (registry, true) =>
      ({ c with
        registry
        tasks := c.tasks ++
          [{ operationId := entry.operationId, work := .cleanup entry.scope entry.failure }] },
        true)
    | (registry, false) => ({ c with registry }, false)

/-- The end of an operation whose task failed: a cleanup where there was none yet, else the
report of an internal failure. -/
def settleFailure (c : Controller) (entry : RegistryEntry) (report : Bool) : Controller :=
  let give (c : Controller) : Controller :=
    (if report then c.emitInternalFailure entry.operationId entry.failure else c).cancelTerminal
      entry.terminal
  if entry.cleanupStarted then give c
  else
    match c.startRegisteredFailureCleanup entry with
    | (c, true) => c
    | (c, false) => give c

/-- `mutation_completion_waiters`: the entries whose tasks are cancelled and waited for, and
whether the profile of the mutation had one. -/
def mutationCompletionWaiters (registry : TaskRegistry) (output : TaskOutput)
    (configUncertain : Bool) : List RegistryEntry × Bool :=
  let hadActive :=
    match output with
    | .update _ profileId previousGeneration _ | .delete _ profileId previousGeneration _ =>
      registry.hasProfileNetwork profileId previousGeneration
    | _ => false
  if configUncertain then (registry.values.filter (·.taskClass == .asyncNetwork), hadActive)
  else
    (output.targets.flatMap fun target =>
      registry.values.filter (·.isNetworkOf target.1 target.2), hadActive)

def startRegisteredMutationCompletion (c : Controller) (entry : RegistryEntry)
    (output : TaskOutput) (configUncertain : Bool) : Controller × Bool :=
  match c.registry.reserve entry.operationId with
  | none => (c, false)
  | some registry =>
    let (waiters, hadActive) := mutationCompletionWaiters registry output configUncertain
    (({ c with registry }).cancelTasks waiters).commitReservation entry.operationId entry.scope
      .mutation entry.failure (.completion output (waiters.map RegistryEntry.terminal) hadActive)

/-- A mutation is over where it does not go on to its completion. -/
def endMutation (c : Controller) (entry : RegistryEntry) : Controller :=
  { c with mutationActive := c.mutationActive && entry.taskClass != .mutation }

/-- The second half of `handle_controller_message`, after a task that returned was joined.
`event` is the event with which the service finishes the output. -/
def finishJoined (c : Controller) (entry : RegistryEntry) (output : TaskOutput)
    (configUncertain : Bool) (event : UiEvent) : Controller :=
  if entry.taskClass = .mutation ∧ !output.isEvent then
    match c.startRegisteredMutationCompletion entry output configUncertain with
    | (c, true) =>
      let c := c.cancelTerminal entry.terminal
      { c with moved := insert entry.terminal c.moved }
    | (c, false) =>
      ((c.cancelTerminal entry.terminal).endMutation entry).emitInternalFailure entry.operationId
        entry.failure
  else ((c.endMutation entry).tryEmit event).cancelTerminal entry.terminal

def statusOf (c : Controller) (task : TaskId) : TaskStatus :=
  (c.tasks[task]?).elim TaskStatus.failed SpawnedTask.status

def setTask (c : Controller) (id : TaskId) (task : SpawnedTask) : Controller :=
  { c with tasks := c.tasks.set id task }

/-- A step of a task that is still running. -/
def taskStep (c : Controller) (id : TaskId) (act : SpawnedTask → Controller) : Controller :=
  match c.tasks[id]? with
  | some task => if task.status = .running then act task else c
  | none => c

/-- `task.join.abort()` and the join after it: a task that is still running ends as failed. -/
def abortTask (c : Controller) (id : TaskId) : Controller :=
  c.taskStep id fun task => c.setTask id { task with status := .failed }

/-- One turn of the loop, or of the part of the loop, in which the controller stands. -/
def advance (c : Controller) (configUncertain : Bool) (event : UiEvent) : Controller :=
  match c.stage with
  | .idle => c
  | .joining entry output =>
    match c.statusOf entry.join with
    | .running => c
    | .failed => (({ c with stage := .idle }).endMutation entry).settleFailure entry true
    | .returned =>
      if output.finishedBy false event ∨ entry.taskClass = .mutation ∧ !output.isEvent then
        ({ c with stage := .idle }).finishJoined entry output configUncertain event
      else c
  | .reaping [] | .aborting [] => { c with stage := .idle }
  | .reaping (entry :: rest) =>
    (({ c with stage := .reaping rest }).endMutation entry).settleFailure entry
      (c.statusOf entry.join == TaskStatus.failed || entry.cleanupStarted)
  | .aborting (entry :: rest) =>
    (({ c with stage := .aborting rest }).abortTask entry.join).settleFailure entry true

/-- The next message: `handle_controller_message` up to the join of the task. -/
def receive (c : Controller) : Controller :=
  match c.messages with
  | [] => c
  | .sessionAcquired operationId sessionGeneration :: rest =>
    { c with
      messages := rest
      registry := c.registry.updateSession operationId sessionGeneration }
  | .completed operationId output :: rest =>
    match c.registry.take operationId with
    | none => { c with messages := rest }
    | some (entry, registry) => { c with messages := rest, registry, stage := .joining entry output }

/-- `reap_finished`: the tasks that ended without their message. -/
def reap (c : Controller) : Controller :=
  let (reaped, registry) := c.registry.takeWhere fun entry =>
    c.statusOf entry.join != .running && !(c.tasks[entry.join]?).any (·.completionSent)
  { c with registry, stage := .reaping reaped }

def abortAll (c : Controller) : Controller :=
  let (entries, registry) := c.registry.takeAllBoundedShutdownEntries
  { c with registry, stage := .aborting entries }

/-! ## Steps -/

inductive Action
  | command (command : UiCommand) (around : Surroundings)
  | portClosed
  | receive
  | reap
  | deadline
  | advance (configUncertain : Bool) (event : UiEvent)
  | stop
  | acquire (task : TaskId) (sessionGeneration : SessionGeneration)
  | evict (task : TaskId) (cached : Option CachedSession)
  | complete (task : TaskId) (output : TaskOutput)
  | finish (task : TaskId) (panicked : Bool)

def idle (c : Controller) : Bool :=
  match c.stage with
  | .idle => !c.stopped
  | _ => false

/-- The mutation lane is read only while no mutation is active, and no lane after a shutdown. -/
def takes (c : Controller) (command : UiCommand) : Bool :=
  c.idle && c.shutdown.isNone && (command.lane != .mutation || !c.mutationActive)

def takeCommand (c : Controller) (command : UiCommand) (around : Surroundings) : Controller :=
  let handled := c.handle command around
  match command with
  | .cancelOperation _ => handled
  | _ => { handled with taken := c.taken ++ [command.operationId] }

/-- What a running task may send as its output. A control waits for the terminal tokens of its
targets, also when it is cancelled, and the completion of a mutation for those of its waiters. -/
def maySend (c : Controller) (task : SpawnedTask) (output : TaskOutput) : Bool :=
  match task.work with
  | .command command targets =>
    command.mayOutput output && targets.all (· ∈ c.cancelled)
  | .completion finished waiters hadActive =>
    waiters.all (· ∈ c.cancelled) &&
      match output with
      | .event event => finished.finishedBy hadActive event
      | _ => false
  | .cleanup _ failure =>
    task.cleaned &&
      match output with
      | .event event => event == internalFailureEvent task.operationId failure
      | _ => false

/-- `cleanup_failed_scope`: what it takes out of the cache, where `cached` is the session that
the cache holds for the profile. -/
def cleanupFailedScope (operationId : OperationId) (scope : TaskScope)
    (cached : Option CachedSession) : List Eviction :=
  match scope, cached with
  | .profile profileId profileGeneration (some sessionGeneration), some cached =>
    if cached.isExactly profileGeneration sessionGeneration then
      [⟨operationId, profileId, cached.identity⟩]
    else []
  | _, _ => []

def acquire (c : Controller) (task : SpawnedTask) (sessionGeneration : SessionGeneration) :
    Controller :=
  match task.work with
  | .command _ _ =>
    { c with messages := c.messages ++ [.sessionAcquired task.operationId sessionGeneration] }
  | _ => c

def evict (c : Controller) (id : TaskId) (task : SpawnedTask) (cached : Option CachedSession) :
    Controller :=
  match task.work with
  | .cleanup scope _ =>
    if task.cleaned then c
    else
      { c.setTask id { task with cleaned := true } with
        evicted := c.evicted ++ cleanupFailedScope task.operationId scope cached }
  | _ => c

def complete (c : Controller) (id : TaskId) (task : SpawnedTask) (output : TaskOutput) :
    Controller :=
  if c.maySend task output then
    { c.setTask id { task with completionSent := true } with
      messages := c.messages ++ [.completed task.operationId output] }
  else c

/-- A task returns after its message, and may panic at any time. -/
def finish (c : Controller) (id : TaskId) (task : SpawnedTask) (panicked : Bool) : Controller :=
  if panicked then c.setTask id { task with status := .failed }
  else if task.completionSent then c.setTask id { task with status := .returned }
  else c

def step (c : Controller) : Action → Controller
  | .command command around => if c.takes command then c.takeCommand command around else c
  | .portClosed =>
    if c.idle && c.shutdown.isNone then
      { c.cancelTasks c.registry.values with shutdown := some 0, taken := c.taken ++ [0] }
    else c
  | .receive => if c.idle then c.receive else c
  | .reap => if c.idle then c.reap else c
  | .deadline =>
    if c.idle && c.shutdown.isSome && c.registry.hasBoundedShutdownWork then c.abortAll else c
  | .advance configUncertain event => c.advance configUncertain event
  | .stop =>
    match c.shutdown with
    | some operationId =>
      if c.idle && c.registry.values.isEmpty then
        { c.tryEmit (.runtimeShutdown operationId) with stopped := true }
      else c
    | none => c
  | .acquire id sessionGeneration =>
    c.taskStep id fun task => if task.completionSent then c else c.acquire task sessionGeneration
  | .evict id cached => c.taskStep id fun task => c.evict id task cached
  | .complete id output =>
    c.taskStep id fun task => if task.completionSent then c else c.complete id task output
  | .finish id panicked => c.taskStep id fun task => c.finish id task panicked

def run (actions : List Action) : Controller := actions.foldl step {}

theorem run_snoc (actions : List Action) (action : Action) :
    run (actions ++ [action]) = (run actions).step action :=
  List.foldl_concat ..

end Controller

end Dbotter.Ui
