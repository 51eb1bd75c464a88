import Dbotter.Program.Commands
import Dbotter.Service.Tenure
import Dbotter.Ui.FailureEvents

/-!
The tasks of the controller that work on the session of a profile, and the controls that close it.

A task runs against the service with every other call in between. Its waits end early where its
token is cancelled or its deadline has passed. A disconnection or a reconnection is handled in two
parts: the cache is read, and then the tasks of the profile are cancelled and a task is spawned
that waits for them.
-/

namespace Dbotter.Ui
open Dbotter.Utf8 Dbotter.Execution Dbotter.Configuration Dbotter.Service Dbotter.Program

variable {ρ α : Type}

/-! ## Waits -/

/-- What a wait of a task meets: the answer to its step, its token, its deadline, and the loss of
what it waits for. A step that follows another one without a pause does not look at the token or
the deadline. -/
structure Awaited (ρ : Type) where
  answer : Answer ρ
  cancelled : Bool := false
  timedOut : Bool := false
  lost : Bool := false
  paused : Bool := true

/-- The token comes before the deadline, and both before the answer. -/
def Awaited.stop (awaited : Awaited ρ) : Option Interruption :=
  if awaited.cancelled then some .cancelled
  else if awaited.timedOut then some .timedOut
  else none

def Awaited.pausedStop (awaited : Awaited ρ) : Option Interruption :=
  if awaited.paused then awaited.stop else none

abbrev Work (ρ α : Type) := Task ApplicationService (Awaited ρ) Event ServiceError α

/-- A call of the service that is awaited to its end. -/
def awaiting (op : Op ρ α) : Work ρ α := op.answering Awaited.answer

/-- A call of the service that is selected against the token and the deadline. -/
def selecting (op : Op ρ α) : Work ρ (Except Interruption (Except ServiceError α)) :=
  (awaiting op).select Awaited.pausedStop

/-- The call of the driver on the leased session. -/
def attemptOn (_lease : SessionLease) : Work ρ (Except Interruption (Except DriverError ρ)) :=
  .step fun awaited s =>
    ⟨s, .ok (match awaited.stop with
      | some stop => .error stop
      | none => .ok awaited.answer.reply), none⟩

/-- `await_pre_session_blocking` with the load of the key. -/
def awaitTokenKey (_context : ConnectionFingerprint) :
    Work ρ (Except Interruption (Except ServiceError Unit)) :=
  .step fun awaited s =>
    ⟨s, .ok (match awaited.stop with
      | some stop => .error stop
      | none =>
        if awaited.lost then .error .lost
        else if awaited.answer.catalogTokenKey then .ok (.ok ())
        else .ok (.error .catalogTokenKeyUnavailable)), none⟩

/-! ## Work on a session -/

/-- Where a task evicts its session before it reports; `keeps` are the answers of the driver that
leave the session in its place. -/
def Progress.evicts (keeps : Except DriverError ρ → Bool) : Progress ρ → Bool
  | .ran _ (.ok reply) (.ok ()) => !keeps reply
  | .ran _ _ _ => true
  | _ => false

/-- The common course of the tasks: acquire, call the driver, observe, evict. -/
def workOn (keeps : Except DriverError ρ → Bool) (identity : RequestIdentity) :
    Work ρ (Progress ρ) := do
  match ← selecting (acquireSessionAt identity.operationId identity.profileId
      identity.profileGeneration) with
  | .error stop => return .interrupted stop
  | .ok (.error error) => return .refused error
  | .ok (.ok lease) =>
    let attempt ← attemptOn lease
    let observation ← (awaiting (observeSession lease identity.operationId)).attempt
    let progress := Progress.ran lease.identity.sessionGeneration attempt observation
    awaiting (evictWhen (progress.evicts keeps) lease)
    return progress

/-- What comes before the session, and the work if that succeeds. -/
def prepared (prepare : Work ρ (Except Interruption (Except ServiceError α)))
    (work : α → Work ρ (Progress ρ)) : Work ρ (Progress ρ) := do
  match ← prepare with
  | .error stop => return .interrupted stop
  | .ok (.error error) => return .refused error
  | .ok (.ok a) => work a

/-- What is reported of a ping. -/
def Progress.ping : Progress ρ → Progress Unit
  | .interrupted stop => .interrupted stop
  | .refused error => .refused error
  | .ran session attempt observation =>
    .ran session (attempt.map fun reply => reply.map fun _ => ()) observation

/-- A ping that fails costs the session. -/
def keepsAnswered (reply : Except DriverError ρ) : Bool := reply.isOk

/-- An error that leaves the session healthy does not. -/
def keepsHealthy (reply : Except DriverError ρ) : Bool := resultDisposition reply == .keep

def connectWork (identity : RequestIdentity) : Work ρ (Progress ρ) :=
  workOn keepsAnswered identity

def executeWork (split : Text → Option (List Text)) (request : ExecuteRequest) :
    Work ρ (Progress ρ) :=
  prepared (selecting (prepareExecuteRequest split request)) fun _ =>
    workOn keepsHealthy request.identity

def prepareCatalogRequest (request : CatalogRequest) : Op ρ ConnectionFingerprint := do
  .ofExcept (request.validate.mapError serviceRequestError)
  ensureTypedResourceRequest request.identity .mySql

def catalogBrowseWork (request : CatalogRequest) : Work ρ (Progress ρ) :=
  prepared (selecting (prepareCatalogRequest request)) fun context =>
    prepared (awaitTokenKey context) fun _ => workOn keepsHealthy request.identity

def prepareRedisScanRequest (request : RedisScanRequest) : Op ρ ConnectionFingerprint := do
  .ofExcept (request.validate.mapError serviceRequestError)
  ensureTypedResourceRequest request.identity .redis

def redisScanWork (request : RedisScanRequest) : Work ρ (Progress ρ) :=
  prepared (selecting (prepareRedisScanRequest request)) fun _ =>
    workOn keepsHealthy request.identity

def prepareRedisInspectRequest (request : RedisKeyInspectRequest) : Op ρ ConnectionFingerprint := do
  .ofExcept (request.validate.mapError serviceRequestError)
  ensureTypedResourceRequest request.identity .redis

def redisInspectWork (request : RedisKeyInspectRequest) : Work ρ (Progress ρ) :=
  prepared (selecting (prepareRedisInspectRequest request)) fun _ =>
    workOn keepsHealthy request.identity

/-! ## Controls -/

/-- A disconnection or a reconnection, with the session that the handler found in the cache. -/
inductive ProfileControlWork
  | disconnect (identity : RequestIdentity) (session : Option SessionGeneration)
  | reconnect (identity : RequestIdentity) (session : Option SessionGeneration)

def ProfileControlWork.identity : ProfileControlWork → RequestIdentity
  | .disconnect identity _ | .reconnect identity _ => identity

def ProfileControlWork.session : ProfileControlWork → Option SessionGeneration
  | .disconnect _ session | .reconnect _ session => session

/-- `wait_for_target_terminals`, which says whether the control was cancelled meanwhile. The task
goes on after the targets have ended. -/
def waitForTargetTerminals : Work ρ Bool :=
  .step fun awaited s => ⟨s, .ok (awaited.cancelled && awaited.paused), none⟩

/-- `acquire_reconnect_permits_after_targets`, with the summary of its failure. -/
def acquireReconnectPermits : Work ρ (Option PublicSummary) :=
  .step fun awaited s =>
    ⟨s, .ok (match awaited.pausedStop with
      | some stop => some stop.summary
      | none => if awaited.lost then some .internalFailure else none), none⟩

def evictFound (identity : RequestIdentity) : Option SessionGeneration → Op ρ Unit
  | none => return ()
  | some session => do
    let _ ← evictCachedSessionExact identity.profileId identity.profileGeneration session
    return ()

def needsSessionCredential (profileId : ProfileId) : Op ρ Bool := do
  let profile ← profile profileId
  if profile.credentialMode = .session then
    let current ← hasCurrentSecret profileId
    return !current
  else return false

/-- The disconnection of `run_profile_control`. -/
def disconnectWork (identity : RequestIdentity) (session : Option SessionGeneration) :
    Work ρ (Except (Option ServiceError) PostCloseState) := do
  let cancelled ← waitForTargetTerminals
  if cancelled then return .error none
  else
    match ← (awaiting (ensureGeneration identity.profileId identity.profileGeneration
        identity.operationId)).attempt with
    | .error error => return .error (some error)
    | .ok () =>
      awaiting (evictFound identity session)
      match ← (awaiting (needsSessionCredential identity.profileId)).attempt with
      | .ok true => return .ok .needsCredential
      | _ => return .ok .disconnected

/-! ## The pool -/

/-- The calls of the service that run on no session. -/
def isUpkeep : Command → Bool
  | .acquire _ => false
  | command => command.operation.isNone

/-- What runs against the service while the controller is up. -/
inductive RunCommand
  | call (command : Command) (upkeep : isUpkeep command = true)
  | connect (identity : RequestIdentity)
  | execute (request : ExecuteRequest)
  | browseCatalog (request : CatalogRequest)
  | scanRedisKeys (request : RedisScanRequest)
  | inspectRedisKey (request : RedisKeyInspectRequest)
  | control (work : ProfileControlWork)

inductive RunOutcome (ρ : Type)
  | call (outcome : Outcome ρ)
  | worked (progress : Progress ρ)
  | unpermitted (summary : PublicSummary)
  | disconnected (closed : Except (Option ServiceError) PostCloseState)

/-- The reconnection of `run_profile_control`. -/
def reconnectWork (identity : RequestIdentity) (session : Option SessionGeneration) :
    Work ρ (RunOutcome ρ) := do
  match ← acquireReconnectPermits with
  | some summary => return .unpermitted summary
  | none =>
    awaiting (evictFound identity session)
    let progress ← connectWork identity
    return .worked progress

abbrev RunTask (ρ : Type) :=
  Task ApplicationService (Awaited ρ) Event Failure (RunOutcome ρ)

def reporting (wrap : α → RunOutcome ρ) (work : Work ρ α) : RunTask ρ :=
  (do let a ← work; return wrap a : Work ρ (RunOutcome ρ)).mapError .service

def calling (task : CallTask ρ) : RunTask ρ :=
  (task.answering Awaited.answer).bind fun outcome => .done (.ok (.call outcome))

def runCommand (split : Text → Option (List Text)) : RunCommand → RunTask ρ
  | .call command _ => calling (begin split command)
  | .connect identity => reporting .worked (connectWork identity)
  | .execute request => reporting .worked (executeWork split request)
  | .browseCatalog request => reporting .worked (catalogBrowseWork request)
  | .scanRedisKeys request => reporting .worked (redisScanWork request)
  | .inspectRedisKey request => reporting .worked (redisInspectWork request)
  | .control (.disconnect identity session) =>
    reporting .disconnected (disconnectWork identity session)
  | .control (.reconnect identity session) => reporting id (reconnectWork identity session)

namespace RunCommand

/-- The scope of the task in the registry, where it is one of a profile on the network. -/
def scope : RunCommand → Option RequestIdentity
  | .call _ _ => none
  | .connect identity => some identity
  | .execute request => some request.identity
  | .browseCatalog request => some request.identity
  | .scanRedisKeys request => some request.identity
  | .inspectRedisKey request => some request.identity
  | .control work => some work.identity

def isNetworkOf (command : RunCommand) (profileId : ProfileId)
    (profileGeneration : ProfileGeneration) : Bool :=
  command.scope.any fun identity =>
    identity.profileId == profileId && identity.profileGeneration == profileGeneration

/-- The answers of the driver that leave the session of the task in its place. -/
def keeps : RunCommand → Except DriverError ρ → Bool
  | .connect _ | .control _ => keepsAnswered
  | _ => keepsHealthy

/-- The event of a connection or of a control. -/
def event : RunCommand → RunOutcome ρ → Option UiEvent
  | .connect identity, .worked progress =>
    some (runConnect identity .connectProfile progress.ping)
  | .control (.reconnect identity _), .worked progress =>
    some (runConnect identity .reconnectProfile progress.ping)
  | .control (.reconnect identity session), .unpermitted summary =>
    some (failedProfileEventWithCode identity session .reconnectProfile summary .none)
  | .control (.disconnect identity session), .disconnected closed =>
    some (runDisconnect identity session closed)
  | _, _ => none

end RunCommand

abbrev RunSystem (ρ : Type) :=
  System ApplicationService (Awaited ρ) Event Failure (RunOutcome ρ) RunCommand

/-! ## The controller -/

inductive ControlCommand
  | disconnectProfile (identity : RequestIdentity)
  | reconnectProfile (identity : RequestIdentity)

def ControlCommand.identity : ControlCommand → RequestIdentity
  | .disconnectProfile identity | .reconnectProfile identity => identity

def ControlCommand.work : ControlCommand → Option SessionGeneration → ProfileControlWork
  | .disconnectProfile identity => .disconnect identity
  | .reconnectProfile identity => .reconnect identity

/-- The moment at which the cache was read, by the steps before it and the next session
generation. It is kept for the statements only. -/
structure Reading where
  steps : Nat
  next : SessionGeneration

/-- `handle_control` between two of its waits. -/
inductive Handling
  | idle
  | taken (command : ControlCommand)
  | found (command : ControlCommand) (session : Option SessionGeneration) (reading : Reading)

/-- A control that was spawned, and the calls that it waits for. -/
structure Spawned where
  call : Nat
  identity : RequestIdentity
  targets : List Nat
  reading : Reading

structure Runtime (ρ : Type) where
  pool : RunSystem ρ
  handling : Handling := .idle
  cancelled : List Nat := []
  spawned : List Spawned := []

namespace Runtime

def isRunning (r : Runtime ρ) (call : Nat) : Bool :=
  match r.pool.calls[call]? with
  | some ⟨_, .running _⟩ => true
  | _ => false

def waits (r : Runtime ρ) (call : Nat) : Bool :=
  r.spawned.any fun control => control.call == call && control.targets.any r.isRunning

/-- `cancel_profile_network_waiters`: the entries of the profile and the generation. -/
def networkWaiters (r : Runtime ρ) (identity : RequestIdentity) : List Nat :=
  (List.range r.pool.calls.length).filter fun call =>
    match r.pool.calls[call]? with
    | some ⟨command, .running _⟩ =>
      command.isNetworkOf identity.profileId identity.profileGeneration
    | _ => false

/-- What the handler finds before it reads the cache. -/
def accepts (r : Runtime ρ) (command : ControlCommand) : Bool :=
  !r.pool.shared.configUncertain &&
    match command with
    | .disconnectProfile _ => true
    | .reconnectProfile identity =>
      r.pool.shared.generationIs identity.profileId identity.profileGeneration

/-- The session of the cache, if it is one of the generation. -/
def foundSession (r : Runtime ρ) (identity : RequestIdentity) : Option SessionGeneration :=
  ((r.pool.shared.sessions.lookup identity.profileId).filter
    (·.profileGeneration == identity.profileGeneration)).map (·.sessionGeneration)

variable (split : Text → Option (List Text))

def inPool (r : Runtime ρ) (action : Action (Awaited ρ) RunCommand) : Runtime ρ :=
  { r with pool := r.pool.step (runCommand split) action }

def spawn (r : Runtime ρ) (work : ProfileControlWork) (reading : Reading) : Runtime ρ :=
  let targets := r.networkWaiters work.identity
  { r.inPool split (.start (.control work)) with
    handling := .idle
    cancelled := targets ++ r.cancelled
    spawned := ⟨r.pool.calls.length, work.identity, targets, reading⟩ :: r.spawned }

end Runtime

inductive RunAction (ρ : Type)
  | start (command : RunCommand)
  | advance (call : Nat) (awaited : Awaited ρ)
  | drop (call : Nat)
  | cancel (call : Nat)
  | handle (command : ControlCommand)
  | read
  | refuse
  | spawn

namespace Runtime
variable (split : Text → Option (List Text))

/-- The controller spawns nothing else while it handles a control. A control that waits does not go
on, and every wait meets the token of its task. A control is refused where its reservation or its
permits are missing. -/
def step (r : Runtime ρ) : RunAction ρ → Runtime ρ
  | .start command =>
    match command, r.handling with
    | .control _, _ => r
    | .call _ _, _ | _, .idle => r.inPool split (.start command)
    | _, _ => r
  | .advance call awaited =>
    if r.waits call then r
    else r.inPool split (.advance call { awaited with cancelled := r.cancelled.contains call })
  | .drop call => r.inPool split (.drop call)
  | .cancel call => { r with cancelled := call :: r.cancelled }
  | .handle command =>
    match r.handling with
    | .idle => if r.accepts command then { r with handling := .taken command } else r
    | _ => r
  | .read =>
    match r.handling with
    | .taken command =>
      let reading : Reading := ⟨r.pool.trace.length, r.pool.shared.nextSessionGeneration⟩
      { r with handling := .found command (r.foundSession command.identity) reading }
    | _ => r
  | .refuse => { r with handling := .idle }
  | .spawn =>
    match r.handling with
    | .found command session reading => r.spawn split (command.work session) reading
    | _ => r

def initial (loaded : LoadedConfig) : Runtime ρ :=
  { pool := ⟨ApplicationService.initial loaded, none, [], []⟩ }

/-- The state after a schedule of a freshly loaded service. -/
def run (loaded : LoadedConfig) (actions : List (RunAction ρ)) : Runtime ρ :=
  actions.foldl (step split) (initial loaded)

/-- The call has its event ready. -/
def Produces (r : Runtime ρ) (call : Nat) (event : UiEvent) : Prop :=
  ∃ command outcome, r.pool.calls[call]? = some ⟨command, .running (.done (.ok outcome))⟩ ∧
    command.event outcome = some event

end Runtime

end Dbotter.Ui
