import Dbotter.Program.Permits
import Dbotter.Ui.Terminals

/-!
How the controller admits network tasks: one at a time for a profile, one for a draft, and four
altogether.

The controller is the one of before with the semaphores beside it, which say what it there takes
for an answer of its surroundings: whether the permits are to be had.
-/

namespace Dbotter.Ui
open Dbotter.Utf8 Dbotter.Configuration Dbotter.Service Dbotter.Drivers Dbotter.Program

/-! ## The semaphores -/

def globalNetworkLimit : Nat := 4

inductive PermitKey
  | profile (profileId : ProfileId)
  | draft (draftId : DraftId)
  | network
  deriving DecidableEq

namespace PermitKey

def limit : PermitKey → Nat
  | .profile _ | .draft _ => 1
  | .network => globalNetworkLimit

def isProfile : PermitKey → Bool
  | .profile _ => true
  | _ => false

def isDraft : PermitKey → Bool
  | .draft _ => true
  | _ => false

end PermitKey

/-- The two registries and the semaphore of `run_controller`. What a task owns of them goes with
its future. -/
abbrev ControllerPermits := Permits PermitKey TaskId

namespace ProfilePermitRegistry

def tryAcquire (permits : ControllerPermits) (task : TaskId) (profileId : ProfileId) :
    ControllerPermits × Bool :=
  permits.tryAcquire PermitKey.limit task (.profile profileId)

def pruneIdle (permits : ControllerPermits) : ControllerPermits := permits.retain PermitKey.isProfile

end ProfilePermitRegistry

namespace DraftPermitRegistry

def tryAcquire (permits : ControllerPermits) (task : TaskId) (draftId : DraftId) :
    ControllerPermits × Bool :=
  permits.tryAcquire PermitKey.limit task (.draft draftId)

def pruneIdle (permits : ControllerPermits) : ControllerPermits := permits.retain PermitKey.isDraft

end DraftPermitRegistry

/-- The global permit comes second. Where there is none the first one is given back. -/
def withGlobalPermit (task : TaskId) : ControllerPermits × Bool → ControllerPermits × Bool
  | (permits, false) => (permits, false)
  | (permits, true) =>
    let taken := permits.tryAcquire PermitKey.limit task .network
    if taken.2 then taken else (taken.1.dropWhere (·.owner == task), false)

/-- The permits that a reconnection waits for, once the targets that it cancelled have ended:
a pointer to each semaphore. -/
def waitPlan (permits : ControllerPermits) (task : TaskId) (profileId : ProfileId) :
    ControllerPermits :=
  let profile := permits.slot PermitKey.limit (.profile profileId)
  let global := (profile.1.share task (.profile profileId) profile.2).slot PermitKey.limit .network
  global.1.share task .network global.2

/-! ## Commands -/

structure Admission where
  controller : Controller := {}
  permits : ControllerPermits := ({} : ControllerPermits).make PermitKey.limit .network

namespace Admission

def tryEmit (s : Admission) (event : UiEvent) : Admission :=
  { s with controller := s.controller.tryEmit event }

/-- The task that the next registration spawns. -/
def nextTask (s : Admission) : TaskId := s.controller.tasks.length

/-- `commit_reservation`. The future of a task that is not registered goes with its permits. -/
def commit (c : Controller) (permits : ControllerPermits) (operationId : OperationId)
    (scope : TaskScope) (failure : FailureContext) (work : TaskWork) (busy : UiEvent) : Admission :=
  match c.commitReservation operationId scope .asyncNetwork failure work with
  | (committed, true) => ⟨committed, permits⟩
  | (committed, false) =>
    ⟨committed.tryEmit busy, permits.dropWhere (·.owner == c.tasks.length)⟩

/-- `start_profile_work` and `start_draft_work` from the reservation on, where `acquire` asks for
both permits. -/
def startNetworkWork (s : Admission) (command : UiCommand) (scope : TaskScope)
    (failure : FailureContext) (busy : UiEvent)
    (acquire : ControllerPermits → TaskId → ControllerPermits × Bool) : Admission :=
  match s.controller.registry.reserve command.operationId with
  | none => s.tryEmit busy
  | some registry =>
    let c : Controller := { s.controller with registry }
    let taken := acquire s.permits s.nextTask
    if taken.2 then commit c taken.1 command.operationId scope failure (.command command []) busy
    else
      ⟨({ c with registry := registry.releaseReservation command.operationId }).tryEmit busy,
        taken.1⟩

def startDraftWork (s : Admission) (command : UiCommand) (draftId : DraftId) : Admission :=
  s.startNetworkWork command (.draft draftId) (.draft draftId .testDraftConnection)
    (draftFailedEvent command.operationId draftId .testDraftConnection .resourceBusy .none)
    fun permits task => withGlobalPermit task (DraftPermitRegistry.tryAcquire permits task draftId)

def startProfileWork (s : Admission) (command : UiCommand) (identity : RequestIdentity)
    (kind : OperationKind) : Admission :=
  let busy := failedProfileEventWithCode identity none kind .resourceBusy .none
  if s.controller.registry.hasProfileNetworkForId identity.profileId then s.tryEmit busy
  else
    s.startNetworkWork command (.profile identity.profileId identity.profileGeneration none)
      (.profile identity.profileId identity.profileGeneration kind) busy fun permits task =>
        withGlobalPermit task (ProfilePermitRegistry.tryAcquire permits task identity.profileId)

/-- The `ReconnectPermitPlan`: a disconnection needs no permits, and a reconnection needs them at
once where it has nothing to wait for. -/
def reconnectPermits (permits : ControllerPermits) (task : TaskId) (profileId : ProfileId)
    (kind : OperationKind) (targets : List RegistryEntry) : ControllerPermits × Bool :=
  if kind = .reconnectProfile then
    if targets = [] then
      withGlobalPermit task (ProfilePermitRegistry.tryAcquire permits task profileId)
    else (waitPlan permits task profileId, true)
  else (permits, true)

def startProfileControl (s : Admission) (command : UiCommand) (identity : RequestIdentity)
    (kind : OperationKind) (around : Surroundings) : Admission :=
  let busy := failedProfileEventWithCode identity around.session kind .resourceBusy .none
  match s.controller.registry.reserve identity.operationId with
  | none => s.tryEmit busy
  | some registry =>
    let targets := registry.values.filter
      (·.isNetworkOf identity.profileId identity.profileGeneration)
    let c := ({ s.controller with registry } : Controller).cancelTasks targets
    let taken := reconnectPermits s.permits s.nextTask identity.profileId kind targets
    if taken.2 then
      commit c taken.1 identity.operationId
        (.profile identity.profileId identity.profileGeneration around.session)
        (.profile identity.profileId identity.profileGeneration kind)
        (.command command (targets.map (·.terminal))) busy
    else
      ⟨({ c with registry := c.registry.releaseReservation identity.operationId }).tryEmit busy,
        taken.1⟩

def unlessUncertain (s : Admission) (command : UiCommand) (around : Surroundings)
    (handled : Admission) : Admission :=
  if around.configUncertain then s.tryEmit (.configUncertain command.operationId) else handled

/-- `handle_work` and `handle_control`. Exports have permits of their own, which every controller
of the process shares; a mutation needs none. -/
def handle (s : Admission) (command : UiCommand) (around : Surroundings) : Admission :=
  match command with
  | .prepareDraftConnectionTest _ draftId =>
    s.unlessUncertain command around (s.startDraftWork command draftId)
  | .testConnection identity _ =>
    s.unlessUncertain command around (s.startProfileWork command identity .connectProfile)
  | .execute identity _ _ _ _ =>
    s.unlessUncertain command around (s.startProfileWork command identity around.executeKind)
  | .browseCatalog request =>
    s.unlessUncertain command around (s.startProfileWork command request.identity .browseMySql)
  | .scanRedisKeys request =>
    s.unlessUncertain command around (s.startProfileWork command request.identity .browseRedis)
  | .inspectRedisKey request =>
    s.unlessUncertain command around (s.startProfileWork command request.identity .inspectRedis)
  | .disconnectProfile identity =>
    s.unlessUncertain command around
      (s.startProfileControl command identity .disconnectProfile around)
  | .reconnectProfile identity _ =>
    s.unlessUncertain command around <|
      match around.refused with
      | some (summary, code) =>
        s.tryEmit (failedProfileEventWithCode identity none .reconnectProfile summary code)
      | none => s.startProfileControl command identity .reconnectProfile around
  | _ => { s with controller := s.controller.handle command around }

def takeCommand (s : Admission) (command : UiCommand) (around : Surroundings) : Admission :=
  let handled := s.handle command around
  match command with
  | .cancelOperation _ => handled
  | _ =>
    { handled with
      controller := { handled.controller with
        taken := s.controller.taken ++ [command.operationId] } }

/-! ## Steps -/

/-- A step of the controller; a waiting task that takes a permit, or one that lets go of what it
has of a semaphore; and the pruning after a reap. -/
inductive Action
  | controller (action : Controller.Action)
  | acquire (task : TaskId) (key : PermitKey)
  | release (task : TaskId) (key : PermitKey)
  | prune

/-- The futures of tasks that panicked or were aborted are gone, and what they had with them. -/
def dropFailed (s : Admission) : Admission :=
  { s with
    permits := s.permits.dropWhere fun g => decide (s.controller.statusOf g.owner = .failed) }

/-- What the controller does, where a task gives its permits back before it says that it has
completed. -/
def controllerStep (s : Admission) : Controller.Action → Admission
  | .command command around =>
    if s.controller.takes command then s.takeCommand command around else s
  | .complete id output =>
    if s.permits.grips.any (·.owner == id) then s
    else { s with controller := s.controller.step (.complete id output) }
  | action => { s with controller := s.controller.step action }

def step (s : Admission) : Action → Admission
  | .controller action => (s.controllerStep action).dropFailed
  | .acquire id key =>
    match s.permits.grips.find? fun g => g.owner == id && g.key == key && !g.permit with
    | some g => { s with permits := (s.permits.acquire id key g.semaphore).1 }
    | none => s
  | .release id key =>
    { s with permits := s.permits.dropWhere fun g => g.owner == id && g.key == key }
  | .prune =>
    if s.controller.idle && s.controller.shutdown.isNone then
      { s with
        permits := DraftPermitRegistry.pruneIdle (ProfilePermitRegistry.pruneIdle s.permits) }
    else s

def run (actions : List Action) : Admission := actions.foldl step {}

theorem run_snoc (actions : List Action) (action : Action) :
    run (actions ++ [action]) = (run actions).step action :=
  List.foldl_concat ..

end Admission

end Dbotter.Ui
