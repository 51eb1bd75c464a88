import Dbotter.Service.Mutations
import Dbotter.Ui.Model

/-!
The port between the desktop and the controller: bounded lanes for the commands, one channel
for the events, and the keys under which control commands are merged.
-/

namespace Dbotter.Ui
open Dbotter.Utf8 Dbotter.Configuration Dbotter.Service Dbotter.Drivers

/-! ## Commands -/

/-- The commands of the desktop. `TestDraftConnection` is one of the two forms of a draft
test; the payload of a draft test and of an export is left out. -/
inductive UiCommand
  | refreshProfiles (operationId : OperationId)
  | createProfile (request : CreateProfileRequest)
  | updateProfile (request : UpdateProfileRequest)
  | deleteProfile (request : DeleteProfileRequest)
  | storeCredentials (identity : RequestIdentity) (sourceOperation : OperationKind)
      (secret : SessionSecret)
  | testConnection (identity : RequestIdentity) (timeoutMs : Nat)
  | prepareDraftConnectionTest (operationId : OperationId) (draftId : DraftId)
  | execute (identity : RequestIdentity) (language : QueryLanguage) (text : Text)
      (rowLimit timeoutMs : Nat)
  | browseCatalog (request : CatalogRequest)
  | scanRedisKeys (request : RedisScanRequest)
  | inspectRedisKey (request : RedisKeyInspectRequest)
  | exportResult (operationId : OperationId) (resultId : ResultId)
  | cancelOperation (operationId : OperationId)
  | disconnectProfile (identity : RequestIdentity)
  | reconnectProfile (identity : RequestIdentity) (timeoutMs : Nat)
  | shutdownRuntime (operationId : OperationId)

inductive CommandLane
  | work
  | mutation
  | control
  | shutdown
  deriving DecidableEq, Repr

inductive ControlKey
  | cancel (operationId : OperationId)
  | disconnect (profileId : ProfileId) (profileGeneration : ProfileGeneration)
  | reconnect (profileId : ProfileId) (profileGeneration : ProfileGeneration)
  deriving DecidableEq, Repr

namespace UiCommand

def operationId : UiCommand → OperationId
  | .refreshProfiles operationId | .prepareDraftConnectionTest operationId _
  | .exportResult operationId _ | .cancelOperation operationId
  | .shutdownRuntime operationId => operationId
  | .createProfile request => request.operationId
  | .updateProfile request => request.operationId
  | .deleteProfile request => request.operationId
  | .storeCredentials identity _ _ | .testConnection identity _ | .execute identity _ _ _ _
  | .disconnectProfile identity | .reconnectProfile identity _ => identity.operationId
  | .browseCatalog request => request.identity.operationId
  | .scanRedisKeys request => request.identity.operationId
  | .inspectRedisKey request => request.identity.operationId

def lane : UiCommand → CommandLane
  | .refreshProfiles _ | .createProfile _ | .updateProfile _ | .deleteProfile _
  | .storeCredentials _ _ _ => .mutation
  | .testConnection _ _ | .prepareDraftConnectionTest _ _ | .execute _ _ _ _ _
  | .browseCatalog _ | .scanRedisKeys _ | .inspectRedisKey _ | .exportResult _ _ => .work
  | .cancelOperation _ | .disconnectProfile _ | .reconnectProfile _ _ => .control
  | .shutdownRuntime _ => .shutdown

def controlKey : UiCommand → Option ControlKey
  | .cancelOperation operationId => some (.cancel operationId)
  | .disconnectProfile identity =>
    some (.disconnect identity.profileId identity.profileGeneration)
  | .reconnectProfile identity _ =>
    some (.reconnect identity.profileId identity.profileGeneration)
  | _ => none

end UiCommand

/-! ## The channels -/

inductive SubmitError
  | busy
  | disconnected
  deriving DecidableEq, Repr

/-- One bounded channel of commands. -/
structure Lane where
  queue : List UiCommand := []
  capacity : Nat
  closed : Bool := false

def Lane.trySend (lane : Lane) (command : UiCommand) : Except SubmitError Lane :=
  if lane.closed then .error .disconnected
  else if lane.queue.length < lane.capacity then
    .ok { lane with queue := lane.queue ++ [command] }
  else .error .busy

def workCapacity : Nat := 32
def mutationCapacity : Nat := 16
def controlCapacity : Nat := 16
def eventCapacity : Nat := 128

/-- Both ends of the port. `sent` records every command that was put on a lane, and `merged`
every control command that was accepted without being sent. -/
structure UiPort where
  work : Lane := { capacity := workCapacity }
  mutation : Lane := { capacity := mutationCapacity }
  control : Lane := { capacity := controlCapacity }
  shutdown : Option OperationId := none
  shutdownClosed : Bool := false
  events : List UiEvent := []
  controlKeys : Finset ControlKey := ∅
  sent : List UiCommand := []
  merged : List UiCommand := []

namespace UiPort

def trySubmit (port : UiPort) (command : UiCommand) : Except SubmitError UiPort :=
  match command.lane with
  | .work =>
    (port.work.trySend command).map fun work => { port with work, sent := port.sent ++ [command] }
  | .mutation =>
    (port.mutation.trySend command).map fun mutation =>
      { port with mutation, sent := port.sent ++ [command] }
  | .control =>
    match command.controlKey with
    | none => .error .disconnected
    | some key =>
      -- A second command under a key that is still held is answered `Ok` and not sent.
      if key ∈ port.controlKeys then .ok { port with merged := port.merged ++ [command] }
      else
        (port.control.trySend command).map fun control =>
          { port with
            control
            controlKeys := insert key port.controlKeys
            sent := port.sent ++ [command] }
  | .shutdown =>
    if port.shutdownClosed then .error .disconnected
    else .ok { port with shutdown := some command.operationId, sent := port.sent ++ [command] }

def drainEvents (port : UiPort) (limit : Nat) : List UiEvent × UiPort :=
  (port.events.take limit, { port with events := port.events.drop limit })

/-- The control key, besides that of a cancellation, that an event releases. -/
def releasedKey : UiEvent → Option ControlKey
  | .connectionReady identity _ =>
    some (.reconnect identity.profileId identity.profileGeneration)
  | .connectionClosed identity _ =>
    some (.disconnect identity.profileId identity.profileGeneration)
  | .operationFailed identity _ .disconnectProfile _ _ _ _ =>
    some (.disconnect identity.profileId identity.profileGeneration)
  | .operationFailed identity _ .reconnectProfile _ _ _ _ =>
    some (.reconnect identity.profileId identity.profileGeneration)
  | _ => none

def releaseControlKey (port : UiPort) (key : ControlKey) : UiPort :=
  { port with controlKeys := port.controlKeys.erase key }

def releaseForEvent (port : UiPort) (event : UiEvent) : UiPort :=
  let released := port.releaseControlKey (.cancel event.operationId)
  (releasedKey event).elim released released.releaseControlKey

/-- `try_emit`: the event is lost where the channel is full. -/
def tryEmit (port : UiPort) (event : UiEvent) : UiPort :=
  let released := port.releaseForEvent event
  if released.events.length < eventCapacity then
    { released with events := released.events ++ [event] }
  else released

/-- The controller takes the next command off a lane. -/
def receive (port : UiPort) : CommandLane → UiPort
  | .work => { port with work.queue := port.work.queue.tail }
  | .mutation => { port with mutation.queue := port.mutation.queue.tail }
  | .control => { port with control.queue := port.control.queue.tail }
  | .shutdown => { port with shutdown := none }

def closeAndDrain (port : UiPort) : UiPort :=
  { port with
    work := { port.work with queue := [], closed := true }
    mutation := { port.mutation with queue := [], closed := true }
    control := { port.control with queue := [], closed := true } }

/-- A submission that succeeds puts the command on its lane, unless a control command of the
same key is still held. -/
theorem trySubmit_cases {port port' : UiPort} {command : UiCommand}
    (h : port.trySubmit command = .ok port') :
    port'.events = port.events ∧
      (port'.sent = port.sent ++ [command] ∧ port'.merged = port.merged ∨
        port'.sent = port.sent ∧ port'.merged = port.merged ++ [command] ∧
          command.lane = .control) := by
  unfold trySubmit at h
  cases hlane : command.lane with
  | work =>
    cases hsend : port.work.trySend command <;> rw [hlane, hsend] at h <;> cases h
    exact ⟨rfl, .inl ⟨rfl, rfl⟩⟩
  | mutation =>
    cases hsend : port.mutation.trySend command <;> rw [hlane, hsend] at h <;> cases h
    exact ⟨rfl, .inl ⟨rfl, rfl⟩⟩
  | control =>
    cases hkey : command.controlKey with
    | none => rw [hlane, hkey] at h; cases h
    | some key =>
      simp only [hlane, hkey] at h
      split at h
      · cases h
        exact ⟨rfl, .inr ⟨rfl, rfl, rfl⟩⟩
      · cases hsend : port.control.trySend command <;> rw [hsend] at h <;> cases h
        exact ⟨rfl, .inl ⟨rfl, rfl⟩⟩
  | shutdown =>
    simp only [hlane] at h
    split at h <;> cases h
    exact ⟨rfl, .inl ⟨rfl, rfl⟩⟩

end UiPort

/-! ## Which events end a command -/

/-- The failure of a task of this kind: a refused permit, a panic, a failed call. -/
def UiEvent.isFailureOf (event : UiEvent) (identity : RequestIdentity)
    (kinds : List OperationKind) : Bool :=
  match event with
  | .operationFailed failed _ kind _ _ _ _ => failed == identity && kinds.contains kind
  | _ => false

/-- The refusal of a command while the configuration is uncertain. -/
def UiEvent.isRefusalOf (event : UiEvent) (operationId : OperationId) : Bool :=
  match event with
  | .configUncertain refused => refused == operationId
  | _ => false

/-- The events with which the controller ends a command. A cancellation and a shutdown have
no end of their own, and an export runs whatever the state of the configuration. -/
def UiCommand.endedBy (command : UiCommand) (event : UiEvent) : Bool :=
  match command with
  | .refreshProfiles operationId =>
    event.isRefusalOf operationId || match event with
      | .profilesLoaded o _ _ | .profilesFailed o _ _ => o == operationId
      | _ => false
  | .createProfile request =>
    event.isRefusalOf request.operationId || match event with
      | .profileSaved o _ previous _ retained _ =>
        o == request.operationId && previous == none && !retained
      | .profileCreateFailed o draftId _ _ =>
        o == request.operationId && draftId == request.draftId
      | _ => false
  | .updateProfile request =>
    let identity := ⟨request.profileId, request.expectedGeneration, request.operationId⟩
    event.isRefusalOf request.operationId || event.isFailureOf identity [.updateProfile] ||
      match event with
      | .profileSaved o profileId previous _ _ _ =>
        o == request.operationId && profileId == request.profileId &&
          previous == some request.expectedGeneration
      | .profileUpdateFailed failed _ _ => failed == identity
      | _ => false
  | .deleteProfile request =>
    let identity := ⟨request.profileId, request.expectedGeneration, request.operationId⟩
    event.isRefusalOf request.operationId || event.isFailureOf identity [.deleteProfile] ||
      match event with
      | .profileDeleted deleted _ =>
        deleted.operationId == request.operationId && deleted.profileId == request.profileId
      | _ => false
  | .storeCredentials identity _ _ =>
    event.isRefusalOf identity.operationId || event.isFailureOf identity [.updateProfile] ||
      match event with
      | .credentialsStored stored | .credentialsStoreFailed stored _ _ => stored == identity
      | _ => false
  | .testConnection identity _ =>
    event.isRefusalOf identity.operationId || event.isFailureOf identity [.connectProfile] ||
      match event with
      | .connectionReady ready _ => ready == identity
      | _ => false
  | .prepareDraftConnectionTest operationId draftId =>
    event.isRefusalOf operationId || match event with
      | .draftConnectionReady o draft | .draftOperationFailed o draft _ _ =>
        o == operationId && draft == draftId
      | _ => false
  | .execute identity _ _ _ _ =>
    event.isRefusalOf identity.operationId ||
      event.isFailureOf identity [.executeRead, .executeMutation] ||
      match event with
      | .queryFinished finished _ _ | .executeUnavailable finished _ => finished == identity
      | _ => false
  | .browseCatalog request =>
    event.isRefusalOf request.identity.operationId ||
      event.isFailureOf request.identity [.browseMySql] ||
      match event with
      | .catalogPageLoaded page _ _ => page.identity == request.identity
      | .catalogPageFailed failed _ _ _ _ => failed == request
      | _ => false
  | .scanRedisKeys request =>
    event.isRefusalOf request.identity.operationId ||
      event.isFailureOf request.identity [.browseRedis] ||
      match event with
      | .redisKeysLoaded page _ disposition =>
        page.identity == request.identity && disposition == .keep
      | .redisKeysFailed failed _ _ _ _ => failed == request
      | _ => false
  | .inspectRedisKey request =>
    event.isRefusalOf request.identity.operationId ||
      event.isFailureOf request.identity [.inspectRedis] ||
      match event with
      | .redisKeyInspected preview _ disposition =>
        preview.identity == request.identity && preview.key.id == request.key &&
          disposition == .keep
      | .redisKeyInspectFailed failed _ _ _ _ => failed == request
      | _ => false
  | .exportResult operationId resultId =>
    match event with
    | .resultExported o result | .resultExportFailed o result _ =>
      o == operationId && result == resultId
    | _ => false
  | .disconnectProfile identity =>
    event.isRefusalOf identity.operationId || event.isFailureOf identity [.disconnectProfile] ||
      match event with
      | .connectionClosed closed _ => closed == identity
      | _ => false
  | .reconnectProfile identity _ =>
    event.isRefusalOf identity.operationId || event.isFailureOf identity [.reconnectProfile] ||
      match event with
      | .connectionReady ready _ => ready == identity
      | _ => false
  | .cancelOperation _ | .shutdownRuntime _ => false

/-- What ends a command carries its operation. -/
theorem UiCommand.endedBy_operationId {command : UiCommand} {event : UiEvent}
    (h : command.endedBy event) : event.operationId = command.operationId := by
  cases command <;> cases event <;>
    simp [endedBy, UiEvent.isFailureOf, UiEvent.isRefusalOf, UiEvent.operationId, operationId]
      at h ⊢ <;> grind

end Dbotter.Ui
