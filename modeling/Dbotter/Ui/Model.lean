import Mathlib.Logic.Function.Basic
import Dbotter.Drivers.Retention
import Dbotter.Service.State

/-!
The model of the desktop: snapshots of what the service has reported, and the folding of its
events.

Maps are functions into `Option`, so that `retain` and a loop over the entries are pointwise.
The status line, the texts of the editor, the elapsed times and the rows of a result are shown
and never read by the folding; they are left out.
-/

namespace Dbotter.Ui
open Dbotter.Utf8 Dbotter.Configuration Dbotter.Service Dbotter.Drivers

abbrev Table (κ β : Type) := κ → Option β

/-! ## Snapshots -/

structure WorkspaceKey where
  profileId : ProfileId
  profileGeneration : ProfileGeneration
  deriving DecidableEq, Repr

def workspaceKey (identity : RequestIdentity) : WorkspaceKey :=
  ⟨identity.profileId, identity.profileGeneration⟩

inductive PostCloseState
  | disconnected
  | needsCredential
  deriving DecidableEq, Repr

inductive ConnectionFailureOutcome
  | preserve
  | disconnected
  | unknown
  | needsCredential
  deriving DecidableEq, Repr

inductive DriverAvailability
  | ready
  | planned
  deriving DecidableEq, Repr

inductive EnvironmentAvailability
  | available
  | missing
  | empty
  deriving DecidableEq, Repr

structure ProfileSnapshot where
  id : ProfileId
  generation : ProfileGeneration
  driver : DriverKind
  availability : DriverAvailability
  hasCurrentSessionSecret : Bool
  environmentAvailability : Option EnvironmentAvailability
  persisted : ConnectionProfile
  deriving DecidableEq, Repr

def ProfileSnapshot.isReady (profile : ProfileSnapshot) : Bool := profile.availability == .ready

def ProfileSnapshot.canConnect (profile : ProfileSnapshot) : Bool :=
  profile.isReady && (profile.persisted.credentialMode != .environment ||
    profile.environmentAvailability == some .available)

structure ConfigPresentation where
  sourceVersion : ConfigSourceVersion := .missing
  migrationBackup : Option Text := none
  deriving DecidableEq, Repr

def ConfigPresentation.migrationRequired (config : ConfigPresentation) : Bool :=
  config.sourceVersion == .v1

inductive ConnectionState
  | disconnected
  | pending (operationId : OperationId)
  | connected (sessionGeneration : SessionGeneration)
  | needsCredential
  | failed (summary : PublicSummary)
  | closing
  deriving DecidableEq, Repr

def ConnectionState.isPending : ConnectionState → Bool
  | .pending _ => true
  | _ => false

/-- The profile shows that something is under way. -/
def ConnectionState.waits : ConnectionState → Bool
  | .pending _ | .closing => true
  | _ => false

def ConnectionState.acceptsRedisEventSession :
    ConnectionState → Option SessionGeneration → Bool
  | .connected current, some event => current == event
  | .connected _, none => false
  | _, some _ => false
  | _, none => true

/-- A retained result, known here by its identity. -/
structure ResultSnapshot where
  resultId : ResultId
  deriving DecidableEq, Repr

/-- The texts of the editor and its caret, and the state of the result table, are left out. -/
structure ProfileWorkspace where
  pendingExecute : Option OperationId := none
  result : Option ResultSnapshot := none
  error : Option PublicOperationError := none
  catalogPage : Option CatalogPage := none
  catalogRetry : Option CatalogRequest := none
  catalogError : Option PublicOperationError := none
  redisKeyPage : Option RedisKeyPage := none
  redisScanRetry : Option RedisScanRequest := none
  redisScanError : Option PublicOperationError := none
  redisValuePreview : Option RedisValuePreview := none
  redisInspectRetry : Option RedisKeyInspectRequest := none
  redisInspectError : Option PublicOperationError := none
  deriving DecidableEq

/-! ## Events -/

/-- The events of the runtime. Where the source lists the operation, the profile and the
generation as three fields they are one `RequestIdentity` here. -/
inductive UiEvent
  | profilesLoaded (operationId : OperationId) (profiles : List ProfileSnapshot)
      (config : ConfigPresentation)
  | profilesFailed (operationId : OperationId) (summary : PublicSummary)
      (error : PublicOperationError)
  | profileSaved (operationId : OperationId) (profileId : ProfileId)
      (previousGeneration : Option ProfileGeneration) (profileGeneration : ProfileGeneration)
      (sessionRetained : Bool) (warning : Option PublicSummary)
  | profileCreateFailed (operationId : OperationId) (draftId : DraftId)
      (summary : PublicSummary) (error : PublicOperationError)
  | profileUpdateFailed (identity : RequestIdentity) (summary : PublicSummary)
      (error : PublicOperationError)
  | credentialsStored (identity : RequestIdentity)
  | credentialsStoreFailed (identity : RequestIdentity) (summary : PublicSummary)
      (error : PublicOperationError)
  | connectionReady (identity : RequestIdentity) (sessionGeneration : SessionGeneration)
  | connectionClosed (identity : RequestIdentity) (postClose : PostCloseState)
  | draftConnectionReady (operationId : OperationId) (draftId : DraftId)
  | draftOperationFailed (operationId : OperationId) (draftId : DraftId)
      (summary : PublicSummary) (error : PublicOperationError)
  | queryFinished (identity : RequestIdentity) (sessionGeneration : SessionGeneration)
      (result : ResultSnapshot)
  | resultExported (operationId : OperationId) (resultId : ResultId)
  | resultExportFailed (operationId : OperationId) (resultId : ResultId)
      (error : PublicOperationError)
  | catalogPageLoaded (page : CatalogPage) (sessionGeneration : SessionGeneration)
      (sessionDisposition : SessionDisposition)
  | catalogPageFailed (request : CatalogRequest) (summary : PublicSummary)
      (error : PublicOperationError) (sessionGeneration : Option SessionGeneration)
      (sessionDisposition : Option SessionDisposition)
  | redisKeysLoaded (page : RedisKeyPage) (sessionGeneration : SessionGeneration)
      (sessionDisposition : SessionDisposition)
  | redisKeysFailed (request : RedisScanRequest) (error : PublicOperationError)
      (sessionGeneration : Option SessionGeneration)
      (sessionDisposition : Option SessionDisposition)
      (connectionOutcome : ConnectionFailureOutcome)
  | redisKeyInspected (preview : RedisValuePreview) (sessionGeneration : SessionGeneration)
      (sessionDisposition : SessionDisposition)
  | redisKeyInspectFailed (request : RedisKeyInspectRequest) (error : PublicOperationError)
      (sessionGeneration : Option SessionGeneration)
      (sessionDisposition : Option SessionDisposition)
      (connectionOutcome : ConnectionFailureOutcome)
  | operationFailed (identity : RequestIdentity)
      (sessionGeneration : Option SessionGeneration) (kind : OperationKind)
      (summary : PublicSummary) (error : PublicOperationError)
      (sessionDisposition : Option SessionDisposition)
      (connectionOutcome : ConnectionFailureOutcome)
  | executeUnavailable (identity : RequestIdentity) (summary : PublicSummary)
  | profileDeleted (identity : RequestIdentity) (serverStateUnknown : Bool)
  | configUncertain (operationId : OperationId)
  | runtimeShutdown (operationId : OperationId)
  deriving DecidableEq

def UiEvent.operationId : UiEvent → OperationId
  | .profilesLoaded operationId _ _ | .profilesFailed operationId _ _
  | .profileSaved operationId _ _ _ _ _ | .profileCreateFailed operationId _ _ _
  | .draftConnectionReady operationId _ | .draftOperationFailed operationId _ _ _
  | .resultExported operationId _ | .resultExportFailed operationId _ _
  | .configUncertain operationId | .runtimeShutdown operationId => operationId
  | .profileUpdateFailed identity _ _ | .credentialsStored identity
  | .credentialsStoreFailed identity _ _ | .connectionReady identity _
  | .connectionClosed identity _ | .queryFinished identity _ _
  | .operationFailed identity _ _ _ _ _ _ | .executeUnavailable identity _
  | .profileDeleted identity _ => identity.operationId
  | .catalogPageLoaded page _ _ => page.identity.operationId
  | .catalogPageFailed request _ _ _ _ => request.identity.operationId
  | .redisKeysLoaded page _ _ => page.identity.operationId
  | .redisKeysFailed request _ _ _ _ => request.identity.operationId
  | .redisKeyInspected preview _ _ => preview.identity.operationId
  | .redisKeyInspectFailed request _ _ _ _ => request.identity.operationId

/-! ## The model -/

structure UiModel where
  profiles : List ProfileSnapshot := []
  selectedProfile : Option ProfileId := none
  activeGenerations : Table ProfileId ProfileGeneration := fun _ => none
  tombstones : Table ProfileId ProfileGeneration := fun _ => none
  connectionStates : Table ProfileId ConnectionState := fun _ => none
  workspaces : Table WorkspaceKey ProfileWorkspace := fun _ => none
  config : ConfigPresentation := {}
  configUncertain : Bool := false
  profileLoadSucceeded : Bool := false
  lastProfilesOperation : Option OperationId := none
  pendingRetags : Table ProfileId (ProfileGeneration × ProfileGeneration) := fun _ => none
  nextOperationId : OperationId := 1

namespace UiModel

def workspaceMut (model : UiModel) (key : WorkspaceKey)
    (change : ProfileWorkspace → ProfileWorkspace) : UiModel :=
  { model with
    workspaces := Function.update model.workspaces key
      (some (change ((model.workspaces key).getD {}))) }

def setConnection (model : UiModel) (profileId : ProfileId) (state : ConnectionState) :
    UiModel :=
  { model with connectionStates := Function.update model.connectionStates profileId (some state) }

/-- `next_operation`. The source saturates at the largest `u64`, which no run reaches. -/
def nextOperation (model : UiModel) : OperationId × UiModel :=
  (model.nextOperationId, { model with nextOperationId := model.nextOperationId + 1 })

def selectedProfileSnapshot (model : UiModel) : Option ProfileSnapshot := do
  let selected ← model.selectedProfile
  model.profiles.find? (·.id = selected)

def selectedWorkspaceKey (model : UiModel) : Option WorkspaceKey :=
  model.selectedProfileSnapshot.map fun profile => ⟨profile.id, profile.generation⟩

def connectionState (model : UiModel) (profileId : ProfileId) : ConnectionState :=
  (model.connectionStates profileId).getD .disconnected

def profilesOperationIsNewer (model : UiModel) (operationId : OperationId) : Bool :=
  model.lastProfilesOperation.all (· < operationId)

/-- No tombstone, or one below the generation. -/
def aboveTombstone (model : UiModel) (profileId : ProfileId) (generation : ProfileGeneration) :
    Bool :=
  (model.tombstones profileId).all (· < generation)

def eventIsCurrent (model : UiModel) (profileId : ProfileId) (generation : ProfileGeneration) :
    Bool :=
  !model.configUncertain && model.activeGenerations profileId == some generation &&
    model.aboveTombstone profileId generation

def redisEventIsCurrent (model : UiModel) (key : WorkspaceKey)
    (sessionGeneration : Option SessionGeneration) : Bool :=
  model.eventIsCurrent key.profileId key.profileGeneration &&
    (model.connectionState key.profileId).acceptsRedisEventSession sessionGeneration

/-- The tombstone after one more deletion of this generation. -/
def buryAt (tombstone : Option ProfileGeneration) (generation : ProfileGeneration) :
    ProfileGeneration :=
  tombstone.elim generation fun current => if generation > current then generation else current

/-! ## Folding -/

/-- The tombstones after a load: a profile that is no longer listed is buried. -/
def tombstonesAfter (model : UiModel) (loaded : List ProfileSnapshot) :
    Table ProfileId ProfileGeneration := fun profileId =>
  match model.activeGenerations profileId with
  | some generation =>
    if loaded.all (·.id ≠ profileId) then some (buryAt (model.tombstones profileId) generation)
    else model.tombstones profileId
  | none => model.tombstones profileId

/-- Whether the connection state of a profile survives the load of these snapshots. -/
def keepsConnection (model : UiModel) (profiles : List ProfileSnapshot)
    (profileId : ProfileId) : Bool :=
  match model.profiles.find? (·.id = profileId), profiles.find? (·.id = profileId) with
  | some previous, some refreshed =>
    previous.generation == refreshed.generation && previous.persisted == refreshed.persisted ||
      model.pendingRetags profileId == some (previous.generation, refreshed.generation)
  | _, _ => false

def lacksSessionSecret (profiles : List ProfileSnapshot) (profileId : ProfileId) : Bool :=
  profiles.any fun profile => profile.id = profileId &&
    profile.persisted.credentialMode = .session && !profile.hasCurrentSessionSecret

/-- The generations of a list of snapshots, where a later snapshot of a profile overwrites an
earlier one. -/
def generationsOf (profiles : List ProfileSnapshot) : Table ProfileId ProfileGeneration :=
  fun profileId => (profiles.reverse.find? (·.id = profileId)).map (·.generation)

def foldProfiles (model : UiModel) (loaded : List ProfileSnapshot) : UiModel :=
  let tombstones := model.tombstonesAfter loaded
  let profiles := loaded.filter fun profile =>
    (tombstones profile.id).all (· < profile.generation)
  { model with
    profiles
    tombstones
    activeGenerations := generationsOf profiles
    connectionStates := fun profileId =>
      if lacksSessionSecret profiles profileId then some .needsCredential
      else if model.keepsConnection profiles profileId then model.connectionStates profileId
      else none
    workspaces := fun key =>
      if generationsOf profiles key.profileId = some key.profileGeneration then
        model.workspaces key
      else none
    selectedProfile :=
      if model.selectedProfile.all fun selected => !profiles.any (·.id = selected) then
        profiles.head?.map (·.id)
      else model.selectedProfile
    pendingRetags := fun _ => none
    configUncertain := false }

def saveIsCurrent (model : UiModel) (profileId : ProfileId)
    (previousGeneration : Option ProfileGeneration) (profileGeneration : ProfileGeneration) :
    Bool :=
  model.aboveTombstone profileId profileGeneration &&
    match previousGeneration with
    | some previous =>
      (model.activeGenerations profileId).any fun active =>
        active == previous || active == profileGeneration
    | none => (model.activeGenerations profileId).all (· ≤ profileGeneration)

def foldSaved (model : UiModel) (profileId : ProfileId)
    (previousGeneration : Option ProfileGeneration) (profileGeneration : ProfileGeneration)
    (sessionRetained : Bool) : UiModel :=
  if !model.saveIsCurrent profileId previousGeneration profileGeneration then model
  else
    let settled : UiModel :=
      match sessionRetained, previousGeneration with
      | true, some previous =>
        { model with pendingRetags :=
            Function.update model.pendingRetags profileId (some (previous, profileGeneration)) }
      | _, _ =>
        { model with
          pendingRetags := Function.update model.pendingRetags profileId none
          connectionStates := Function.update model.connectionStates profileId none }
    { settled with
      activeGenerations :=
        Function.update model.activeGenerations profileId (some profileGeneration) }

def foldDeleted (model : UiModel) (profileId : ProfileId)
    (deletionGeneration : ProfileGeneration) : UiModel :=
  if (model.activeGenerations profileId).any (· ≥ deletionGeneration) then model
  else
    let profiles := model.profiles.filter (·.id ≠ profileId)
    { model with
      tombstones := Function.update model.tombstones profileId
        (some (buryAt (model.tombstones profileId) deletionGeneration))
      activeGenerations := Function.update model.activeGenerations profileId none
      profiles
      connectionStates := Function.update model.connectionStates profileId none
      workspaces := fun key => if key.profileId = profileId then none else model.workspaces key
      selectedProfile :=
        if model.selectedProfile = some profileId then profiles.head?.map (·.id)
        else model.selectedProfile }

def foldCatalogSession (model : UiModel) (profileId : ProfileId)
    (sessionGeneration : Option SessionGeneration) (disposition : Option SessionDisposition) :
    UiModel :=
  match sessionGeneration, disposition with
  | some sessionGeneration, some disposition =>
    let isProtected := match model.connectionStates profileId with
      | some (.pending _) | some .closing => true
      | some (.connected visible) => visible != sessionGeneration
      | _ => false
    if isProtected then model
    else
      model.setConnection profileId <|
        match disposition with
        | .keep => .connected sessionGeneration
        | .evict => .disconnected
  | _, _ => model

def applyConnectionOutcome (model : UiModel) (profileId : ProfileId) :
    ConnectionFailureOutcome → UiModel
  | .preserve => model
  | .disconnected | .unknown => model.setConnection profileId .disconnected
  | .needsCredential => model.setConnection profileId .needsCredential

def applyRedisSessionTruth (model : UiModel) (profileId : ProfileId)
    (sessionGeneration : Option SessionGeneration)
    (sessionDisposition : Option SessionDisposition)
    (connectionOutcome : ConnectionFailureOutcome) : UiModel :=
  match sessionGeneration, sessionDisposition with
  | some sessionGeneration, some .keep =>
    model.setConnection profileId (.connected sessionGeneration)
  | _, some .evict => model.setConnection profileId .disconnected
  | _, _ => model.applyConnectionOutcome profileId connectionOutcome

def foldOperationFailed (model : UiModel) (identity : RequestIdentity) (kind : OperationKind)
    (error : PublicOperationError) (connectionOutcome : ConnectionFailureOutcome) : UiModel :=
  let profileId := identity.profileId
  if !model.eventIsCurrent profileId identity.profileGeneration then model
  else
    let awaited :=
      model.connectionStates profileId == some (.pending identity.operationId)
    let correlated := match model.connectionStates profileId with
      | some (.pending other) => other == identity.operationId
      | _ => true
    let finish (settled : UiModel) : UiModel :=
      if correlated then settled.applyConnectionOutcome profileId connectionOutcome else settled
    match kind with
    | .connectProfile | .reconnectProfile =>
      if awaited then
        model.setConnection profileId <|
          if error.summary = .credentialRequired && connectionOutcome = .needsCredential then
            .needsCredential
          else .failed error.summary
      else model
    | .disconnectProfile =>
      finish (if awaited then model.setConnection profileId (.failed error.summary) else model)
    | .executeRead | .executeMutation =>
      finish (model.workspaceMut (workspaceKey identity) fun workspace =>
        if workspace.pendingExecute = some identity.operationId then
          { workspace with pendingExecute := none, error := some error }
        else workspace)
    | _ => finish model

/-- Folding of the Redis events that carry a request: the page becomes stale and the request
is offered again. -/
def foldRedisFailure (model : UiModel) (identity : RequestIdentity)
    (sessionGeneration : Option SessionGeneration)
    (sessionDisposition : Option SessionDisposition)
    (connectionOutcome : ConnectionFailureOutcome)
    (change : ProfileWorkspace → ProfileWorkspace) : UiModel :=
  if model.redisEventIsCurrent (workspaceKey identity) sessionGeneration then
    (model.workspaceMut (workspaceKey identity) change).applyRedisSessionTruth
      identity.profileId sessionGeneration sessionDisposition connectionOutcome
  else model

def fold (model : UiModel) : UiEvent → UiModel
  | .profilesLoaded operationId profiles config =>
    if model.profilesOperationIsNewer operationId then
      ({ model with
        lastProfilesOperation := some operationId
        profileLoadSucceeded := true
        config } : UiModel).foldProfiles profiles
    else model
  | .profilesFailed operationId _ _ =>
    if model.profilesOperationIsNewer operationId then
      { model with lastProfilesOperation := some operationId }
    else model
  | .profileSaved _ profileId previousGeneration profileGeneration sessionRetained _ =>
    model.foldSaved profileId previousGeneration profileGeneration sessionRetained
  | .credentialsStored identity =>
    if model.eventIsCurrent identity.profileId identity.profileGeneration then
      let profiles :=
        model.profiles.modify (model.profiles.findIdx (·.id = identity.profileId))
          ({ · with hasCurrentSessionSecret := true })
      let stored := { model with profiles }
      if model.connectionStates identity.profileId = some .needsCredential then
        stored.setConnection identity.profileId .disconnected
      else stored
    else model
  | .connectionReady identity sessionGeneration =>
    if model.eventIsCurrent identity.profileId identity.profileGeneration &&
        model.connectionStates identity.profileId = some (.pending identity.operationId) then
      model.setConnection identity.profileId (.connected sessionGeneration)
    else model
  | .connectionClosed identity postClose =>
    if model.eventIsCurrent identity.profileId identity.profileGeneration &&
        model.connectionStates identity.profileId = some (.pending identity.operationId) then
      model.setConnection identity.profileId <|
        match postClose with
        | .disconnected => .disconnected
        | .needsCredential => .needsCredential
    else model
  | .executeUnavailable identity _ =>
    if model.eventIsCurrent identity.profileId identity.profileGeneration then
      model.workspaceMut (workspaceKey identity) fun workspace =>
        if workspace.pendingExecute = some identity.operationId then
          { workspace with pendingExecute := none }
        else workspace
    else model
  | .queryFinished identity sessionGeneration result =>
    if model.eventIsCurrent identity.profileId identity.profileGeneration then
      -- The lookup creates the workspace even where the operation is not the pending one.
      let key := workspaceKey identity
      if ((model.workspaces key).getD {}).pendingExecute = some identity.operationId then
        (model.workspaceMut key fun workspace =>
          { workspace with pendingExecute := none, error := none, result := some result })
          |>.setConnection identity.profileId (.connected sessionGeneration)
      else model.workspaceMut key id
    else model
  | .catalogPageLoaded page sessionGeneration sessionDisposition =>
    if model.eventIsCurrent page.identity.profileId page.identity.profileGeneration then
      (model.foldCatalogSession page.identity.profileId (some sessionGeneration)
        (some sessionDisposition)).workspaceMut (workspaceKey page.identity) fun workspace =>
          { workspace with catalogRetry := none, catalogError := none, catalogPage := some page }
    else model
  | .catalogPageFailed request _ error sessionGeneration sessionDisposition =>
    if model.eventIsCurrent request.identity.profileId request.identity.profileGeneration then
      (model.foldCatalogSession request.identity.profileId sessionGeneration
        sessionDisposition).workspaceMut (workspaceKey request.identity) fun workspace =>
          { workspace with
            catalogPage := workspace.catalogPage.map ({ · with stale := true })
            catalogRetry := some request
            catalogError := some error }
    else model
  | .redisKeysLoaded page sessionGeneration sessionDisposition =>
    if model.redisEventIsCurrent (workspaceKey page.identity) (some sessionGeneration) then
      (model.workspaceMut (workspaceKey page.identity) fun workspace =>
        { workspace with
          redisScanRetry := none
          redisScanError := none
          redisKeyPage := some page }).applyRedisSessionTruth page.identity.profileId
        (some sessionGeneration) (some sessionDisposition) .preserve
    else model
  | .redisKeysFailed request error sessionGeneration sessionDisposition connectionOutcome =>
    model.foldRedisFailure request.identity sessionGeneration sessionDisposition
      connectionOutcome fun workspace =>
        { workspace with
          redisKeyPage := workspace.redisKeyPage.map ({ · with stale := true })
          redisScanRetry := some request
          redisScanError := some error }
  | .redisKeyInspected preview sessionGeneration sessionDisposition =>
    if model.redisEventIsCurrent (workspaceKey preview.identity) (some sessionGeneration) then
      (model.workspaceMut (workspaceKey preview.identity) fun workspace =>
        { workspace with
          redisInspectRetry := none
          redisInspectError := none
          redisValuePreview := some preview }).applyRedisSessionTruth preview.identity.profileId
        (some sessionGeneration) (some sessionDisposition) .preserve
    else model
  | .redisKeyInspectFailed request error sessionGeneration sessionDisposition
      connectionOutcome =>
    model.foldRedisFailure request.identity sessionGeneration sessionDisposition
      connectionOutcome fun workspace =>
        { workspace with
          redisValuePreview := workspace.redisValuePreview.map ({ · with stale := true })
          redisInspectRetry := some request
          redisInspectError := some error }
  | .operationFailed identity _ kind _ error _ connectionOutcome =>
    model.foldOperationFailed identity kind error connectionOutcome
  | .profileDeleted identity _ =>
    model.foldDeleted identity.profileId identity.profileGeneration
  | .configUncertain operationId =>
    if model.profilesOperationIsNewer operationId then
      { model with
        lastProfilesOperation := some operationId
        configUncertain := true
        pendingRetags := fun _ => none
        connectionStates := fun _ => none
        workspaces := fun key =>
          (model.workspaces key).map ({ · with pendingExecute := none }) }
    else model
  | .runtimeShutdown _ =>
    { model with
      connectionStates := fun profileId =>
        if (model.activeGenerations profileId).isSome then some .closing
        else model.connectionStates profileId
      workspaces := fun key => (model.workspaces key).map ({ · with pendingExecute := none }) }
  | .profileCreateFailed _ _ _ _ | .profileUpdateFailed _ _ _ | .credentialsStoreFailed _ _ _
  | .draftConnectionReady _ _ | .draftOperationFailed _ _ _ _ | .resultExported _ _
  | .resultExportFailed _ _ _ => model

end UiModel

end Dbotter.Ui
