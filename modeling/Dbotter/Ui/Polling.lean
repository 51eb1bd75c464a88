import Dbotter.Ui.App

/-!
Consuming the events of the runtime.

`pollEvents` drains the event channel and consumes one event after another. An event passes
the Redis gate, then reaches the explorers, the table of active operations, the profile editor
and the model, in this order.
-/

namespace Dbotter.Ui
open Dbotter.Utf8 Dbotter.Configuration Dbotter.Service Dbotter.Drivers

namespace DbotterApp

/-! ## The Redis gate -/

/-- The request of a Redis event, its kind and the session it reports. -/
def redisResourceEventIdentity : UiEvent →
    Option (RequestIdentity × OperationKind × Option SessionGeneration)
  | .redisKeysLoaded page session _ => some (page.identity, .browseRedis, some session)
  | .redisKeysFailed request _ session _ _ => some (request.identity, .browseRedis, session)
  | .redisKeyInspected preview session _ => some (preview.identity, .inspectRedis, some session)
  | .redisKeyInspectFailed request _ session _ _ =>
    some (request.identity, .inspectRedis, session)
  | _ => none

inductive RedisResourceEventDisposition
  | notRedis
  | apply
  | ignore
  | staleTerminal (operationId : OperationId)
  deriving DecidableEq, Repr

def redisResourceEventDisposition (app : DbotterApp) (event : UiEvent) :
    RedisResourceEventDisposition :=
  match redisResourceEventIdentity event with
  | none => .notRedis
  | some (identity, kind, session) =>
    if app.model.configUncertain ||
        app.model.activeGenerations identity.profileId != some identity.profileGeneration ||
        app.activeOperations identity.profileId !=
          some ⟨identity.operationId, identity.profileGeneration, kind⟩ then .ignore
    else if (app.model.connectionState identity.profileId).acceptsRedisEventSession session then
      .apply
    else .staleTerminal identity.operationId

/-! ## The explorers -/

/-- Whether the active operation of the profile is this one, of one of these kinds. -/
def activeIs (app : DbotterApp) (identity : RequestIdentity) (kinds : List OperationKind) :
    Bool :=
  (app.activeOperations identity.profileId).any fun active =>
    active.operationId = identity.operationId &&
      active.profileGeneration = identity.profileGeneration && kinds.contains active.kind

def removeRedisExplorer (app : DbotterApp) (key : WorkspaceKey) : DbotterApp :=
  { app with
    redisExplorers := Function.update app.redisExplorers key none
    visibleRedisWorkspace :=
      if app.visibleRedisWorkspace = some key then none else app.visibleRedisWorkspace }

def clearRedisExplorers (app : DbotterApp) : DbotterApp :=
  { app with redisExplorers := fun _ => none, visibleRedisWorkspace := none }

/-- The Redis explorer that the end of a connection operation closes. -/
def closedRedisWorkspace (app : DbotterApp) : UiEvent → Option WorkspaceKey
  | .connectionClosed identity _ =>
    if app.activeIs identity [.disconnectProfile] then some (workspaceKey identity) else none
  | .connectionReady identity _ =>
    if app.activeIs identity [.connectProfile, .reconnectProfile] then
      some (workspaceKey identity)
    else none
  | .operationFailed identity _ kind _ _ _ outcome =>
    if (kind = .disconnectProfile || kind = .reconnectProfile) && outcome ≠ .preserve &&
        app.activeIs identity [kind] then some (workspaceKey identity)
    else none
  | _ => none

def foldRedisExplorerEvent (app : DbotterApp) (event : UiEvent) : DbotterApp :=
  match redisResourceEventIdentity event with
  | some (identity, _, _) =>
    let key := workspaceKey identity
    { app with
      redisExplorers := Function.update app.redisExplorers key
        ((app.redisExplorers key).map (·.handleEvent event)) }
  | none =>
    match event with
    | .configUncertain _ | .runtimeShutdown _ => app.clearRedisExplorers
    | event => (app.closedRedisWorkspace event).elim app app.removeRedisExplorer

def mysqlExplorerMut (app : DbotterApp) (key : WorkspaceKey)
    (change : MySqlExplorerState → MySqlExplorerState) : DbotterApp :=
  { app with
    mysqlExplorers := Function.update app.mysqlExplorers key
      (some (change ((app.mysqlExplorers key).getD {}))) }

def foldMysqlExplorerEvent (app : DbotterApp) : UiEvent → DbotterApp
  | .catalogPageLoaded page _ _ =>
    app.mysqlExplorerMut (workspaceKey page.identity) (·.handleLoaded page)
  | .catalogPageFailed request _ error _ _ =>
    app.mysqlExplorerMut (workspaceKey request.identity) (·.handleFailed request error.summary)
  | .profileDeleted identity _ =>
    { app with
      mysqlExplorers := Function.update app.mysqlExplorers (workspaceKey identity) none }
  | _ => app

/-! ## Errors and credentials -/

/-- The error of a failed operation again, with the retry its recipe allows. -/
def withRecipe (kind : OperationKind) (summary : PublicSummary) (identity : RequestIdentity)
    (error : PublicOperationError) : PublicOperationError :=
  .newOrInternal kind summary error.code
    (.profileWithRecipe identity.profileId identity.operationId identity.operationId)

def attachRetryRecipe (app : DbotterApp) : UiEvent → UiEvent
  | .operationFailed identity session kind summary error disposition outcome =>
    if (app.retryRecipes.get identity.operationId).any (·.operationKind = kind) then
      .operationFailed identity session kind summary (withRecipe kind summary identity error)
        disposition outcome
    else .operationFailed identity session kind summary error disposition outcome
  | .catalogPageFailed request summary error session disposition =>
    if (app.retryRecipes.get request.identity.operationId).isSome then
      .catalogPageFailed request summary
        (withRecipe .browseMySql summary request.identity error) session disposition
    else .catalogPageFailed request summary error session disposition
  | .redisKeysFailed request error session disposition outcome =>
    if (app.retryRecipes.get request.identity.operationId).isSome then
      .redisKeysFailed request (withRecipe .browseRedis error.summary request.identity error)
        session disposition outcome
    else .redisKeysFailed request error session disposition outcome
  | .redisKeyInspectFailed request error session disposition outcome =>
    if (app.retryRecipes.get request.identity.operationId).isSome then
      .redisKeyInspectFailed request
        (withRecipe .inspectRedis error.summary request.identity error) session disposition
        outcome
    else .redisKeyInspectFailed request error session disposition outcome
  | event => event

def captureCommonError (app : DbotterApp) : UiEvent → DbotterApp
  | .profilesFailed operationId _ error | .profileCreateFailed operationId _ _ error
  | .draftOperationFailed operationId _ _ error | .resultExportFailed operationId _ error =>
    { app with commonError := some ⟨operationId, error⟩ }
  | .profileUpdateFailed identity _ error | .credentialsStoreFailed identity _ error =>
    { app with commonError := some ⟨identity.operationId, error⟩ }
  | .operationFailed identity _ kind _ error _ _ =>
    if kind = .executeRead || kind = .executeMutation then app
    else { app with commonError := some ⟨identity.operationId, error⟩ }
  | .configUncertain _ | .runtimeShutdown _ => { app with commonError := none }
  | _ => app

/-- The store operation that an event ends for the open prompt, and whether it succeeded. -/
def credentialTerminal (app : DbotterApp) : UiEvent → Option (RequestIdentity × Bool)
  | .credentialsStored identity => some (identity, true)
  | .credentialsStoreFailed identity _ _ => some (identity, false)
  | .operationFailed identity _ _ _ _ _ _ =>
    if app.credentialPrompt.any (·.storeOperationId = some identity.operationId) then
      some (identity, false)
    else none
  | _ => none

def handleCredentialTerminal (app : DbotterApp) (event : UiEvent) :
    DbotterApp × Option (OperationRecipeId × OperationKind) :=
  match event with
  | .configUncertain _ | .runtimeShutdown _ => (app.cancelCredentialPrompt, none)
  | event =>
    match app.credentialTerminal event, app.credentialPrompt with
    | some (identity, stored), some prompt =>
      if prompt.storeOperationId = some identity.operationId ∧
          prompt.profileId = identity.profileId ∧
          prompt.profileGeneration = identity.profileGeneration then
        let closed := { app with credentialPrompt := none }
        if !stored || app.model.configUncertain ||
            app.model.activeGenerations identity.profileId != some identity.profileGeneration
        then (closed.removeRecipe prompt.retryRecipeId, none)
        else (closed, prompt.retryRecipeId.map fun recipeId => (recipeId, prompt.sourceOperation))
      else (app, none)
    | _, _ => (app, none)

/-! ## Active operations -/

/-- The profile and the operation that an event ends, among the operations that may be
active. -/
def terminalOf : UiEvent → Option (ProfileId × OperationId)
  | .connectionReady identity _ | .connectionClosed identity _ | .queryFinished identity _ _
  | .executeUnavailable identity _ | .operationFailed identity _ _ _ _ _ _
  | .profileDeleted identity _ => some (identity.profileId, identity.operationId)
  | .catalogPageLoaded page _ _ => some (page.identity.profileId, page.identity.operationId)
  | .catalogPageFailed request _ _ _ _ =>
    some (request.identity.profileId, request.identity.operationId)
  | .redisKeysLoaded page _ _ => some (page.identity.profileId, page.identity.operationId)
  | .redisKeysFailed request _ _ _ _ =>
    some (request.identity.profileId, request.identity.operationId)
  | .redisKeyInspected preview _ _ =>
    some (preview.identity.profileId, preview.identity.operationId)
  | .redisKeyInspectFailed request _ _ _ _ =>
    some (request.identity.profileId, request.identity.operationId)
  | _ => none

/-- Marks the operation that a pending delete has displaced as finished. -/
def markPriorFinished (app : DbotterApp) (profileId : ProfileId) (operationId : OperationId) :
    DbotterApp :=
  { app with
    pendingDeletes := Function.update app.pendingDeletes profileId
      ((app.pendingDeletes profileId).map fun pending =>
        if pending.priorActive.any (·.operationId = operationId) then
          { pending with priorFinished := true }
        else pending) }

def deactivate (app : DbotterApp) (profileId : ProfileId) (operationId : OperationId) :
    DbotterApp :=
  if (app.activeOperations profileId).any (·.operationId = operationId) then
    { app with activeOperations := Function.update app.activeOperations profileId none }
  else app

/-- The delete failed: the operation it displaced is active again where the failure is known
not to have committed and that operation has not ended meanwhile. -/
def finishFailedDelete (app : DbotterApp) (profileId : ProfileId) (pending : PendingDelete)
    (summary : PublicSummary) : DbotterApp :=
  let settled := ({ app with
    pendingDeletes := Function.update app.pendingDeletes profileId none }).deactivate profileId
      pending.operationId
  if deleteFailureIsKnownNonCommitted summary && !pending.priorFinished &&
      app.model.activeGenerations profileId == some pending.profileGeneration &&
      pending.priorActive.isSome then
    { settled with
      activeOperations := Function.update settled.activeOperations profileId pending.priorActive }
  else settled

/-- The pending delete whose failure an event reports. -/
def failedDelete (app : DbotterApp) : UiEvent → Option (PendingDelete × PublicSummary)
  | .operationFailed identity _ .deleteProfile summary _ _ _ =>
    match app.pendingDeletes identity.profileId with
    | some pending =>
      if pending.operationId = identity.operationId then some (pending, summary) else none
    | none => none
  | _ => none

def keepsRecipe : UiEvent → Bool
  | .operationFailed _ _ _ _ _ _ _ | .catalogPageFailed _ _ _ _ _ | .redisKeysFailed _ _ _ _ _
  | .redisKeyInspectFailed _ _ _ _ _ => true
  | _ => false

def finishActiveOperation (app : DbotterApp) (event : UiEvent) : DbotterApp :=
  match event with
  | .configUncertain _ | .runtimeShutdown _ =>
    { app with
      activeOperations := fun _ => none
      pendingDeletes := fun _ => none
      retryRecipes := {} }
  | event =>
    match terminalOf event with
    | none => app
    | some (profileId, operationId) =>
      let app := app.markPriorFinished profileId operationId
      match app.failedDelete event with
      | some (pending, summary) => app.finishFailedDelete profileId pending summary
      | none =>
        let app := match event with
          | .profileDeleted _ _ =>
            { app with pendingDeletes := Function.update app.pendingDeletes profileId none }
          | _ => app
        let app := app.deactivate profileId operationId
        if keepsRecipe event then app else app.removeRecipe (some operationId)

/-! ## One event -/

/-- The profile to connect once the list that was asked for after a save has been folded: the
event answers the awaited refresh. -/
def connectFollowUp (app : DbotterApp) (event : UiEvent) : Option (ProfileId × Bool) := do
  let (profileId, expected) ← app.pendingConnectAfterRefresh
  match event with
  | .profilesLoaded operationId _ _ =>
    if operationId = expected then
      some (profileId, app.model.profilesOperationIsNewer operationId)
    else none
  | .profilesFailed operationId _ _ =>
    if operationId = expected then some (profileId, false) else none
  | _ => none

/-- The end of a save: the model folds it, the editor closes and the profiles are loaded
again. -/
def finishSave (app : DbotterApp) (event : UiEvent) (profileId : ProfileId) (connect : Bool) :
    DbotterApp :=
  let folded := app.model.fold event
  ({ app with
    model := { folded with selectedProfile := some profileId }
    profileEditor := none }).submit .refreshProfiles
      (fun o app =>
        if connect then { app with pendingConnectAfterRefresh := some (profileId, o) } else app)
      (fun app => if connect then { app with pendingConnectAfterRefresh := none } else app)

def foldIntoModel (app : DbotterApp) (event : UiEvent) : DbotterApp :=
  { app with model := app.model.fold event }

/-- What follows an event that the model has folded. -/
def followUp (app : DbotterApp) (connect : Option (ProfileId × Bool))
    (credentialRetry : Option (OperationRecipeId × OperationKind)) : DbotterApp :=
  let app := match connect with
    | none => app
    | some (profileId, accepted) =>
      let app := { app with pendingConnectAfterRefresh := none }
      if accepted && (app.model.activeGenerations profileId).isSome then
        ({ app with
          model := { app.model with selectedProfile := some profileId } }).submitTest profileId
      else app
  match credentialRetry with
  | none => app
  | some (recipeId, source) => app.retryRecipe recipeId (some source)

/-- The explorers, the active operations and the credential prompt after an event that passed
the gate. -/
def settleEvent (app : DbotterApp) (event : UiEvent) :
    DbotterApp × Option (OperationRecipeId × OperationKind) :=
  let app := app.captureCommonError event
  let (app, credentialRetry) := app.handleCredentialTerminal event
  let app := app.foldRedisExplorerEvent event
  let app := app.finishActiveOperation event
  (app.foldMysqlExplorerEvent event, credentialRetry)

/-- The editor hears of the event. -/
def notifyEditor (app : DbotterApp) (event : UiEvent) : DbotterApp × ProfileEventResult :=
  match app.profileEditor with
  | none => (app, .ignored)
  | some editor =>
    let (editor, result) := editor.handleEvent event
    ({ app with profileEditor := some editor }, result)

def applyEvent (app : DbotterApp) (event : UiEvent) : DbotterApp :=
  let event := app.attachRetryRecipe event
  let (app, credentialRetry) := app.settleEvent event
  let (app, result) := app.notifyEditor event
  match result with
  | .saved profileId => app.finishSave event profileId false
  | .savedAndConnect profileId => app.finishSave event profileId true
  | .failed => app
  | .ignored =>
    let connect := app.connectFollowUp event
    (app.foldIntoModel event).followUp connect credentialRetry

def consumeEvent (app : DbotterApp) (event : UiEvent) : DbotterApp :=
  match app.redisResourceEventDisposition event with
  | .ignore => app
  | .staleTerminal operationId =>
    (app.finishActiveOperation event).removeRecipe (some operationId)
  | .notRedis | .apply => app.applyEvent event

/-! ## Polling -/

def pruneMysqlExplorers (app : DbotterApp) : DbotterApp :=
  { app with
    mysqlExplorers := fun key =>
      if app.model.activeGenerations key.profileId = some key.profileGeneration then
        app.mysqlExplorers key
      else none }

def pruneRedisExplorers (app : DbotterApp) : DbotterApp :=
  if app.model.configUncertain then app.clearRedisExplorers
  else
    let redisExplorers : Table WorkspaceKey RedisExplorer := fun key =>
      if app.model.activeGenerations key.profileId = some key.profileGeneration then
        app.redisExplorers key
      else none
    { app with
      redisExplorers
      visibleRedisWorkspace := app.visibleRedisWorkspace.filter (redisExplorers · |>.isSome) }

def pruneActiveOperations (app : DbotterApp) : DbotterApp :=
  let generations := app.model.activeGenerations
  let pruned :=
    { app with
      activeOperations := fun profileId =>
        (app.activeOperations profileId).filter (generations profileId = some ·.profileGeneration)
      pendingDeletes := fun profileId =>
        (app.pendingDeletes profileId).filter (generations profileId = some ·.profileGeneration)
      retryRecipes := app.retryRecipes.retainCurrent generations }
  if app.credentialPrompt.any fun prompt =>
      generations prompt.profileId ≠ some prompt.profileGeneration then
    pruned.cancelCredentialPrompt
  else pruned

/-- The dialogs follow the state of the configuration. -/
def refreshDialogs (app : DbotterApp) : DbotterApp :=
  { app with
    profileEditor := app.profileEditor.map (·.setConfigUncertain app.model.configUncertain)
    deleteConfirmation := app.deleteConfirmation.map fun confirmation =>
      { confirmation with
        migrationBackup := app.model.config.migrationBackup
        migrationConfirmed :=
          confirmation.migrationConfirmed && app.model.config.migrationBackup.isSome } }

def prune (app : DbotterApp) : DbotterApp :=
  app.pruneMysqlExplorers.pruneRedisExplorers.pruneActiveOperations.refreshDialogs

def eventDrainLimit : Nat := 128

def pollEvents (app : DbotterApp) : DbotterApp :=
  let (events, port) := app.port.drainEvents eventDrainLimit
  (events.foldl consumeEvent { app with port }).prune

/-- `DbotterApp::new`: the first command loads the profiles. -/
def new : DbotterApp := submitRefresh {}

end DbotterApp

end Dbotter.Ui
