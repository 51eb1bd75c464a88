import Dbotter.Ui.Explorers
import Dbotter.Ui.Port

/-!
The application state of the desktop and what the user can submit.

`DbotterApp` owns the port, the model and the explorers. A submission takes a fresh operation,
offers a command to the port and, where the port accepts it, marks the operation as active.
The state of exports and of the text editor, the selection inside a view and the status line
are left out.
-/

namespace Dbotter.Ui
open Dbotter.Utf8 Dbotter.Configuration Dbotter.Service Dbotter.Drivers

structure ActiveOperation where
  operationId : OperationId
  profileGeneration : ProfileGeneration
  kind : OperationKind
  deriving DecidableEq, Repr

structure PendingDelete where
  operationId : OperationId
  profileGeneration : ProfileGeneration
  priorActive : Option ActiveOperation
  priorFinished : Bool
  deriving DecidableEq, Repr

/-! ## Retry recipes -/

inductive RetryRecipe
  | connect (key : WorkspaceKey) (timeoutMs : Nat)
  | reconnect (key : WorkspaceKey) (timeoutMs : Nat)
  | catalog (request : CatalogRequest)
  | redisScan (request : RedisScanRequest) (restart : Bool)
  | redisInspect (request : RedisKeyInspectRequest)
  deriving DecidableEq, Repr

namespace RetryRecipe

def key : RetryRecipe → WorkspaceKey
  | .connect key _ | .reconnect key _ => key
  | .catalog request => workspaceKey request.identity
  | .redisScan request _ => workspaceKey request.identity
  | .redisInspect request => workspaceKey request.identity

def operationKind : RetryRecipe → OperationKind
  | .connect _ _ => .connectProfile
  | .reconnect _ _ => .reconnectProfile
  | .catalog _ => .browseMySql
  | .redisScan _ _ => .browseRedis
  | .redisInspect _ => .inspectRedis

end RetryRecipe

def retryRecipeLimit : Nat := 64

/-- The recipes in the order of their registration, oldest first: the map and the queue of the
source in one list. -/
structure RetryRecipeRegistry where
  entries : List (OperationRecipeId × RetryRecipe) := []
  deriving DecidableEq, Repr

namespace RetryRecipeRegistry

def remove (registry : RetryRecipeRegistry) (recipeId : OperationRecipeId) :
    RetryRecipeRegistry :=
  ⟨registry.entries.filter (·.1 ≠ recipeId)⟩

def register (registry : RetryRecipeRegistry) (operationId : OperationId)
    (recipe : RetryRecipe) : RetryRecipeRegistry :=
  let entries := (registry.remove operationId).entries ++ [(operationId, recipe)]
  ⟨entries.drop (entries.length - retryRecipeLimit)⟩

def get (registry : RetryRecipeRegistry) (recipeId : OperationRecipeId) : Option RetryRecipe :=
  (registry.entries.find? (·.1 = recipeId)).map (·.2)

def retainCurrent (registry : RetryRecipeRegistry)
    (generations : Table ProfileId ProfileGeneration) : RetryRecipeRegistry :=
  ⟨registry.entries.filter fun entry =>
    generations entry.2.key.profileId = some entry.2.key.profileGeneration⟩

end RetryRecipeRegistry

/-! ## Dialogs -/

/-- The prompt for a session credential, without the text typed so far. -/
structure CredentialPrompt where
  profileId : ProfileId
  profileGeneration : ProfileGeneration
  sourceOperation : OperationKind
  retryRecipeId : Option OperationRecipeId
  storeOperationId : Option OperationId
  deriving DecidableEq, Repr

structure VisibleError where
  operationId : OperationId
  error : PublicOperationError
  deriving DecidableEq, Repr

structure DeleteConfirmation where
  profileId : ProfileId
  profileGeneration : ProfileGeneration
  activeKind : Option OperationKind
  migrationBackup : Option Text
  migrationConfirmed : Bool
  deriving DecidableEq, Repr

def deleteFailureIsKnownNonCommitted : PublicSummary → Bool
  | .invalidInput | .resourceBusy | .resourceStale | .configWriteNotCommitted => true
  | _ => false

/-! ## The profile editor -/

inductive EditorMode
  | add
  | edit (originalId : ProfileId) (expectedGeneration : ProfileGeneration)
  deriving DecidableEq, Repr

inductive PendingSave
  | create (operationId : OperationId) (draftId : DraftId) (connectAfterSave : Bool)
  | update (operationId : OperationId) (key : WorkspaceKey) (connectAfterSave : Bool)
  deriving DecidableEq, Repr

def PendingSave.connectAfterSave : PendingSave → Bool
  | .create _ _ connectAfterSave | .update _ _ connectAfterSave => connectAfterSave

/-- The profile form without its fields. -/
structure ProfileEditor where
  mode : EditorMode
  draftId : DraftId
  pendingSave : Option PendingSave := none
  pendingDraftTest : Option OperationId := none
  configUncertain : Bool := false
  deriving DecidableEq, Repr

/-- What the fields of the form amount to once they validate. -/
structure ValidatedForm where
  explicitId : Option ProfileId
  draft : ConnectionDraft
  secretUpdate : SessionSecretUpdate
  migrationConsent : MigrationConsent

inductive ProfileEventResult
  | ignored
  | saved (profileId : ProfileId)
  | savedAndConnect (profileId : ProfileId)
  | failed
  deriving DecidableEq, Repr

namespace ProfileEditor

def setConfigUncertain (editor : ProfileEditor) (configUncertain : Bool) : ProfileEditor :=
  { editor with
    configUncertain
    pendingDraftTest := if configUncertain then none else editor.pendingDraftTest }

/-- Whether the editor waits for the save that a `ProfileSaved` of this operation reports. -/
def awaitsSave (editor : ProfileEditor) (operationId : OperationId) (profileId : ProfileId) :
    Bool :=
  match editor.pendingSave with
  | some (.create pending _ _) => pending == operationId
  | some (.update pending key _) => pending == operationId && key.profileId == profileId
  | none => false

def handleEvent (editor : ProfileEditor) : UiEvent → ProfileEditor × ProfileEventResult
  | .configUncertain _ => (editor.setConfigUncertain true, .ignored)
  | .profileSaved operationId profileId _ _ _ _ =>
    if !editor.configUncertain && editor.awaitsSave operationId profileId then
      ({ editor with pendingSave := none },
        if editor.pendingSave.any PendingSave.connectAfterSave then .savedAndConnect profileId
        else .saved profileId)
    else (editor, .ignored)
  | .profileCreateFailed operationId draftId _ _ =>
    match editor.pendingSave with
    | some (.create pending pendingDraft _) =>
      if !editor.configUncertain && pending == operationId && pendingDraft == draftId then
        ({ editor with pendingSave := none }, .failed)
      else (editor, .ignored)
    | _ => (editor, .ignored)
  | .profileUpdateFailed identity _ _ =>
    match editor.pendingSave with
    | some (.update pending key _) =>
      if !editor.configUncertain && pending == identity.operationId &&
          key == workspaceKey identity then
        ({ editor with pendingSave := none }, .failed)
      else (editor, .ignored)
    | _ => (editor, .ignored)
  | .draftConnectionReady operationId draftId | .draftOperationFailed operationId draftId _ _ =>
    if !editor.configUncertain && draftId == editor.draftId &&
        editor.pendingDraftTest == some operationId then
      ({ editor with pendingDraftTest := none }, .ignored)
    else (editor, .ignored)
  | _ => (editor, .ignored)

/-- The command of a save, and what the editor then waits for. -/
def saveCommand (editor : ProfileEditor) (operationId : OperationId) (form : ValidatedForm)
    (connectAfterSave : Bool) : UiCommand × PendingSave :=
  match editor.mode with
  | .add =>
    (.createProfile ⟨editor.draftId, operationId, form.explicitId, form.draft,
        form.secretUpdate, form.migrationConsent⟩,
      .create operationId editor.draftId connectAfterSave)
  | .edit originalId expectedGeneration =>
    (.updateProfile ⟨originalId, expectedGeneration, operationId, form.draft,
        form.secretUpdate, form.migrationConsent⟩,
      .update operationId ⟨originalId, expectedGeneration⟩ connectAfterSave)

def blocked (editor : ProfileEditor) : Bool :=
  editor.configUncertain || editor.pendingSave.isSome || editor.pendingDraftTest.isSome

/-- Whether Save and Test can be clicked, for the driver that the form shows. -/
def actionsEnabled (editor : ProfileEditor) (driver : DriverKind) : Bool :=
  !editor.configUncertain && driver != .mongoDb && editor.pendingSave.isNone &&
    editor.pendingDraftTest.isNone

/-- Whether Cancel can be clicked. -/
def cancelEnabled (editor : ProfileEditor) : Bool :=
  editor.configUncertain || editor.pendingSave.isNone && editor.pendingDraftTest.isNone

end ProfileEditor

/-! ## The application -/

structure DbotterApp where
  port : UiPort := {}
  model : UiModel := {}
  mysqlExplorers : Table WorkspaceKey MySqlExplorerState := fun _ => none
  profileEditor : Option ProfileEditor := none
  redisExplorers : Table WorkspaceKey RedisExplorer := fun _ => none
  visibleRedisWorkspace : Option WorkspaceKey := none
  activeOperations : Table ProfileId ActiveOperation := fun _ => none
  pendingDeletes : Table ProfileId PendingDelete := fun _ => none
  retryRecipes : RetryRecipeRegistry := {}
  credentialPrompt : Option CredentialPrompt := none
  commonError : Option VisibleError := none
  deleteConfirmation : Option DeleteConfirmation := none
  nextDraftId : DraftId := 1
  pendingConnectAfterRefresh : Option (ProfileId × OperationId) := none

namespace DbotterApp

/-- Takes a fresh operation, offers its command, and goes on according to the answer. -/
def submit (app : DbotterApp) (command : OperationId → UiCommand)
    (accepted : OperationId → DbotterApp → DbotterApp)
    (refused : DbotterApp → DbotterApp) : DbotterApp :=
  let operationId := app.model.nextOperation.1
  let app := { app with model := app.model.nextOperation.2 }
  match app.port.trySubmit (command operationId) with
  | .ok port => accepted operationId { app with port }
  | .error _ => refused app

/-- Marks an accepted operation as the active one of its profile. -/
def activate (app : DbotterApp) (key : WorkspaceKey) (operationId : OperationId)
    (kind : OperationKind) : DbotterApp :=
  { app with
    activeOperations := Function.update app.activeOperations key.profileId
      (some ⟨operationId, key.profileGeneration, kind⟩) }

def registerRecipe (app : DbotterApp) (operationId : OperationId) (recipe : RetryRecipe) :
    DbotterApp :=
  { app with retryRecipes := app.retryRecipes.register operationId recipe }

def setPending (app : DbotterApp) (profileId : ProfileId) (operationId : OperationId) :
    DbotterApp :=
  { app with model := app.model.setConnection profileId (.pending operationId) }

def removeRecipe (app : DbotterApp) (recipeId : Option OperationRecipeId) : DbotterApp :=
  { app with retryRecipes := recipeId.elim app.retryRecipes app.retryRecipes.remove }

def cancelOperation (app : DbotterApp) (operationId : OperationId) : DbotterApp :=
  match app.port.trySubmit (.cancelOperation operationId) with
  | .ok port => { app with port }
  | .error _ => app

def submitRefresh (app : DbotterApp) : DbotterApp :=
  app.submit .refreshProfiles (fun _ app => app) id

/-! ## Connecting -/

def connectionBusy (app : DbotterApp) (profileId : ProfileId) : Bool :=
  (app.model.connectionState profileId).isPending || (app.activeOperations profileId).isSome

def submitConnectExact (app : DbotterApp) (key : WorkspaceKey) (timeoutMs : Nat) : DbotterApp :=
  if app.connectionBusy key.profileId then app
  else
    app.submit (fun o => .testConnection ⟨key.profileId, key.profileGeneration, o⟩ timeoutMs)
      (fun o app => ((app.registerRecipe o (.connect key timeoutMs)).setPending key.profileId o)
        |>.activate key o .connectProfile) id

def submitReconnectExact (app : DbotterApp) (key : WorkspaceKey) (timeoutMs : Nat) :
    DbotterApp :=
  if app.connectionBusy key.profileId then app
  else
    app.submit (fun o => .reconnectProfile ⟨key.profileId, key.profileGeneration, o⟩ timeoutMs)
      (fun o app => ((app.registerRecipe o (.reconnect key timeoutMs)).setPending key.profileId o)
        |>.activate key o .reconnectProfile) id

def defaultTimeoutMs : Nat := 30000

def submitDisconnect (app : DbotterApp) (profileId : ProfileId) : DbotterApp :=
  if app.model.configUncertain then app
  else
    match app.model.activeGenerations profileId with
    | none => app
    | some generation =>
      -- Unlike the other submissions this one does not look at the active operation.
      app.submit (fun o => .disconnectProfile ⟨profileId, generation, o⟩)
        (fun o app => (app.setPending profileId o).activate ⟨profileId, generation⟩ o
          .disconnectProfile) id

def submitReconnect (app : DbotterApp) (profileId : ProfileId) : DbotterApp :=
  if app.model.configUncertain then app
  else
    match app.model.activeGenerations profileId with
    | none => app
    | some generation => app.submitReconnectExact ⟨profileId, generation⟩ defaultTimeoutMs

/-! ## Credentials -/

def cancelCredentialPrompt (app : DbotterApp) : DbotterApp :=
  { app.removeRecipe (app.credentialPrompt.bind (·.retryRecipeId)) with credentialPrompt := none }

def openCredentialPromptFor (app : DbotterApp) (key : WorkspaceKey)
    (sourceOperation : OperationKind) (retryRecipeId : Option OperationRecipeId) : DbotterApp :=
  if app.model.activeGenerations key.profileId != some key.profileGeneration then
    app.removeRecipe retryRecipeId
  else if !app.model.profiles.any (fun profile => profile.id = key.profileId &&
      profile.generation = key.profileGeneration && profile.persisted.credentialMode = .session)
  then app.removeRecipe retryRecipeId
  else
    { app.cancelCredentialPrompt with
      credentialPrompt := some
        ⟨key.profileId, key.profileGeneration, sourceOperation, retryRecipeId, none⟩ }

def openSessionCredentialPrompt (app : DbotterApp) (profileId : ProfileId) : DbotterApp :=
  match app.model.profiles.find? (·.id = profileId) with
  | none => app
  | some profile =>
    if app.model.activeGenerations profileId != some profile.generation ||
        profile.persisted.credentialMode != .session then app
    else
      let (recipeSeed, model) := app.model.nextOperation
      let key := ⟨profileId, profile.generation⟩
      (({ app with model }).registerRecipe recipeSeed (.connect key defaultTimeoutMs))
        |>.openCredentialPromptFor key .connectProfile (some recipeSeed)

def submitTest (app : DbotterApp) (profileId : ProfileId) : DbotterApp :=
  if app.model.configUncertain then app
  else
    match app.model.profiles.find? (·.id = profileId) with
    | none => app
    | some profile =>
      if !profile.isReady || !profile.canConnect then app
      else if app.model.activeGenerations profileId != some profile.generation then app
      else if profile.persisted.credentialMode = .session &&
          (!profile.hasCurrentSessionSecret ||
            app.model.connectionState profileId = .needsCredential) then
        app.openSessionCredentialPrompt profileId
      else app.submitConnectExact ⟨profileId, profile.generation⟩ defaultTimeoutMs

/-- `submit_credential_prompt`, with the secret typed so far. -/
def submitCredentialPrompt (app : DbotterApp) (typed : Option SessionSecret) : DbotterApp :=
  match app.credentialPrompt with
  | none => app
  | some prompt =>
    if prompt.storeOperationId.isSome then app
    else if app.model.configUncertain ||
        app.model.activeGenerations prompt.profileId != some prompt.profileGeneration then
      { app.removeRecipe prompt.retryRecipeId with credentialPrompt := none }
    else
      match typed with
      | none => app
      | some secret =>
        -- The lane is reserved before the operation is taken.
        match app.port.trySubmit (.storeCredentials
            ⟨prompt.profileId, prompt.profileGeneration, app.model.nextOperationId⟩
            prompt.sourceOperation secret) with
        | .ok port =>
          { app with
            port
            model := app.model.nextOperation.2
            credentialPrompt :=
              some { prompt with storeOperationId := some app.model.nextOperationId } }
        | .error _ => { app.removeRecipe prompt.retryRecipeId with credentialPrompt := none }

/-! ## Executing and browsing -/

/-- `EditorIntent::Execute`, as the editor has validated and classified it. -/
structure ExecuteIntent where
  key : WorkspaceKey
  language : QueryLanguage
  text : Text
  rowLimit : Nat
  timeoutMs : Nat
  operationKind : OperationKind
  operationKind_execute : operationKind = .executeRead ∨ operationKind = .executeMutation

def submitExecute (app : DbotterApp) (intent : ExecuteIntent) : DbotterApp :=
  let key := intent.key
  if app.model.configUncertain then app
  else if app.model.activeGenerations key.profileId != some key.profileGeneration then app
  else if (app.model.workspaces key).any (·.pendingExecute.isSome) then app
  else if (app.activeOperations key.profileId).isSome then app
  else
    app.submit
      (fun o => .execute ⟨key.profileId, key.profileGeneration, o⟩ intent.language intent.text
        intent.rowLimit intent.timeoutMs)
      (fun o app => { app.activate key o intent.operationKind with
        model := app.model.workspaceMut key ({ · with pendingExecute := some o }) }) id

/-- `EditorIntent::Cancel`. -/
def submitCancelExecute (app : DbotterApp) (operationId : OperationId) : DbotterApp :=
  if app.model.configUncertain then app
  else if (app.model.selectedWorkspaceKey.bind app.model.workspaces).any
      (·.pendingExecute = some operationId) then app.cancelOperation operationId
  else app

/-- `submit_result_export_to`, where `writable` says whether the chosen destination can take
the result. -/
def submitResultExportTo (app : DbotterApp) (resultId : ResultId) (writable : Bool) :
    DbotterApp :=
  if writable then
    app.submit (.exportResult · resultId) (fun _ app => { app with commonError := none }) id
  else
    let (operationId, model) := app.model.nextOperation
    { app with
      model
      commonError := some ⟨operationId, .newOrInternal .exportResult .invalidInput
        .exportDestination (.exported resultId operationId false)⟩ }

inductive MySqlExplorerIntent
  | refreshSchemas (namePrefix : Option Text)
  | loadMore (request : CatalogRequest)
  | loadRelations (schema : Text) (namePrefix token : Option Text)
  | loadColumns (schema relation : Text) (namePrefix token : Option Text)
  | retry (request : CatalogRequest)

def defaultCatalogPageSize : Nat := 50
def defaultCatalogTimeout : Duration := seconds 5

def MySqlExplorerIntent.request (intent : MySqlExplorerIntent) (identity : RequestIdentity) :
    CatalogRequest :=
  match intent with
  | .refreshSchemas namePrefix =>
    ⟨identity, .schemas, namePrefix, none, defaultCatalogPageSize, defaultCatalogTimeout⟩
  | .loadMore request | .retry request => { request with identity }
  | .loadRelations schema namePrefix token =>
    ⟨identity, .relations schema, namePrefix, token, defaultCatalogPageSize,
      defaultCatalogTimeout⟩
  | .loadColumns schema relation namePrefix token =>
    ⟨identity, .columns schema relation, namePrefix, token, defaultCatalogPageSize,
      defaultCatalogTimeout⟩

/-- Submits a catalog request under a fresh operation and marks it in the explorer. -/
def submitCatalog (app : DbotterApp) (key : WorkspaceKey)
    (request : RequestIdentity → CatalogRequest) : DbotterApp :=
  let identified (o : OperationId) := request ⟨key.profileId, key.profileGeneration, o⟩
  app.submit (fun o => .browseCatalog (identified o))
    (fun o app =>
      ({ app.registerRecipe o (.catalog (identified o)) with
        mysqlExplorers := Function.update app.mysqlExplorers key
          (some (((app.mysqlExplorers key).getD {}).markSubmitted (identified o))) })
        |>.activate key o .browseMySql) id

def submitMysqlExplorerIntent (app : DbotterApp) (profile : ProfileSnapshot)
    (intent : MySqlExplorerIntent) : DbotterApp :=
  if app.model.configUncertain then app
  else if (app.activeOperations profile.id).isSome then app
  else app.submitCatalog ⟨profile.id, profile.generation⟩ intent.request

def retryCatalogRequest (app : DbotterApp) (request : CatalogRequest) : DbotterApp :=
  if (app.activeOperations request.identity.profileId).isSome then app
  else app.submitCatalog (workspaceKey request.identity) ({ request with identity := · })

def redisExplorerMut (app : DbotterApp) (key : WorkspaceKey)
    (change : RedisExplorer → RedisExplorer) : DbotterApp :=
  { app with
    redisExplorers := Function.update app.redisExplorers key
      (some (change ((app.redisExplorers key).getD { profile := some key }))) }

def submitScan (app : DbotterApp) (key : WorkspaceKey) (filter : RedisKeyFilter)
    (cursor countHint : Nat) (timeout : Duration) (restart : Bool) : DbotterApp :=
  let request (o : OperationId) : RedisScanRequest :=
    ⟨⟨key.profileId, key.profileGeneration, o⟩, filter, cursor, countHint, timeout⟩
  app.submit (fun o => .scanRedisKeys (request o))
    (fun o app =>
      ((app.registerRecipe o (.redisScan (request o) restart)).redisExplorerMut key
        (·.beginScan o filter cursor restart)).activate key o .browseRedis)
    (·.redisExplorerMut key id)

def submitInspect (app : DbotterApp) (key : WorkspaceKey) (redisKey : List UInt8)
    (timeout : Duration) : DbotterApp :=
  let request (o : OperationId) : RedisKeyInspectRequest :=
    ⟨⟨key.profileId, key.profileGeneration, o⟩, redisKey, timeout⟩
  app.submit (fun o => .inspectRedisKey (request o))
    (fun o app =>
      ((app.registerRecipe o (.redisInspect (request o))).redisExplorerMut key
        (·.beginInspect o redisKey)).activate key o .inspectRedis)
    (·.redisExplorerMut key id)

inductive RedisExplorerIntent
  | scan (filter : RedisKeyFilter) (cursor : Nat) (restart : Bool)
  | inspect (key : List UInt8)
  | cancel (operationId : OperationId)

def defaultRedisScanCount : Nat := 100

def submitRedisCancel (app : DbotterApp) (key : WorkspaceKey) (operationId : OperationId) :
    DbotterApp :=
  if (app.activeOperations key.profileId).any fun active =>
      active.operationId = operationId && active.profileGeneration = key.profileGeneration &&
        (active.kind = .browseRedis || active.kind = .inspectRedis) then
    match app.port.trySubmit (.cancelOperation operationId) with
    | .ok port => ({ app with port }).redisExplorerMut key (·.cancelSubmitted operationId)
    | .error _ => app.redisExplorerMut key id
  else app.redisExplorerMut key id

def redisBrowsable (app : DbotterApp) (key : WorkspaceKey) : Bool :=
  !app.model.configUncertain &&
    app.model.activeGenerations key.profileId == some key.profileGeneration &&
    (app.model.profiles.find? fun profile => profile.id = key.profileId &&
      profile.generation = key.profileGeneration).any
        (fun profile => profile.driver = .redis && profile.isReady) &&
    (app.activeOperations key.profileId).isNone

/-- `submit_redis_intent_for`. A submission that is refused only leaves a notice in the
explorer, which is created for it. -/
def submitRedisIntentFor (app : DbotterApp) (key : WorkspaceKey) :
    RedisExplorerIntent → DbotterApp
  | .cancel operationId => app.submitRedisCancel key operationId
  | .scan filter cursor restart =>
    if app.redisBrowsable key then
      app.submitScan key filter cursor defaultRedisScanCount (seconds 5) restart
    else app.redisExplorerMut key id
  | .inspect redisKey =>
    if app.redisBrowsable key then app.submitInspect key redisKey (seconds 5)
    else app.redisExplorerMut key id

def submitRedisIntent (app : DbotterApp) (intent : RedisExplorerIntent) : DbotterApp :=
  match app.visibleRedisWorkspace with
  | none => app
  | some key =>
    if app.model.selectedWorkspaceKey != some key then app.redisExplorerMut key id
    else app.submitRedisIntentFor key intent

def retryRedisScan (app : DbotterApp) (request : RedisScanRequest) (restart : Bool) :
    DbotterApp :=
  if (app.activeOperations request.identity.profileId).isSome then app
  else
    app.submitScan (workspaceKey request.identity) request.filter request.cursor
      request.countHint request.timeout restart

def retryRedisInspect (app : DbotterApp) (request : RedisKeyInspectRequest) : DbotterApp :=
  if (app.activeOperations request.identity.profileId).isSome then app
  else app.submitInspect (workspaceKey request.identity) request.key request.timeout

/-! ## Retrying -/

def retryWith (app : DbotterApp) : RetryRecipe → DbotterApp
  | .connect key timeoutMs => app.submitConnectExact key timeoutMs
  | .reconnect key timeoutMs => app.submitReconnectExact key timeoutMs
  | .catalog request => app.retryCatalogRequest request
  | .redisScan request restart => app.retryRedisScan request restart
  | .redisInspect request => app.retryRedisInspect request

def retryRecipe (app : DbotterApp) (recipeId : OperationRecipeId)
    (expectedOperation : Option OperationKind) : DbotterApp :=
  match app.retryRecipes.get recipeId with
  | none => app
  | some recipe =>
    let app := app.removeRecipe (some recipeId)
    if expectedOperation.any (· ≠ recipe.operationKind) then app
    else if app.model.configUncertain ||
        app.model.activeGenerations recipe.key.profileId != some recipe.key.profileGeneration
    then app
    else app.retryWith recipe

/-! ## Editing and deleting profiles -/

def openEditor (app : DbotterApp) (mode : EditorMode) : DbotterApp :=
  { app with
    nextDraftId := app.nextDraftId + 1
    profileEditor := some { mode, draftId := app.nextDraftId } }

def openProfileEditorAt (app : DbotterApp) (profileId : ProfileId) : DbotterApp :=
  match app.model.profiles.find? (·.id = profileId) with
  | none => app
  | some profile => app.openEditor (.edit profile.persisted.id profile.generation)

/-- `FormAction::Save`. The form is `none` where one of its fields does not validate. -/
def saveProfile (app : DbotterApp) (form : Option ValidatedForm) (connect : Bool) :
    DbotterApp :=
  match app.profileEditor, form with
  | some editor, some form =>
    if editor.blocked then { app with model := app.model.nextOperation.2 }
    else
      app.submit (fun o => (editor.saveCommand o form connect).1)
        (fun o app => { app with
          profileEditor := some
            { editor with pendingSave := some (editor.saveCommand o form connect).2 } }) id
  | some _, none => { app with model := app.model.nextOperation.2 }
  | none, _ => app

/-- `FormAction::TestDraft`, where `valid` says whether the form validates. -/
def testDraft (app : DbotterApp) (valid : Bool) : DbotterApp :=
  match app.profileEditor with
  | none => app
  | some editor =>
    if editor.blocked || !valid then { app with model := app.model.nextOperation.2 }
    else
      app.submit (fun o => .prepareDraftConnectionTest o editor.draftId)
        (fun o app => { app with
          profileEditor := some { editor with pendingDraftTest := some o } }) id

def openDeleteConfirmation (app : DbotterApp) (profile : ProfileSnapshot) : DbotterApp :=
  if app.model.configUncertain then app
  else if app.model.activeGenerations profile.id != some profile.generation then app
  else
    { app with
      deleteConfirmation := some
        { profileId := profile.id
          profileGeneration := profile.generation
          activeKind := (app.activeOperations profile.id).map (·.kind)
          migrationBackup := app.model.config.migrationBackup
          migrationConfirmed := false } }

def confirmMigration (app : DbotterApp) (migrationConfirmed : Bool) : DbotterApp :=
  { app with
    deleteConfirmation := app.deleteConfirmation.map ({ · with migrationConfirmed }) }

def confirmDeleteConfirmation (app : DbotterApp) : DbotterApp :=
  match app.deleteConfirmation with
  | none => app
  | some confirmation =>
    let profileId := confirmation.profileId
    let generation := confirmation.profileGeneration
    if app.model.activeGenerations profileId != some generation then
      { app with deleteConfirmation := none }
    else
      let migrationConsent := .fromConfirmation
        (confirmation.migrationBackup.isSome && confirmation.migrationConfirmed)
      app.submit (fun o => .deleteProfile ⟨profileId, generation, o, migrationConsent⟩)
        (fun o app =>
          { app.activate ⟨profileId, generation⟩ o .deleteProfile with
            deleteConfirmation := none
            model := app.model.setConnection profileId .closing
            pendingDeletes := Function.update app.pendingDeletes profileId
              (some ⟨o, generation, app.activeOperations profileId, false⟩) }) id

/-! ## Recovery -/

def clearProfileCatalog (app : DbotterApp) (profileId : ProfileId) : DbotterApp :=
  match app.model.activeGenerations profileId with
  | none => app
  | some generation =>
    let key := ⟨profileId, generation⟩
    { app with
      mysqlExplorers := Function.update app.mysqlExplorers key
        ((app.mysqlExplorers key).map (·.clear))
      model := app.model.workspaceMut key
        ({ · with catalogPage := none, catalogRetry := none, catalogError := none }) }

def restartProfileRedisScan (app : DbotterApp) (profileId : ProfileId) : DbotterApp :=
  let request := do
    let generation ← app.model.activeGenerations profileId
    let workspace ← app.model.workspaces ⟨profileId, generation⟩
    workspace.redisScanRetry
  match request with
  | none => app
  -- Unlike `retryRecipe` this does not ask whether the configuration is certain.
  | some request => app.retryRedisScan { request with cursor := 0 } true

def dismissOperationError (app : DbotterApp) (operationId : OperationId) : DbotterApp :=
  let concerns (request : Option RequestIdentity) : Bool :=
    request.any (·.operationId = operationId)
  let dismissed (workspace : ProfileWorkspace) : ProfileWorkspace :=
    { workspace with
      catalogError :=
        if concerns (workspace.catalogRetry.map (·.identity)) then none
        else workspace.catalogError
      redisScanError :=
        if concerns (workspace.redisScanRetry.map (·.identity)) then none
        else workspace.redisScanError
      redisInspectError :=
        if concerns (workspace.redisInspectRetry.map (·.identity)) then none
        else workspace.redisInspectError }
  let redisConcerned (key : WorkspaceKey) : Bool :=
    (app.model.workspaces key).any fun workspace =>
      concerns (workspace.redisScanRetry.map (·.identity)) ||
        concerns (workspace.redisInspectRetry.map (·.identity))
  { app.removeRecipe (some operationId) with
    commonError :=
      if app.commonError.any (·.operationId = operationId) then none else app.commonError
    model := { app.model with workspaces := fun key => (app.model.workspaces key).map dismissed }
    mysqlExplorers := fun key => (app.mysqlExplorers key).map (·.dismissError)
    redisExplorers := fun key =>
      (app.redisExplorers key).map fun explorer =>
        if redisConcerned key then explorer.dismissErrors else explorer }

/-- The prompt that a credential error opens: the recipe of the failed operation is retried
once the credential is stored, where it still fits. -/
def openCredentialEditor (app : DbotterApp) (profileId : ProfileId) (source : OperationId)
    (sourceOperation : OperationKind) : DbotterApp :=
  match app.model.activeGenerations profileId with
  | none => app
  | some generation =>
    let key : WorkspaceKey := ⟨profileId, generation⟩
    let fits := (app.retryRecipes.get source).any fun recipe =>
      recipe.operationKind = sourceOperation && recipe.key = key
    app.openCredentialPromptFor key sourceOperation (if fits then some source else none)

/-- `dispatch_error_recovery` with the commands of the actions. Moving the focus and revealing
a file change nothing here. -/
def dispatchErrorRecovery (app : DbotterApp) (operationId : OperationId)
    (error : PublicOperationError) (action : RecoveryAction) : DbotterApp :=
  if !error.recovery.asSlice.contains action then app
  else
    match action with
    | .openCredentialPrompt profileId =>
      app.openCredentialEditor profileId operationId error.operation
    | .editProfile profileId _ => app.openProfileEditorAt profileId
    | .retry recipeId =>
      if error.operation = .executeMutation then app
      else app.retryRecipe recipeId (some error.operation)
    | .focusEditor profileId | .focusExecuteLimits profileId =>
      if (app.model.activeGenerations profileId).isSome then
        { app with model := { app.model with selectedProfile := some profileId } }
      else app
    | .reloadConfiguration => app.submitRefresh
    | .reconnect profileId => app.submitReconnect profileId
    | .cancelOperation operationId => app.cancelOperation operationId
    | .clearCatalog profileId => app.clearProfileCatalog profileId
    | .restartRedisScan profileId => app.restartProfileRedisScan profileId
    | .restartApplication => app.submit .shutdownRuntime (fun _ app => app) id
    | .dismissError operationId => app.dismissOperationError operationId
    | .editDraft _ _ | .chooseExportDestination _ | .revealExportDestination _
    | .revealMigrationBackup => app

end DbotterApp

end Dbotter.Ui
