import Dbotter.Ui.Settling

/-!
The desktop over time.

A run is a list of moves: the user acts, the controller takes commands and emits events, and
once a frame the events are polled. Which buttons a frame shows is left open, so that every
action is possible at every time, and the controller may end any command it was sent, at any
time and more than once.
-/

namespace Dbotter.Ui
open Dbotter.Utf8 Dbotter.Configuration Dbotter.Service Dbotter.Drivers

/-! ## The user -/

inductive UiAction
  | refresh
  | select (profileId : ProfileId)
  | connect (profileId : ProfileId)
  | disconnect (profileId : ProfileId)
  | reconnect (profileId : ProfileId)
  | promptForCredential (profileId : ProfileId)
  | cancelPrompt
  | submitPrompt (typed : Option SessionSecret)
  | execute (intent : DbotterApp.ExecuteIntent)
  | cancelExecute (operationId : OperationId)
  | exportResult (resultId : ResultId) (writable : Bool)
  | showExplorer
  | browse (intent : DbotterApp.MySqlExplorerIntent)
  | browseRedis (intent : DbotterApp.RedisExplorerIntent)
  | recover (operationId : OperationId) (error : PublicOperationError) (action : RecoveryAction)
  | addProfile
  | editProfile (profileId : ProfileId)
  | cancelEditor
  | save (form : Option ValidatedForm) (connect : Bool)
  | testDraft (valid : Bool)
  | openDelete (profile : ProfileSnapshot)
  | confirmMigration (confirmed : Bool)
  | confirmDelete
  | cancelDelete

namespace DbotterApp
open Board

/-- `explorer_contents` before its intents: the explorer of the selected profile is there. -/
def showExplorer (app : DbotterApp) : DbotterApp :=
  let hidden := { app with visibleRedisWorkspace := none }
  match app.model.selectedProfileSnapshot with
  | none => hidden
  | some profile =>
    let key := ⟨profile.id, profile.generation⟩
    if !profile.isReady then hidden
    else
      match profile.driver with
      | .mySql => hidden.mysqlExplorerMut key id
      | .redis => ({ hidden with visibleRedisWorkspace := some key }).redisExplorerMut key id
      | .mongoDb => hidden

def browse (app : DbotterApp) (intent : MySqlExplorerIntent) : DbotterApp :=
  match app.model.selectedProfileSnapshot with
  | none => app
  | some profile =>
    if profile.driver = .mySql && profile.isReady then
      app.submitMysqlExplorerIntent profile intent
    else app

/-- `FormAction::Cancel`. -/
def cancelEditor (app : DbotterApp) : DbotterApp :=
  if app.profileEditor.any (·.cancelEnabled) then { app with profileEditor := none } else app

def act (app : DbotterApp) : UiAction → DbotterApp
  | .refresh => app.submitRefresh
  | .select profileId => { app with model := { app.model with selectedProfile := some profileId } }
  | .connect profileId => app.submitTest profileId
  | .disconnect profileId => app.submitDisconnect profileId
  | .reconnect profileId => app.submitReconnect profileId
  | .promptForCredential profileId => app.openSessionCredentialPrompt profileId
  | .cancelPrompt => app.cancelCredentialPrompt
  | .submitPrompt typed => app.submitCredentialPrompt typed
  | .execute intent => app.submitExecute intent
  | .cancelExecute operationId => app.submitCancelExecute operationId
  | .exportResult resultId writable => app.submitResultExportTo resultId writable
  | .showExplorer => app.showExplorer
  | .browse intent => app.browse intent
  | .browseRedis intent => app.submitRedisIntent intent
  | .recover operationId error action => app.dispatchErrorRecovery operationId error action
  | .addProfile => app.openEditor .add
  | .editProfile profileId => app.openProfileEditorAt profileId
  | .cancelEditor => app.cancelEditor
  | .save form connect => app.saveProfile form connect
  | .testDraft valid => app.testDraft valid
  | .openDelete profile => app.openDeleteConfirmation profile
  | .confirmMigration confirmed => app.confirmMigration confirmed
  | .confirmDelete => app.confirmDeleteConfirmation
  | .cancelDelete => { app with deleteConfirmation := none }

/-- Opening an explorer makes it wait for nothing. -/
theorem mysqlExplorerMut_id_reaches (app : DbotterApp) (key : WorkspaceKey) :
    Reaches app.board (app.mysqlExplorerMut key id).board := by
  refine .single (.tidyMysql app.board _ fun key' explorer' hmem o ho => ?_)
  simp only [mysqlExplorerMut, Option.mem_def] at hmem
  by_cases hkey : key' = key
  · subst hkey
    rw [Function.update_self, Option.some_inj] at hmem
    subst hmem
    cases hexplorer : app.mysqlExplorers key' with
    | none =>
      rw [hexplorer] at ho
      cases ho
    | some explorer =>
      rw [hexplorer] at ho
      exact ⟨explorer, hexplorer, ho⟩
  · rw [Function.update_of_ne hkey] at hmem
    exact ⟨explorer', hmem, ho⟩

theorem showExplorer_reaches (app : DbotterApp) : Reaches app.board app.showExplorer.board := by
  unfold showExplorer
  split
  · exact .refl
  · simp only
    split
    · exact .refl
    · split
      · exact mysqlExplorerMut_id_reaches _ _
      · exact redisExplorerMut_reaches _ _ Narrows.refl
      · exact .refl

theorem browse_reaches (app : DbotterApp) (intent : MySqlExplorerIntent) :
    Reaches app.board (app.browse intent).board := by
  unfold browse
  split
  · exact .refl
  · split
    · exact app.submitMysqlExplorerIntent_reaches _ _
    · exact .refl

theorem cancelEditor_reaches (app : DbotterApp) : Reaches app.board app.cancelEditor.board := by
  unfold cancelEditor
  split
  · exact .single (.edit app.board none nofun)
  · exact .refl

/-- Whatever the user does moves the board by the steps of a submission. -/
theorem act_reaches (app : DbotterApp) (action : UiAction) :
    Reaches app.board (app.act action).board := by
  cases action with
  | refresh => exact app.submitRefresh_reaches
  | select profileId => exact .refl
  | connect profileId => exact app.submitTest_reaches profileId
  | disconnect profileId => exact app.submitDisconnect_reaches profileId
  | reconnect profileId => exact app.submitReconnect_reaches profileId
  | promptForCredential profileId => exact app.openSessionCredentialPrompt_reaches profileId
  | cancelPrompt => exact .refl
  | submitPrompt typed => exact app.submitCredentialPrompt_reaches typed
  | execute intent => exact app.submitExecute_reaches intent
  | cancelExecute operationId => exact app.submitCancelExecute_reaches operationId
  | exportResult resultId writable => exact app.submitResultExportTo_reaches resultId writable
  | showExplorer => exact app.showExplorer_reaches
  | browse intent => exact app.browse_reaches intent
  | browseRedis intent => exact app.submitRedisIntent_reaches intent
  | recover operationId error action =>
    exact app.dispatchErrorRecovery_reaches operationId error action
  | addProfile => exact app.openEditor_reaches .add
  | editProfile profileId => exact app.openProfileEditorAt_reaches profileId
  | cancelEditor => exact app.cancelEditor_reaches
  | save form connect => exact app.saveProfile_reaches form connect
  | testDraft valid => exact app.testDraft_reaches valid
  | openDelete profile =>
    simp only [act, openDeleteConfirmation]
    split
    · exact .refl
    · split <;> exact .refl
  | confirmMigration confirmed => exact .refl
  | confirmDelete => exact app.confirmDeleteConfirmation_reaches
  | cancelDelete => exact .refl

end DbotterApp

/-! ## The controller -/

/-- `connection_outcome_for_summary`. -/
def connectionOutcomeForSummary : PublicSummary → ConnectionFailureOutcome
  | .credentialRequired => .needsCredential
  | .authenticationFailed | .networkUnavailable | .tlsVerificationFailed => .disconnected
  | .operationCancelled | .operationTimedOut => .unknown
  | _ => .preserve

def runtimeOperationHasRetryRecipe : OperationKind → Bool
  | .connectProfile | .reconnectProfile | .browseMySql | .browseRedis | .inspectRedis => true
  | _ => false

def publicProfileError (kind : OperationKind) (identity : RequestIdentity)
    (summary : PublicSummary) (code : PublicCode) : PublicOperationError :=
  .newOrInternal kind summary code <|
    if runtimeOperationHasRetryRecipe kind then
      .profileWithRecipe identity.profileId identity.operationId identity.operationId
    else .profile identity.profileId identity.operationId none none

/-- `failed_profile_event`, for a task that had no session. -/
def failedProfileEvent (identity : RequestIdentity) (kind : OperationKind)
    (summary : PublicSummary) : UiEvent :=
  .operationFailed identity none kind summary (publicProfileError kind identity summary .none) none
    (connectionOutcomeForSummary summary)

/-- What the controller may emit: the end of a command that it was sent, the end of the
runtime, and, where the runtime did not start, a failure under the operation of a
cancellation. -/
def UiPort.mayEmit (port : UiPort) (event : UiEvent) : Bool :=
  port.sent.any (·.endedBy event) ||
    match event with
    | .runtimeShutdown _ => true
    | .profilesFailed operationId _ _ => port.sent.any fun command =>
      match command with
      | .cancelOperation cancelled => cancelled == operationId
      | _ => false
    | _ => false

/-! ## Runs -/

/-- An event that was consumed, with the application as the event found it. -/
structure Moment where
  app : DbotterApp
  event : UiEvent

structure Desktop where
  app : DbotterApp := .new
  consumed : List Moment := []

inductive Move
  | act (action : UiAction)
  | poll
  | receive (lane : CommandLane)
  | emit (event : UiEvent)
  | release (key : ControlKey)
  | close

namespace Desktop

def consume (d : Desktop) (event : UiEvent) : Desktop :=
  ⟨d.app.consumeEvent event, d.consumed ++ [⟨d.app, event⟩]⟩

/-- `poll_events`, with the record of what it consumes. -/
def poll (d : Desktop) : Desktop :=
  let (events, port) := d.app.port.drainEvents DbotterApp.eventDrainLimit
  let d := events.foldl consume { d with app := { d.app with port } }
  { d with app := d.app.prune }

def step (d : Desktop) : Move → Desktop
  | .act action => { d with app := d.app.act action }
  | .poll => d.poll
  | .receive lane => { d with app.port := d.app.port.receive lane }
  | .emit event =>
    if d.app.port.mayEmit event then { d with app.port := d.app.port.tryEmit event } else d
  | .release key => { d with app.port := d.app.port.releaseControlKey key }
  | .close => { d with app.port := d.app.port.closeAndDrain }

def run (moves : List Move) : Desktop := moves.foldl step {}

theorem foldl_consume_app (d : Desktop) (events : List UiEvent) :
    (events.foldl consume d).app = events.foldl DbotterApp.consumeEvent d.app := by
  induction events generalizing d with
  | nil => rfl
  | cons event events ih => exact ih (d.consume event)

/-- The record does not change what is polled. -/
theorem poll_app (d : Desktop) : d.poll.app = d.app.pollEvents := by
  simp only [poll, DbotterApp.pollEvents, foldl_consume_app]

/-! ## Short runs -/

/-- The controller emits an event, and the next frame consumes it. -/
def hears (event : UiEvent) : List Move := [.emit event, .poll]

/-- A profile without credentials, as the first load shows it. -/
def firstProfile (driver : DriverKind) : ProfileSnapshot :=
  { id := "p".toList
    generation := 1
    driver
    availability := .ready
    hasCurrentSessionSecret := false
    environmentAvailability := none
    persisted :=
      ⟨⟨"p".toList, driver, "host".toList, 1, none, none, .disabled, .none, none, ⟨none⟩⟩,
        "p".toList⟩ }

def firstLoad (driver : DriverKind) : List Move :=
  hears (.profilesLoaded 1 [firstProfile driver] {})

end Desktop

end Dbotter.Ui
