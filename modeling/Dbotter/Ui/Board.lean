import Mathlib.Logic.Relation
import Dbotter.Ui.Polling

/-!
What a submission can do.

The board is the part of the application that says which operations are under way: the
commands sent, the connection states, the active operations, the requests that the explorers
wait for and the profile editor. Every function that submits something moves the board by a few kinds of
steps, so that an invariant of the board is proved once for each kind and not once for each
function.
-/

namespace Dbotter.Ui
open Dbotter.Utf8 Dbotter.Configuration Dbotter.Service Dbotter.Drivers

structure Board where
  sent : List UiCommand
  merged : List UiCommand
  events : List UiEvent
  nextOperationId : OperationId
  profiles : List ProfileSnapshot
  activeGenerations : Table ProfileId ProfileGeneration
  tombstones : Table ProfileId ProfileGeneration
  configUncertain : Bool
  lastProfilesOperation : Option OperationId
  connectionStates : Table ProfileId ConnectionState
  activeOperations : Table ProfileId ActiveOperation
  pendingDeletes : Table ProfileId PendingDelete
  mysqlExplorers : Table WorkspaceKey MySqlExplorerState
  redisExplorers : Table WorkspaceKey RedisExplorer
  profileEditor : Option ProfileEditor

def DbotterApp.board (app : DbotterApp) : Board where
  sent := app.port.sent
  merged := app.port.merged
  events := app.port.events
  nextOperationId := app.model.nextOperationId
  profiles := app.model.profiles
  activeGenerations := app.model.activeGenerations
  tombstones := app.model.tombstones
  configUncertain := app.model.configUncertain
  lastProfilesOperation := app.model.lastProfilesOperation
  connectionStates := app.model.connectionStates
  activeOperations := app.activeOperations
  pendingDeletes := app.pendingDeletes
  mysqlExplorers := app.mysqlExplorers
  redisExplorers := app.redisExplorers
  profileEditor := app.profileEditor

/-- The commands that leave no mark on the board. -/
def UiCommand.isSide : UiCommand → Bool
  | .refreshProfiles _ | .storeCredentials _ _ _ | .exportResult _ _ | .shutdownRuntime _ => true
  | _ => false

namespace Board

def activate (b : Board) (identity : RequestIdentity) (kind : OperationKind) : Board :=
  { b with
    activeOperations := Function.update b.activeOperations identity.profileId
      (some ⟨identity.operationId, identity.profileGeneration, kind⟩) }

def setConnection (b : Board) (profileId : ProfileId) (state : ConnectionState) : Board :=
  { b with connectionStates := Function.update b.connectionStates profileId (some state) }

/-- The marks that an accepted command leaves on the board. -/
inductive Marks : UiCommand → Board → Board → Prop
  | connect (b : Board) (identity : RequestIdentity) (timeoutMs : Nat) :
    Marks (.testConnection identity timeoutMs) b
      ((b.setConnection identity.profileId (.pending identity.operationId)).activate identity
        .connectProfile)
  | reconnect (b : Board) (identity : RequestIdentity) (timeoutMs : Nat) :
    Marks (.reconnectProfile identity timeoutMs) b
      ((b.setConnection identity.profileId (.pending identity.operationId)).activate identity
        .reconnectProfile)
  | disconnect (b : Board) (identity : RequestIdentity) :
    Marks (.disconnectProfile identity) b
      ((b.setConnection identity.profileId (.pending identity.operationId)).activate identity
        .disconnectProfile)
  | execute (b : Board) (identity : RequestIdentity) (language : QueryLanguage) (text : Text)
      (rowLimit timeoutMs : Nat) (kind : OperationKind)
      (hkind : kind = .executeRead ∨ kind = .executeMutation) :
    Marks (.execute identity language text rowLimit timeoutMs) b (b.activate identity kind)
  | browse (b : Board) (request : CatalogRequest) :
    Marks (.browseCatalog request) b
      ({ b with
        mysqlExplorers := Function.update b.mysqlExplorers (workspaceKey request.identity)
          (some (((b.mysqlExplorers (workspaceKey request.identity)).getD {}).markSubmitted
            request)) }.activate request.identity .browseMySql)
  | scan (b : Board) (request : RedisScanRequest) (restart : Bool) :
    Marks (.scanRedisKeys request) b
      ({ b with
        redisExplorers := Function.update b.redisExplorers (workspaceKey request.identity)
          (some (((b.redisExplorers (workspaceKey request.identity)).getD
            { profile := some (workspaceKey request.identity) }).beginScan
              request.identity.operationId request.filter request.cursor restart)) }.activate
        request.identity .browseRedis)
  | inspect (b : Board) (request : RedisKeyInspectRequest) :
    Marks (.inspectRedisKey request) b
      ({ b with
        redisExplorers := Function.update b.redisExplorers (workspaceKey request.identity)
          (some (((b.redisExplorers (workspaceKey request.identity)).getD
            { profile := some (workspaceKey request.identity) }).beginInspect
              request.identity.operationId request.key)) }.activate
        request.identity .inspectRedis)
  | delete (b : Board) (request : DeleteProfileRequest) :
    Marks (.deleteProfile request) b
      ({ b.setConnection request.profileId .closing with
        pendingDeletes := Function.update b.pendingDeletes request.profileId
          (some ⟨request.operationId, request.expectedGeneration,
            b.activeOperations request.profileId, false⟩) }.activate
        ⟨request.profileId, request.expectedGeneration, request.operationId⟩ .deleteProfile)
  | save (b : Board) (editor : ProfileEditor) (hfree : editor.blocked = false) (o : OperationId)
      (form : ValidatedForm) (connect : Bool) :
    Marks (editor.saveCommand o form connect).1 b
      { b with
        profileEditor :=
          some { editor with pendingSave := some (editor.saveCommand o form connect).2 } }
  | testDraft (b : Board) (editor : ProfileEditor) (hfree : editor.blocked = false)
      (o : OperationId) :
    Marks (.prepareDraftConnectionTest o editor.draftId) b
      { b with profileEditor := some { editor with pendingDraftTest := some o } }

/-- One explorer in place of another waits for no more than it did. -/
def Narrows (explorer explorer' : RedisExplorer) : Prop :=
  explorer'.profile = explorer.profile ∧
    (∀ pending' ∈ explorer'.pendingScan, ∃ pending ∈ explorer.pendingScan,
      pending'.operationId = pending.operationId ∧ pending'.cursor = pending.cursor) ∧
    ∀ pending' ∈ explorer'.pendingInspect, ∃ pending ∈ explorer.pendingInspect,
      pending'.operationId = pending.operationId ∧ pending'.key = pending.key

theorem Narrows.refl (explorer : RedisExplorer) : Narrows explorer explorer :=
  ⟨rfl, fun pending h => ⟨pending, h, rfl, rfl⟩, fun pending h => ⟨pending, h, rfl, rfl⟩⟩

theorem Narrows.cancelSubmitted (o : OperationId) (explorer : RedisExplorer) :
    Narrows explorer (explorer.cancelSubmitted o) := by
  refine ⟨rfl, fun pending' h => ?_, fun pending' h => ?_⟩
  all_goals
    obtain ⟨pending, hpending, rfl⟩ := Option.mem_map.1 h
    refine ⟨pending, hpending, ?_⟩
    split <;> exact ⟨rfl, rfl⟩

/-- The steps of the board that a submission is made of. -/
inductive Step : Board → Board → Prop
  /-- An operation was taken and nothing came of it. -/
  | skip (b : Board) : Step b { b with nextOperationId := b.nextOperationId + 1 }
  /-- A command that marks nothing was sent. -/
  | side (b : Board) (command : UiCommand) (hside : command.isSide)
      (ho : command.operationId = b.nextOperationId) :
    Step b { b with
      sent := b.sent ++ [command]
      nextOperationId := b.nextOperationId + 1 }
  | cancel (b : Board) (operationId : OperationId) :
    Step b { b with sent := b.sent ++ [.cancelOperation operationId] }
  | cancelMerged (b : Board) (operationId : OperationId) :
    Step b { b with merged := b.merged ++ [.cancelOperation operationId] }
  /-- A command was sent and left its marks. -/
  | start {b b' : Board} (command : UiCommand) (ho : command.operationId = b.nextOperationId)
      (marks : Marks command { b with
        sent := b.sent ++ [command]
        nextOperationId := b.nextOperationId + 1 } b') : Step b b'
  /-- A control command left its marks without being sent. -/
  | merge {b b' : Board} (command : UiCommand) (ho : command.operationId = b.nextOperationId)
      (hlane : command.lane = .control)
      (marks : Marks command { b with
        merged := b.merged ++ [command]
        nextOperationId := b.nextOperationId + 1 } b') : Step b b'
  | tidyMysql (b : Board) (explorers : Table WorkspaceKey MySqlExplorerState)
      (h : ∀ key, ∀ explorer' ∈ explorers key, ∀ o, explorer'.Awaits o →
        ∃ explorer ∈ b.mysqlExplorers key, explorer.Awaits o) :
    Step b { b with mysqlExplorers := explorers }
  | tidyRedis (b : Board) (explorers : Table WorkspaceKey RedisExplorer)
      (h : ∀ key, ∀ explorer' ∈ explorers key,
        Narrows ((b.redisExplorers key).getD { profile := some key }) explorer') :
    Step b { b with redisExplorers := explorers }
  /-- The editor was closed, or another one opened. -/
  | edit (b : Board) (editor : Option ProfileEditor)
      (h : ∀ e ∈ editor, e.blocked = false) :
    Step b { b with profileEditor := editor }

/-- A chain of steps. -/
abbrev Reaches : Board → Board → Prop := Relation.ReflTransGen Step

end Board

/-! ## The submissions -/

namespace DbotterApp
open Board Relation

variable (app : DbotterApp)

@[simp] theorem board_registerRecipe (o : OperationId) (recipe : RetryRecipe) :
    (app.registerRecipe o recipe).board = app.board := by
  simp only [board, registerRecipe]

@[simp] theorem board_removeRecipe (recipeId : Option OperationRecipeId) :
    (app.removeRecipe recipeId).board = app.board := rfl

@[simp] theorem board_cancelCredentialPrompt : app.cancelCredentialPrompt.board = app.board := rfl

/-- The three outcomes of a submission: refused, sent, or merged into an earlier one. -/
theorem submit_cases (command : OperationId → UiCommand)
    (accepted : OperationId → DbotterApp → DbotterApp) (refused : DbotterApp → DbotterApp) :
    (app.submit command accepted refused =
        refused { app with model := app.model.nextOperation.2 }) ∨
      ∃ port, app.submit command accepted refused =
          accepted app.model.nextOperationId
            { app with model := app.model.nextOperation.2, port } ∧
        port.events = app.port.events ∧
        (port.sent = app.port.sent ++ [command app.model.nextOperationId] ∧
            port.merged = app.port.merged ∨
          port.sent = app.port.sent ∧
            port.merged = app.port.merged ++ [command app.model.nextOperationId] ∧
            (command app.model.nextOperationId).lane = .control) := by
  unfold submit
  cases h : app.port.trySubmit (command app.model.nextOperationId) with
  | error e =>
    left
    simp only [UiModel.nextOperation, h]
  | ok port =>
    refine .inr ⟨port, ?_, UiPort.trySubmit_cases h⟩
    simp only [UiModel.nextOperation, h]

/-- A submission whose marks are those of its command moves the board. -/
theorem submit_reaches {command : OperationId → UiCommand}
    {accepted : OperationId → DbotterApp → DbotterApp} {refused : DbotterApp → DbotterApp}
    (ho : (command app.model.nextOperationId).operationId = app.model.nextOperationId)
    (hrefused : ∀ app : DbotterApp, Reaches app.board (refused app).board)
    (hmarks : ∀ app' : DbotterApp, Marks (command app.model.nextOperationId) app'.board
      (accepted app.model.nextOperationId app').board) :
    Reaches app.board (app.submit command accepted refused).board := by
  obtain h | ⟨port, h, hevents, ⟨hsent, hmerged⟩ | ⟨hsent, hmerged, hlane⟩⟩ :=
    app.submit_cases command accepted refused
  · rw [h]
    exact (ReflTransGen.single (.skip app.board)).trans (hrefused _)
  · have hboard : ({ app with model := app.model.nextOperation.2, port } : DbotterApp).board =
        { app.board with
          sent := app.board.sent ++ [command app.model.nextOperationId]
          nextOperationId := app.board.nextOperationId + 1 } := by
      simp only [board, UiModel.nextOperation, hsent, hmerged, hevents]
    rw [h]
    exact .single (.start _ ho (hboard ▸ hmarks _))
  · have hboard : ({ app with model := app.model.nextOperation.2, port } : DbotterApp).board =
        { app.board with
          merged := app.board.merged ++ [command app.model.nextOperationId]
          nextOperationId := app.board.nextOperationId + 1 } := by
      simp only [board, UiModel.nextOperation, hsent, hmerged, hevents]
    rw [h]
    exact .single (.merge _ ho hlane (hboard ▸ hmarks _))

/-- A submission that marks nothing moves the board by one command. -/
theorem submit_side_reaches {command : OperationId → UiCommand}
    {accepted : OperationId → DbotterApp → DbotterApp} {refused : DbotterApp → DbotterApp}
    (ho : (command app.model.nextOperationId).operationId = app.model.nextOperationId)
    (hside : (command app.model.nextOperationId).isSide)
    (hrefused : ∀ app : DbotterApp, (refused app).board = app.board)
    (haccepted : ∀ app' : DbotterApp,
      (accepted app.model.nextOperationId app').board = app'.board) :
    Reaches app.board (app.submit command accepted refused).board := by
  obtain h | ⟨port, h, hevents, ⟨hsent, hmerged⟩ | ⟨-, -, hlane⟩⟩ :=
    app.submit_cases command accepted refused
  · rw [h, hrefused]
    exact .single (.skip app.board)
  · have hboard : ({ app with model := app.model.nextOperation.2, port } : DbotterApp).board =
        { app.board with
          sent := app.board.sent ++ [command app.model.nextOperationId]
          nextOperationId := app.board.nextOperationId + 1 } := by
      simp only [board, UiModel.nextOperation, hsent, hmerged, hevents]
    rw [h, haccepted, hboard]
    exact .single (.side _ _ hside ho)
  · generalize command app.model.nextOperationId = c at hside hlane
    cases c <;> simp [UiCommand.isSide, UiCommand.lane] at hside hlane

theorem submitRefresh_reaches : Reaches app.board app.submitRefresh.board :=
  app.submit_side_reaches rfl rfl (fun _ => rfl) (fun _ => rfl)

theorem cancelOperation_reaches (o : OperationId) :
    Reaches app.board (app.cancelOperation o).board := by
  unfold cancelOperation
  cases h : app.port.trySubmit (.cancelOperation o) with
  | error e => exact .refl
  | ok port =>
    obtain ⟨hevents, ⟨hsent, hmerged⟩ | ⟨hsent, hmerged, -⟩⟩ := UiPort.trySubmit_cases h
    · have : ({ app with port } : DbotterApp).board =
          { app.board with sent := app.board.sent ++ [.cancelOperation o] } := by
        simp only [board, hsent, hmerged, hevents]
      simpa only [this] using .single (.cancel app.board o)
    · have : ({ app with port } : DbotterApp).board =
          { app.board with merged := app.board.merged ++ [.cancelOperation o] } := by
        simp only [board, hsent, hmerged, hevents]
      simpa only [this] using .single (.cancelMerged app.board o)

/-! ### Connecting -/

theorem submitConnectExact_reaches (key : WorkspaceKey) (timeoutMs : Nat) :
    Reaches app.board (app.submitConnectExact key timeoutMs).board := by
  unfold submitConnectExact
  split
  · exact .refl
  · exact app.submit_reaches rfl (fun _ => .refl) fun app' =>
      Marks.connect app'.board ⟨key.profileId, key.profileGeneration, _⟩ timeoutMs

theorem submitReconnectExact_reaches (key : WorkspaceKey) (timeoutMs : Nat) :
    Reaches app.board (app.submitReconnectExact key timeoutMs).board := by
  unfold submitReconnectExact
  split
  · exact .refl
  · exact app.submit_reaches rfl (fun _ => .refl) fun app' =>
      Marks.reconnect app'.board ⟨key.profileId, key.profileGeneration, _⟩ timeoutMs

theorem submitDisconnect_reaches (profileId : ProfileId) :
    Reaches app.board (app.submitDisconnect profileId).board := by
  unfold submitDisconnect
  split
  · exact .refl
  · split
    · exact .refl
    · exact app.submit_reaches rfl (fun _ => .refl) fun app' =>
        Marks.disconnect app'.board ⟨profileId, _, _⟩

theorem submitReconnect_reaches (profileId : ProfileId) :
    Reaches app.board (app.submitReconnect profileId).board := by
  unfold submitReconnect
  split
  · exact .refl
  · split
    · exact .refl
    · exact app.submitReconnectExact_reaches _ _

/-! ### Credentials -/

@[simp] theorem board_openCredentialPromptFor (key : WorkspaceKey) (kind : OperationKind)
    (recipeId : Option OperationRecipeId) :
    (app.openCredentialPromptFor key kind recipeId).board = app.board := by
  unfold openCredentialPromptFor
  split
  · rfl
  · split <;> rfl

theorem openSessionCredentialPrompt_reaches (profileId : ProfileId) :
    Reaches app.board (app.openSessionCredentialPrompt profileId).board := by
  unfold openSessionCredentialPrompt
  split
  · exact .refl
  · split
    · exact .refl
    · simp only [board_openCredentialPromptFor, board_registerRecipe]
      exact .single (.skip app.board)

theorem submitTest_reaches (profileId : ProfileId) :
    Reaches app.board (app.submitTest profileId).board := by
  unfold submitTest
  split
  · exact .refl
  split
  · exact .refl
  split
  · exact .refl
  split
  · exact .refl
  split
  · exact app.openSessionCredentialPrompt_reaches profileId
  · exact app.submitConnectExact_reaches _ _

theorem submitCredentialPrompt_reaches (typed : Option SessionSecret) :
    Reaches app.board (app.submitCredentialPrompt typed).board := by
  unfold submitCredentialPrompt
  split
  · exact .refl
  next prompt _ =>
    split
    · exact .refl
    split
    · exact .refl
    split
    · exact .refl
    next secret =>
      split
      · next port h =>
        obtain ⟨hevents, ⟨hsent, hmerged⟩ | ⟨-, -, hlane⟩⟩ := UiPort.trySubmit_cases h
        · have hboard := Step.side app.board (.storeCredentials ⟨prompt.profileId,
            prompt.profileGeneration, app.model.nextOperationId⟩ prompt.sourceOperation secret)
            rfl rfl
          refine .single ?_
          simpa only [board, UiModel.nextOperation, hsent, hmerged, hevents] using hboard
        · cases hlane
      · exact .refl

/-! ### Executing and browsing -/

theorem submitExecute_reaches (intent : ExecuteIntent) :
    Reaches app.board (app.submitExecute intent).board := by
  simp only [submitExecute]
  split
  · exact .refl
  split
  · exact .refl
  split
  · exact .refl
  split
  · exact .refl
  · exact app.submit_reaches rfl (fun _ => .refl) fun app' =>
      Marks.execute app'.board ⟨intent.key.profileId, intent.key.profileGeneration, _⟩ _ _ _ _ _
        intent.operationKind_execute

theorem submitCancelExecute_reaches (o : OperationId) :
    Reaches app.board (app.submitCancelExecute o).board := by
  unfold submitCancelExecute
  split
  · exact .refl
  · split
    · exact app.cancelOperation_reaches o
    · exact .refl

theorem submitResultExportTo_reaches (resultId : ResultId) (writable : Bool) :
    Reaches app.board (app.submitResultExportTo resultId writable).board := by
  unfold submitResultExportTo
  split
  · exact app.submit_side_reaches rfl rfl (fun _ => rfl) (fun _ => rfl)
  · exact .single (.skip app.board)

theorem submitCatalog_reaches (key : WorkspaceKey) (request : RequestIdentity → CatalogRequest)
    (hrequest : ∀ identity, (request identity).identity = identity) :
    Reaches app.board (app.submitCatalog key request).board := by
  refine app.submit_reaches ?_ (fun _ => .refl) fun app' => ?_
  · simp only [UiCommand.operationId, hrequest]
  · have := Marks.browse app'.board
      (request ⟨key.profileId, key.profileGeneration, app.model.nextOperationId⟩)
    simpa only [hrequest, workspaceKey, board, activate, registerRecipe, Board.activate]
      using this

theorem submitMysqlExplorerIntent_reaches (profile : ProfileSnapshot)
    (intent : MySqlExplorerIntent) :
    Reaches app.board (app.submitMysqlExplorerIntent profile intent).board := by
  unfold submitMysqlExplorerIntent
  split
  · exact .refl
  split
  · exact .refl
  · exact app.submitCatalog_reaches _ _ fun identity => by cases intent <;> rfl

theorem retryCatalogRequest_reaches (request : CatalogRequest) :
    Reaches app.board (app.retryCatalogRequest request).board := by
  unfold retryCatalogRequest
  split
  · exact .refl
  · exact app.submitCatalog_reaches _ _ fun _ => rfl

/-- Touching an explorer without adding to what it waits for. -/
theorem redisExplorerMut_reaches (key : WorkspaceKey) {change : RedisExplorer → RedisExplorer}
    (h : ∀ explorer, Narrows explorer (change explorer)) :
    Reaches app.board (app.redisExplorerMut key change).board := by
  refine .single (.tidyRedis app.board _ fun key' explorer' hmem => ?_)
  simp only [redisExplorerMut, Option.mem_def] at hmem
  by_cases hkey : key' = key
  · subst hkey
    rw [Function.update_self, Option.some_inj] at hmem
    exact hmem ▸ h _
  · rw [Function.update_of_ne hkey] at hmem
    have : app.board.redisExplorers key' = some explorer' := hmem
    rw [this]
    exact Narrows.refl explorer'

theorem submitScan_reaches (key : WorkspaceKey) (filter : RedisKeyFilter) (cursor count : Nat)
    (timeout : Duration) (restart : Bool) :
    Reaches app.board (app.submitScan key filter cursor count timeout restart).board :=
  app.submit_reaches rfl (fun app => app.redisExplorerMut_reaches key Narrows.refl) fun app' =>
    Marks.scan app'.board
      ⟨⟨key.profileId, key.profileGeneration, _⟩, filter, cursor, count, timeout⟩ restart

theorem submitInspect_reaches (key : WorkspaceKey) (redisKey : List UInt8)
    (timeout : Duration) : Reaches app.board (app.submitInspect key redisKey timeout).board :=
  app.submit_reaches rfl (fun app => app.redisExplorerMut_reaches key Narrows.refl) fun app' =>
    Marks.inspect app'.board ⟨⟨key.profileId, key.profileGeneration, _⟩, redisKey, timeout⟩

theorem submitRedisCancel_reaches (key : WorkspaceKey) (o : OperationId) :
    Reaches app.board (app.submitRedisCancel key o).board := by
  unfold submitRedisCancel
  split
  · have hcancel := app.cancelOperation_reaches o
    unfold cancelOperation at hcancel
    cases h : app.port.trySubmit (.cancelOperation o) with
    | error e => exact app.redisExplorerMut_reaches key Narrows.refl
    | ok port =>
      rw [h] at hcancel
      exact hcancel.trans (redisExplorerMut_reaches _ key (Narrows.cancelSubmitted o))
  · exact app.redisExplorerMut_reaches key Narrows.refl

theorem submitRedisIntentFor_reaches (key : WorkspaceKey) (intent : RedisExplorerIntent) :
    Reaches app.board (app.submitRedisIntentFor key intent).board := by
  cases intent with
  | cancel o => exact app.submitRedisCancel_reaches key o
  | scan filter cursor restart =>
    simp only [submitRedisIntentFor]
    split
    · exact app.submitScan_reaches ..
    · exact app.redisExplorerMut_reaches key Narrows.refl
  | inspect redisKey =>
    simp only [submitRedisIntentFor]
    split
    · exact app.submitInspect_reaches ..
    · exact app.redisExplorerMut_reaches key Narrows.refl

theorem submitRedisIntent_reaches (intent : RedisExplorerIntent) :
    Reaches app.board (app.submitRedisIntent intent).board := by
  unfold submitRedisIntent
  split
  · exact .refl
  split
  · exact app.redisExplorerMut_reaches _ Narrows.refl
  · exact app.submitRedisIntentFor_reaches ..

theorem retryRedisScan_reaches (request : RedisScanRequest) (restart : Bool) :
    Reaches app.board (app.retryRedisScan request restart).board := by
  unfold retryRedisScan
  split
  · exact .refl
  · exact app.submitScan_reaches ..

theorem retryRedisInspect_reaches (request : RedisKeyInspectRequest) :
    Reaches app.board (app.retryRedisInspect request).board := by
  unfold retryRedisInspect
  split
  · exact .refl
  · exact app.submitInspect_reaches ..

/-! ### Retrying, saving and deleting -/

theorem retryRecipe_reaches (recipeId : OperationRecipeId) (expected : Option OperationKind) :
    Reaches app.board (app.retryRecipe recipeId expected).board := by
  simp only [retryRecipe]
  split
  · exact .refl
  next recipe _ =>
    split
    · exact .refl
    split
    · exact .refl
    rw [← app.board_removeRecipe (some recipeId)]
    cases recipe with
    | connect key timeoutMs => exact submitConnectExact_reaches ..
    | reconnect key timeoutMs => exact submitReconnectExact_reaches ..
    | catalog request => exact retryCatalogRequest_reaches ..
    | redisScan request restart => exact retryRedisScan_reaches ..
    | redisInspect request => exact retryRedisInspect_reaches ..

theorem saveProfile_reaches (form : Option ValidatedForm) (connect : Bool) :
    Reaches app.board (app.saveProfile form connect).board := by
  unfold saveProfile
  split
  · next editor form _ =>
    split
    · exact .single (.skip app.board)
    next hblocked =>
      refine app.submit_reaches ?_ (fun _ => .refl) fun app' =>
        Marks.save app'.board editor (by simpa using hblocked) _ form connect
      unfold ProfileEditor.saveCommand
      cases editor.mode <;> rfl
  · exact .single (.skip app.board)
  · exact .refl

theorem testDraft_reaches (valid : Bool) : Reaches app.board (app.testDraft valid).board := by
  unfold testDraft
  split
  · exact .refl
  next editor _ =>
    split
    · exact .single (.skip app.board)
    next hblocked =>
      exact app.submit_reaches rfl (fun _ => .refl) fun app' =>
        Marks.testDraft app'.board editor (by simp_all) _

theorem confirmDeleteConfirmation_reaches :
    Reaches app.board app.confirmDeleteConfirmation.board := by
  simp only [confirmDeleteConfirmation]
  split
  · exact .refl
  split
  · exact .refl
  · exact app.submit_reaches rfl (fun _ => .refl) fun app' => Marks.delete app'.board ⟨_, _, _, _⟩

/-! ### Recovery -/

theorem clearProfileCatalog_reaches (profileId : ProfileId) :
    Reaches app.board (app.clearProfileCatalog profileId).board := by
  simp only [clearProfileCatalog]
  split
  · exact .refl
  next generation _ =>
    refine .single (.tidyMysql app.board _ fun key explorer' hmem o ho => ?_)
    by_cases hkey : key = ⟨profileId, generation⟩
    · subst hkey
      simp only [Function.update_self] at hmem
      obtain ⟨explorer, -, rfl⟩ := Option.mem_map.1 hmem
      cases ho
    · simp only [Function.update_of_ne hkey] at hmem
      exact ⟨explorer', hmem, ho⟩

theorem restartProfileRedisScan_reaches (profileId : ProfileId) :
    Reaches app.board (app.restartProfileRedisScan profileId).board := by
  simp only [restartProfileRedisScan]
  split
  · exact .refl
  · exact app.retryRedisScan_reaches ..

theorem dismissOperationError_reaches (o : OperationId) :
    Reaches app.board (app.dismissOperationError o).board := by
  refine (ReflTransGen.single (.tidyMysql app.board
    (fun key => (app.mysqlExplorers key).map (·.dismissError)) ?_)).tail (.tidyRedis _ _ ?_)
  · intro key explorer' hmem
    obtain ⟨explorer, hexplorer, rfl⟩ := Option.mem_map.1 hmem
    have : app.board.redisExplorers key = some explorer := hexplorer
    simp only [this, Option.getD_some]
    split
    · exact ⟨rfl, fun p hp => ⟨p, hp, rfl, rfl⟩, fun p hp => ⟨p, hp, rfl, rfl⟩⟩
    · exact Narrows.refl explorer
  · intro key explorer' hmem o' ho
    obtain ⟨explorer, hexplorer, rfl⟩ := Option.mem_map.1 hmem
    exact ⟨explorer, hexplorer, ho⟩

@[simp] theorem board_openCredentialEditor (profileId : ProfileId) (source : OperationId)
    (kind : OperationKind) :
    (app.openCredentialEditor profileId source kind).board = app.board := by
  simp only [openCredentialEditor]
  split
  · rfl
  · exact app.board_openCredentialPromptFor ..

theorem openEditor_reaches (mode : EditorMode) :
    Reaches app.board (app.openEditor mode).board := by
  refine .single (.edit app.board _ fun e he => ?_)
  cases he
  rfl

theorem openProfileEditorAt_reaches (profileId : ProfileId) :
    Reaches app.board (app.openProfileEditorAt profileId).board := by
  unfold openProfileEditorAt
  split
  · exact .refl
  · exact app.openEditor_reaches _

theorem dispatchErrorRecovery_reaches (o : OperationId) (error : PublicOperationError)
    (action : RecoveryAction) :
    Reaches app.board (app.dispatchErrorRecovery o error action).board := by
  unfold dispatchErrorRecovery
  split
  · exact .refl
  cases action with
  | openCredentialPrompt profileId => simpa using ReflTransGen.refl
  | editProfile profileId field => exact app.openProfileEditorAt_reaches profileId
  | retry recipeId =>
    dsimp only
    split
    · exact .refl
    · exact app.retryRecipe_reaches ..
  | focusEditor profileId | focusExecuteLimits profileId =>
    dsimp only
    split <;> exact .refl
  | reloadConfiguration => exact app.submitRefresh_reaches
  | reconnect profileId => exact app.submitReconnect_reaches profileId
  | cancelOperation o => exact app.cancelOperation_reaches o
  | clearCatalog profileId => exact app.clearProfileCatalog_reaches profileId
  | restartRedisScan profileId => exact app.restartProfileRedisScan_reaches profileId
  | restartApplication => exact app.submit_side_reaches rfl rfl (fun _ => rfl) fun _ => rfl
  | dismissError o => exact app.dismissOperationError_reaches o
  | editDraft draftId field => exact .refl
  | chooseExportDestination resultId => exact .refl
  | revealExportDestination resultId => exact .refl
  | revealMigrationBackup => exact .refl

end DbotterApp

end Dbotter.Ui
