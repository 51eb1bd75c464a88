import Dbotter.Ui.Model

/-!
The two explorers of the desktop.

An explorer remembers the requests it has submitted and what it retains of the pages that
came back. The texts of its filter field and its submission notice belong to the view.
-/

namespace Dbotter.Ui
open Dbotter.Utf8 Dbotter.Service Dbotter.Drivers

/-! ## MySQL -/

inductive BranchKey
  | schemas
  | relations (schema : Text)
  | columns (schema relation : Text)
  deriving DecidableEq, Repr

def BranchKey.forPage (page : CatalogPage) : Option BranchKey :=
  match page.level, page.parent with
  | .schemas, none => some .schemas
  | .relations, some (.schema schema) => some (.relations schema)
  | .columns, some (.relation schema relation) => some (.columns schema relation)
  | _, _ => none

def branchForRequest (request : CatalogRequest) : BranchKey :=
  match request.level with
  | .schemas => .schemas
  | .relations schema => .relations schema
  | .columns schema relation => .columns schema relation

structure CatalogBranch where
  nodes : List CatalogNode := []
  continuation : Option CatalogRequest := none
  truncated : Bool := false
  stale : Bool := false
  deriving DecidableEq

structure PendingCatalogRequest where
  request : CatalogRequest
  append : Bool
  deriving DecidableEq, Repr

structure MySqlExplorerState where
  branches : Table BranchKey CatalogBranch := fun _ => none
  pending : Table OperationId PendingCatalogRequest := fun _ => none
  retry : Option CatalogRequest := none
  lastError : Option PublicSummary := none
  retention : CatalogRetention := {}

namespace MySqlExplorerState

def markSubmitted (explorer : MySqlExplorerState) (request : CatalogRequest) :
    MySqlExplorerState :=
  { explorer with
    pending := Function.update explorer.pending request.identity.operationId
      (some ⟨request, request.pageToken.isSome⟩)
    lastError := none }

/-- A page of branch `key` taken into the branches, as an answer to `pending`. -/
def insertPage (explorer : MySqlExplorerState) (pending : Option PendingCatalogRequest)
    (key : BranchKey) (page : CatalogPage) : MySqlExplorerState :=
  let append := pending.any (·.append)
  let continuation := pending.bind fun pending =>
    page.nextToken.map fun token => { pending.request with pageToken := some token }
  let budget :=
    match append, explorer.branches key with
    | false, some previous => explorer.retention.remove previous.nodes
    | _, _ => explorer.retention
  let (retention, accepted, capped) := budget.retain page.nodes
  let previous := (explorer.branches key).getD {}
  let truncated := page.truncated || capped
  { explorer with
    retention
    branches := Function.update explorer.branches key <| some
      { nodes := (if append then previous.nodes else []) ++ accepted
        truncated
        continuation := if truncated then none else continuation
        stale := false }
    retry := none
    lastError := none }

def handleLoaded (explorer : MySqlExplorerState) (page : CatalogPage) : MySqlExplorerState :=
  let pending := explorer.pending page.identity.operationId
  let answered :=
    { explorer with
      pending := Function.update explorer.pending page.identity.operationId none }
  if pending.any fun pending => pageLevel pending.request.level != page.level then answered
  else
    match BranchKey.forPage page with
    | none => answered
    | some key => answered.insertPage pending key page

def handleFailed (explorer : MySqlExplorerState) (request : CatalogRequest)
    (summary : PublicSummary) : MySqlExplorerState :=
  let key := branchForRequest request
  { explorer with
    pending := Function.update explorer.pending request.identity.operationId none
    branches := Function.update explorer.branches key
      ((explorer.branches key).map ({ · with stale := true }))
    retry := some request
    lastError := some summary }

def clear (_explorer : MySqlExplorerState) : MySqlExplorerState := {}

def dismissError (explorer : MySqlExplorerState) : MySqlExplorerState :=
  { explorer with lastError := none }

/-- The explorer waits for operation `o`. -/
def Awaits (explorer : MySqlExplorerState) (o : OperationId) : Prop := (explorer.pending o).isSome

instance (explorer : MySqlExplorerState) (o : OperationId) : Decidable (explorer.Awaits o) :=
  inferInstanceAs (Decidable (_ = true))

@[simp] theorem insertPage_pending (explorer : MySqlExplorerState)
    (pending : Option PendingCatalogRequest) (key : BranchKey) (page : CatalogPage) :
    (explorer.insertPage pending key page).pending = explorer.pending := rfl

@[simp] theorem handleLoaded_pending (explorer : MySqlExplorerState) (page : CatalogPage) :
    (explorer.handleLoaded page).pending =
      Function.update explorer.pending page.identity.operationId none := by
  simp only [handleLoaded]
  split
  · rfl
  · cases BranchKey.forPage page <;> rfl

@[simp] theorem handleFailed_pending (explorer : MySqlExplorerState) (request : CatalogRequest)
    (summary : PublicSummary) :
    (explorer.handleFailed request summary).pending =
      Function.update explorer.pending request.identity.operationId none := rfl

end MySqlExplorerState

/-! ## Redis -/

structure PendingScan where
  operationId : OperationId
  filter : RedisKeyFilter
  cursor : Nat
  restart : Bool
  cancelRequested : Bool
  deriving DecidableEq, Repr

structure PendingInspect where
  operationId : OperationId
  key : List UInt8
  cancelRequested : Bool
  deriving DecidableEq, Repr

structure RedisExplorer where
  profile : Option WorkspaceKey := none
  scan : RedisScanAccumulator := { filter := .literalPrefix [] }
  pendingScan : Option PendingScan := none
  scanError : Option PublicOperationError := none
  selectedKey : Option (List UInt8) := none
  preview : Option RedisValuePreview := none
  pendingInspect : Option PendingInspect := none
  inspectError : Option PublicOperationError := none
  inspectStale : Bool := false
  deriving DecidableEq

namespace RedisExplorer

def beginScan (explorer : RedisExplorer) (operationId : OperationId) (filter : RedisKeyFilter)
    (cursor : Nat) (restart : Bool) : RedisExplorer :=
  { explorer with pendingScan := some ⟨operationId, filter, cursor, restart, false⟩ }

def beginInspect (explorer : RedisExplorer) (operationId : OperationId) (key : List UInt8) :
    RedisExplorer :=
  { explorer with pendingInspect := some ⟨operationId, key, false⟩ }

def cancelSubmitted (explorer : RedisExplorer) (operationId : OperationId) : RedisExplorer :=
  { explorer with
    pendingScan := explorer.pendingScan.map fun pending =>
      if pending.operationId = operationId then { pending with cancelRequested := true }
      else pending
    pendingInspect := explorer.pendingInspect.map fun pending =>
      if pending.operationId = operationId then { pending with cancelRequested := true }
      else pending }

def dismissErrors (explorer : RedisExplorer) : RedisExplorer :=
  { explorer with scanError := none, inspectError := none }

/-- The explorer after the page of its pending scan. -/
def takePage (explorer : RedisExplorer) (pending : PendingScan) (page : RedisKeyPage) :
    RedisExplorer :=
  let cleared :=
    if pending.restart then
      { explorer with
        pendingScan := none
        scan := explorer.scan.restart pending.filter
        selectedKey := none
        preview := none
        pendingInspect := none
        inspectError := none
        inspectStale := false }
    else { explorer with pendingScan := none }
  { cleared with scan := cleared.scan.applyPage page, scanError := none }

/-- The explorer after the preview of its pending inspection. -/
def takePreview (explorer : RedisExplorer) (preview : RedisValuePreview) : RedisExplorer :=
  { explorer with
    pendingInspect := none
    selectedKey := some preview.key.id
    preview := some preview
    inspectError := none
    inspectStale := preview.stale }

def handleEvent (explorer : RedisExplorer) : UiEvent → RedisExplorer
  | .redisKeysLoaded page _ _ =>
    match explorer.pendingScan with
    | some pending =>
      if explorer.profile = some (workspaceKey page.identity) ∧
          pending.operationId = page.identity.operationId then explorer.takePage pending page
      else explorer
    | none => explorer
  | .redisKeysFailed request error _ _ _ =>
    match explorer.pendingScan with
    | some pending =>
      if explorer.profile = some (workspaceKey request.identity) ∧
          pending.operationId = request.identity.operationId ∧
          pending.cursor = request.cursor then
        { explorer with
          pendingScan := none
          scan := explorer.scan.markStale
          scanError := some error }
      else explorer
    | none => explorer
  | .redisKeyInspected preview _ _ =>
    match explorer.pendingInspect with
    | some pending =>
      if explorer.profile = some (workspaceKey preview.identity) ∧
          pending.operationId = preview.identity.operationId ∧
          pending.key = preview.key.id then explorer.takePreview preview
      else explorer
    | none => explorer
  | .redisKeyInspectFailed request error _ _ _ =>
    match explorer.pendingInspect with
    | some pending =>
      if explorer.profile = some (workspaceKey request.identity) ∧
          pending.operationId = request.identity.operationId ∧
          pending.key = request.key then
        { explorer with
          pendingInspect := none
          inspectError := some error
          inspectStale := explorer.preview.isSome }
      else explorer
    | none => explorer
  | .configUncertain _ =>
    { explorer with
      pendingScan := none
      pendingInspect := none
      scan := explorer.scan.markStale
      inspectStale := explorer.preview.isSome }
  | .runtimeShutdown _ => { explorer with pendingScan := none, pendingInspect := none }
  | _ => explorer

/-- The explorer waits for operation `o`. -/
def Awaits (explorer : RedisExplorer) (o : OperationId) : Prop :=
  (∃ pending ∈ explorer.pendingScan, pending.operationId = o) ∨
    ∃ pending ∈ explorer.pendingInspect, pending.operationId = o

instance (explorer : RedisExplorer) (o : OperationId) : Decidable (explorer.Awaits o) :=
  inferInstanceAs (Decidable (_ ∨ _))

end RedisExplorer

end Dbotter.Ui
