import Dbotter.Ui.CatalogBranches
import Dbotter.Ui.Desktop

/-!
Catalog pages that nobody waits for.

A page is stale when its operation is not pending in the explorer of its profile: it has been
answered, or `clear` has dropped it. `handle_loaded` reads whether to append from the pending
entry, so that it takes a stale page for a first page without a continuation.

What a page changes is read from the accounts of the explorer: a page whose nodes fit beside the
other branches becomes the whole of its branch.
-/

namespace Dbotter.Ui
open Dbotter.Utf8 Dbotter.Service Dbotter.Drivers

/-! ## What reaches an explorer -/

inductive CatalogMove
  | submitted (request : CatalogRequest)
  | cleared (profileId : ProfileId)
  | heard (event : UiEvent)

namespace MySqlExplorerState

/-- The same branches with their continuations, the same counters, retry and error. -/
structure SameContent (explorer explorer' : MySqlExplorerState) : Prop where
  branches : explorer'.branches = explorer.branches
  retention : explorer.retention.Agrees explorer'.retention
  retry : explorer'.retry = explorer.retry
  lastError : explorer'.lastError = explorer.lastError

/-- The same content, and the same requests on their way. -/
structure Same (explorer explorer' : MySqlExplorerState) : Prop
    extends SameContent explorer explorer' where
  pending : explorer'.pending = explorer.pending

/-- The branch lists the nodes of the page as all there is, and the explorer has nothing else to
say. -/
structure AlreadyShown (explorer : MySqlExplorerState) (page : CatalogPage)
    (branch : CatalogBranch) : Prop where
  nodes : branch.nodes = page.nodes
  whole : branch.continuation = none
  truncated : branch.truncated = page.truncated
  fresh : branch.stale = false
  retry : explorer.retry = none
  lastError : explorer.lastError = none

/-- A stale page can do no harm: it belongs to no branch, or its branch already is the page. -/
def Harmless (explorer : MySqlExplorerState) (page : CatalogPage) : Prop :=
  BranchKey.forPage page = none ∨ ∃ key branch, BranchKey.forPage page = some key ∧
    explorer.branches key = some branch ∧ explorer.AlreadyShown page branch

/-- There is room for the page in the place of its branch: a budget can account for its nodes
beside those of the other branches. -/
def Fits (explorer : MySqlExplorerState) (page : CatalogPage) : Prop :=
  ∀ key, BranchKey.forPage page = some key → ∃ keys budget, explorer.Enumerates keys ∧
    Accounts budget (page.nodes ++ explorer.stored (keys.erase key))

variable {explorer explorer' : MySqlExplorerState} {page : CatalogPage}

/-- Explorers with the same branches have counted the same. -/
theorem Balanced.agrees (h : explorer.Balanced) (h' : explorer'.Balanced)
    (hbranches : explorer'.branches = explorer.branches) :
    explorer.retention.Agrees explorer'.retention := by
  obtain ⟨keys, henum, haccounts⟩ := h
  have hnodes (key : BranchKey) :
      (explorer'.branches key).map (·.nodes) = (explorer.branches key).map (·.nodes) := by
    rw [hbranches]
  have haccounts' := h'.accounts (henum.congr hnodes)
  rw [stored, storedIn_congr hnodes] at haccounts'
  exact haccounts.agrees haccounts' (.refl _)

/-- The answer to an operation that is not pending takes no entry away. -/
theorem pending_stale {o : OperationId} (hstale : ¬explorer.Awaits o) :
    explorer.pending o = none ∧
      Function.update explorer.pending o none = explorer.pending := by
  have hnone : explorer.pending o = none := by simpa [Awaits] using hstale
  refine ⟨hnone, ?_⟩
  rw [← hnone, Function.update_eq_self]

/-- A stale page of branch `key` becomes the whole branch. -/
theorem handleLoaded_stale (hstale : ¬explorer.Awaits page.identity.operationId)
    {key : BranchKey} (hkey : BranchKey.forPage page = some key) :
    explorer.handleLoaded page = explorer.insertPage none key page := by
  obtain ⟨hnone, hsame⟩ := pending_stale hstale
  simp [handleLoaded, hnone, hkey, hsame]

/-- A stale page of no branch changes nothing. -/
theorem handleLoaded_stranger (hstale : ¬explorer.Awaits page.identity.operationId)
    (hkey : BranchKey.forPage page = none) : explorer.handleLoaded page = explorer := by
  obtain ⟨hnone, hsame⟩ := pending_stale hstale
  simp [handleLoaded, hnone, hkey, hsame]

/-- What a page makes of its branch. -/
theorem insertPage_branches (explorer : MySqlExplorerState)
    (pending : Option PendingCatalogRequest) (key : BranchKey) (page : CatalogPage) :
    (explorer.insertPage pending key page).branches = Function.update explorer.branches key (some
      ⟨(if pending.any (·.append) then ((explorer.branches key).getD {}).nodes else []) ++
          ((explorer.pageBudget pending key).retain page.nodes).2.1,
        if page.truncated || ((explorer.pageBudget pending key).retain page.nodes).2.2 then none
        else pending.bind fun pending =>
          page.nextToken.map fun token => { pending.request with pageToken := some token },
        page.truncated || ((explorer.pageBudget pending key).retain page.nodes).2.2, false⟩) := rfl

/-- What a stale page makes of its branch, where it fits. -/
theorem Fits.insertPage (hfits : explorer.Fits page) (h : explorer.Balanced) {key : BranchKey}
    (hkey : BranchKey.forPage page = some key) :
    (explorer.insertPage none key page).branches = Function.update explorer.branches key
      (some ⟨page.nodes, none, page.truncated, false⟩) := by
  obtain ⟨keys, budget, henum, hroom⟩ := hfits key hkey
  have hbudget := henum.pageBudget (h.accounts henum) none key
  have hretain : ((explorer.pageBudget none key).retain page.nodes).2 = (page.nodes, false) :=
    hbudget.retain_all page.nodes hroom
  rw [insertPage_branches, hretain]
  simp

theorem AlreadyShown.fits {key : BranchKey} {branch : CatalogBranch}
    (hshown : explorer.AlreadyShown page branch) (h : explorer.Balanced)
    (hkey : BranchKey.forPage page = some key) (hbranch : explorer.branches key = some branch) :
    explorer.Fits page := by
  obtain ⟨keys, henum, haccounts⟩ := h
  intro key' hkey'
  rw [hkey, Option.some_inj] at hkey'
  subst hkey'
  have hsplit := haccounts.perm (henum.split key)
  rw [storedIn, hbranch, Option.elim_some, hshown.nodes] at hsplit
  exact ⟨keys, _, henum, hsplit⟩

/-- A harmless stale page changes nothing. -/
theorem Harmless.same (hharmless : explorer.Harmless page) (h : explorer.Balanced)
    (hstale : ¬explorer.Awaits page.identity.operationId) :
    explorer.Same (explorer.handleLoaded page) := by
  rcases hharmless with hnone | ⟨key, branch, hkey, hbranch, hshown⟩
  · rw [handleLoaded_stranger hstale hnone]
    exact ⟨⟨rfl, .refl _, rfl, rfl⟩, rfl⟩
  · rw [handleLoaded_stale hstale hkey]
    have hsame : (⟨page.nodes, none, page.truncated, false⟩ : CatalogBranch) = branch := by
      rw [← hshown.nodes, ← hshown.whole, ← hshown.truncated, ← hshown.fresh]
    have hbranches : (explorer.insertPage none key page).branches = explorer.branches := by
      rw [(hshown.fits h hkey hbranch).insertPage h hkey, hsame, ← hbranch, Function.update_eq_self]
    exact ⟨⟨hbranches, h.agrees (h.insertPage none key page) hbranches, hshown.retry.symm,
      hshown.lastError.symm⟩, rfl⟩

/-- A stale page that fits and changes nothing is harmless. -/
theorem Harmless.of_sameContent (hfits : explorer.Fits page) (h : explorer.Balanced)
    (hstale : ¬explorer.Awaits page.identity.operationId)
    (hsame : explorer.SameContent (explorer.handleLoaded page)) : explorer.Harmless page := by
  cases hkey : BranchKey.forPage page with
  | none => exact .inl hkey
  | some key =>
    rw [handleLoaded_stale hstale hkey] at hsame
    have hbranch := congrFun hsame.branches key
    rw [hfits.insertPage h hkey, Function.update_self] at hbranch
    exact .inr ⟨key, _, hkey, hbranch.symm, rfl, rfl, rfl, rfl, hsame.retry.symm,
      hsame.lastError.symm⟩

/-! ### Explorers that are the same -/

theorem Same.refl (explorer : MySqlExplorerState) : explorer.Same explorer :=
  ⟨⟨rfl, .refl _, rfl, rfl⟩, rfl⟩

theorem Same.trans {explorer'' : MySqlExplorerState} (h : explorer.Same explorer')
    (h' : explorer'.Same explorer'') : explorer.Same explorer'' :=
  ⟨⟨h'.branches.trans h.branches, h.retention.trans h'.retention, h'.retry.trans h.retry,
    h'.lastError.trans h.lastError⟩, h'.pending.trans h.pending⟩

/-- A page is taken alike where the budgets account for the same branches. -/
theorem Balanced.insertPage_alike (h : explorer.Balanced) (h' : explorer'.Balanced)
    (hbranches : explorer'.branches = explorer.branches) (pending : Option PendingCatalogRequest)
    (key : BranchKey) (page : CatalogPage) :
    (explorer'.insertPage pending key page).branches =
      (explorer.insertPage pending key page).branches := by
  obtain ⟨keys, henum, haccounts⟩ := h
  have hnodes (key : BranchKey) :
      (explorer'.branches key).map (·.nodes) = (explorer.branches key).map (·.nodes) := by
    rw [hbranches]
  have henum' := henum.congr hnodes
  have hbudget' := henum'.pageBudget (h'.accounts henum') pending key
  rw [stored, storedIn_congr hnodes] at hbudget'
  have hretain := (henum.pageBudget haccounts pending key).retain_eq page.nodes hbudget'
  rw [explorer'.insertPage_branches, explorer.insertPage_branches, hretain, hbranches]

theorem Same.handleLoaded (hsame : explorer.Same explorer') (h : explorer.Balanced)
    (h' : explorer'.Balanced) (page : CatalogPage) :
    (explorer.handleLoaded page).Same (explorer'.handleLoaded page) := by
  have hagrees := (h.handleLoaded page).agrees (h'.handleLoaded page)
  obtain ⟨⟨hbranches, hretention, hretry, hlast⟩, hpending⟩ := hsame
  have hanswered : ∀ {e : MySqlExplorerState}, e.Balanced → Balanced { e with
      pending := Function.update e.pending page.identity.operationId none } :=
    fun he => he.congr (fun _ => rfl) rfl
  have hinsert := (hanswered h).insertPage_alike (hanswered h') hbranches
  simp only [MySqlExplorerState.handleLoaded, hpending] at hagrees hinsert ⊢
  split
  · exact ⟨⟨hbranches, hretention, hretry, hlast⟩, rfl⟩
  · cases hkey : BranchKey.forPage page with
    | none => exact ⟨⟨hbranches, hretention, hretry, hlast⟩, rfl⟩
    | some key =>
      rename_i hlevel
      rw [if_neg hlevel, if_neg hlevel] at hagrees
      simp only [hkey] at hagrees
      have hnew := hinsert (explorer.pending page.identity.operationId) key page
      exact ⟨⟨hnew, hagrees hnew, rfl, rfl⟩, rfl⟩

theorem Same.handleFailed (hsame : explorer.Same explorer') (request : CatalogRequest)
    (summary : PublicSummary) :
    (explorer.handleFailed request summary).Same (explorer'.handleFailed request summary) := by
  obtain ⟨⟨hbranches, hretention, -, -⟩, hpending⟩ := hsame
  refine ⟨⟨?_, hretention, rfl, rfl⟩, ?_⟩
  · simp only [MySqlExplorerState.handleFailed, hbranches]
  · simp only [MySqlExplorerState.handleFailed, hpending]

theorem Same.markSubmitted (hsame : explorer.Same explorer') (request : CatalogRequest) :
    (explorer.markSubmitted request).Same (explorer'.markSubmitted request) := by
  obtain ⟨⟨hbranches, hretention, hretry, -⟩, hpending⟩ := hsame
  refine ⟨⟨hbranches, hretention, hretry, rfl⟩, ?_⟩
  simp only [MySqlExplorerState.markSubmitted, hpending]

theorem Balanced.call (h : explorer.Balanced) (c : Call) : (explorer.call c).Balanced := by
  cases c with
  | markSubmitted request => exact h.congr (fun _ => rfl) rfl
  | handleLoaded page => exact h.handleLoaded page
  | handleFailed request summary => exact h.handleFailed request summary
  | clear => exact .empty

theorem Same.call (hsame : explorer.Same explorer') (h : explorer.Balanced)
    (h' : explorer'.Balanced) (c : Call) : (explorer.call c).Same (explorer'.call c) := by
  cases c with
  | markSubmitted request => exact hsame.markSubmitted request
  | handleLoaded page => exact hsame.handleLoaded h h' page
  | handleFailed request summary => exact hsame.handleFailed request summary
  | clear => exact .refl _

end MySqlExplorerState

/-! ## Runs -/

namespace DbotterApp

def explorerAt (app : DbotterApp) (key : WorkspaceKey) : MySqlExplorerState :=
  (app.mysqlExplorers key).getD {}

/-- One thing reaches an explorer: a submission is marked, `ClearProfileCatalog` is dispatched,
or an event is folded. -/
def catalogMove (app : DbotterApp) : CatalogMove → DbotterApp
  | .submitted request =>
    app.mysqlExplorerMut (workspaceKey request.identity) (·.markSubmitted request)
  | .cleared profileId => app.clearProfileCatalog profileId
  | .heard event => app.foldMysqlExplorerEvent event

def catalogRun (app : DbotterApp) (moves : List CatalogMove) : DbotterApp :=
  moves.foldl catalogMove app

/-- The page that a move delivers to an explorer that does not wait for it. -/
def stalePage (app : DbotterApp) : CatalogMove → Option CatalogPage
  | .heard (.catalogPageLoaded page _ _) =>
    if (app.explorerAt (workspaceKey page.identity)).Awaits page.identity.operationId then none
    else some page
  | _ => none

/-- `P` holds of every stale page of the run, and of the application that it finds. -/
def EachStale (P : DbotterApp → CatalogPage → Prop) : DbotterApp → List CatalogMove → Prop
  | _, [] => True
  | app, move :: moves =>
    (∀ page ∈ app.stalePage move, P app page) ∧ EachStale P (app.catalogMove move) moves

/-- The moves of the run without the stale pages. -/
def heeded : DbotterApp → List CatalogMove → List CatalogMove
  | _, [] => []
  | app, move :: moves =>
    if (app.stalePage move).isSome then heeded (app.catalogMove move) moves
    else move :: heeded (app.catalogMove move) moves

/-- The page leaves the content of its explorer as it was, whatever it says of the session. -/
def Ignored (app : DbotterApp) (page : CatalogPage) : Prop :=
  ∀ session disposition, (app.explorerAt (workspaceKey page.identity)).SameContent
    ((app.foldMysqlExplorerEvent (.catalogPageLoaded page session disposition)).explorerAt
      (workspaceKey page.identity))

def StaleHarmless (app : DbotterApp) (page : CatalogPage) : Prop :=
  (app.explorerAt (workspaceKey page.identity)).Harmless page

def StaleFits (app : DbotterApp) (page : CatalogPage) : Prop :=
  (app.explorerAt (workspaceKey page.identity)).Fits page

/-- The budget of every explorer accounts for its branches. -/
def Balanced (app : DbotterApp) : Prop := ∀ key, (app.explorerAt key).Balanced

@[simp] theorem mysqlExplorerMut_explorerAt (app : DbotterApp) (key : WorkspaceKey)
    (change : MySqlExplorerState → MySqlExplorerState) :
    (app.mysqlExplorerMut key change).explorerAt =
      Function.update app.explorerAt key (change (app.explorerAt key)) := by
  funext key'
  by_cases hkey : key' = key
  · subst hkey
    simp [explorerAt, mysqlExplorerMut]
  · simp [explorerAt, mysqlExplorerMut, Function.update_of_ne hkey]

variable {app app' : DbotterApp}

theorem stalePage_eq {move : CatalogMove} {page : CatalogPage}
    (h : app.stalePage move = some page) :
    (∃ session disposition, move = .heard (.catalogPageLoaded page session disposition)) ∧
      ¬(app.explorerAt (workspaceKey page.identity)).Awaits page.identity.operationId := by
  unfold stalePage at h
  split at h
  · split at h
    · cases h
    · rename_i session disposition hstale
      rw [Option.some_inj] at h
      subst h
      exact ⟨⟨session, disposition, rfl⟩, hstale⟩
  · cases h

theorem ignored_iff {page : CatalogPage} : app.Ignored page ↔
    (app.explorerAt (workspaceKey page.identity)).SameContent
      ((app.explorerAt (workspaceKey page.identity)).handleLoaded page) := by
  simp only [Ignored, foldMysqlExplorerEvent, mysqlExplorerMut_explorerAt, Function.update_self]
  exact ⟨fun h => h 0 .keep, fun h _ _ => h⟩

/-! ### One explorer at a time -/

/-- The call that a move makes, and the explorer it is made to. -/
def catalogCall (app : DbotterApp) :
    CatalogMove → Option (WorkspaceKey × MySqlExplorerState.Call)
  | .submitted request => some (workspaceKey request.identity, .markSubmitted request)
  | .cleared profileId =>
    (app.model.activeGenerations profileId).map fun generation => (⟨profileId, generation⟩, .clear)
  | .heard (.catalogPageLoaded page _ _) => some (workspaceKey page.identity, .handleLoaded page)
  | .heard (.catalogPageFailed request _ error _ _) =>
    some (workspaceKey request.identity, .handleFailed request error.summary)
  | .heard (.profileDeleted identity _) => some (workspaceKey identity, .clear)
  | .heard _ => none

theorem clearProfileCatalog_explorerAt (app : DbotterApp) (profileId : ProfileId) :
    (app.clearProfileCatalog profileId).explorerAt =
      (app.model.activeGenerations profileId).elim app.explorerAt fun generation =>
        Function.update app.explorerAt ⟨profileId, generation⟩ {} := by
  cases hgeneration : app.model.activeGenerations profileId with
  | none => simp [clearProfileCatalog, hgeneration]
  | some generation =>
    funext key
    by_cases hkey : key = ⟨profileId, generation⟩
    · subst hkey
      cases hexplorer : app.mysqlExplorers ⟨profileId, generation⟩ <;>
        simp [clearProfileCatalog, hgeneration, explorerAt, hexplorer, MySqlExplorerState.clear]
    · simp [clearProfileCatalog, hgeneration, explorerAt, Function.update_of_ne hkey]

/-- A move makes one call to one explorer at most. -/
theorem catalogMove_explorerAt (app : DbotterApp) (move : CatalogMove) :
    (app.catalogMove move).explorerAt = (app.catalogCall move).elim app.explorerAt fun made =>
      Function.update app.explorerAt made.1 ((app.explorerAt made.1).call made.2) := by
  cases move with
  | submitted request => exact mysqlExplorerMut_explorerAt app _ (·.markSubmitted request)
  | cleared profileId =>
    simp only [catalogMove, catalogCall, clearProfileCatalog_explorerAt]
    cases app.model.activeGenerations profileId <;> rfl
  | heard event =>
    cases event with
    | catalogPageLoaded page session disposition =>
      exact mysqlExplorerMut_explorerAt app _ (·.handleLoaded page)
    | catalogPageFailed request outcome error session disposition =>
      exact mysqlExplorerMut_explorerAt app _ (·.handleFailed request error.summary)
    | profileDeleted identity outcome =>
      funext key
      by_cases hdeleted : key = workspaceKey identity
      · subst hdeleted
        simp [catalogMove, catalogCall, foldMysqlExplorerEvent, explorerAt,
          MySqlExplorerState.call, MySqlExplorerState.clear]
      · simp [catalogMove, catalogCall, foldMysqlExplorerEvent, explorerAt,
          Function.update_of_ne hdeleted]
    | _ => rfl

theorem catalogMove_generations (app : DbotterApp) (move : CatalogMove) :
    (app.catalogMove move).model.activeGenerations = app.model.activeGenerations := by
  cases move with
  | submitted request => rfl
  | cleared profileId =>
    show (app.clearProfileCatalog profileId).model.activeGenerations = _
    unfold clearProfileCatalog
    split <;> rfl
  | heard event =>
    show (app.foldMysqlExplorerEvent event).model.activeGenerations = _
    unfold foldMysqlExplorerEvent
    split <;> rfl

theorem Balanced.step (h : app.Balanced) (move : CatalogMove) :
    (app.catalogMove move).Balanced := by
  intro key
  rw [catalogMove_explorerAt]
  cases app.catalogCall move with
  | none => exact h key
  | some made =>
    show (Function.update app.explorerAt made.1 ((app.explorerAt made.1).call made.2) key).Balanced
    by_cases hkey : key = made.1
    · rw [hkey, Function.update_self]
      exact (h made.1).call made.2
    · rw [Function.update_of_ne hkey]
      exact h key

theorem Balanced.run (h : app.Balanced) (moves : List CatalogMove) :
    (app.catalogRun moves).Balanced := by
  induction moves generalizing app with
  | nil => exact h
  | cons move moves ih => exact ih (h.step move)

/-- Two applications with the same explorers of the same profiles. -/
structure Alike (app app' : DbotterApp) : Prop where
  explorers : ∀ key, (app.explorerAt key).Same (app'.explorerAt key)
  generations : app'.model.activeGenerations = app.model.activeGenerations

theorem Alike.refl (app : DbotterApp) : Alike app app := ⟨fun _ => .refl _, rfl⟩

theorem Alike.trans {app'' : DbotterApp} (h : Alike app app') (h' : Alike app' app'') :
    Alike app app'' :=
  ⟨fun key => (h.explorers key).trans (h'.explorers key), h'.generations.trans h.generations⟩

theorem Alike.call_eq (h : Alike app app') (move : CatalogMove) :
    app'.catalogCall move = app.catalogCall move := by
  cases move with
  | cleared profileId => simp only [catalogCall, h.generations]
  | submitted request => rfl
  | heard event => cases event <;> rfl

theorem Alike.step (h : Alike app app') (hbalanced : app.Balanced) (hbalanced' : app'.Balanced)
    (move : CatalogMove) : Alike (app.catalogMove move) (app'.catalogMove move) := by
  refine ⟨fun key => ?_, ?_⟩
  · rw [catalogMove_explorerAt, catalogMove_explorerAt, h.call_eq move]
    cases app.catalogCall move with
    | none => exact h.explorers key
    | some made =>
      show (Function.update app.explorerAt made.1 _ key).Same
        (Function.update app'.explorerAt made.1 _ key)
      by_cases hkey : key = made.1
      · rw [hkey, Function.update_self, Function.update_self]
        exact (h.explorers made.1).call (hbalanced made.1) (hbalanced' made.1) made.2
      · rw [Function.update_of_ne hkey, Function.update_of_ne hkey]
        exact h.explorers key
  · rw [catalogMove_generations, catalogMove_generations, h.generations]

theorem Alike.run (h : Alike app app') (hbalanced : app.Balanced) (hbalanced' : app'.Balanced)
    (moves : List CatalogMove) : Alike (app.catalogRun moves) (app'.catalogRun moves) := by
  induction moves generalizing app app' with
  | nil => exact h
  | cons move moves ih =>
    exact ih (h.step hbalanced hbalanced' move) (hbalanced.step move) (hbalanced'.step move)

/-! ### Harmless pages -/

/-- A harmless stale page might as well not have come. -/
theorem StaleHarmless.alike {move : CatalogMove} {page : CatalogPage} (h : app.StaleHarmless page)
    (hbalanced : app.Balanced) (hstale : app.stalePage move = some page) :
    Alike app (app.catalogMove move) := by
  obtain ⟨⟨session, disposition, rfl⟩, hpending⟩ := stalePage_eq hstale
  refine ⟨fun key => ?_, rfl⟩
  show (app.explorerAt key).Same ((app.mysqlExplorerMut (workspaceKey page.identity)
    (·.handleLoaded page)).explorerAt key)
  rw [mysqlExplorerMut_explorerAt]
  by_cases hkey : key = workspaceKey page.identity
  · rw [hkey, Function.update_self]
    exact MySqlExplorerState.Harmless.same h (hbalanced _) hpending
  · rw [Function.update_of_ne hkey]
    exact .refl _

theorem heeded_alike {moves : List CatalogMove} (h : EachStale StaleHarmless app moves)
    (hbalanced : app.Balanced) :
    Alike (app.catalogRun (app.heeded moves)) (app.catalogRun moves) := by
  induction moves generalizing app with
  | nil => exact .refl _
  | cons move moves ih =>
    simp only [heeded]
    cases hstale : app.stalePage move with
    | none => exact ih h.2 (hbalanced.step move)
    | some page =>
      have hmove : Alike app (app.catalogMove move) := (h.1 page hstale).alike hbalanced hstale
      exact (hmove.run hbalanced (hbalanced.step move) _).trans (ih h.2 (hbalanced.step move))

/-- What is so of each stale page of a run with accounts. -/
theorem EachStale.imp {P Q : DbotterApp → CatalogPage → Prop}
    (himp : ∀ {app : DbotterApp} {page : CatalogPage}, app.Balanced →
      ¬(app.explorerAt (workspaceKey page.identity)).Awaits page.identity.operationId →
        P app page → Q app page) {moves : List CatalogMove} (hbalanced : app.Balanced)
    (h : EachStale P app moves) : EachStale Q app moves := by
  induction moves generalizing app with
  | nil => trivial
  | cons move moves ih =>
    exact ⟨fun page hpage => himp hbalanced (stalePage_eq hpage).2 (h.1 page hpage),
      ih (hbalanced.step move) h.2⟩

theorem EachStale.and {P Q : DbotterApp → CatalogPage → Prop} {moves : List CatalogMove}
    (h : EachStale P app moves) (h' : EachStale Q app moves) :
    EachStale (fun app page => P app page ∧ Q app page) app moves := by
  induction moves generalizing app with
  | nil => trivial
  | cons move moves ih =>
    exact ⟨fun page hpage => ⟨h.1 page hpage, h'.1 page hpage⟩, ih h.2 h'.2⟩

/-- **Stale pages.** Where each stale page of a run is harmless, all of them leave the content of
their explorers alone, and the run ends with the explorers of the run in which none of them
arrives. Of pages that fit where they arrive no others are left alone. -/
theorem stale_pages_ignored (app : DbotterApp) (hbalanced : app.Balanced)
    (moves : List CatalogMove) :
    (EachStale StaleHarmless app moves → EachStale Ignored app moves ∧ ∀ key,
        ((app.catalogRun (app.heeded moves)).explorerAt key).Same
          ((app.catalogRun moves).explorerAt key)) ∧
      (EachStale StaleFits app moves →
        (EachStale Ignored app moves ↔ EachStale StaleHarmless app moves)) ∧
      (app.catalogRun moves).Balanced := by
  have hignored (h : EachStale StaleHarmless app moves) : EachStale Ignored app moves := by
    refine h.imp ?_ hbalanced
    intro app page hbalanced hstale hharmless
    exact ignored_iff.2
      (MySqlExplorerState.Harmless.same hharmless (hbalanced _) hstale).toSameContent
  refine ⟨fun h => ⟨hignored h, (heeded_alike h hbalanced).explorers⟩, fun hfits => ⟨?_, hignored⟩,
    hbalanced.run moves⟩
  intro h
  refine (hfits.and h).imp ?_ hbalanced
  rintro app page hbalanced hstale ⟨hfits, hignored⟩
  exact MySqlExplorerState.Harmless.of_sameContent hfits (hbalanced _) hstale
    (ignored_iff.1 hignored)

def schemasRequest (operationId : OperationId) (pageToken : Option Text) : CatalogRequest :=
  ⟨⟨"p".toList, 1, operationId⟩, .schemas, none, pageToken, 50, 5000000000⟩

def schemasPage (operationId : OperationId) (schema : Text) (nextToken : Option Text) :
    CatalogPage :=
  ⟨⟨"p".toList, 1, operationId⟩, .schemas, none, [⟨.schema schema, schema, none⟩], nextToken,
    {}, 1, false, false⟩

/-- A page that comes twice. -/
def loadedTwice : List CatalogMove :=
  [.submitted (schemasRequest 2 none),
    .heard (.catalogPageLoaded (schemasPage 2 "a".toList none) 1 .keep),
    .heard (.catalogPageLoaded (schemasPage 2 "a".toList none) 1 .keep)]

theorem balanced_of_empty (h : ∀ key, app.mysqlExplorers key = none) : app.Balanced := by
  intro key
  rw [explorerAt, h]
  exact .empty

theorem stale_pages_ignored_twice :
    let app := (Desktop.run []).app
    EachStale Ignored app loadedTwice ∧ ∀ key,
      ((app.catalogRun (loadedTwice.take 2)).explorerAt key).Same
        ((app.catalogRun loadedTwice).explorerAt key) := by
  intro app
  have hbalanced : app.Balanced := balanced_of_empty fun _ => rfl
  have hheeded : app.heeded loadedTwice = loadedTwice.take 2 := by rfl
  have hharmless : EachStale StaleHarmless app loadedTwice := by
    refine ⟨?_, ?_, ?_, trivial⟩
    · intro page hpage
      cases hpage
    · intro page hpage
      cases hpage
    · intro page hpage
      cases hpage
      exact .inr ⟨.schemas, _, rfl, rfl, rfl, rfl, rfl, rfl, rfl, rfl⟩
  obtain ⟨hignored, hsame⟩ := (stale_pages_ignored app hbalanced loadedTwice).1 hharmless
  rw [hheeded] at hsame
  exact ⟨hignored, hsame⟩

/-! ## A continuation after a clear -/

/-- A first page, more of it, and the second page after a clear. -/
def clearedWhileLoading : List CatalogMove :=
  [.submitted (schemasRequest 2 none),
    .heard (.catalogPageLoaded (schemasPage 2 "a".toList (some "t".toList)) 1 .keep),
    .submitted (schemasRequest 3 (some "t".toList)),
    .cleared "p".toList,
    .heard (.catalogPageLoaded (schemasPage 3 "b".toList none) 1 .keep)]

/-- The second page is shown as all there is. -/
theorem continuation_shown_whole :
    let app := (Desktop.run (Desktop.firstLoad .mySql)).app
    ¬EachStale Ignored app clearedWhileLoading ∧
      ((app.catalogRun clearedWhileLoading).explorerAt ⟨"p".toList, 1⟩).branches .schemas =
        some ⟨(schemasPage 3 "b".toList none).nodes, none, false, false⟩ := by
  intro app
  have hshown : ((app.catalogRun clearedWhileLoading).explorerAt ⟨"p".toList, 1⟩).branches
      .schemas = some ⟨(schemasPage 3 "b".toList none).nodes, none, false, false⟩ := by
    decide +kernel
  have hstale : (app.catalogRun (clearedWhileLoading.take 4)).stalePage
      (.heard (.catalogPageLoaded (schemasPage 3 "b".toList none) 1 .keep)) =
        some (schemasPage 3 "b".toList none) := by
    decide +kernel
  have hempty : ((app.catalogRun (clearedWhileLoading.take 4)).explorerAt
      ⟨"p".toList, 1⟩).branches .schemas = none := by
    decide +kernel
  refine ⟨fun hignored => ?_, hshown⟩
  have hsame := (hignored.2.2.2.2.1 _ hstale 1 .keep).branches
  have hschemas := congrFun hsame .schemas
  exact absurd (hshown.symm.trans (hschemas.trans hempty)) nofun

end DbotterApp

end Dbotter.Ui
