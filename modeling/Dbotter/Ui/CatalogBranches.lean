import Dbotter.Drivers.CatalogAccounts
import Dbotter.Ui.Explorers

/-!
The budget of the MySQL explorer accounts for the nodes of its branches.

A page replaces the nodes of its branch or is appended to them, and it touches no other branch.
-/

namespace Dbotter.Ui
open Dbotter.Utf8 Dbotter.Service Dbotter.Drivers

/-! ## Branches -/

/-- The branch that a node stands in. -/
def nodeBranch : CatalogNodeIdentity → BranchKey
  | .schema _ => .schemas
  | .relation schema _ => .relations schema
  | .column schema relation _ => .columns schema relation

/-- The nodes of a page belong to its branch. -/
def PageBelongs (page : CatalogPage) : Prop :=
  ∀ key, BranchKey.forPage page = some key → ∀ node ∈ page.nodes, nodeBranch node.identity = key

namespace MySqlExplorerState

/-- The nodes of a branch. -/
def storedIn (explorer : MySqlExplorerState) (key : BranchKey) : List CatalogNode :=
  (explorer.branches key).elim [] (·.nodes)

/-- The nodes of several branches. -/
def stored (explorer : MySqlExplorerState) (keys : List BranchKey) : List CatalogNode :=
  keys.flatMap explorer.storedIn

/-- These are the branches of the explorer, each once. -/
structure Enumerates (explorer : MySqlExplorerState) (keys : List BranchKey) : Prop where
  nodup : keys.Nodup
  mem : ∀ key, key ∈ keys ↔ (explorer.branches key).isSome = true

/-- The budget accounts for the nodes of all branches. -/
def Balanced (explorer : MySqlExplorerState) : Prop :=
  ∃ keys, explorer.Enumerates keys ∧ Accounts explorer.retention (explorer.stored keys)

/-- The budget accounts for the nodes of all branches, each of which stands in its branch. -/
structure Accounted (explorer : MySqlExplorerState) : Prop where
  home : ∀ key, ∀ node ∈ explorer.storedIn key, nodeBranch node.identity = key
  accounts : ∃ keys, explorer.Enumerates keys ∧ Accounts explorer.retention (explorer.stored keys)

/-- What is left of the budget for the nodes of a page. -/
def pageBudget (explorer : MySqlExplorerState) (pending : Option PendingCatalogRequest)
    (key : BranchKey) : CatalogRetention :=
  match pending.any (·.append), explorer.branches key with
  | false, some previous => explorer.retention.remove previous.nodes
  | _, _ => explorer.retention

/-- Nothing saturates when the explorer takes the page. -/
def LoadsExactly (explorer : MySqlExplorerState) (page : CatalogPage) : Prop :=
  ∀ key, BranchKey.forPage page = some key →
    ((explorer.pending page.identity.operationId).any (·.append) = false →
        RemovesExactly explorer.retention (explorer.storedIn key)) ∧
      RetainsExactly (explorer.pageBudget (explorer.pending page.identity.operationId) key)
        page.nodes

section
variable {explorer : MySqlExplorerState} {keys : List BranchKey}

theorem Enumerates.perm {keys' : List BranchKey} (h : explorer.Enumerates keys)
    (h' : explorer.Enumerates keys') : keys.Perm keys' :=
  (List.perm_ext_iff_of_nodup h.nodup h'.nodup).mpr fun key => (h.mem key).trans (h'.mem key).symm

/-- The nodes of one branch, and those of the others. -/
theorem Enumerates.split (h : explorer.Enumerates keys) (key : BranchKey) :
    (explorer.stored keys).Perm (explorer.storedIn key ++ explorer.stored (keys.erase key)) := by
  by_cases hmem : key ∈ keys
  · exact (List.perm_cons_erase hmem).flatMap_right explorer.storedIn
  · have hnone : explorer.storedIn key = [] := by
      have habsent := mt (h.mem key).mpr hmem
      rw [Bool.not_eq_true, Option.isSome_eq_false_iff, Option.isNone_iff_eq_none] at habsent
      rw [storedIn, habsent, Option.elim_none]
    rw [hnone, List.nil_append, List.erase_of_not_mem hmem]

/-- The branch of the page has new nodes. -/
theorem Enumerates.update {explorer' : MySqlExplorerState} (h : explorer.Enumerates keys)
    {key : BranchKey} {branch : CatalogBranch}
    (hbranches : explorer'.branches = Function.update explorer.branches key (some branch)) :
    explorer'.Enumerates (key :: keys.erase key) ∧
      explorer'.stored (key :: keys.erase key) =
        branch.nodes ++ explorer.stored (keys.erase key) := by
  have hfresh : key ∉ keys.erase key := h.nodup.not_mem_erase
  refine ⟨⟨List.nodup_cons.mpr ⟨hfresh, h.nodup.erase key⟩, fun other => ?_⟩, ?_⟩
  · rw [hbranches, List.mem_cons, h.nodup.mem_erase_iff, h.mem]
    by_cases hsame : other = key
    · subst hsame
      simp
    · simp [hsame]
  · have hself : explorer'.storedIn key = branch.nodes := by
      rw [storedIn, hbranches, Function.update_self, Option.elim_some]
    have hothers : ∀ other ∈ keys.erase key, explorer'.storedIn other = explorer.storedIn other := by
      intro other hother
      have hne : other ≠ key := fun heq => hfresh (heq ▸ hother)
      rw [storedIn, hbranches, Function.update_of_ne hne, storedIn]
    rw [stored, List.flatMap_cons, hself, List.flatMap_congr hothers, stored]

theorem pageBudget_refresh {pending : Option PendingCatalogRequest}
    (h : pending.any (·.append) = false) (key : BranchKey) :
    explorer.pageBudget pending key = explorer.retention.remove (explorer.storedIn key) := by
  unfold pageBudget storedIn
  rw [h]
  cases explorer.branches key <;> rfl

theorem pageBudget_append {pending : Option PendingCatalogRequest}
    (h : pending.any (·.append) = true) (key : BranchKey) :
    explorer.pageBudget pending key = explorer.retention := by
  unfold pageBudget
  rw [h]

/-- What `insertPage` changes of the budget and the branches. -/
theorem insertPage_fields (explorer : MySqlExplorerState) (pending : Option PendingCatalogRequest)
    (key : BranchKey) (page : CatalogPage) :
    (explorer.insertPage pending key page).retention =
        ((explorer.pageBudget pending key).retain page.nodes).1 ∧
      ∃ branch : CatalogBranch,
        (explorer.insertPage pending key page).branches =
            Function.update explorer.branches key (some branch) ∧
          branch.nodes = (if pending.any (·.append) then explorer.storedIn key else []) ++
            ((explorer.pageBudget pending key).retain page.nodes).2.1 := by
  have hprevious : ((explorer.branches key).getD {}).nodes = explorer.storedIn key := by
    unfold storedIn
    cases explorer.branches key <;> rfl
  refine ⟨rfl, _, rfl, ?_⟩
  dsimp only
  rw [hprevious]
  rfl

/-- What the budget of a page accounts for: the other branches, and the nodes it is appended to. -/
theorem Enumerates.pageBudget (h : explorer.Enumerates keys)
    (haccounts : Accounts explorer.retention (explorer.stored keys))
    (pending : Option PendingCatalogRequest) (key : BranchKey) :
    Accounts (explorer.pageBudget pending key)
      ((if pending.any (·.append) then explorer.storedIn key else []) ++
        explorer.stored (keys.erase key)) := by
  have hsplit := haccounts.perm (h.split key)
  cases happend : pending.any (·.append) with
  | false =>
      rw [pageBudget_refresh happend]
      exact (Accounts.remove _ hsplit).1
  | true =>
      rw [pageBudget_append happend]
      exact hsplit

theorem Balanced.insertPage (h : explorer.Balanced) (pending : Option PendingCatalogRequest)
    (key : BranchKey) (page : CatalogPage) : (explorer.insertPage pending key page).Balanced := by
  obtain ⟨keys, henum, haccounts⟩ := h
  obtain ⟨hretention, branch, hbranches, hnodes⟩ := insertPage_fields explorer pending key page
  obtain ⟨henum', hstored⟩ := henum.update hbranches
  have hretained := ((henum.pageBudget haccounts pending key).retain page.nodes).1
  refine ⟨_, henum', ?_⟩
  rw [hretention, hstored, hnodes]
  refine hretained.perm ?_
  rw [← List.append_assoc]
  exact List.perm_append_comm.append_right _

/-- The page is taken into its branch. -/
theorem Accounted.insertPage (h : explorer.Accounted) (pending : Option PendingCatalogRequest)
    {key : BranchKey} {page : CatalogPage}
    (hpage : ∀ node ∈ page.nodes, nodeBranch node.identity = key) :
    (explorer.insertPage pending key page).Accounted ∧
      (pending.any (·.append) = false →
        RemovesExactly explorer.retention (explorer.storedIn key)) ∧
      RetainsExactly (explorer.pageBudget pending key) page.nodes := by
  obtain ⟨hhome, hbalanced⟩ := h
  have hbalanced' := Balanced.insertPage hbalanced pending key page
  obtain ⟨keys, henum, haccounts⟩ := hbalanced
  obtain ⟨-, hremoves⟩ := Accounts.remove _ (haccounts.perm (henum.split key))
  obtain ⟨-, branch, hbranches, hnodes⟩ := insertPage_fields explorer pending key page
  obtain ⟨-, hsub, hretains⟩ := (henum.pageBudget haccounts pending key).retain page.nodes
  refine ⟨⟨fun other node hnode => ?_, hbalanced'⟩, fun _ => hremoves, hretains⟩
  by_cases hsame : other = key
  · subst hsame
    rw [storedIn, hbranches, Function.update_self, Option.elim_some, hnodes] at hnode
    rcases List.mem_append.mp hnode with hold | hnew
    · split at hold
      · exact hhome other node hold
      · cases hold
    · exact hpage node (hsub.subset hnew)
  · rw [storedIn, hbranches, Function.update_of_ne hsame] at hnode
    exact hhome other node hnode

theorem storedIn_congr {explorer' : MySqlExplorerState}
    (hbranches : ∀ key,
      (explorer'.branches key).map (·.nodes) = (explorer.branches key).map (·.nodes)) :
    explorer'.storedIn = explorer.storedIn := by
  funext key
  have hkey := hbranches key
  unfold storedIn
  cases hold : explorer.branches key <;> cases hnew : explorer'.branches key <;> simp_all

theorem Enumerates.congr {explorer' : MySqlExplorerState} (h : explorer.Enumerates keys)
    (hbranches : ∀ key,
      (explorer'.branches key).map (·.nodes) = (explorer.branches key).map (·.nodes)) :
    explorer'.Enumerates keys := by
  refine ⟨h.nodup, fun key => ?_⟩
  have hsome := congrArg Option.isSome (hbranches key)
  rw [Option.isSome_map, Option.isSome_map] at hsome
  rw [hsome, h.mem]

/-- Whatever keeps the branches' nodes and the budget keeps the account. -/
theorem Balanced.congr {explorer' : MySqlExplorerState} (h : explorer.Balanced)
    (hbranches : ∀ key,
      (explorer'.branches key).map (·.nodes) = (explorer.branches key).map (·.nodes))
    (hretention : explorer'.retention = explorer.retention) : explorer'.Balanced := by
  obtain ⟨keys, henum, haccounts⟩ := h
  refine ⟨keys, henum.congr hbranches, ?_⟩
  rw [hretention, stored, storedIn_congr hbranches]
  exact haccounts

/-- The budget accounts for the branches in whatever order. -/
theorem Balanced.accounts (h : explorer.Balanced) (henum : explorer.Enumerates keys) :
    Accounts explorer.retention (explorer.stored keys) := by
  obtain ⟨keys', henum', haccounts⟩ := h
  exact haccounts.perm ((henum'.perm henum).flatMap_right _)

theorem Accounted.congr {explorer' : MySqlExplorerState} (h : explorer.Accounted)
    (hbranches : ∀ key,
      (explorer'.branches key).map (·.nodes) = (explorer.branches key).map (·.nodes))
    (hretention : explorer'.retention = explorer.retention) : explorer'.Accounted :=
  ⟨storedIn_congr hbranches ▸ h.home, Balanced.congr h.accounts hbranches hretention⟩

theorem Balanced.empty : ({} : MySqlExplorerState).Balanced :=
  ⟨[], ⟨.nil, fun _ => by simp⟩, Accounts.empty⟩

theorem Accounted.empty : ({} : MySqlExplorerState).Accounted where
  home _ _ hnode := by cases hnode
  accounts := Balanced.empty

theorem Accounted.loadsExactly (h : explorer.Accounted) {page : CatalogPage}
    (hpage : PageBelongs page) : explorer.LoadsExactly page :=
  fun key hkey => (h.insertPage _ (hpage key hkey)).2

theorem Balanced.handleLoaded (h : explorer.Balanced) (page : CatalogPage) :
    (explorer.handleLoaded page).Balanced := by
  unfold MySqlExplorerState.handleLoaded
  have hanswered : ({ explorer with
      pending := Function.update explorer.pending page.identity.operationId none } :
      MySqlExplorerState).Balanced := h.congr (fun _ => rfl) rfl
  dsimp only
  split
  · exact hanswered
  · split
    · exact hanswered
    · next key hkey => exact hanswered.insertPage _ key page

theorem Accounted.handleLoaded (h : explorer.Accounted) {page : CatalogPage}
    (hpage : PageBelongs page) : (explorer.handleLoaded page).Accounted := by
  unfold MySqlExplorerState.handleLoaded
  have hanswered : ({ explorer with
      pending := Function.update explorer.pending page.identity.operationId none } :
      MySqlExplorerState).Accounted := h.congr (fun _ => rfl) rfl
  dsimp only
  split
  · exact hanswered
  · split
    · exact hanswered
    · next key hkey => exact (hanswered.insertPage _ (hpage key hkey)).1

theorem handleFailed_nodes (explorer : MySqlExplorerState) (request : CatalogRequest)
    (summary : PublicSummary) (key : BranchKey) :
    ((explorer.handleFailed request summary).branches key).map (·.nodes) =
      (explorer.branches key).map (·.nodes) := by
  unfold MySqlExplorerState.handleFailed
  dsimp only
  by_cases hsame : key = branchForRequest request
  · rw [hsame, Function.update_self, Option.map_map]
    rfl
  · rw [Function.update_of_ne hsame]

theorem Balanced.handleFailed (h : explorer.Balanced) (request : CatalogRequest)
    (summary : PublicSummary) : (explorer.handleFailed request summary).Balanced :=
  h.congr (handleFailed_nodes explorer request summary) rfl

theorem Accounted.handleFailed (h : explorer.Accounted) (request : CatalogRequest)
    (summary : PublicSummary) : (explorer.handleFailed request summary).Accounted :=
  h.congr (handleFailed_nodes explorer request summary) rfl

end

/-! ## Calls -/

inductive Call
  | markSubmitted (request : CatalogRequest)
  | handleLoaded (page : CatalogPage)
  | handleFailed (request : CatalogRequest) (summary : PublicSummary)
  | clear

/-- The nodes of a loaded page belong to its branch. -/
def Call.Belongs : Call → Prop
  | .handleLoaded page => PageBelongs page
  | _ => True

def call (explorer : MySqlExplorerState) : Call → MySqlExplorerState
  | .markSubmitted request => explorer.markSubmitted request
  | .handleLoaded page => explorer.handleLoaded page
  | .handleFailed request summary => explorer.handleFailed request summary
  | .clear => explorer.clear

def calls (explorer : MySqlExplorerState) (cs : List Call) : MySqlExplorerState :=
  cs.foldl call explorer

theorem Accounted.call {explorer : MySqlExplorerState} (h : explorer.Accounted) {c : Call}
    (hbelongs : c.Belongs) : (explorer.call c).Accounted := by
  cases c with
  | markSubmitted request => exact h.congr (fun _ => rfl) rfl
  | handleLoaded page => exact h.handleLoaded hbelongs
  | handleFailed request summary => exact h.handleFailed request summary
  | clear => exact .empty

theorem Accounted.calls {explorer : MySqlExplorerState} (h : explorer.Accounted) (cs : List Call)
    (hbelongs : ∀ c ∈ cs, c.Belongs) : (explorer.calls cs).Accounted := by
  induction cs generalizing explorer with
  | nil => exact h
  | cons c cs ih =>
      rw [List.forall_mem_cons] at hbelongs
      exact ih (h.call hbelongs.1) hbelongs.2

/-- The budget of an explorer is that of the nodes in its branches, whatever their order, and it
takes any page without saturating. -/
structure Exact (explorer : MySqlExplorerState) : Prop where
  branches : ∃ keys, explorer.Enumerates keys
  accounts : ∀ keys, explorer.Enumerates keys →
    Accounts explorer.retention (explorer.stored keys)
  loads : ∀ page, PageBelongs page → explorer.LoadsExactly page

theorem calls_exact (cs : List Call) (hbelongs : ∀ c ∈ cs, c.Belongs) :
    (({} : MySqlExplorerState).calls cs).Exact := by
  have haccounted := Accounted.empty.calls cs hbelongs
  obtain ⟨keys, henum, haccounts⟩ := haccounted.accounts
  refine ⟨⟨keys, henum⟩, fun keys' henum' => ?_, fun page hpage => haccounted.loadsExactly hpage⟩
  exact haccounts.perm ((henum.perm henum').flatMap_right _)

/-- Two columns of a relation, the second of which is delivered twice. -/
def columnsPage (operationId : OperationId) : CatalogPage where
  identity := ⟨"p".toList, 1, operationId⟩
  level := .columns
  parent := some (.relation "s".toList "r".toList)
  nodes :=
    [⟨.column "s".toList "r".toList 1, "id".toList, some "int".toList⟩,
      ⟨.column "s".toList "r".toList 2, "name".toList, some "text".toList⟩,
      ⟨.column "s".toList "r".toList 2, "name".toList, none⟩]
  nextToken := none
  retainedCounts := {}
  retainedUtf8Bytes := 0
  truncated := false
  stale := false

theorem calls_exact_columns :
    (({} : MySqlExplorerState).calls
      [.handleLoaded (columnsPage 1), .handleLoaded (columnsPage 2), .clear,
        .handleLoaded (columnsPage 3)]).Exact := by
  have hbelongs : ∀ operationId, PageBelongs (columnsPage operationId) := by
    intro operationId key hkey node hnode
    cases hkey
    simp only [columnsPage, List.mem_cons, List.not_mem_nil, or_false] at hnode
    rcases hnode with rfl | rfl | rfl <;> rfl
  refine calls_exact _ fun c hc => ?_
  simp only [List.mem_cons, List.not_mem_nil, or_false] at hc
  rcases hc with rfl | rfl | rfl | rfl
  · exact hbelongs 1
  · exact hbelongs 2
  · trivial
  · exact hbelongs 3

end MySqlExplorerState

end Dbotter.Ui
