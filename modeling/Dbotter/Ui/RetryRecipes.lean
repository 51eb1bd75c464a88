import Dbotter.Ui.Runs

/-!
What can be tried again.

A recipe is kept under the operation of the command that it repeats. The shelf is the part of
the application that the recipes depend on: the commands accepted so far, the operations taken,
the recipes and the credential prompt that waits to use one of them. Every function of the
application moves the shelf by a few kinds of steps.
-/

namespace Dbotter.Ui
open Dbotter.Utf8 Dbotter.Configuration Dbotter.Service Dbotter.Drivers

/-- The command that a recipe stands for, under an operation. -/
def RetryRecipe.command (recipe : RetryRecipe) (o : OperationId) : UiCommand :=
  let identity : RequestIdentity := ⟨recipe.key.profileId, recipe.key.profileGeneration, o⟩
  match recipe with
  | .connect _ timeoutMs => .testConnection identity timeoutMs
  | .reconnect _ timeoutMs => .reconnectProfile identity timeoutMs
  | .catalog request => .browseCatalog { request with identity }
  | .redisScan request _ => .scanRedisKeys { request with identity }
  | .redisInspect request => .inspectRedisKey { request with identity }

@[simp] theorem RetryRecipe.command_operationId (recipe : RetryRecipe) (o : OperationId) :
    (recipe.command o).operationId = o := by
  cases recipe <;> rfl

/-! ## The registry -/

namespace RetryRecipeRegistry

variable (registry : RetryRecipeRegistry) (o : OperationId) (recipe : RetryRecipe)

/-- Registering drops the oldest recipes and puts the new one last. -/
theorem register_entries : ∃ kept,
    kept.Sublist (registry.entries.filter (·.1 ≠ o)) ∧ kept.length < retryRecipeLimit ∧
      (registry.register o recipe).entries = kept ++ [(o, recipe)] := by
  let others := registry.entries.filter (·.1 ≠ o)
  have hdrop : others.length + 1 - retryRecipeLimit ≤ others.length := by
    simp only [retryRecipeLimit]
    omega
  refine ⟨others.drop (others.length + 1 - retryRecipeLimit), List.drop_sublist _ _, ?_, ?_⟩
  · rw [List.length_drop]
    simp only [retryRecipeLimit]
    omega
  · change (others ++ [(o, recipe)]).drop ((others ++ [(o, recipe)]).length - retryRecipeLimit) = _
    rw [List.length_append, List.length_singleton, List.drop_append_of_le_length hdrop]

theorem get_register : (registry.register o recipe).get o = some recipe := by
  obtain ⟨kept, hkept, -, hentries⟩ := registry.register_entries o recipe
  have hother : kept.find? (·.1 = o) = none := by
    rw [List.find?_eq_none]
    intro entry hmem
    have := (List.mem_filter.1 (hkept.subset hmem)).2
    simpa using this
  rw [get, hentries, List.find?_append, hother]
  simp

/-- A recipe that is registered now was so before, or is the new one. -/
theorem mem_register {entry : OperationRecipeId × RetryRecipe}
    (h : entry ∈ (registry.register o recipe).entries) :
    entry = (o, recipe) ∨ entry ∈ registry.entries ∧ entry.1 ≠ o := by
  obtain ⟨kept, hkept, -, hentries⟩ := registry.register_entries o recipe
  rw [hentries, List.mem_append, List.mem_singleton] at h
  obtain h | h := h
  · obtain ⟨hmem, hne⟩ := List.mem_filter.1 (hkept.subset h)
    exact .inr ⟨hmem, by simpa using hne⟩
  · exact .inl h

theorem mem_of_get {registry : RetryRecipeRegistry} {r : OperationRecipeId}
    {recipe : RetryRecipe} (h : registry.get r = some recipe) : (r, recipe) ∈ registry.entries := by
  obtain ⟨entry, hfind, rfl⟩ := Option.map_eq_some_iff.1 h
  have hkey : entry.1 = r := by simpa using List.find?_some hfind
  exact hkey ▸ List.mem_of_find?_eq_some hfind

theorem get_eq_none {registry : RetryRecipeRegistry} {r : OperationRecipeId} :
    registry.get r = none ↔ ∀ recipe, (r, recipe) ∉ registry.entries := by
  rw [get, Option.map_eq_none_iff, List.find?_eq_none]
  constructor
  · intro h recipe hmem
    exact h _ hmem (by simp)
  · rintro h ⟨r', recipe⟩ hmem hr
    obtain rfl : r' = r := by simpa using hr
    exact h recipe hmem

theorem get_remove (r : OperationRecipeId) : (registry.remove r).get r = none := by
  rw [get_eq_none]
  intro recipe hmem
  simpa using (List.mem_filter.1 hmem).2

theorem nodup_register (h : (registry.entries.map Prod.fst).Nodup) :
    ((registry.register o recipe).entries.map Prod.fst).Nodup := by
  obtain ⟨kept, hkept, -, hentries⟩ := registry.register_entries o recipe
  have hsub : (kept.map Prod.fst).Sublist (registry.entries.map Prod.fst) :=
    (hkept.trans List.filter_sublist).map Prod.fst
  have hne : o ∉ kept.map Prod.fst := by
    intro hmem
    obtain ⟨entry, hentry, rfl⟩ := List.mem_map.1 hmem
    simpa using (List.mem_filter.1 (hkept.subset hentry)).2
  rw [hentries, List.map_append, List.map_singleton, List.nodup_append']
  exact ⟨hsub.nodup h, List.nodup_singleton _, by simpa using hne⟩

theorem length_register : (registry.register o recipe).entries.length ≤ retryRecipeLimit := by
  obtain ⟨kept, -, hlength, hentries⟩ := registry.register_entries o recipe
  rw [hentries, List.length_append, List.length_singleton]
  exact hlength

theorem unique {registry : RetryRecipeRegistry} (h : (registry.entries.map Prod.fst).Nodup)
    {r : OperationRecipeId} {recipe recipe' : RetryRecipe}
    (hmem : (r, recipe) ∈ registry.entries) (hmem' : (r, recipe') ∈ registry.entries) :
    recipe = recipe' :=
  congrArg Prod.snd (List.inj_on_of_nodup_map h hmem hmem' rfl)

end RetryRecipeRegistry

/-! ## The shelf -/

structure Shelf where
  sent : List UiCommand
  merged : List UiCommand
  next : OperationId
  recipes : RetryRecipeRegistry
  prompt : Option CredentialPrompt

def DbotterApp.shelf (app : DbotterApp) : Shelf where
  sent := app.port.sent
  merged := app.port.merged
  next := app.model.nextOperationId
  recipes := app.retryRecipes
  prompt := app.credentialPrompt

/-- The recipe is for the operation that the prompt interrupted. -/
def CredentialPrompt.Fits (prompt : CredentialPrompt) (recipe : RetryRecipe) : Prop :=
  recipe.key = ⟨prompt.profileId, prompt.profileGeneration⟩ ∧
    recipe.operationKind = prompt.sourceOperation

namespace Shelf

/-- The command is accepted: it is put on a lane or merged into an earlier one. -/
def Accepts (s : Shelf) (command : UiCommand) (sent merged : List UiCommand) : Prop :=
  sent = s.sent ++ [command] ∧ merged = s.merged ∨
    sent = s.sent ∧ merged = s.merged ++ [command]

inductive Step : Shelf → Shelf → Prop
  /-- An operation was taken and nothing came of it. -/
  | skip (s : Shelf) : Step s { s with next := s.next + 1 }
  | cancel (s : Shelf) (o : OperationId) {sent merged : List UiCommand}
      (h : s.Accepts (.cancelOperation o) sent merged) : Step s { s with sent, merged }
  /-- A command that cannot be retried. -/
  | issue (s : Shelf) (command : UiCommand) (ho : command.operationId = s.next)
      {sent merged : List UiCommand} (h : s.Accepts command sent merged) :
      Step s { s with sent, merged, next := s.next + 1 }
  | start (s : Shelf) (recipe : RetryRecipe) {sent merged : List UiCommand}
      (h : s.Accepts (recipe.command s.next) sent merged) :
      Step s { s with
        sent
        merged
        next := s.next + 1
        recipes := s.recipes.register s.next recipe }
  /-- A recipe that no command stands behind: the connection that waits for a credential. -/
  | seed (s : Shelf) (key : WorkspaceKey) :
      Step s { s with
        next := s.next + 1
        recipes := s.recipes.register s.next (.connect key DbotterApp.defaultTimeoutMs) }
  | drop (s : Shelf) (recipes : RetryRecipeRegistry)
      (h : recipes.entries.Sublist s.recipes.entries) : Step s { s with recipes }
  | unprompt (s : Shelf) : Step s { s with prompt := none }
  | prompted (s : Shelf) (prompt : CredentialPrompt)
      (h : ∀ r ∈ prompt.retryRecipeId, ∃ recipe, s.recipes.get r = some recipe ∧
        prompt.Fits recipe) :
      Step s { s with prompt := some prompt }
  | stores (s : Shelf) (prompt : CredentialPrompt) (h : s.prompt = some prompt)
      (o : OperationId) :
      Step s { s with prompt := some { prompt with storeOperationId := some o } }

abbrev Reaches : Shelf → Shelf → Prop := Relation.ReflTransGen Step

end Shelf

/-! ## The submissions -/

namespace DbotterApp
open Dbotter.Ui.Shelf Relation

variable (app : DbotterApp)

/-- A submission that keeps no recipe. -/
theorem submit_shelves {command : OperationId → UiCommand}
    {accepted : OperationId → DbotterApp → DbotterApp} {refused : DbotterApp → DbotterApp}
    (ho : (command app.model.nextOperationId).operationId = app.model.nextOperationId)
    (hrefused : ∀ app : DbotterApp, (refused app).shelf = app.shelf)
    (haccepted : ∀ app' : DbotterApp,
      (accepted app.model.nextOperationId app').shelf = app'.shelf) :
    Reaches app.shelf (app.submit command accepted refused).shelf := by
  obtain h | ⟨port, h, -, hport⟩ := app.submit_cases command accepted refused
  · rw [h, hrefused]
    exact .single (.skip app.shelf)
  · rw [h, haccepted]
    refine .single (.issue app.shelf _ ho ?_)
    obtain ⟨hsent, hmerged⟩ | ⟨hsent, hmerged, -⟩ := hport
    · exact .inl ⟨hsent, hmerged⟩
    · exact .inr ⟨hsent, hmerged⟩

/-- A submission that keeps the recipe of its command. -/
theorem submit_starts (recipe : RetryRecipe) {command : OperationId → UiCommand}
    {accepted : OperationId → DbotterApp → DbotterApp} {refused : DbotterApp → DbotterApp}
    (hcommand : command app.model.nextOperationId = recipe.command app.model.nextOperationId)
    (hrefused : ∀ app : DbotterApp, (refused app).shelf = app.shelf)
    (haccepted : ∀ app' : DbotterApp, (accepted app.model.nextOperationId app').shelf =
      (app'.registerRecipe app.model.nextOperationId recipe).shelf) :
    Reaches app.shelf (app.submit command accepted refused).shelf := by
  obtain h | ⟨port, h, -, hport⟩ := app.submit_cases command accepted refused
  · rw [h, hrefused]
    exact .single (.skip app.shelf)
  · rw [h, haccepted]
    refine .single (.start app.shelf recipe ?_)
    rw [hcommand] at hport
    obtain ⟨hsent, hmerged⟩ | ⟨hsent, hmerged, -⟩ := hport
    · exact .inl ⟨hsent, hmerged⟩
    · exact .inr ⟨hsent, hmerged⟩

theorem submitRefresh_shelves : Reaches app.shelf app.submitRefresh.shelf :=
  app.submit_shelves rfl (fun _ => rfl) fun _ => rfl

theorem cancelOperation_shelves (o : OperationId) :
    Reaches app.shelf (app.cancelOperation o).shelf := by
  unfold cancelOperation
  cases h : app.port.trySubmit (.cancelOperation o) with
  | error e => exact .refl
  | ok port =>
    refine .single (.cancel app.shelf o ?_)
    obtain ⟨-, ⟨hsent, hmerged⟩ | ⟨hsent, hmerged, -⟩⟩ := UiPort.trySubmit_cases h
    · exact .inl ⟨hsent, hmerged⟩
    · exact .inr ⟨hsent, hmerged⟩

/-! ### Connecting -/

theorem submitConnectExact_shelves (key : WorkspaceKey) (timeoutMs : Nat) :
    Reaches app.shelf (app.submitConnectExact key timeoutMs).shelf := by
  unfold submitConnectExact
  split
  · exact .refl
  · exact app.submit_starts (.connect key timeoutMs) rfl (fun _ => rfl) fun _ => rfl

theorem submitReconnectExact_shelves (key : WorkspaceKey) (timeoutMs : Nat) :
    Reaches app.shelf (app.submitReconnectExact key timeoutMs).shelf := by
  unfold submitReconnectExact
  split
  · exact .refl
  · exact app.submit_starts (.reconnect key timeoutMs) rfl (fun _ => rfl) fun _ => rfl

theorem submitDisconnect_shelves (profileId : ProfileId) :
    Reaches app.shelf (app.submitDisconnect profileId).shelf := by
  unfold submitDisconnect
  split
  · exact .refl
  · split
    · exact .refl
    · exact app.submit_shelves rfl (fun _ => rfl) fun _ => rfl

theorem submitReconnect_shelves (profileId : ProfileId) :
    Reaches app.shelf (app.submitReconnect profileId).shelf := by
  unfold submitReconnect
  split
  · exact .refl
  · split
    · exact .refl
    · exact app.submitReconnectExact_shelves _ _

/-! ### Credentials -/

theorem removeRecipe_sublist (recipeId : Option OperationRecipeId) :
    (app.removeRecipe recipeId).retryRecipes.entries.Sublist app.retryRecipes.entries := by
  cases recipeId with
  | none => exact List.Sublist.refl _
  | some r => exact List.filter_sublist

theorem removeRecipe_shelves (recipeId : Option OperationRecipeId) :
    Reaches app.shelf (app.removeRecipe recipeId).shelf :=
  .single (.drop app.shelf _ (app.removeRecipe_sublist recipeId))

theorem closePrompt_shelves (recipeId : Option OperationRecipeId) :
    Reaches app.shelf { app.removeRecipe recipeId with credentialPrompt := none }.shelf :=
  (app.removeRecipe_shelves recipeId).tail (.unprompt _)

theorem cancelCredentialPrompt_shelves : Reaches app.shelf app.cancelCredentialPrompt.shelf :=
  app.closePrompt_shelves _

/-- The recipe of the prompt that was open goes, that of the new one is there before. -/
theorem openCredentialPromptFor_shelves (key : WorkspaceKey) (kind : OperationKind)
    (recipeId : Option OperationRecipeId)
    (h : ∀ r ∈ recipeId, ∃ recipe, app.retryRecipes.get r = some recipe ∧ recipe.key = key ∧
      recipe.operationKind = kind) :
    Reaches app.shelf (app.openCredentialPromptFor key kind recipeId).shelf := by
  unfold openCredentialPromptFor
  split
  · exact app.removeRecipe_shelves recipeId
  split
  · exact app.removeRecipe_shelves recipeId
  · refine (ReflTransGen.single (.prompted app.shelf
      ⟨key.profileId, key.profileGeneration, kind, recipeId, none⟩ h)).tail
        (.drop _ app.cancelCredentialPrompt.retryRecipes ?_)
    exact app.removeRecipe_sublist _

theorem openSessionCredentialPrompt_shelves (profileId : ProfileId) :
    Reaches app.shelf (app.openSessionCredentialPrompt profileId).shelf := by
  unfold openSessionCredentialPrompt
  split
  · exact .refl
  next profile _ =>
    split
    · exact .refl
    · let key : WorkspaceKey := ⟨profileId, profile.generation⟩
      let registered := ({ app with model := app.model.nextOperation.2 }).registerRecipe
        app.model.nextOperationId (.connect key defaultTimeoutMs)
      have hseed : Reaches app.shelf registered.shelf := .single (.seed app.shelf key)
      refine hseed.trans (registered.openCredentialPromptFor_shelves key .connectProfile _ ?_)
      rintro r ⟨⟩
      exact ⟨_, app.retryRecipes.get_register _ _, rfl, rfl⟩

theorem openCredentialEditor_shelves (profileId : ProfileId) (source : OperationId)
    (kind : OperationKind) :
    Reaches app.shelf (app.openCredentialEditor profileId source kind).shelf := by
  unfold openCredentialEditor
  split
  · exact .refl
  · refine app.openCredentialPromptFor_shelves _ _ _ fun r hr => ?_
    split at hr
    · next hfits =>
      obtain rfl : source = r := Option.some_inj.1 hr
      obtain ⟨recipe, hget, hrecipe⟩ := (Option.any_eq_true _ _).1 hfits
      simp only [Bool.and_eq_true, decide_eq_true_eq] at hrecipe
      exact ⟨recipe, hget, hrecipe.2, hrecipe.1⟩
    · cases hr

theorem submitTest_shelves (profileId : ProfileId) :
    Reaches app.shelf (app.submitTest profileId).shelf := by
  unfold submitTest
  split
  · exact .refl
  split
  · exact .refl
  split
  · exact .refl
  split
  · exact .refl
  split
  · exact app.openSessionCredentialPrompt_shelves profileId
  · exact app.submitConnectExact_shelves _ _

theorem submitCredentialPrompt_shelves (typed : Option SessionSecret) :
    Reaches app.shelf (app.submitCredentialPrompt typed).shelf := by
  unfold submitCredentialPrompt
  split
  · exact .refl
  next prompt hprompt =>
    split
    · exact .refl
    split
    · exact app.closePrompt_shelves _
    split
    · exact .refl
    next secret =>
      split
      · next port h =>
        let stored : UiCommand := .storeCredentials ⟨prompt.profileId, prompt.profileGeneration,
          app.model.nextOperationId⟩ prompt.sourceOperation secret
        have haccepts : app.shelf.Accepts stored port.sent port.merged := by
          obtain ⟨-, ⟨hsent, hmerged⟩ | ⟨hsent, hmerged, -⟩⟩ := UiPort.trySubmit_cases h
          · exact .inl ⟨hsent, hmerged⟩
          · exact .inr ⟨hsent, hmerged⟩
        exact (ReflTransGen.single (.issue app.shelf stored rfl haccepts)).tail
          (.stores _ prompt hprompt _)
      · exact app.closePrompt_shelves _

/-! ### Executing and browsing -/

theorem submitExecute_shelves (intent : ExecuteIntent) :
    Reaches app.shelf (app.submitExecute intent).shelf := by
  simp only [submitExecute]
  split
  · exact .refl
  split
  · exact .refl
  split
  · exact .refl
  split
  · exact .refl
  · exact app.submit_shelves rfl (fun _ => rfl) fun _ => rfl

theorem submitCancelExecute_shelves (o : OperationId) :
    Reaches app.shelf (app.submitCancelExecute o).shelf := by
  unfold submitCancelExecute
  split
  · exact .refl
  · split
    · exact app.cancelOperation_shelves o
    · exact .refl

theorem submitResultExportTo_shelves (resultId : ResultId) (writable : Bool) :
    Reaches app.shelf (app.submitResultExportTo resultId writable).shelf := by
  unfold submitResultExportTo
  split
  · exact app.submit_shelves rfl (fun _ => rfl) fun _ => rfl
  · exact .single (.skip app.shelf)

theorem submitCatalog_shelves (key : WorkspaceKey) (request : RequestIdentity → CatalogRequest)
    (hrequest : ∀ identity, { request identity with identity } = request identity) :
    Reaches app.shelf (app.submitCatalog key request).shelf := by
  let identity : RequestIdentity :=
    ⟨key.profileId, key.profileGeneration, app.model.nextOperationId⟩
  have hidentity : (request identity).identity = identity := by
    rw [← hrequest identity]
  refine app.submit_starts (.catalog (request identity)) ?_ (fun _ => rfl) fun _ => rfl
  simp only [RetryRecipe.command, RetryRecipe.key, workspaceKey, hidentity]
  exact congrArg UiCommand.browseCatalog (hrequest identity).symm

theorem submitMysqlExplorerIntent_shelves (profile : ProfileSnapshot)
    (intent : MySqlExplorerIntent) :
    Reaches app.shelf (app.submitMysqlExplorerIntent profile intent).shelf := by
  unfold submitMysqlExplorerIntent
  split
  · exact .refl
  split
  · exact .refl
  · exact app.submitCatalog_shelves _ _ fun identity => by cases intent <;> rfl

theorem retryCatalogRequest_shelves (request : CatalogRequest) :
    Reaches app.shelf (app.retryCatalogRequest request).shelf := by
  unfold retryCatalogRequest
  split
  · exact .refl
  · exact app.submitCatalog_shelves _ _ fun _ => rfl

theorem submitScan_shelves (key : WorkspaceKey) (filter : RedisKeyFilter) (cursor count : Nat)
    (timeout : Duration) (restart : Bool) :
    Reaches app.shelf (app.submitScan key filter cursor count timeout restart).shelf :=
  app.submit_starts (.redisScan ⟨⟨key.profileId, key.profileGeneration,
    app.model.nextOperationId⟩, filter, cursor, count, timeout⟩ restart) rfl (fun _ => rfl)
    fun _ => rfl

theorem submitInspect_shelves (key : WorkspaceKey) (redisKey : List UInt8)
    (timeout : Duration) : Reaches app.shelf (app.submitInspect key redisKey timeout).shelf :=
  app.submit_starts (.redisInspect ⟨⟨key.profileId, key.profileGeneration,
    app.model.nextOperationId⟩, redisKey, timeout⟩) rfl (fun _ => rfl) fun _ => rfl

theorem submitRedisCancel_shelves (key : WorkspaceKey) (o : OperationId) :
    Reaches app.shelf (app.submitRedisCancel key o).shelf := by
  unfold submitRedisCancel
  split
  · have hcancel := app.cancelOperation_shelves o
    unfold cancelOperation at hcancel
    cases h : app.port.trySubmit (.cancelOperation o) with
    | error e => exact .refl
    | ok port =>
      rw [h] at hcancel
      exact hcancel
  · exact .refl

theorem submitRedisIntent_shelves (intent : RedisExplorerIntent) :
    Reaches app.shelf (app.submitRedisIntent intent).shelf := by
  unfold submitRedisIntent
  split
  · exact .refl
  next key _ =>
    split
    · exact .refl
    cases intent with
    | cancel o => exact app.submitRedisCancel_shelves key o
    | scan filter cursor restart =>
      simp only [submitRedisIntentFor]
      split
      · exact app.submitScan_shelves ..
      · exact .refl
    | inspect redisKey =>
      simp only [submitRedisIntentFor]
      split
      · exact app.submitInspect_shelves ..
      · exact .refl

theorem retryRedisScan_shelves (request : RedisScanRequest) (restart : Bool) :
    Reaches app.shelf (app.retryRedisScan request restart).shelf := by
  unfold retryRedisScan
  split
  · exact .refl
  · exact app.submitScan_shelves ..

theorem retryRedisInspect_shelves (request : RedisKeyInspectRequest) :
    Reaches app.shelf (app.retryRedisInspect request).shelf := by
  unfold retryRedisInspect
  split
  · exact .refl
  · exact app.submitInspect_shelves ..

/-! ### Retrying, saving and deleting -/

theorem retryWith_shelves (recipe : RetryRecipe) :
    Reaches app.shelf (app.retryWith recipe).shelf := by
  cases recipe with
  | connect key timeoutMs => exact app.submitConnectExact_shelves ..
  | reconnect key timeoutMs => exact app.submitReconnectExact_shelves ..
  | catalog request => exact app.retryCatalogRequest_shelves ..
  | redisScan request restart => exact app.retryRedisScan_shelves ..
  | redisInspect request => exact app.retryRedisInspect_shelves ..

theorem retryRecipe_shelves (recipeId : OperationRecipeId) (expected : Option OperationKind) :
    Reaches app.shelf (app.retryRecipe recipeId expected).shelf := by
  simp only [retryRecipe]
  split
  · exact .refl
  next recipe _ =>
    refine (app.removeRecipe_shelves (some recipeId)).trans ?_
    split
    · exact .refl
    split
    · exact .refl
    · exact retryWith_shelves _ recipe

theorem saveProfile_shelves (form : Option ValidatedForm) (connect : Bool) :
    Reaches app.shelf (app.saveProfile form connect).shelf := by
  unfold saveProfile
  split
  · next editor form _ =>
    split
    · exact .single (.skip app.shelf)
    · refine app.submit_shelves ?_ (fun _ => rfl) fun _ => rfl
      unfold ProfileEditor.saveCommand
      cases editor.mode <;> rfl
  · exact .single (.skip app.shelf)
  · exact .refl

theorem testDraft_shelves (valid : Bool) : Reaches app.shelf (app.testDraft valid).shelf := by
  unfold testDraft
  split
  · exact .refl
  · split
    · exact .single (.skip app.shelf)
    · exact app.submit_shelves rfl (fun _ => rfl) fun _ => rfl

theorem confirmDeleteConfirmation_shelves :
    Reaches app.shelf app.confirmDeleteConfirmation.shelf := by
  simp only [confirmDeleteConfirmation]
  split
  · exact .refl
  split
  · exact .refl
  · exact app.submit_shelves rfl (fun _ => rfl) fun _ => rfl

/-! ### Recovery -/

theorem clearProfileCatalog_shelf (profileId : ProfileId) :
    (app.clearProfileCatalog profileId).shelf = app.shelf := by
  simp only [clearProfileCatalog]
  split <;> rfl

theorem restartProfileRedisScan_shelves (profileId : ProfileId) :
    Reaches app.shelf (app.restartProfileRedisScan profileId).shelf := by
  simp only [restartProfileRedisScan]
  split
  · exact .refl
  · exact app.retryRedisScan_shelves ..

theorem openProfileEditorAt_shelf (profileId : ProfileId) :
    (app.openProfileEditorAt profileId).shelf = app.shelf := by
  unfold openProfileEditorAt
  split <;> rfl

theorem dispatchErrorRecovery_shelves (o : OperationId) (error : PublicOperationError)
    (action : RecoveryAction) :
    Reaches app.shelf (app.dispatchErrorRecovery o error action).shelf := by
  unfold dispatchErrorRecovery
  split
  · exact .refl
  cases action with
  | openCredentialPrompt profileId => exact app.openCredentialEditor_shelves ..
  | editProfile profileId field => rw [openProfileEditorAt_shelf]
  | retry recipeId =>
    dsimp only
    split
    · exact .refl
    · exact app.retryRecipe_shelves ..
  | focusEditor profileId | focusExecuteLimits profileId =>
    dsimp only
    split <;> exact .refl
  | reloadConfiguration => exact app.submitRefresh_shelves
  | reconnect profileId => exact app.submitReconnect_shelves profileId
  | cancelOperation o => exact app.cancelOperation_shelves o
  | clearCatalog profileId => rw [clearProfileCatalog_shelf]
  | restartRedisScan profileId => exact app.restartProfileRedisScan_shelves profileId
  | restartApplication => exact app.submit_shelves rfl (fun _ => rfl) fun _ => rfl
  | dismissError o => exact app.removeRecipe_shelves (some o)
  | editDraft draftId field => exact .refl
  | chooseExportDestination resultId => exact .refl
  | revealExportDestination resultId => exact .refl
  | revealMigrationBackup => exact .refl

theorem showExplorer_shelf : app.showExplorer.shelf = app.shelf := by
  unfold showExplorer
  split
  · rfl
  · simp only
    split
    · rfl
    · split <;> rfl

theorem browse_shelves (intent : MySqlExplorerIntent) :
    Reaches app.shelf (app.browse intent).shelf := by
  unfold browse
  split
  · exact .refl
  · split
    · exact app.submitMysqlExplorerIntent_shelves _ _
    · exact .refl

/-- Whatever the user does moves the shelf by its steps. -/
theorem act_shelves (action : UiAction) : Reaches app.shelf (app.act action).shelf := by
  cases action with
  | refresh => exact app.submitRefresh_shelves
  | select profileId => exact .refl
  | connect profileId => exact app.submitTest_shelves profileId
  | disconnect profileId => exact app.submitDisconnect_shelves profileId
  | reconnect profileId => exact app.submitReconnect_shelves profileId
  | promptForCredential profileId => exact app.openSessionCredentialPrompt_shelves profileId
  | cancelPrompt => exact app.cancelCredentialPrompt_shelves
  | submitPrompt typed => exact app.submitCredentialPrompt_shelves typed
  | execute intent => exact app.submitExecute_shelves intent
  | cancelExecute operationId => exact app.submitCancelExecute_shelves operationId
  | exportResult resultId writable => exact app.submitResultExportTo_shelves resultId writable
  | showExplorer =>
    rw [act, showExplorer_shelf]
  | browse intent => exact app.browse_shelves intent
  | browseRedis intent => exact app.submitRedisIntent_shelves intent
  | recover operationId error action =>
    exact app.dispatchErrorRecovery_shelves operationId error action
  | addProfile => exact .refl
  | editProfile profileId =>
    rw [act, openProfileEditorAt_shelf]
  | cancelEditor =>
    simp only [act, cancelEditor]
    split <;> exact .refl
  | save form connect => exact app.saveProfile_shelves form connect
  | testDraft valid => exact app.testDraft_shelves valid
  | openDelete profile =>
    simp only [act, openDeleteConfirmation]
    split
    · exact .refl
    · split <;> exact .refl
  | confirmMigration confirmed => exact .refl
  | confirmDelete => exact app.confirmDeleteConfirmation_shelves
  | cancelDelete => exact .refl

end DbotterApp

end Dbotter.Ui
