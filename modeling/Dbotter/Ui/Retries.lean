import Dbotter.Program.OneShot
import Dbotter.Ui.RetryShelf

/-!
Retries along whole runs of the desktop.

A recipe is kept under an operation that is never taken again, and a retry takes it off the
shelf. So no operation is retried twice, and a retry sends the command that was sent under the
operation, once more and under a fresh one.
-/

namespace Dbotter.Ui
open Dbotter.Utf8 Dbotter.Configuration Dbotter.Service Dbotter.Drivers Dbotter.Program

/-! ## One retry -/

/-- The command of a recipe was accepted again, under a fresh operation, for a profile that is
current and idle. -/
structure Repeats (app app' : DbotterApp) (r : OperationRecipeId) (recipe : RetryRecipe) :
    Prop where
  kept : app.retryRecipes.get r = some recipe
  origin : app.shelf.Origin r recipe
  accepted : app.port.trySubmit (recipe.command app.model.nextOperationId) = .ok app'.port
  certain : app.model.configUncertain = false
  current : app.model.activeGenerations recipe.key.profileId = some recipe.key.profileGeneration
  idle : app.activeOperations recipe.key.profileId = none

namespace DbotterApp

variable (app : DbotterApp)

theorem submit_port {command : OperationId → UiCommand}
    {accepted : OperationId → DbotterApp → DbotterApp} {refused : DbotterApp → DbotterApp}
    (haccepted : ∀ o (app' : DbotterApp), (accepted o app').port = app'.port)
    (hrefused : ∀ app' : DbotterApp, (refused app').port = app'.port) :
    (app.submit command accepted refused).port = app.port ∨
      app.port.trySubmit (command app.model.nextOperationId) =
        .ok (app.submit command accepted refused).port := by
  unfold submit
  cases h : app.port.trySubmit (command app.model.nextOperationId) with
  | error e =>
    left
    simp only [UiModel.nextOperation, h, hrefused]
  | ok port =>
    right
    simp only [UiModel.nextOperation, h, haccepted]

theorem submit_idle {p : ProfileId} {command : OperationId → UiCommand} {c : UiCommand}
    {accepted : OperationId → DbotterApp → DbotterApp} {refused : DbotterApp → DbotterApp}
    (hidle : app.activeOperations p = none) (hcommand : command app.model.nextOperationId = c)
    (haccepted : ∀ o (app' : DbotterApp), (accepted o app').port = app'.port)
    (hrefused : ∀ app' : DbotterApp, (refused app').port = app'.port) :
    (app.submit command accepted refused).port = app.port ∨
      app.activeOperations p = none ∧
        app.port.trySubmit c = .ok (app.submit command accepted refused).port := by
  obtain h | h := app.submit_port haccepted hrefused
  · exact .inl h
  · exact .inr ⟨hidle, hcommand ▸ h⟩

theorem idle_of_not_busy {app : DbotterApp} {p : ProfileId} (h : ¬app.connectionBusy p) :
    app.activeOperations p = none := by
  unfold connectionBusy at h
  simp only [Bool.or_eq_true, not_or, Option.isSome_iff_ne_none, not_not] at h
  exact h.2

/-- A recipe is tried at an idle profile alone. -/
theorem retryWith_port (recipe : RetryRecipe) : (app.retryWith recipe).port = app.port ∨
    app.activeOperations recipe.key.profileId = none ∧
      app.port.trySubmit (recipe.command app.model.nextOperationId) =
        .ok (app.retryWith recipe).port := by
  cases recipe with
  | connect key timeoutMs =>
    simp only [retryWith, submitConnectExact]
    split
    · exact .inl rfl
    · next hbusy =>
      exact app.submit_idle (idle_of_not_busy hbusy) rfl (fun _ _ => rfl) fun _ => rfl
  | reconnect key timeoutMs =>
    simp only [retryWith, submitReconnectExact]
    split
    · exact .inl rfl
    · next hbusy =>
      exact app.submit_idle (idle_of_not_busy hbusy) rfl (fun _ _ => rfl) fun _ => rfl
  | catalog request =>
    simp only [retryWith, retryCatalogRequest, submitCatalog]
    split
    · exact .inl rfl
    · next hbusy =>
      exact app.submit_idle (Option.not_isSome_iff_eq_none.1 hbusy) rfl (fun _ _ => rfl) fun _ => rfl
  | redisScan request restart =>
    simp only [retryWith, retryRedisScan, submitScan]
    split
    · exact .inl rfl
    · next hbusy =>
      exact app.submit_idle (Option.not_isSome_iff_eq_none.1 hbusy) rfl (fun _ _ => rfl) fun _ => rfl
  | redisInspect request =>
    simp only [retryWith, retryRedisInspect, submitInspect]
    split
    · exact .inl rfl
    · next hbusy =>
      exact app.submit_idle (Option.not_isSome_iff_eq_none.1 hbusy) rfl (fun _ _ => rfl) fun _ => rfl

theorem retryRecipe_port (r : OperationRecipeId) (expected : Option OperationKind)
    (hsound : app.shelf.Sound) : (app.retryRecipe r expected).port = app.port ∨
      ∃ recipe, Repeats app (app.retryRecipe r expected) r recipe ∧
        ∀ kind ∈ expected, kind = recipe.operationKind := by
  simp only [retryRecipe]
  cases hget : app.retryRecipes.get r with
  | none => exact .inl rfl
  | some recipe =>
    simp only
    split
    · exact .inl rfl
    next hexpected =>
    split
    · exact .inl rfl
    next hcurrent =>
    rw [Bool.or_eq_true, not_or] at hcurrent
    obtain hport | ⟨hidle, hport⟩ := (app.removeRecipe (some r)).retryWith_port recipe
    · exact .inl hport
    · refine .inr ⟨recipe, ⟨hget, ?_, hport, ?_, ?_, hidle⟩, ?_⟩
      · exact hsound.origin _ (RetryRecipeRegistry.mem_of_get hget)
      · exact Bool.eq_false_iff.2 hcurrent.1
      · exact not_not.1 fun hne => hcurrent.2 (bne_iff_ne.2 hne)
      · rintro kind rfl
        exact not_not.1 fun hne => hexpected (decide_eq_true hne)

/-- A retry takes its recipe off the shelf. -/
theorem retryRecipe_retired (r : OperationRecipeId) (expected : Option OperationKind)
    (hsound : app.shelf.Sound) (h : (app.retryRecipes.get r).isSome) :
    (app.retryRecipe r expected).shelf.Retired r := by
  obtain ⟨recipe, hget⟩ := Option.isSome_iff_exists.1 h
  have hremoved : (app.removeRecipe (some r)).shelf.Retired r :=
    ⟨hsound.taken _ (RetryRecipeRegistry.mem_of_get hget),
      RetryRecipeRegistry.get_remove _ _⟩
  simp only [retryRecipe, hget]
  split
  · exact hremoved
  split
  · exact hremoved
  · exact hremoved.reaches (retryWith_shelves _ recipe)

/-- The retry of a recovery action. -/
theorem recover_retry (o : OperationId) (error : PublicOperationError) (r : OperationRecipeId) :
    app.act (.recover o error (.retry r)) = app ∨
      app.act (.recover o error (.retry r)) = app.retryRecipe r (some error.operation) := by
  simp only [act, dispatchErrorRecovery]
  split
  · exact .inl rfl
  split
  · exact .inl rfl
  · exact .inr rfl

/-! ## The retry that a credential waited for -/

/-- The application once it has heard of a stored credential. -/
def storedCredential (identity : RequestIdentity) : DbotterApp :=
  { app with credentialPrompt := none }.foldIntoModel (.credentialsStored identity)

theorem storedCredential_generations (identity : RequestIdentity) :
    (app.storedCredential identity).model.activeGenerations = app.model.activeGenerations ∧
      (app.storedCredential identity).model.configUncertain = app.model.configUncertain := by
  simp only [storedCredential, foldIntoModel, UiModel.fold]
  split
  · split <;> exact ⟨rfl, rfl⟩
  · exact ⟨rfl, rfl⟩

theorem settleEvent_stored (identity : RequestIdentity) :
    app.settleEvent (.credentialsStored identity) =
      app.handleCredentialTerminal (.credentialsStored identity) := rfl

theorem applyEvent_stored (identity : RequestIdentity) :
    app.applyEvent (.credentialsStored identity) =
      (((app.handleCredentialTerminal (.credentialsStored identity)).1.foldIntoModel
        (.credentialsStored identity)).followUp none
          (app.handleCredentialTerminal (.credentialsStored identity)).2) := by
  have hsettled := app.settleEvent_stored identity
  have hconnect : ∀ app' : DbotterApp,
      app'.connectFollowUp (.credentialsStored identity) = none := by
    intro app'
    unfold connectFollowUp
    cases app'.pendingConnectAfterRefresh <;> rfl
  have hnotified : ∀ app' : DbotterApp,
      app'.notifyEditor (.credentialsStored identity) = (app', .ignored) := by
    intro app'
    unfold notifyEditor
    cases heditor : app'.profileEditor with
    | none => rfl
    | some editor =>
      simp only [ProfileEditor.handleEvent]
      rw [← heditor]
  simp only [applyEvent, attachRetryRecipe, hsettled, hnotified, hconnect]

/-- A stored credential is followed by nothing, or by the retry that its prompt waited with. -/
theorem consumeEvent_stored (identity : RequestIdentity) :
    (app.consumeEvent (.credentialsStored identity)).port = app.port ∨
      ∃ prompt, app.credentialPrompt = some prompt ∧ prompt.profileId = identity.profileId ∧
        prompt.profileGeneration = identity.profileGeneration ∧
        ∃ r, prompt.retryRecipeId = some r ∧ app.consumeEvent (.credentialsStored identity) =
          (app.storedCredential identity).retryRecipe r (some prompt.sourceOperation) := by
  have hconsumed : app.consumeEvent (.credentialsStored identity) =
      app.applyEvent (.credentialsStored identity) := rfl
  rw [hconsumed, applyEvent_stored]
  cases hprompt : app.credentialPrompt with
  | none =>
    left
    simp only [handleCredentialTerminal, credentialTerminal, hprompt]
    rfl
  | some prompt =>
    simp only [handleCredentialTerminal, credentialTerminal, hprompt]
    split
    · next hmatches =>
      split
      · exact .inl rfl
      · cases hrecipe : prompt.retryRecipeId with
        | none => exact .inl rfl
        | some r => exact .inr ⟨prompt, rfl, hmatches.2.1, hmatches.2.2, r, hrecipe, rfl⟩
    · exact .inl rfl

theorem storedCredential_sound {identity : RequestIdentity} (hsound : app.shelf.Sound) :
    (app.storedCredential identity).shelf.Sound := by
  have hclosed : (app.storedCredential identity).shelf = { app.shelf with prompt := none } :=
    foldIntoModel_shelf { app with credentialPrompt := none } _
  rw [hclosed]
  exact hsound.step (.unprompt app.shelf)

/-- The retry after a stored credential is a retry of the application as it was before. -/
theorem repeats_of_stored {app app' : DbotterApp} {identity : RequestIdentity}
    {r : OperationRecipeId} {recipe : RetryRecipe}
    (h : Repeats (app.storedCredential identity) app' r recipe) : Repeats app app' r recipe := by
  obtain ⟨hgenerations, huncertain⟩ := app.storedCredential_generations identity
  have hnext : (app.storedCredential identity).model.nextOperationId =
      app.model.nextOperationId := UiModel.fold_nextOperationId _ _
  have haccepted := h.accepted
  have hcertain := h.certain
  have hcurrent := h.current
  rw [hnext] at haccepted
  rw [huncertain] at hcertain
  rw [hgenerations] at hcurrent
  exact ⟨h.kept, h.origin, haccepted, hcertain, hcurrent, h.idle⟩

/-- What follows a stored credential is a retry for the profile of that credential. -/
theorem consumeEvent_repeats (identity : RequestIdentity) (hsound : app.shelf.Sound) :
    (app.consumeEvent (.credentialsStored identity)).port = app.port ∨
      ∃ prompt r recipe, app.credentialPrompt = some prompt ∧ prompt.retryRecipeId = some r ∧
        Repeats app (app.consumeEvent (.credentialsStored identity)) r recipe ∧
        recipe.key = workspaceKey identity ∧ recipe.operationKind = prompt.sourceOperation := by
  obtain h | ⟨prompt, hprompt, hid, hgeneration, r, hr, hretry⟩ :=
    app.consumeEvent_stored identity
  · exact .inl h
  · rw [hretry]
    obtain h | ⟨recipe, hrepeats, -⟩ := (app.storedCredential identity).retryRecipe_port r
      (some prompt.sourceOperation) (app.storedCredential_sound hsound)
    · exact .inl h
    · obtain ⟨hkey, hkind⟩ := (hsound.prompt prompt hprompt r hr).2 recipe
        (RetryRecipeRegistry.mem_of_get hrepeats.kept)
      rw [hid, hgeneration] at hkey
      exact .inr ⟨prompt, r, recipe, hprompt, hr, repeats_of_stored hrepeats, hkey, hkind⟩

theorem consumeEvent_retired {identity : RequestIdentity} {r : OperationRecipeId}
    {recipe : RetryRecipe} (hsound : app.shelf.Sound)
    (hr : app.credentialPrompt.bind (·.retryRecipeId) = some r)
    (h : Repeats app (app.consumeEvent (.credentialsStored identity)) r recipe)
    (hport : (app.consumeEvent (.credentialsStored identity)).port ≠ app.port) :
    (app.consumeEvent (.credentialsStored identity)).shelf.Retired r := by
  obtain hsame | ⟨prompt, hprompt, -, -, r', hr', hretry⟩ := app.consumeEvent_stored identity
  · exact absurd hsame hport
  · rw [hprompt, Option.bind_some, hr', Option.some_inj] at hr
    subst hr
    rw [hretry]
    exact retryRecipe_retired _ r' _ (app.storedCredential_sound hsound)
      (Option.isSome_iff_exists.2 ⟨recipe, h.kept⟩)

end DbotterApp

/-! ## Runs -/

namespace Desktop
open DbotterApp

theorem sound_start : DbotterApp.new.shelf.Sound := by
  have hempty : Shelf.Sound ⟨[], [], 1, {}, none⟩ :=
    { below := fun command h => absurd h List.not_mem_nil
      keys := List.nodup_nil
      few := Nat.zero_le _
      taken := fun entry h => absurd h List.not_mem_nil
      origin := fun entry h => absurd h List.not_mem_nil
      prompt := fun prompt h => nomatch h }
  have hshelf : ({} : DbotterApp).shelf = ⟨[], [], 1, {}, none⟩ := rfl
  have hreaches := submitRefresh_shelves {}
  rw [hshelf] at hreaches
  exact hempty.reaches hreaches

theorem foldl_consume_sound {d : Desktop} {events : List UiEvent} (h : d.app.shelf.Sound)
    (hpast : ∀ m ∈ d.consumed, m.app.shelf.Sound) :
    ∀ m ∈ (events.foldl consume d).consumed, m.app.shelf.Sound := by
  induction events generalizing d with
  | nil => exact hpast
  | cons event events ih =>
    refine ih (h.reaches (d.app.consumeEvent_shelves event)) fun m hm => ?_
    obtain hm | hm := List.mem_append.1 hm
    · exact hpast m hm
    · rw [List.mem_singleton.1 hm]
      exact h

theorem sound_run (moves : List Move) : (run moves).app.shelf.Sound ∧
    ∀ m ∈ (run moves).consumed, m.app.shelf.Sound := by
  induction moves using List.reverseRecOn with
  | nil => exact ⟨sound_start, fun m h => absurd h List.not_mem_nil⟩
  | append_singleton moves move ih =>
    obtain ⟨hsound, hpast⟩ := ih
    have hrun : run (moves ++ [move]) = (run moves).step move := by
      simp only [run, List.foldl_append, List.foldl_cons, List.foldl_nil]
    rw [hrun]
    refine ⟨hsound.reaches ((run moves).step_shelves move), ?_⟩
    cases move with
    | poll => exact foldl_consume_sound hsound hpast
    | emit event =>
      simp only [step]
      split <;> exact hpast
    | act action | receive lane | release key | close => exact hpast

/-- Every retry sends the command that was accepted under the operation it retries, once more and
under a fresh operation, for a profile that is current and idle; after a stored credential it is
for the profile of that credential. -/
theorem retry_repeats (moves : List Move) :
    (∀ o error r,
      let app := (run moves).app
      let app' := ((run moves).step (.act (.recover o error (.retry r)))).app
      app'.port = app.port ∨
        ∃ recipe, Repeats app app' r recipe ∧ recipe.operationKind = error.operation) ∧
    ∀ m ∈ (run moves).consumed, ∀ identity, m.event = .credentialsStored identity →
      (m.app.consumeEvent m.event).port = m.app.port ∨
        ∃ prompt r recipe, m.app.credentialPrompt = some prompt ∧
          prompt.retryRecipeId = some r ∧ Repeats m.app (m.app.consumeEvent m.event) r recipe ∧
          recipe.key = workspaceKey identity ∧ recipe.operationKind = prompt.sourceOperation := by
  obtain ⟨hsound, hpast⟩ := sound_run moves
  constructor
  · intro o error r
    have hstep : ((run moves).step (.act (.recover o error (.retry r)))).app =
        (run moves).app.act (.recover o error (.retry r)) := rfl
    simp only [hstep]
    obtain h | h := (run moves).app.recover_retry o error r
    · rw [h]
      exact .inl rfl
    · rw [h]
      obtain hport | ⟨recipe, hrepeats, hkind⟩ :=
        (run moves).app.retryRecipe_port r (some error.operation) hsound
      · exact .inl hport
      · exact .inr ⟨recipe, hrepeats, (hkind _ rfl).symm⟩
  · rintro ⟨app, event⟩ hm identity rfl
    exact app.consumeEvent_repeats identity (hpast _ hm)

/-- A credential is asked for, typed and sent to be stored. -/
def storesCredential : List Move :=
  let profile := firstProfile .mySql
  let asking := { profile with
    persisted := { profile.persisted with credentialMode := .session } }
  hears (.profilesLoaded 1 [asking] {}) ++
    [.act (.connect "p".toList), .act (.submitPrompt (some "secret".toList))]

/-- The credential is stored, and the connection is sent for the first time. -/
theorem retry_repeats_stored :
    ∃ m ∈ (run (storesCredential ++ hears (.credentialsStored ⟨"p".toList, 1, 3⟩))).consumed,
      ∃ r recipe, Repeats m.app (m.app.consumeEvent m.event) r recipe := by
  obtain ⟨m, hm, hevent, hport⟩ : ∃ m ∈ (run (storesCredential ++
      hears (.credentialsStored ⟨"p".toList, 1, 3⟩))).consumed,
      m.event = .credentialsStored ⟨"p".toList, 1, 3⟩ ∧
        (m.app.consumeEvent m.event).port.sent.length ≠ m.app.port.sent.length := by
    refine ⟨_, List.mem_cons_of_mem _ (List.mem_singleton_self _), rfl, ?_⟩
    decide +kernel
  obtain h | ⟨-, r, recipe, -, -, hrepeats, -⟩ := (retry_repeats _).2 m hm _ hevent
  · rw [h] at hport
    exact absurd rfl hport
  · exact ⟨m, hm, r, recipe, hrepeats⟩

end Desktop

/-! ## At most once -/

def DbotterApp.commandCount (app : DbotterApp) : Nat :=
  app.port.sent.length + app.port.merged.length

/-- The recipe that was asked for, where a command came of it. -/
def resent (app app' : DbotterApp) (r : Option OperationRecipeId) : List OperationRecipeId :=
  if app'.commandCount = app.commandCount then [] else r.toList

/-- The operation that an event makes the application retry. -/
def DbotterApp.resentOn (app : DbotterApp) (event : UiEvent) : List OperationRecipeId :=
  match event with
  | .credentialsStored _ =>
    resent app (app.consumeEvent event) (app.credentialPrompt.bind (·.retryRecipeId))
  | _ => []

/-- The operations that a move retries. -/
def Desktop.resends (d : Desktop) (move : Move) : List OperationRecipeId :=
  match move with
  | .act (.recover _ _ (.retry r)) => resent d.app (d.step move).app (some r)
  | .poll =>
    let (events, port) := d.app.port.drainEvents DbotterApp.eventDrainLimit
    emitted DbotterApp.consumeEvent DbotterApp.resentOn { d.app with port } events
  | _ => []

theorem mem_resent {app app' : DbotterApp} {r : OperationRecipeId}
    {asked : Option OperationRecipeId} (h : r ∈ resent app app' asked) :
    asked = some r ∧ app'.port ≠ app.port := by
  unfold resent at h
  split at h
  · exact absurd h List.not_mem_nil
  · next hcount =>
    refine ⟨Option.mem_toList.1 h, fun hport => hcount ?_⟩
    simp only [DbotterApp.commandCount, hport]

theorem nodup_resent (app app' : DbotterApp) (asked : Option OperationRecipeId) :
    (resent app app' asked).Nodup := by
  unfold resent
  split
  · exact List.nodup_nil
  · cases asked with
    | none => exact List.nodup_nil
    | some r => exact List.nodup_singleton r

/-- A recipe that is on the shelf is not retired. -/
theorem Repeats.live {app app' : DbotterApp} {r : OperationRecipeId} {recipe : RetryRecipe}
    (h : Repeats app app' r recipe) : ¬app.shelf.Retired r := by
  rintro ⟨-, hnone⟩
  have hkept : app.shelf.recipes.get r = some recipe := h.kept
  rw [hnone] at hkept
  cases hkept

namespace DbotterApp

theorem resentOn_once : OneShot consumeEvent resentOn (·.shelf.Sound) (·.shelf.Retired ·) where
  inv_step h event := h.reaches (consumeEvent_shelves _ event)
  retired_step _ h event := h.reaches (consumeEvent_shelves _ event)
  live {app event r} hsound h := by
    cases event with
    | credentialsStored identity =>
      obtain ⟨hasked, hport⟩ := mem_resent h
      obtain hsame | ⟨prompt, r', recipe, hprompt, hr', hrepeats, -⟩ :=
        app.consumeEvent_repeats identity hsound
      · exact absurd hsame hport
      · rw [hprompt, Option.bind_some, hr', Option.some_inj] at hasked
        exact hasked ▸ hrepeats.live
    | _ => exact absurd h List.not_mem_nil
  retires {app event r} hsound h := by
    cases event with
    | credentialsStored identity =>
      obtain ⟨hasked, hport⟩ := mem_resent h
      obtain hsame | ⟨prompt, r', recipe, hprompt, hr', hrepeats, -⟩ :=
        app.consumeEvent_repeats identity hsound
      · exact absurd hsame hport
      · obtain rfl : r' = r := by
          rw [hprompt, Option.bind_some, hr', Option.some_inj] at hasked
          exact hasked
        exact app.consumeEvent_retired hsound hasked hrepeats hport
    | _ => exact absurd h List.not_mem_nil
  nodup {app} _ event := by
    cases event with
    | credentialsStored identity => exact nodup_resent _ _ _
    | _ => exact List.nodup_nil

theorem recover_retired {app : DbotterApp} {o : OperationId} {error : PublicOperationError}
    {r : OperationRecipeId} (hsound : app.shelf.Sound)
    (hport : (app.act (.recover o error (.retry r))).port ≠ app.port) :
    ¬app.shelf.Retired r ∧ (app.act (.recover o error (.retry r))).shelf.Retired r := by
  obtain h | h := app.recover_retry o error r
  · rw [h] at hport
    exact absurd rfl hport
  · rw [h] at hport ⊢
    obtain hsame | ⟨recipe, hrepeats, -⟩ := app.retryRecipe_port r _ hsound
    · exact absurd hsame hport
    · exact ⟨hrepeats.live, app.retryRecipe_retired r _ hsound
        (Option.isSome_iff_exists.2 ⟨recipe, hrepeats.kept⟩)⟩

end DbotterApp

namespace Desktop
open DbotterApp

theorem mem_resends {d : Desktop} {move : Move} {r : OperationRecipeId}
    (hsound : d.app.shelf.Sound) (h : r ∈ d.resends move) :
    ¬d.app.shelf.Retired r ∧ (d.step move).app.shelf.Retired r := by
  unfold resends at h
  split at h
  · next o error _ =>
    obtain ⟨hasked, hport⟩ := mem_resent h
    cases hasked
    exact @recover_retired d.app o error r hsound hport
  · let drained : DbotterApp :=
      { d.app with port := (d.app.port.drainEvents eventDrainLimit).2 }
    have hdrained : drained.shelf.Sound := hsound
    have hemitted : r ∈ emitted consumeEvent resentOn drained
      (d.app.port.drainEvents eventDrainLimit).1 := h
    have hlive := resentOn_once.live_run hdrained hemitted
    have hretired := resentOn_once.retires_run hdrained hemitted
    refine ⟨hlive, ?_⟩
    simp only [step, poll_app, pollEvents]
    exact hretired.reaches (prune_shelves _)
  · exact absurd h List.not_mem_nil

theorem resends_once : OneShot step resends (·.app.shelf.Sound) (·.app.shelf.Retired ·) where
  inv_step {d} h move := h.reaches (d.step_shelves move)
  retired_step {d _} _ h move := h.reaches (d.step_shelves move)
  live hsound h := (mem_resends hsound h).1
  retires hsound h := (mem_resends hsound h).2
  nodup {d} hsound move := by
    unfold resends
    split
    · exact nodup_resent _ _ _
    · have hdrained : ({ d.app with
          port := (d.app.port.drainEvents eventDrainLimit).2 } : DbotterApp).shelf.Sound := hsound
      exact resentOn_once.nodup_run hdrained _
    · exact List.nodup_nil

/-- No operation is retried twice: in a whole run, whatever the user and the controller do, at
most one command comes of each recipe. The recipes kept are at most 64, under operations of
their own. -/
theorem retried_once (moves : List Move) :
    (emitted step resends {} moves).Nodup ∧
      (∀ r ∈ emitted step resends {} moves, (run moves).app.retryRecipes.get r = none) ∧
      ((run moves).app.retryRecipes.entries.map Prod.fst).Nodup ∧
      (run moves).app.retryRecipes.entries.length ≤ retryRecipeLimit := by
  have hstart : ({} : Desktop).app.shelf.Sound := sound_start
  obtain ⟨hsound, -⟩ := sound_run moves
  refine ⟨resends_once.nodup_run hstart moves, fun r hr => ?_, hsound.keys, hsound.few⟩
  exact (resends_once.retires_run hstart hr).2

/-- A connection is refused, and the user asks twice for the retry that the error offers. -/
example :
    let identity : RequestIdentity := ⟨"p".toList, 1, 2⟩
    let error := publicProfileError .connectProfile identity .networkUnavailable .none
    let retry : Move := .act (.recover 2 error (.retry 2))
    emitted step resends {} (firstLoad .mySql ++ [.act (.connect "p".toList)] ++
      hears (failedProfileEvent identity .connectProfile .networkUnavailable) ++
        [retry, retry]) = [2] := by
  decide +kernel

end Desktop

end Dbotter.Ui
