import Dbotter.Ui.RetryRecipes

/-!
The shelf over time.

An event, a poll and everything that the controller does move the shelf by the steps of a
submission, or not at all. So what each step keeps holds along every run: a recipe is kept under
an operation of its own, that was taken for the command the recipe repeats, and an operation
without a recipe never gets one again.
-/

namespace Dbotter.Ui
open Dbotter.Utf8 Dbotter.Configuration Dbotter.Service Dbotter.Drivers

namespace DbotterApp
open Dbotter.Ui.Shelf Relation

variable (app : DbotterApp)

/-! ## The events -/

theorem captureCommonError_shelf (event : UiEvent) :
    (app.captureCommonError event).shelf = app.shelf := by
  obtain ⟨commonError, h⟩ := app.captureCommonError_eq event
  rw [h]
  rfl

theorem handleCredentialTerminal_shelves (event : UiEvent) :
    Reaches app.shelf (app.handleCredentialTerminal event).1.shelf := by
  unfold handleCredentialTerminal
  split
  · exact app.cancelCredentialPrompt_shelves
  · exact app.cancelCredentialPrompt_shelves
  · split
    · split
      · have hclosed : Reaches app.shelf { app with credentialPrompt := none }.shelf :=
          .single (.unprompt app.shelf)
        simp only
        split
        · exact hclosed.trans (removeRecipe_shelves _ _)
        · exact hclosed
      · exact .refl
    · exact .refl

theorem foldRedisExplorerEvent_shelf (event : UiEvent) :
    (app.foldRedisExplorerEvent event).shelf = app.shelf := by
  obtain ⟨redisExplorers, visible, h⟩ := app.foldRedisExplorerEvent_eq event
  rw [h]
  rfl

theorem foldMysqlExplorerEvent_shelf (event : UiEvent) :
    (app.foldMysqlExplorerEvent event).shelf = app.shelf := by
  obtain ⟨mysqlExplorers, h⟩ := app.foldMysqlExplorerEvent_eq event
  rw [h]
  rfl

theorem deactivate_shelf (profileId : ProfileId) (o : OperationId) :
    (app.deactivate profileId o).shelf = app.shelf := by
  unfold deactivate
  split <;> rfl

theorem finishFailedDelete_shelf (profileId : ProfileId) (pending : PendingDelete)
    (summary : PublicSummary) :
    (app.finishFailedDelete profileId pending summary).shelf = app.shelf := by
  have hsettled := deactivate_shelf { app with
    pendingDeletes := Function.update app.pendingDeletes profileId none } profileId
      pending.operationId
  simp only [finishFailedDelete]
  split
  · exact hsettled
  · exact hsettled

theorem finishActiveOperation_shelves (event : UiEvent) :
    Reaches app.shelf (app.finishActiveOperation event).shelf := by
  unfold finishActiveOperation
  split
  · exact .single (.drop app.shelf {} (List.nil_sublist _))
  · exact .single (.drop app.shelf {} (List.nil_sublist _))
  · split
    · exact .refl
    · simp only
      split
      · rw [finishFailedDelete_shelf]
        exact .refl
      · have hdeleted {before : DbotterApp} (h : before.shelf = app.shelf) (p : ProfileId)
            (o : OperationId) : (before.deactivate p o).shelf = app.shelf :=
          (deactivate_shelf before p o).trans h
        split
        · rw [hdeleted]
          split <;> rfl
        · refine .trans ?_ (removeRecipe_shelves _ _)
          rw [hdeleted]
          split <;> rfl

theorem settleEvent_shelves (event : UiEvent) :
    Reaches app.shelf (app.settleEvent event).1.shelf := by
  simp only [settleEvent, foldMysqlExplorerEvent_shelf]
  refine .trans ?_ (finishActiveOperation_shelves _ event)
  rw [foldRedisExplorerEvent_shelf, ← app.captureCommonError_shelf event]
  exact handleCredentialTerminal_shelves _ event

theorem notifyEditor_shelf (event : UiEvent) :
    (app.notifyEditor event).1.shelf = app.shelf := by
  unfold notifyEditor
  split <;> rfl

theorem foldIntoModel_shelf (event : UiEvent) : (app.foldIntoModel event).shelf = app.shelf := by
  simp only [shelf, foldIntoModel, UiModel.fold_nextOperationId]

theorem finishSave_shelves (event : UiEvent) (profileId : ProfileId) (connect : Bool) :
    Reaches app.shelf (app.finishSave event profileId connect).shelf := by
  let closed : DbotterApp := { app with
    model := { app.model.fold event with selectedProfile := some profileId }
    profileEditor := none }
  have hclosed : closed.shelf = app.shelf := app.foldIntoModel_shelf event
  rw [← hclosed]
  refine closed.submit_shelves rfl (fun app => ?_) fun app' => ?_
  · split <;> rfl
  · split <;> rfl

theorem followUp_shelves (connect : Option (ProfileId × Bool))
    (credentialRetry : Option (OperationRecipeId × OperationKind)) :
    Reaches app.shelf (app.followUp connect credentialRetry).shelf := by
  have hretry (app : DbotterApp) :
      Reaches app.shelf (app.followUp none credentialRetry).shelf := by
    cases credentialRetry with
    | none => exact .refl
    | some recipe => exact app.retryRecipe_shelves _ _
  unfold followUp
  refine ReflTransGen.trans ?_ (hretry _)
  split
  · exact .refl
  · simp only
    split
    · exact submitTest_shelves { app with
        pendingConnectAfterRefresh := none
        model := { app.model with selectedProfile := some _ } } _
    · exact .refl

theorem applyEvent_shelves (event : UiEvent) :
    Reaches app.shelf (app.applyEvent event).shelf := by
  simp only [applyEvent]
  generalize app.attachRetryRecipe event = event
  refine (app.settleEvent_shelves event).trans ?_
  rw [← notifyEditor_shelf _ event]
  split
  · exact finishSave_shelves ..
  · exact finishSave_shelves ..
  · exact .refl
  · rw [← foldIntoModel_shelf _ event]
    exact followUp_shelves ..

theorem consumeEvent_shelves (event : UiEvent) :
    Reaches app.shelf (app.consumeEvent event).shelf := by
  unfold consumeEvent
  split
  · exact .refl
  · exact (app.finishActiveOperation_shelves event).trans (removeRecipe_shelves _ _)
  · exact app.applyEvent_shelves event
  · exact app.applyEvent_shelves event

theorem prune_shelves : Reaches app.shelf app.prune.shelf := by
  let explored := app.pruneMysqlExplorers.pruneRedisExplorers
  have hexplored : explored.shelf = app.shelf := by
    simp only [explored, pruneRedisExplorers]
    split <;> rfl
  have hoperations : Reaches explored.shelf explored.pruneActiveOperations.shelf := by
    have hpruned := Step.drop explored.shelf
      (explored.retryRecipes.retainCurrent explored.model.activeGenerations) List.filter_sublist
    have hcancelled {pruned : DbotterApp} (h : Reaches explored.shelf pruned.shelf) :
        Reaches explored.shelf pruned.cancelCredentialPrompt.shelf :=
      h.trans pruned.cancelCredentialPrompt_shelves
    simp only [pruneActiveOperations]
    split
    · exact hcancelled (.single hpruned)
    · exact .single hpruned
  rw [← hexplored]
  exact hoperations

end DbotterApp

/-! ## Runs -/

namespace Desktop
open Dbotter.Ui.Shelf

theorem foldl_consumeEvent_shelves (app : DbotterApp) (events : List UiEvent) :
    Reaches app.shelf (events.foldl DbotterApp.consumeEvent app).shelf := by
  induction events generalizing app with
  | nil => exact .refl
  | cons event events ih => exact (app.consumeEvent_shelves event).trans (ih _)

theorem step_shelves (d : Desktop) (move : Move) :
    Reaches d.app.shelf (d.step move).app.shelf := by
  cases move with
  | act action => exact d.app.act_shelves action
  | poll =>
    have hdrained : ({ d.app with
        port := (d.app.port.drainEvents DbotterApp.eventDrainLimit).2 } : DbotterApp).shelf =
          d.app.shelf := rfl
    rw [← hdrained]
    simp only [step, poll_app, DbotterApp.pollEvents]
    exact (foldl_consumeEvent_shelves _ _).trans (DbotterApp.prune_shelves _)
  | receive lane => cases lane <;> exact .refl
  | emit event =>
    simp only [step]
    split
    · obtain ⟨hsent, hmerged, -⟩ := tryEmit_port d.app.port event
      simp only [DbotterApp.shelf, hsent, hmerged]
      exact .refl
    · exact .refl
  | release key => exact .refl
  | close => exact .refl

end Desktop

/-! ## What the steps keep -/

namespace Shelf

theorem Accepts.mem {s : Shelf} {command : UiCommand} {sent merged : List UiCommand}
    (h : s.Accepts command sent merged) {c : UiCommand} :
    c ∈ sent ++ merged ↔ c ∈ s.sent ++ s.merged ∨ c = command := by
  obtain ⟨rfl, rfl⟩ | ⟨rfl, rfl⟩ := h
  · simp only [List.mem_append, List.mem_singleton]
    tauto
  · simp only [List.mem_append, List.mem_singleton]
    tauto

/-- Where a recipe comes from: its command was accepted under its operation, or it is a
connection for which nothing was sent yet. -/
def Origin (s : Shelf) (r : OperationRecipeId) (recipe : RetryRecipe) : Prop :=
  recipe.command r ∈ s.sent ++ s.merged ∨
    (∃ key, recipe = .connect key DbotterApp.defaultTimeoutMs) ∧
      ∀ command ∈ s.sent ++ s.merged, command.operationId = r → command.isCancel

/-- The operation was taken and has no recipe. -/
def Retired (s : Shelf) (r : OperationRecipeId) : Prop := r < s.next ∧ s.recipes.get r = none

structure Sound (s : Shelf) : Prop where
  below : ∀ command ∈ s.sent ++ s.merged, command.isCancel = false → command.operationId < s.next
  keys : (s.recipes.entries.map Prod.fst).Nodup
  few : s.recipes.entries.length ≤ retryRecipeLimit
  taken : ∀ entry ∈ s.recipes.entries, entry.1 < s.next
  origin : ∀ entry ∈ s.recipes.entries, s.Origin entry.1 entry.2
  prompt : ∀ prompt ∈ s.prompt, ∀ r ∈ prompt.retryRecipeId, r < s.next ∧
    ∀ recipe, (r, recipe) ∈ s.recipes.entries → prompt.Fits recipe

/-! ## What a step does -/

theorem Step.next_le {s s' : Shelf} (h : Step s s') : s.next ≤ s'.next := by
  cases h with
  | skip | issue | start | seed => exact Nat.le_succ _
  | cancel | drop | unprompt | prompted | stores => exact le_rfl

/-- The commands that a step accepts: none, a cancellation, or one under a fresh operation. -/
theorem Step.mem_commands {s s' : Shelf} (h : Step s s') {c : UiCommand}
    (hc : c ∈ s'.sent ++ s'.merged) :
    c ∈ s.sent ++ s.merged ∨ c.isCancel ∨ c.operationId = s.next ∧ s'.next = s.next + 1 := by
  cases h with
  | cancel o haccepts =>
    obtain hc | rfl := haccepts.mem.1 hc
    · exact .inl hc
    · exact .inr (.inl rfl)
  | issue command ho haccepts =>
    obtain hc | rfl := haccepts.mem.1 hc
    · exact .inl hc
    · exact .inr (.inr ⟨ho, rfl⟩)
  | start recipe haccepts =>
    obtain hc | rfl := haccepts.mem.1 hc
    · exact .inl hc
    · exact .inr (.inr ⟨recipe.command_operationId _, rfl⟩)
  | skip | seed | drop | unprompt | prompted | stores => exact .inl hc

theorem Step.commands_mono {s s' : Shelf} (h : Step s s') {c : UiCommand}
    (hc : c ∈ s.sent ++ s.merged) : c ∈ s'.sent ++ s'.merged := by
  cases h with
  | cancel o haccepts => exact haccepts.mem.2 (.inl hc)
  | issue command ho haccepts => exact haccepts.mem.2 (.inl hc)
  | start recipe haccepts => exact haccepts.mem.2 (.inl hc)
  | skip | seed | drop | unprompt | prompted | stores => exact hc

/-- A recipe that is there after a step was there before, or is under a fresh operation. -/
theorem Step.mem_entries {s s' : Shelf} (h : Step s s') {entry : OperationRecipeId × RetryRecipe}
    (hentry : entry ∈ s'.recipes.entries) :
    entry ∈ s.recipes.entries ∨ entry.1 = s.next ∧ s'.next = s.next + 1 := by
  cases h with
  | start recipe haccepts =>
    obtain rfl | ⟨hmem, -⟩ := RetryRecipeRegistry.mem_register _ _ _ hentry
    · exact .inr ⟨rfl, rfl⟩
    · exact .inl hmem
  | seed key =>
    obtain rfl | ⟨hmem, -⟩ := RetryRecipeRegistry.mem_register _ _ _ hentry
    · exact .inr ⟨rfl, rfl⟩
    · exact .inl hmem
  | drop recipes hsub => exact .inl (hsub.subset hentry)
  | skip | cancel | issue | unprompt | prompted | stores => exact .inl hentry

theorem Retired.step {s s' : Shelf} {r : OperationRecipeId} (h : s.Retired r)
    (hstep : Step s s') : s'.Retired r := by
  obtain ⟨hlt, hnone⟩ := h
  refine ⟨hlt.trans_le hstep.next_le, ?_⟩
  rw [RetryRecipeRegistry.get_eq_none] at hnone ⊢
  intro recipe hmem
  obtain hmem | ⟨hfresh, -⟩ := hstep.mem_entries hmem
  · exact hnone recipe hmem
  · exact absurd hfresh hlt.ne

theorem Retired.reaches {s s' : Shelf} {r : OperationRecipeId} (h : s.Retired r)
    (hreaches : Reaches s s') : s'.Retired r := by
  induction hreaches with
  | refl => exact h
  | tail _ hstep ih => exact ih.step hstep

/-- A recipe keeps its origin: what is accepted later is under another operation. -/
theorem Origin.step {s s' : Shelf} {r : OperationRecipeId} {recipe : RetryRecipe}
    (h : s.Origin r recipe) (hr : r < s.next) (hstep : Step s s') : s'.Origin r recipe := by
  obtain hmem | ⟨hseed, hnone⟩ := h
  · exact .inl (hstep.commands_mono hmem)
  · refine .inr ⟨hseed, fun command hmem ho => ?_⟩
    obtain hmem | hcancel | ⟨hfresh, -⟩ := hstep.mem_commands hmem
    · exact hnone command hmem ho
    · exact hcancel
    · exact absurd (ho.symm.trans hfresh) hr.ne

/-! ## The invariant -/

theorem Sound.below_step {s s' : Shelf} (h : s.Sound) (hstep : Step s s') :
    ∀ command ∈ s'.sent ++ s'.merged, command.isCancel = false →
      command.operationId < s'.next := by
  intro command hmem hcancel
  obtain hmem | hcancels | ⟨hfresh, hnext⟩ := hstep.mem_commands hmem
  · exact (h.below command hmem hcancel).trans_le hstep.next_le
  · rw [hcancels] at hcancel
    cases hcancel
  · rw [hfresh, hnext]
    exact Nat.lt_succ_self _

theorem Sound.taken_step {s s' : Shelf} (h : s.Sound) (hstep : Step s s') :
    ∀ entry ∈ s'.recipes.entries, entry.1 < s'.next := by
  intro entry hmem
  obtain hmem | ⟨hfresh, hnext⟩ := hstep.mem_entries hmem
  · exact (h.taken entry hmem).trans_le hstep.next_le
  · rw [hfresh, hnext]
    exact Nat.lt_succ_self _

theorem Sound.origin_step {s s' : Shelf} (h : s.Sound) (hstep : Step s s') :
    ∀ entry ∈ s'.recipes.entries, s'.Origin entry.1 entry.2 := by
  have hold : ∀ entry ∈ s.recipes.entries, s'.Origin entry.1 entry.2 := fun entry hmem =>
    (h.origin entry hmem).step (h.taken entry hmem) hstep
  intro entry hmem
  cases hstep with
  | start recipe haccepts =>
    obtain rfl | ⟨hmem, -⟩ := RetryRecipeRegistry.mem_register _ _ _ hmem
    · exact .inl (haccepts.mem.2 (.inr rfl))
    · exact hold entry hmem
  | seed key =>
    obtain rfl | ⟨hmem, -⟩ := RetryRecipeRegistry.mem_register _ _ _ hmem
    · refine .inr ⟨⟨key, rfl⟩, fun command hmem ho => ?_⟩
      -- Everything accepted before is under an earlier operation.
      by_contra hcancel
      exact absurd ho (h.below command hmem (by simpa using hcancel)).ne
    · exact hold entry hmem
  | drop recipes hsub => exact hold entry (hsub.subset hmem)
  | skip | cancel | issue | unprompt | prompted | stores => exact hold entry hmem

theorem Sound.keys_step {s s' : Shelf} (h : s.Sound) (hstep : Step s s') :
    (s'.recipes.entries.map Prod.fst).Nodup := by
  cases hstep with
  | start recipe haccepts => exact RetryRecipeRegistry.nodup_register _ _ _ h.keys
  | seed key => exact RetryRecipeRegistry.nodup_register _ _ _ h.keys
  | drop recipes hsub => exact (hsub.map Prod.fst).nodup h.keys
  | skip | cancel | issue | unprompt | prompted | stores => exact h.keys

theorem Sound.few_step {s s' : Shelf} (h : s.Sound) (hstep : Step s s') :
    s'.recipes.entries.length ≤ retryRecipeLimit := by
  cases hstep with
  | start recipe haccepts => exact RetryRecipeRegistry.length_register _ _ _
  | seed key => exact RetryRecipeRegistry.length_register _ _ _
  | drop recipes hsub => exact hsub.length_le.trans h.few
  | skip | cancel | issue | unprompt | prompted | stores => exact h.few

theorem Sound.prompt_step {s s' : Shelf} (h : s.Sound) (hstep : Step s s') :
    ∀ prompt ∈ s'.prompt, ∀ r ∈ prompt.retryRecipeId, r < s'.next ∧
      ∀ recipe, (r, recipe) ∈ s'.recipes.entries → prompt.Fits recipe := by
  -- A recipe under a fresh operation is not the one that an open prompt waits with.
  have hold : ∀ prompt ∈ s.prompt, ∀ r ∈ prompt.retryRecipeId, r < s'.next ∧
      ∀ recipe, (r, recipe) ∈ s'.recipes.entries → prompt.Fits recipe := by
    intro prompt hprompt r hr
    obtain ⟨hlt, hfits⟩ := h.prompt prompt hprompt r hr
    refine ⟨hlt.trans_le hstep.next_le, fun recipe hmem => ?_⟩
    obtain hmem | ⟨hfresh, -⟩ := hstep.mem_entries hmem
    · exact hfits recipe hmem
    · exact absurd hfresh hlt.ne
  intro prompt hprompt r hr
  cases hstep with
  | unprompt => cases hprompt
  | prompted opened hopened =>
    obtain rfl : opened = prompt := Option.some_inj.1 hprompt
    obtain ⟨recipe, hget, hfits⟩ := hopened r hr
    have hmem := RetryRecipeRegistry.mem_of_get hget
    refine ⟨h.taken _ hmem, fun recipe' hmem' => ?_⟩
    rwa [RetryRecipeRegistry.unique h.keys hmem' hmem]
  | stores opened hopened o =>
    obtain rfl : { opened with storeOperationId := some o } = prompt := Option.some_inj.1 hprompt
    exact hold opened hopened r hr
  | skip | cancel | issue | start | seed | drop => exact hold prompt hprompt r hr

theorem Sound.step {s s' : Shelf} (h : s.Sound) (hstep : Step s s') : s'.Sound where
  below := h.below_step hstep
  keys := h.keys_step hstep
  few := h.few_step hstep
  taken := h.taken_step hstep
  origin := h.origin_step hstep
  prompt := h.prompt_step hstep

theorem Sound.reaches {s s' : Shelf} (h : s.Sound) (hreaches : Reaches s s') : s'.Sound := by
  induction hreaches with
  | refl => exact h
  | tail _ hstep ih => exact ih.step hstep

end Shelf

end Dbotter.Ui
