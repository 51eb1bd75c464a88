import Dbotter.Program.Waiting
import Dbotter.Ui.AdmissionControl
import Dbotter.Ui.Evictions

/-!
Waiting in the controller cannot deadlock.

The controller is read as a desk of tokens. A control waits for the tokens of the tasks that it
cancelled, the completion of a mutation for those of the network tasks that it cancelled, and a
cleanup for none.
-/

namespace Dbotter.Ui
open Dbotter.Utf8 Dbotter.Configuration Dbotter.Service Dbotter.Drivers Dbotter.Program

/-! ## The desk of a controller -/

/-- The tokens that a task waits for. -/
def TaskWork.awaited : TaskWork → List Terminal
  | .command _ targets => targets
  | .completion _ waiters _ => waiters
  | .cleanup _ _ => []

/-- A task that was cancelled waits for tokens alone. -/
def SpawnedTask.isQuiet (task : SpawnedTask) : Bool := task.cancelled || task.work.isCleanup

/-- The tasks of a list that wait for tokens alone. -/
def quietTasks (tasks : List SpawnedTask) : Set Nat :=
  {id | ∃ task, tasks[id]? = some task ∧ SpawnedTask.isQuiet task}

namespace Controller

def desk (c : Controller) : Desk where
  held := (c.held.map fun entry => (entry.terminal, entry.join) : List (Nat × Nat))
  tokens := c.terminals.length
  closed := c.cancelled
  awaits := c.tasks.map (·.work.awaited)
  quiet := quietTasks c.tasks

/-- A step of the controller that is steps of its desk. -/
structure Carries (c c' : Controller) : Prop where
  keyed : c'.registry.Keyed
  steps : Desk.Steps c.desk c'.desk

variable {c c' c'' c₁ : Controller} {entry : RegistryEntry}

theorem Carries.trans (h : Carries c c') (h' : Carries c' c'') : Carries c c'' :=
  ⟨h'.keyed, h.steps.trans h'.steps⟩

theorem Carries.of_desk_eq (hkeyed : c'.registry.Keyed) (h : c'.desk = c.desk) : Carries c c' :=
  ⟨hkeyed, h ▸ .refl⟩

theorem mem_desk_held {t : Terminal} {id : TaskId} :
    (t, id) ∈ c.desk.held ↔ ∃ entry ∈ c.held, entry.terminal = t ∧ entry.join = id := by
  simp [desk, Multiset.mem_coe, List.mem_map]

theorem quietTasks_subset {tasks tasks' : List SpawnedTask} (h : Grows tasks tasks') :
    quietTasks tasks ⊆ quietTasks tasks' := by
  rintro id ⟨task, htask, hquiet⟩
  obtain ⟨task', htask', hages⟩ := h.ages id task htask
  refine ⟨task', htask', ?_⟩
  simp only [SpawnedTask.isQuiet, Bool.or_eq_true, hages.work] at hquiet ⊢
  exact hquiet.imp hages.cancelled fun hcleanup => hcleanup

/-- Steps of the desk up to who is quiet. -/
theorem steps_of_grows {d : Desk} (hgrows : Grows c.tasks c'.tasks)
    (h : Desk.Steps d { c'.desk with quiet := c.desk.quiet }) : Desk.Steps d c'.desk :=
  h.tail (.hush _ _ (quietTasks_subset hgrows))

theorem Carries.cancelTasks (hkeyed : c.registry.Keyed) (entries : List RegistryEntry) :
    Carries c (c.cancelTasks entries) := by
  refine ⟨hkeyed, steps_of_grows (c.cancelTasks_grows entries) ?_⟩
  have hawaits : (c.cancelTasks entries).desk.awaits = c.desk.awaits := by
    apply List.ext_getElem?
    intro id
    simp only [desk, Controller.cancelTasks, List.getElem?_map, List.getElem?_mapIdx,
      Option.map_map]
    cases c.tasks[id]? with
    | none => rfl
    | some task =>
      simp only [Option.map_some, Function.comp_apply]
      split <;> rfl
  have hdesk : { (c.cancelTasks entries).desk with quiet := c.desk.quiet } = c.desk :=
    Desk.ext rfl rfl rfl hawaits rfl
  rw [hdesk]

/-- The tasks of entries that are cancelled wait for tokens alone. -/
theorem quiet_cancelTasks (hsound : c.desk.Sound) {entries : List RegistryEntry}
    (hentry : entry ∈ entries) (hheld : entry ∈ c.held) :
    entry.join ∈ (c.cancelTasks entries).desk.quiet := by
  obtain ⟨-, tokens, htokens, -⟩ :=
    hsound.registered entry.terminal entry.join (mem_desk_held.2 ⟨entry, hheld, rfl, rfl⟩)
  simp only [desk, List.getElem?_map, Option.map_eq_some_iff] at htokens
  obtain ⟨task, htask, -⟩ := htokens
  refine ⟨{ task with cancelled := true }, ?_, rfl⟩
  have hany : entries.any (·.join == entry.join) = true :=
    List.any_eq_true.2 ⟨entry, hentry, by simp⟩
  simp only [Controller.cancelTasks, List.getElem?_mapIdx, htask, Option.map_some, hany, if_true]

/-- A task that is registered waits for tasks that were cancelled before. -/
theorem Carries.enter (hkeyed : c.registry.Keyed) {work : TaskWork}
    (htokens : ∀ t ∈ work.awaited, ∃ task, (t, task) ∈ c.desk.held ∧ task ∈ c.desk.quiet)
    (hfree : entry.operationId ∉ c.registry.entries) (hjoin : entry.join = c.tasks.length)
    (hterminal : entry.terminal = c.terminals.length) : Carries c (c.enter entry work) := by
  refine ⟨hkeyed.insert entry, steps_of_grows (.append ..) (.single ?_)⟩
  have hheld : (c.enter entry work).desk.held =
      (c.desk.tokens, c.desk.awaits.length) ::ₘ c.desk.held := by
    have hnew : (entry.terminal, entry.join) = (c.desk.tokens, c.desk.awaits.length) := by
      simp [desk, hterminal, hjoin]
    rw [← hnew]
    simp only [desk, Controller.enter, held]
    rw [TaskRegistry.values_insert hfree]
    exact Multiset.coe_eq_coe.2 (List.perm_middle.map _)
  have hdesk : { (c.enter entry work).desk with quiet := c.desk.quiet } = { c.desk with
      held := (c.desk.tokens, c.desk.awaits.length) ::ₘ c.desk.held
      tokens := c.desk.tokens + 1
      awaits := c.desk.awaits ++ [work.awaited] } :=
    Desk.ext hheld (by simp [desk, Controller.enter]) rfl (by simp [desk, Controller.enter]) rfl
  rw [hdesk]
  exact .enter _ _ htokens

/-- A task that is registered for entries that are cancelled in the same step. -/
theorem Carries.enterAfter (hkeyed : c.registry.Keyed) (hsound : c.desk.Sound)
    {entries : List RegistryEntry} (hentries : ∀ e ∈ entries, e ∈ c.held)
    (entry : RegistryEntry) (work : TaskWork)
    (hwork : work.awaited = entries.map (·.terminal))
    (hfree : entry.operationId ∉ c.registry.entries)
    (hjoin : entry.join = c.tasks.length) (hterminal : entry.terminal = c.terminals.length) :
    Carries c ((c.cancelTasks entries).enter entry work) := by
  have hcancelled := Carries.cancelTasks hkeyed entries
  refine hcancelled.trans (.enter (c := c.cancelTasks entries) hkeyed ?_ hfree ?_ hterminal)
  · intro t ht
    rw [hwork] at ht
    obtain ⟨e, he, rfl⟩ := List.mem_map.1 ht
    have hheld : (e.terminal, e.join) ∈ (c.cancelTasks entries).desk.held :=
      mem_desk_held.2 ⟨e, hentries e he, rfl, rfl⟩
    exact ⟨e.join, hheld, quiet_cancelTasks hsound he (hentries e he)⟩
  · rw [hjoin]
    exact (List.length_mapIdx ..).symm

/-! ## Entries in the hands of the controller -/

/-- One entry is out of the hands of the controller. -/
structure Handed (c c₁ : Controller) (entry : RegistryEntry) : Prop where
  keyed : c₁.registry.Keyed
  held : c.held.Perm (entry :: c₁.held)
  tokens : c₁.desk.tokens = c.desk.tokens
  closed : c₁.desk.closed = c.desk.closed
  awaits : c₁.desk.awaits = c.desk.awaits
  quiet : c₁.desk.quiet = c.desk.quiet

theorem Handed.held_eq (h : Handed c c₁ entry) :
    c.desk.held = (entry.terminal, entry.join) ::ₘ c₁.desk.held :=
  Multiset.coe_eq_coe.2 (h.held.map fun e => (e.terminal, e.join))

/-- Its token is cancelled. -/
theorem Handed.close (h : Handed c c₁ entry) (hkeyed : c'.registry.Keyed)
    (hdesk : c'.desk = { c₁.desk with closed := insert entry.terminal c₁.desk.closed }) :
    Carries c c' := by
  have hclose : c'.desk = { c.desk with
      held := c₁.desk.held
      closed := insert entry.terminal c.desk.closed } := by
    rw [hdesk]
    exact Desk.ext rfl h.tokens (congrArg (insert entry.terminal) h.closed) h.awaits h.quiet
  exact ⟨hkeyed, hclose ▸ .single (.close _ _ entry.join _ h.held_eq)⟩

/-- Its token goes on to the cleanup. -/
theorem Handed.cleanup (h : Handed c c₁ entry) (hfree : entry.operationId ∉ c₁.registry.entries) :
    Carries c (c₁.enterCleanup entry) := by
  refine ⟨h.keyed.insert (c₁.cleanupEntry entry), .single ?_⟩
  have hlength : c.desk.awaits.length = c₁.tasks.length := by
    rw [← h.awaits]
    exact List.length_map ..
  have hheld : (c₁.enterCleanup entry).desk.held =
      (entry.terminal, c₁.tasks.length) ::ₘ c₁.desk.held := by
    simp only [Controller.desk, enterCleanup, Controller.held]
    rw [TaskRegistry.values_insert hfree]
    exact Multiset.coe_eq_coe.2 (List.perm_middle.map _)
  have hquiet : (c₁.enterCleanup entry).desk.quiet = insert c₁.tasks.length c₁.desk.quiet := by
    ext id
    simp only [Controller.desk, enterCleanup, quietTasks, Set.mem_ofPred_eq, Set.mem_insert_iff,
      List.getElem?_append]
    split
    · rename_i hlt
      constructor
      · exact .inr
      · rintro (rfl | hquiet)
        · exact absurd hlt (Nat.lt_irrefl _)
        · exact hquiet
    · rename_i hge
      constructor
      · rintro ⟨task, htask, -⟩
        have hindex := (List.getElem?_eq_some_iff.1 htask).1
        simp only [List.length_singleton] at hindex
        exact .inl (by omega)
      · rintro (rfl | ⟨task, htask, -⟩)
        · exact ⟨_, by rw [Nat.sub_self]; rfl, rfl⟩
        · exact absurd (List.getElem?_eq_some_iff.1 htask).1 hge
  have hdesk : (c₁.enterCleanup entry).desk = { c.desk with
      held := (entry.terminal, c.desk.awaits.length) ::ₘ c₁.desk.held
      awaits := c.desk.awaits ++ [[]]
      quiet := insert c.desk.awaits.length c.desk.quiet } := by
    refine Desk.ext ?_ h.tokens h.closed ?_ ?_
    · rw [hheld, hlength]
    · rw [← h.awaits]
      simp [Controller.desk, enterCleanup, TaskWork.awaited]
    · rw [hquiet, hlength, h.quiet]
  rw [hdesk]
  exact .replace _ _ entry.join _ h.held_eq

/-- A failed task's token goes on, or is cancelled with the report. -/
theorem Handed.settleFailure (h : Handed c c₁ entry) (report : Bool) :
    Carries c (c₁.settleFailure entry report) := by
  have hgive : Carries c ((if report then c₁.emitInternalFailure entry.operationId entry.failure
      else c₁).cancelTerminal entry.terminal) := by
    cases report with
    | true => exact h.close h.keyed rfl
    | false => exact h.close h.keyed rfl
  simp only [Controller.settleFailure]
  split
  · exact hgive
  · cases hreserve : c₁.registry.reserve entry.operationId with
    | none =>
      simp only [startRegisteredFailureCleanup, hreserve]
      exact hgive
    | some registry =>
      rw [startRegisteredFailureCleanup_eq hreserve]
      exact h.cleanup (TaskRegistry.reserve_eq_some hreserve).1

theorem mem_values_of_waiter {registry : TaskRegistry} {output : TaskOutput}
    {configUncertain : Bool}
    (h : entry ∈ (mutationCompletionWaiters registry output configUncertain).1) :
    entry ∈ registry.values := by
  simp only [mutationCompletionWaiters] at h
  split at h
  · exact (List.mem_filter.1 h).1
  · obtain ⟨target, -, hmem⟩ := List.mem_flatMap.1 h
    exact (List.mem_filter.1 hmem).1

/-- A mutation gives up its token, and its completion gets one of its own. -/
theorem Handed.completion (h : Handed c c₁ entry) (hsound : c.desk.Sound) {output : TaskOutput}
    {configUncertain : Bool} {c₂ : Controller} {registered : Bool}
    (heq : c₁.startRegisteredMutationCompletion entry output configUncertain = (c₂, registered)) :
    Carries c (c₂.cancelTerminal entry.terminal) := by
  cases hreserve : c₁.registry.reserve entry.operationId with
  | none =>
    simp only [startRegisteredMutationCompletion, hreserve, Prod.mk.injEq] at heq
    obtain ⟨rfl, -⟩ := heq
    exact h.close h.keyed rfl
  | some registry =>
    obtain ⟨hfree, -, hregistry⟩ := TaskRegistry.reserve_eq_some hreserve
    simp only [startRegisteredMutationCompletion, hreserve] at heq
    rw [commitReservation_eq hreserve rfl, Prod.mk.injEq] at heq
    obtain ⟨rfl, -⟩ := heq
    let waiters := mutationCompletionWaiters registry output configUncertain
    have hclosed : Carries c (c₁.cancelTerminal entry.terminal) := h.close h.keyed rfl
    have hwaiters : ∀ e ∈ waiters.1, e ∈ (c₁.cancelTerminal entry.terminal).held := by
      intro e he
      have hmem := mem_values_of_waiter he
      rw [hregistry] at hmem
      exact List.mem_append_right _ hmem
    have hentered := Carries.enterAfter (c := c₁.cancelTerminal entry.terminal)
      hclosed.keyed (hclosed.steps.sound hsound) hwaiters
      ((c₁.cancelTasks waiters.1).newEntry entry.operationId entry.scope .mutation entry.failure)
      (.completion output (waiters.1.map RegistryEntry.terminal) waiters.2) rfl hfree
      (List.length_mapIdx ..) rfl
    exact hclosed.trans hentered

/-! ## Commands -/

/-- A command whose task waits for the entries that are cancelled for it. -/
theorem Carries.commit (hkeyed : c.registry.Keyed) (hsound : c.desk.Sound) {o : OperationId}
    {registry : TaskRegistry} (hreserve : c.registry.reserve o = some registry)
    (entries : List RegistryEntry) (hentries : ∀ e ∈ entries, e ∈ registry.values)
    (scope : TaskScope) (taskClass : TaskClass) (failure : FailureContext) (work : TaskWork)
    (hwork : work.awaited = entries.map (·.terminal)) :
    ∃ c', (({ c with registry } : Controller).cancelTasks entries).commitReservation o scope
      taskClass failure work = (c', true) ∧ Carries c c' := by
  obtain ⟨hfree, -, hregistry⟩ := TaskRegistry.reserve_eq_some hreserve
  refine ⟨_, commitReservation_eq hreserve rfl scope taskClass failure work, ?_⟩
  have hheld : ∀ e ∈ entries, e ∈ c.held := by
    intro e he
    have hmem := hentries e he
    rw [hregistry] at hmem
    exact List.mem_append_right _ hmem
  exact Carries.enterAfter hkeyed hsound hheld
    ((c.cancelTasks entries).newEntry o scope taskClass failure) work hwork hfree
    (List.length_mapIdx ..) rfl

theorem Carries.commitAlone (hkeyed : c.registry.Keyed) (hsound : c.desk.Sound) {o : OperationId}
    {registry : TaskRegistry} (hreserve : c.registry.reserve o = some registry) (scope : TaskScope)
    (taskClass : TaskClass) (failure : FailureContext) (command : UiCommand) :
    ∃ c', ({ c with registry } : Controller).commitReservation o scope taskClass failure
      (.command command []) = (c', true) ∧ Carries c c' := by
  have hcommit := Carries.commit hkeyed hsound hreserve [] nofun scope taskClass failure
    (.command command []) rfl
  rwa [cancelTasks_nil] at hcommit

theorem Carries.startWork (hkeyed : c.registry.Keyed) (hsound : c.desk.Sound)
    (command : UiCommand) (scope : TaskScope) (taskClass : TaskClass) (failure : FailureContext)
    (busy : UiEvent) (permits : Bool) :
    Carries c (c.startWork command scope taskClass failure busy permits) := by
  simp only [Controller.startWork]
  split
  · exact .of_desk_eq hkeyed rfl
  · rename_i registry hreserve
    split
    · obtain ⟨c', heq, hcarries⟩ :=
        Carries.commitAlone hkeyed hsound hreserve scope taskClass failure command
      rw [heq]
      exact hcarries
    · rw [TaskRegistry.release_of_reserve hreserve]
      exact .of_desk_eq hkeyed rfl

theorem Carries.startProfileWork (hkeyed : c.registry.Keyed) (hsound : c.desk.Sound)
    (command : UiCommand) (identity : RequestIdentity) (kind : OperationKind)
    (around : Surroundings) : Carries c (c.startProfileWork command identity kind around) := by
  simp only [Controller.startProfileWork]
  split
  · exact .of_desk_eq hkeyed rfl
  · exact .startWork hkeyed hsound ..

theorem Carries.startProfileControl (hkeyed : c.registry.Keyed) (hsound : c.desk.Sound)
    (command : UiCommand) (identity : RequestIdentity) (kind : OperationKind)
    (around : Surroundings) : Carries c (c.startProfileControl command identity kind around) := by
  simp only [Controller.startProfileControl]
  split
  · exact .of_desk_eq hkeyed rfl
  · rename_i registry hreserve
    split
    · have hcancelled := Carries.cancelTasks hkeyed (registry.values.filter
        (·.isNetworkOf identity.profileId identity.profileGeneration))
      simp only [Controller.cancelTasks, TaskRegistry.release_of_reserve hreserve]
      exact ⟨hkeyed, hcancelled.steps⟩
    · obtain ⟨c', heq, hcarries⟩ := Carries.commit hkeyed hsound hreserve
        (registry.values.filter (·.isNetworkOf identity.profileId identity.profileGeneration))
        (fun e he => (List.mem_filter.1 he).1)
        (.profile identity.profileId identity.profileGeneration around.session) .asyncNetwork
        (.profile identity.profileId identity.profileGeneration kind)
        (.command command _) rfl
      rw [heq]
      exact hcarries

theorem Carries.startMutation (hkeyed : c.registry.Keyed) (hsound : c.desk.Sound)
    (command : UiCommand) (around : Surroundings) :
    Carries c (c.startMutation command around).1 := by
  simp only [Controller.startMutation]
  split
  · exact .of_desk_eq hkeyed rfl
  · split
    · exact .of_desk_eq hkeyed rfl
    · rename_i registry hreserve
      split
      · rw [TaskRegistry.release_of_reserve hreserve]
        exact .of_desk_eq hkeyed rfl
      · rename_i scope failure _
        obtain ⟨c', heq, hcarries⟩ :=
          Carries.commitAlone hkeyed hsound hreserve scope .mutation failure command
        rw [heq]
        exact hcarries

theorem Carries.unlessUncertain (hkeyed : c.registry.Keyed) {handled : Controller}
    (h : Carries c handled) (command : UiCommand) (around : Surroundings) :
    Carries c (c.unlessUncertain command around handled) := by
  unfold Controller.unlessUncertain
  split
  · exact .of_desk_eq hkeyed rfl
  · exact h

theorem Carries.handle (hkeyed : c.registry.Keyed) (hsound : c.desk.Sound) (command : UiCommand)
    (around : Surroundings) : Carries c (c.handle command around) := by
  have hprofile := Carries.startProfileWork hkeyed hsound
  have hcontrol := Carries.startProfileControl hkeyed hsound
  have hmutation : ∀ command active,
      Carries c { (c.startMutation command around).1 with mutationActive := active } := by
    intro command active
    have hstarted := Carries.startMutation hkeyed hsound command around
    exact ⟨hstarted.keyed, hstarted.steps⟩
  cases command with
  | exportResult o resultId =>
    simp only [Controller.handle, startExportWork]
    split
    · exact .of_desk_eq hkeyed rfl
    · exact .startWork hkeyed hsound ..
  | prepareDraftConnectionTest o draftId =>
    exact .unlessUncertain hkeyed (.startWork hkeyed hsound ..) ..
  | testConnection identity timeoutMs => exact .unlessUncertain hkeyed (hprofile ..) ..
  | execute identity language text rowLimit timeoutMs =>
    exact .unlessUncertain hkeyed (hprofile ..) ..
  | browseCatalog request => exact .unlessUncertain hkeyed (hprofile ..) ..
  | scanRedisKeys request => exact .unlessUncertain hkeyed (hprofile ..) ..
  | inspectRedisKey request => exact .unlessUncertain hkeyed (hprofile ..) ..
  | cancelOperation o =>
    simp only [Controller.handle, cancelOperation]
    split
    · exact .cancelTasks hkeyed _
    · exact .of_desk_eq hkeyed rfl
  | disconnectProfile identity => exact .unlessUncertain hkeyed (hcontrol ..) ..
  | reconnectProfile identity timeoutMs =>
    refine .unlessUncertain hkeyed ?_ ..
    split
    · exact .of_desk_eq hkeyed rfl
    · exact hcontrol ..
  | shutdownRuntime o =>
    have hcancelled := Carries.cancelTasks hkeyed c.registry.values
    exact ⟨hcancelled.keyed, hcancelled.steps⟩
  | _ => exact hmutation ..

theorem Carries.takeCommand (hkeyed : c.registry.Keyed) (hsound : c.desk.Sound)
    (command : UiCommand) (around : Surroundings) : Carries c (c.takeCommand command around) := by
  have hhandled := Carries.handle hkeyed hsound command around
  unfold Controller.takeCommand
  split
  · exact hhandled
  · exact ⟨hhandled.keyed, hhandled.steps⟩

/-! ## The loop -/

theorem Handed.endMutation (h : Handed c c₁ entry) : Handed c (c₁.endMutation entry) entry :=
  ⟨h.keyed, h.held, h.tokens, h.closed, h.awaits, h.quiet⟩

theorem desk_setTask {id : TaskId} {task t' : SpawnedTask} (htask : c.tasks[id]? = some task)
    (hwork : t'.work = task.work) (hcancelled : t'.cancelled = task.cancelled) :
    (c.setTask id t').desk = c.desk := by
  obtain ⟨hlt, rfl⟩ := List.getElem?_eq_some_iff.1 htask
  refine Desk.ext rfl rfl rfl ?_ ?_
  · simp only [desk, setTask, List.map_set, hwork]
    apply List.ext_getElem?
    intro other
    by_cases hother : id = other
    · subst hother
      rw [List.getElem?_set_self (by simpa using hlt), List.getElem?_map, htask]
      rfl
    · rw [List.getElem?_set_ne hother]
  · ext other
    simp only [desk, setTask, quietTasks, Set.mem_ofPred_eq]
    by_cases hother : id = other
    · subst hother
      simp [List.getElem?_set_self hlt, htask, SpawnedTask.isQuiet, hwork, hcancelled]
    · rw [List.getElem?_set_ne hother]

theorem desk_abortTask (c : Controller) (id : TaskId) : (c.abortTask id).desk = c.desk := by
  unfold Controller.abortTask Controller.taskStep
  split
  · rename_i task htask
    split
    · exact desk_setTask htask rfl rfl
    · rfl
  · rfl

theorem Handed.abortTask (h : Handed c c₁ entry) (id : TaskId) :
    Handed c (c₁.abortTask id) entry := by
  have hdesk := c₁.desk_abortTask id
  obtain ⟨tasks, htasks⟩ := c₁.abortTask_frame id
  have hregistry : (c₁.abortTask id).registry = c₁.registry := by rw [htasks]
  have hheld : (c₁.abortTask id).held = c₁.held := by rw [htasks]; rfl
  refine ⟨hregistry ▸ h.keyed, hheld ▸ h.held, ?_, ?_, ?_, ?_⟩
  · rw [hdesk, h.tokens]
  · rw [hdesk, h.closed]
  · rw [hdesk, h.awaits]
  · rw [hdesk, h.quiet]

/-- What is in the hands of the controller besides the entry stays there. -/
theorem Handed.of_stage {rest : List RegistryEntry} {stage : Stage} (hkeyed : c.registry.Keyed)
    (hhand : c.stage.inHand = entry :: rest) (hstage : stage.inHand = rest) :
    Handed c { c with stage } entry where
  keyed := hkeyed
  held := by
    simp only [Controller.held, hhand, hstage]
    exact .refl _
  tokens := rfl
  closed := rfl
  awaits := rfl
  quiet := rfl

theorem Carries.finishJoined {output : TaskOutput} (hkeyed : c.registry.Keyed)
    (hsound : c.desk.Sound) (hstage : c.stage = .joining entry output) (configUncertain : Bool)
    (event : UiEvent) :
    Carries c (({ c with stage := .idle } : Controller).finishJoined entry output configUncertain
      event) := by
  have hhanded : Handed c { c with stage := .idle } entry :=
    .of_stage hkeyed (by rw [hstage]; rfl) rfl
  unfold Controller.finishJoined
  split
  · split <;> rename_i heq
    · have hcompletion := hhanded.completion hsound heq
      exact ⟨hcompletion.keyed, hcompletion.steps⟩
    · have hcompletion := hhanded.completion hsound heq
      exact ⟨hcompletion.keyed, hcompletion.steps⟩
  · exact hhanded.endMutation.close hkeyed rfl

theorem Carries.advance (hkeyed : c.registry.Keyed) (hsound : c.desk.Sound)
    (configUncertain : Bool) (event : UiEvent) : Carries c (c.advance configUncertain event) := by
  unfold Controller.advance
  split
  · exact .of_desk_eq hkeyed rfl
  · rename_i entry output hstage
    have hhanded : Handed c { c with stage := .idle } entry :=
      .of_stage hkeyed (by rw [hstage]; rfl) rfl
    split
    · exact .of_desk_eq hkeyed rfl
    · exact hhanded.endMutation.settleFailure true
    · split
      · exact .finishJoined hkeyed hsound hstage ..
      · exact .of_desk_eq hkeyed rfl
  · rename_i hstage
    refine .of_desk_eq hkeyed (Desk.ext ?_ rfl rfl rfl rfl)
    simp only [desk, held, hstage]
    rfl
  · rename_i hstage
    refine .of_desk_eq hkeyed (Desk.ext ?_ rfl rfl rfl rfl)
    simp only [desk, held, hstage]
    rfl
  · rename_i entry rest hstage
    have hhanded : Handed c { c with stage := .reaping rest } entry :=
      .of_stage hkeyed (by rw [hstage]; rfl) rfl
    exact hhanded.endMutation.settleFailure _
  · rename_i entry rest hstage
    have hhanded : Handed c { c with stage := .aborting rest } entry :=
      .of_stage hkeyed (by rw [hstage]; rfl) rfl
    exact (hhanded.abortTask entry.join).settleFailure true

theorem Carries.of_held_perm {registry : TaskRegistry} {stage : Stage} (hkeyed : registry.Keyed)
    (h : (stage.inHand ++ registry.values).Perm c.held) (messages : List ControllerMessage) :
    Carries c { c with registry, stage, messages } :=
  .of_desk_eq hkeyed
    (Desk.ext (Multiset.coe_eq_coe.2 (h.map fun e => (e.terminal, e.join))) rfl rfl rfl rfl)

/-- The session of an entry does not change under which token its task stands. -/
theorem Carries.updateSession (hkeyed : c.registry.Keyed) (o : OperationId)
    (sessionGeneration : SessionGeneration) (messages : List ControllerMessage) :
    Carries c { c with registry := c.registry.updateSession o sessionGeneration, messages } := by
  rcases c.registry.updateSession_cases o sessionGeneration with
    heq | ⟨entry, profileId, profileGeneration, session, hlookup, -, heq⟩
  · rw [heq]
    exact .of_desk_eq hkeyed rfl
  · obtain rfl := hkeyed o entry hlookup
    let replaced : RegistryEntry :=
      { entry with scope := .profile profileId profileGeneration (some sessionGeneration) }
    obtain ⟨rest, hperm, hvalues⟩ := TaskRegistry.values_replace hlookup replaced
    rw [heq]
    refine .of_desk_eq (hkeyed.insert replaced) (Desk.ext ?_ rfl rfl rfl rfl)
    have hcells : ∀ values, values = replaced :: rest →
        (c.stage.inHand ++ values).map (fun e => (e.terminal, e.join)) =
          (c.stage.inHand ++ entry :: rest).map fun e => (e.terminal, e.join) := by
      rintro _ rfl
      simp [replaced]
    refine Multiset.coe_eq_coe.2 (List.Perm.trans (.of_eq (hcells _ hvalues)) ?_)
    exact (hperm.symm.append_left _).map _

theorem Carries.receive (hkeyed : c.registry.Keyed) (hidle : c.idle) : Carries c c.receive := by
  have hhand : c.stage.inHand = [] := by
    simp only [Controller.idle] at hidle
    split at hidle
    · rename_i hstage
      rw [hstage]
      rfl
    · cases hidle
  unfold Controller.receive
  split
  · exact .of_desk_eq hkeyed rfl
  · exact .updateSession hkeyed ..
  · rename_i o output rest _
    unfold TaskRegistry.take
    cases hlookup : c.registry.entries.lookup o with
    | none => exact .of_desk_eq hkeyed rfl
    | some entry =>
      refine .of_held_perm hkeyed.erase ?_ rest
      simp only [held, hhand]
      exact (TaskRegistry.values_perm_erase hlookup).symm

theorem Carries.takeWhere (hkeyed : c.registry.Keyed) (hidle : c.idle)
    (test : RegistryEntry → Bool) {stage : Stage}
    (hstage : stage.inHand = (c.registry.takeWhere test).1) :
    Carries c { c with registry := (c.registry.takeWhere test).2, stage } := by
  have hhand : c.stage.inHand = [] := by
    simp only [Controller.idle] at hidle
    split at hidle
    · rename_i hstage
      rw [hstage]
      rfl
    · cases hidle
  obtain ⟨hvalues, hkeyed'⟩ := TaskRegistry.takeWhere_values hkeyed test
  refine .of_held_perm hkeyed' ?_ c.messages
  rw [hstage]
  simp only [held, hhand]
  exact hvalues.symm

/-! ## Steps -/

theorem Carries.taskStep (hkeyed : c.registry.Keyed) (id : TaskId)
    {act : SpawnedTask → Controller}
    (hact : ∀ task, c.tasks[id]? = some task → Carries c (act task)) :
    Carries c (c.taskStep id act) := by
  unfold Controller.taskStep
  split
  · split
    · exact hact _ ‹_›
    · exact .of_desk_eq hkeyed rfl
  · exact .of_desk_eq hkeyed rfl

theorem Carries.step (hkeyed : c.registry.Keyed) (hsound : c.desk.Sound) (action : Action) :
    Carries c (c.step action) := by
  have hrest : Carries c c := .of_desk_eq hkeyed rfl
  cases action with
  | command command around =>
    simp only [Controller.step]
    split
    · exact .takeCommand hkeyed hsound command around
    · exact hrest
  | portClosed =>
    simp only [Controller.step]
    split
    · have hcancelled := Carries.cancelTasks hkeyed c.registry.values
      exact ⟨hcancelled.keyed, hcancelled.steps⟩
    · exact hrest
  | receive =>
    simp only [Controller.step]
    split
    · exact .receive hkeyed ‹_›
    · exact hrest
  | reap =>
    simp only [Controller.step]
    split
    · exact .takeWhere hkeyed ‹_› _ rfl
    · exact hrest
  | deadline =>
    simp only [Controller.step, Bool.and_eq_true]
    split
    · rename_i hidle
      exact .takeWhere hkeyed hidle.1.1 _ rfl
    · exact hrest
  | advance configUncertain event => exact .advance hkeyed hsound configUncertain event
  | stop =>
    simp only [Controller.step]
    split
    · split
      · exact .of_desk_eq hkeyed rfl
      · exact hrest
    · exact hrest
  | acquire id sessionGeneration =>
    refine .taskStep hkeyed id fun task _ => ?_
    split
    · exact hrest
    · unfold Controller.acquire
      split
      · exact .of_desk_eq hkeyed rfl
      · exact hrest
  | evict id cached =>
    refine .taskStep hkeyed id fun task htask => ?_
    unfold Controller.evict
    split
    · split
      · exact hrest
      · exact .of_desk_eq hkeyed (desk_setTask htask rfl rfl)
    · exact hrest
  | complete id output =>
    refine .taskStep hkeyed id fun task htask => ?_
    split
    · exact hrest
    · unfold Controller.complete
      split
      · exact .of_desk_eq hkeyed (desk_setTask htask rfl rfl)
      · exact hrest
  | finish id panicked =>
    refine .taskStep hkeyed id fun task htask => ?_
    unfold Controller.finish
    split
    · exact .of_desk_eq hkeyed (desk_setTask htask rfl rfl)
    · split
      · exact .of_desk_eq hkeyed (desk_setTask htask rfl rfl)
      · exact hrest

end Controller

end Dbotter.Ui
