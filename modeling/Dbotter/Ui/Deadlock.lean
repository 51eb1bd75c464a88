import Dbotter.Ui.Waiting

/-!
The tasks of the controller with their tokens and permits: who waits for whom.
-/

namespace Dbotter.Ui
open Dbotter.Utf8 Dbotter.Configuration Dbotter.Service Dbotter.Drivers Dbotter.Program

namespace Admission

variable {s : Admission} {a b : TaskId}

/-! ## The desk along a run -/

theorem step_steps (hkeyed : s.controller.registry.Keyed) (hsound : s.controller.desk.Sound)
    (action : Action) : Controller.Carries s.controller (s.step action).controller := by
  have hrest : Controller.Carries s.controller s.controller := .of_desk_eq hkeyed rfl
  have hstep : ∀ action, Controller.Carries s.controller
      ({ s with controller := s.controller.step action } : Admission).controller :=
    Controller.Carries.step hkeyed hsound
  cases action with
  | controller action =>
    simp only [step, dropFailed]
    cases action with
    | command command around =>
      simp only [controllerStep]
      split
      · obtain ⟨permits, heq⟩ := s.takeCommand_controller command around
        rw [heq]
        exact .takeCommand hkeyed hsound ..
      · exact hrest
    | complete id output =>
      simp only [controllerStep]
      split
      · exact hrest
      · exact hstep _
    | _ => exact hstep _
  | acquire id key =>
    simp only [step]
    split
    · exact hrest
    · exact hrest
  | release id key => exact hrest
  | prune =>
    simp only [step]
    split
    · exact hrest
    · exact hrest

theorem run_desk (actions : List Action) :
    (run actions).controller.registry.Keyed ∧ (run actions).controller.desk.Sound := by
  induction actions using List.reverseRecOn with
  | nil =>
    refine ⟨fun _ _ h => (nomatch h), ?_⟩
    have hempty : (run []).controller.desk = {} :=
      Desk.ext rfl rfl rfl rfl (by ext id; simp [run, Controller.desk, quietTasks])
    rw [hempty]
    exact Desk.sound_empty
  | append_singleton actions action ih =>
    rw [run_snoc]
    have hcarries := step_steps ih.1 ih.2 action
    exact ⟨hcarries.keyed, hcarries.steps.sound ih.2⟩

/-! ## Who waits for whom -/

/-- The first task waits for the second: for its token, or for a permit that it has. A control that
is cancelled waits for tokens only. Of a profile or a draft there is one permit, so that whoever
has it is waited for; a global permit is waited for where the task that has it was cancelled. -/
inductive WaitsFor (s : Admission) (a b : TaskId) : Prop
  | token (task : SpawnedTask) (entry : RegistryEntry)
      (htask : s.controller.tasks[a]? = some task) (hrunning : task.status = .running)
      (hsent : task.completionSent = false) (hawaited : entry.terminal ∈ task.work.awaited)
      (hopen : entry.terminal ∉ s.controller.cancelled)
      (hentry : entry ∈ s.controller.held) (hjoin : entry.join = b)
  | permit (task : SpawnedTask) (waited granted : Grip PermitKey TaskId)
      (htask : s.controller.tasks[a]? = some task) (hcancelled : task.cancelled = false)
      (hwaited : waited ∈ s.permits.grips) (howner : waited.owner = a)
      (hwaiting : waited.permit = false)
      (hgranted : granted ∈ s.permits.grips) (hholder : granted.owner = b)
      (hholding : granted.permit = true) (hkey : granted.key = waited.key)
      (htarget : waited.key = .network →
        ∃ entry ∈ s.controller.held, entry.terminal ∈ task.work.awaited ∧ entry.join = b)

/-- The first task waits for the only permit of a key, which the second one has. -/
def AwaitsPermit (s : Admission) (a b : TaskId) : Prop :=
  ∃ task waited granted, s.controller.tasks[a]? = some task ∧ task.cancelled = false ∧
    waited ∈ s.permits.grips.filter (·.key != .network) ∧ waited.owner = a ∧
    waited.permit = false ∧
    granted ∈ s.permits.grips.filter (·.key != .network) ∧ granted.owner = b ∧
    granted.permit = true

theorem desk_awaits {task : SpawnedTask} {entry : RegistryEntry}
    (htask : s.controller.tasks[a]? = some task) (hentry : entry ∈ s.controller.held)
    (hawaited : entry.terminal ∈ task.work.awaited) (hjoin : entry.join = b) :
    s.controller.desk.Awaits a b := by
  refine ⟨task.work.awaited, entry.terminal, ?_, hawaited, ?_⟩
  · simp [Controller.desk, htask]
  · exact Controller.mem_desk_held.2 ⟨entry, hentry, rfl, hjoin⟩

theorem WaitsFor.cases (h : WaitsFor s a b) :
    s.controller.desk.Awaits a b ∨ s.AwaitsPermit a b := by
  cases h with
  | token task entry htask _ _ hawaited _ hentry hjoin =>
    exact .inl (desk_awaits htask hentry hawaited hjoin)
  | permit task waited granted htask hcancelled hwaited howner hwaiting hgranted hholder hholding
      hkey htarget =>
    by_cases hnetwork : waited.key = .network
    · obtain ⟨entry, hentry, hawaited, hjoin⟩ := htarget hnetwork
      exact .inl (desk_awaits htask hentry hawaited hjoin)
    · refine .inr ⟨task, waited, granted, htask, hcancelled, ?_, howner, hwaiting, ?_, hholder,
        hholding⟩
      · exact List.mem_filter.2 ⟨hwaited, by simpa using hnetwork⟩
      · exact List.mem_filter.2 ⟨hgranted, by simpa [hkey] using hnetwork⟩

/-- Whoever is waited for does not wait for the only permit of a key. -/
theorem not_awaitsPermit (hsound : s.controller.desk.Sound) (hadmitted : s.Admitted)
    {waiting : TaskId} (h : s.controller.desk.Awaits waiting a ∨ s.AwaitsPermit waiting a) :
    ¬s.AwaitsPermit a b := by
  rintro ⟨task, waited, -, htask, hcancelled, hwaited, rfl, hwaiting, -⟩
  rcases h with hawaits | ⟨-, -, granted, -, -, -, -, -, hgranted, howner, hholding⟩
  · -- A task whose token is awaited was cancelled, or is a cleanup, which has no permits.
    obtain ⟨quiet, hfound, hquiet⟩ := hsound.awaits_quiet hawaits
    obtain ⟨working, hworking, -, -, command, targets, hwork⟩ :=
      hadmitted.working waited (List.mem_filter.1 hwaited).1
    obtain rfl : quiet = task := Option.some.inj (hfound.symm.trans htask)
    obtain rfl : working = quiet := Option.some.inj (hworking.symm.trans hfound)
    simp [SpawnedTask.isQuiet, hcancelled, hwork, TaskWork.isCleanup] at hquiet
  · -- A task points to one profile's semaphore at most.
    have hsame := List.inj_on_of_nodup_map hadmitted.single hgranted hwaited howner
    rw [hsame, hwaiting] at hholding
    cases hholding

theorem acyclic (hsound : s.controller.desk.Sound) (hadmitted : s.Admitted) (id : TaskId) :
    ¬Relation.TransGen (WaitsFor s) id id := by
  have hunion := acyclic_or hsound.acyclic
    (fun _ _ _ hled => not_awaitsPermit hsound hadmitted hled) id
  intro hcycle
  exact hunion (Relation.TransGen.mono (fun _ _ hwaits => hwaits.cases) _ _ hcycle)

/-! ## Waiting comes to an end -/

/-- What keeps a task of the controller from waiting forever. -/
structure Deadlockless (s : Admission) : Prop where
  acyclic : ∀ id, ¬Relation.TransGen (WaitsFor s) id id
  /-- A token that is waited for is cancelled, or an entry has it: in the registry, or in the hands
  of the controller for the rest of its turn. -/
  awaited : ∀ task ∈ s.controller.tasks, ∀ t ∈ task.work.awaited,
    t ∈ s.controller.cancelled ∨ ∃ entry ∈ s.controller.held, entry.terminal = t
  /-- Whatever becomes of an entry, its token goes to another one or is cancelled. -/
  carried : ∀ action, ∀ entry ∈ s.controller.held,
    entry.terminal ∈ (s.step action).controller.cancelled ∨
      ∃ entry' ∈ (s.step action).controller.held, entry'.terminal = entry.terminal
  cancelled : ∀ action, s.controller.cancelled ⊆ (s.step action).controller.cancelled

theorem exists_held {c : Controller} {t : Terminal} :
    (∃ task, (t, task) ∈ c.desk.held) ↔ ∃ entry ∈ c.held, entry.terminal = t := by
  constructor
  · rintro ⟨task, hheld⟩
    obtain ⟨entry, hentry, hterminal, -⟩ := Controller.mem_desk_held.1 hheld
    exact ⟨entry, hentry, hterminal⟩
  · rintro ⟨entry, hentry, hterminal⟩
    exact ⟨entry.join, Controller.mem_desk_held.2 ⟨entry, hentry, hterminal, rfl⟩⟩

/-- In every reachable state the waiting has no cycle, and no token is ever lost. -/
theorem waiting_never_deadlocks (actions : List Action) : Deadlockless (run actions) := by
  obtain ⟨hkeyed, hsound⟩ := run_desk actions
  constructor
  case acyclic => exact acyclic hsound (run_admitted actions)
  case awaited =>
    intro task htask t ht
    have hawaits : task.work.awaited ∈ (run actions).controller.desk.awaits :=
      List.mem_map_of_mem htask
    have hmade := (hsound.awaited _ hawaits t ht).1
    exact (hsound.accounted t hmade).imp id exists_held.1
  case carried =>
    intro action entry hentry
    have hsteps := (step_steps hkeyed hsound action).steps
    exact (hsteps.carries (.inr (exists_held.2 ⟨entry, hentry, rfl⟩))).imp id exists_held.1
  case cancelled =>
    intro action t ht
    exact (step_steps hkeyed hsound action).steps.closed ht

/-- A disconnection waits for the connection that it has cancelled. -/
example :
    let profileId : ProfileId := "p".toList
    WaitsFor (run [.controller (.command (.testConnection ⟨profileId, 1, 5⟩ 1000) {}),
      .controller (.command (.disconnectProfile ⟨profileId, 1, 6⟩) {})]) 1 0 :=
  let connection : RegistryEntry :=
    ⟨5, .profile "p".toList 1 none, 0, .asyncNetwork, .profile "p".toList 1 .connectProfile, 0,
      false⟩
  .token _ connection rfl rfl rfl (by decide +kernel) (by decide +kernel) (.tail _ (.head _)) rfl

end Admission

end Dbotter.Ui
