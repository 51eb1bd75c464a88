import Dbotter.Ui.KeyRelease

/-!
Both ends of the port over the controller: how control commands are merged under their keys.

The desktop inserts a key and sends its command in two steps, and the controller takes the
command, answers it and releases its key in steps of its own.
-/

namespace Dbotter.Ui
open Dbotter.Utf8 Dbotter.Service Dbotter.Drivers Dbotter.Program

/-! ## The wire -/

instance (around : Surroundings) : Decidable around.Proper :=
  inferInstanceAs (Decidable (_ ∨ _))

/-- The port and the controller. `submitting` is a control command whose key is inserted and
which is not sent yet, `handling` one that the controller took off its lane, and `refused` the
key of one that was refused and not released yet. `answering` records the key of each operation
that the controller took. -/
structure Wire where
  port : UiPort := {}
  submitting : Option UiCommand := none
  handling : Option UiCommand := none
  refused : Option ControlKey := none
  controller : Controller := {}
  answering : List (OperationId × Option ControlKey) := []

inductive Signal
  | submit (command : UiCommand)
  | send
  | drainEvents (limit : Nat)
  | pop
  | handle (around : Surroundings)
  | release
  | take (lane : CommandLane) (around : Surroundings)
  | portClosed
  | controller (action : Controller.Action)

namespace Wire

/-- `try_submit` up to the send: a control command under a key that is still held is answered
`Ok` at once. -/
def submit (w : Wire) (command : UiCommand) : Wire :=
  match command.lane, command.controlKey with
  | .control, some key =>
    if key ∈ w.port.controlKeys then
      { w with port := { w.port with merged := w.port.merged ++ [command] } }
    else
      { w with
        port := { w.port with controlKeys := insert key w.port.controlKeys }
        submitting := some command }
  | .control, none => w
  | _, _ =>
    match w.port.trySubmit command with
    | .ok port => { w with port }
    | .error _ => w

/-- `try_send` on the control lane. The key is removed where it fails. -/
def send (w : Wire) (command : UiCommand) : Wire :=
  match w.port.control.trySend command with
  | .ok control =>
    { w with port := { w.port with control, sent := w.port.sent ++ [command] }, submitting := none }
  | .error _ =>
    { w with
      port := command.controlKey.elim w.port w.port.releaseControlKey
      submitting := none }

/-- The loop of the controller is between two turns. -/
def free (w : Wire) : Bool :=
  w.handling.isNone && w.refused.isNone && w.controller.idle && w.controller.shutdown.isNone

/-- The control key of the operation that a step of the controller takes. -/
def takenKey : Controller.Action → Option ControlKey
  | .command command _ => command.ownKey
  | _ => none

/-- A step of the controller. What it gives to `try_emit` goes to the port. -/
def drive (w : Wire) (action : Controller.Action) : Wire :=
  let controller := w.controller.step action
  { w with
    controller
    port := (controller.attempts.drop w.controller.attempts.length).foldl UiPort.tryEmit w.port
    answering := w.answering ++ (w.controller.takenBy action).map (·, takenKey action) }

/-- `handle_control`. The refusal of a command is emitted before its key is released; a
cancellation of an operation that is not registered releases its key. -/
def handleControl (w : Wire) (command : UiCommand) (around : Surroundings) : Wire :=
  let driven := { w with handling := none }.drive (.command command around)
  match command with
  | .cancelOperation operationId =>
    if operationId ∈ w.controller.registry.entries then driven
    else { driven with port := driven.port.releaseControlKey (.cancel operationId) }
  | _ => { driven with refused := if around.configUncertain then command.controlKey else none }

/-- The head of a lane, or the shutdown, is taken off the port and handled. -/
def take (w : Wire) (lane : CommandLane) (around : Surroundings) : Wire :=
  match lane with
  | .work =>
    match w.port.work.queue.head? with
    | some command => { w with port := w.port.receive .work }.drive (.command command around)
    | none => w
  | .mutation =>
    match w.port.mutation.queue.head? with
    | some command =>
      if w.controller.mutationActive then w
      else { w with port := w.port.receive .mutation }.drive (.command command around)
    | none => w
  | .shutdown =>
    match w.port.shutdown with
    | some operationId =>
      { w with port := w.port.closeAndDrain }.drive
        (.command (.shutdownRuntime operationId) around)
    | none => w
  | .control => w

/-- A control never ends with the refusal of its operation. -/
def mayComplete (c : Controller) (id : TaskId) (output : TaskOutput) : Bool :=
  match c.tasks[id]? with
  | some { work := .command command _, .. } => command.ownKey.isNone || !Controller.refuses output
  | _ => true

/-- A step of the controller that takes no command. The tasks go on while a command is handled. -/
def proceed (w : Wire) (action : Controller.Action) : Wire :=
  match action with
  | .command _ _ | .portClosed => w
  | .receive | .reap | .deadline | .advance _ _ | .stop =>
    if w.handling.isNone && w.refused.isNone then w.drive action else w
  | .complete id output => if mayComplete w.controller id output then w.drive action else w
  | .acquire _ _ | .evict _ _ | .finish _ _ => w.drive action

def step (w : Wire) : Signal → Wire
  | .submit command => if w.submitting.isNone then w.submit command else w
  | .send => w.submitting.elim w w.send
  | .drainEvents limit => { w with port := (w.port.drainEvents limit).2 }
  | .pop =>
    if w.free then { w with port := w.port.receive .control, handling := w.port.control.queue.head? }
    else w
  | .handle around =>
    if around.Proper then w.handling.elim w (w.handleControl · around) else w
  | .release =>
    w.refused.elim w fun key => { w with port := w.port.releaseControlKey key, refused := none }
  | .take lane around => if w.free ∧ around.Proper then w.take lane around else w
  | .portClosed =>
    if w.free then { w with port := w.port.closeAndDrain }.drive .portClosed else w
  | .controller action => w.proceed action

def run (signals : List Signal) : Wire := signals.foldl step {}

theorem run_snoc (signals : List Signal) (signal : Signal) :
    run (signals ++ [signal]) = (run signals).step signal :=
  List.foldl_concat ..

/-- The two steps of a submission that nothing comes between are `try_submit`. -/
theorem submit_send {w : Wire} {command : UiCommand} (hlane : command.lane = .control)
    (hsubmitting : w.submitting = none) {port : UiPort}
    (h : w.port.trySubmit command = .ok port) :
    ((w.step (.submit command)).step .send).port = port := by
  cases hkey : command.controlKey with
  | none => simp [UiPort.trySubmit, hlane, hkey] at h
  | some key =>
    simp only [UiPort.trySubmit, hlane, hkey] at h
    simp only [step, submit, hsubmitting, hlane, hkey, Option.isNone_none, if_true]
    split at h
    · rename_i hmem
      cases h
      simp [if_pos hmem]
    · rename_i hmem
      simp only [if_neg hmem, Option.elim_some, send]
      cases hsend : w.port.control.trySend command with
      | error error => rw [hsend] at h; cases h
      | ok control =>
        rw [hsend] at h
        cases h
        rfl

/-! ## What a key is held for -/

/-- A control command of the key is submitted, queued or handled. -/
def Pending (w : Wire) (key : ControlKey) : Prop :=
  ∃ command, (w.submitting = some command ∨ command ∈ w.port.control.queue ∨
    w.handling = some command) ∧ command.controlKey = some key

/-- The target of the key, or the operation of a command of the key, is registered and was not
answered yet. -/
def Working (c : Controller) (key : ControlKey) : Prop :=
  ∃ entry ∈ c.held, entry.operationId ∉ c.answered ∧
    (key = .cancel entry.operationId ∨ entry.failure.ownKey = some key)

def InFlight (w : Wire) (key : ControlKey) : Prop := w.Pending key ∨ Working w.controller key

/-- No key is held for nothing. -/
def Coalesces (w : Wire) : Prop := ∀ key ∈ w.port.controlKeys, w.InFlight key

/-- The step neither refuses a control nor closes the port over a control that is queued. -/
def Spares (w : Wire) : Signal → Prop
  | .handle around =>
    around.configUncertain → ∀ command, w.handling = some command → command.ownKey = none
  | .take .shutdown _ | .portClosed => w.free → w.port.control.queue = []
  | _ => True

/-! ## Events and keys -/

theorem mem_releaseForEvent {port : UiPort} {event : UiEvent} {key : ControlKey}
    (h : key ∈ (port.releaseForEvent event).controlKeys) :
    key ∈ port.controlKeys ∧ key ≠ .cancel event.operationId ∧
      UiPort.releasedKey event ≠ some key := by
  simp only [UiPort.releaseForEvent] at h
  cases hreleased : UiPort.releasedKey event with
  | none =>
    rw [hreleased] at h
    have hmem := Finset.mem_erase.1 h
    exact ⟨hmem.2, hmem.1, nofun⟩
  | some other =>
    rw [hreleased] at h
    have hmem := Finset.mem_erase.1 h
    have hcancel := Finset.mem_erase.1 hmem.2
    exact ⟨hcancel.2, hcancel.1, fun heq => hmem.1 (Option.some.inj heq).symm⟩

theorem tryEmit_controlKeys (port : UiPort) (event : UiEvent) :
    (port.tryEmit event).controlKeys = (port.releaseForEvent event).controlKeys := by
  simp only [UiPort.tryEmit]
  split <;> rfl

/-- An event changes the keys and the events of the port. -/
theorem tryEmit_frame (port : UiPort) (event : UiEvent) :
    ∃ controlKeys events, port.tryEmit event = { port with controlKeys, events } := by
  have hreleased : ∃ controlKeys, port.releaseForEvent event = { port with controlKeys } := by
    simp only [UiPort.releaseForEvent]
    cases UiPort.releasedKey event <;> exact ⟨_, rfl⟩
  obtain ⟨controlKeys, hreleased⟩ := hreleased
  simp only [UiPort.tryEmit, hreleased]
  split
  · exact ⟨_, _, rfl⟩
  · exact ⟨_, _, rfl⟩

/-- A key that is left after these events is released by none of them. -/
theorem mem_emitted {events : List UiEvent} {port : UiPort} {key : ControlKey}
    (h : key ∈ (events.foldl UiPort.tryEmit port).controlKeys) :
    key ∈ port.controlKeys ∧ ∀ event ∈ events, key ≠ .cancel event.operationId ∧
      UiPort.releasedKey event ≠ some key := by
  induction events generalizing port with
  | nil => exact ⟨h, fun _ hmem => (nomatch hmem)⟩
  | cons event events ih =>
    obtain ⟨hkey, hevents⟩ := ih h
    rw [tryEmit_controlKeys] at hkey
    obtain ⟨hmem, hrest⟩ := mem_releaseForEvent hkey
    refine ⟨hmem, fun other hother => ?_⟩
    rcases List.mem_cons.1 hother with rfl | hlater
    · exact hrest
    · exact hevents other hlater

theorem emitted_frame (events : List UiEvent) (port : UiPort) :
    ∃ controlKeys left, events.foldl UiPort.tryEmit port =
      { port with controlKeys, events := left } := by
  induction events generalizing port with
  | nil => exact ⟨_, _, rfl⟩
  | cons event events ih =>
    obtain ⟨controlKeys, left, htry⟩ := tryEmit_frame port event
    obtain ⟨controlKeys', left', hrest⟩ := ih (port.tryEmit event)
    refine ⟨controlKeys', left', ?_⟩
    rw [List.foldl_cons, hrest, htry]

/-! ## A step of the controller -/

variable {K : OperationId → Option ControlKey} {w : Wire} {key : ControlKey}

/-- The controller holds an entry that the key is for. -/
def Registered (c : Controller) (key : ControlKey) : Prop :=
  ∃ entry ∈ c.held, key = .cancel entry.operationId ∨ entry.failure.ownKey = some key

theorem Registered.working {c : Controller} (h : Registered c key) (hsound : c.ledger.Sound) :
    Working c key := by
  obtain ⟨entry, hentry, hfor⟩ := h
  have hslip : entry.slip ∈ c.ledger.held := Multiset.mem_coe.2 (List.mem_map_of_mem hentry)
  exact ⟨entry, hentry, (hsound.held_open _ hslip).1, hfor⟩

/-- An event that answers an operation releases the keys that are held for it. -/
theorem not_mem_of_answered {c c' : Controller} (hspeaks : c'.Speaks K)
    (hpre : c.answered <+: c'.answered) {o : OperationId} (hbefore : o ∉ c.answered)
    (hafter : o ∈ c'.answered) {port : UiPort} (hkey : key = .cancel o ∨ K o = some key) :
    key ∉ ((c'.attempts.drop c.attempts.length).foldl UiPort.tryEmit port).controlKeys := by
  intro hmem
  obtain ⟨-, hevents⟩ := mem_emitted hmem
  obtain ⟨event, hevent, rfl⟩ := List.mem_map.1 hafter
  have hnew : event ∈ c'.attempts.drop c.attempts.length := by
    rw [← List.take_append_drop c.attempts.length c'.attempts, List.mem_append] at hevent
    refine hevent.resolve_left fun hold => hbefore ?_
    have htake : c'.answered.take c.answered.length = c.answered :=
      (List.prefix_iff_eq_take.1 hpre).symm
    rw [← htake]
    simp only [Controller.answered, List.length_map, ← List.map_take]
    exact List.mem_map_of_mem hold
  have hreleased := hevents event hnew
  rcases hkey with hcancel | hown
  · exact hreleased.1 hcancel
  · exact hreleased.2 (hspeaks.attempts event (List.mem_of_mem_drop hnew) key hown)

/-- What a key is held for in the controller is still there after a step, or the key is not. -/
theorem registered_step {c c' : Controller} (hsound : c.ledger.Sound)
    (hmoves : Controller.Moves c c') (hspeaks : c.Speaks K) (hspeaks' : c'.Speaks K)
    (h : Registered c key) {port : UiPort}
    (hkey : key ∈ ((c'.attempts.drop c.attempts.length).foldl UiPort.tryEmit port).controlKeys) :
    Registered c' key := by
  obtain ⟨entry, hentry, hfor⟩ := h
  have hslip : entry.slip ∈ c.ledger.held := Multiset.mem_coe.2 (List.mem_map_of_mem hentry)
  have hown : key = .cancel entry.operationId ∨ K entry.operationId = some key := by
    rw [← hspeaks.held entry hentry]
    exact hfor
  rcases hmoves.step.held_or_answered hslip with ⟨slip, hheld, hoperation⟩ | hanswered
  · obtain ⟨entry', hentry', rfl⟩ := List.mem_map.1 (Multiset.mem_coe.1 hheld)
    have heq : entry'.operationId = entry.operationId := hoperation
    refine ⟨entry', hentry', ?_⟩
    rw [heq, hspeaks'.held entry' hentry', heq]
    exact hown
  · have hbefore : entry.operationId ∉ c.answered := (hsound.held_open _ hslip).1
    exact absurd hkey (not_mem_of_answered hspeaks' hmoves.step.answered_prefix hbefore hanswered
      hown)

theorem takenBy_command {c : Controller} {command : UiCommand} (htakes : c.takes command)
    (hother : ∀ o, command ≠ .cancelOperation o) (around : Surroundings) :
    c.takenBy (.command command around) = [command.operationId] := by
  cases command with
  | cancelOperation o => exact absurd rfl (hother o)
  | _ => simp [Controller.takenBy, htakes]

theorem speaks_command {c : Controller} (h : c.Speaks K) (horderly : c.Orderly)
    {command : UiCommand} {around : Surroundings}
    (hkeys : ∀ o ∈ c.takenBy (.command command around), K o = command.ownKey)
    (hproper : around.Proper) (hcertain : around.configUncertain → command.ownKey = none) :
    (c.step (.command command around)).Speaks K := by
  by_cases htakes : c.takes command
  · refine h.step horderly ⟨hproper, fun hother => ⟨?_, hcertain⟩⟩
    exact hkeys _ (by simp [takenBy_command htakes hother])
  · rw [Controller.step, if_neg htakes]
    exact h

/-- A disconnection or a reconnection that is handled has its key released, or is registered. -/
theorem handled_control {c : Controller} (horderly : c.Orderly) (hsound : c.ledger.Sound)
    {command : UiCommand} {around : Surroundings} (htakes : c.takes command)
    (hown : command.ownKey = some key)
    (hspeaks : (c.step (.command command around)).Speaks K)
    (hkey : K command.operationId = some key)
    (hnodup : (c.step (.command command around)).taken.Nodup) {port : UiPort}
    (hmem : key ∈ (((c.step (.command command around)).attempts.drop
      c.attempts.length).foldl UiPort.tryEmit port).controlKeys) :
    Registered (c.step (.command command around)) key := by
  have hmoves := Controller.step_moves horderly hsound (.command command around)
  have hfresh : command.operationId ∉ c.answered := by
    intro hanswered
    have hother : ∀ o, command ≠ .cancelOperation o := by
      rintro o rfl
      cases hown
    rw [Controller.step_taken, takenBy_command htakes hother, List.nodup_append] at hnodup
    exact hnodup.2.2 _ (hsound.answered_taken _ hanswered) _ (by simp) rfl
  obtain ⟨handled, hhandled, htook⟩ : ∃ handled, Controller.Handled c command.operationId handled ∧
      c.step (.command command around) =
        { handled with taken := c.taken ++ [command.operationId] } := by
    rw [Controller.step, if_pos htakes]
    cases command with
    | disconnectProfile identity =>
      exact ⟨_, Controller.unlessUncertain_handled
        (c.startProfileControl_handled rfl .disconnectProfile around), rfl⟩
    | reconnectProfile identity timeoutMs =>
      refine ⟨_, Controller.unlessUncertain_handled ?_, rfl⟩
      split
      · exact .emit rfl
      · exact c.startProfileControl_handled rfl .reconnectProfile around
    | _ => cases hown
  cases hhandled with
  | refused entries event hevent =>
    refine absurd hmem (not_mem_of_answered hspeaks hmoves.step.answered_prefix hfresh ?_
      (.inr hkey))
    have hanswered : (c.step (.command command around)).answered =
        c.answered ++ [event.operationId] := by
      rw [htook]
      simp [Controller.answered, Controller.tryEmit, Controller.cancelTasks]
    have hlast : command.operationId ∈ (c.step (.command command around)).answered := by
      rw [hanswered, hevent]
      simp
    exact hlast
  | entered entries entry work hoperation hfree hterminal hclass hlabel =>
    have hheld : entry ∈ (c.step (.command command around)).held := by
      rw [htook]
      refine List.mem_append_right _ (TaskRegistry.mem_values.2 ⟨entry.operationId, ?_⟩)
      exact AList.lookup_insert _
    refine ⟨entry, hheld, .inr ?_⟩
    rw [hspeaks.held entry hheld, hoperation, hkey]

/-! ## The invariant -/

/-- `K` gives the key of each operation. -/
structure Kept (K : OperationId → Option ControlKey) (w : Wire) : Prop where
  orderly : w.controller.Orderly
  sound : w.controller.ledger.Sound
  speaks : w.controller.Speaks K
  keys : ∀ key ∈ w.port.controlKeys, w.Pending key ∨ Registered w.controller key
  calm : w.refused = none
  ready : ∀ command, w.handling = some command →
    w.controller.idle ∧ w.controller.shutdown = none
  work : ∀ command ∈ w.port.work.queue, command.ownKey = none
  mutation : ∀ command ∈ w.port.mutation.queue, command.ownKey = none

theorem kept_initial : Kept K {} where
  orderly := Controller.orderly_initial
  sound := Ledger.sound_empty
  speaks := Controller.speaks_initial
  keys _ h := (nomatch h)
  calm := rfl
  ready _ h := (nomatch h)
  work _ h := (nomatch h)
  mutation _ h := (nomatch h)

theorem drive_port (w : Wire) (action : Controller.Action) :
    ∃ controlKeys events, (w.drive action).port = { w.port with controlKeys, events } :=
  emitted_frame ..

theorem Kept.drive_keys (h : Kept K w) {action : Controller.Action}
    (hspeaks : (w.controller.step action).Speaks K)
    (hmem : key ∈ (w.drive action).port.controlKeys) :
    w.Pending key ∨ Registered (w.controller.step action) key := by
  refine (h.keys key (mem_emitted hmem).1).imp_right fun hregistered => ?_
  exact registered_step h.sound (Controller.step_moves h.orderly h.sound action) h.speaks hspeaks
    hregistered hmem

theorem Kept.drive (h : Kept K w) {action : Controller.Action}
    (hspeaks : (w.controller.step action).Speaks K)
    (hnodup : (w.controller.step action).taken.Nodup)
    (hready : ∀ command, w.handling = some command →
      (w.controller.step action).idle ∧ (w.controller.step action).shutdown = none) :
    Kept K (w.drive action) := by
  have hmoves := Controller.step_moves h.orderly h.sound action
  obtain ⟨controlKeys, events, hport⟩ := w.drive_port action
  refine ⟨hmoves.orderly, hmoves.step.sound h.sound hnodup, hspeaks, ?_, h.calm, hready, ?_, ?_⟩
  · intro key hmem
    refine (h.drive_keys hspeaks hmem).imp_left ?_
    rintro ⟨command, hwhere, hkey⟩
    refine ⟨command, ?_, hkey⟩
    rw [hport]
    exact hwhere
  · rw [hport]
    exact h.work
  · rw [hport]
    exact h.mutation

/-- The port changes, but neither in its keys nor in the commands that are waiting. -/
theorem Kept.port (h : Kept K w) {port : UiPort}
    (hkeys : ∀ key ∈ port.controlKeys, key ∈ w.port.controlKeys)
    (hcontrol : ∀ command ∈ w.port.control.queue, command ∈ port.control.queue)
    (hwork : ∀ command ∈ port.work.queue, command.ownKey = none)
    (hmutation : ∀ command ∈ port.mutation.queue, command.ownKey = none) :
    Kept K { w with port } where
  orderly := h.orderly
  sound := h.sound
  speaks := h.speaks
  keys key hmem := by
    refine (h.keys key (hkeys key hmem)).imp_left ?_
    rintro ⟨command, hwhere, hkey⟩
    exact ⟨command, hwhere.imp_right (Or.imp_left (hcontrol command)), hkey⟩
  calm := h.calm
  ready := h.ready
  work := hwork
  mutation := hmutation

/-! ## Submissions -/

theorem controlKey_of_ownKey {command : UiCommand} (h : command.ownKey ≠ none) :
    command.lane = .control ∧ command.controlKey = command.ownKey := by
  cases command <;> first | exact ⟨rfl, rfl⟩ | exact absurd rfl h

theorem mem_trySend {lane lane' : Lane} {command other : UiCommand}
    (h : lane.trySend command = .ok lane') (hmem : other ∈ lane'.queue) :
    other ∈ lane.queue ∨ other = command := by
  unfold Lane.trySend at h
  split at h
  · cases h
  · split at h
    · cases h
      rcases List.mem_append.1 hmem with hold | hnew
      · exact .inl hold
      · exact .inr (List.mem_singleton.1 hnew)
    · cases h

theorem Kept.submit (h : Kept K w) (hsubmitting : w.submitting = none) (command : UiCommand) :
    Kept K (w.submit command) := by
  have hown : command.lane ≠ .control → command.ownKey = none := by
    intro hlane
    by_contra hkey
    exact hlane (controlKey_of_ownKey hkey).1
  unfold Wire.submit
  split
  · rename_i key hlane hkey
    split
    · exact h.port (fun _ hmem => hmem) (fun _ hmem => hmem) h.work h.mutation
    · refine ⟨h.orderly, h.sound, h.speaks, ?_, h.calm, h.ready, h.work, h.mutation⟩
      intro other hother
      rcases Finset.mem_insert.1 hother with rfl | hmem
      · exact .inl ⟨command, .inl rfl, hkey⟩
      · refine (h.keys other hmem).imp_left ?_
        rintro ⟨command', hwhere, hkey'⟩
        exact ⟨command', .inr (hwhere.resolve_left (by simp [hsubmitting])), hkey'⟩
  · exact h
  · rename_i hlane hnone
    cases hsubmit : w.port.trySubmit command with
    | error error => exact h
    | ok port =>
      unfold UiPort.trySubmit at hsubmit
      cases hlane' : command.lane with
      | work =>
        cases hsend : w.port.work.trySend command with
        | error error => rw [hlane', hsend] at hsubmit; cases hsubmit
        | ok work =>
          rw [hlane', hsend] at hsubmit
          cases hsubmit
          refine h.port (fun _ hmem => hmem) (fun _ hmem => hmem) ?_ h.mutation
          intro other hother
          rcases mem_trySend hsend hother with hold | rfl
          · exact h.work other hold
          · exact hown (by simp [hlane'])
      | mutation =>
        cases hsend : w.port.mutation.trySend command with
        | error error => rw [hlane', hsend] at hsubmit; cases hsubmit
        | ok mutation =>
          rw [hlane', hsend] at hsubmit
          cases hsubmit
          refine h.port (fun _ hmem => hmem) (fun _ hmem => hmem) h.work ?_
          intro other hother
          rcases mem_trySend hsend hother with hold | rfl
          · exact h.mutation other hold
          · exact hown (by simp [hlane'])
      | control =>
        cases hkey : command.controlKey with
        | none => exact absurd hkey (hnone hlane')
        | some key => exact absurd hkey (hlane key hlane')
      | shutdown =>
        simp only [hlane'] at hsubmit
        split at hsubmit
        · cases hsubmit
        · cases hsubmit
          exact h.port (fun _ hmem => hmem) (fun _ hmem => hmem) h.work h.mutation

theorem Kept.send (h : Kept K w) {command : UiCommand} (hsubmitting : w.submitting = some command) :
    Kept K (w.send command) := by
  unfold Wire.send
  split
  · rename_i control hsend
    refine ⟨h.orderly, h.sound, h.speaks, ?_, h.calm, h.ready, h.work, h.mutation⟩
    have hqueue : control.queue = w.port.control.queue ++ [command] := by
      unfold Lane.trySend at hsend
      split at hsend
      · cases hsend
      · split at hsend
        · cases hsend
          rfl
        · cases hsend
    intro key hmem
    refine (h.keys key hmem).imp_left ?_
    rintro ⟨other, hwhere, hkey⟩
    refine ⟨other, .inr ?_, hkey⟩
    rw [hqueue, List.mem_append, List.mem_singleton]
    rcases hwhere with hsent | hqueued | hhandling
    · rw [hsubmitting] at hsent
      exact .inl (.inr (Option.some.inj hsent).symm)
    · exact .inl (.inl hqueued)
    · exact .inr hhandling
  · have hothers : ∀ key, key ∈ w.port.controlKeys → command.controlKey ≠ some key →
        (∃ other, (other ∈ w.port.control.queue ∨ w.handling = some other) ∧
          other.controlKey = some key) ∨ Registered w.controller key := by
      intro key hmem hother
      refine (h.keys key hmem).imp_left ?_
      rintro ⟨other, hwhere, hkey⟩
      refine ⟨other, hwhere.resolve_left ?_, hkey⟩
      rw [hsubmitting]
      rintro ⟨rfl⟩
      exact hother hkey
    cases hkey : command.controlKey with
    | none =>
      refine ⟨h.orderly, h.sound, h.speaks, ?_, h.calm, h.ready, h.work, h.mutation⟩
      intro key hmem
      refine (hothers key hmem (by simp [hkey])).imp_left ?_
      rintro ⟨other, hwhere, hfor⟩
      exact ⟨other, .inr hwhere, hfor⟩
    | some released =>
      refine ⟨h.orderly, h.sound, h.speaks, ?_, h.calm, h.ready, h.work, h.mutation⟩
      intro key hmem
      obtain ⟨hne, hold⟩ := Finset.mem_erase.1 hmem
      refine (hothers key hold ?_).imp_left ?_
      · rw [hkey]
        exact fun heq => hne (Option.some.inj heq).symm
      · rintro ⟨other, hwhere, hfor⟩
        exact ⟨other, .inr hwhere, hfor⟩

/-! ## The turns of the controller -/

theorem free_iff : w.free ↔ w.handling = none ∧ w.refused = none ∧ w.controller.idle ∧
    w.controller.shutdown = none := by
  simp [free, and_assoc]

theorem Kept.pop (h : Kept K w) (hfree : w.free) :
    Kept K { w with port := w.port.receive .control, handling := w.port.control.queue.head? } := by
  obtain ⟨hhandling, -, hidle, hopen⟩ := free_iff.1 hfree
  refine ⟨h.orderly, h.sound, h.speaks, ?_, h.calm, fun _ _ => ⟨hidle, hopen⟩, h.work, h.mutation⟩
  intro key hmem
  refine (h.keys key hmem).imp_left ?_
  rintro ⟨command, hwhere, hkey⟩
  refine ⟨command, hwhere.imp_right fun hwaiting => ?_, hkey⟩
  have hqueued := hwaiting.resolve_right (by simp [hhandling])
  cases hqueue : w.port.control.queue with
  | nil => simp [hqueue] at hqueued
  | cons head rest =>
    rw [hqueue, List.mem_cons] at hqueued
    rcases hqueued with rfl | hrest
    · exact .inr rfl
    · refine .inl ?_
      simp [UiPort.receive, hqueue, hrest]

theorem controlKey_eq {command : UiCommand} (hother : ∀ o, command ≠ .cancelOperation o) :
    command.controlKey = command.ownKey := by
  cases command <;> first | rfl | exact absurd rfl (hother _)

/-- A command that is handled leaves its key to its target or its operation, or it is released. -/
theorem Kept.handleControl (h : Kept K w) {command : UiCommand} {around : Surroundings}
    (hhandling : w.handling = some command) (hproper : around.Proper)
    (hcertain : around.configUncertain → command.ownKey = none)
    (hkeys : ∀ o ∈ w.controller.takenBy (.command command around), K o = command.ownKey)
    (hnodup : (w.controller.step (.command command around)).taken.Nodup) :
    Kept K (w.handleControl command around) := by
  obtain ⟨hidle, hopen⟩ := h.ready command hhandling
  have hspeaks := speaks_command h.speaks h.orderly hkeys hproper hcertain
  have hmoves := Controller.step_moves h.orderly h.sound (.command command around)
  obtain ⟨controlKeys, events, hport⟩ := w.drive_port (.command command around)
  -- The command itself is in flight no more, and every other one still is.
  have hothers : ∀ key ∈ (w.drive (.command command around)).port.controlKeys,
      command.controlKey ≠ some key →
        (∃ other, (w.submitting = some other ∨ other ∈ w.port.control.queue) ∧
          other.controlKey = some key) ∨
        Registered (w.controller.step (.command command around)) key := by
    intro key hmem hne
    refine (h.drive_keys hspeaks hmem).imp_left ?_
    rintro ⟨other, hwhere, hkey⟩
    refine ⟨other, (or_assoc.2 hwhere).resolve_right ?_, hkey⟩
    rw [hhandling]
    rintro ⟨rfl⟩
    exact hne hkey
  have hkept : ∀ w' : Wire, w'.controller = w.controller.step (.command command around) →
      w'.refused = none → w'.handling = none → w'.submitting = w.submitting →
      (∃ controlKeys, w'.port = { w.port with controlKeys, events }) →
      (∀ key ∈ w'.port.controlKeys, key ∈ (w.drive (.command command around)).port.controlKeys ∧
        (command.controlKey = some key →
          Registered (w.controller.step (.command command around)) key)) →
      Kept K w' := by
    rintro ⟨port, submitting, handling, refused, controller, answering⟩ hcontroller hcalm hnone
      hsubmitting ⟨keys, hframe⟩ hleft
    dsimp only at hcontroller hcalm hnone hsubmitting hframe hleft
    subst hcontroller hcalm hnone hsubmitting hframe
    have hready : ∀ other, (none : Option UiCommand) = some other →
        (w.controller.step (.command command around)).idle ∧
          (w.controller.step (.command command around)).shutdown = none := by
      intro other hother
      cases hother
    refine ⟨hmoves.orderly, hmoves.step.sound h.sound hnodup, hspeaks, ?_, rfl, hready, h.work,
      h.mutation⟩
    intro key hmem
    obtain ⟨hdriven, hown⟩ := hleft key hmem
    by_cases hkey : command.controlKey = some key
    · exact .inr (hown hkey)
    · refine (hothers key hdriven hkey).imp_left ?_
      rintro ⟨other, hwhere, hfor⟩
      exact ⟨other, hwhere.imp_right .inl, hfor⟩
  have hdriven : ({ w with handling := none }.drive (.command command around)).port =
      { w.port with controlKeys, events } := hport
  by_cases hcancel : ∃ o, command = .cancelOperation o
  · obtain ⟨o, rfl⟩ := hcancel
    simp only [Wire.handleControl]
    split
    · rename_i hmem
      refine hkept _ rfl h.calm rfl rfl ⟨controlKeys, hdriven⟩ fun key hkey => ⟨hkey, ?_⟩
      rintro ⟨rfl⟩
      obtain ⟨entry, hlookup⟩ := Option.isSome_iff_exists.1 (AList.lookup_isSome.2 hmem)
      have hoperation := h.orderly.keyed o entry hlookup
      have hregistered : Registered w.controller (.cancel o) :=
        ⟨entry, List.mem_append_right _ (TaskRegistry.mem_values.2 ⟨o, hlookup⟩),
          .inl (by rw [hoperation])⟩
      exact registered_step h.sound hmoves h.speaks hspeaks hregistered hkey
    · refine hkept _ rfl h.calm rfl rfl ⟨controlKeys.erase (.cancel o), ?_⟩ fun key hkey => ?_
      · simp only [UiPort.releaseControlKey, hdriven]
      · obtain ⟨hne, hold⟩ := Finset.mem_erase.1 hkey
        refine ⟨hold, ?_⟩
        rintro ⟨rfl⟩
        exact absurd rfl hne
  · have hother : ∀ o, command ≠ .cancelOperation o := fun o heq => hcancel ⟨o, heq⟩
    have hcontrol := controlKey_eq hother
    have heq : w.handleControl command around =
        { ({ w with handling := none }.drive (.command command around)) with
          refused := if around.configUncertain then command.controlKey else none } := by
      cases command <;> first | rfl | exact absurd rfl (hother _)
    rw [heq]
    refine hkept _ rfl ?_ rfl rfl ⟨controlKeys, hdriven⟩ fun key hkey => ⟨hkey, fun hfor => ?_⟩
    · dsimp only
      split
      · rw [hcontrol, hcertain ‹_›]
      · rfl
    · have hown : command.ownKey = some key := hcontrol ▸ hfor
      have hsome : command.ownKey ≠ none := by simp [hown]
      have hlane := (controlKey_of_ownKey hsome).1
      have htakes : w.controller.takes command := by
        simp [Controller.takes, hidle, hopen, hlane]
      have hanswers : K command.operationId = some key := by
        rw [hkeys _ (by simp [takenBy_command htakes hother]), hown]
      exact handled_control h.orderly h.sound htakes hown hspeaks hanswers hnodup hkey

/-- The head of a lane is taken in a turn of its own. -/
theorem Kept.takeHead (h : Kept K w) (hfree : w.free) {port : UiPort} {command : UiCommand}
    {around : Surroundings} (hkeys : port.controlKeys = w.port.controlKeys)
    (hcontrol : ∀ command ∈ w.port.control.queue, command ∈ port.control.queue)
    (hwork : ∀ command ∈ port.work.queue, command.ownKey = none)
    (hmutation : ∀ command ∈ port.mutation.queue, command.ownKey = none)
    (hproper : around.Proper) (hown : command.ownKey = none)
    (hanswers : ∀ o ∈ w.controller.takenBy (.command command around), K o = command.ownKey)
    (hnodup : (w.controller.step (.command command around)).taken.Nodup) :
    Kept K ({ w with port }.drive (.command command around)) := by
  have hport : Kept K { w with port } :=
    h.port (fun key hmem => hkeys ▸ hmem) hcontrol hwork hmutation
  have hspeaks := speaks_command h.speaks h.orderly hanswers hproper fun _ => hown
  refine hport.drive hspeaks hnodup fun other hother => ?_
  rw [(free_iff.1 hfree).1] at hother
  cases hother

theorem Kept.take (h : Kept K w) (hfree : w.free) {lane : CommandLane} {around : Surroundings}
    (hproper : around.Proper) (hspares : w.Spares (.take lane around))
    (hanswering : ∀ pair ∈ (w.take lane around).answering, K pair.1 = pair.2)
    (hnodup : (w.take lane around).controller.taken.Nodup) : Kept K (w.take lane around) := by
  have hanswers : ∀ {port : UiPort} {command : UiCommand},
      w.take lane around = { w with port }.drive (.command command around) →
        (∀ o ∈ w.controller.takenBy (.command command around), K o = command.ownKey) ∧
          (w.controller.step (.command command around)).taken.Nodup := by
    intro port command heq
    rw [heq] at hanswering hnodup
    refine ⟨fun o ho => ?_, hnodup⟩
    exact hanswering (o, command.ownKey)
      (List.mem_append_right _ (List.mem_map.2 ⟨o, ho, rfl⟩))
  cases lane with
  | work =>
    cases hhead : w.port.work.queue.head? with
    | none =>
      have heq : w.take .work around = w := by simp only [Wire.take, hhead]
      rw [heq]
      exact h
    | some command =>
      have heq : w.take .work around =
          { w with port := w.port.receive .work }.drive (.command command around) := by
        simp only [Wire.take, hhead]
      obtain ⟨hkeys, htaken⟩ := hanswers heq
      rw [heq]
      refine h.takeHead hfree rfl (fun _ hmem => hmem) ?_ h.mutation hproper
        (h.work command (List.mem_of_mem_head? hhead)) hkeys htaken
      exact fun other hother => h.work other (List.mem_of_mem_tail hother)
  | mutation =>
    cases hhead : w.port.mutation.queue.head? with
    | none =>
      have heq : w.take .mutation around = w := by simp only [Wire.take, hhead]
      rw [heq]
      exact h
    | some command =>
      by_cases hactive : w.controller.mutationActive
      · have heq : w.take .mutation around = w := by simp only [Wire.take, hhead, if_pos hactive]
        rw [heq]
        exact h
      · have heq : w.take .mutation around =
            { w with port := w.port.receive .mutation }.drive (.command command around) := by
          simp only [Wire.take, hhead, if_neg hactive]
        obtain ⟨hkeys, htaken⟩ := hanswers heq
        rw [heq]
        refine h.takeHead hfree rfl (fun _ hmem => hmem) h.work ?_ hproper
          (h.mutation command (List.mem_of_mem_head? hhead)) hkeys htaken
        exact fun other hother => h.mutation other (List.mem_of_mem_tail hother)
  | control => exact h
  | shutdown =>
    cases hshutdown : w.port.shutdown with
    | none =>
      have heq : w.take .shutdown around = w := by simp only [Wire.take, hshutdown]
      rw [heq]
      exact h
    | some o =>
      have heq : w.take .shutdown around =
          { w with port := w.port.closeAndDrain }.drive
            (.command (.shutdownRuntime o) around) := by
        simp only [Wire.take, hshutdown]
      obtain ⟨hkeys, htaken⟩ := hanswers heq
      rw [heq]
      have hempty : w.port.control.queue = [] := hspares hfree
      refine h.takeHead hfree rfl ?_ (fun _ hmem => (nomatch hmem)) (fun _ hmem => (nomatch hmem))
        hproper rfl hkeys htaken
      rw [hempty]
      exact fun _ hmem => (nomatch hmem)

theorem Kept.close (h : Kept K w) (hfree : w.free) (hspares : w.Spares .portClosed)
    (hanswering : ∀ pair ∈ (w.step .portClosed).answering, K pair.1 = pair.2)
    (hnodup : (w.step .portClosed).controller.taken.Nodup) : Kept K (w.step .portClosed) := by
  obtain ⟨hhandling, -, hidle, hopen⟩ := free_iff.1 hfree
  have heq : w.step .portClosed = { w with port := w.port.closeAndDrain }.drive .portClosed := by
    simp only [step, if_pos hfree]
  rw [heq] at hanswering hnodup ⊢
  have hnone : K 0 = none := by
    refine hanswering (0, none) (List.mem_append_right _ (List.mem_map.2 ⟨0, ?_, rfl⟩))
    simp [Controller.takenBy, hidle, hopen]
  have hempty : w.port.control.queue = [] := hspares hfree
  have hport : Kept K { w with port := w.port.closeAndDrain } := by
    refine h.port (fun _ hmem => hmem) ?_ (fun _ hmem => by cases hmem)
      fun _ hmem => by cases hmem
    rw [hempty]
    exact fun _ hmem => by cases hmem
  refine hport.drive (h.speaks.step h.orderly hnone) hnodup fun other hother => ?_
  rw [hhandling] at hother
  cases hother

/-- The steps of the tasks leave the controller where it is in its loop. -/
theorem taskStep_loop {c : Controller} (id : TaskId) {act : SpawnedTask → Controller}
    (hact : ∀ task, (act task).idle = c.idle ∧ (act task).shutdown = c.shutdown) :
    (c.taskStep id act).idle = c.idle ∧ (c.taskStep id act).shutdown = c.shutdown := by
  rcases c.taskStep_cases id act with heq | ⟨task, -, -, heq⟩
  · rw [heq]
    exact ⟨rfl, rfl⟩
  · rw [heq]
    exact hact task

theorem Kept.proceed (h : Kept K w) (action : Controller.Action)
    (hnodup : (w.proceed action).controller.taken.Nodup) : Kept K (w.proceed action) := by
  have hturn : (w.controller.Fits K action) →
      (w.controller.step action).taken.Nodup →
      Kept K (if w.handling.isNone && w.refused.isNone then w.drive action else w) := by
    intro hfits htaken
    split
    · rename_i hcalm
      refine h.drive (h.speaks.step h.orderly hfits) htaken fun command hhandling => ?_
      simp [hhandling] at hcalm
    · exact h
  have hcases : (w.proceed action).controller = w.controller.step action ∨
      w.proceed action = w := by
    cases action with
    | command | portClosed => exact .inr rfl
    | acquire | evict | finish => exact .inl rfl
    | _ =>
      simp only [Wire.proceed]
      split
      · exact .inl rfl
      · exact .inr rfl
  rcases hcases with hstep | hsame
  · rw [hstep] at hnodup
    have htask : w.controller.Fits K action →
        (w.controller.step action).idle = w.controller.idle ∧
          (w.controller.step action).shutdown = w.controller.shutdown →
        Kept K (w.drive action) := by
      rintro hfits ⟨hidle, hshutdown⟩
      refine h.drive (h.speaks.step h.orderly hfits) hnodup fun command hhandling => ?_
      rw [hidle, hshutdown]
      exact h.ready command hhandling
    cases action with
    | command command around => exact h
    | portClosed => exact h
    | receive => exact hturn trivial hnodup
    | reap => exact hturn trivial hnodup
    | deadline => exact hturn trivial hnodup
    | advance configUncertain event => exact hturn trivial hnodup
    | stop => exact hturn trivial hnodup
    | acquire id sessionGeneration =>
      refine htask trivial (taskStep_loop id fun task => ?_)
      split
      · exact ⟨rfl, rfl⟩
      · unfold Controller.acquire
        split <;> exact ⟨rfl, rfl⟩
    | evict id cached =>
      refine htask trivial (taskStep_loop id fun task => ?_)
      unfold Controller.evict
      split
      · split <;> exact ⟨rfl, rfl⟩
      · exact ⟨rfl, rfl⟩
    | complete id output =>
      simp only [Wire.proceed]
      split
      · rename_i hmay
        refine htask ?_ (taskStep_loop id fun task => ?_)
        · intro task htask command targets hwork hown
          rw [Option.mem_def] at htask
          obtain ⟨operationId, work, cleaned, completionSent, cancelled, status⟩ := task
          cases hwork
          simp only [mayComplete, htask] at hmay
          simpa [hown] using hmay
        · split
          · exact ⟨rfl, rfl⟩
          · unfold Controller.complete
            split <;> exact ⟨rfl, rfl⟩
      · exact h
    | finish id panicked =>
      refine htask trivial (taskStep_loop id fun task => ?_)
      unfold Controller.finish
      split
      · exact ⟨rfl, rfl⟩
      · split <;> exact ⟨rfl, rfl⟩
  · rw [hsame]
    exact h

/-! ## Runs -/

theorem Kept.step (h : Kept K w) {signal : Signal} (hspares : w.Spares signal)
    (hanswering : ∀ pair ∈ (w.step signal).answering, K pair.1 = pair.2)
    (hnodup : (w.step signal).controller.taken.Nodup) : Kept K (w.step signal) := by
  cases signal with
  | submit command =>
    simp only [Wire.step]
    split
    · exact h.submit (Option.isNone_iff_eq_none.1 ‹_›) command
    · exact h
  | send =>
    simp only [Wire.step]
    cases hsubmitting : w.submitting with
    | none => exact h
    | some command => exact h.send hsubmitting
  | drainEvents limit => exact h.port (fun _ hmem => hmem) (fun _ hmem => hmem) h.work h.mutation
  | pop =>
    simp only [Wire.step]
    split
    · exact h.pop ‹_›
    · exact h
  | handle around =>
    simp only [Wire.step] at hanswering hnodup ⊢
    split
    · rename_i hproper
      rw [if_pos hproper] at hanswering hnodup
      cases hhandling : w.handling with
      | none => exact h
      | some command =>
        simp only [hhandling, Option.elim_some] at hanswering hnodup
        have hdriven : (w.handleControl command around).controller =
              w.controller.step (.command command around) ∧
            (w.handleControl command around).answering = w.answering ++
              (w.controller.takenBy (.command command around)).map (·, command.ownKey) := by
          cases command with
          | cancelOperation o =>
            simp only [Wire.handleControl]
            split <;> exact ⟨rfl, rfl⟩
          | _ => exact ⟨rfl, rfl⟩
        rw [hdriven.1] at hnodup
        rw [hdriven.2] at hanswering
        refine h.handleControl hhandling hproper (fun huncertain => hspares huncertain command
          hhandling) (fun o ho => ?_) hnodup
        exact hanswering (o, command.ownKey)
          (List.mem_append_right _ (List.mem_map.2 ⟨o, ho, rfl⟩))
    · exact h
  | release =>
    have heq : w.step .release = w := by simp only [Wire.step, h.calm, Option.elim_none]
    rw [heq]
    exact h
  | take lane around =>
    simp only [Wire.step] at hanswering hnodup ⊢
    split
    · rename_i hready
      rw [if_pos hready] at hanswering hnodup
      exact h.take hready.1 hready.2 hspares hanswering hnodup
    · exact h
  | portClosed =>
    by_cases hfree : w.free
    · exact h.close hfree hspares hanswering hnodup
    · simp only [Wire.step, if_neg hfree]
      exact h
  | controller action => exact h.proceed action hnodup

/-- What is recorded of the operations only grows, along with what the controller takes. -/
structure Grows (w w' : Wire) : Prop where
  answering : w.answering <+: w'.answering
  taken : w.controller.taken <+: w'.controller.taken
  matched : w.controller.taken = w.answering.map Prod.fst →
    w'.controller.taken = w'.answering.map Prod.fst

theorem Grows.same {w' : Wire} (hanswering : w'.answering = w.answering)
    (htaken : w'.controller.taken = w.controller.taken) : w.Grows w' := by
  refine ⟨by rw [hanswering], by rw [htaken], fun h => ?_⟩
  rw [hanswering, htaken, h]

theorem drive_grows (w : Wire) (action : Controller.Action) : w.Grows (w.drive action) := by
  refine ⟨List.prefix_append .., w.controller.step_taken_grows action, fun h => ?_⟩
  have htaken := w.controller.step_taken action
  simp only [drive, htaken, h, List.map_append, List.map_map]
  simp [Function.comp_def]

theorem step_grows (w : Wire) (signal : Signal) : w.Grows (w.step signal) := by
  have hrest : w.Grows w := .same rfl rfl
  cases signal with
  | submit command =>
    simp only [step]
    split
    · unfold submit
      split
      · split <;> exact .same rfl rfl
      · exact hrest
      · split <;> exact .same rfl rfl
    · exact hrest
  | send =>
    simp only [step]
    cases w.submitting with
    | none => exact hrest
    | some command =>
      simp only [Option.elim_some, send]
      split <;> exact .same rfl rfl
  | drainEvents limit => exact .same rfl rfl
  | pop =>
    simp only [step]
    split <;> exact .same rfl rfl
  | handle around =>
    simp only [step]
    split
    · cases w.handling with
      | none => exact hrest
      | some command =>
        have hdriven := { w with handling := none }.drive_grows (.command command around)
        cases command with
        | cancelOperation o =>
          simp only [Option.elim_some, handleControl]
          split <;> exact ⟨hdriven.answering, hdriven.taken, hdriven.matched⟩
        | _ => exact ⟨hdriven.answering, hdriven.taken, hdriven.matched⟩
    · exact hrest
  | release =>
    simp only [step]
    cases w.refused <;> exact .same rfl rfl
  | take lane around =>
    have hdriven : ∀ (port : UiPort) (action : Controller.Action),
        w.Grows ({ w with port }.drive action) := by
      intro port action
      have hgrows := { w with port }.drive_grows action
      exact ⟨hgrows.answering, hgrows.taken, hgrows.matched⟩
    simp only [step]
    split
    · unfold take
      split
      · split
        · exact hdriven _ _
        · exact hrest
      · split
        · split
          · exact hrest
          · exact hdriven _ _
        · exact hrest
      · split
        · exact hdriven _ _
        · exact hrest
      · exact hrest
    · exact hrest
  | portClosed =>
    simp only [step]
    split
    · have hgrows := { w with port := w.port.closeAndDrain }.drive_grows .portClosed
      exact ⟨hgrows.answering, hgrows.taken, hgrows.matched⟩
    · exact hrest
  | controller action =>
    have hdriven := w.drive_grows action
    cases action with
    | command | portClosed => exact hrest
    | acquire | evict | finish => exact hdriven
    | _ =>
      simp only [step, proceed]
      split
      · exact hdriven
      · exact hrest

theorem run_matched (signals : List Signal) :
    (run signals).controller.taken = (run signals).answering.map Prod.fst := by
  induction signals using List.reverseRecOn with
  | nil => rfl
  | append_singleton signals signal ih =>
    rw [run_snoc]
    exact ((run signals).step_grows signal).matched ih

/-- Operations that are all different each have one key. -/
theorem exists_keys {answering : List (OperationId × Option ControlKey)}
    (h : (answering.map Prod.fst).Nodup) :
    ∃ K : OperationId → Option ControlKey, ∀ pair ∈ answering, K pair.1 = pair.2 := by
  induction answering with
  | nil => exact ⟨fun _ => none, fun _ hmem => (nomatch hmem)⟩
  | cons first rest ih =>
    rw [List.map_cons, List.nodup_cons] at h
    obtain ⟨K, hK⟩ := ih h.2
    refine ⟨Function.update K first.1 first.2, fun pair hpair => ?_⟩
    rcases List.mem_cons.1 hpair with rfl | hmem
    · exact Function.update_self ..
    · have hne : pair.1 ≠ first.1 := fun heq => h.1 (heq ▸ List.mem_map_of_mem hmem)
      rw [Function.update_of_ne hne]
      exact hK pair hmem

/-- A run all of whose steps spare the keys keeps the invariant. -/
theorem run_kept (signals : List Signal)
    (hspares : ∀ before signal, before ++ [signal] <+: signals → (run before).Spares signal)
    (hanswering : ∀ pair ∈ (run signals).answering, K pair.1 = pair.2)
    (hnodup : (run signals).controller.taken.Nodup) : Kept K (run signals) := by
  induction signals using List.reverseRecOn with
  | nil => exact kept_initial
  | append_singleton signals signal ih =>
    rw [run_snoc] at hanswering hnodup ⊢
    have hgrows := (run signals).step_grows signal
    have hkept := ih (fun before other hpre => hspares before other
        (hpre.trans (List.prefix_append ..)))
      (fun pair hpair => hanswering pair (hgrows.answering.subset hpair))
      (hnodup.sublist hgrows.taken.sublist)
    exact hkept.step (hspares signals signal List.prefix_rfl) hanswering hnodup

/-- In a run that neither refuses a control nor closes the port over a queued one, every key
that is held is held for a command in flight, and so is the key of every submission that is
answered without being sent. -/
theorem control_keys_in_flight (signals : List Signal)
    (hnodup : (run signals).controller.taken.Nodup)
    (hspares : ∀ before signal, before ++ [signal] <+: signals → (run before).Spares signal) :
    (run signals).Coalesces ∧
      ∀ command, ((run signals).step (.submit command)).port.merged ≠ (run signals).port.merged →
        ∃ key, command.controlKey = some key ∧ (run signals).InFlight key := by
  obtain ⟨K, hK⟩ := exists_keys (run_matched signals ▸ hnodup)
  have hkept := run_kept signals hspares hK hnodup
  have hflight : (run signals).Coalesces := by
    intro key hmem
    exact (hkept.keys key hmem).imp_right fun hregistered => hregistered.working hkept.sound
  refine ⟨hflight, fun command hmerged => ?_⟩
  simp only [step] at hmerged
  split at hmerged
  · unfold submit at hmerged
    split at hmerged
    · rename_i key _ hkey
      split at hmerged
      · rename_i hmem
        exact ⟨key, hkey, hflight key hmem⟩
      · exact absurd rfl hmerged
    · exact absurd rfl hmerged
    · rename_i hlane hnone
      split at hmerged
      · rename_i port hsubmit
        obtain ⟨-, ⟨-, hsame⟩ | ⟨-, -, hcontrol⟩⟩ := UiPort.trySubmit_cases hsubmit
        · exact absurd hsame hmerged
        · cases hkey : command.controlKey with
          | none => exact absurd hkey (hnone hcontrol)
          | some key => exact absurd hkey (hlane key hcontrol)
      · exact absurd rfl hmerged
  · exact absurd rfl hmerged

/-- A disconnection that is merged with another one, which closes the session. -/
def mergedDisconnections : List Signal :=
  let profileId : ProfileId := "p".toList
  let closed : UiEvent := .connectionClosed ⟨profileId, 1, 1⟩ .disconnected
  [.submit (.disconnectProfile ⟨profileId, 1, 1⟩), .send,
    .submit (.disconnectProfile ⟨profileId, 1, 2⟩), .pop, .handle {},
    .controller (.complete 0 (.event closed)), .controller (.finish 0 false),
    .controller .receive, .controller (.advance false closed), .drainEvents 1]

theorem control_keys_in_flight_merged :
    (run mergedDisconnections).controller.taken.Nodup ∧
      ((run mergedDisconnections).Coalesces ∧
        ∀ command, ((run mergedDisconnections).step (.submit command)).port.merged ≠
            (run mergedDisconnections).port.merged →
          ∃ key, command.controlKey = some key ∧ (run mergedDisconnections).InFlight key) := by
  have hnodup : (run mergedDisconnections).controller.taken.Nodup := by decide +kernel
  have hspares : ∀ signal ∈ mergedDisconnections, ∀ w : Wire, w.Spares signal := by
    intro signal hmem w
    simp only [mergedDisconnections, List.mem_cons, List.not_mem_nil, or_false] at hmem
    rcases hmem with rfl | rfl | rfl | rfl | rfl | rfl | rfl | rfl | rfl | rfl
    all_goals first | exact trivial | exact nofun
  refine ⟨hnodup, control_keys_in_flight mergedDisconnections hnodup fun before signal hpre => ?_⟩
  exact hspares signal (hpre.subset (by simp)) _

/-- A disconnection that is refused while the configuration is uncertain. -/
def refusedDisconnection : List Signal :=
  [.submit (.disconnectProfile ⟨"p".toList, 1, 1⟩), .send, .pop,
    .handle { configUncertain := true }]

/-- A disconnection that is queued when the controller takes a shutdown. -/
def drainedDisconnection : List Signal :=
  [.submit (.disconnectProfile ⟨"p".toList, 1, 1⟩), .send, .submit (.shutdownRuntime 2),
    .take .shutdown {}]

theorem not_coalesces {w : Wire} (hkey : key ∈ w.port.controlKeys)
    (hnone : (w.submitting.isNone && w.port.control.queue.isEmpty && w.handling.isNone &&
      w.controller.held.isEmpty) = true) : ¬w.Coalesces := by
  simp only [Bool.and_eq_true, Option.isNone_iff_eq_none, List.isEmpty_iff] at hnone
  obtain ⟨⟨⟨hsubmitting, hqueue⟩, hhandling⟩, hheld⟩ := hnone
  intro h
  rcases h key hkey with ⟨command, hwhere, -⟩ | ⟨entry, hentry, -⟩
  · simp [hsubmitting, hqueue, hhandling] at hwhere
  · simp [hheld] at hentry

/-- The key of a refused disconnection is held after its end is emitted, and a second
disconnection is then swallowed; the key of a drained one is held for good. -/
theorem control_keys_outlive_their_commands :
    UiEvent.configUncertain 1 ∈ (run refusedDisconnection).port.events ∧
      ¬(run refusedDisconnection).Coalesces ∧
      (∃ command, ((run refusedDisconnection).step (.submit command)).port.merged.length = 1) ∧
      ¬(run drainedDisconnection).Coalesces := by
  have hrefused : ControlKey.disconnect "p".toList 1 ∈
      (run refusedDisconnection).port.controlKeys := by decide +kernel
  have hdrained : ControlKey.disconnect "p".toList 1 ∈
      (run drainedDisconnection).port.controlKeys := by decide +kernel
  refine ⟨by decide +kernel, not_coalesces hrefused (by decide +kernel),
    ⟨.disconnectProfile ⟨"p".toList, 1, 2⟩, by decide +kernel⟩,
    not_coalesces hdrained (by decide +kernel)⟩

end Wire
end Dbotter.Ui
