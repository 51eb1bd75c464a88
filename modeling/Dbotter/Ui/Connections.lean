import Dbotter.Ui.ActiveOperations

/-!
The connection states that wait.

A state waits for the operation of a connect, a disconnect or a reconnect, or for a delete of
its profile. Along every run without merged commands each waiting state has such a command on a
lane. The command has not been answered as long as every answer is one that the model folds for
the state that waits for it.
-/

namespace Dbotter.Ui
open Dbotter.Utf8 Dbotter.Configuration Dbotter.Service Dbotter.Drivers

/-- The request that a pending connection state waits for. -/
def UiCommand.connectionIdentity : UiCommand → Option RequestIdentity
  | .testConnection identity _ | .reconnectProfile identity _ | .disconnectProfile identity =>
    some identity
  | _ => none

theorem UiCommand.connectionIdentity_operationId {command : UiCommand} {identity : RequestIdentity}
    (h : command.connectionIdentity = some identity) :
    command.operationId = identity.operationId ∧ command.isCancel = false := by
  cases command <;> cases h <;> exact ⟨rfl, rfl⟩

/-- What ends a connection operation. -/
theorem UiCommand.endedBy_connection {command : UiCommand} {event : UiEvent}
    {identity : RequestIdentity} (hidentity : command.connectionIdentity = some identity)
    (hends : command.endedBy event) :
    (∃ o, event = .configUncertain o) ∨
      (∃ session kind summary error disposition outcome,
        event = .operationFailed identity session kind summary error disposition outcome ∧
          (kind = .connectProfile ∨ kind = .reconnectProfile ∨ kind = .disconnectProfile)) ∨
      (∃ session, event = .connectionReady identity session) ∨
      ∃ postClose, event = .connectionClosed identity postClose := by
  cases command <;> cases hidentity <;> cases event <;>
    simp [endedBy, UiEvent.isFailureOf, UiEvent.isRefusalOf] at hends ⊢ <;> grind

namespace UiModel

/-- The model folds the event into the state that waits for it. -/
def settlesState (model : UiModel) : UiEvent → Bool
  | .configUncertain o => model.profilesOperationIsNewer o
  | .profileDeleted identity _ =>
    !(model.activeGenerations identity.profileId).any (· ≥ identity.profileGeneration)
  | .operationFailed identity _ kind _ _ _ outcome =>
    model.eventIsCurrent identity.profileId identity.profileGeneration &&
      (kind != .deleteProfile || outcome != .preserve)
  | .connectionReady identity _ | .connectionClosed identity _ =>
    model.eventIsCurrent identity.profileId identity.profileGeneration
  | _ => true

def isShutdown : UiEvent → Bool
  | .runtimeShutdown _ => true
  | _ => false

/-- A profile that waits after an event has waited before it. -/
theorem fold_waits {model : UiModel} {event : UiEvent} (hrunning : isShutdown event = false)
    {p : ProfileId} {state : ConnectionState}
    (h : (model.fold event).connectionStates p = some state) (hwaits : state.waits) :
    model.connectionStates p = some state := by
  cases event with
  | profilesLoaded o profiles config =>
    simp only [fold] at h
    split at h
    · simp only [foldProfiles] at h
      split at h
      · cases h
        cases hwaits
      · split at h
        · exact h
        · cases h
    · exact h
  | profilesFailed o summary error =>
    simp only [fold] at h
    split at h <;> exact h
  | profileSaved o profileId previous g retained warning =>
    simp only [fold, foldSaved] at h
    split at h
    · exact h
    · have hkept : model.connectionStates p = some state ∨
          Function.update model.connectionStates profileId none p = some state := by
        cases retained <;> cases previous
        · exact .inr h
        · exact .inr h
        · exact .inr h
        · exact .inl h
      obtain hkept | hkept := hkept
      · exact hkept
      · by_cases hp : p = profileId
        · subst hp
          simp at hkept
        · simpa [hp] using hkept
  | credentialsStored identity =>
    simp only [fold] at h
    split at h
    · split at h
      · by_cases hp : p = identity.profileId
        · subst hp
          simp only [setConnection, Function.update_self, Option.some_inj] at h
          rw [← h] at hwaits
          cases hwaits
        · simpa [setConnection, hp] using h
      · exact h
    · exact h
  | profileDeleted identity unknown =>
    simp only [fold, foldDeleted] at h
    split at h
    · exact h
    · by_cases hp : p = identity.profileId
      · subst hp
        simp at h
      · simpa [hp] using h
  | configUncertain o =>
    simp only [fold] at h
    split at h
    · cases h
    · exact h
  | runtimeShutdown o => cases hrunning
  | _ => exact (fold_onlyConnections model _ rfl).settles p state h hwaits

theorem setConnection_ne {model : UiModel} {p : ProfileId} {state other : ConnectionState}
    (h : state ≠ other) : (model.setConnection p state).connectionStates p ≠ some other := by
  simpa [setConnection] using h

theorem applyConnectionOutcome_ne {model : UiModel} {p : ProfileId} {other : ConnectionState}
    {outcome : ConnectionFailureOutcome} (hother : other.waits)
    (h : model.connectionStates p ≠ some other ∨ outcome ≠ .preserve) :
    (model.applyConnectionOutcome p outcome).connectionStates p ≠ some other := by
  cases outcome with
  | preserve => exact h.resolve_right (fun h => h rfl)
  | disconnected | unknown | needsCredential =>
    exact setConnection_ne (by rintro rfl; cases hother)

/-- A connection operation that ends is no longer what the state waits for. -/
theorem fold_pending {model : UiModel} {event : UiEvent} {command : UiCommand}
    {identity : RequestIdentity} (hidentity : command.connectionIdentity = some identity)
    (hends : command.endedBy event) (hsettles : model.settlesState event = true)
    (hstate : model.connectionStates identity.profileId = some (.pending identity.operationId)) :
    (model.fold event).connectionStates identity.profileId ≠
      some (.pending identity.operationId) := by
  have hfailed : ∀ (kind : OperationKind) (error : PublicOperationError)
      (outcome : ConnectionFailureOutcome),
      kind = .connectProfile ∨ kind = .reconnectProfile ∨ kind = .disconnectProfile →
      model.eventIsCurrent identity.profileId identity.profileGeneration = true →
      (model.foldOperationFailed identity kind error outcome).connectionStates identity.profileId ≠
        some (.pending identity.operationId) := by
    intro kind error outcome hkind hcurrent
    obtain rfl | rfl | rfl := hkind
    · simp only [foldOperationFailed, hcurrent, hstate, Bool.not_true, Bool.false_eq_true,
        beq_self_eq_true, ↓reduceIte]
      exact setConnection_ne (by split <;> simp)
    · simp only [foldOperationFailed, hcurrent, hstate, Bool.not_true, Bool.false_eq_true,
        beq_self_eq_true, ↓reduceIte]
      exact setConnection_ne (by split <;> simp)
    · simp only [foldOperationFailed, hcurrent, hstate, Bool.not_true, Bool.false_eq_true,
        beq_self_eq_true, ↓reduceIte]
      exact applyConnectionOutcome_ne rfl (.inl (setConnection_ne (by simp)))
  obtain ⟨o, rfl⟩ | ⟨session, kind, summary, error, disposition, outcome, rfl, hkind⟩ |
    ⟨session, rfl⟩ | ⟨postClose, rfl⟩ := UiCommand.endedBy_connection hidentity hends
  · have hnewer : model.profilesOperationIsNewer o = true := hsettles
    simp only [fold, hnewer, ↓reduceIte]
    simp
  · have hcurrent := (Bool.and_eq_true_iff.1 hsettles).1
    exact hfailed kind error outcome hkind hcurrent
  · have hcurrent : model.eventIsCurrent _ _ = true := hsettles
    simp only [fold, hcurrent, hstate, decide_true, Bool.and_self, ↓reduceIte]
    exact setConnection_ne (by simp)
  · have hcurrent : model.eventIsCurrent _ _ = true := hsettles
    simp only [fold, hcurrent, hstate, decide_true, Bool.and_self, ↓reduceIte]
    exact setConnection_ne (by split <;> simp)

/-- A delete that ends is no longer what its profile waits for. -/
theorem fold_closing {model : UiModel} {event : UiEvent} {request : DeleteProfileRequest}
    (hends : (UiCommand.deleteProfile request).endedBy event)
    (hsettles : model.settlesState event = true)
    (hstate : model.connectionStates request.profileId = some .closing) :
    (model.fold event).connectionStates request.profileId ≠ some .closing := by
  cases event with
  | configUncertain o =>
    have hnewer : model.profilesOperationIsNewer o = true := hsettles
    simp only [fold, hnewer, ↓reduceIte]
    simp
  | operationFailed failed session kind summary error disposition outcome =>
    simp only [UiCommand.endedBy, UiEvent.isRefusalOf, UiEvent.isFailureOf, Bool.false_or,
      Bool.or_false, Bool.and_eq_true, beq_iff_eq, List.contains_cons, List.contains_nil] at hends
    obtain ⟨rfl, rfl⟩ := hends
    simp only [settlesState, Bool.and_eq_true, bne_self_eq_false, Bool.false_or,
      bne_iff_ne] at hsettles
    simp only [fold, foldOperationFailed, hsettles.1, hstate, Bool.not_true, Bool.false_eq_true,
      ↓reduceIte]
    exact applyConnectionOutcome_ne rfl (.inr hsettles.2)
  | profileDeleted deleted unknown =>
    simp only [UiCommand.endedBy, UiEvent.isRefusalOf, UiEvent.isFailureOf, Bool.false_or,
      Bool.and_eq_true, beq_iff_eq] at hends
    simp only [settlesState, Bool.not_eq_true'] at hsettles
    rw [← hends.2]
    simp only [fold, foldDeleted, hsettles, Bool.false_eq_true, ↓reduceIte, Function.update_self]
    simp
  | _ => cases hends

end UiModel

namespace Board
open DbotterApp UiModel

/-! ## The invariant -/

/-- What waits, waits for a command on a lane without an answer, and what is active was
issued. -/
structure Pended (b : Board) (heard : List UiEvent) : Prop where
  pending : ∀ p o, b.connectionStates p = some (.pending o) → ∃ command identity,
    Open b heard command ∧ command.connectionIdentity = some identity ∧
      identity.profileId = p ∧ identity.operationId = o
  closing : ∀ p, b.connectionStates p = some .closing → ∃ request,
    Open b heard (.deleteProfile request) ∧ request.profileId = p
  active : ∀ p a, b.activeOperations p = some a →
    ∃ command ∈ b.sent, command.operationId = a.operationId ∧ command.isCancel = false
  displaced : ∀ p pending, b.pendingDeletes p = some pending → ∀ a, pending.priorActive = some a →
    ∃ command ∈ b.sent, command.operationId = a.operationId ∧ command.isCancel = false

/-- States that wait for no more than before, while nothing they wait for has been answered. -/
theorem Pended.of_fewer {b b' : Board} {heard heard' : List UiEvent} (h : Pended b heard)
    (hsent : ∀ command ∈ b.sent, command ∈ b'.sent)
    (hpending : ∀ p o, b'.connectionStates p = some (.pending o) →
      b.connectionStates p = some (.pending o) ∧
        ∀ command identity, command.connectionIdentity = some identity →
          identity.profileId = p → identity.operationId = o → Open b heard command →
          Open b' heard' command)
    (hclosing : ∀ p, b'.connectionStates p = some .closing →
      b.connectionStates p = some .closing ∧
        ∀ request, request.profileId = p → Open b heard (.deleteProfile request) →
          Open b' heard' (.deleteProfile request))
    (hactive : ∀ p a, b'.activeOperations p = some a → b.activeOperations p = some a ∨
      ∃ pending, b.pendingDeletes p = some pending ∧ pending.priorActive = some a)
    (hdisplaced : ∀ p pending', b'.pendingDeletes p = some pending' →
      ∃ pending, b.pendingDeletes p = some pending ∧
        pending'.priorActive = pending.priorActive) : Pended b' heard' := by
  refine ⟨fun p o hstate => ?_, fun p hstate => ?_, fun p a ha => ?_, fun p pending' hp a ha => ?_⟩
  · obtain ⟨hbefore, hopen⟩ := hpending p o hstate
    obtain ⟨command, identity, hcommand, hidentity, hp, ho⟩ := h.pending p o hbefore
    exact ⟨command, identity, hopen command identity hidentity hp ho hcommand, hidentity, hp, ho⟩
  · obtain ⟨hbefore, hopen⟩ := hclosing p hstate
    obtain ⟨request, hrequest, hp⟩ := h.closing p hbefore
    exact ⟨request, hopen request hp hrequest, hp⟩
  · obtain hbefore | ⟨pending, hpd, hprior⟩ := hactive p a ha
    · obtain ⟨command, hmem, hrest⟩ := h.active p a hbefore
      exact ⟨command, hsent command hmem, hrest⟩
    · obtain ⟨command, hmem, hrest⟩ := h.displaced p pending hpd a hprior
      exact ⟨command, hsent command hmem, hrest⟩
  · obtain ⟨pending, hpd, hprior⟩ := hdisplaced p pending' hp
    obtain ⟨command, hmem, hrest⟩ := h.displaced p pending hpd a (hprior ▸ ha)
    exact ⟨command, hsent command hmem, hrest⟩

/-! ## One step -/

/-- The states after a command has left its marks. -/
theorem Marks.states {command : UiCommand} {b b' : Board} (h : Marks command b b') :
    (∀ p o, b'.connectionStates p = some (.pending o) → b.connectionStates p = some (.pending o) ∨
        ∃ identity, command.connectionIdentity = some identity ∧ identity.profileId = p ∧
          identity.operationId = o) ∧
      ∀ p, b'.connectionStates p = some .closing → b.connectionStates p = some .closing ∨
        ∃ request, command = .deleteProfile request ∧ request.profileId = p := by
  have hpends : ∀ (c : Board) (identity : RequestIdentity) (kind : OperationKind) p state,
      c.connectionStates = b.connectionStates →
      ((c.setConnection identity.profileId (.pending identity.operationId)).activate identity
        kind).connectionStates p = some state →
      b.connectionStates p = some state ∨
        identity.profileId = p ∧ state = .pending identity.operationId := by
    intro c identity kind p state hc hstate
    simp only [activate, setConnection] at hstate
    by_cases hp : p = identity.profileId
    · subst hp
      rw [Function.update_self, Option.some_inj] at hstate
      exact .inr ⟨rfl, hstate.symm⟩
    · rw [Function.update_of_ne hp, hc] at hstate
      exact .inl hstate
  have hconnects : ∀ (identity : RequestIdentity),
      command.connectionIdentity = some identity →
      (∀ p state, b'.connectionStates p = some state → b.connectionStates p = some state ∨
        identity.profileId = p ∧ state = .pending identity.operationId) →
      (∀ p o, b'.connectionStates p = some (.pending o) →
        b.connectionStates p = some (.pending o) ∨ ∃ identity,
          command.connectionIdentity = some identity ∧ identity.profileId = p ∧
            identity.operationId = o) ∧
        ∀ p, b'.connectionStates p = some .closing → b.connectionStates p = some .closing ∨
          ∃ request, command = .deleteProfile request ∧ request.profileId = p := by
    intro identity hidentity hstates
    refine ⟨fun p o hstate => (hstates p _ hstate).imp_right ?_, fun p hstate => ?_⟩
    · rintro ⟨hp, ⟨⟩⟩
      exact ⟨identity, hidentity, hp, rfl⟩
    · exact .inl ((hstates p _ hstate).resolve_right (by simp))
  cases h with
  | connect _ identity timeoutMs =>
    exact hconnects identity rfl fun p state => hpends _ identity _ p state rfl
  | reconnect _ identity timeoutMs =>
    exact hconnects identity rfl fun p state => hpends _ identity _ p state rfl
  | disconnect _ identity =>
    exact hconnects identity rfl fun p state => hpends _ identity _ p state rfl
  | delete _ request =>
    have hstates : ∀ p state, Function.update b.connectionStates request.profileId
        (some .closing) p = some state → b.connectionStates p = some state ∨
        request.profileId = p ∧ state = .closing := by
      intro p state hstate
      by_cases hp : p = request.profileId
      · subst hp
        rw [Function.update_self, Option.some_inj] at hstate
        exact .inr ⟨rfl, hstate.symm⟩
      · rw [Function.update_of_ne hp] at hstate
        exact .inl hstate
    refine ⟨fun p o hstate => .inl ((hstates p _ hstate).resolve_right (by simp)), fun p hstate => ?_⟩
    exact (hstates p _ hstate).imp_right fun hp => ⟨request, rfl, hp.1⟩
  | _ => exact ⟨fun _ _ => .inl, fun _ => .inl⟩

theorem Step.merged_mono {b b' : Board} (h : Step b b') {command : UiCommand}
    (hmem : command ∈ b.merged) : command ∈ b'.merged := by
  cases h.issues with
  | nothing hsent hmerged => rwa [hmerged]
  | cancel other hcancel hissued | fresh other ho hissued =>
    obtain ⟨-, hmerged⟩ | ⟨-, hmerged⟩ := hissued
    · rwa [hmerged]
    · rw [hmerged]
      exact List.mem_append_left _ hmem

theorem Pended.step {b b' : Board} {heard : List UiEvent} (h : Pended b heard)
    (hb : Based b heard) (hmerged : ∀ command ∈ b'.merged, command.isCancel = true)
    (hstep : Step b b') : Pended b' heard := by
  have hopen : ∀ command : UiCommand, command.isCancel = false → Open b heard command →
      Open b' heard command := fun command hcancel hopen => hopen.step hcancel hb hstep
  have hsame (hstates : b'.connectionStates = b.connectionStates)
      (hactive : b'.activeOperations = b.activeOperations)
      (hdeletes : b'.pendingDeletes = b.pendingDeletes) : Pended b' heard := by
    refine h.of_fewer (fun _ => hstep.sent_mono) (fun p o hstate => ⟨hstates ▸ hstate, ?_⟩)
      (fun p hstate => ⟨hstates ▸ hstate, fun request _ => hopen _ rfl⟩)
      (fun p a ha => .inl (hactive ▸ ha)) fun p pending hp => ⟨pending, hdeletes ▸ hp, rfl⟩
    exact fun command identity hidentity _ _ =>
      hopen command (UiCommand.connectionIdentity_operationId hidentity).2
  cases hstep with
  | start command ho marks =>
    have hnew := marks.opens hb ho
    have hsent : ∀ c ∈ b.sent, c ∈ b'.sent := fun _ => (Step.start command ho marks).sent_mono
    obtain ⟨hpending, hclosing⟩ := marks.states
    obtain ⟨hactive, hdeletes⟩ := marks.tracks
    have hkept : ∀ a : ActiveOperation, (∃ c ∈ b.sent, c.operationId = a.operationId ∧
        c.isCancel = false) → ∃ c ∈ b'.sent, c.operationId = a.operationId ∧
        c.isCancel = false := fun a ⟨c, hmem, hrest⟩ => ⟨c, hsent c hmem, hrest⟩
    refine ⟨fun p o hstate => ?_, fun p hstate => ?_, fun p a ha => ?_, fun p pd hp a ha => ?_⟩
    · obtain hbefore | ⟨identity, hidentity, hp, ho⟩ := hpending p o hstate
      · obtain ⟨c, identity, hc, hidentity, hrest⟩ := h.pending p o hbefore
        exact ⟨c, identity, hopen c (UiCommand.connectionIdentity_operationId hidentity).2 hc,
          hidentity, hrest⟩
      · exact ⟨command, identity, hnew, hidentity, hp, ho⟩
    · obtain hbefore | ⟨request, rfl, hp⟩ := hclosing p hstate
      · obtain ⟨request, hrequest, hp⟩ := h.closing p hbefore
        exact ⟨request, hopen _ rfl hrequest, hp⟩
      · exact ⟨request, hnew, hp⟩
    · obtain hbefore | hidentity := hactive p a ha
      · exact hkept a (h.active p a hbefore)
      · exact ⟨command, hnew.sent, UiCommand.activeIdentity_operationId hidentity⟩
    · obtain hbefore | hprior := hdeletes p pd hp
      · exact hkept a (h.displaced p pd hbefore a ha)
      · exact hkept a (h.active p a (hprior ▸ ha))
  | merge command ho hlane marks =>
    have hcancel : command.isCancel = true := by
      refine hmerged command ?_
      rw [marks.frame.2.1]
      simp
    cases marks with
    | save _ editor hfree o form connect =>
      unfold ProfileEditor.saveCommand at hcancel
      split at hcancel <;> cases hcancel
    | _ => cases hcancel
  | _ => exact hsame rfl rfl rfl

/-! ## One event -/

/-- The state of its profile waits for this command. -/
def waitsFor (app : DbotterApp) (command : UiCommand) : Bool :=
  match command with
  | .testConnection identity _ | .reconnectProfile identity _ | .disconnectProfile identity =>
    app.model.connectionStates identity.profileId = some (.pending identity.operationId)
  | .deleteProfile request => app.model.connectionStates request.profileId = some .closing
  | _ => false

/-- The event answers a command that a connection state waits for, and the model does not fold
it into that state. -/
def stalls (m : Moment) : Bool :=
  m.app.port.sent.any fun command =>
    command.endedBy m.event && waitsFor m.app command && !m.app.model.settlesState m.event

section
variable {app : DbotterApp} {event : UiEvent} {heard : List UiEvent}

theorem settles_of_stalls {command : UiCommand} (hsettles : stalls ⟨app, event⟩ = false)
    (hmem : command ∈ app.port.sent) (hends : command.endedBy event)
    (hwaits : waitsFor app command = true) : app.model.settlesState event = true := by
  simp only [stalls, List.any_eq_false, Bool.and_eq_true, Bool.not_eq_true', not_and,
    Bool.not_eq_false] at hsettles
  exact hsettles command hmem ⟨hends, hwaits⟩

theorem waitsFor_connection {command : UiCommand} {identity : RequestIdentity}
    (hidentity : command.connectionIdentity = some identity)
    (hstate : app.model.connectionStates identity.profileId =
      some (.pending identity.operationId)) : waitsFor app command = true := by
  cases command <;> cases hidentity <;> exact decide_eq_true hstate

/-- The answers of Redis end no connection operation and no delete. -/
theorem Pended.dropped {b' : Board} (h : Pended app.board heard) (hb : Based app.board heard)
    (hredis : app.redisResourceEventDisposition event ≠ .notRedis)
    (hsent : b'.sent = app.board.sent)
    (hstates : b'.connectionStates = app.board.connectionStates)
    (hactive : ∀ p a, b'.activeOperations p = some a → app.activeOperations p = some a ∨
      ∃ pending, app.pendingDeletes p = some pending ∧ pending.priorActive = some a)
    (hdisplaced : ∀ p pending', b'.pendingDeletes p = some pending' →
      ∃ pending, app.pendingDeletes p = some pending ∧
        pending'.priorActive = pending.priorActive) : Pended b' (heard ++ [event]) := by
  refine h.of_fewer (fun command hmem => hsent ▸ hmem) (fun p o hstate => ⟨hstates ▸ hstate, ?_⟩)
    (fun p hstate => ⟨hstates ▸ hstate, ?_⟩) hactive hdisplaced
  · intro command identity hidentity _ _ hopen
    refine hopen.hear (UiCommand.connectionIdentity_operationId hidentity).2 hb hsent
      (Bool.eq_false_iff.2 fun hends => hredis ?_)
    obtain ⟨o, rfl⟩ | ⟨session, kind, summary, error, disposition, outcome, rfl, -⟩ |
      ⟨session, rfl⟩ | ⟨postClose, rfl⟩ := UiCommand.endedBy_connection hidentity hends <;> rfl
  · intro request _ hopen
    refine hopen.hear rfl hb hsent (Bool.eq_false_iff.2 fun hends => hredis ?_)
    cases event <;> first | rfl | cases hends

theorem Pended.settled (h : Pended app.board heard) (hb : Based app.board heard)
    (hsettles : stalls ⟨app, event⟩ = false) (hrunning : isShutdown event = false) :
    Pended (app.settled (app.attachRetryRecipe event)).board (heard ++ [event]) := by
  have hsent : (app.settled (app.attachRetryRecipe event)).board.sent = app.port.sent :=
    congrArg UiPort.sent (app.settled_port _)
  have hstates : (app.settled (app.attachRetryRecipe event)).board.connectionStates =
      (app.model.fold (app.attachRetryRecipe event)).connectionStates :=
    congrArg UiModel.connectionStates (app.settled_model _)
  have hshutdown : isShutdown (app.attachRetryRecipe event) = false := by
    rw [← hrunning]
    cases event <;> simp only [attachRetryRecipe] <;> split <;> rfl
  have hattached : app.model.settlesState (app.attachRetryRecipe event) =
      app.model.settlesState event := by
    cases event <;> simp only [attachRetryRecipe] <;> split <;> rfl
  refine h.of_fewer (fun command hmem => hsent ▸ hmem) (fun p o hstate => ?_)
    (fun p hstate => ?_) (fun p a ha => ?_) fun p pending' hpd => ?_
  · rw [hstates] at hstate
    have hbefore := fold_waits hshutdown hstate rfl
    refine ⟨hbefore, ?_⟩
    rintro command identity hidentity rfl rfl hopen
    refine hopen.hear (UiCommand.connectionIdentity_operationId hidentity).2 hb hsent
      (Bool.eq_false_iff.2 fun hends => ?_)
    have hsettled := settles_of_stalls hsettles hopen.sent hends
      (waitsFor_connection hidentity hbefore)
    exact fold_pending hidentity (by rwa [attachRetryRecipe_endedBy]) (hattached.trans hsettled)
      hbefore hstate
  · rw [hstates] at hstate
    have hbefore := fold_waits hshutdown hstate rfl
    refine ⟨hbefore, ?_⟩
    rintro request rfl hopen
    refine hopen.hear rfl hb hsent (Bool.eq_false_iff.2 fun hends => ?_)
    have hsettled := settles_of_stalls hsettles hopen.sent hends (decide_eq_true hbefore)
    exact fold_closing (by rwa [attachRetryRecipe_endedBy]) (hattached.trans hsettled) hbefore
      hstate
  · obtain ⟨-, -, hactive | ⟨pending, hpd, hprior, -⟩⟩ := settled_active ha
    · exact .inl hactive
    · exact .inr ⟨pending, hpd, hprior⟩
  · obtain ⟨-, pending, hbefore, -, -, hprior, -⟩ := settled_pending hpd
    exact ⟨pending, hbefore, hprior⟩

theorem Pended.consume
    (h : (∀ command ∈ app.board.merged, command.isCancel = true) → Pended app.board heard)
    (hb : Based app.board heard) (hexpected : Expected app.port.sent event)
    (hsettles : stalls ⟨app, event⟩ = false) (hrunning : isShutdown event = false)
    (hmerged : ∀ command ∈ (app.consumeEvent event).board.merged, command.isCancel = true) :
    Pended (app.consumeEvent event).board (heard ++ [event]) := by
  obtain ⟨hignore, heq⟩ | ⟨⟨o, hstale⟩, heq⟩ | ⟨-, hreaches⟩ := consumeEvent_board app event
  · rw [heq] at hmerged ⊢
    exact (h hmerged).dropped hb (by simp [hignore]) rfl rfl (fun p a => .inl)
      fun p pending hpd => ⟨pending, hpd, rfl⟩
  · rw [heq, onlyOperations_board (app.finishActiveOperation_only event)] at hmerged ⊢
    refine (h hmerged).dropped hb (by simp [hstale]) rfl rfl (fun p a ha => ?_)
      fun p pending' hpd => ?_
    · obtain ⟨-, -, hactive | ⟨pending, hpd, hprior, -⟩⟩ := finishActiveOperation_active ha
      · exact .inl hactive
      · exact .inr ⟨pending, hpd, hprior⟩
    · obtain ⟨-, pending, hbefore, -, -, hprior, -⟩ := finishActiveOperation_pending hpd
      exact ⟨pending, hbefore, hprior⟩
  · refine (hb.settled hexpected).keeps
      (I := fun b heard => (∀ command ∈ b.merged, command.isCancel = true) → Pended b heard)
      (fun hb hstep h hmerged => ?_) hreaches (fun hmerged => ?_) hmerged
    · exact (h fun command hmem => hmerged command (hstep.merged_mono hmem)).step hb hmerged hstep
    · refine (h fun command hmem => hmerged command ?_).settled hb hsettles hrunning
      show command ∈ (app.settled (app.attachRetryRecipe event)).port.merged
      rwa [app.settled_port]

end

theorem pended_keeps : Keeps (fun m => stalls m = false ∧ isShutdown m.event = false)
    fun b heard => (∀ command ∈ b.merged, command.isCancel = true) → Pended b heard where
  start _ := ⟨fun _ _ h => (nomatch h), fun _ h => (nomatch h), fun _ _ h => (nomatch h),
    fun _ _ h => (nomatch h)⟩
  step hb hstep h hmerged :=
    (h fun command hmem => hmerged command (hstep.merged_mono hmem)).step hb hmerged hstep
  consume hb hexpected hmoment h := .consume h hb hexpected hmoment.1 hmoment.2
  prune {app heard} h := by
    rw [prune_board]
    intro hmerged
    refine (h hmerged).of_fewer (fun _ => id)
      (fun p o hstate => ⟨hstate, fun _ _ _ _ _ hopen => hopen.congr rfl⟩)
      (fun p hstate => ⟨hstate, fun _ _ hopen => hopen.congr rfl⟩) (fun p a ha => .inl ?_)
      fun p pending hpd => ⟨pending, ?_, rfl⟩
    · exact (Option.filter_eq_some_iff.1 ha).1
    · exact (Option.filter_eq_some_iff.1 hpd).1
  events _ h hmerged := by
    refine (h hmerged).of_fewer (fun _ => id)
      (fun p o hstate => ⟨hstate, fun _ _ _ _ _ hopen => hopen.congr rfl⟩)
      (fun p hstate => ⟨hstate, fun _ _ hopen => hopen.congr rfl⟩) (fun p a => .inl)
      fun p pending hpd => ⟨pending, hpd, rfl⟩

end Board

namespace Desktop
open Board DbotterApp UiModel

/-- **Connection states.** As long as no disconnect or reconnect is merged into an earlier one,
every answer is folded into the state that waits for it and the runtime has not ended, a state
waits only for a command that is on a lane and has not been answered, and the active operations
are those of commands on a lane. -/
theorem run_states_wait (moves : List Move)
    (hmerged : ∀ command ∈ (run moves).app.port.merged, command.isCancel = true)
    (hsettles : ∀ m ∈ (run moves).consumed, stalls m = false)
    (hrunning : ∀ m ∈ (run moves).consumed, isShutdown m.event = false) :
    (∀ p o, (run moves).app.model.connectionStates p = some (.pending o) →
        (∃ command ∈ (run moves).app.port.sent,
          command.operationId = o ∧ command.isCancel = false) ∧
        ¬Ended (run moves).app.port.sent (run moves).heard o) ∧
      (∀ p a, (run moves).app.activeOperations p = some a →
        ∃ command ∈ (run moves).app.port.sent,
          command.operationId = a.operationId ∧ command.isCancel = false) ∧
      ∀ p, (run moves).app.model.connectionStates p = some .closing →
        ∃ request, .deleteProfile request ∈ (run moves).app.port.sent ∧ request.profileId = p ∧
          ¬Ended (run moves).app.port.sent (run moves).heard request.operationId := by
  have h := (run_sound pended_keeps.kept moves).holds
    (fun m hm => ⟨hsettles m hm, hrunning m hm⟩) hmerged
  refine ⟨fun p o hstate => ?_, fun p a ha => h.active p a ha, fun p hstate => ?_⟩
  · obtain ⟨command, identity, hopen, hidentity, -, rfl⟩ := h.pending p o hstate
    obtain ⟨ho, hcancel⟩ := UiCommand.connectionIdentity_operationId hidentity
    exact ⟨⟨command, hopen.sent, ho, hcancel⟩, ho ▸ hopen.not_ended⟩
  · obtain ⟨request, hopen, hp⟩ := h.closing p hstate
    exact ⟨request, hopen.sent, hp, hopen.not_ended⟩

/-- A connection is under way. -/
def connecting : List Move := firstLoad .mySql ++ [.act (.connect "p".toList)]

theorem run_states_wait_connecting :
    (run connecting).app.model.connectionStates "p".toList = some (.pending 2) ∧
      ¬Ended (run connecting).app.port.sent (run connecting).heard 2 := by
  have hstate : (run connecting).app.model.connectionStates "p".toList = some (.pending 2) := by
    decide +kernel
  have h := run_states_wait connecting (by decide +kernel) (by decide +kernel) (by decide +kernel)
  exact ⟨hstate, (h.1 _ _ hstate).2⟩

/-- A delete is refused for want of a permit, and its profile goes on closing. -/
def deleteRefused : List Move :=
  firstLoad .mySql ++ [.act (.openDelete (firstProfile .mySql)), .act .confirmDelete] ++
    hears (failedProfileEvent ⟨"p".toList, 1, 2⟩ .deleteProfile .resourceBusy)

theorem closing_after_refusal :
    (run deleteRefused).app.model.connectionStates "p".toList = some .closing ∧
      (run deleteRefused).app.model.configUncertain = false ∧
      (∀ m ∈ (run deleteRefused).consumed, isShutdown m.event = false) ∧
      ∀ command ∈ (run deleteRefused).app.port.sent,
        Ended (run deleteRefused).app.port.sent (run deleteRefused).heard command.operationId := by
  decide +kernel

end Desktop

end Dbotter.Ui
