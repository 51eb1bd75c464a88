import Mathlib.Data.List.AList
import Dbotter.Ui.Desktop

/-!
The registry of the tasks that the controller has spawned, what the tasks send to the controller,
and the events with which it reports that one of them failed.

What a task computes is left to the service; a task is known here by what it was spawned for,
by how it may end and by the one message with which it says so.
-/

namespace Dbotter.Ui
open Dbotter.Utf8 Dbotter.Configuration Dbotter.Service Dbotter.Drivers

/-! ## The registry -/

/-- The index of a spawned task, which is what its join handle stands for. -/
abbrev TaskId := Nat

/-- A terminal token, by the order in which they were made. -/
abbrev Terminal := Nat

inductive TaskScope
  | profile (profileId : ProfileId) (profileGeneration : ProfileGeneration)
      (sessionGeneration : Option SessionGeneration)
  | draft (draftId : DraftId)
  | exported (resultId : ResultId)
  | globalScope
  deriving DecidableEq

inductive TaskClass
  | asyncNetwork
  | mutation
  | exportFile
  deriving DecidableEq

/-- The format and the overwrite policy of an export are left out, as in the events. -/
inductive FailureContext
  | profile (profileId : ProfileId) (profileGeneration : ProfileGeneration) (kind : OperationKind)
  | draft (draftId : DraftId) (kind : OperationKind)
  | exported (resultId : ResultId)
  | profiles
  deriving DecidableEq

/-- `RegistryEntry` with its `RegisteredTask`. The cancellation token of the task and its
`completion_sent` are shared with the task and stand there. -/
structure RegistryEntry where
  operationId : OperationId
  scope : TaskScope
  join : TaskId
  taskClass : TaskClass
  failure : FailureContext
  terminal : Terminal
  cleanupStarted : Bool

def RegistryEntry.isNetworkOfId (entry : RegistryEntry) (profileId : ProfileId) : Bool :=
  entry.taskClass == .asyncNetwork &&
    match entry.scope with
    | .profile registered _ _ => registered == profileId
    | _ => false

def RegistryEntry.isNetworkOf (entry : RegistryEntry) (profileId : ProfileId)
    (profileGeneration : ProfileGeneration) : Bool :=
  entry.taskClass == .asyncNetwork &&
    match entry.scope with
    | .profile registered generation _ => registered == profileId && generation == profileGeneration
    | _ => false

structure TaskRegistry where
  entries : AList (fun _ : OperationId => RegistryEntry) := ∅
  reserved : Finset OperationId := ∅

namespace TaskRegistry

def reserve (registry : TaskRegistry) (operationId : OperationId) : Option TaskRegistry :=
  if operationId ∈ registry.entries ∨ operationId ∈ registry.reserved then none
  else some { registry with reserved := insert operationId registry.reserved }

def releaseReservation (registry : TaskRegistry) (operationId : OperationId) : TaskRegistry :=
  { registry with reserved := registry.reserved.erase operationId }

/-- `insert_with_state`, and whether the entry went in. -/
def insertWithState (registry : TaskRegistry) (entry : RegistryEntry) : TaskRegistry × Bool :=
  if entry.operationId ∈ registry.entries then (registry, false)
  else ({ registry with entries := registry.entries.insert entry.operationId entry }, true)

def commitReservationWithState (registry : TaskRegistry) (reservation : OperationId)
    (entry : RegistryEntry) : TaskRegistry × Bool :=
  if reservation ≠ entry.operationId ∨ reservation ∉ registry.reserved then (registry, false)
  else (registry.releaseReservation reservation).insertWithState entry

def updateSession (registry : TaskRegistry) (operationId : OperationId)
    (sessionGeneration : SessionGeneration) : TaskRegistry :=
  match registry.entries.lookup operationId with
  | some entry =>
    match entry.scope with
    | .profile profileId profileGeneration _ =>
      { registry with
        entries := registry.entries.insert operationId
          { entry with scope := .profile profileId profileGeneration (some sessionGeneration) } }
    | _ => registry
  | none => registry

def values (registry : TaskRegistry) : List RegistryEntry :=
  registry.entries.entries.map (·.2)

def take (registry : TaskRegistry) (operationId : OperationId) :
    Option (RegistryEntry × TaskRegistry) :=
  (registry.entries.lookup operationId).map fun entry =>
    (entry, { registry with entries := registry.entries.erase operationId })

/-- The entries that satisfy a test, taken out of the registry. -/
def takeWhere (registry : TaskRegistry) (test : RegistryEntry → Bool) :
    List RegistryEntry × TaskRegistry :=
  let taken := registry.values.filter test
  (taken, { registry with
    entries := taken.foldl (fun entries entry => entries.erase entry.operationId)
      registry.entries })

def activeExport (registry : TaskRegistry) (resultId : ResultId) : Bool :=
  registry.values.any fun entry =>
    entry.taskClass == .exportFile && entry.scope == .exported resultId

def hasProfileNetworkForId (registry : TaskRegistry) (profileId : ProfileId) : Bool :=
  registry.values.any (·.isNetworkOfId profileId)

def hasProfileNetwork (registry : TaskRegistry) (profileId : ProfileId)
    (profileGeneration : ProfileGeneration) : Bool :=
  registry.values.any (·.isNetworkOf profileId profileGeneration)

def hasBoundedShutdownWork (registry : TaskRegistry) : Bool :=
  registry.values.any (·.taskClass == .asyncNetwork)

def takeAllBoundedShutdownEntries (registry : TaskRegistry) : List RegistryEntry × TaskRegistry :=
  registry.takeWhere (·.taskClass == .asyncNetwork)

/-- Each entry stands under its own operation. -/
def Keyed (registry : TaskRegistry) : Prop :=
  ∀ operationId entry, registry.entries.lookup operationId = some entry →
    entry.operationId = operationId

variable {registry : TaskRegistry} {operationId : OperationId} {entry : RegistryEntry}

theorem Keyed.insert (h : registry.Keyed) (entry : RegistryEntry) :
    Keyed { registry with entries := registry.entries.insert entry.operationId entry } := by
  intro other found hfound
  by_cases hother : other = entry.operationId
  · subst hother
    rw [AList.lookup_insert] at hfound
    exact Option.some.inj hfound ▸ rfl
  · rw [AList.lookup_insert_ne hother] at hfound
    exact h other found hfound

theorem Keyed.erase (h : registry.Keyed) :
    Keyed { registry with entries := registry.entries.erase operationId } := by
  intro other found hfound
  by_cases hother : other = operationId
  · subst hother
    rw [AList.lookup_erase] at hfound
    cases hfound
  · rw [AList.lookup_erase_ne hother] at hfound
    exact h other found hfound

theorem mem_values :
    entry ∈ registry.values ↔ ∃ operationId, registry.entries.lookup operationId = some entry := by
  simp only [values, List.mem_map]
  constructor
  · rintro ⟨⟨operationId, found⟩, hmem, rfl⟩
    exact ⟨operationId, AList.mem_lookup_iff.2 hmem⟩
  · rintro ⟨operationId, hlookup⟩
    exact ⟨⟨operationId, entry⟩, AList.mem_lookup_iff.1 hlookup, rfl⟩

theorem Keyed.lookup_of_mem (h : registry.Keyed) (hmem : entry ∈ registry.values) :
    registry.entries.lookup entry.operationId = some entry := by
  obtain ⟨operationId, hlookup⟩ := mem_values.1 hmem
  rwa [h operationId entry hlookup]

theorem values_insert (h : operationId ∉ registry.entries) :
    values { registry with entries := registry.entries.insert operationId entry } =
      entry :: registry.values := by
  simp only [values, AList.entries_insert_of_notMem h, List.map_cons]

theorem values_perm_erase (h : registry.entries.lookup operationId = some entry) :
    registry.values.Perm
      (entry :: values { registry with entries := registry.entries.erase operationId }) := by
  have hkey : operationId ∈ registry.entries.entries.keys :=
    AList.lookup_isSome.1 (by rw [h]; rfl)
  obtain ⟨found, before, after, -, hsplit, herase⟩ := List.exists_of_kerase hkey
  have hfound : registry.entries.lookup operationId = some found :=
    AList.mem_lookup_iff.2 (by simp [hsplit])
  obtain rfl : entry = found := Option.some.inj (h.symm.trans hfound)
  have hkept : values { registry with entries := registry.entries.erase operationId } =
      (before ++ after).map (·.2) := by
    rw [← herase]
    rfl
  rw [hkept, values, hsplit]
  simp only [List.map_append, List.map_cons]
  exact List.perm_middle

/-- An entry that is put in another's place. -/
theorem values_replace (h : registry.entries.lookup operationId = some entry)
    (replaced : RegistryEntry) :
    ∃ rest, registry.values.Perm (entry :: rest) ∧
      values { registry with entries := registry.entries.insert operationId replaced } =
        replaced :: rest :=
  ⟨_, values_perm_erase h, rfl⟩

/-- A session is recorded in the entry of a profile, and in no other. -/
theorem updateSession_cases (registry : TaskRegistry) (operationId : OperationId)
    (sessionGeneration : SessionGeneration) :
    registry.updateSession operationId sessionGeneration = registry ∨
      ∃ entry profileId profileGeneration session,
        registry.entries.lookup operationId = some entry ∧
          entry.scope = .profile profileId profileGeneration session ∧
          registry.updateSession operationId sessionGeneration =
            { registry with
              entries := registry.entries.insert operationId
                { entry with
                  scope := .profile profileId profileGeneration (some sessionGeneration) } } := by
  unfold updateSession
  split
  · rename_i entry hlookup
    split
    · rename_i hscope
      exact .inr ⟨entry, _, _, _, hlookup, hscope, rfl⟩
    · exact .inl rfl
  · exact .inl rfl

theorem reserve_eq_some {reserved : TaskRegistry} (h : registry.reserve operationId = some reserved) :
    operationId ∉ registry.entries ∧ operationId ∉ registry.reserved ∧
      reserved = { registry with reserved := insert operationId registry.reserved } := by
  simp only [reserve] at h
  split at h
  · cases h
  · rename_i hfree
    rw [not_or] at hfree
    exact ⟨hfree.1, hfree.2, (Option.some.inj h).symm⟩

/-- A reservation that was made is committed, and is gone with that. -/
theorem commit_of_reserve (entry : RegistryEntry) {reserved : TaskRegistry}
    (h : registry.reserve entry.operationId = some reserved) :
    reserved.commitReservationWithState entry.operationId entry =
      ({ registry with entries := registry.entries.insert entry.operationId entry }, true) := by
  obtain ⟨hentries, hreserved, rfl⟩ := reserve_eq_some h
  simp [commitReservationWithState, insertWithState, releaseReservation, hentries,
    Finset.erase_insert hreserved]

theorem release_of_reserve {reserved : TaskRegistry}
    (h : registry.reserve operationId = some reserved) :
    reserved.releaseReservation operationId = registry := by
  obtain ⟨-, hreserved, rfl⟩ := reserve_eq_some h
  simp [releaseReservation, Finset.erase_insert hreserved]

theorem foldl_erase_values {taken rest : List RegistryEntry} (hkeyed : registry.Keyed)
    (hperm : registry.values.Perm (taken ++ rest)) :
    let erased : TaskRegistry := { registry with
      entries := taken.foldl (fun entries entry => entries.erase entry.operationId)
        registry.entries }
    erased.values.Perm rest ∧ erased.Keyed := by
  induction taken generalizing registry with
  | nil => exact ⟨hperm, hkeyed⟩
  | cons entry taken ih =>
    have hmem : entry ∈ registry.values := hperm.mem_iff.2 (by simp)
    have hlookup := hkeyed.lookup_of_mem hmem
    have herase := (values_perm_erase hlookup).symm.trans hperm
    exact @ih { registry with entries := registry.entries.erase entry.operationId } hkeyed.erase
      ((List.perm_cons entry).1 herase)

/-- What is taken out and what is left are the entries that there were. -/
theorem takeWhere_values (hkeyed : registry.Keyed) (test : RegistryEntry → Bool) :
    registry.values.Perm ((registry.takeWhere test).1 ++ (registry.takeWhere test).2.values) ∧
      (registry.takeWhere test).2.Keyed := by
  have hsplit : registry.values.Perm
      (registry.values.filter test ++ registry.values.filter fun entry => !test entry) :=
    (List.filter_append_perm test registry.values).symm
  obtain ⟨hvalues, hkeyed'⟩ := foldl_erase_values hkeyed hsplit
  exact ⟨hsplit.trans (hvalues.symm.append_left _), hkeyed'⟩

end TaskRegistry

/-! ## Tasks and their messages -/

/-- What a task hands to the controller. Of the result of a mutation the targets of its cleanup
are kept; the event that it ends with is the service's. -/
inductive TaskOutput
  | event (event : UiEvent)
  | reload (operationId : OperationId) (targets : List (ProfileId × ProfileGeneration))
  | create (operationId : OperationId) (draftId : DraftId)
      (targets : List (ProfileId × ProfileGeneration))
  | update (operationId : OperationId) (profileId : ProfileId)
      (previousGeneration : ProfileGeneration) (targets : List (ProfileId × ProfileGeneration))
  | delete (operationId : OperationId) (profileId : ProfileId)
      (previousGeneration : ProfileGeneration) (targets : List (ProfileId × ProfileGeneration))

namespace TaskOutput

def operationId : TaskOutput → OperationId
  | .event reported => reported.operationId
  | .reload operationId _ | .create operationId _ _ | .update operationId _ _ _
  | .delete operationId _ _ _ => operationId

def isEvent : TaskOutput → Bool
  | .event _ => true
  | _ => false

def targets : TaskOutput → List (ProfileId × ProfileGeneration)
  | .event _ => []
  | .reload _ targets | .create _ _ targets | .update _ _ _ targets | .delete _ _ _ targets =>
    targets

/-- `finish_task_output`: the events with which the service may finish an output. -/
def finishedBy (output : TaskOutput) (hadActive : Bool) (event : UiEvent) : Bool :=
  match output with
  | .event own => event == own
  | .reload operationId _ =>
    event.isRefusalOf operationId || match event with
      | .profilesLoaded o _ _ | .profilesFailed o _ _ => o == operationId
      | _ => false
  | .create operationId draftId _ =>
    event.isRefusalOf operationId || match event with
      | .profileSaved o _ previous _ retained _ => o == operationId && previous == none && !retained
      | .profileCreateFailed o draft _ _ => o == operationId && draft == draftId
      | _ => false
  | .update operationId profileId previousGeneration _ =>
    event.isRefusalOf operationId || match event with
      | .profileSaved o _ previous _ _ _ =>
        o == operationId && previous == some previousGeneration
      | .profileUpdateFailed failed _ _ => failed == ⟨profileId, previousGeneration, operationId⟩
      | _ => false
  | .delete operationId profileId previousGeneration _ =>
    event.isRefusalOf operationId ||
      event.isFailureOf ⟨profileId, previousGeneration, operationId⟩ [.deleteProfile] ||
      match event with
      | .profileDeleted deleted unknown => deleted.operationId == operationId && unknown == hadActive
      | _ => false

theorem finishedBy_operationId {output : TaskOutput} {hadActive : Bool} {event : UiEvent}
    (h : output.finishedBy hadActive event) : event.operationId = output.operationId := by
  cases output with
  | event own =>
    have heq : event = own := by simpa [finishedBy] using h
    rw [heq]
    rfl
  | _ =>
    cases event <;>
      simp [finishedBy, UiEvent.isRefusalOf, UiEvent.isFailureOf, UiEvent.operationId, operationId]
        at h ⊢ <;> grind

end TaskOutput

/-- The outputs of `run_profile_work`, `run_profile_control`, `run_draft_work`, an export and
`run_mutation` for a command. -/
def UiCommand.mayOutput (command : UiCommand) (output : TaskOutput) : Bool :=
  match command, output with
  | .refreshProfiles operationId, .reload o _ => o == operationId
  | .createProfile request, .create o draftId _ =>
    o == request.operationId && draftId == request.draftId
  | .updateProfile request, .update o profileId previous _
  | .deleteProfile request, .delete o profileId previous _ =>
    o == request.operationId && profileId == request.profileId &&
      previous == request.expectedGeneration
  | .refreshProfiles _, _ | .createProfile _, _ | .updateProfile _, _ | .deleteProfile _, _ => false
  | command, .event event => command.endedBy event
  | _, _ => false

theorem UiCommand.mayOutput_operationId {command : UiCommand} {output : TaskOutput}
    (h : command.mayOutput output) : output.operationId = command.operationId := by
  unfold mayOutput at h
  split at h
  case h_9 => exact UiCommand.endedBy_operationId h
  all_goals simp_all [TaskOutput.operationId, UiCommand.operationId]

inductive ControllerMessage
  | sessionAcquired (operationId : OperationId) (sessionGeneration : SessionGeneration)
  | completed (operationId : OperationId) (output : TaskOutput)

inductive TaskWork
  | command (command : UiCommand) (targets : List Terminal)
  | completion (output : TaskOutput) (waiters : List Terminal) (hadActive : Bool)
  | cleanup (scope : TaskScope) (failure : FailureContext)

inductive TaskStatus
  | running
  | returned
  | failed
  deriving DecidableEq

/-- A task that was registered and started. It waits for its registration before it does
anything, so one whose registration failed does nothing and is left out. -/
structure SpawnedTask where
  operationId : OperationId
  work : TaskWork
  cleaned : Bool := false
  completionSent : Bool := false
  cancelled : Bool := false
  status : TaskStatus := .running

/-! ## Failures -/

def publicGlobalError (kind : OperationKind) (operationId : OperationId) (summary : PublicSummary)
    (code : PublicCode) : PublicOperationError :=
  .newOrInternal kind summary code (.globalScope operationId)

def publicDraftError (kind : OperationKind) (draftId : DraftId) (operationId : OperationId)
    (summary : PublicSummary) (code : PublicCode) : PublicOperationError :=
  .newOrInternal kind summary code (.draft draftId operationId)

def profilesFailedEvent (operationId : OperationId) (summary : PublicSummary)
    (code : PublicCode) : UiEvent :=
  .profilesFailed operationId summary
    (publicGlobalError .reloadConfiguration operationId summary code)

def draftFailedEvent (operationId : OperationId) (draftId : DraftId) (kind : OperationKind)
    (summary : PublicSummary) (code : PublicCode) : UiEvent :=
  let error := publicDraftError kind draftId operationId summary code
  if kind = .createProfile then .profileCreateFailed operationId draftId summary error
  else .draftOperationFailed operationId draftId summary error

def resultExportFailedEvent (operationId : OperationId) (resultId : ResultId)
    (summary : PublicSummary) (code : PublicCode) (destinationCommitted : Bool) : UiEvent :=
  .resultExportFailed operationId resultId
    (.newOrInternal .exportResult summary code
      (.exported resultId operationId destinationCommitted))

def failedProfileEventWithCode (identity : RequestIdentity)
    (sessionGeneration : Option SessionGeneration) (kind : OperationKind)
    (summary : PublicSummary) (code : PublicCode) : UiEvent :=
  let disposition : SessionDisposition :=
    match summary with
    | .credentialRequired | .authenticationFailed | .networkUnavailable | .tlsVerificationFailed
    | .operationCancelled | .operationTimedOut => .evict
    | _ => .keep
  .operationFailed identity sessionGeneration kind summary
    (publicProfileError kind identity summary code) (sessionGeneration.map fun _ => disposition)
    (connectionOutcomeForSummary summary)

def profileUpdateFailedEvent (identity : RequestIdentity) (summary : PublicSummary)
    (code : PublicCode) : UiEvent :=
  .profileUpdateFailed identity summary (publicProfileError .updateProfile identity summary code)

def credentialsStoreFailedEventWithParts (identity : RequestIdentity) (summary : PublicSummary)
    (code : PublicCode) : UiEvent :=
  let error := PublicOperationError.newOrInternal .updateProfile summary code
    (.profile identity.profileId identity.operationId none none)
  .credentialsStoreFailed identity error.summary error

def failureForUnavailable (command : UiCommand) (summary : PublicSummary) : UiEvent :=
  match command with
  | .refreshProfiles operationId | .cancelOperation operationId | .shutdownRuntime operationId =>
    profilesFailedEvent operationId summary .none
  | .browseCatalog request =>
    .catalogPageFailed request summary
      (publicProfileError .browseMySql request.identity summary .none) none none
  | .scanRedisKeys request =>
    .redisKeysFailed request (publicProfileError .browseRedis request.identity summary .none)
      none none (connectionOutcomeForSummary summary)
  | .inspectRedisKey request =>
    .redisKeyInspectFailed request
      (publicProfileError .inspectRedis request.identity summary .none) none none
      (connectionOutcomeForSummary summary)
  | .createProfile request =>
    draftFailedEvent request.operationId request.draftId .createProfile summary .none
  | .updateProfile request =>
    profileUpdateFailedEvent ⟨request.profileId, request.expectedGeneration, request.operationId⟩
      summary .none
  | .deleteProfile request =>
    failedProfileEventWithCode
      ⟨request.profileId, request.expectedGeneration, request.operationId⟩ none .deleteProfile
      summary .none
  | .storeCredentials identity _ _ => credentialsStoreFailedEventWithParts identity summary .none
  | .testConnection identity _ =>
    failedProfileEventWithCode identity none .connectProfile summary .none
  | .prepareDraftConnectionTest operationId draftId =>
    draftFailedEvent operationId draftId .testDraftConnection summary .none
  | .execute identity _ _ _ _ => .executeUnavailable identity summary
  | .exportResult operationId resultId =>
    resultExportFailedEvent operationId resultId summary .none false
  | .disconnectProfile identity =>
    failedProfileEventWithCode identity none .disconnectProfile summary .none
  | .reconnectProfile identity _ =>
    failedProfileEventWithCode identity none .reconnectProfile summary .none

def internalFailureEvent (operationId : OperationId) : FailureContext → UiEvent
  | .profile profileId profileGeneration kind =>
    failedProfileEventWithCode ⟨profileId, profileGeneration, operationId⟩ none kind
      .internalFailure .none
  | .profiles => profilesFailedEvent operationId .internalFailure .none
  | .draft draftId kind => draftFailedEvent operationId draftId kind .internalFailure .none
  | .exported resultId => resultExportFailedEvent operationId resultId .internalFailure .none false

theorem draftFailedEvent_operationId (operationId : OperationId) (draftId : DraftId)
    (kind : OperationKind) (summary : PublicSummary) (code : PublicCode) :
    (draftFailedEvent operationId draftId kind summary code).operationId = operationId := by
  unfold draftFailedEvent
  split <;> rfl

theorem failureForUnavailable_operationId (command : UiCommand) (summary : PublicSummary) :
    (failureForUnavailable command summary).operationId = command.operationId := by
  cases command with
  | createProfile request =>
    exact draftFailedEvent_operationId request.operationId request.draftId .createProfile summary
      .none
  | prepareDraftConnectionTest operationId draftId =>
    exact draftFailedEvent_operationId operationId draftId .testDraftConnection summary .none
  | _ => rfl

/-- An internal failure is reported under the operation that failed. -/
theorem internalFailureEvent_operationId (operationId : OperationId) (failure : FailureContext) :
    (internalFailureEvent operationId failure).operationId = operationId := by
  cases failure with
  | draft draftId kind =>
    exact draftFailedEvent_operationId operationId draftId kind .internalFailure .none
  | _ => rfl

end Dbotter.Ui
