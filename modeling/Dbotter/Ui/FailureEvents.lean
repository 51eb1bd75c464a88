import Dbotter.Service.ErrorParts
import Dbotter.Ui.TaskRegistry

/-!
How the runtime reports the failures of its tasks.

Each `run_*` function of the runtime turns the course of its task into one event. An error of
the service goes through such a function with its summary, and on most paths with its code.
-/

namespace Dbotter.Ui
open Dbotter.Utf8 Dbotter.Configuration Dbotter.Drivers Dbotter.Service

/-! ## The course of a task -/

/-- A task is stopped by its token or its deadline, or its blocking work is lost. -/
inductive Interruption
  | cancelled
  | timedOut
  | lost

def Interruption.summary : Interruption → PublicSummary
  | .cancelled => .operationCancelled
  | .timedOut => .operationTimedOut
  | .lost => .internalFailure

/-- A task that works on a session. It is refused where its request is not prepared or its
session is not acquired; after the work its session is observed once more. -/
inductive Progress (ρ : Type)
  | interrupted (stop : Interruption)
  | refused (error : ServiceError)
  | ran (session : SessionGeneration) (attempt : Except Interruption (Except DriverError ρ))
      (observation : Except ServiceError Unit)

variable {ρ : Type}

/-! ## Failure events -/

def failedFromService (identity : RequestIdentity) (session : Option SessionGeneration)
    (kind : OperationKind) (error : ServiceError) : UiEvent :=
  failedProfileEventWithCode identity session kind error.publicSummary error.publicCode

def connectionOutcomeForDisposition : SessionDisposition → ConnectionFailureOutcome
  | .keep => .preserve
  | .evict => .disconnected

def failedProfileEventWithDisposition (identity : RequestIdentity) (session : SessionGeneration)
    (kind : OperationKind) (summary : PublicSummary) (code : PublicCode)
    (disposition : SessionDisposition) : UiEvent :=
  .operationFailed identity (some session) kind summary
    (publicProfileError kind identity summary code) (some disposition)
    (connectionOutcomeForDisposition disposition)

/-- `catalog_failed_event`: the code of the error is not asked for. -/
def catalogFailedEvent (request : CatalogRequest) (summary : PublicSummary)
    (session : Option SessionGeneration) (disposition : Option SessionDisposition) : UiEvent :=
  .catalogPageFailed request summary
    (publicProfileError .browseMySql request.identity summary .none) session disposition

def credentialsStoreFailedEvent (identity : RequestIdentity) (error : ServiceError) : UiEvent :=
  credentialsStoreFailedEventWithParts identity error.publicSummary error.publicCode

/-! ## Tasks of a profile -/

/-- The ping of a new session is reported by its summary alone. -/
def runConnect (identity : RequestIdentity) (kind : OperationKind) : Progress Unit → UiEvent
  | .interrupted stop => failedProfileEventWithCode identity none kind stop.summary .none
  | .refused error => failedFromService identity none kind error
  | .ran session attempt observation =>
    let result : Except PublicSummary Unit :=
      match attempt with
      | .error stop => .error stop.summary
      | .ok (.ok ()) => .ok ()
      | .ok (.error error) => .error (ServiceError.driver error).publicSummary
    match result, observation with
    | .ok (), .ok () => .connectionReady identity session
    | .error summary, _ => failedProfileEventWithCode identity (some session) kind summary .none
    | .ok (), .error error => failedFromService identity (some session) kind error

def runExecute (identity : RequestIdentity) (kind : OperationKind) :
    Progress ResultSnapshot → UiEvent
  | .interrupted stop => failedProfileEventWithCode identity none kind stop.summary .none
  | .refused error => failedFromService identity none kind error
  | .ran session attempt observation =>
    match attempt, observation with
    | .ok (.ok result), .ok () => .queryFinished identity session result
    | .ok (.error error), .ok () =>
      let failure := ServiceError.driver error
      failedProfileEventWithDisposition identity session kind failure.publicSummary
        failure.publicCode (.forDriverError error)
    | .error stop, _ => failedProfileEventWithCode identity (some session) kind stop.summary .none
    | .ok _, .error error => failedFromService identity (some session) kind error

def runCatalogBrowse (request : CatalogRequest) : Progress CatalogPage → UiEvent
  | .interrupted stop => catalogFailedEvent request stop.summary none none
  | .refused error => catalogFailedEvent request error.publicSummary none none
  | .ran session attempt observation =>
    match attempt, observation with
    | .ok (.ok page), .ok () => .catalogPageLoaded page session .keep
    | .ok (.error error), .ok () =>
      catalogFailedEvent request (ServiceError.driver error).publicSummary (some session)
        (some (.forDriverError error))
    | .ok _, .error error =>
      catalogFailedEvent request error.publicSummary (some session) (some .evict)
    | .error stop, _ => catalogFailedEvent request stop.summary (some session) (some .evict)

/-- The common course of `run_redis_scan` and `run_redis_inspect`. -/
def runRedisResource (kind : OperationKind) (identity : RequestIdentity)
    (loaded : ρ → SessionGeneration → UiEvent)
    (failed : PublicOperationError → Option SessionGeneration → Option SessionDisposition →
      ConnectionFailureOutcome → UiEvent) : Progress ρ → UiEvent
  | .interrupted stop =>
    failed (publicProfileError kind identity stop.summary .none) none none
      (connectionOutcomeForSummary stop.summary)
  | .refused error =>
    failed (publicProfileError kind identity error.publicSummary error.publicCode) none none
      (connectionOutcomeForSummary error.publicSummary)
  | .ran session attempt observation =>
    match attempt, observation with
    | .ok (.ok reply), .ok () => loaded reply session
    | .ok (.error error), .ok () =>
      let failure := ServiceError.driver error
      let disposition := SessionDisposition.forDriverError error
      failed (publicProfileError kind identity failure.publicSummary failure.publicCode)
        (some session) (some disposition) (connectionOutcomeForDisposition disposition)
    | .error stop, _ =>
      failed (publicProfileError kind identity stop.summary .none) (some session) (some .evict)
        .disconnected
    | .ok _, .error error =>
      failed (publicProfileError kind identity error.publicSummary error.publicCode)
        (some session) (some .evict) .disconnected

def runRedisScan (request : RedisScanRequest) : Progress RedisKeyPage → UiEvent :=
  runRedisResource .browseRedis request.identity
    (fun page session => .redisKeysLoaded page session .keep) (.redisKeysFailed request)

def runRedisInspect (request : RedisKeyInspectRequest) : Progress RedisValuePreview → UiEvent :=
  runRedisResource .inspectRedis request.identity
    (fun preview session => .redisKeyInspected preview session .keep)
    (.redisKeyInspectFailed request)

/-- The disconnection of `run_profile_control`: cancelled, refused, or closed. -/
def runDisconnect (identity : RequestIdentity) (session : Option SessionGeneration)
    (closed : Except (Option ServiceError) PostCloseState) : UiEvent :=
  match closed with
  | .error none =>
    failedProfileEventWithCode identity session .disconnectProfile .operationCancelled .none
  | .error (some error) => failedFromService identity session .disconnectProfile error
  | .ok postClose => .connectionClosed identity postClose

/-! ## Tests of a draft -/

/-- A draft test: its request is prepared and its session acquired, or not; after the ping the
session is closed, and the flag of the configuration is read. -/
inductive DraftProgress
  | interrupted (stop : Interruption)
  | refused (error : ServiceError)
  | ran (attempt : Except Interruption (Except DriverError Unit)) (close : Except DriverError Unit)
      (configUncertain : Bool)

def runDraftWork (operationId : OperationId) (draftId : DraftId) (progress : DraftProgress) :
    UiEvent :=
  let failed (summary : PublicSummary) (code : PublicCode) : UiEvent :=
    draftFailedEvent operationId draftId .testDraftConnection summary code
  match progress with
  | .interrupted stop => failed stop.summary .none
  | .refused error => failed error.publicSummary error.publicCode
  | .ran (.error stop) _ _ => failed stop.summary .none
  | .ran (.ok (.error error)) _ _ | .ran (.ok (.ok ())) (.error error) _ =>
    let failure := ServiceError.driver error
    failed failure.publicSummary failure.publicCode
  | .ran (.ok (.ok ())) (.ok ()) true => failed .resourceStale .configExternalChange
  | .ran (.ok (.ok ())) (.ok ()) false => .draftConnectionReady operationId draftId

/-! ## Mutations -/

/-- `finish_task_output` for a reload. `uncertain` is the flag after the call. -/
def finishReload (operationId : OperationId)
    (result : Except ServiceError (List ProfileSnapshot × ConfigPresentation × Bool))
    (cleanup : Except ServiceError Unit) (uncertain : Bool) : UiEvent :=
  match result, cleanup with
  | .ok _, .error error => profilesFailedEvent operationId error.publicSummary error.publicCode
  | .ok (profiles, config, configUncertain), .ok () =>
    if configUncertain then .configUncertain operationId
    else .profilesLoaded operationId profiles config
  | .error error, _ =>
    if uncertain then .configUncertain operationId
    else profilesFailedEvent operationId error.publicSummary error.publicCode

/-- `finish_runtime_mutation_failure`. -/
def finishRuntimeMutationFailure (error : ServiceError) (cleanup : Except ServiceError Unit) :
    ServiceError :=
  match cleanup with
  | .ok () => error
  | .error error => error

/-- `finish_task_output` for the creation, the update or the deletion of a profile. -/
def finishMutation (operationId : OperationId) (saved : UiEvent) (failed : ServiceError → UiEvent)
    (result cleanup : Except ServiceError Unit) (uncertain : Bool) : UiEvent :=
  match result, cleanup with
  | .ok (), .error error => failed error
  | .ok (), .ok () => saved
  | .error error, cleanup =>
    if uncertain then .configUncertain operationId
    else failed (finishRuntimeMutationFailure error cleanup)

def createFailed (operationId : OperationId) (draftId : DraftId) (error : ServiceError) : UiEvent :=
  draftFailedEvent operationId draftId .createProfile error.publicSummary error.publicCode

def updateFailed (identity : RequestIdentity) (error : ServiceError) : UiEvent :=
  profileUpdateFailedEvent identity error.publicSummary error.publicCode

/-- The failure of a deletion is reported by its summary alone. -/
def deleteFailed (identity : RequestIdentity) (error : ServiceError) : UiEvent :=
  failedProfileEventWithCode identity none .deleteProfile error.publicSummary .none

/-! ## Reported errors -/

def UiEvent.reportedError : UiEvent → Option PublicOperationError
  | .profilesFailed _ _ error | .profileCreateFailed _ _ _ error | .profileUpdateFailed _ _ error
  | .credentialsStoreFailed _ _ error | .draftOperationFailed _ _ _ error
  | .resultExportFailed _ _ error | .catalogPageFailed _ _ error _ _
  | .redisKeysFailed _ error _ _ _ | .redisKeyInspectFailed _ error _ _ _
  | .operationFailed _ _ _ _ error _ _ => some error
  | _ => none

/-- The error that ends a task, unless it is stopped. -/
def Progress.failure : Progress ρ → Option ServiceError
  | .refused error | .ran _ (.ok _) (.error error) => some error
  | .ran _ (.ok (.error error)) (.ok ()) => some (.driver error)
  | _ => none

/-- The same of a connection, with whether its code is kept: a ping that fails comes before
what is observed after it. -/
def connectFailure : Progress Unit → Option (ServiceError × Bool)
  | .refused error | .ran _ (.ok (.ok ())) (.error error) => some (error, true)
  | .ran _ (.ok (.error error)) _ => some (.driver error, false)
  | _ => none

def DraftProgress.failure : DraftProgress → Option ServiceError
  | .refused error => some error
  | .ran (.ok (.error error)) _ _ | .ran (.ok (.ok ())) (.error error) _ => some (.driver error)
  | .ran (.ok (.ok ())) (.ok ()) true => some .configUncertain
  | _ => none

/-- The error with which a reload ends, unless the configuration is uncertain after it. -/
def reloadFailure (result : Except ServiceError (List ProfileSnapshot × ConfigPresentation × Bool))
    (cleanup : Except ServiceError Unit) (uncertain : Bool) : Option ServiceError :=
  match result, cleanup with
  | .ok _, .error error => some error
  | .ok _, .ok () => none
  | .error error, _ => if uncertain then none else some error

/-- The error with which a mutation ends, unless the configuration is uncertain after it. -/
def mutationFailure (result cleanup : Except ServiceError Unit) (uncertain : Bool) :
    Option ServiceError :=
  match result, cleanup with
  | .ok _, .error error => some error
  | .ok _, .ok () => none
  | .error error, cleanup =>
    if uncertain then none else some (finishRuntimeMutationFailure error cleanup)

/-- An error of the service that the runtime reports for an operation, with the event. `coded`
tells whether the path keeps the code of the error. -/
inductive Reported : OperationKind → (coded : Bool) → ServiceError → UiEvent → Prop
  | connect {kind : OperationKind} {coded : Bool} {error : ServiceError}
      (hkind : kind = .connectProfile ∨ kind = .reconnectProfile) (identity : RequestIdentity)
      (progress : Progress Unit) (h : connectFailure progress = some (error, coded)) :
      Reported kind coded error (runConnect identity kind progress)
  | execute {kind : OperationKind} {error : ServiceError}
      (hkind : kind = .executeRead ∨ kind = .executeMutation) (identity : RequestIdentity)
      (progress : Progress ResultSnapshot) (h : progress.failure = some error) :
      Reported kind true error (runExecute identity kind progress)
  | browse {error : ServiceError} (request : CatalogRequest) (progress : Progress CatalogPage)
      (h : progress.failure = some error) :
      Reported .browseMySql false error (runCatalogBrowse request progress)
  | scan {error : ServiceError} (request : RedisScanRequest) (progress : Progress RedisKeyPage)
      (h : progress.failure = some error) :
      Reported .browseRedis true error (runRedisScan request progress)
  | inspect {error : ServiceError} (request : RedisKeyInspectRequest)
      (progress : Progress RedisValuePreview) (h : progress.failure = some error) :
      Reported .inspectRedis true error (runRedisInspect request progress)
  | disconnect (identity : RequestIdentity) (session : Option SessionGeneration)
      (error : ServiceError) :
      Reported .disconnectProfile true error (runDisconnect identity session (.error (some error)))
  | reconnect (identity : RequestIdentity) (error : ServiceError) :
      Reported .reconnectProfile true error
        (failedFromService identity none .reconnectProfile error)
  | testDraft {error : ServiceError} (operationId : OperationId) (draftId : DraftId)
      (progress : DraftProgress) (h : progress.failure = some error) :
      Reported .testDraftConnection true error (runDraftWork operationId draftId progress)
  | reload {error : ServiceError} (operationId : OperationId)
      (result : Except ServiceError (List ProfileSnapshot × ConfigPresentation × Bool))
      (cleanup : Except ServiceError Unit) (uncertain : Bool)
      (h : reloadFailure result cleanup uncertain = some error) :
      Reported .reloadConfiguration true error (finishReload operationId result cleanup uncertain)
  | create {error : ServiceError} (operationId : OperationId) (draftId : DraftId) (saved : UiEvent)
      (result cleanup : Except ServiceError Unit) (uncertain : Bool)
      (h : mutationFailure result cleanup uncertain = some error) :
      Reported .createProfile true error
        (finishMutation operationId saved (createFailed operationId draftId) result cleanup uncertain)
  | update {error : ServiceError} (identity : RequestIdentity) (saved : UiEvent)
      (result cleanup : Except ServiceError Unit) (uncertain : Bool)
      (h : mutationFailure result cleanup uncertain = some error) :
      Reported .updateProfile true error
        (finishMutation identity.operationId saved (updateFailed identity) result cleanup uncertain)
  | delete {error : ServiceError} (identity : RequestIdentity) (saved : UiEvent)
      (result cleanup : Except ServiceError Unit) (uncertain : Bool)
      (h : mutationFailure result cleanup uncertain = some error) :
      Reported .deleteProfile false error
        (finishMutation identity.operationId saved (deleteFailed identity) result cleanup uncertain)
  | storeCredentials (identity : RequestIdentity) (error : ServiceError) :
      Reported .updateProfile true error (credentialsStoreFailedEvent identity error)

variable {kind : OperationKind} {coded : Bool} {error : ServiceError} {event : UiEvent}

/-- The event carries the error that the table makes of the parts of a failure. -/
def Carries (kind : OperationKind) (coded : Bool) (error : ServiceError) (event : UiEvent) : Prop :=
  ∃ context, MadeFor kind context ∧ event.reportedError =
    some (.newOrInternal kind error.publicSummary (error.codeAlong coded) context)

theorem connect_carries (hkind : kind = .connectProfile ∨ kind = .reconnectProfile)
    (identity : RequestIdentity) {progress : Progress Unit}
    (h : connectFailure progress = some (error, coded)) :
    Carries kind coded error (runConnect identity kind progress) := by
  refine ⟨.profileWithRecipe identity.profileId identity.operationId identity.operationId, ?_, ?_⟩
  · rcases hkind with rfl | rfl
    · exact .connect _ _ _
    · exact .reconnect _ _ _
  · have hrecipe : runtimeOperationHasRetryRecipe kind = true := by
      rcases hkind with rfl | rfl <;> rfl
    cases progress with
    | interrupted stop => cases h
    | refused refusal =>
      cases h
      simp [runConnect, failedFromService, failedProfileEventWithCode, UiEvent.reportedError,
        publicProfileError, ServiceError.codeAlong, hrecipe]
    | ran session attempt observation =>
      rcases attempt with stop | failed | done
      · cases h
      · cases h
        simp [runConnect, failedProfileEventWithCode, UiEvent.reportedError,
          publicProfileError, ServiceError.codeAlong, hrecipe]
      · cases observation with
        | ok => cases h
        | error refusal =>
          cases h
          simp [runConnect, failedFromService, failedProfileEventWithCode, UiEvent.reportedError,
            publicProfileError, ServiceError.codeAlong, hrecipe]

theorem Progress.failure_cases {progress : Progress ρ} (h : progress.failure = some error) :
    progress = .refused error ∨
      (∃ session outcome, progress = .ran session (.ok outcome) (.error error)) ∨
      ∃ session failed, error = .driver failed ∧
        progress = .ran session (.ok (.error failed)) (.ok ()) := by
  cases progress with
  | interrupted stop => cases h
  | refused refusal =>
    cases h
    exact Or.inl rfl
  | ran session attempt observation =>
    rcases attempt with stop | failed | reply <;> rcases observation with refusal | done
    · cases h
    · cases h
    · cases h
      exact Or.inr (Or.inl ⟨session, _, rfl⟩)
    · cases h
      exact Or.inr (Or.inr ⟨session, failed, rfl, rfl⟩)
    · cases h
      exact Or.inr (Or.inl ⟨session, _, rfl⟩)
    · cases h

theorem execute_carries (hkind : kind = .executeRead ∨ kind = .executeMutation)
    (identity : RequestIdentity) {progress : Progress ResultSnapshot}
    (h : progress.failure = some error) :
    Carries kind true error (runExecute identity kind progress) := by
  refine ⟨.profile identity.profileId identity.operationId none none, ?_, ?_⟩
  · rcases hkind with rfl | rfl
    · exact .read _ _
    · exact .mutation _ _
  · have hrecipe : runtimeOperationHasRetryRecipe kind = false := by
      rcases hkind with rfl | rfl <;> rfl
    rcases Progress.failure_cases h with rfl | ⟨session, outcome, rfl⟩ | ⟨session, failed, rfl, rfl⟩
    all_goals
      simp [runExecute, failedFromService, failedProfileEventWithCode,
        failedProfileEventWithDisposition, UiEvent.reportedError, publicProfileError,
        ServiceError.codeAlong, hrecipe]

theorem browse_carries (request : CatalogRequest) {progress : Progress CatalogPage}
    (h : progress.failure = some error) :
    Carries .browseMySql false error (runCatalogBrowse request progress) := by
  refine ⟨_, .browseMySql request.identity.profileId request.identity.operationId
    request.identity.operationId, ?_⟩
  rcases Progress.failure_cases h with rfl | ⟨session, outcome, rfl⟩ | ⟨session, failed, rfl, rfl⟩
  · rfl
  · cases outcome <;> rfl
  · rfl

theorem scan_carries (request : RedisScanRequest) {progress : Progress RedisKeyPage}
    (h : progress.failure = some error) :
    Carries .browseRedis true error (runRedisScan request progress) := by
  refine ⟨_, .browseRedis request.identity.profileId request.identity.operationId
    request.identity.operationId, ?_⟩
  rcases Progress.failure_cases h with rfl | ⟨session, outcome, rfl⟩ | ⟨session, failed, rfl, rfl⟩
  · rfl
  · cases outcome <;> rfl
  · rfl

theorem inspect_carries (request : RedisKeyInspectRequest) {progress : Progress RedisValuePreview}
    (h : progress.failure = some error) :
    Carries .inspectRedis true error (runRedisInspect request progress) := by
  refine ⟨_, .inspectRedis request.identity.profileId request.identity.operationId
    request.identity.operationId, ?_⟩
  rcases Progress.failure_cases h with rfl | ⟨session, outcome, rfl⟩ | ⟨session, failed, rfl, rfl⟩
  · rfl
  · cases outcome <;> rfl
  · rfl

theorem testDraft_carries (operationId : OperationId) (draftId : DraftId)
    {progress : DraftProgress} (h : progress.failure = some error) :
    Carries .testDraftConnection true error (runDraftWork operationId draftId progress) := by
  refine ⟨_, .testDraft draftId operationId, ?_⟩
  cases progress with
  | interrupted stop => cases h
  | refused refusal =>
    cases h
    rfl
  | ran attempt close configUncertain =>
    rcases attempt with stop | failed | done
    · cases h
    · cases h
      rfl
    · rcases close with failed | closed
      · cases h
        rfl
      · cases configUncertain
        · cases h
        · cases h
          rfl

theorem reload_carries (operationId : OperationId)
    {result : Except ServiceError (List ProfileSnapshot × ConfigPresentation × Bool)}
    {cleanup : Except ServiceError Unit} {uncertain : Bool}
    (h : reloadFailure result cleanup uncertain = some error) :
    Carries .reloadConfiguration true error
      (finishReload operationId result cleanup uncertain) := by
  refine ⟨_, .reload operationId, ?_⟩
  cases result with
  | ok loaded =>
    cases cleanup with
    | ok => cases h
    | error failed =>
      cases h
      rfl
  | error failed =>
    cases uncertain
    · cases h
      rfl
    · cases h

/-- A mutation that fails reports its failure by the event of its kind. -/
theorem finishMutation_failed (operationId : OperationId) (saved : UiEvent)
    (failed : ServiceError → UiEvent) {result cleanup : Except ServiceError Unit}
    {uncertain : Bool} (h : mutationFailure result cleanup uncertain = some error) :
    finishMutation operationId saved failed result cleanup uncertain = failed error := by
  cases result with
  | ok =>
    cases cleanup with
    | ok => cases h
    | error refusal =>
      cases h
      rfl
  | error refusal =>
    cases uncertain
    · cases h
      rfl
    · cases h

theorem Reported.carries (h : Reported kind coded error event) :
    Carries kind coded error event := by
  cases h with
  | connect hkind identity progress h => exact connect_carries hkind identity h
  | execute hkind identity progress h => exact execute_carries hkind identity h
  | browse request progress h => exact browse_carries request h
  | scan request progress h => exact scan_carries request h
  | inspect request progress h => exact inspect_carries request h
  | disconnect identity session error => exact ⟨_, .disconnect _ _, rfl⟩
  | reconnect identity error => exact ⟨_, .reconnect _ _ _, rfl⟩
  | testDraft operationId draftId progress h => exact testDraft_carries operationId draftId h
  | reload operationId result cleanup uncertain h => exact reload_carries operationId h
  | create operationId draftId saved result cleanup uncertain h =>
    rw [finishMutation_failed operationId saved _ h]
    exact ⟨_, .create draftId operationId, rfl⟩
  | update identity saved result cleanup uncertain h =>
    rw [finishMutation_failed identity.operationId saved _ h]
    exact ⟨_, .update identity.profileId identity.operationId, rfl⟩
  | delete identity saved result cleanup uncertain h =>
    rw [finishMutation_failed identity.operationId saved _ h]
    exact ⟨_, .delete identity.profileId identity.operationId, rfl⟩
  | storeCredentials identity error =>
    exact ⟨_, .update identity.profileId identity.operationId, rfl⟩

/-- The failure is reported for what it is: the event has the summary of the error, and does not
take the reply of a live server for a lost network. -/
def ReportedFaithfully (error : ServiceError) (event : UiEvent) : Prop :=
  ∃ reported, event.reportedError = some reported ∧ reported.summary = error.publicSummary ∧
    (error.keepsSession → reported.summary ≠ .networkUnavailable)

theorem failures_faithful_iff (h : Reported kind coded error event) :
    ReportedFaithfully error event ↔ error.reportable kind coded := by
  obtain ⟨context, hmade, hevent⟩ := h.carries
  have hrow := hmade.newOrInternal_summary error.publicSummary (error.codeAlong coded)
  have hfaithful : error.faithful kind coded ↔ hasRow kind error.publicSummary
      (error.codeAlong coded) ∧ (error.keepsSession → error.publicSummary ≠ .networkUnavailable) := by
    rw [ServiceError.faithful]
    cases error.keepsSession <;> simp
  rw [← error.faithful_eq_reportable, hfaithful]
  constructor
  · rintro ⟨reported, hreported, hsummary, hlive⟩
    rw [hevent] at hreported
    cases hreported
    refine ⟨hrow.mp hsummary, fun hkeeps => ?_⟩
    rw [← hsummary]
    exact hlive hkeeps
  · rintro ⟨hsome, hlive⟩
    have hsummary := hrow.mpr hsome
    refine ⟨_, hevent, hsummary, fun hkeeps => ?_⟩
    rw [hsummary]
    exact hlive hkeeps

/-- A missing environment variable stops a connection before it dials. -/
theorem failures_faithful_missing_env :
    ReportedFaithfully (.secret (.missingEnv ['D'])) (runConnect ⟨['p'], 0, 0⟩ .connectProfile
      (.refused (.secret (.missingEnv ['D'])))) :=
  (failures_faithful_iff (.connect (Or.inl rfl) ⟨['p'], 0, 0⟩
    (.refused (.secret (.missingEnv ['D']))) rfl)).mpr rfl

/-- The reply of a MySQL server with this errno, under the SQLSTATE `42000`. -/
def mysqlReply (errno : UInt16) (h : errno ≠ 0) : DriverError :=
  .mySqlDatabase (some ⟨errno, ['4', '2', '0', '0', '0'], h, by decide⟩)

/-- Errno 1064, a statement that the server rejects, is shown as a lost network, and errno 1142,
a denied one, as an internal failure. -/
theorem server_replies_not_faithful :
    let identity : RequestIdentity := ⟨['p'], 0, 0⟩
    let execute (error : DriverError) : Progress ResultSnapshot := .ran 0 (.ok (.error error)) (.ok ())
    let rejected := mysqlReply 1064 (by decide)
    let denied := mysqlReply 1142 (by decide)
    (Reported .executeRead true (.driver rejected)
        (runExecute identity .executeRead (execute rejected)) ∧
      ¬ReportedFaithfully (.driver rejected)
        (runExecute identity .executeRead (execute rejected))) ∧
    Reported .executeRead true (.driver denied)
        (runExecute identity .executeRead (execute denied)) ∧
      ¬ReportedFaithfully (.driver denied)
        (runExecute identity .executeRead (execute denied)) := by
  refine ⟨⟨.execute (Or.inl rfl) _ _ rfl, ?_⟩, .execute (Or.inl rfl) _ _ rfl, ?_⟩
  · rintro ⟨reported, hreported, hsummary, hlive⟩
    cases hreported
    exact hlive rfl rfl
  · rintro ⟨reported, hreported, hsummary, hlive⟩
    cases hreported
    cases hsummary

end Dbotter.Ui
