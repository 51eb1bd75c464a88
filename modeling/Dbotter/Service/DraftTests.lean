import Dbotter.Service.Calls
import Dbotter.Text.Numerals

/-!
Tests of a connection that is still a draft.

A test dials the draft once and keeps nothing of it. Its credential is what was typed, what the
environment has, or the current one of a saved profile. The last is read in the mutation lane, and
only for a draft that connects as the saved profile does.
-/

namespace Dbotter.Service
open Dbotter.Utf8 Dbotter.Execution Dbotter.Configuration Dbotter.Program Dbotter.Numerals

variable {ρ : Type}

inductive DraftCredentialSource
  | sessionKeep (secret : SessionSecret)
  | sessionReplace (secret : SessionSecret)
  | environmentResolved (secret : SessionSecret)
  deriving DecidableEq, Repr

structure TestDraftRequest where
  draftId : DraftId
  operationId : OperationId
  draft : ConnectionDraft
  credentialSource : Option DraftCredentialSource
  deriving DecidableEq, Repr

structure DraftSessionLease where
  draftId : DraftId
  operationId : OperationId
  profile : ConnectionProfile
  handle : Handle
  deriving DecidableEq, Repr

/-! ## Preparing -/

def sameKeepTestConnection (profile : ConnectionProfile) (draft : ConnectionDraft) : Bool :=
  profile.driver == draft.driver &&
    profile.host == draft.host &&
    profile.port == draft.port &&
    profile.database == draft.database &&
    profile.username == draft.username &&
    profile.tls == draft.tls &&
    profile.credentialMode == draft.credentialMode &&
    profile.secretEnv == draft.secretEnv &&
    profile.redisTls == draft.redisTls

/-- `clone_for_profile` of the store of the session secrets. -/
def cloneForProfile (profileId : ProfileId) : Op ρ (Option SessionSecret) :=
  .step fun _ s => ⟨s, .ok (s.sessionSecrets.lookup profileId), some (.resolved profileId)⟩

def prepareSecretlessDraftTest (draftId : DraftId) (operationId : OperationId)
    (draft : ConnectionDraft) : Op ρ TestDraftRequest := do
  ensureConfigCertain
  return ⟨draftId, operationId, draft, none⟩

def prepareReplacementSecretDraftTest (draftId : DraftId) (operationId : OperationId)
    (draft : ConnectionDraft) (secret : SessionSecret) : Op ρ TestDraftRequest := do
  ensureConfigCertain
  checkDraft draft
  if draft.credentialMode ≠ .session then
    .fail (.invalidProfile (.ofField .credentialMode))
  else return ⟨draftId, operationId, draft, some (.sessionReplace secret)⟩

/-- The section in the lane. -/
def drawCurrentSecret (profileId : ProfileId) (expectedGeneration : ProfileGeneration)
    (draftId : DraftId) (operationId : OperationId) (draft : ConnectionDraft) :
    Op ρ TestDraftRequest := do
  ensureConfigCertain
  ensureGeneration profileId expectedGeneration operationId
  let persisted ← profile profileId
  if persisted.credentialMode ≠ .session ∨ draft.credentialMode ≠ .session then
    .fail (.invalidProfile (.ofField .credentialMode))
  else if !sameKeepTestConnection persisted draft then
    .fail (.draftCredentialRequired draftId operationId .sessionCredential)
  else
    match ← cloneForProfile profileId with
    | some secret => return ⟨draftId, operationId, draft, some (.sessionKeep secret)⟩
    | none => .fail (.draftCredentialRequired draftId operationId .sessionCredential)

def prepareKeepCurrentDraftTest (profileId : ProfileId) (expectedGeneration : ProfileGeneration)
    (draftId : DraftId) (operationId : OperationId) (draft : ConnectionDraft) :
    Op ρ TestDraftRequest := do
  ensureConfigCertain
  withLane (drawCurrentSecret profileId expectedGeneration draftId operationId draft)

def resolveEnvironment (name : Text) : Op ρ (Except SecretError SessionSecret) :=
  .step fun answer s =>
    ⟨s, .ok (answer.resolveEnvironment name),
      some (.answered name (answer.resolveEnvironment name))⟩

def prepareEnvironmentDraftTest (draftId : DraftId) (operationId : OperationId)
    (draft : ConnectionDraft) : Op ρ TestDraftRequest := do
  ensureConfigCertain
  checkDraft draft
  if draft.credentialMode ≠ .environment then .fail (.secret .invalidSessionIntent)
  else
    match draft.secretEnv with
    | none => .fail (.draftCredentialRequired draftId operationId .credentialEnvironmentName)
    | some name =>
      match ← resolveEnvironment name with
      | .ok secret => return ⟨draftId, operationId, draft, some (.environmentResolved secret)⟩
      | .error _ =>
        .fail (.draftCredentialRequired draftId operationId .credentialEnvironmentName)

/-! ## Dialling -/

/-- The credential that the mode of the draft asks for. -/
def TestDraftRequest.secret (request : TestDraftRequest) :
    Except ServiceError (Option SessionSecret) :=
  match request.draft.credentialMode, request.credentialSource with
  | .none, none => .ok none
  | .none, some _ => .error (.secret .invalidSessionIntent)
  | .session, some (.sessionKeep secret) | .session, some (.sessionReplace secret)
  | .environment, some (.environmentResolved secret) => .ok (some secret)
  | .session, some _ | .environment, some _ => .error (.secret .invalidSessionIntent)
  | .session, none =>
    .error (.draftCredentialRequired request.draftId request.operationId .sessionCredential)
  | .environment, none =>
    .error (.draftCredentialRequired request.draftId request.operationId
      .credentialEnvironmentName)

theorem TestDraftRequest.of_secret {request : TestDraftRequest} {secret : Option SessionSecret}
    (h : request.secret = .ok secret) :
    request.draft.credentialMode = .none ∧ request.credentialSource = none ∧ secret = none ∨
      request.draft.credentialMode = .session ∧ (∃ current,
        (request.credentialSource = some (.sessionKeep current) ∨
          request.credentialSource = some (.sessionReplace current)) ∧ secret = some current) ∨
      request.draft.credentialMode = .environment ∧ ∃ found,
        request.credentialSource = some (.environmentResolved found) ∧ secret = some found := by
  unfold TestDraftRequest.secret at h
  split at h <;> simp_all

/-- The profile that stands for the draft while it is tested. -/
def TestDraftRequest.profile (request : TestDraftRequest) : ConnectionProfile :=
  ⟨request.draft, "draft-".toList ++ natText request.draftId⟩

/-- What the drivers say of the profile before it is dialled. -/
def checkConnector (profile : ConnectionProfile) : Op ρ Unit :=
  .step fun answer s =>
    ⟨s, do
      (ensureReady profile).mapError .driver
      (ensureConnectorTlsSupport answer.supportsRedisTls profile).mapError .driver, none⟩

/-- No profile generation is behind the connection of a draft. -/
def acquireDraftSession (request : TestDraftRequest) : Op ρ DraftSessionLease := do
  ensureConfigCertain
  checkDraft request.draft
  let secret ← .ofExcept request.secret
  checkConnector request.profile
  match ← connect request.profile secret 0 with
  | .ok handle => return ⟨request.draftId, request.operationId, request.profile, handle⟩
  | .error error => .fail (connectionError request.profile error)

end Dbotter.Service
