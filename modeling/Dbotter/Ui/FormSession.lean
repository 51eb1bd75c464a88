import Dbotter.Ui.DraftRuns
import Dbotter.Ui.ProfileForm
import Dbotter.Ui.Port
import Dbotter.Ui.App

/-!
The profile form while it is open, from `src/ui/profile_form.rs` and `src/secrets.rs`.

A form is opened for a new connection or for a saved profile. What the user then enters changes
one field after another, and a choice may clear a field that it hides. Which inputs are possible
is decided by what the form shows at that moment. Status lines and the focus are left out, and
whether work is pending is kept with the editor and not with its fields.
-/

namespace Dbotter.Ui
open Dbotter.Utf8 Dbotter.Execution Dbotter.Configuration Dbotter.Service Dbotter.Numerals

/-! ## The session credential -/

inductive SessionCredentialIntent
  | keepCurrent
  | replace
  | forget
  deriving DecidableEq, Repr

inductive CredentialEditContext
  | create
  | edit (hasCurrent : Bool)
  deriving DecidableEq, Repr

structure SessionIntentPolicy where
  allowed : List SessionCredentialIntent
  default : SessionCredentialIntent
  deriving DecidableEq, Repr

def sessionIntentPolicy (mode : CredentialMode) (context : CredentialEditContext) :
    Option SessionIntentPolicy :=
  if mode ≠ .session then none
  else
    match context with
    | .edit true => some ⟨[.keepCurrent, .replace, .forget], .keepCurrent⟩
    | .create | .edit false => some ⟨[.replace, .forget], .replace⟩

def sessionUpdateForSave (mode : CredentialMode) (context : CredentialEditContext)
    (intent : Option SessionCredentialIntent) (replacement : Option SessionSecret) :
    Except SecretError SessionSecretUpdate :=
  match sessionIntentPolicy mode context with
  | none =>
    if intent.isSome || replacement.isSome then .error .invalidSessionIntent else .ok .clear
  | some policy =>
    match intent with
    | none => .error .invalidSessionIntent
    | some intent =>
      if !policy.allowed.contains intent then .error .invalidSessionIntent
      else
        match intent, replacement with
        | .keepCurrent, none => .ok .keep
        | .keepCurrent, some _ => .error .invalidSessionIntent
        | .replace, some secret => .ok (.replace secret)
        | .replace, none => .error .replacementRequired
        | .forget, none => .ok .clear
        | .forget, some _ => .error .invalidSessionIntent

/-! ## The draft of a form -/

def defaultPort : DriverKind → Nat
  | .mySql => 3306
  | .redis => 6379
  | .mongoDb => 27017

namespace ProfileDraft

def new (driver : DriverKind) : ProfileDraft where
  id := []
  name := []
  driver
  host := "127.0.0.1".toList
  port := natText (defaultPort driver)
  database := []
  username := []
  tls := if driver = .redis then .disabled else .preferred
  credentialMode := .none
  secretEnv := []
  redisCaFile := []

def selectDriver (draft : ProfileDraft) (driver : DriverKind) : ProfileDraft :=
  { draft with
    port :=
      if (trim draft.port).isEmpty || draft.port == natText (defaultPort draft.driver) then
        natText (defaultPort driver)
      else draft.port
    tls :=
      if draft.driver != .redis && driver == .redis && draft.tls == .preferred then .disabled
      else draft.tls
    driver
    redisCaFile := if driver != .redis then [] else draft.redisCaFile }

def selectCredentialMode (draft : ProfileDraft) (mode : CredentialMode) : ProfileDraft :=
  { draft with
    credentialMode := mode
    secretEnv := if mode != .environment then [] else draft.secretEnv }

def selectTls (draft : ProfileDraft) (tls : TlsMode) : ProfileDraft :=
  { draft with
    tls
    redisCaFile :=
      if draft.driver == .redis && tls != .required then [] else draft.redisCaFile }

end ProfileDraft

/-! ## The fields -/

/-- The fields of `ProfileEditor`. The replacement is the text in its zeroizing buffer. -/
structure FormFields where
  mode : EditorMode
  sessionKeepAvailable : Bool := false
  useAutoId : Bool
  sessionIntent : Option SessionCredentialIntent := none
  replacementSecret : Text := []
  environmentAvailability : Option EnvironmentAvailability := none
  environmentProbeName : Option Text := none
  migrationRequired : Bool := false
  migrationBackup : Option Text := none
  migrationConfirmed : Bool := false
  draft : ProfileDraft
  errors : ValidationErrors := {}
  deriving DecidableEq

namespace FormFields

def new (driver : DriverKind) : FormFields where
  mode := .add
  useAutoId := true
  draft := .new driver

def edit (profile : ConnectionProfile) (expectedGeneration : ProfileGeneration)
    (hasCurrentSessionSecret : Bool) : FormFields where
  mode := .edit profile.id expectedGeneration
  sessionKeepAvailable := profile.credentialMode == .session && hasCurrentSessionSecret
  useAutoId := false
  sessionIntent :=
    (sessionIntentPolicy profile.credentialMode (.edit hasCurrentSessionSecret)).map (·.default)
  draft := .fromProfile profile

def credentialContext (form : FormFields) : CredentialEditContext :=
  match form.mode with
  | .add => .create
  | .edit _ _ => .edit form.sessionKeepAvailable

def selectCredentialMode (form : FormFields) (mode : CredentialMode) : FormFields :=
  { form with
    draft := form.draft.selectCredentialMode mode
    environmentAvailability := none
    environmentProbeName := none
    sessionIntent := (sessionIntentPolicy mode form.credentialContext).map (·.default)
    replacementSecret := if mode != .session then [] else form.replacementSecret }

/-- What the session credential may be asked to become. -/
def allows (form : FormFields) (intent : SessionCredentialIntent) : Bool :=
  (sessionIntentPolicy form.draft.credentialMode form.credentialContext).any
    (·.allowed.contains intent)

def selectSessionIntent (form : FormFields) (intent : SessionCredentialIntent) : FormFields :=
  if !form.allows intent then form
  else
    { form with
      sessionIntent := some intent
      replacementSecret := if intent != .replace then [] else form.replacementSecret }

def setMigrationPresentation (form : FormFields) (migrationRequired : Bool)
    (migrationBackup : Option Text) : FormFields :=
  { form with
    migrationRequired
    migrationBackup := if migrationRequired then migrationBackup else none
    migrationConfirmed := if migrationRequired then form.migrationConfirmed else false }

def redisCaPickerVisible (form : FormFields) : Bool :=
  form.draft.driver == .redis && form.draft.tls == .required

def bindRedisCaFile (form : FormFields) (path : PathBuf) : FormFields :=
  if form.draft.driver != .redis || form.draft.tls != .required then form
  else
    { form with
      draft := { form.draft with redisCaFile := path.text }
      errors := { form.errors with redisCaFile := none } }

def isAdd (form : FormFields) : Bool := form.mode == .add

/-- `id_editable`. -/
def idEditable (form : FormFields) : Bool := form.isAdd && !form.useAutoId

/-- The draft that is validated, with the id that its name makes where none is typed. -/
def validatedDraft (form : FormFields) : ProfileDraft :=
  if form.isAdd && form.useAutoId then
    { form.draft with id := slugifyProfileId form.draft.name }
  else form.draft

/-- Whether the profile that is edited would get another id. -/
def renames (form : FormFields) (profile : ConnectionProfile) : Bool :=
  match form.mode with
  | .add => false
  | .edit originalId _ => profile.id != originalId

/-- The replacement that is asked for, and the form without it (`take_for_save`). -/
def takeReplacement (form : FormFields) : Except SecretError (Option SessionSecret × FormFields) :=
  if form.sessionIntent = some .replace then
    if form.replacementSecret.isEmpty then .error .replacementRequired
    else .ok (some form.replacementSecret, { form with replacementSecret := [] })
  else .ok (none, form)

/-- `try_save_with_connect`, once no work is pending: the request, where one is submitted. The
lane is reserved before the replacement leaves its buffer. -/
def trySave (form : FormFields) (reserved : Bool) : Option ValidatedForm × FormFields :=
  if form.draft.driver = .mongoDb then (none, form)
  else
    match form.validatedDraft.validate with
    | .error errors => (none, { form with errors })
    | .ok profile =>
      if form.renames profile then
        (none, { form with errors := { form.errors with
          id := some "Profile id cannot change while editing".toList } })
      else if !reserved then (none, form)
      else
        match form.takeReplacement with
        | .error _ => (none, form)
        | .ok (replacement, form) =>
          match sessionUpdateForSave profile.credentialMode form.credentialContext
              form.sessionIntent replacement with
          | .error _ => (none, form)
          | .ok secretUpdate =>
            (some
              { explicitId := if form.isAdd && form.useAutoId then none else some profile.id
                draft := profile.asDraft
                secretUpdate
                migrationConsent :=
                  .fromConfirmation (form.migrationRequired && form.migrationConfirmed) },
              { form with errors := {} })

/-- The intent of a draft test for a profile that has been validated. -/
def draftTestIntent (form : FormFields) (draftId : DraftId) (operationId : OperationId)
    (profile : ConnectionProfile) : Option DraftTestIntent :=
  match profile.credentialMode with
  | .none => some (.secretless draftId operationId profile.asDraft)
  | .environment => some (.environment draftId operationId profile.asDraft)
  | .session =>
    match form.sessionIntent with
    | some .keepCurrent =>
      match form.mode with
      | .add => none
      | .edit originalId expectedGeneration =>
        some (.sessionKeep originalId expectedGeneration draftId operationId profile.asDraft)
    | some .replace =>
      if form.replacementSecret.isEmpty then none
      else some (.sessionReplace draftId operationId profile.asDraft form.replacementSecret)
    | some .forget => some (.secretless draftId operationId profile.asDraft)
    | none => none

/-- `try_test_draft`, once no work is pending. -/
def tryTestDraft (form : FormFields) (draftId : DraftId) (operationId : OperationId) :
    Option DraftTestIntent × FormFields :=
  if form.draft.driver = .mongoDb then (none, form)
  else
    match form.validatedDraft.validate with
    | .error errors => (none, { form with errors })
    | .ok profile => (form.draftTestIntent draftId operationId profile, form)

end FormFields

/-! ## What the user enters -/

inductive FormInput
  | selectDriver (driver : DriverKind)
  | typeName (text : Text)
  | setAutoId (useAutoId : Bool)
  | typeId (text : Text)
  | typeHost (text : Text)
  | typePort (text : Text)
  | typeDatabase (text : Text)
  | typeUsername (text : Text)
  | selectTls (tls : TlsMode)
  | typeCaFile (text : Text)
  | pickCaFile (path : PathBuf)
  | selectCredentialMode (mode : CredentialMode)
  | typeSecretEnv (text : Text)
  | probe (availability : EnvironmentAvailability)
  | selectIntent (intent : SessionCredentialIntent)
  | typeReplacement (text : Text)
  | confirmMigration (confirmed : Bool)
  | presentMigration (migrationRequired : Bool) (migrationBackup : Option Text)
  | save (reserved : Bool)
  | test (draftId : DraftId) (operationId : OperationId)

namespace FormFields

/-- The TLS modes that are offered. -/
def tlsChoices (form : FormFields) : List TlsMode :=
  if form.draft.driver = .redis then [.disabled, .required] else [.disabled, .preferred, .required]

/-- The fields after an input. An input that the form does not offer changes nothing. -/
def enter (form : FormFields) : FormInput → FormFields
  | .selectDriver driver =>
    -- MongoDB is listed, but cannot be chosen.
    if driver = form.draft.driver ∨ driver = .mongoDb then form
    else { form with draft := form.draft.selectDriver driver }
  | .typeName text => { form with draft := { form.draft with name := text } }
  | .setAutoId useAutoId => if form.isAdd then { form with useAutoId } else form
  | .typeId text =>
    if form.idEditable then { form with draft := { form.draft with id := text } } else form
  | .typeHost text => { form with draft := { form.draft with host := text } }
  | .typePort text => { form with draft := { form.draft with port := text } }
  | .typeDatabase text => { form with draft := { form.draft with database := text } }
  | .typeUsername text => { form with draft := { form.draft with username := text } }
  | .selectTls tls =>
    if tls = form.draft.tls ∨ tls ∉ form.tlsChoices then form
    else { form with draft := form.draft.selectTls tls }
  | .typeCaFile text =>
    if form.redisCaPickerVisible then
      { form with draft := { form.draft with redisCaFile := text } }
    else form
  | .pickCaFile path => form.bindRedisCaFile path
  | .selectCredentialMode mode =>
    if mode = form.draft.credentialMode then form else form.selectCredentialMode mode
  | .typeSecretEnv text =>
    if form.draft.credentialMode = .environment then
      { form with
        draft := { form.draft with secretEnv := text }
        environmentAvailability := none
        environmentProbeName := none }
    else form
  | .probe availability =>
    if form.draft.credentialMode = .environment then
      { form with
        environmentAvailability := some availability
        environmentProbeName := some form.draft.secretEnv }
    else form
  | .selectIntent intent => form.selectSessionIntent intent
  | .typeReplacement text =>
    let shown := (sessionIntentPolicy form.draft.credentialMode form.credentialContext).any
      fun policy => form.sessionIntent.getD policy.default == .replace
    if shown then { form with replacementSecret := text } else form
  | .confirmMigration migrationConfirmed =>
    if form.migrationRequired then { form with migrationConfirmed } else form
  | .presentMigration migrationRequired migrationBackup =>
    form.setMigrationPresentation migrationRequired migrationBackup
  | .save reserved => (form.trySave reserved).2
  | .test draftId operationId => (form.tryTestDraft draftId operationId).2

end FormFields

end Dbotter.Ui
