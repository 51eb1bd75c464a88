import Dbotter.Text.Path
import Dbotter.Execution.Target

/-!
Connection profiles, the configuration that lists them, and its mutations.

The check of a CA file reads the file system and a PEM parser; it is the parameter
`validateCaFile` of the validators below.
-/

namespace Dbotter.Configuration
open Dbotter.Utf8 Dbotter.Execution

inductive DriverKind
  | mySql
  | redis
  | mongoDb
  deriving DecidableEq, Repr

inductive TlsMode
  | disabled
  | preferred
  | required
  deriving DecidableEq, Repr

inductive CredentialMode
  | none
  | session
  | environment
  deriving DecidableEq, Repr

structure RedisTlsConfig where
  caFile : Option PathBuf := .none
  deriving DecidableEq, BEq, Repr

def RedisTlsConfig.isEmpty (c : RedisTlsConfig) : Bool := c.caFile.isNone

structure ConnectionDraft where
  name : Text
  driver : DriverKind
  host : Text
  port : Nat
  database : Option Text
  username : Option Text
  tls : TlsMode
  credentialMode : CredentialMode
  secretEnv : Option Text
  redisTls : RedisTlsConfig
  deriving DecidableEq, BEq, Repr

structure ConnectionProfile extends ConnectionDraft where
  id : Text
  deriving DecidableEq, BEq, Repr

def ConnectionProfile.asDraft (p : ConnectionProfile) : ConnectionDraft := p.toConnectionDraft

/-! ### Comparison

Drafts and profiles are compared with `==`, field by field, and their paths by components. -/

theorem RedisTlsConfig.beq_iff {c c' : RedisTlsConfig} :
    (c == c') = true ↔ (c.caFile == c'.caFile) = true :=
  Iff.rfl

instance : EquivBEq RedisTlsConfig where
  rfl := RedisTlsConfig.beq_iff.2 BEq.rfl
  symm h := RedisTlsConfig.beq_iff.2 (BEq.symm (RedisTlsConfig.beq_iff.1 h))
  trans h h' := RedisTlsConfig.beq_iff.2
    (BEq.trans (RedisTlsConfig.beq_iff.1 h) (RedisTlsConfig.beq_iff.1 h'))

theorem ConnectionDraft.beq_iff {d d' : ConnectionDraft} :
    (d == d') = true ↔ d.name = d'.name ∧ d.driver = d'.driver ∧ d.host = d'.host ∧
      d.port = d'.port ∧ d.database = d'.database ∧ d.username = d'.username ∧ d.tls = d'.tls ∧
      d.credentialMode = d'.credentialMode ∧ d.secretEnv = d'.secretEnv ∧
      (d.redisTls == d'.redisTls) = true := by
  cases d
  cases d'
  change instBEqConnectionDraft.beq _ _ = true ↔ _
  simp [instBEqConnectionDraft.beq]

instance : EquivBEq ConnectionDraft where
  rfl := ConnectionDraft.beq_iff.2 ⟨rfl, rfl, rfl, rfl, rfl, rfl, rfl, rfl, rfl, BEq.rfl⟩
  symm h := by
    obtain ⟨h₁, h₂, h₃, h₄, h₅, h₆, h₇, h₈, h₉, htls⟩ := ConnectionDraft.beq_iff.1 h
    exact ConnectionDraft.beq_iff.2 ⟨h₁.symm, h₂.symm, h₃.symm, h₄.symm, h₅.symm, h₆.symm, h₇.symm,
      h₈.symm, h₉.symm, BEq.symm htls⟩
  trans h h' := by
    obtain ⟨h₁, h₂, h₃, h₄, h₅, h₆, h₇, h₈, h₉, htls⟩ := ConnectionDraft.beq_iff.1 h
    obtain ⟨h₁', h₂', h₃', h₄', h₅', h₆', h₇', h₈', h₉', htls'⟩ := ConnectionDraft.beq_iff.1 h'
    exact ConnectionDraft.beq_iff.2 ⟨h₁.trans h₁', h₂.trans h₂', h₃.trans h₃', h₄.trans h₄',
      h₅.trans h₅', h₆.trans h₆', h₇.trans h₇', h₈.trans h₈', h₉.trans h₉', BEq.trans htls htls'⟩

theorem ConnectionProfile.beq_iff {p p' : ConnectionProfile} :
    (p == p') = true ↔ (p.toConnectionDraft == p'.toConnectionDraft) = true ∧ p.id = p'.id := by
  cases p
  cases p'
  change instBEqConnectionProfile.beq _ _ = true ↔ _
  simp [instBEqConnectionProfile.beq]

instance : EquivBEq ConnectionProfile where
  rfl := ConnectionProfile.beq_iff.2 ⟨BEq.rfl, rfl⟩
  symm h := by
    obtain ⟨hdraft, hid⟩ := ConnectionProfile.beq_iff.1 h
    exact ConnectionProfile.beq_iff.2 ⟨BEq.symm hdraft, hid.symm⟩
  trans h h' := by
    obtain ⟨hdraft, hid⟩ := ConnectionProfile.beq_iff.1 h
    obtain ⟨hdraft', hid'⟩ := ConnectionProfile.beq_iff.1 h'
    exact ConnectionProfile.beq_iff.2 ⟨BEq.trans hdraft hdraft', hid.trans hid'⟩

theorem ConnectionProfile.id_eq {p p' : ConnectionProfile} (h : p == p') : p.id = p'.id :=
  (ConnectionProfile.beq_iff.1 h).2

theorem ConnectionProfile.credentialMode_eq {p p' : ConnectionProfile} (h : p == p') :
    p.credentialMode = p'.credentialMode :=
  (ConnectionDraft.beq_iff.1 (ConnectionProfile.beq_iff.1 h).1).2.2.2.2.2.2.2.1

inductive ProfileFieldId
  | connectionId
  | displayName
  | host
  | port
  | database
  | username
  | credentialMode
  | credentialEnvironmentName
  | sessionCredential
  | redisTlsMode
  | redisCaFile
  deriving DecidableEq, Repr

/-- The public codes that the validators attach to a field. -/
inductive FieldCode
  | field (field : ProfileFieldId)
  | redisTlsPreferredLegacy
  | redisTlsCaInvalidPem
  deriving DecidableEq, Repr

structure ProfileValidationError where
  field : ProfileFieldId
  code : FieldCode
  deriving DecidableEq, Repr

def ProfileValidationError.ofField (field : ProfileFieldId) : ProfileValidationError :=
  ⟨field, .field field⟩

/-! ## Validation -/

def isAsciiDigit (c : Char) : Bool := '0' ≤ c && c ≤ '9'

def isAsciiAlphabetic (c : Char) : Bool := ('a' ≤ c && c ≤ 'z') || ('A' ≤ c && c ≤ 'Z')

def isAsciiAlphanumeric (c : Char) : Bool := isAsciiAlphabetic c || isAsciiDigit c

/-- The shared shape of `valid_profile_id` and `valid_env_name`. -/
def validName (first rest : Char → Bool) : Text → Bool
  | [] => false
  | c :: s => first c && s.all rest

def validProfileId (value : Text) : Bool :=
  validName isAsciiAlphanumeric
    (fun c => isAsciiAlphanumeric c || c == '.' || c == '_' || c == '-') value

def validEnvName (value : Text) : Bool :=
  validName (fun c => isAsciiAlphabetic c || c == '_') (fun c => isAsciiAlphanumeric c || c == '_')
    value

/-- `str::parse::<u32>`. -/
def parseU32 (text : Text) : Option Nat :=
  let digits := match text with
    | '+' :: rest => rest
    | _ => text
  if digits.isEmpty || !digits.all isAsciiDigit then none
  else
    let value := digits.foldl (fun n c => n * 10 + (c.toNat - '0'.toNat)) 0
    if value < 2 ^ 32 then some value else none

def validateProfileId (value : Text) : Except ProfileValidationError Unit :=
  if trim value != value || !validProfileId value then .error (.ofField .connectionId) else .ok ()

section
variable (validateCaFile : PathBuf → Except ProfileValidationError Unit)

def validateCredentialFields (draft : ConnectionDraft) : Except ProfileValidationError Unit :=
  match draft.credentialMode with
  | .none | .session =>
      if draft.secretEnv.isSome then .error (.ofField .credentialEnvironmentName) else .ok ()
  | .environment =>
      match draft.secretEnv with
      | none => .error (.ofField .credentialEnvironmentName)
      | some name =>
          if validEnvName name then .ok () else .error (.ofField .credentialEnvironmentName)

def validateDriverFields (draft : ConnectionDraft) : Except ProfileValidationError Unit :=
  if draft.driver == .redis then
    if draft.database.any fun database => (parseU32 database).isNone then
      .error (.ofField .database)
    else
      match draft.tls with
      | .preferred => .error ⟨.redisTlsMode, .redisTlsPreferredLegacy⟩
      | .disabled =>
          if draft.redisTls.caFile.isSome then .error (.ofField .redisCaFile) else .ok ()
      | .required =>
          match draft.redisTls.caFile with
          | some caFile => validateCaFile caFile
          | none => .ok ()
  else if !draft.redisTls.isEmpty then .error (.ofField .redisCaFile)
  else .ok ()

def validateConnectionDraft (draft : ConnectionDraft) : Except ProfileValidationError Unit :=
  if (trim draft.name).isEmpty then .error (.ofField .displayName)
  else if (trim draft.host).isEmpty then .error (.ofField .host)
  else if draft.port == 0 then .error (.ofField .port)
  else do
    validateCredentialFields draft
    validateDriverFields validateCaFile draft

def validateStrictPersistedProfile (profile : ConnectionProfile) :
    Except ProfileValidationError Unit := do
  validateProfileId profile.id
  validateConnectionDraft validateCaFile profile.asDraft

end

/-! ## Configurations and mutations -/

def currentConfigVersion : Nat := 2

structure Config where
  version : Nat := currentConfigVersion
  profiles : List ConnectionProfile := []
  deriving DecidableEq, Repr

/-- The loop of `validate_config_identity` with the ids seen so far. -/
def validateIdentities (seen : List Text) : List ConnectionProfile → Except ProfileValidationError Unit
  | [] => .ok ()
  | profile :: profiles => do
      validateProfileId profile.id
      if seen.contains profile.id then .error (.ofField .connectionId)
      else validateIdentities (profile.id :: seen) profiles

def validateConfigIdentity (config : Config) : Except ProfileValidationError Unit :=
  validateIdentities [] config.profiles

inductive ConfigMutation
  | create (profile : ConnectionProfile)
  | createAuto (baseId : Text) (profile : ConnectionProfile)
  | updateChecked (profileId : Text) (expectedProfile profile : ConnectionProfile)
  | deleteChecked (profileId : Text) (expectedProfile : ConnectionProfile)
  deriving DecidableEq, Repr

def validateConfigMutation (validateCaFile : PathBuf → Except ProfileValidationError Unit) :
    ConfigMutation → Except ProfileValidationError Unit
  | .create profile => validateStrictPersistedProfile validateCaFile profile
  | .createAuto baseId profile => do
      validateProfileId baseId
      validateStrictPersistedProfile validateCaFile profile
  | .updateChecked profileId expectedProfile profile => do
      validateProfileId expectedProfile.id
      if expectedProfile.id != profileId || profile.id != profileId then
        .error (.ofField .connectionId)
      else validateStrictPersistedProfile validateCaFile profile
  | .deleteChecked profileId expectedProfile => do
      validateProfileId expectedProfile.id
      if expectedProfile.id != profileId then .error (.ofField .connectionId) else .ok ()

/-- The stages at which the writer can be made to fail. -/
inductive MutationFailpoint
  | backupTempCreate
  | backupWrite
  | backupFileSync
  | backupRename
  | backupDirectorySync
  | mainTempCreate
  | mainWrite
  | mainFileSync
  | mainPreRename
  | mainPostRename
  | mainDirectorySync
  | mainObservationLoad
  deriving DecidableEq, Repr

inductive ConfigPath
  | main
  | backup
  | temp (sequence : Nat)
  | directory
  deriving DecidableEq, Repr

inductive ConfigError
  | io (path : ConfigPath)
  | invalidUtf8
  | parse
  | serialize
  | unsupportedVersion (version : Nat)
  | migrationConfirmationRequired (path : ConfigPath)
  | backupConflict (path : ConfigPath)
  | profileAlreadyExists (id : Text)
  | profileMissing (id : Text)
  | immutableProfileId
  | externalChange
  | invalidProfile
  | notCommitted (stage : MutationFailpoint)
  | writerUnavailable
  deriving DecidableEq, Repr

def profileIdFree (id : Text) (profiles : List ConnectionProfile) : Bool :=
  profiles.all fun profile => profile.id != id

def suffixedId (baseId : Text) (suffix : Nat) : Text := baseId ++ '-' :: (toString suffix).toList

/-- The loop of `allocate_profile_id`. Among one more candidate than there are
profiles one is free, so the last candidate needs no test. -/
def allocateFrom (baseId : Text) (profiles : List ConnectionProfile) : Nat → Nat → Text
  | 0, suffix => suffixedId baseId suffix
  | fuel + 1, suffix =>
      if profileIdFree (suffixedId baseId suffix) profiles then suffixedId baseId suffix
      else allocateFrom baseId profiles fuel (suffix + 1)

def allocateProfileId (baseId : Text) (profiles : List ConnectionProfile) : Text :=
  if profileIdFree baseId profiles then baseId else allocateFrom baseId profiles profiles.length 2

/-- Replaces the first profile with the id, as `iter_mut().find` and the assignment do. -/
def replaceProfile (profile : ConnectionProfile) : List ConnectionProfile → List ConnectionProfile
  | [] => []
  | existing :: profiles =>
      if existing.id == profile.id then profile :: profiles
      else existing :: replaceProfile profile profiles

/-- The mutated configuration and the affected profile id. -/
def applyMutation (config : Config) : ConfigMutation → Except ConfigError (Config × Option Text)
  | .create profile =>
      if config.profiles.any fun candidate => candidate.id == profile.id then
        .error (.profileAlreadyExists profile.id)
      else .ok ({ config with profiles := config.profiles ++ [profile] }, some profile.id)
  | .createAuto baseId profile =>
      let profileId := allocateProfileId baseId config.profiles
      .ok ({ config with profiles := config.profiles ++ [{ profile with id := profileId }] },
        some profileId)
  | .updateChecked profileId expectedProfile profile =>
      if profile.id != profileId || expectedProfile.id != profileId then .error .immutableProfileId
      else
        match config.profiles.find? fun candidate => candidate.id == profileId with
        | none => .error (.profileMissing profileId)
        | some existing =>
            if existing != expectedProfile then .error .externalChange
            else
              .ok ({ config with profiles := replaceProfile profile config.profiles },
                some profileId)
  | .deleteChecked profileId expectedProfile =>
      match config.profiles.find? fun candidate => candidate.id == profileId with
      | none => .error (.profileMissing profileId)
      | some existing =>
          if existing != expectedProfile then .error .externalChange
          else
            .ok ({ config with
                profiles := config.profiles.eraseP fun candidate => candidate.id == profileId },
              some profileId)

end Dbotter.Configuration
