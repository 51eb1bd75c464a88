import Dbotter.Service.ProfileIds

/-!
The draft of a profile form, from `src/ui/profile_form.rs`.

The form checks texts as they were typed and the service checks the profile that comes out of
them. The two accept the same profiles, up to blanks around a text and to texts that are blank
altogether.
-/

namespace Dbotter.Ui
open Dbotter.Utf8 Dbotter.Execution Dbotter.Configuration Dbotter.Service Dbotter.Numerals

/-! ## The draft -/

structure ProfileDraft where
  id : Text
  name : Text
  driver : DriverKind
  host : Text
  port : Text
  database : Text
  username : Text
  tls : TlsMode
  credentialMode : CredentialMode
  secretEnv : Text
  redisCaFile : Text
  deriving DecidableEq, Repr

structure ValidationErrors where
  id : Option Text := none
  name : Option Text := none
  host : Option Text := none
  port : Option Text := none
  database : Option Text := none
  secretEnv : Option Text := none
  tls : Option Text := none
  redisCaFile : Option Text := none
  deriving DecidableEq, Repr

def ValidationErrors.isEmpty (errors : ValidationErrors) : Bool :=
  errors.id.isNone && errors.name.isNone && errors.host.isNone && errors.port.isNone &&
    errors.database.isNone && errors.secretEnv.isNone && errors.tls.isNone &&
    errors.redisCaFile.isNone

def optionalTrimmed (value : Text) : Option Text :=
  if (trim value).isEmpty then none else some (trim value)

/-- `str::parse::<u16>`, which reads what `u32` reads as far as it is small enough. -/
def parseU16 (text : Text) : Option Nat := (parseU32 text).filter (· < 2 ^ 16)

namespace ProfileDraft

def fromProfile (profile : ConnectionProfile) : ProfileDraft where
  id := profile.id
  name := profile.name
  driver := profile.driver
  host := profile.host
  port := natText profile.port
  database := profile.database.getD []
  username := profile.username.getD []
  tls := profile.tls
  credentialMode := profile.credentialMode
  secretEnv := profile.secretEnv.getD []
  redisCaFile :=
    if profile.driver == .redis && profile.tls != .disabled then
      (profile.redisTls.caFile.map PathBuf.text).getD []
    else []

/-- The port, unless the text is no port. -/
def portValue (draft : ProfileDraft) : Option Nat :=
  match parseU16 (trim draft.port) with
  | some 0 | none => none
  | some port => some port

/-- The `secret_env` of the profile: other modes than the environment drop the text. -/
def secretEnvValue (draft : ProfileDraft) : Option Text :=
  match draft.credentialMode with
  | .environment => optionalTrimmed draft.secretEnv
  | .none | .session => none

def validationErrors (draft : ProfileDraft) : ValidationErrors where
  id :=
    if (trim draft.id).isEmpty then some "Profile id is required".toList
    else if !validProfileId (trim draft.id) then
      some "Use letters, digits, dot, underscore, or hyphen; start with a letter or digit".toList
    else none
  name := if (trim draft.name).isEmpty then some "Display name is required".toList else none
  host := if (trim draft.host).isEmpty then some "Host is required".toList else none
  port :=
    if draft.portValue.isNone then some "Port must be between 1 and 65535".toList else none
  database :=
    if draft.driver == .redis &&
        (optionalTrimmed draft.database).any fun database => (parseU32 database).isNone then
      some "Redis database must be a non-negative integer".toList
    else none
  secretEnv :=
    if draft.credentialMode == .environment && !draft.secretEnvValue.any validEnvName then
      some "Use a valid environment variable name".toList
    else none
  tls :=
    if draft.driver == .redis && draft.tls == .preferred then
      some "Preferred is a legacy Redis mode; choose Disabled or Required".toList
    else none
  redisCaFile :=
    if draft.driver == .redis then
      if draft.tls == .disabled && !(trim draft.redisCaFile).isEmpty then
        some "A CA file is only available when Redis TLS is Required".toList
      else none
    else if !(trim draft.redisCaFile).isEmpty then
      some "A Redis CA file is only valid for Redis".toList
    else none

/-- The profile of a draft without errors. -/
def profile (draft : ProfileDraft) (port : Nat) : ConnectionProfile where
  id := trim draft.id
  name := trim draft.name
  driver := draft.driver
  host := trim draft.host
  port
  database := optionalTrimmed draft.database
  username := optionalTrimmed draft.username
  tls := draft.tls
  credentialMode := draft.credentialMode
  secretEnv := draft.secretEnvValue
  redisTls :=
    { caFile :=
        if draft.driver == .redis && draft.tls == .required then
          (optionalTrimmed draft.redisCaFile).map PathBuf.mk
        else none }

def validate (draft : ProfileDraft) : Except ValidationErrors ConnectionProfile :=
  if !draft.validationErrors.isEmpty then .error draft.validationErrors
  else
    match draft.portValue with
    | some port => .ok (draft.profile port)
    | none => .error draft.validationErrors

end ProfileDraft

/-! ## Texts -/

theorem optionalTrimmed_eq_some {value text : Text} :
    optionalTrimmed value = some text ↔ text = trim value ∧ text ≠ [] := by
  unfold optionalTrimmed
  split
  · next hempty =>
    have hnil : trim value = [] := List.isEmpty_iff.mp hempty
    simp [hnil]
  · next hne =>
    have hne' : trim value ≠ [] := by simpa using hne
    constructor
    · rintro ⟨⟩
      exact ⟨rfl, hne'⟩
    · rintro ⟨rfl, -⟩
      rfl

/-- What a text field is read as, it is read as again. -/
theorem optionalTrimmed_getD (value : Text) :
    optionalTrimmed ((optionalTrimmed value).getD []) = optionalTrimmed value := by
  cases h : optionalTrimmed value with
  | none => rfl
  | some text =>
    obtain ⟨rfl, hne⟩ := optionalTrimmed_eq_some.mp h
    exact optionalTrimmed_eq_some.mpr ⟨(trim_trim value).symm, hne⟩

theorem trim_of_forall {text : Text} (h : ∀ c ∈ text, isWhitespace c = false) : trim text = text :=
  trim_eq_self (fun c hc => h c (List.mem_of_head? hc)) fun c hc => h c (List.mem_of_getLast? hc)

theorem trim_of_validProfileId {id : Text} (h : validProfileId id = true) : trim id = id :=
  trim_of_forall fun _ hc => isWhitespace_of_isIdChar (isIdChar_of_mem h hc)

theorem isIdChar_of_validEnvName {name : Text} (h : validEnvName name = true) {c : Char}
    (hc : c ∈ name) : isIdChar c = true := by
  cases name with
  | nil => cases hc
  | cons first rest =>
    simp only [validEnvName, validName, Bool.and_eq_true, List.all_eq_true, Bool.or_eq_true] at h
    rcases List.mem_cons.mp hc with rfl | hc
    · rcases h.1 with hfirst | hfirst <;> simp [isIdChar, isAsciiAlphanumeric, hfirst]
    · rcases h.2 c hc with hrest | hrest <;> simp [isIdChar, hrest]

theorem optionalTrimmed_of_validEnvName {name : Text} (h : validEnvName name = true) :
    optionalTrimmed name = some name := by
  refine optionalTrimmed_eq_some.mpr ⟨?_, by rintro rfl; cases h⟩
  exact (trim_of_forall fun _ hc => isWhitespace_of_isIdChar (isIdChar_of_validEnvName h hc)).symm

/-! ## Numbers -/

theorem isWhitespace_of_parseU32 {text : Text} (h : (parseU32 text).isSome) {c : Char}
    (hc : c ∈ text) : isWhitespace c = false := by
  have hdigit : ∀ d, isAsciiDigit d = true → isWhitespace d = false := fun d hd =>
    isWhitespace_of_isIdChar (by simp [isIdChar, isAsciiAlphanumeric, hd])
  unfold parseU32 at h
  split at h <;> (dsimp only at h; split at h)
  · cases h
  · next rest hdigits =>
    simp only [Bool.or_eq_true, Bool.not_eq_true', not_or, Bool.not_eq_false, List.all_eq_true]
      at hdigits
    rcases List.mem_cons.mp hc with rfl | hc
    · decide
    · exact hdigit c (hdigits.2 c hc)
  · cases h
  · next hdigits =>
    simp only [Bool.or_eq_true, Bool.not_eq_true', not_or, Bool.not_eq_false, List.all_eq_true]
      at hdigits
    exact hdigit c (hdigits.2 c hc)

theorem optionalTrimmed_of_parseU32 {text : Text} (h : (parseU32 text).isSome) :
    optionalTrimmed text = some text := by
  refine optionalTrimmed_eq_some.mpr ⟨?_, by rintro rfl; cases h⟩
  exact (trim_of_forall fun _ hc => isWhitespace_of_parseU32 h hc).symm

theorem parseU32_natText {n : Nat} (h : n < 2 ^ 32) : parseU32 (natText n) = some n := by
  obtain ⟨c, s, hcs, hc⟩ := natText_head n
  have hplus : c ≠ '+' := by
    rintro rfl
    cases hc
  have hall : (natText n).all isAsciiDigit = true :=
    List.all_eq_true.mpr fun d hd => isDigit_of_mem_natText hd
  have hvalue : (natText n).foldl (fun m d => m * 10 + (d.toNat - '0'.toNat)) 0 = n := by
    have hread := Nat.ofDigitChars_ten_toDigits (n := n)
    simpa only [natText, Nat.ofDigitChars, Nat.mul_comm] using hread
  rw [hcs] at hall hvalue ⊢
  unfold parseU32
  split
  · next heq => exact absurd (List.head_eq_of_cons_eq heq) hplus
  · dsimp only
    rw [if_neg (by simp [hall]), hvalue, if_pos h]

theorem parseU16_natText {n : Nat} (h : n < 2 ^ 16) : parseU16 (natText n) = some n := by
  rw [parseU16, parseU32_natText (by omega), Option.filter_some]
  exact if_pos (decide_eq_true h)

theorem trim_natText {n : Nat} : trim (natText n) = natText n :=
  trim_of_forall fun c hc => isWhitespace_of_isIdChar (by
    have hdigit : isAsciiDigit c = true := isDigit_of_mem_natText hc
    simp [isIdChar, isAsciiAlphanumeric, hdigit])

/-! ## The check of the form -/

/-- What the form asks of a draft with this port. -/
structure ProfileDraft.Accepts (draft : ProfileDraft) (port : Nat) : Prop where
  id : validProfileId (trim draft.id) = true
  name : trim draft.name ≠ []
  host : trim draft.host ≠ []
  parses : parseU16 (trim draft.port) = some port
  port_ne : port ≠ 0
  database : draft.driver = .redis → ∀ database, optionalTrimmed draft.database = some database →
    (parseU32 database).isSome
  secretEnv : draft.credentialMode = .environment →
    ∃ name, optionalTrimmed draft.secretEnv = some name ∧ validEnvName name = true
  tls : draft.driver = .redis → draft.tls ≠ .preferred
  redisCaFile : draft.driver ≠ .redis ∨ draft.tls = .disabled → trim draft.redisCaFile = []

namespace ProfileDraft

variable {draft : ProfileDraft}

theorem portValue_eq_some {port : Nat} :
    draft.portValue = some port ↔ parseU16 (trim draft.port) = some port ∧ port ≠ 0 := by
  unfold portValue
  cases parseU16 (trim draft.port) with
  | none => simp
  | some value =>
    cases value with
    | zero => simp; omega
    | succ value => simp; omega

theorem not_reported {c : Prop} [Decidable c] {message : Text} {rest : Option Text} :
    (if c then some message else rest) = none ↔ ¬ c ∧ rest = none := by
  split
  · next hc => simp [hc]
  · next hc => simp [hc]

theorem id_error : draft.validationErrors.id = none ↔ validProfileId (trim draft.id) = true := by
  unfold validationErrors
  dsimp only
  rw [not_reported, not_reported]
  cases trim draft.id with
  | nil => simp [validProfileId, validName]
  | cons c s => simp

theorem database_error : draft.validationErrors.database = none ↔
    (draft.driver = .redis → ∀ database, optionalTrimmed draft.database = some database →
      (parseU32 database).isSome) := by
  unfold validationErrors
  dsimp only
  rw [not_reported]
  cases optionalTrimmed draft.database with
  | none => simp
  | some database => cases hparse : parseU32 database <;> simp [hparse]

theorem secretEnv_error : draft.validationErrors.secretEnv = none ↔
    (draft.credentialMode = .environment →
      ∃ name, optionalTrimmed draft.secretEnv = some name ∧ validEnvName name = true) := by
  unfold validationErrors secretEnvValue
  dsimp only
  rw [not_reported]
  cases draft.credentialMode with
  | environment => cases optionalTrimmed draft.secretEnv <;> simp
  | none => simp
  | session => simp

theorem redisCaFile_error : draft.validationErrors.redisCaFile = none ↔
    (draft.driver ≠ .redis ∨ draft.tls = .disabled → trim draft.redisCaFile = []) := by
  unfold validationErrors
  dsimp only
  by_cases hredis : draft.driver = .redis
  · rw [if_pos (by simp [hredis]), not_reported]
    simp [hredis]
  · rw [if_neg (by simp [hredis]), not_reported]
    simp [hredis]

theorem isEmpty_iff : draft.validationErrors.isEmpty = true ↔ ∃ port, draft.Accepts port := by
  have hfields : draft.validationErrors.isEmpty = true ↔
      draft.validationErrors.id = none ∧ trim draft.name ≠ [] ∧ trim draft.host ≠ [] ∧
        draft.portValue ≠ none ∧ draft.validationErrors.database = none ∧
        draft.validationErrors.secretEnv = none ∧
        (draft.driver = .redis → draft.tls ≠ .preferred) ∧
        draft.validationErrors.redisCaFile = none := by
    simp only [ValidationErrors.isEmpty, Bool.and_eq_true, Option.isNone_iff_eq_none, and_assoc]
    have hname : draft.validationErrors.name = none ↔ trim draft.name ≠ [] :=
      not_reported.trans (by simp)
    have hhost : draft.validationErrors.host = none ↔ trim draft.host ≠ [] :=
      not_reported.trans (by simp)
    have hport : draft.validationErrors.port = none ↔ draft.portValue ≠ none :=
      not_reported.trans (by simp)
    have htls : draft.validationErrors.tls = none ↔
        (draft.driver = .redis → draft.tls ≠ .preferred) :=
      not_reported.trans (by simp)
    rw [hname, hhost, hport, htls]
  rw [hfields, id_error, database_error, secretEnv_error, redisCaFile_error]
  constructor
  · rintro ⟨hid, hname, hhost, hport, hdatabase, henv, htls, hca⟩
    obtain ⟨port, hport⟩ := Option.ne_none_iff_exists'.mp hport
    obtain ⟨hparses, hne⟩ := portValue_eq_some.mp hport
    exact ⟨port, hid, hname, hhost, hparses, hne, hdatabase, henv, htls, hca⟩
  · rintro ⟨port, h⟩
    have hport := portValue_eq_some.mpr ⟨h.parses, h.port_ne⟩
    exact ⟨h.id, h.name, h.host, by simp [hport], h.database, h.secretEnv, h.tls, h.redisCaFile⟩

theorem validate_ok_iff {profile : ConnectionProfile} :
    draft.validate = .ok profile ↔ ∃ port, draft.Accepts port ∧ profile = draft.profile port := by
  unfold validate
  constructor
  · intro h
    split at h
    · cases h
    · next herrors =>
      obtain ⟨port, hport⟩ := isEmpty_iff.mp (by simpa using herrors)
      rw [portValue_eq_some.mpr ⟨hport.parses, hport.port_ne⟩] at h
      exact ⟨port, hport, (Except.ok.inj h).symm⟩
  · rintro ⟨port, hport, rfl⟩
    rw [isEmpty_iff.mpr ⟨port, hport⟩, portValue_eq_some.mpr ⟨hport.parses, hport.port_ne⟩]
    rfl

end ProfileDraft

/-! ## The check of the service -/

section
variable (validateCaFile : PathBuf → Except ProfileValidationError Unit)

/-- What the service asks of a profile. -/
structure StrictlyValid (profile : ConnectionProfile) : Prop where
  id : validProfileId profile.id = true
  name : trim profile.name ≠ []
  host : trim profile.host ≠ []
  port_ne : profile.port ≠ 0
  database : profile.driver = .redis → ∀ database, profile.database = some database →
    (parseU32 database).isSome
  environment : profile.credentialMode = .environment →
    ∃ name, profile.secretEnv = some name ∧ validEnvName name = true
  noEnvironment : profile.credentialMode ≠ .environment → profile.secretEnv = none
  tls : profile.driver = .redis → profile.tls ≠ .preferred
  noCaFile : profile.driver ≠ .redis ∨ profile.tls = .disabled → profile.redisTls.caFile = none
  caFile : ∀ caFile, profile.redisTls.caFile = some caFile → validateCaFile caFile = .ok ()

theorem validateCredentialFields_ok_iff {draft : ConnectionDraft} :
    validateCredentialFields draft = .ok () ↔
      (draft.credentialMode = .environment →
        ∃ name, draft.secretEnv = some name ∧ validEnvName name = true) ∧
      (draft.credentialMode ≠ .environment → draft.secretEnv = none) := by
  unfold validateCredentialFields
  cases draft.credentialMode <;> cases draft.secretEnv <;> simp

theorem validateDriverFields_ok_iff {draft : ConnectionDraft} :
    validateDriverFields validateCaFile draft = .ok () ↔
      (draft.driver = .redis → ∀ database, draft.database = some database →
        (parseU32 database).isSome) ∧
      (draft.driver = .redis → draft.tls ≠ .preferred) ∧
      (draft.driver ≠ .redis ∨ draft.tls = .disabled → draft.redisTls.caFile = none) ∧
      ∀ caFile, draft.redisTls.caFile = some caFile → validateCaFile caFile = .ok () := by
  unfold validateDriverFields
  by_cases hredis : draft.driver = .redis
  · cases hdatabase : draft.database with
    | none => cases draft.tls <;> cases hca : draft.redisTls.caFile <;> simp [hredis]
    | some database =>
      cases hparse : parseU32 database with
      | none => simp [hredis, hparse]
      | some number =>
        cases draft.tls <;> cases hca : draft.redisTls.caFile <;> simp [hredis, hparse]
  · cases hca : draft.redisTls.caFile <;> simp [hredis, RedisTlsConfig.isEmpty, hca]

theorem validateStrictPersistedProfile_ok_iff {profile : ConnectionProfile} :
    validateStrictPersistedProfile validateCaFile profile = .ok () ↔
      StrictlyValid validateCaFile profile := by
  have hbind : ∀ {m m' : Except ProfileValidationError Unit},
      (m >>= fun _ => m') = .ok () ↔ m = .ok () ∧ m' = .ok () := by
    intro m m'
    cases m <;> simp [bind, Except.bind]
  unfold validateStrictPersistedProfile validateConnectionDraft ConnectionProfile.asDraft
  rw [hbind, validateProfileId_ok_iff]
  by_cases hname : trim profile.name = []
  · simp only [hname, List.isEmpty_nil, if_true, reduceCtorEq, and_false, false_iff]
    exact fun h => h.name hname
  by_cases hhost : trim profile.host = []
  · simp only [hname, hhost, List.isEmpty_nil, List.isEmpty_iff, if_true, if_false, reduceCtorEq,
      and_false, false_iff]
    exact fun h => h.host hhost
  by_cases hport : profile.port = 0
  · simp only [hname, hhost, hport, List.isEmpty_iff, if_true, if_false, beq_self_eq_true,
      reduceCtorEq, and_false, false_iff]
    exact fun h => h.port_ne hport
  simp only [hname, hhost, hport, List.isEmpty_iff, if_false, beq_iff_eq]
  rw [hbind, validateCredentialFields_ok_iff, validateDriverFields_ok_iff]
  constructor
  · rintro ⟨hid, ⟨henv, hnoenv⟩, hdatabase, htls, hnoca, hca⟩
    exact ⟨hid, hname, hhost, hport, hdatabase, henv, hnoenv, htls, hnoca, hca⟩
  · intro h
    exact ⟨h.id, ⟨h.environment, h.noEnvironment⟩, h.database, h.tls, h.noCaFile, h.caFile⟩

end

/-! ## Forms and profiles -/

def trimmedPath (path : PathBuf) : Option PathBuf := (optionalTrimmed path.text).map PathBuf.mk

/-- The profile with its texts trimmed, and without the optional ones that are blank. -/
def trimmedProfile (profile : ConnectionProfile) : ConnectionProfile :=
  { profile with
    id := trim profile.id
    name := trim profile.name
    host := trim profile.host
    database := profile.database.bind optionalTrimmed
    username := profile.username.bind optionalTrimmed
    secretEnv := profile.secretEnv.bind optionalTrimmed
    redisTls := { caFile := profile.redisTls.caFile.bind trimmedPath } }

theorem optionalTrimmed_field (value : Option Text) :
    optionalTrimmed (value.getD []) = value.bind optionalTrimmed := by
  cases value <;> rfl

theorem trimmedPath_field (value : Option PathBuf) :
    (optionalTrimmed ((value.map PathBuf.text).getD [])).map PathBuf.mk =
      value.bind trimmedPath := by
  cases value <;> rfl

/-- The form of a profile that the service accepts reads as that profile, trimmed. -/
theorem fromProfile_validate {validateCaFile : PathBuf → Except ProfileValidationError Unit}
    {profile : ConnectionProfile} (hport : profile.port < 2 ^ 16)
    (h : StrictlyValid validateCaFile profile) :
    (ProfileDraft.fromProfile profile).validate = .ok (trimmedProfile profile) := by
  have hcaFile : (ProfileDraft.fromProfile profile).redisCaFile =
      (profile.redisTls.caFile.map PathBuf.text).getD [] := by
    unfold ProfileDraft.fromProfile
    dsimp only
    split
    · rfl
    · next hnone =>
      have habsent : profile.redisTls.caFile = none := by
        refine h.noCaFile ?_
        by_contra hpresent
        rw [not_or, not_not] at hpresent
        exact hnone (by simp [hpresent.1, hpresent.2])
      rw [habsent]
      rfl
  refine ProfileDraft.validate_ok_iff.mpr ⟨profile.port, ?_, ?_⟩
  · exact {
      id := by
        rw [ProfileDraft.fromProfile, trim_of_validProfileId h.id]
        exact h.id
      name := h.name
      host := h.host
      parses := by
        rw [ProfileDraft.fromProfile, trim_natText, parseU16_natText hport]
      port_ne := h.port_ne
      database := by
        intro hredis database hdatabase
        rw [ProfileDraft.fromProfile, optionalTrimmed_field] at hdatabase
        obtain ⟨text, htext, hread⟩ := Option.bind_eq_some_iff.mp hdatabase
        have hparse := h.database hredis text htext
        rw [optionalTrimmed_of_parseU32 hparse] at hread
        rwa [← Option.some.inj hread]
      secretEnv := by
        intro henvironment
        obtain ⟨name, hname, hvalid⟩ := h.environment henvironment
        refine ⟨name, ?_, hvalid⟩
        rw [ProfileDraft.fromProfile, hname]
        exact optionalTrimmed_of_validEnvName hvalid
      tls := h.tls
      redisCaFile := by
        intro hnone
        rw [hcaFile, h.noCaFile hnone]
        rfl }
  · have hsecretEnv : (ProfileDraft.fromProfile profile).secretEnvValue =
        profile.secretEnv.bind optionalTrimmed := by
      rw [← optionalTrimmed_field]
      unfold ProfileDraft.secretEnvValue ProfileDraft.fromProfile
      cases hmode : profile.credentialMode with
      | environment => rfl
      | none => rw [h.noEnvironment (by rw [hmode]; nofun)]; rfl
      | session => rw [h.noEnvironment (by rw [hmode]; nofun)]; rfl
    have hkept : (if profile.driver == .redis && profile.tls == .required then
        (optionalTrimmed (ProfileDraft.fromProfile profile).redisCaFile).map PathBuf.mk else none) =
        profile.redisTls.caFile.bind trimmedPath := by
      rw [hcaFile, trimmedPath_field]
      split
      · rfl
      · next hnone =>
        have habsent : profile.redisTls.caFile = none := by
          refine h.noCaFile ?_
          by_contra hpresent
          rw [not_or, not_not] at hpresent
          have hpreferred := h.tls hpresent.1
          cases htls : profile.tls <;> simp_all
        rw [habsent]
        rfl
    unfold ProfileDraft.profile trimmedProfile
    rw [hsecretEnv]
    unfold ProfileDraft.fromProfile at hkept ⊢
    dsimp only at hkept ⊢
    rw [hkept, optionalTrimmed_field, optionalTrimmed_field]

/-- The service accepts what the form makes of a draft. -/
theorem profile_strictlyValid {validateCaFile : PathBuf → Except ProfileValidationError Unit}
    {draft : ProfileDraft} {port : Nat} (h : draft.Accepts port)
    (hcaFile : ∀ caFile, (draft.profile port).redisTls.caFile = some caFile →
      validateCaFile caFile = .ok ()) : StrictlyValid validateCaFile (draft.profile port) where
  id := h.id
  name := by
    show trim (trim draft.name) ≠ []
    rw [trim_trim]
    exact h.name
  host := by
    show trim (trim draft.host) ≠ []
    rw [trim_trim]
    exact h.host
  port_ne := h.port_ne
  database := h.database
  environment henvironment := by
    obtain ⟨name, hname, hvalid⟩ := h.secretEnv henvironment
    have hmode : draft.credentialMode = .environment := henvironment
    refine ⟨name, ?_, hvalid⟩
    show draft.secretEnvValue = some name
    unfold ProfileDraft.secretEnvValue
    rw [hmode]
    exact hname
  noEnvironment hother := by
    have hmode : draft.credentialMode ≠ .environment := hother
    show draft.secretEnvValue = none
    unfold ProfileDraft.secretEnvValue
    split
    · next heq => exact absurd heq hmode
    all_goals rfl
  tls := h.tls
  noCaFile hnone := by
    refine if_neg ?_
    rcases hnone with hdriver | htls
    · have hredis : draft.driver ≠ .redis := hdriver
      simp [hredis]
    · have hdisabled : draft.tls = .disabled := htls
      simp [hdisabled]
  caFile := hcaFile

/-- What a form makes of a draft is trimmed already. -/
theorem trimmedProfile_profile (draft : ProfileDraft) (port : Nat) :
    trimmedProfile (draft.profile port) = draft.profile port := by
  have hagain : ∀ value : Text,
      (optionalTrimmed value).bind optionalTrimmed = optionalTrimmed value := fun value => by
    rw [← optionalTrimmed_field, optionalTrimmed_getD]
  have hsecretEnv : draft.secretEnvValue.bind optionalTrimmed = draft.secretEnvValue := by
    unfold ProfileDraft.secretEnvValue
    split
    · exact hagain _
    all_goals rfl
  have hcaFile : (if draft.driver == .redis && draft.tls == .required then
      (optionalTrimmed draft.redisCaFile).map PathBuf.mk else none).bind trimmedPath =
      if draft.driver == .redis && draft.tls == .required then
        (optionalTrimmed draft.redisCaFile).map PathBuf.mk else none := by
    split
    · have hread := hagain draft.redisCaFile
      cases h : optionalTrimmed draft.redisCaFile with
      | none => rfl
      | some text =>
        rw [h] at hread
        exact congrArg (Option.map PathBuf.mk) hread
    · rfl
  unfold trimmedProfile ProfileDraft.profile
  dsimp only
  rw [hagain, hagain, hsecretEnv, hcaFile, trim_trim, trim_trim, trim_trim]

/-- The form and the service agree: what the form makes of a draft the service accepts, and it is
a form that reads as itself; what the service accepts the form reads as it is, trimmed. -/
theorem form_and_service_agree (validateCaFile : PathBuf → Except ProfileValidationError Unit) :
    (∀ (draft : ProfileDraft) (profile : ConnectionProfile), draft.validate = .ok profile →
      ((∀ caFile, profile.redisTls.caFile = some caFile → validateCaFile caFile = .ok ()) →
        validateStrictPersistedProfile validateCaFile profile = .ok ()) ∧
      (ProfileDraft.fromProfile profile).validate = .ok profile) ∧
    ∀ profile : ConnectionProfile, profile.port < 2 ^ 16 →
      validateStrictPersistedProfile validateCaFile profile = .ok () →
      (ProfileDraft.fromProfile profile).validate = .ok (trimmedProfile profile) := by
  refine ⟨fun draft profile hvalidate => ?_, fun profile hport hstrict => ?_⟩
  · obtain ⟨port, haccepts, rfl⟩ := ProfileDraft.validate_ok_iff.mp hvalidate
    refine ⟨fun hcaFile => ?_, ?_⟩
    · exact (validateStrictPersistedProfile_ok_iff _).mpr (profile_strictlyValid haccepts hcaFile)
    · have hport : port < 2 ^ 16 := by
        obtain ⟨-, hsmall⟩ := Option.filter_eq_some_iff.mp haccepts.parses
        exact of_decide_eq_true hsmall
      -- The form does not read the CA file, so any check of it will do.
      have hstrict : StrictlyValid (fun _ => .ok ()) (draft.profile port) :=
        profile_strictlyValid haccepts fun _ _ => rfl
      rw [fromProfile_validate hport hstrict, trimmedProfile_profile]
  · exact fromProfile_validate hport ((validateStrictPersistedProfile_ok_iff _).mp hstrict)

/-- A Redis connection with blanks around most of its texts. -/
def blankDraft : ProfileDraft where
  id := "cache".toList
  name := " Cache ".toList
  driver := .redis
  host := "cache ".toList
  port := " +6379".toList
  database := " 0".toList
  username := "  ".toList
  tls := .required
  credentialMode := .environment
  secretEnv := " CACHE_KEY ".toList
  redisCaFile := " /ca.pem".toList

theorem form_and_service_agree_blanks :
    (∃ profile, blankDraft.validate = .ok profile ∧
      (ProfileDraft.fromProfile profile).validate = .ok profile) ∧
    (ProfileDraft.fromProfile (cacheProfile "cache")).validate =
      .ok (trimmedProfile (cacheProfile "cache")) := by
  have hagree := form_and_service_agree fun _ => .ok ()
  have hvalid : blankDraft.validate = .ok (blankDraft.profile 6379) := rfl
  exact ⟨⟨_, hvalid, (hagree.1 blankDraft _ hvalid).2⟩,
    hagree.2 (cacheProfile "cache") (by decide) rfl⟩

end Dbotter.Ui
