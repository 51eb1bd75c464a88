import Dbotter.Ui.FormSession

/-!
What a profile form submits, over whole sessions at the form.

The form and the service each check a request, and the form hides fields that its checks still
read. A form is `TidyForm` as long as a hidden field holds nothing that a check would report. Every
input keeps it so, and then what is submitted the service admits, and what is reported can be
edited in the form.
-/

namespace Dbotter.Ui
open Dbotter.Utf8 Dbotter.Execution Dbotter.Configuration Dbotter.Service Dbotter.Numerals

/-! ## Session intents -/

theorem sessionIntentPolicy_isSome (mode : CredentialMode) (context : CredentialEditContext) :
    (sessionIntentPolicy mode context).isSome = (mode == .session) := by
  cases mode with
  | session =>
    cases context with
    | create => rfl
    | edit hasCurrent => cases hasCurrent <;> rfl
  | none => rfl
  | environment => rfl

theorem mem_allowed {mode : CredentialMode} {context : CredentialEditContext}
    {policy : SessionIntentPolicy} (h : sessionIntentPolicy mode context = some policy)
    (intended : SessionCredentialIntent) :
    policy.allowed.contains intended = true ↔
      (intended = .keepCurrent → context = .edit true) := by
  cases mode with
  | session =>
    cases context with
    | create => cases h; cases intended <;> decide
    | edit hasCurrent => cases hasCurrent <;> cases h <;> cases intended <;> decide
  | none => cases h
  | environment => cases h

theorem default_allowed {mode : CredentialMode} {context : CredentialEditContext}
    {policy : SessionIntentPolicy} (h : sessionIntentPolicy mode context = some policy) :
    policy.allowed.contains policy.default = true := by
  cases mode with
  | session =>
    cases context with
    | create => cases h; decide
    | edit hasCurrent => cases hasCurrent <;> cases h <;> decide
  | none => cases h
  | environment => cases h

namespace FormFields

variable {form : FormFields}

theorem allows_iff (intended : SessionCredentialIntent) : form.allows intended = true ↔
    form.draft.credentialMode = .session ∧
      (intended = .keepCurrent → form.credentialContext = .edit true) := by
  have hsome := sessionIntentPolicy_isSome form.draft.credentialMode form.credentialContext
  unfold allows
  cases hpolicy : sessionIntentPolicy form.draft.credentialMode form.credentialContext with
  | none =>
    rw [hpolicy] at hsome
    have hmode : form.draft.credentialMode ≠ .session := by simpa using hsome.symm
    simp [hmode]
  | some policy =>
    rw [hpolicy] at hsome
    have hmode : form.draft.credentialMode = .session := by simpa using hsome.symm
    rw [Option.any_some, mem_allowed hpolicy]
    simp [hmode]

/-- What the form asks of the session credential. -/
def secretUpdate (form : FormFields) : SessionSecretUpdate :=
  match form.sessionIntent with
  | some .keepCurrent => .keep
  | some .replace => .replace form.replacementSecret
  | some .forget | none => .clear

/-- What the form submits once its draft validates. -/
def request (form : FormFields) (profile : ConnectionProfile) : ValidatedForm where
  explicitId := if form.isAdd && form.useAutoId then none else some profile.id
  draft := profile.asDraft
  secretUpdate := form.secretUpdate
  migrationConsent := .fromConfirmation (form.migrationRequired && form.migrationConfirmed)

/-- Whether the session credential is to be replaced and nothing is typed. -/
def lacksReplacement (form : FormFields) : Bool :=
  form.sessionIntent == some .replace && form.replacementSecret.isEmpty

theorem validatedDraft_mode : form.validatedDraft.credentialMode = form.draft.credentialMode := by
  unfold validatedDraft
  split <;> rfl

end FormFields

theorem ProfileDraft.validate_error {draft : ProfileDraft} {errors : ValidationErrors}
    (h : draft.validate = .error errors) :
    errors = draft.validationErrors ∧ draft.validationErrors.isEmpty = false := by
  unfold validate at h
  split at h
  · next hsome =>
    cases h
    exact ⟨rfl, by simpa using hsome⟩
  · next hempty =>
    obtain ⟨port, haccepts⟩ := isEmpty_iff.mp (by simpa using hempty)
    rw [portValue_eq_some.mpr ⟨haccepts.parses, haccepts.port_ne⟩] at h
    cases h

/-! ## TidyForm forms -/

/-- How a form is opened. A configuration is only read if the ids of its profiles are valid. -/
inductive FormOpening
  | new (driver : DriverKind)
  | edit (profile : ConnectionProfile) (valid : validProfileId profile.id = true)
      (expectedGeneration : ProfileGeneration) (hasCurrentSessionSecret : Bool)

def FormOpening.form : FormOpening → FormFields
  | .new driver => .new driver
  | .edit profile _ expectedGeneration hasCurrentSessionSecret =>
    .edit profile expectedGeneration hasCurrentSessionSecret

/-- The form once the user has entered all of these. -/
def FormOpening.after (opening : FormOpening) (inputs : List FormInput) : FormFields :=
  inputs.foldl FormFields.enter opening.form

/-- Whether Keep is offered, and the profile that is edited, stay as they are while a form is
open. No field that is hidden holds anything that a check would report. -/
structure TidyForm (opening : FormOpening) (form : FormFields) : Prop where
  mode : form.mode = opening.form.mode
  keepAvailable : form.sessionKeepAvailable = opening.form.sessionKeepAvailable
  id : form.isAdd = false → form.draft.id = opening.form.draft.id
  caFile : form.draft.redisCaFile ≠ [] → form.draft.driver = .redis ∧ form.draft.tls ≠ .disabled
  chosen : form.draft.credentialMode = .session ↔ form.sessionIntent.isSome
  allowed : ∀ intended, form.sessionIntent = some intended → form.allows intended = true
  replacement : form.replacementSecret ≠ [] → form.sessionIntent = some .replace
  probed : form.environmentAvailability.isSome →
    form.environmentProbeName = some form.draft.secretEnv
  migration : form.migrationRequired = false → form.migrationConfirmed = false

namespace TidyForm

variable {opening : FormOpening} {form : FormFields}

/-- The intent that a policy starts with is there exactly in session mode, and allowed. -/
theorem of_default {mode : CredentialMode} {context : CredentialEditContext}
    (hmode : form.draft.credentialMode = mode) (hcontext : form.credentialContext = context)
    (hchoice : form.sessionIntent = (sessionIntentPolicy mode context).map (·.default)) :
    (form.draft.credentialMode = .session ↔ form.sessionIntent.isSome) ∧
      ∀ intended, form.sessionIntent = some intended → form.allows intended = true := by
  subst hmode hcontext
  constructor
  · rw [hchoice, Option.isSome_map, sessionIntentPolicy_isSome]
    simp
  · intro intended hsome
    rw [hchoice] at hsome
    obtain ⟨policy, hpolicy, rfl⟩ := Option.map_eq_some_iff.mp hsome
    unfold FormFields.allows
    rw [hpolicy]
    exact default_allowed hpolicy

theorem opened (opening : FormOpening) : TidyForm opening opening.form := by
  cases opening with
  | new driver =>
    exact {
      mode := rfl
      keepAvailable := rfl
      id _ := rfl
      caFile h := absurd rfl h
      chosen := by simp [FormOpening.form, FormFields.new, ProfileDraft.new]
      allowed _ h := by cases h
      replacement h := absurd rfl h
      probed h := by cases h
      migration _ := rfl }
  | edit profile valid expectedGeneration hasCurrent =>
    have hcontext : profile.credentialMode = .session →
        (FormFields.edit profile expectedGeneration hasCurrent).credentialContext =
          .edit hasCurrent := by
      intro hmode
      simp [FormFields.edit, FormFields.credentialContext, hmode]
    have hchoice : (FormFields.edit profile expectedGeneration hasCurrent).sessionIntent =
        (sessionIntentPolicy profile.credentialMode
          (FormFields.edit profile expectedGeneration hasCurrent).credentialContext).map
            (·.default) := by
      by_cases hmode : profile.credentialMode = .session
      · rw [hcontext hmode]
        rfl
      · simp [FormFields.edit, sessionIntentPolicy, hmode]
    obtain ⟨hchosen, hallowed⟩ := @of_default (.edit profile expectedGeneration hasCurrent) _ _
      rfl rfl hchoice
    exact {
      mode := rfl
      keepAvailable := rfl
      id _ := rfl
      caFile h := by
        by_contra hnone
        apply h
        apply if_neg
        simp only [Bool.and_eq_true, beq_iff_eq, bne_iff_ne]
        exact hnone
      chosen := hchosen
      allowed := hallowed
      replacement h := absurd rfl h
      probed h := by cases h
      migration _ := rfl }

/-- The replacement is shown only where the session credential is to be replaced. -/
theorem replaces_of_shown (h : TidyForm opening form)
    (hshown : (sessionIntentPolicy form.draft.credentialMode form.credentialContext).any
      (fun policy => form.sessionIntent.getD policy.default == .replace) = true) :
    form.sessionIntent = some .replace := by
  obtain ⟨policy, hpolicy, hreplace⟩ := (Option.any_eq_true _ _).mp hshown
  have hmode : form.draft.credentialMode = .session := by
    have hsome := sessionIntentPolicy_isSome form.draft.credentialMode form.credentialContext
    rw [hpolicy] at hsome
    simpa using hsome.symm
  obtain ⟨intended, hintended⟩ := Option.isSome_iff_exists.mp (h.chosen.mp hmode)
  rw [hintended] at hreplace ⊢
  simpa using hreplace

/-! ## Saving -/

/-- A form that edits a profile has its id, and the id is valid. -/
theorem edited_id (h : TidyForm opening form) {originalId : ProfileId}
    {expectedGeneration : ProfileGeneration}
    (hmode : form.mode = .edit originalId expectedGeneration) :
    form.draft.id = originalId ∧ validProfileId originalId = true := by
  have hadd : form.isAdd = false := by simp [FormFields.isAdd, hmode]
  have hopened := h.mode.symm.trans hmode
  rw [h.id hadd]
  cases opening with
  | new driver => cases hopened
  | edit profile valid expectedGeneration hasCurrent =>
    cases hopened
    exact ⟨rfl, valid⟩

/-- The id of a profile that is edited validates, and to itself. -/
theorem validated_id (h : TidyForm opening form) {originalId : ProfileId}
    {expectedGeneration : ProfileGeneration}
    (hmode : form.mode = .edit originalId expectedGeneration) {profile : ConnectionProfile}
    (hvalid : form.validatedDraft.validate = .ok profile) : profile.id = originalId := by
  obtain ⟨port, -, rfl⟩ := ProfileDraft.validate_ok_iff.mp hvalid
  obtain ⟨hid, hvalidId⟩ := h.edited_id hmode
  have hdraft : form.validatedDraft = form.draft := by
    simp [FormFields.validatedDraft, FormFields.isAdd, hmode]
  show trim form.validatedDraft.id = originalId
  rw [hdraft, hid]
  exact trim_of_validProfileId hvalidId

theorem takeReplacement_eq (h : TidyForm opening form) (hsecret : form.lacksReplacement = false) :
    form.takeReplacement =
      .ok (if form.sessionIntent = some .replace then some form.replacementSecret else none,
        { form with replacementSecret := [] }) := by
  unfold FormFields.takeReplacement
  by_cases hreplace : form.sessionIntent = some .replace
  · have hsome : form.replacementSecret.isEmpty = false := by
      simpa [FormFields.lacksReplacement, hreplace] using hsecret
    rw [if_pos hreplace, if_pos hreplace, hsome]
    rfl
  · have hempty : form.replacementSecret = [] := by
      by_contra hsome
      exact hreplace (h.replacement hsome)
    rw [if_neg hreplace, if_neg hreplace, ← hempty]

/-- The update of the session credential is the one that was asked for. -/
theorem sessionUpdateForSave_eq (h : TidyForm opening form) :
    sessionUpdateForSave form.draft.credentialMode form.credentialContext form.sessionIntent
      (if form.sessionIntent = some .replace then some form.replacementSecret else none) =
      .ok form.secretUpdate := by
  unfold sessionUpdateForSave FormFields.secretUpdate
  cases hintended : form.sessionIntent with
  | none =>
    have hmode : form.draft.credentialMode ≠ .session := by
      intro hmode
      have hsome := h.chosen.mp hmode
      rw [hintended] at hsome
      cases hsome
    simp [sessionIntentPolicy, hmode]
  | some intended =>
    have hallows := h.allowed intended hintended
    unfold FormFields.allows at hallows
    obtain ⟨policy, hpolicy, hmem⟩ := (Option.any_eq_true _ _).mp hallows
    rw [hpolicy]
    dsimp only
    rw [hmem]
    cases intended <;> rfl

/-- A tidy form never finds its id changed or its session intent refused. -/
theorem trySave_eq (h : TidyForm opening form) (reserved : Bool) : form.trySave reserved =
    if form.draft.driver = .mongoDb then (none, form)
    else
      match form.validatedDraft.validate with
      | .error errors => (none, { form with errors })
      | .ok profile =>
        if !reserved || form.lacksReplacement then (none, form)
        else
          (some (form.request profile), { form with replacementSecret := [], errors := {} }) := by
  unfold FormFields.trySave
  split
  · rfl
  cases hvalid : form.validatedDraft.validate with
  | error errors => rfl
  | ok profile =>
    have hmode : profile.credentialMode = form.draft.credentialMode := by
      obtain ⟨port, -, rfl⟩ := ProfileDraft.validate_ok_iff.mp hvalid
      exact FormFields.validatedDraft_mode
    have hsame : form.renames profile = false := by
      unfold FormFields.renames
      cases hform : form.mode with
      | add => rfl
      | edit originalId expectedGeneration => simp [h.validated_id hform hvalid]
    dsimp only
    rw [hsame, hmode]
    cases reserved with
    | false => rfl
    | true =>
      cases hlacks : form.lacksReplacement with
      | true =>
        simp only [FormFields.lacksReplacement, Bool.and_eq_true, beq_iff_eq] at hlacks
        rw [FormFields.takeReplacement, if_pos hlacks.1, if_pos hlacks.2]
        rfl
      | false =>
        rw [h.takeReplacement_eq hlacks]
        have hupdate : sessionUpdateForSave form.draft.credentialMode
            { form with replacementSecret := [] }.credentialContext form.sessionIntent _ =
            .ok form.secretUpdate := h.sessionUpdateForSave_eq
        dsimp only
        rw [hupdate]
        rfl

theorem trySave_tidy (h : TidyForm opening form) (reserved : Bool) :
    TidyForm opening (form.trySave reserved).2 := by
  rw [h.trySave_eq]
  split
  · exact h
  · split
    · exact { h with }
    · split
      · exact h
      · exact { h with replacement hsecret := absurd rfl hsecret }

/-- The CA file goes with the driver that takes one. -/
theorem enter_selectDriver (h : TidyForm opening form) (driver : DriverKind) :
    TidyForm opening (form.enter (.selectDriver driver)) := by
  rw [FormFields.enter]
  split
  · exact h
  · exact { h with
      caFile hpath := by
        by_cases hdriver : driver = .redis
        · have hkept : form.draft.redisCaFile ≠ [] := by
            simpa [ProfileDraft.selectDriver, hdriver] using hpath
          obtain ⟨hredis, htls⟩ := h.caFile hkept
          constructor
          · exact hdriver
          · simpa [ProfileDraft.selectDriver, hredis] using htls
        · apply absurd _ hpath
          simp [ProfileDraft.selectDriver, hdriver] }

/-- For Redis the CA file goes with the mode that requires TLS. -/
theorem enter_selectTls (h : TidyForm opening form) (tls : TlsMode) :
    TidyForm opening (form.enter (.selectTls tls)) := by
  rw [FormFields.enter]
  split
  · exact h
  · exact { h with
      caFile hpath := by
        by_cases hkeeps : form.draft.driver = .redis ∧ tls ≠ .required
        · apply absurd _ hpath
          simp [ProfileDraft.selectTls, hkeeps]
        · have hkept : form.draft.redisCaFile ≠ [] := by
            simpa [ProfileDraft.selectTls, hkeeps] using hpath
          have hredis := (h.caFile hkept).1
          have htls : tls = .required := by
            by_contra hother
            exact hkeeps ⟨hredis, hother⟩
          constructor
          · exact hredis
          · rw [htls]
            simp [ProfileDraft.selectTls] }

/-- Another mode starts with its own choice. -/
theorem enter_selectCredentialMode (h : TidyForm opening form) (mode : CredentialMode) :
    TidyForm opening (form.enter (.selectCredentialMode mode)) := by
  rw [FormFields.enter]
  split
  · exact h
  · next hother =>
    obtain ⟨hchosen, hallowed⟩ := @of_default (form.selectCredentialMode mode) mode
      form.credentialContext rfl rfl rfl
    exact {
      mode := h.mode
      keepAvailable := h.keepAvailable
      id := h.id
      caFile := h.caFile
      chosen := hchosen
      allowed := hallowed
      replacement hsecret := by
        -- Nothing was typed in another mode, and nothing is kept for one.
        by_cases hsession : mode = .session
        · have hkept : form.replacementSecret ≠ [] := by
            simpa [FormFields.selectCredentialMode, hsession] using hsecret
          have hbefore : form.draft.credentialMode = .session := by
            rw [h.chosen, h.replacement hkept]
            rfl
          exact absurd (hsession.trans hbefore.symm) hother
        · apply absurd _ hsecret
          simp [FormFields.selectCredentialMode, hsession]
      probed hsome := by cases hsome
      migration := h.migration }

/-- What is typed stays for as long as it is to replace the credential. -/
theorem enter_selectIntent (h : TidyForm opening form) (intended : SessionCredentialIntent) :
    TidyForm opening (form.enter (.selectIntent intended)) := by
  rw [FormFields.enter, FormFields.selectSessionIntent]
  split
  · exact h
  · next hallows =>
    have hallows : form.allows intended = true := by simpa using hallows
    exact { h with
      chosen := by simp [((FormFields.allows_iff _).mp hallows).1]
      allowed other heq := by
        obtain rfl : intended = other := Option.some.inj heq
        exact hallows
      replacement hsecret := by
        by_cases hreplace : intended = .replace
        · rw [hreplace]
        · apply absurd _ hsecret
          simp [hreplace] }

theorem enter (h : TidyForm opening form) (input : FormInput) :
    TidyForm opening (form.enter input) := by
  cases input with
  | selectDriver driver => exact h.enter_selectDriver driver
  | typeName text => exact { h with }
  | setAutoId useAutoId =>
    rw [FormFields.enter]
    split
    · exact { h with }
    · exact h
  | typeId text =>
    rw [FormFields.enter]
    split
    · next heditable =>
      exact { h with
        id hadd := by
          have hedit : form.isAdd = false := hadd
          rw [FormFields.idEditable, hedit] at heditable
          cases heditable }
    · exact h
  | typeHost text => exact { h with }
  | typePort text => exact { h with }
  | typeDatabase text => exact { h with }
  | typeUsername text => exact { h with }
  | selectTls tls => exact h.enter_selectTls tls
  | typeCaFile text =>
    rw [FormFields.enter]
    split
    · next hshown =>
      simp only [FormFields.redisCaPickerVisible, Bool.and_eq_true, beq_iff_eq] at hshown
      exact { h with
        caFile _ := by
          constructor
          · exact hshown.1
          · simp [hshown.2] }
    · exact h
  | pickCaFile path =>
    rw [FormFields.enter, FormFields.bindRedisCaFile]
    split
    · exact h
    · next hshown =>
      simp only [Bool.or_eq_true, bne_iff_ne, not_or, not_not] at hshown
      exact { h with
        caFile _ := by
          constructor
          · exact hshown.1
          · simp [hshown.2] }
  | selectCredentialMode mode => exact h.enter_selectCredentialMode mode
  | typeSecretEnv text =>
    rw [FormFields.enter]
    split
    · exact { h with probed hsome := by cases hsome }
    · exact h
  | probe availability =>
    rw [FormFields.enter]
    split
    · exact { h with probed _ := rfl }
    · exact h
  | selectIntent intended => exact h.enter_selectIntent intended
  | typeReplacement text =>
    rw [FormFields.enter]
    split
    · next hshown =>
      exact { h with
        replacement _ := by
          exact h.replaces_of_shown hshown }
    · exact h
  | confirmMigration migrationConfirmed =>
    rw [FormFields.enter]
    split
    · next hrequired =>
      exact { h with
        migration hnone := by
          have hnone : form.migrationRequired = false := hnone
          rw [hnone] at hrequired
          cases hrequired }
    · exact h
  | presentMigration migrationRequired migrationBackup =>
    exact { h with
      migration hnone := by
        have hnone : migrationRequired = false := hnone
        simp [FormFields.enter, FormFields.setMigrationPresentation, hnone] }
  | save reserved => exact h.trySave_tidy reserved
  | test draftId operationId =>
    rw [FormFields.enter, FormFields.tryTestDraft]
    split
    · exact h
    · split
      · exact { h with }
      · exact h

theorem foldl (h : TidyForm opening form) (inputs : List FormInput) :
    TidyForm opening (inputs.foldl FormFields.enter form) := by
  induction inputs generalizing form with
  | nil => exact h
  | cons input inputs ih => exact ih (h.enter input)

theorem run (opening : FormOpening) (inputs : List FormInput) :
    TidyForm opening (opening.after inputs) :=
  (opened opening).foldl inputs

end TidyForm

/-! ## What the service admits -/

/-- Whether the service lets the session credential be updated. For an update the profile has not
changed since the form was opened, and a credential it had then it still has. -/
def FormOpening.AdmitsSecret (opening : FormOpening) (mode : CredentialMode)
    (update : SessionSecretUpdate) : Prop :=
  match opening with
  | .new _ => validateCreateSecretUpdate mode update = .ok ()
  | .edit profile _ _ hadCurrent =>
    ∀ (persisted : ConnectionProfile) (hasCurrent : Bool),
      persisted.credentialMode = profile.credentialMode →
      (hadCurrent = true → hasCurrent = true) →
      validateUpdateSecret persisted mode update hasCurrent = .ok ()

/-- What the service checks of the request of a form before it writes, where it accepts the CA
file. A replacement is what was typed in the form. -/
structure Admitted (opening : FormOpening) (form : FormFields) (request : ValidatedForm) : Prop where
  driver : request.draft.driver ≠ .mongoDb
  draft : ∀ validateCaFile : PathBuf → Except ProfileValidationError Unit,
    (∀ caFile, request.draft.redisTls.caFile = some caFile → validateCaFile caFile = .ok ()) →
    validateConnectionDraft validateCaFile request.draft = .ok ()
  explicitId : ∀ id, request.explicitId = some id → validateProfileId id = .ok ()
  secret : opening.AdmitsSecret request.draft.credentialMode request.secretUpdate
  replacement : ∀ secret, request.secretUpdate = .replace secret →
    form.sessionIntent = some .replace ∧ secret = form.replacementSecret ∧ secret ≠ []

/-- Why a form submits nothing. What is reported is at a field that the form lets the user edit,
and a replacement that is missing has its field shown. -/
inductive Refused (form form' : FormFields) : Prop
  | planned (driver : form.draft.driver = .mongoDb) (same : form' = form)
  | missing (mode : form.draft.credentialMode = .session)
      (replaces : form.sessionIntent = some .replace) (empty : form.replacementSecret = [])
      (same : form' = form)
  | invalid (reported : form' = { form with errors := form.validatedDraft.validationErrors })
      (some : form'.errors.isEmpty = false) (id : form'.errors.id ≠ none → form.idEditable = true)
      (secretEnv : form'.errors.secretEnv ≠ none → form.draft.credentialMode = .environment)
      (redisCaFile : form'.errors.redisCaFile = none)

namespace TidyForm

variable {opening : FormOpening} {form : FormFields}

theorem admitsSecret (h : TidyForm opening form) :
    opening.AdmitsSecret form.draft.credentialMode form.secretUpdate := by
  have hkeeps : form.sessionIntent = some .keepCurrent →
      form.draft.credentialMode = .session ∧ form.credentialContext = .edit true := by
    intro hintended
    obtain ⟨hmode, hcontext⟩ := (FormFields.allows_iff _).mp (h.allowed _ hintended)
    exact ⟨hmode, hcontext rfl⟩
  have hsession : form.sessionIntent.isSome → form.draft.credentialMode = .session := h.chosen.mpr
  unfold FormFields.credentialContext at hkeeps
  rw [h.mode] at hkeeps
  unfold FormFields.secretUpdate
  cases opening with
  | new driver =>
    unfold FormOpening.AdmitsSecret
    cases hintended : form.sessionIntent with
    | none => cases form.draft.credentialMode <;> rfl
    | some intended =>
      rw [hsession (by simp [hintended])]
      cases intended with
      | keepCurrent => cases (hkeeps hintended).2
      | replace => rfl
      | forget => rfl
  | edit profile valid expectedGeneration hadCurrent =>
    intro persisted hasCurrent hmode hcurrent
    cases hintended : form.sessionIntent with
    | none => cases form.draft.credentialMode <;> rfl
    | some intended =>
      rw [hsession (by simp [hintended])]
      cases intended with
      | keepCurrent =>
        have havailable := (CredentialEditContext.edit.inj (hkeeps hintended).2)
        rw [h.keepAvailable] at havailable
        simp only [FormOpening.form, FormFields.edit, Bool.and_eq_true, beq_iff_eq] at havailable
        simp [validateUpdateSecret, hmode, havailable.1, hcurrent havailable.2]
      | replace => rfl
      | forget => rfl

/-- What a tidy form reports, the user can edit. -/
theorem errors_editable (h : TidyForm opening form)
    (hinvalid : form.validatedDraft.validationErrors.isEmpty = false) :
    Refused form { form with errors := form.validatedDraft.validationErrors } := by
  apply Refused.invalid rfl hinvalid
  · intro hreported
    by_contra hfixed
    apply hreported
    rw [ProfileDraft.id_error]
    unfold FormFields.idEditable at hfixed
    cases hmode : form.mode with
    | add =>
      have hadd : form.isAdd = true := by simp [FormFields.isAdd, hmode]
      have hauto : form.useAutoId = true := by simpa [hadd] using hfixed
      rw [FormFields.validatedDraft, if_pos (by simp [hadd, hauto])]
      have hslug := (isSlug_slugifyProfileId form.draft.name).valid
      rw [trim_of_validProfileId hslug]
      exact hslug
    | edit originalId expectedGeneration =>
      obtain ⟨hid, hvalid⟩ := h.edited_id hmode
      have hdraft : form.validatedDraft = form.draft := by
        simp [FormFields.validatedDraft, FormFields.isAdd, hmode]
      rw [hdraft, hid, trim_of_validProfileId hvalid]
      exact hvalid
  · intro hreported
    by_contra hother
    apply hreported
    rw [ProfileDraft.secretEnv_error, FormFields.validatedDraft_mode]
    intro henvironment
    exact absurd henvironment hother
  · have hsame : form.validatedDraft.redisCaFile = form.draft.redisCaFile ∧
        form.validatedDraft.driver = form.draft.driver ∧
        form.validatedDraft.tls = form.draft.tls := by
      unfold FormFields.validatedDraft
      split <;> exact ⟨rfl, rfl, rfl⟩
    rw [ProfileDraft.redisCaFile_error, hsame.1, hsame.2.1, hsame.2.2]
    intro hhidden
    have hempty : form.draft.redisCaFile = [] := by
      by_contra hsome
      obtain ⟨hredis, htls⟩ := h.caFile hsome
      rcases hhidden with hdriver | hdisabled
      · exact hdriver hredis
      · exact htls hdisabled
    rw [hempty]
    rfl

theorem request_admitted (h : TidyForm opening form) (hdriver : form.draft.driver ≠ .mongoDb)
    {profile : ConnectionProfile} (hvalid : form.validatedDraft.validate = .ok profile)
    (hsecret : form.lacksReplacement = false) : Admitted opening form (form.request profile) := by
  obtain ⟨port, haccepts, rfl⟩ := ProfileDraft.validate_ok_iff.mp hvalid
  have hstrict : ∀ {validateCaFile : PathBuf → Except ProfileValidationError Unit},
      (∀ caFile, (form.validatedDraft.profile port).redisTls.caFile = some caFile →
        validateCaFile caFile = .ok ()) →
      validateStrictPersistedProfile validateCaFile (form.validatedDraft.profile port) =
        .ok () := by
    intro validateCaFile hcaFile
    exact (validateStrictPersistedProfile_ok_iff _).mpr (profile_strictlyValid haccepts hcaFile)
  constructor
  · have hsame : form.validatedDraft.driver = form.draft.driver := by
      unfold FormFields.validatedDraft
      split <;> rfl
    show form.validatedDraft.driver ≠ .mongoDb
    rw [hsame]
    exact hdriver
  · intro validateCaFile hcaFile
    have hboth := hstrict hcaFile
    unfold validateStrictPersistedProfile at hboth
    cases hid : validateProfileId (form.validatedDraft.profile port).id with
    | error error =>
      rw [hid] at hboth
      cases hboth
    | ok _ =>
      rw [hid] at hboth
      exact hboth
  · intro id hsome
    have hid : id = (form.validatedDraft.profile port).id := by
      unfold FormFields.request at hsome
      dsimp only at hsome
      split at hsome
      · cases hsome
      · exact (Option.some.inj hsome).symm
    rw [hid]
    exact validateProfileId_ok_iff.mpr haccepts.id
  · have hmode : (form.request (form.validatedDraft.profile port)).draft.credentialMode =
        form.draft.credentialMode := FormFields.validatedDraft_mode
    rw [hmode]
    exact h.admitsSecret
  · intro secret hreplaced
    have hupdate : form.secretUpdate = .replace secret := hreplaced
    unfold FormFields.secretUpdate at hupdate
    split at hupdate
    · cases hupdate
    · next hreplace =>
      have htyped : form.replacementSecret = secret := SessionSecretUpdate.replace.inj hupdate
      refine ⟨hreplace, htyped.symm, ?_⟩
      rintro rfl
      simp [FormFields.lacksReplacement, hreplace, htyped] at hsecret
    · cases hupdate
    · cases hupdate

end TidyForm

/-- Whatever the user has entered since a form was opened: what it submits the service admits, with
the replacement that was typed, which has left the form; and where it submits nothing although the
lane is free, the form shows what it lacks at a field that can be edited. -/
theorem form_admitted (opening : FormOpening) (inputs : List FormInput) :
    (∀ request form', (opening.after inputs).trySave true = (some request, form') →
      Admitted opening (opening.after inputs) request ∧ form'.replacementSecret = [] ∧
        form'.errors = {}) ∧
    ∀ form', (opening.after inputs).trySave true = (none, form') →
      Refused (opening.after inputs) form' := by
  have h := TidyForm.run opening inputs
  rw [h.trySave_eq]
  generalize opening.after inputs = form at h ⊢
  by_cases hdriver : form.draft.driver = .mongoDb
  · rw [if_pos hdriver]
    constructor
    · intro request form' heq
      cases heq
    · intro form' heq
      cases heq
      exact .planned hdriver rfl
  rw [if_neg hdriver]
  cases hvalid : form.validatedDraft.validate with
  | error errors =>
    obtain ⟨rfl, hsome⟩ := ProfileDraft.validate_error hvalid
    constructor
    · intro request form' heq
      cases heq
    · intro form' heq
      cases heq
      exact h.errors_editable hsome
  | ok profile =>
    dsimp only
    cases hlacks : form.lacksReplacement with
    | true =>
      simp only [FormFields.lacksReplacement, Bool.and_eq_true, beq_iff_eq,
        List.isEmpty_iff] at hlacks
      constructor
      · intro request form' heq
        cases heq
      · intro form' heq
        cases heq
        apply Refused.missing _ hlacks.1 hlacks.2 rfl
        rw [h.chosen, hlacks.1]
        rfl
    | false =>
      constructor
      · intro request form' heq
        cases heq
        exact ⟨h.request_admitted hdriver hvalid hlacks, rfl, rfl⟩
      · intro form' heq
        cases heq

def sessionProfile : ConnectionProfile := { cacheProfile "cache" with credentialMode := .session }

def sessionForm : FormOpening := .edit sessionProfile rfl 3 true

theorem form_admitted_replacing :
    let form := sessionForm.after [.selectIntent .replace, .typeReplacement "new".toList]
    form.secretUpdate = .replace "new".toList ∧
      ∃ request form', form.trySave true = (some request, form') ∧
        Admitted sessionForm form request ∧ form'.replacementSecret = [] ∧ form'.errors = {} := by
  have hboth := form_admitted sessionForm
    [.selectIntent .replace, .typeReplacement "new".toList]
  exact ⟨by decide, _, _, rfl, hboth.1 _ _ rfl⟩

/-! ## Testing and saving -/

/-- What a save of the form that is tested makes of the session credential. -/
def DraftTestIntent.update : DraftTestIntent → SessionSecretUpdate
  | .secretless _ _ _ | .environment _ _ _ => .clear
  | .sessionReplace _ _ _ secret => .replace secret
  | .sessionKeep _ _ _ _ _ => .keep

/-- The profile whose credential a test asks for is the one that the form edits. -/
def DraftTestIntent.KeepsFor (opening : FormOpening) : DraftTestIntent → Prop
  | .sessionKeep profileId profileGeneration _ _ _ =>
    opening.form.mode = .edit profileId profileGeneration
  | _ => True

namespace TidyForm

variable {opening : FormOpening} {form : FormFields}

theorem draftTestIntent_spec (h : TidyForm opening form) (draftId : DraftId)
    (operationId : OperationId) {profile : ConnectionProfile}
    (hmode : profile.credentialMode = form.draft.credentialMode) :
    if form.lacksReplacement then form.draftTestIntent draftId operationId profile = none
    else ∃ tested, form.draftTestIntent draftId operationId profile = some tested ∧
      tested.draftId = draftId ∧ tested.operationId = operationId ∧
      tested.draft = profile.asDraft ∧ tested.update = form.secretUpdate ∧
      tested.KeepsFor opening := by
  have hother : form.draft.credentialMode ≠ .session → form.sessionIntent = none := by
    intro hsession
    simpa using h.chosen.not.mp hsession
  unfold FormFields.lacksReplacement FormFields.draftTestIntent FormFields.secretUpdate
  cases hdraft : profile.credentialMode with
  | none =>
    rw [hother (by rw [← hmode, hdraft]; decide)]
    exact ⟨_, rfl, rfl, rfl, rfl, rfl, trivial⟩
  | environment =>
    rw [hother (by rw [← hmode, hdraft]; decide)]
    exact ⟨_, rfl, rfl, rfl, rfl, rfl, trivial⟩
  | session =>
    obtain ⟨intended, hintended⟩ :=
      Option.isSome_iff_exists.mp (h.chosen.mp (hmode.symm.trans hdraft))
    rw [hintended]
    cases intended with
    | keepCurrent =>
      have hcontext := ((FormFields.allows_iff _).mp (h.allowed _ hintended)).2 rfl
      unfold FormFields.credentialContext at hcontext
      cases hform : form.mode with
      | add =>
        rw [hform] at hcontext
        cases hcontext
      | edit originalId expectedGeneration =>
        exact ⟨_, rfl, rfl, rfl, rfl, rfl, h.mode.symm.trans hform⟩
    | replace =>
      cases hsecret : form.replacementSecret with
      | nil => rfl
      | cons c secret => exact ⟨_, rfl, rfl, rfl, rfl, rfl, trivial⟩
    | forget => exact ⟨_, rfl, rfl, rfl, rfl, rfl, trivial⟩

end TidyForm

/-- A form can be tested exactly when it can be saved. The test is of the draft and with the
credential that would be saved, and leaves the form as it is. -/
theorem test_agrees_with_save (opening : FormOpening) (inputs : List FormInput) (draftId : DraftId)
    (operationId : OperationId) :
    ((opening.after inputs).trySave true).1.isSome =
      ((opening.after inputs).tryTestDraft draftId operationId).1.isSome ∧
    ∀ request tested, ((opening.after inputs).trySave true).1 = some request →
      ((opening.after inputs).tryTestDraft draftId operationId).1 = some tested →
      tested.draftId = draftId ∧ tested.operationId = operationId ∧
        tested.draft = request.draft ∧ tested.update = request.secretUpdate ∧
        tested.KeepsFor opening ∧
        ((opening.after inputs).tryTestDraft draftId operationId).2 = opening.after inputs := by
  have h := TidyForm.run opening inputs
  rw [h.trySave_eq]
  generalize opening.after inputs = form at h ⊢
  unfold FormFields.tryTestDraft
  split
  · exact ⟨rfl, fun request tested hrequest => by cases hrequest⟩
  cases hvalid : form.validatedDraft.validate with
  | error errors => exact ⟨rfl, fun request tested hrequest => by cases hrequest⟩
  | ok profile =>
    have hmode : profile.credentialMode = form.draft.credentialMode := by
      obtain ⟨port, -, rfl⟩ := ProfileDraft.validate_ok_iff.mp hvalid
      exact FormFields.validatedDraft_mode
    have hspec := h.draftTestIntent_spec draftId operationId hmode
    dsimp only
    cases hlacks : form.lacksReplacement with
    | true =>
      rw [hlacks, if_pos rfl] at hspec
      rw [hspec]
      exact ⟨rfl, fun request tested hrequest => by cases hrequest⟩
    | false =>
      rw [hlacks, if_neg (by decide)] at hspec
      obtain ⟨tested, htested, hdraftId, hoperationId, hdraft, hupdate, hkeeps⟩ := hspec
      rw [htested]
      refine ⟨rfl, ?_⟩
      intro request tested' hrequest htested'
      cases hrequest
      cases htested'
      exact ⟨hdraftId, hoperationId, hdraft, hupdate, hkeeps, rfl⟩

end Dbotter.Ui
