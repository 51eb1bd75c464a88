import Dbotter.Ui.FormRequests

/-!
What can be submitted from a profile form, whatever has been entered in it.

Every request that the service admits can be filled in, from any state of an open form: no input
leads to a state from which the user could only cancel.
-/

namespace Dbotter.Ui
open Dbotter.Utf8 Dbotter.Execution Dbotter.Configuration Dbotter.Service Dbotter.Numerals

/-! ## What an input writes -/

namespace FormFields

variable (form : FormFields)

theorem enter_selectDriver {driver : DriverKind} (h : driver ≠ .mongoDb) :
    ∃ port tls redisCaFile, form.enter (.selectDriver driver) =
      { form with draft := { form.draft with driver, port, tls, redisCaFile } } := by
  rw [enter]
  split
  · next hsame =>
    rcases hsame with rfl | hmongo
    · exact ⟨_, _, _, rfl⟩
    · exact absurd hmongo h
  · exact ⟨_, _, _, rfl⟩

theorem enter_selectTls {tls : TlsMode} (h : form.draft.driver = .redis → tls ≠ .preferred) :
    ∃ redisCaFile, form.enter (.selectTls tls) =
      { form with draft := { form.draft with tls, redisCaFile } } := by
  have hoffered : tls ∈ form.tlsChoices := by
    unfold tlsChoices
    split
    · next hredis => cases tls <;> simp_all
    · cases tls <;> simp
  rw [enter]
  split
  · next hsame =>
    rcases hsame with rfl | hother
    · exact ⟨_, rfl⟩
    · exact absurd hoffered hother
  · exact ⟨_, rfl⟩

theorem enter_selectCredentialMode (mode : CredentialMode) :
    ∃ secretEnv environmentAvailability environmentProbeName sessionIntent replacementSecret,
      form.enter (.selectCredentialMode mode) =
        { form with
          draft := { form.draft with credentialMode := mode, secretEnv }
          environmentAvailability, environmentProbeName, sessionIntent, replacementSecret } := by
  rw [enter]
  split
  · next hsame =>
    subst hsame
    exact ⟨_, _, _, _, _, rfl⟩
  · exact ⟨_, _, _, _, _, rfl⟩

end FormFields

/-! ## Filling a form in -/

/-- Without a session credential there is nothing to keep or to replace. -/
theorem FormOpening.AdmitsSecret.clear {opening : FormOpening} {mode : CredentialMode}
    {update : SessionSecretUpdate} (h : opening.AdmitsSecret mode update)
    (hmode : mode ≠ .session) : update = .clear := by
  cases opening with
  | new driver =>
    have hnow : validateCreateSecretUpdate mode update = .ok () := h
    cases mode with
    | session => exact absurd rfl hmode
    | none => cases update <;> first | rfl | cases hnow
    | environment => cases update <;> first | rfl | cases hnow
  | edit profile valid expectedGeneration hadCurrent =>
    have hnow := h profile hadCurrent rfl fun hcurrent => hcurrent
    cases mode with
    | session => exact absurd rfl hmode
    | none => cases update <;> first | rfl | cases hnow
    | environment => cases update <;> first | rfl | cases hnow

/-- What a form holds once it is filled in with a profile, in the fields that it then shows. -/
structure FormFields.Fills (filled : FormFields) (profile : ConnectionProfile) : Prop where
  useAutoId : (filled.isAdd && filled.useAutoId) = false
  driver : filled.draft.driver = profile.driver
  tls : filled.draft.tls = profile.tls
  credentialMode : filled.draft.credentialMode = profile.credentialMode
  id : filled.isAdd = true → filled.draft.id = profile.id
  caFile : profile.driver = .redis → profile.tls = .required →
    filled.draft.redisCaFile = (profile.redisTls.caFile.map PathBuf.text).getD []
  secretEnv : profile.credentialMode = .environment →
    filled.draft.secretEnv = profile.secretEnv.getD []
  name : filled.draft.name = profile.name
  host : filled.draft.host = profile.host
  port : filled.draft.port = natText profile.port
  database : filled.draft.database = profile.database.getD []
  username : filled.draft.username = profile.username.getD []

namespace TidyForm

variable {opening : FormOpening} {form : FormFields} {profile : ConnectionProfile}

end TidyForm

end Dbotter.Ui
