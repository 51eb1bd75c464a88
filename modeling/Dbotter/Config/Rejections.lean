import Dbotter.Config.CrashSafety

/-!
Mutations that the writer rejects, and what a rejected call leaves behind.

A call is rejected by the profile ids of the file, by the checks of the mutation itself, or
by the configuration the mutation is applied to. Only the last of these comes after the
migration of a version 1 file has been prepared.
-/

namespace Dbotter.Configuration
open Dbotter.Utf8 Dbotter.Program

variable {env : Environment} {mutation : ConfigMutation} {consent : MigrationConsent}
  {d₀ : Directory} {e : ConfigError}

/-- `apply_mutation` and the check of the ids that it leaves. -/
def applied (config : Config) (mutation : ConfigMutation) : Except ConfigError Unit := do
  let (config, _) ← applyMutation config mutation
  validated (validateConfigIdentity { config with version := currentConfigVersion })

/-- The call gets as far as a check that says `e`. -/
inductive Rejects (env : Environment) (mutation : ConfigMutation) (consent : MigrationConsent)
    (w : World) (e : ConfigError) : Prop
  | identity {loaded : LoadedConfig} {w₁ : World} (unlocked : env.lockPoisoned = false)
      (load : loadPath env w = (.ok loaded, w₁))
      (rejects : validated (validateConfigIdentity loaded.config) = .error e)
  | mutation {loaded : LoadedConfig} {w₁ : World} (unlocked : env.lockPoisoned = false)
      (load : loadPath env w = (.ok loaded, w₁))
      (identity : validateConfigIdentity loaded.config = .ok ())
      (rejects : validated (validateConfigMutation env.validateCaFile mutation) = .error e)
  | applied {loaded : LoadedConfig} {w₁ w₂ : World} {backup : Option ConfigPath}
      (unlocked : env.lockPoisoned = false) (load : loadPath env w = (.ok loaded, w₁))
      (identity : validateConfigIdentity loaded.config = .ok ())
      (valid : validateConfigMutation env.validateCaFile mutation = .ok ())
      (migration : prepareMigration env loaded consent w₁ = (.ok backup, w₂))
      (rejects : applied loaded.config mutation = .error e)

/-- A backup has to be published before the mutation is applied: the file is of version 1,
it and the mutation pass their checks, and there is no backup yet. -/
def PublishesBackup (env : Environment) (mutation : ConfigMutation) (d : Directory) : Prop :=
  ∃ loaded, loadBytes env.toml d.main = .ok loaded ∧ loaded.sourceVersion = .v1 ∧
    validateConfigIdentity loaded.config = .ok () ∧
    validateConfigMutation env.validateCaFile mutation = .ok () ∧ d.backup = none

/-! ## The steps before the mutation -/

theorem mutatedBytes_of_applied {loaded : LoadedConfig}
    (h : applied loaded.config mutation = .error e) :
    mutatedBytes env loaded mutation = .error e := by
  unfold applied at h
  unfold mutatedBytes
  cases happly : applyMutation loaded.config mutation with
  | error e' =>
      rw [happly] at h
      cases h
      rfl
  | ok p =>
      rw [happly] at h
      simp only [bind, Except.bind] at h ⊢
      rw [h]

theorem loadPath_ok {w w₁ : World} {loaded : LoadedConfig}
    (h : loadPath env w = (.ok loaded, w₁)) :
    loadBytes env.toml w.directory.main = .ok loaded ∧ w₁.directory = w.directory ∧
      w₁.history = w.history ∧ w₁.armed = w.armed := by
  have hspec := @loadPath_spec env
    (fun w' => w'.directory = w.directory ∧ w'.history = w.history ∧ w'.armed = w.armed)
    (fun _ _ h => h) _ (fun _ h => congrArg Directory.main h.1) w ⟨rfl, rfl, rfl⟩
  rw [h] at hspec
  exact ⟨hspec.2 loaded rfl, hspec.1⟩

/-- What a prepared migration has done to the directory: nothing, or it has published the
backup. -/
theorem prepareMigration_ok {w w₂ : World} {loaded : LoadedConfig} {backup : Option ConfigPath}
    (hload : loadBytes env.toml w.directory.main = .ok loaded) (hhistory : w.history = [])
    (harmed : w.armed = false)
    (h : prepareMigration env loaded consent w = (.ok backup, w₂)) :
    w₂.directory = w.directory ↔ ¬(loaded.sourceVersion = .v1 ∧ w.directory.backup = none) := by
  obtain ⟨hmigration, horiginal⟩ := loadBytes_v1 hload
  have hnew : loaded.migrationRequired = true → w.directory.backup = none →
      Unchanged env.toml w.directory w.directory.main
        (some ⟨loaded.originalBytes.getD [], true, true⟩) := by
    intro hreq hnone
    have hv1 := hmigration.mp hreq
    exact ⟨rfl, .inr ⟨hnone, loaded, _, hload, hv1, horiginal hv1, rfl⟩⟩
  have hspec := @prepareMigration_spec env _ w.directory.temps _
    w.directory.backup ⟨rfl, .inl rfl⟩ loaded consent hnew w
    ⟨by simp [hhistory], rfl, rfl, rfl, harmed⟩
  rw [h] at hspec
  obtain ⟨b, hrest, ⟨-, hb⟩, hcontent⟩ := hspec
  have hrest' : w₂.directory = { w.directory with backup := b } := by
    have hmain := hrest.main_eq
    have hbackup := hrest.backup_eq
    have htemps := hrest.temps_eq
    cases hw : w₂.directory
    simp_all
  constructor
  · rintro hsame ⟨hv1, hnone⟩
    have hsome := hcontent backup rfl (hmigration.mpr hv1)
    rw [hsame] at hrest'
    have hb' : w.directory.backup = b := congrArg Directory.backup hrest'
    rw [← hb', hnone] at hsome
    cases hsome
  · intro hpublish
    rcases hb with rfl | ⟨hnone, loaded', _, hload', hv1, -⟩
    · rw [hrest']
    · rw [hload] at hload'
      cases hload'
      exact absurd ⟨hv1, hnone⟩ hpublish

/-! ## A rejected call -/

theorem validated_ok {r : Except ProfileValidationError Unit} (h : r = .ok ()) (w : World) :
    (Prog.ofExcept (validated r) : WriterM Unit) w = (.ok (), w) := by
  rw [h]
  rfl

/-- A rejected call returns the rejection, and leaves the directory as it was unless a backup
had to be published before. -/
theorem Rejects.run {w : World} (h : Rejects env mutation consent w e) (hhistory : w.history = [])
    (harmed : w.armed = false) :
    ∃ w', mutatePath env mutation consent w = (.error e, w') ∧
      (w'.directory = w.directory ↔ ¬PublishesBackup env mutation w.directory) := by
  cases h with
  | identity unlocked load rejects =>
      obtain ⟨hload, hdirectory, -⟩ := loadPath_ok load
      refine ⟨_, ?_, iff_of_true hdirectory ?_⟩
      · rw [mutatePath, if_neg (by simp [unlocked]), Prog.run_bind_ok load]
        exact Prog.run_bind_error (congrArg (·, _) rejects)
      · rintro ⟨loaded, hload', -, hidentity, -⟩
        rw [hload] at hload'
        cases hload'
        rw [hidentity] at rejects
        cases rejects
  | mutation unlocked load identity rejects =>
      obtain ⟨hload, hdirectory, -⟩ := loadPath_ok load
      refine ⟨_, ?_, iff_of_true hdirectory ?_⟩
      · rw [mutatePath, if_neg (by simp [unlocked]), Prog.run_bind_ok load,
          Prog.run_bind_ok (validated_ok identity _)]
        exact Prog.run_bind_error (congrArg (·, _) rejects)
      · rintro ⟨loaded, hload', -, -, hvalid, -⟩
        rw [hvalid] at rejects
        cases rejects
  | @applied loaded w₁ w₂ _ unlocked load identity valid migration rejects =>
      obtain ⟨hload, hdirectory, hhistory', harmed'⟩ := loadPath_ok load
      have hprepared := prepareMigration_ok (by rw [hdirectory]; exact hload)
        (hhistory'.trans hhistory) (harmed'.trans harmed) migration
      refine ⟨w₂, ?_, ?_⟩
      · rw [mutatePath, if_neg (by simp [unlocked]), Prog.run_bind_ok load,
          Prog.run_bind_ok (validated_ok identity _), Prog.run_bind_ok (validated_ok valid _),
          Prog.run_bind_ok migration]
        exact Prog.run_bind_error (congrArg (·, _) (mutatedBytes_of_applied rejects))
      · rw [← hdirectory, hprepared, not_iff_not]
        constructor
        · rintro ⟨hv1, hnone⟩
          exact ⟨_, by rw [hdirectory]; exact hload, hv1, identity, valid, hnone⟩
        · rintro ⟨loaded, hload', hv1, -, -, hnone⟩
          rw [hdirectory, hload] at hload'
          cases hload'
          exact ⟨hv1, hnone⟩

/-- A rejected call returns the rejection and leaves the directory exactly as it was, if and
only if no backup had to be published before. -/
theorem mutatePath_rejected_iff (env : Environment) (mutation : ConfigMutation)
    (consent : MigrationConsent) (d₀ : Directory) (sequence clock : Nat) (e : ConfigError)
    (h : Rejects env mutation consent { directory := d₀, sequence, clock } e) :
    ((mutatePath env mutation consent { directory := d₀, sequence, clock }).1 = .error e ∧
      (mutatePath env mutation consent { directory := d₀, sequence, clock }).2.directory = d₀) ↔
      ¬PublishesBackup env mutation d₀ := by
  obtain ⟨w', hrun, hdirectory⟩ := h.run rfl rfl
  rw [hrun]
  exact (and_iff_right rfl).trans hdirectory

/-! A file of either version with the one profile `a`; the text says which version it is. -/

def recordedProfile : ConnectionProfile :=
  ⟨⟨"a".toList, .mySql, "host".toList, 3306, none, none, .disabled, .none, none, {}⟩, "a".toList⟩

def recordedToml : Toml where
  header raw := some (if raw.head? = some '1' then 1 else 2)
  v1 _ := some [⟨"a".toList, "a".toList, .mySql, "host".toList, 3306, none, none, .disabled,
    none⟩]
  v2 _ := some { profiles := [recordedProfile] }
  print _ := some "2".toList

def recordedEnvironment : Environment where
  toml := recordedToml
  validateCaFile _ := .ok ()
  lockPoisoned := false
  faults _ := false
  osFails _ := false

def recordedDirectory (text : String) : Directory := ⟨some (bytes text.toList), none, []⟩

theorem recorded_rejects (text : String) (loaded : LoadedConfig)
    (hload : loadPath recordedEnvironment { directory := recordedDirectory text } =
      (.ok loaded, { directory := recordedDirectory text, clock := 1 }))
    (hprofiles : loaded.config.profiles = [recordedProfile])
    {backup : Option ConfigPath} {w : World}
    (hmigration : prepareMigration recordedEnvironment loaded .confirmed
      { directory := recordedDirectory text, clock := 1 } = (.ok backup, w)) :
    Rejects recordedEnvironment (.create recordedProfile) .confirmed
      { directory := recordedDirectory text } (.profileAlreadyExists "a".toList) := by
  refine .applied rfl hload ?_ (by decide +kernel) hmigration ?_
  · rw [validateConfigIdentity, hprofiles]
    decide +kernel
  · simp only [applied, applyMutation, hprofiles]
    rfl

/-- A version 2 file is left alone. -/
theorem mutatePath_rejected_two :
    (mutatePath recordedEnvironment (.create recordedProfile) .confirmed
        { directory := recordedDirectory "2" }).1 = .error (.profileAlreadyExists "a".toList) ∧
      (mutatePath recordedEnvironment (.create recordedProfile) .confirmed
        { directory := recordedDirectory "2" }).2.directory = recordedDirectory "2" := by
  have hload : loadPath recordedEnvironment { directory := recordedDirectory "2" } =
      (.ok ⟨{ profiles := [recordedProfile] }, .v2, false, some (bytes "2".toList),
        some (bytes "2".toList)⟩, { directory := recordedDirectory "2", clock := 1 }) := by
    decide +kernel
  refine (mutatePath_rejected_iff recordedEnvironment (.create recordedProfile) .confirmed
    (recordedDirectory "2") 1 0 _ (recorded_rejects "2" _ hload rfl rfl)).2 ?_
  rintro ⟨loaded, hloaded, hv1, -⟩
  rw [(loadPath_ok hload).1] at hloaded
  cases hloaded
  cases hv1

/-- The id is taken in a version 1 file. The rejected call leaves a backup behind, which then
stands in the way of every mutation once the file has been edited. -/
theorem mutatePath_rejected_keeps_backup :
    Rejects recordedEnvironment (.create recordedProfile) .confirmed
        { directory := recordedDirectory "1" } (.profileAlreadyExists "a".toList) ∧
      (mutatePath recordedEnvironment (.create recordedProfile) .confirmed
        { directory := recordedDirectory "1" }).1 = .error (.profileAlreadyExists "a".toList) ∧
      (mutatePath recordedEnvironment (.create recordedProfile) .confirmed
        { directory := recordedDirectory "1" }).2.directory =
          { recordedDirectory "1" with backup := some ⟨bytes "1".toList, true, true⟩ } ∧
      (mutatePath recordedEnvironment (.deleteChecked "a".toList recordedProfile) .confirmed
        { directory := { recordedDirectory "1 edited" with
          backup := some ⟨bytes "1".toList, true, true⟩ } }).1 =
            .error (.backupConflict .backup) := by
  refine ⟨?_, by decide +kernel, by decide +kernel, by decide +kernel⟩
  have hload : loadPath recordedEnvironment { directory := recordedDirectory "1" } =
      (.ok ⟨{ profiles := [recordedProfile] }, .v1, true, some (bytes "1".toList),
        some (bytes "1".toList)⟩, { directory := recordedDirectory "1", clock := 1 }) := by
    decide +kernel
  exact recorded_rejects "1" _ hload rfl rfl

end Dbotter.Configuration
