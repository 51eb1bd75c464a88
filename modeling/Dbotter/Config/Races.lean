import Dbotter.Config.Writer
import Dbotter.Program.Interleaving
import Dbotter.Program.Sections

/-!
`ConfigWriter::mutate_path` in sections, and the calls of several writers in one process with
replacements of the file by somebody else in between.

The process lock is the lane. A section looks at the configuration file at most once, except
that the comparison before the rename and the rename itself are one section.
-/

namespace Dbotter.Configuration
open Dbotter.Utf8 Dbotter.Program

/-! ## The writer in sections -/

/-- What the world may change from one step to the next. -/
structure Conditions where
  validateCaFile : PathBuf → Except ProfileValidationError Unit
  lockPoisoned : Bool
  faults : MutationFailpoint → Bool
  osFails : Nat → Bool

def Conditions.environment (toml : Toml) (conditions : Conditions) : Environment where
  toml
  validateCaFile := conditions.validateCaFile
  lockPoisoned := conditions.lockPoisoned
  faults := conditions.faults
  osFails := conditions.osFails

/-- What is recorded of a step that writes the configuration file. -/
inductive FileEvent
  | committed (mutation : ConfigMutation)
  | replaced (content : Option Bytes)
  deriving DecidableEq, Repr

abbrev ConfigTask (α : Type) := Task World Conditions FileEvent ConfigError α

section
variable (toml : Toml) {α : Type}

def inSection (m : Environment → WriterM α) : ConfigTask α :=
  .atomically fun conditions => m (conditions.environment toml)

/-- The comparison of the file with what was loaded, and the rename. -/
def replaceMain (sequence : Nat) (expected : Option Bytes) (env : Environment) :
    WriterM Unit := do
  let fingerprint ← readMain env
  if fingerprint ≠ expected then .fail .externalChange
  else do
    renameMain env sequence
    disarm

def commitMain (mutation : ConfigMutation) (sequence : Nat) (expected : Option Bytes) :
    ConfigTask Unit :=
  .step fun conditions w =>
    ⟨(replaceMain sequence expected (conditions.environment toml) w).2,
      (replaceMain sequence expected (conditions.environment toml) w).1,
      if (replaceMain sequence expected (conditions.environment toml) w).1.isOk then
        some (.committed mutation)
      else none⟩

def fillTempTask (sequence : Nat) (content : Bytes) (write fileSync : MutationFailpoint) :
    ConfigTask Unit :=
  inSection toml fun env => fillTemp env sequence content write fileSync

def withTempTask (body : Nat → ConfigTask α) : ConfigTask α := do
  let sequence ← inSection toml createTemp
  inSection toml fun _ => .modify fun w => { w with armed := true }
  let result ← (body sequence).attempt
  inSection toml fun _ => .modify (dropCleanup sequence)
  .ofExcept result

def writeMainTask (mutation : ConfigMutation) (encoded : Bytes) (expected : Option Bytes) :
    ConfigTask CommitState := do
  inSection toml ensureParent
  inSection toml fun env => check env .mainTempCreate
  withTempTask toml fun sequence => do
    fillTempTask toml sequence encoded .mainWrite .mainFileSync
    inSection toml fun env => check env .mainPreRename
    commitMain toml mutation sequence expected
    inSection toml syncMain

/-- The body of `mutate_path` under the lock. -/
def mutateLoaded (mutation : ConfigMutation) (consent : MigrationConsent) :
    ConfigTask MutationOutcome := do
  let loaded ← inSection toml loadPath
  .ofExcept (validated (validateConfigIdentity loaded.config))
  inSection toml fun env => .ofExcept (validated (validateConfigMutation env.validateCaFile mutation))
  let backup ← inSection toml fun env => prepareMigration env loaded consent
  let (encoded, affectedProfileId) ←
    inSection toml fun env => .ofExcept (mutatedBytes env loaded mutation)
  let state ← writeMainTask toml mutation encoded loaded.fingerprint
  let observation ← (inSection toml observeMain).attempt
  match observation with
  | .ok observed => return ⟨state, .observed observed, backup, affectedProfileId⟩
  | .error source =>
      return ⟨.committedDurabilityUnknown, .failed .committedDurabilityUnknown source, backup,
        affectedProfileId⟩

def mutatePathTask (mutation : ConfigMutation) (consent : MigrationConsent) :
    ConfigTask MutationOutcome := do
  .lane
  let result ← (do
    inSection toml fun env => if env.lockPoisoned then .fail .writerUnavailable else pure ()
    mutateLoaded toml mutation consent : ConfigTask MutationOutcome).attempt
  .unlane
  .ofExcept result

end

/-! ## Alone it is `mutate_path` -/

section
variable {toml : Toml} {conditions : Conditions} {α : Type}

theorem runs_congr {t : ConfigTask α} {m m' : WriterM α} (h : t.Runs conditions m)
    (heq : ∀ w, m w = m' w) : t.Runs conditions m' :=
  funext heq ▸ h

theorem withTempTask_runs {body : Nat → ConfigTask α} {m : Nat → WriterM α}
    (h : ∀ sequence, (body sequence).Runs conditions (m sequence)) :
    (withTempTask toml body).Runs conditions (withTemp (conditions.environment toml) m) := by
  refine .bind (.atomically _) fun sequence => .bind (.atomically _) fun _ => ?_
  refine runs_congr (.bind (h sequence).attempt fun result =>
    .bind (.atomically _) fun _ => .done result) ?_
  intro w
  rfl

theorem writeMainTask_runs (mutation : ConfigMutation) (encoded : Bytes)
    (expected : Option Bytes) :
    (writeMainTask toml mutation encoded expected).Runs conditions
      (writeMain (conditions.environment toml) encoded expected) := by
  refine .bind (.atomically _) fun _ => .bind (.atomically _) fun _ => ?_
  refine withTempTask_runs fun sequence => ?_
  refine .bind (.atomically _) fun _ => .bind (.atomically _) fun _ => ?_
  have hcommit : (commitMain toml mutation sequence expected).Runs conditions
      (replaceMain sequence expected (conditions.environment toml)) := fun _ => rfl
  have hmain := hcommit.bind fun _ => .atomically fun c => syncMain (c.environment toml)
  rw [replaceMain, Prog.bind_assoc] at hmain
  refine runs_congr hmain fun w => congrFun (congrArg _ (funext fun fingerprint => ?_)) w
  split
  · rfl
  · exact Prog.bind_assoc _ _ _

/-- What `mutate_path` does under the lock. -/
def mutateUnlocked (env : Environment) (mutation : ConfigMutation) (consent : MigrationConsent) :
    WriterM MutationOutcome := do
  let loaded ← loadPath env
  .ofExcept (validated (validateConfigIdentity loaded.config))
  .ofExcept (validated (validateConfigMutation env.validateCaFile mutation))
  let backup ← prepareMigration env loaded consent
  let (encoded, affectedProfileId) ← .ofExcept (mutatedBytes env loaded mutation)
  let state ← writeMain env encoded loaded.fingerprint
  let observation ← (observeMain env).attempt
  match observation with
  | .ok observed => pure ⟨state, .observed observed, backup, affectedProfileId⟩
  | .error source =>
      pure ⟨.committedDurabilityUnknown, .failed .committedDurabilityUnknown source, backup,
        affectedProfileId⟩

theorem mutatePath_eq (env : Environment) (mutation : ConfigMutation)
    (consent : MigrationConsent) : mutatePath env mutation consent =
      if env.lockPoisoned then .fail .writerUnavailable else mutateUnlocked env mutation consent :=
  rfl

theorem mutateLoaded_runs (mutation : ConfigMutation) (consent : MigrationConsent) :
    (mutateLoaded toml mutation consent).Runs conditions
      (mutateUnlocked (conditions.environment toml) mutation consent) := by
  refine .bind (.atomically _) fun loaded => .bind (.done _) fun _ => ?_
  refine .bind (.atomically _) fun _ => .bind (.atomically _) fun backup => ?_
  refine .bind (.atomically _) fun bytes => .bind (writeMainTask_runs mutation _ _) fun state => ?_
  refine .bind (Task.Runs.atomically _).attempt fun observation => ?_
  cases observation with
  | ok observed => exact .pure _
  | error source => exact .pure _

/-- Without anything in between the sections are `mutate_path`. -/
theorem mutatePathTask_runs (mutation : ConfigMutation) (consent : MigrationConsent) :
    (mutatePathTask toml mutation consent).Runs conditions
      (mutatePath (conditions.environment toml) mutation consent) := by
  have hloaded : (mutateLoaded toml mutation consent).Runs conditions _ :=
    mutateLoaded_runs mutation consent
  have hbody := (Task.Runs.atomically (E := FileEvent) (i := conditions) fun c : Conditions =>
    (if (c.environment toml).lockPoisoned then .fail .writerUnavailable else pure () :
      WriterM Unit)).bind fun _ => hloaded
  refine runs_congr (.bind .lane fun _ => .bind hbody.attempt fun result =>
    .bind .unlane fun _ => .done result) fun w => ?_
  rw [mutatePath_eq]
  cases hlock : (conditions.environment toml).lockPoisoned with
  | true => rfl
  | false => rfl

end

end Dbotter.Configuration
