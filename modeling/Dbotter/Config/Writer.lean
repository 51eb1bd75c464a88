import Dbotter.Program.Fallible
import Dbotter.Config.Profile

/-!
`ConfigWriter::mutate_path` over a directory that holds the configuration file, its
migration backup and temporary files.

Every call into the operating system takes one tick of a clock and fails when the
environment says so at that tick; the injected faults of the writer come on top. A
successful rename replaces the target in one step, and the cleanup of a temporary
file succeeds. The world keeps, besides the directory itself, every directory state
it has gone through and the states that were synced.
-/

namespace Dbotter.Configuration
open Dbotter.Utf8 Dbotter.Program

abbrev Bytes := List UInt8

/-! ## Loading and encoding -/

inductive ConfigSourceVersion
  | missing
  | v1
  | v2
  deriving DecidableEq, Repr

structure ConnectionProfileV1 where
  id : Text
  name : Text
  driver : DriverKind
  host : Text
  port : Nat
  database : Option Text
  username : Option Text
  tls : TlsMode
  secretEnv : Option Text
  deriving DecidableEq, Repr

def normalizeV1 (profiles : List ConnectionProfileV1) : Config :=
  { profiles := profiles.map fun profile =>
      { id := profile.id
        name := profile.name
        driver := profile.driver
        host := profile.host
        port := profile.port
        database := profile.database
        username := profile.username
        tls := profile.tls
        credentialMode := if profile.secretEnv.isSome then .environment else .none
        secretEnv := profile.secretEnv
        redisTls := {} } }

/-- The TOML library: the version header, both document shapes and the printer. -/
structure Toml where
  header : Text → Option Nat
  v1 : Text → Option (List ConnectionProfileV1)
  v2 : Text → Option Config
  print : Config → Option Text

structure LoadedConfig where
  config : Config
  sourceVersion : ConfigSourceVersion
  migrationRequired : Bool
  originalBytes : Option Bytes
  fingerprint : Option Bytes
  deriving DecidableEq, Repr

def decodeUtf8 (bs : Bytes) : Option Text :=
  (ByteArray.mk bs.toArray).utf8Decode?.map Array.toList

theorem decodeUtf8_bytes (text : Text) : decodeUtf8 (bytes text) = some text := by
  have hencode : ByteArray.mk (bytes text).toArray = text.utf8Encode := by
    rw [List.utf8Encode, bytes, ← List.data_toByteArray]
  rw [decodeUtf8, hencode, List.utf8Decode?_utf8Encode]
  rfl

/-- `load_path` after the file was read; `none` is a missing file. -/
def loadBytes (toml : Toml) : Option Bytes → Except ConfigError LoadedConfig
  | none => .ok ⟨{}, .missing, false, none, none⟩
  | some bs =>
      match decodeUtf8 bs with
      | none => .error .invalidUtf8
      | some raw =>
          match toml.header raw with
          | none => .error .parse
          | some 1 =>
              match toml.v1 raw with
              | none => .error .parse
              | some wire => .ok ⟨normalizeV1 wire, .v1, true, some bs, some bs⟩
          | some 2 =>
              match toml.v2 raw with
              | none => .error .parse
              | some config => .ok ⟨config, .v2, false, some bs, some bs⟩
          | some version => .error (.unsupportedVersion version)

def encodeConfig (toml : Toml) (config : Config) : Except ConfigError Bytes :=
  match toml.print config with
  | none => .error .serialize
  | some encoded => .ok (bytes (encoded ++ ['\n']))

/-! ## The directory -/

structure BackupFile where
  content : Bytes
  isFile : Bool
  isPrivate : Bool
  deriving DecidableEq, Repr

structure TempFile where
  sequence : Nat
  content : Bytes
  deriving DecidableEq, Repr

structure Directory where
  main : Option Bytes
  backup : Option BackupFile
  temps : List TempFile
  deriving DecidableEq, Repr

structure World where
  directory : Directory
  history : List Directory := []
  synced : List Directory := []
  sequence : Nat := 1
  clock : Nat := 0
  armed : Bool := false
  deriving DecidableEq, Repr

structure Environment where
  toml : Toml
  validateCaFile : PathBuf → Except ProfileValidationError Unit
  lockPoisoned : Bool
  /-- The fault injector of the writer. -/
  faults : MutationFailpoint → Bool
  /-- The calls into the operating system that fail, by the clock. -/
  osFails : Nat → Bool

abbrev WriterM := Prog World ConfigError

section
variable (env : Environment)

/-- A call that fails with `e` and changes nothing when the system refuses it. -/
def osCall (e : ConfigError) : WriterM Unit := fun w =>
  if env.osFails w.clock then (.error e, { w with clock := w.clock + 1 })
  else (.ok (), { w with clock := w.clock + 1 })

/-- `self.faults.check(point, ..)` with its error mapped. -/
def check (point : MutationFailpoint) : WriterM Unit :=
  if env.faults point then .fail (.notCommitted point) else pure ()

def setDirectory (f : Directory → Directory) : WriterM Unit :=
  .modify fun w =>
    { w with directory := f w.directory, history := w.history ++ [w.directory] }

def readMain : WriterM (Option Bytes) := do
  osCall env (.io .main)
  let w ← .get
  pure w.directory.main

def loadPath : WriterM LoadedConfig := do
  let content ← readMain env
  .ofExcept (loadBytes env.toml content)

def ensureParent : WriterM Unit := osCall env (.io .directory)

/-- `sync_directory` with its error mapped to `stage`. -/
def syncDirectory (stage : MutationFailpoint) : WriterM Unit := do
  osCall env (.notCommitted stage)
  .modify fun w => { w with synced := w.synced ++ [w.directory] }

/-! ## Temporary files -/

def Directory.writeTemp (d : Directory) (sequence : Nat) (content : Bytes) : Directory :=
  { d with temps := d.temps.map fun t => if t.sequence = sequence then ⟨sequence, content⟩ else t }

def Directory.temp? (d : Directory) (sequence : Nat) : Option Bytes :=
  (d.temps.find? fun t => t.sequence == sequence).map TempFile.content

def Directory.removeTemp (d : Directory) (sequence : Nat) : Directory :=
  { d with temps := d.temps.filter fun t => t.sequence != sequence }

/-- `create_temp`: a fresh name, opened with `create_new`. -/
def createTemp : WriterM Nat := do
  let w ← .get
  let sequence := w.sequence
  .modify fun w => { w with sequence := w.sequence + 1 }
  osCall env (.io (.temp sequence))
  if w.directory.temps.any fun t => t.sequence == sequence then .fail (.io (.temp sequence))
  else do
    setDirectory fun d => { d with temps := d.temps ++ [⟨sequence, []⟩] }
    pure sequence

/-- The drop of a `TempCleanup`. -/
def dropCleanup (sequence : Nat) (w : World) : World :=
  if w.armed then
    { w with
      directory := w.directory.removeTemp sequence
      history := w.history ++ [w.directory]
      armed := false }
  else w

/-- `create_temp`, and `body` with the guard that removes the file again. -/
def withTemp {α : Type} (body : Nat → WriterM α) : WriterM α := do
  let sequence ← createTemp env
  .modify fun w => { w with armed := true }
  (body sequence).cleanup (dropCleanup sequence)

def disarm : WriterM Unit := .modify fun w => { w with armed := false }

/-- Writing, flushing and syncing a temporary file, with the failpoints of the two stages. -/
def fillTemp (sequence : Nat) (content : Bytes) (write fileSync : MutationFailpoint) :
    WriterM Unit := do
  check env write
  osCall env (.notCommitted write)
  setDirectory fun d => d.writeTemp sequence content
  osCall env (.notCommitted write)
  check env fileSync
  osCall env (.notCommitted fileSync)

/-! ## The backup -/

def readExistingBackup : WriterM (Option Bytes) := do
  osCall env (.io .backup)
  let w ← .get
  match w.directory.backup with
  | none => pure none
  | some backup =>
      if !backup.isFile || !backup.isPrivate then .fail (.backupConflict .backup)
      else do
        -- opening, the second look at the metadata, and the read
        osCall env (.io .backup)
        osCall env (.io .backup)
        osCall env (.io .backup)
        pure (some backup.content)

/-- `rename_no_replace` of a temporary file onto the backup; `false` is `AlreadyExists`. -/
def renameNoReplace (sequence : Nat) : WriterM Bool := do
  osCall env (.notCommitted .backupRename)
  let w ← .get
  match w.directory.temp? sequence with
  | none => .fail (.notCommitted .backupRename)
  | some content =>
      if w.directory.backup.isSome then pure false
      else do
        setDirectory fun d => { d.removeTemp sequence with backup := some ⟨content, true, true⟩ }
        pure true

def syncBackup : WriterM Unit := do
  check env .backupDirectorySync
  syncDirectory env .backupDirectorySync

def publishBackup (original : Bytes) : WriterM Unit := do
  ensureParent env
  check env .backupTempCreate
  withTemp env fun sequence => do
    fillTemp env sequence original .backupWrite .backupFileSync
    check env .backupRename
    let renamed ← renameNoReplace env sequence
    if renamed then disarm
    else do
      let existing ← readExistingBackup env
      if existing = some original then pure () else .fail (.backupConflict .backup)
    syncBackup env

def writeBackup (original : Bytes) : WriterM Unit := do
  let existing ← readExistingBackup env
  match existing with
  | some content =>
      if content = original then do
        ensureParent env
        syncBackup env
      else .fail (.backupConflict .backup)
  | none => publishBackup env original

inductive MigrationConsent
  | confirmed
  | cancelled
  deriving DecidableEq, Repr

def MigrationConsent.fromConfirmation (confirmed : Bool) : MigrationConsent :=
  if confirmed then .confirmed else .cancelled

def prepareMigration (loaded : LoadedConfig) (consent : MigrationConsent) :
    WriterM (Option ConfigPath) :=
  if !loaded.migrationRequired then pure none
  else if consent ≠ .confirmed then .fail (.migrationConfirmationRequired .backup)
  else do
    writeBackup env (loaded.originalBytes.getD [])
    pure (some .backup)

/-! ## The main file -/

inductive CommitState
  | notCommitted
  | committed
  | committedDurabilityUnknown
  deriving DecidableEq, Repr

/-- `fs::rename` of a temporary file onto the configuration. -/
def renameMain (sequence : Nat) : WriterM Unit := do
  osCall env (.notCommitted .mainPreRename)
  let w ← .get
  match w.directory.temp? sequence with
  | none => .fail (.notCommitted .mainPreRename)
  | some content => setDirectory fun d => { d.removeTemp sequence with main := some content }

/-- What follows the rename: a failure here is no error any more. -/
def syncMain : WriterM CommitState :=
  if env.faults .mainPostRename then pure .committedDurabilityUnknown
  else if env.faults .mainDirectorySync then pure .committedDurabilityUnknown
  else do
    let result ← (syncDirectory env .mainDirectorySync).attempt
    match result with
    | .ok _ => pure .committed
    | .error _ => pure .committedDurabilityUnknown

def writeMain (encoded : Bytes) (expected : Option Bytes) : WriterM CommitState := do
  ensureParent env
  check env .mainTempCreate
  withTemp env fun sequence => do
    fillTemp env sequence encoded .mainWrite .mainFileSync
    check env .mainPreRename
    let fingerprint ← readMain env
    if fingerprint ≠ expected then .fail .externalChange
    else do
      renameMain env sequence
      disarm
      syncMain env

/-! ## The mutation -/

inductive PostCommitObservation
  | observed (loaded : LoadedConfig)
  | failed (commitState : CommitState) (source : ConfigError)
  deriving DecidableEq, Repr

structure MutationOutcome where
  state : CommitState
  observation : PostCommitObservation
  migrationBackup : Option ConfigPath
  affectedProfileId : Option Text
  deriving DecidableEq, Repr

/-- A validation error is reported as `InvalidProfile`. -/
def validated (r : Except ProfileValidationError Unit) : Except ConfigError Unit :=
  r.mapError fun _ => .invalidProfile

def observeMain : WriterM LoadedConfig :=
  if env.faults .mainObservationLoad then .fail (.io .main)
  else do
    let loaded ← loadPath env
    .ofExcept (validated (validateConfigIdentity loaded.config))
    if loaded.sourceVersion ≠ .v2 then .fail .externalChange else pure loaded

/-- The bytes that a mutation of a loaded configuration writes, and the id it affects. -/
def mutatedBytes (loaded : LoadedConfig) (mutation : ConfigMutation) :
    Except ConfigError (Bytes × Option Text) := do
  let (config, affectedProfileId) ← applyMutation loaded.config mutation
  let config := { config with version := currentConfigVersion }
  validated (validateConfigIdentity config)
  let encoded ← encodeConfig env.toml config
  return (encoded, affectedProfileId)

def mutatePath (mutation : ConfigMutation) (consent : MigrationConsent) :
    WriterM MutationOutcome :=
  if env.lockPoisoned then .fail .writerUnavailable
  else do
    let loaded ← loadPath env
    .ofExcept (validated (validateConfigIdentity loaded.config))
    .ofExcept (validated (validateConfigMutation env.validateCaFile mutation))
    let backup ← prepareMigration env loaded consent
    let (encoded, affectedProfileId) ← .ofExcept (mutatedBytes env loaded mutation)
    let state ← writeMain env encoded loaded.fingerprint
    let observation ← (observeMain env).attempt
    match observation with
    | .ok observed => pure ⟨state, .observed observed, backup, affectedProfileId⟩
    | .error source =>
        pure ⟨.committedDurabilityUnknown, .failed .committedDurabilityUnknown source, backup,
          affectedProfileId⟩

end

end Dbotter.Configuration
