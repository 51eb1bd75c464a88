import Dbotter.Text.Path
import Dbotter.Program.Fallible
import Dbotter.Results.Tabular

/-!
The commit of an export file, from `src/export_file.rs`.

The others change the entry of the destination before every step of the export. Only between
the identity check of a confirmed replacement and its rename they do not.
-/

namespace Dbotter.Results
open Dbotter.Utf8 Dbotter.Configuration Dbotter.Program

inductive ExportFileStage
  | tempCreated
  | encoded
  | flushed
  | fileSynced
  | beforeCommit
  | committed
  | beforeDirectorySync
  | directorySynced
  deriving DecidableEq, Repr

structure FileIdentity where
  device : Nat
  inode : Nat
  size : Nat
  modifiedSeconds : Int
  modifiedNanoseconds : Int
  deriving DecidableEq, Repr

structure ConfirmedDestination where
  path : PathBuf
  identity : FileIdentity
  deriving DecidableEq, Repr

inductive OverwritePolicy
  | denyOverwrite
  | replaceConfirmed
  deriving DecidableEq, Repr

structure ExportFileOutcome where
  format : ExportFormat
  overwritePolicy : OverwritePolicy
  rowCount : Nat
  bytesWritten : Nat
  deriving DecidableEq, Repr

inductive ExportFileError
  | cancelled
  | destinationExists
  | invalidDestinationType
  | confirmationRequired
  | confirmationMismatch
  | destinationChanged
  | resultIdentityMismatch
  | encode (source : ExportEncodeError)
  | notCommitted (stage : ExportFileStage)
  | committedDurabilityUnknown (stage : ExportFileStage)
  deriving DecidableEq, Repr

structure ExportResult (φ ν : Type) where
  resultId : Nat
  snapshot : ResultSnapshot φ ν
  format : ExportFormat
  destination : PathBuf
  overwritePolicy : OverwritePolicy

/-! ## The directory and the others -/

/-- What a name in the directory stands for. -/
inductive Entry
  | regular (identity : FileIdentity) (content : Bytes)
  | other (identity : FileIdentity)
  deriving DecidableEq, Repr

/-- A rename onto the destination: when, what it replaced, and by what. -/
structure Commit where
  clock : Nat
  replaced : Option Entry
  identity : FileIdentity
  content : Bytes
  deriving DecidableEq, Repr

structure World where
  destination : Option Entry
  temp : Option Bytes := none
  clock : Nat := 0
  commits : List Commit := []
  deriving DecidableEq, Repr

inductive WriteAnswer
  | wrote (count : Nat)
  | failed
  deriving DecidableEq, Repr

/-- The answers that an export gets, most of them by the clock. -/
structure Environment where
  /-- What the others do to the destination. -/
  competitor : Nat → Option Entry → Option Entry
  isCancelled : Nat → Bool
  faults : ExportFileStage → Bool
  osFails : Nat → Bool
  nameTaken : Nat → Bool
  interruptions : Nat → Nat
  write : Nat → WriteAnswer
  renameFails : Bool
  removeFails : Nat → Bool
  tempIdentity : Bytes → FileIdentity

/-- The entry after `count` moves of the others, the first of them at `start`. -/
def Environment.moved (env : Environment) (start : Nat) :
    Nat → Option Entry → Option Entry
  | 0, entry => entry
  | count + 1, entry => env.competitor (start + count) (env.moved start count entry)

section
variable (env : Environment)

/-- The others move. -/
def Environment.pass (w : World) : World :=
  { w with destination := env.competitor w.clock w.destination, clock := w.clock + 1 }

def tick {ε : Type} : Prog World ε Nat := fun w => (.ok w.clock, env.pass w)

def osCall {ε : Type} (e : ε) : Prog World ε Unit := do
  let now ← tick env
  if env.osFails now then .fail e else pure ()

def poll {ε : Type} : Prog World ε Bool := do
  let now ← tick env
  pure (env.isCancelled now)

/-! ## The writer -/

/-- One `StreamingWriter::write`, after as many interrupted ones. -/
def streamingWrite (buffer : Bytes) : Nat → Prog World ExportEncodeError Nat
  | 0 => do
      let cancelled ← poll env
      if cancelled then .fail .cancelled
      else do
        let now ← tick env
        match env.write now with
        | .failed => .fail .io
        | .wrote count => do
            let written := min count (min buffer.length (4 * 1024))
            .modify fun w => { w with temp := w.temp.map (· ++ buffer.take written) }
            pure written
  | interruptions + 1 => do
      let cancelled ← poll env
      if cancelled then .fail .cancelled
      else streamingWrite buffer interruptions

/-- `write_all`, which gives up on a write of no bytes. -/
def writeAllTo (buffer : Bytes) : Prog World ExportEncodeError Unit :=
  if _hne : buffer = [] then pure ()
  else do
    let w ← .get
    let written ← streamingWrite env buffer (env.interruptions w.clock)
    if _hzero : written = 0 then .fail .io else writeAllTo (buffer.drop written)
termination_by buffer.length
decreasing_by
  have hpos := List.length_pos_iff.mpr _hne
  rw [List.length_drop]
  omega

def writePieces : List Text → Prog World ExportEncodeError Unit
  | [] => pure ()
  | piece :: pieces => do
      writeAllTo env (bytes piece)
      writePieces pieces

/-- `write_export_with_cancel` into the temporary file. -/
def writeExportWithCancel (encoder : Encode Unit) : Prog World ExportEncodeError Unit := do
  writePieces env encoder.pieces
  .ofExcept encoder.result

end

/-! ## The steps of an export -/

abbrev ExportM := Prog World ExportFileError

section
variable {φ ν : Type} (env : Environment)

inductive Metadata
  | found (entry : Entry)
  | notFound
  | failed
  deriving DecidableEq, Repr

/-- `fs::symlink_metadata` of the destination. -/
def lookAt (destination : Option Entry) : Metadata :=
  match destination with
  | some entry => .found entry
  | none => .notFound

def symlinkMetadata : ExportM Metadata := do
  let now ← tick env
  if env.osFails now then pure .failed
  else do
    let w ← .get
    pure (lookAt w.destination)

def precommitFault (stage : ExportFileStage) : ExportM Unit := do
  let _ ← tick env
  if env.faults stage then .fail (.notCommitted stage) else pure ()

def postcommitFault (stage : ExportFileStage) : ExportM Unit := do
  let _ ← tick env
  if env.faults stage then .fail (.committedDurabilityUnknown stage) else pure ()

def validateCommitPolicy (request : ExportResult φ ν)
    (confirmation : Option ConfirmedDestination) : ExportM Unit :=
  match request.overwritePolicy with
  | .denyOverwrite =>
      if confirmation.isSome then .fail .confirmationMismatch
      else do
        let metadata ← symlinkMetadata env
        match metadata with
        | .found (.regular _ _) => .fail .destinationExists
        | .found (.other _) => .fail .invalidDestinationType
        | .notFound => pure ()
        | .failed => .fail (.notCommitted .tempCreated)
  | .replaceConfirmed =>
      match confirmation with
      | none => .fail .confirmationRequired
      | some confirmation =>
          if confirmation.path == request.destination then pure ()
          else .fail .confirmationMismatch

/-- `fs::remove_file` of the temporary file, whose error nobody looks at. -/
def removeTemp : ExportM Unit := do
  let now ← tick env
  if env.removeFails now then pure () else .modify fun w => { w with temp := none }

/-- The rounds of `create_private_temp`, each with a new random name. -/
def createPrivateTemp : Nat → ExportM Unit
  | 0 => .fail (.notCommitted .tempCreated)
  | rounds + 1 => do
      osCall env (.notCommitted .tempCreated)
      let now ← tick env
      if env.nameTaken now then createPrivateTemp rounds
      else do
        osCall env (.notCommitted .tempCreated)
        .modify fun w => { w with temp := some [] }
        let permissions ← (osCall env (.notCommitted .tempCreated)).attempt
        match permissions with
        | .ok () => pure ()
        | .error source => do
            removeTemp env
            .fail source

def verifyConfirmedDestination (destination : PathBuf) (confirmation : ConfirmedDestination) :
    ExportM Unit :=
  if confirmation.path != destination then .fail .confirmationMismatch
  else do
    let metadata ← symlinkMetadata env
    match metadata with
    | .found (.regular identity _) =>
        if identity = confirmation.identity then pure () else .fail .destinationChanged
    | _ => .fail .destinationChanged

/-- The rename of the temporary file onto the destination. -/
def rename : ExportM Unit := do
  let w ← .get
  match w.temp with
  | none => .fail (.notCommitted .beforeCommit)
  | some content =>
      if env.renameFails then .fail (.notCommitted .beforeCommit)
      else
        .modify fun w =>
          { w with
            destination := some (.regular (env.tempIdentity content) content)
            temp := none
            commits := w.commits ++ [⟨w.clock, w.destination, env.tempIdentity content, content⟩] }

def renameNoReplace : ExportM Unit := do
  let _ ← tick env
  let w ← .get
  if w.destination.isSome then .fail .destinationExists else rename env

def commitDestination (request : ExportResult φ ν)
    (confirmation : Option ConfirmedDestination) : ExportM Unit :=
  match request.overwritePolicy with
  | .denyOverwrite => do
      let renamed ← (renameNoReplace env).attempt
      match renamed with
      | .ok () => pure ()
      | .error _ => do
          let metadata ← symlinkMetadata env
          match metadata with
          | .found (.regular _ _) => .fail .destinationExists
          | .found (.other _) => .fail .invalidDestinationType
          | _ => .fail (.notCommitted .beforeCommit)
  | .replaceConfirmed =>
      match confirmation with
      | none => .fail .confirmationRequired
      | some confirmation => do
          verifyConfirmedDestination env request.destination confirmation
          rename env

def encodeFailure : ExportEncodeError → ExportFileError
  | .cancelled => .cancelled
  | source => .encode source

variable (crates : Crates φ ν)

/-- From the guarded temporary file to the commit; the length of the file is the result. -/
def fillAndCommit (request : ExportResult φ ν) (confirmation : Option ConfirmedDestination) :
    ExportM Nat := do
  precommitFault env .tempCreated
  (writeExportWithCancel env (encoded crates request.snapshot request.format)).mapError
    encodeFailure
  precommitFault env .encoded
  osCall env (.notCommitted .flushed)
  precommitFault env .flushed
  osCall env (.notCommitted .fileSynced)
  precommitFault env .fileSynced
  osCall env (.notCommitted .fileSynced)
  let w ← .get
  let bytesWritten := (w.temp.getD []).length
  let cancelled ← poll env
  if cancelled then .fail .cancelled
  else do
    precommitFault env .beforeCommit
    commitDestination env request confirmation
    pure bytesWritten

/-- The drop of an armed `TempCleanup` on the way out with an error. -/
def withTempCleanup {α : Type} (body : ExportM α) : ExportM α := do
  let result ← body.attempt
  match result with
  | .ok a => pure a
  | .error source => do
      removeTemp env
      .fail source

def syncDirectory : ExportM Unit := do
  postcommitFault env .committed
  postcommitFault env .beforeDirectorySync
  osCall env (.committedDurabilityUnknown .beforeDirectorySync)
  postcommitFault env .directorySynced

def exportResultToFileWithFaults (request : ExportResult φ ν)
    (confirmation : Option ConfirmedDestination) : ExportM ExportFileOutcome :=
  if request.resultId ≠ request.snapshot.provenance.resultId then .fail .resultIdentityMismatch
  else do
    validateCommitPolicy env request confirmation
    createPrivateTemp env 32
    let bytesWritten ← withTempCleanup env (fillAndCommit env crates request confirmation)
    syncDirectory env
    pure ⟨request.format, request.overwritePolicy, request.snapshot.rows.length, bytesWritten⟩

end

end Dbotter.Results
