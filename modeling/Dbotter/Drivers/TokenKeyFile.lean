import Dbotter.Program.Interleaving

/-!
The file of the catalog token key, from `src/drivers/mysql_catalog.rs`.

Every call of `load_or_create_token_key` runs for a process, and all calls share one directory.
A call is a task whose steps are the calls of the operating system; any of them may fail. A
`read` or `write` of several bytes is several steps here, which other calls may interrupt.
-/

namespace Dbotter.Drivers
open Dbotter.Program

abbrev FileBytes := List UInt8

def tokenKeyBytes : Nat := 32

/-- The name of a temporary file: the process and the sequence number. -/
structure TempName where
  process : Nat
  sequence : Nat
  deriving DecidableEq, Repr

/-- What a name stands for. Directories, links and the like are not files. -/
structure DirEntry where
  inode : Nat
  isFile : Bool
  mode : Nat
  deriving DecidableEq, Repr

structure KeyDirectory where
  /-- The entry at the path of the key. -/
  entry : Option DirEntry
  temps : TempName → Option DirEntry
  content : Nat → FileBytes
  nextInode : Nat
  /-- `TOKEN_KEY_TEMP_SEQUENCE` of each process. -/
  sequence : Nat → Nat

/-- What the system answers to one step. -/
structure KeyAnswer where
  fails : Bool := false
  entropy : Fin tokenKeyBytes → UInt8 := fun _ => 0
  /-- What the umask leaves of `0o600`. -/
  mode : Nat := 0o600

inductive KeyEvent
  | created (inode : Nat)
  | removalRefused (inode : Nat)
  deriving DecidableEq, Repr

inductive KeyError
  | notFound
  | alreadyExists
  | invalidData
  | unexpectedEof
  | other
  deriving DecidableEq, Repr

abbrev CatalogTokenRootKey := FileBytes

abbrev KeyTask (α : Type) := Task KeyDirectory KeyAnswer KeyEvent KeyError α

/-- A step that only looks at the directory. -/
def look {α : Type} (f : KeyDirectory → Except KeyError α) : KeyTask α :=
  .step fun answer s => ⟨s, if answer.fails then .error .other else f s, none⟩

def tokenKeyModeIsPrivate (mode : Nat) : Bool := mode &&& 0o7777 == 0o600

/-! ## Reading -/

def symlinkMetadata : KeyTask (Option DirEntry) := look fun s => .ok s.entry

/-- The open file is its entry at this time. -/
def openTokenKeyNoFollow : KeyTask DirEntry :=
  look fun s => s.entry.elim (.error .notFound) .ok

def metadata (file : DirEntry) : KeyTask DirEntry := look fun _ => .ok file

/-- The byte at `position`, if the file is that long. -/
def readByte (file : DirEntry) (position : Nat) : KeyTask (Option UInt8) :=
  look fun s => .ok ((s.content file.inode)[position]?)

def readExact (file : DirEntry) (read : FileBytes) : Nat → KeyTask FileBytes
  | 0 => pure read
  | remaining + 1 => do
      match ← readByte file read.length with
      | some byte => readExact file (read ++ [byte]) remaining
      | none => .fail .unexpectedEof

def checkTokenKeyFile (file : DirEntry) : KeyTask Unit :=
  if !file.isFile || !tokenKeyModeIsPrivate file.mode then .fail .invalidData else pure ()

def readTokenKey : KeyTask (Option CatalogTokenRootKey) := do
  match ← symlinkMetadata with
  | none => return none
  | some link =>
      checkTokenKeyFile link
      let file ← openTokenKeyNoFollow
      let opened ← metadata file
      checkTokenKeyFile opened
      let key ← readExact file [] tokenKeyBytes
      match ← readByte file key.length with
      | some _ => .fail .invalidData
      | none => return some key

/-! ## Writing -/

def createDirAll : KeyTask Unit := look fun _ => .ok ()

/-- `CatalogTokenRootKey::generate`. -/
def generate : KeyTask CatalogTokenRootKey :=
  .step fun answer s =>
    ⟨s, if answer.fails then .error .other else .ok (List.ofFn answer.entropy), none⟩

def fetchAddSequence (process : Nat) : KeyTask Nat :=
  .step fun _ s =>
    ⟨{ s with sequence := Function.update s.sequence process (s.sequence process + 1) },
      .ok (s.sequence process), none⟩

/-- `create_new`: the inode of the new file, or none where the name is taken. -/
def createNew (name : TempName) : KeyTask (Option Nat) :=
  .step fun answer s =>
    if answer.fails then ⟨s, .error .other, none⟩
    else if (s.temps name).isSome then ⟨s, .ok none, none⟩
    else
      ⟨{ s with
          temps := Function.update s.temps name (some ⟨s.nextInode, true, answer.mode⟩)
          content := Function.update s.content s.nextInode []
          nextInode := s.nextInode + 1 },
        .ok (some s.nextInode), some (.created s.nextInode)⟩

def createTokenKeyTemp (process : Nat) : Nat → KeyTask (TempName × Nat)
  | 0 => .fail .alreadyExists
  | attempts + 1 => do
      let sequence ← fetchAddSequence process
      match ← createNew ⟨process, sequence⟩ with
      | some inode => return (⟨process, sequence⟩, inode)
      | none => createTokenKeyTemp process attempts

def writeByte (inode : Nat) (byte : UInt8) : KeyTask Unit :=
  .step fun answer s =>
    if answer.fails then ⟨s, .error .other, none⟩
    else
      ⟨{ s with content := Function.update s.content inode (s.content inode ++ [byte]) },
        .ok (), none⟩

def writeAll (inode : Nat) : FileBytes → KeyTask Unit
  | [] => pure ()
  | byte :: rest => do
      writeByte inode byte
      writeAll inode rest

/-- `flush` and `sync_all`. -/
def flushAndSync : KeyTask Unit := look fun _ => .ok ()

def renameTokenKeyNoReplace (name : TempName) : KeyTask Unit :=
  .step fun answer s =>
    if answer.fails then ⟨s, .error .other, none⟩
    else
      match s.entry, s.temps name with
      | some _, _ => ⟨s, .error .alreadyExists, none⟩
      | none, none => ⟨s, .error .notFound, none⟩
      | none, some file =>
          ⟨{ s with entry := some file, temps := Function.update s.temps name none }, .ok (), none⟩

def syncTokenKeyDirectory : KeyTask Unit := look fun _ => .ok ()

/-- `TokenKeyTempCleanup::drop` while it is armed: a refusal is ignored. -/
def dropTempCleanup (name : TempName) (inode : Nat) : KeyTask Unit :=
  .step fun answer s =>
    if answer.fails then ⟨s, .ok (), some (.removalRefused inode)⟩
    else ⟨{ s with temps := Function.update s.temps name none }, .ok (), none⟩

/-! ## One call -/

inductive Publication
  | published
  | lost
  deriving DecidableEq, Repr

/-- The candidate is written, and the temporary file renamed unless the path exists. -/
def publishCandidate (name : TempName) (inode : Nat) (candidate : CatalogTokenRootKey) :
    KeyTask Publication := do
  writeAll inode candidate
  flushAndSync
  match ← (renameTokenKeyNoReplace name).attempt with
  | .ok () => return .published
  | .error .alreadyExists => return .lost
  | .error error => .fail error

/-- The key of the winner. -/
def readPublished : KeyTask CatalogTokenRootKey := do
  syncTokenKeyDirectory
  match ← readTokenKey with
  | some key => return key
  | none => .fail .invalidData

/-- The rest of a call once its candidate has been tried. Only a publication disarms the
cleanup. -/
def finishTokenKey (name : TempName) (inode : Nat) (candidate : CatalogTokenRootKey) :
    Except KeyError Publication → KeyTask CatalogTokenRootKey
  | .ok .published => do
      syncTokenKeyDirectory
      return candidate
  | .ok .lost => do
      let key ← readPublished.attempt
      dropTempCleanup name inode
      .ofExcept key
  | .error error => do
      dropTempCleanup name inode
      .fail error

def loadOrCreateTokenKey (process : Nat) : KeyTask CatalogTokenRootKey := do
  match ← readTokenKey with
  | some key => return key
  | none =>
      createDirAll
      let candidate ← generate
      let (name, inode) ← createTokenKeyTemp process 16
      let publication ← (publishCandidate name inode candidate).attempt
      finishTokenKey name inode candidate publication

abbrev KeySystem := System KeyDirectory KeyAnswer KeyEvent KeyError CatalogTokenRootKey Nat

def runTokenKey (s : KeyDirectory) (actions : List (Action KeyAnswer Nat)) : KeySystem :=
  System.run loadOrCreateTokenKey ⟨s, none, [], []⟩ actions

/-- The content of the file at the path. -/
def KeyDirectory.published (s : KeyDirectory) : Option FileBytes :=
  s.entry.map fun file => s.content file.inode

end Dbotter.Drivers
