import Dbotter.Text.ShellWords
import Dbotter.Execution.MysqlScan

/-!
`extract_and_validate_target`: from the editor text, the caret and the selection
to a validated target.

The word splitter of the Redis paths is a parameter; `none` is its parse error.
-/

namespace Dbotter.Execution
open Dbotter.Utf8

inductive ExecutionLanguage
  | mySql
  | redis
  deriving DecidableEq, Repr

inductive ExecutionTarget
  | mySqlText (text : Text)
  | redisArgv (argv : List Text)
  deriving DecidableEq, Repr

structure ValidatedExecutionTarget where
  target : ExecutionTarget
  sourceText : Text
  rowLimit : Nat
  timeoutSeconds : Nat
  deriving DecidableEq, Repr

def maxExecuteRowLimit : Nat := 10000
def maxExecuteTimeoutSeconds : Nat := 300
def maxRedisTargetBytes : Nat := 65536
def maxRedisTokens : Nat := 1024
def maxRedisTokenBytes : Nat := 16 * 1024

/-! ## Character and byte positions -/

def charToByte (text : Text) (characterIndex : Nat) : Option Nat :=
  if characterIndex == text.length then some (byteLen text)
  else if characterIndex < text.length then some (byteLen (text.take characterIndex))
  else none

def checkedCharacterSlice (text : Text) (start stop : Nat) : Except ExecutionTargetError Text :=
  if stop < start then .error .invalidSelectionRange
  else
    match charToByte text start, charToByte text stop with
    | some startByte, some stopByte =>
        match slice text startByte stopByte with
        | some selected => .ok selected
        | none => .error .invalidSelectionRange
    | _, _ => .error .invalidSelectionRange

/-- `str::trim`. -/
def trim (text : Text) : Text :=
  ((text.dropWhile isWhitespace).reverse.dropWhile isWhitespace).reverse

/-- `trim_end_matches('\r')`. -/
def trimEndCr (line : Text) : Text := (line.reverse.dropWhile (· == '\r')).reverse

/-- `none` when the caret is not a character boundary. -/
def physicalLineAt (text : Text) (caretByte : Nat) : Option Text :=
  (sliceTo text caretByte).bind fun before =>
    (sliceFrom text caretByte).map fun after =>
      (before.reverse.takeWhile (· != '\n')).reverse ++ after.takeWhile (· != '\n')

/-! ## Redis targets -/

def asciiLower (b : UInt8) : UInt8 := if 65 ≤ b && b ≤ 90 then b + 32 else b

def eqIgnoreAsciiCase (a b : List UInt8) : Bool := a.map asciiLower == b.map asciiLower

def exactDeny : List Text :=
  ["SUBSCRIBE".toList, "PSUBSCRIBE".toList, "SSUBSCRIBE".toList, "UNSUBSCRIBE".toList,
    "PUNSUBSCRIBE".toList, "SUNSUBSCRIBE".toList, "MONITOR".toList, "SYNC".toList,
    "PSYNC".toList, "REPLCONF".toList, "WAIT".toList, "WAITAOF".toList, "BRPOP".toList,
    "BRPOPLPUSH".toList, "BZPOPMIN".toList, "BZPOPMAX".toList, "BZMPOP".toList]

def blockPrecedesStreams : List (List UInt8) → Bool
  | [] => false
  | argument :: rest =>
      if eqIgnoreAsciiCase argument (bytes "STREAMS".toList) then false
      else if eqIgnoreAsciiCase argument (bytes "BLOCK".toList) then true
      else blockPrecedesStreams rest

def redisBytesAreDenied : List (List UInt8) → Bool
  | [] => false
  | command :: arguments =>
      if 2 ≤ command.length && eqIgnoreAsciiCase (command.take 2) (bytes "BL".toList) then true
      else if eqIgnoreAsciiCase command (bytes "XREAD".toList) ||
          eqIgnoreAsciiCase command (bytes "XREADGROUP".toList) then
        blockPrecedesStreams arguments
      else exactDeny.any fun denied => eqIgnoreAsciiCase command (bytes denied)

def redisCommandIsDenied (argv : List Text) : Bool := redisBytesAreDenied (argv.map bytes)

variable (split : Text → Option (List Text))

/-- The loop over the physical lines, with the command lines counted so far. -/
def countCommandLines : List Text → Nat → Except ExecutionTargetError Unit
  | [], _ => .ok ()
  | line :: lines, commandLines =>
      match split (trimEndCr line) with
      | none => .error .redisShellParseFailed
      | some [] => countCommandLines lines commandLines
      | some (_ :: _) =>
          if commandLines + 1 > 1 then .error .multipleStatements
          else countCommandLines lines (commandLines + 1)

def physicalLines (selection : Text) : List Text := selection.splitOn '\n'

def validateSingleRedisPhysicalCommand (selection : Text) : Except ExecutionTargetError Unit :=
  if selection.isEmpty then .error .noCurrentStatement
  else if byteLen selection > maxRedisTargetBytes then .error .redisTargetTooLarge
  else countCommandLines split (physicalLines selection) 0

def validateRedisTarget (target : Text) : Except ExecutionTargetError (List Text) :=
  if byteLen target > maxRedisTargetBytes then .error .redisTargetTooLarge
  else
    match split target with
    | none => .error .redisShellParseFailed
    | some [] => .error .noCurrentStatement
    | some (command :: arguments) =>
        if command.isEmpty then .error .redisShellParseFailed
        else if (command :: arguments).length > maxRedisTokens then .error .redisTooManyTokens
        else if (command :: arguments).any (byteLen · > maxRedisTokenBytes) then
          .error .redisTokenTooLarge
        else if redisCommandIsDenied (command :: arguments) then .error .redisCommandDenied
        else .ok (command :: arguments)

/-! ## The extraction -/

/-- The target and the source text that go into the result. The outer `none` is a
panic of a slice. -/
def extractTarget (editorText : Text) (caretByte : Nat) :
    ExecutionLanguage → Option Text →
      Option (Except ExecutionTargetError (ExecutionTarget × Text))
  | .mySql, some selection =>
      (validateMysqlSelection selection).map fun validated =>
        validated.map fun _ => (.mySqlText selection, [])
  | .mySql, none =>
      (inferMysqlTarget editorText caretByte).map fun inferred =>
        inferred.map fun range => (.mySqlText range.2.2, [])
  | .redis, some selection =>
      some do
        validateSingleRedisPhysicalCommand split selection
        let argv ← validateRedisTarget split selection
        return (.redisArgv argv, selection)
  | .redis, none =>
      (physicalLineAt editorText caretByte).map fun physicalLine => do
        let argv ← validateRedisTarget split (trim physicalLine)
        return (.redisArgv argv, trim physicalLine)

def extractAndValidateTarget (editorText : Text) (caretCharacterIndex : Nat)
    (selectionCharacterRange : Option (Nat × Nat)) (language : ExecutionLanguage)
    (rowLimit timeoutSeconds : Nat) :
    Option (Except ExecutionTargetError ValidatedExecutionTarget) :=
  if ¬ (1 ≤ rowLimit ∧ rowLimit ≤ maxExecuteRowLimit) then some (.error .invalidRowLimit)
  else if ¬ (1 ≤ timeoutSeconds ∧ timeoutSeconds ≤ maxExecuteTimeoutSeconds) then
    some (.error .invalidTimeout)
  else
    match charToByte editorText caretCharacterIndex with
    | none => some (.error .invalidCaretPosition)
    | some caretByte =>
        match selectionCharacterRange.mapM fun range =>
            checkedCharacterSlice editorText range.1 range.2 with
        | .error e => some (.error e)
        | .ok selected =>
            (extractTarget split editorText caretByte language (selected.map trim)).map
              fun extracted => extracted.map fun p => ⟨p.1, p.2, rowLimit, timeoutSeconds⟩

end Dbotter.Execution
