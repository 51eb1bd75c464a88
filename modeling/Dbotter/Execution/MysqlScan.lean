import Dbotter.Text.Utf8

/-!
The MySQL boundary scanner of `src/execution.rs`, byte for byte.

`scanMysql` is the source's `while index < bytes.len()` loop over the encoded
text, `quotedSpan` its inner loop. Both take fuel and both slice the text, so
they return `none` when the fuel ends or a slice is off a character boundary;
`ScanTokens.lean` proves that neither happens.
-/

namespace Dbotter.Execution
open Dbotter.Utf8

inductive ExecutionTargetError
  | invalidCaretPosition
  | invalidSelectionRange
  | invalidRowLimit
  | invalidTimeout
  | noCurrentStatement
  | multipleStatements
  | ambiguousSqlMode
  | unterminatedSqlToken
  | redisShellParseFailed
  | redisCommandDenied
  | redisTargetTooLarge
  | redisTooManyTokens
  | redisTokenTooLarge
  deriving DecidableEq, Repr

structure MysqlStatement where
  start : Nat
  stop : Nat
  ambiguousSqlMode : Bool
  deriving DecidableEq, Repr

structure PendingMysqlStatement where
  firstExecutable : Option Nat := none
  lastExecutableEnd : Nat := 0
  ambiguousSqlMode : Bool := false
  deriving DecidableEq, Repr

structure MysqlLexIssue where
  statementStart : Nat
  ambiguousSqlMode : Bool
  deriving DecidableEq, Repr

structure MysqlScan where
  statements : List MysqlStatement
  issue : Option MysqlLexIssue
  strayTerminator : Bool
  deriving DecidableEq, Repr

structure QuotedSpan where
  stop : Nat
  ambiguousSqlMode : Bool
  deriving DecidableEq, Repr

namespace PendingMysqlStatement

def markExecutable (p : PendingMysqlStatement) (start stop : Nat) : PendingMysqlStatement :=
  { p with firstExecutable := p.firstExecutable.or (some start), lastExecutableEnd := stop }

def flag (p : PendingMysqlStatement) (b : Bool) : PendingMysqlStatement :=
  { p with ambiguousSqlMode := p.ambiguousSqlMode || b }

/-- `finish` takes the statement out and leaves the default in its place; the
callers below write that reset themselves. -/
def finish (p : PendingMysqlStatement) (stop : Nat) : Option MysqlStatement :=
  p.firstExecutable.map fun start => ⟨start, stop, p.ambiguousSqlMode⟩

end PendingMysqlStatement

/-! ## Byte helpers -/

/-- `u8::is_ascii_whitespace`. -/
def isAsciiWhitespace (b : UInt8) : Bool := b == 9 || b == 10 || b == 12 || b == 13 || b == 32

/-- `u8::is_ascii_control`. -/
def isAsciiControl (b : UInt8) : Bool := b < 32 || b == 127

/-- `char::is_whitespace`: the Unicode `White_Space` property. -/
def isWhitespace (c : Char) : Bool :=
  let n := c.toNat
  (9 ≤ n && n ≤ 13) || n == 0x20 || n == 0x85 || n == 0xA0 || n == 0x1680 ||
    (0x2000 ≤ n && n ≤ 0x200A) || n == 0x2028 || n == 0x2029 || n == 0x202F || n == 0x205F ||
    n == 0x3000

def mysqlDashCommentStarts (bs : List UInt8) (index : Nat) : Bool :=
  (bs.drop index).take 2 == ['-'.toUInt8, '-'.toUInt8] &&
    bs[index + 2]?.any (fun b => isAsciiWhitespace b || isAsciiControl b)

def lineCommentEnd (bs : List UInt8) (start : Nat) : Nat :=
  match (bs.drop start).findIdx? (· == '\n'.toUInt8) with
  | some offset => start + offset
  | none => bs.length

/-- `windows(2).position(|window| window == b"*/")`. -/
def findBlockEnd : List UInt8 → Option Nat
  | a :: b :: bs =>
      if a == '*'.toUInt8 && b == '/'.toUInt8 then some 0
      else (findBlockEnd (b :: bs)).map (· + 1)
  | _ => none

def blockCommentEnd (bs : List UInt8) (searchStart : Nat) : Option Nat :=
  if searchStart ≤ bs.length then
    (findBlockEnd (bs.drop searchStart)).map (searchStart + · + 2)
  else none

def oddBackslashRunBefore (bs : List UInt8) (index : Nat) : Bool :=
  ((bs.take index).reverse.takeWhile (· == '\\'.toUInt8)).length % 2 == 1

/-- `none` when `byteIndex` is not a character boundary, where the slice panics. -/
def nextCharBoundary (text : Text) (byteIndex : Nat) : Option Nat :=
  (sliceFrom text byteIndex).map fun
    | c :: _ :: _ => byteIndex + c.utf8Size
    | _ => byteLen text

/-! ## Quoted spans -/

/-- The loop of `quoted_span`; the inner `none` is an unterminated token. -/
def quotedLoop (text : Text) (delimiter : UInt8) :
    Nat → Nat → Bool → Option (Option QuotedSpan)
  | 0, _, _ => none
  | fuel + 1, index, ambiguous =>
      let bs := bytes text
      match bs[index]? with
      | none => some none
      | some b =>
          if b == '\\'.toUInt8 then
            let run := ((bs.drop index).takeWhile (· == '\\'.toUInt8)).length
            let oddRun := run % 2 == 1
            match bs[index + run]? with
            | none => some none
            | some next =>
                let ambiguous :=
                  ambiguous || (next == delimiter && delimiter != '`'.toUInt8 && oddRun)
                if oddRun then
                  (nextCharBoundary text (index + run)).bind fun index =>
                    quotedLoop text delimiter fuel index ambiguous
                else quotedLoop text delimiter fuel (index + run) ambiguous
          else if b == delimiter then
            if bs[index + 1]? == some delimiter then
              quotedLoop text delimiter fuel (index + 2) ambiguous
            else some (some ⟨index + 1, ambiguous⟩)
          else
            (nextCharBoundary text index).bind fun index =>
              quotedLoop text delimiter fuel index ambiguous

def quotedSpan (text : Text) (start : Nat) (delimiter : UInt8) : Option (Option QuotedSpan) :=
  quotedLoop text delimiter (byteLen text + 1) (start + 1) false

/-! ## The scanner -/

structure ScanState where
  index : Nat := 0
  statements : List MysqlStatement := []
  pending : PendingMysqlStatement := {}
  strayTerminator : Bool := false
  deriving DecidableEq, Repr

inductive ScanStep
  | continue (s : ScanState)
  | return (scan : MysqlScan)
  deriving DecidableEq, Repr

def ScanState.issueAt (s : ScanState) (pending : PendingMysqlStatement) : MysqlScan :=
  { statements := s.statements
    issue := some ⟨pending.firstExecutable.getD s.index, pending.ambiguousSqlMode⟩
    strayTerminator := s.strayTerminator }

def isQuoteByte (b : UInt8) : Bool :=
  b == '\''.toUInt8 || b == '"'.toUInt8 || b == '`'.toUInt8

/-- One turn of the loop at a byte `b = bytes[index]`. -/
def scanBody (text : Text) (s : ScanState) (b : UInt8) : Option ScanStep :=
  let bs := bytes text
  if b == '#'.toUInt8 || mysqlDashCommentStarts bs s.index then
    some (.continue { s with index := lineCommentEnd bs s.index })
  else if (bs.drop s.index).take 2 == ['/'.toUInt8, '*'.toUInt8] then
    let executableVersionComment := bs[s.index + 2]? == some '!'.toUInt8
    match blockCommentEnd bs (s.index + 2) with
    | none => some (.return (s.issueAt s.pending))
    | some stop =>
        some (.continue
          { s with
            index := stop
            pending :=
              if executableVersionComment then s.pending.markExecutable s.index stop
              else s.pending })
  else if isQuoteByte b then
    let pending := s.pending.markExecutable s.index (s.index + 1)
    let precedingOddBackslash := b != '`'.toUInt8 && oddBackslashRunBefore bs s.index
    (quotedSpan text s.index b).map fun
      | some quoted =>
          .continue
            { s with
              index := quoted.stop
              pending := (pending.markExecutable s.index quoted.stop).flag
                (precedingOddBackslash || quoted.ambiguousSqlMode) }
      | none => .return (s.issueAt (pending.flag precedingOddBackslash))
  else if b == ';'.toUInt8 then
    match s.pending.finish (s.index + 1) with
    | some statement =>
        some (.continue
          { s with
            index := s.index + 1
            statements := s.statements ++ [statement]
            pending := {} })
    | none => some (.continue { s with index := s.index + 1, strayTerminator := true })
  else
    (nextCharBoundary text s.index).bind fun stop =>
      (slice text s.index stop).map fun chars =>
        .continue
          { s with
            index := stop
            pending :=
              if chars.all isWhitespace then s.pending
              else s.pending.markExecutable s.index stop }

/-- The value after the loop: the last statement ends at its last executable byte. -/
def ScanState.finishScan (s : ScanState) : MysqlScan :=
  { statements := s.statements ++ (s.pending.finish s.pending.lastExecutableEnd).toList
    issue := none
    strayTerminator := s.strayTerminator }

def scanLoop (text : Text) : Nat → ScanState → Option MysqlScan
  | 0, _ => none
  | fuel + 1, s =>
      match (bytes text)[s.index]? with
      | none => some s.finishScan
      | some b =>
          match scanBody text s b with
          | none => none
          | some (.return scan) => some scan
          | some (.continue s) => scanLoop text fuel s

def scanMysql (text : Text) : Option MysqlScan := scanLoop text (byteLen text + 1) {}

/-! ## Selection and caret targets -/

/-- The outer `none` is a panic of the scanner. -/
def validateMysqlSelection (selection : Text) : Option (Except ExecutionTargetError Unit) :=
  if selection.isEmpty then some (.error .noCurrentStatement)
  else
    (scanMysql selection).map fun scan =>
      if scan.issue.isSome then .error .unterminatedSqlToken
      else
        match scan.statements.length with
        | 0 => .error .noCurrentStatement
        | 1 => if !scan.strayTerminator then .ok () else .error .multipleStatements
        | _ => .error .multipleStatements

def mysqlStatementContains (statement : MysqlStatement) (caret textLen : Nat) : Bool :=
  (statement.start ≤ caret && caret < statement.stop) ||
    (caret == textLen && statement.stop == textLen && statement.start ≤ caret)

/-- `infer_mysql_target`, with the byte range it slices beside the slice. -/
def inferMysqlTarget (text : Text) (caretByte : Nat) :
    Option (Except ExecutionTargetError (Nat × Nat × Text)) :=
  (scanMysql text).map fun scan =>
    match scan.statements.find? (mysqlStatementContains · caretByte (byteLen text)) with
    | some statement =>
        if statement.ambiguousSqlMode then .error .ambiguousSqlMode
        else
          match slice text statement.start statement.stop with
          | some target => .ok (statement.start, statement.stop, target)
          | none => .error .invalidCaretPosition
    | none =>
        match scan.issue.filter (fun issue => issue.statementStart ≤ caretByte) with
        | some issue =>
            if issue.ambiguousSqlMode then .error .ambiguousSqlMode
            else .error .unterminatedSqlToken
        | none => .error .noCurrentStatement

end Dbotter.Execution
