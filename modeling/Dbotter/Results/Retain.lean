import Dbotter.Drivers.Retention
import Dbotter.Results.Cells

/-!
`ResultSnapshot::retain` of `src/model.rs`: what is kept of a decoded result under the
published caps.
-/

namespace Dbotter.Results
open Dbotter.Utf8 Dbotter.Numerals Dbotter.Drivers

def maxResultRows : Nat := 10000

def maxResultColumns : Nat := 1024

def maxResultBytes : Nat := 8 * 1024 * 1024

def maxResultCellBytes : Nat := 1024 * 1024

def maxResultNotices : Nat := 32

def maxRedisCells : Nat := 10000

def maxRedisCellBytes : Nat := 64 * 1024

def maxRedisDepth : Nat := 8

/-- The two printers of finite `f64` values: `Display`, and that of `serde_json`. -/
structure Floats (φ : Type) where
  display : φ → Text
  json : φ → Text

/-- Printers where no float is. -/
def noFloats : Floats Empty := ⟨nofun, nofun⟩

/-- `serde_json::Number`. -/
inductive Number (φ : Type)
  | posInt (value : Nat)
  | negInt (value : Int)
  | float (value : φ)
  deriving DecidableEq, Repr

inductive ResultRetentionPolicy
  | mysql (requestedRows : Nat)
  | redis (requestedCells : Nat)
  deriving DecidableEq, Repr

namespace ResultRetentionPolicy

def rowLimit : ResultRetentionPolicy → Nat
  | mysql requestedRows => if requestedRows < maxResultRows then requestedRows else maxResultRows
  | redis _ => maxResultRows

def cellLimit : ResultRetentionPolicy → Nat
  | mysql _ => usizeMax
  | redis requestedCells =>
      if requestedCells < maxRedisCells then requestedCells else maxRedisCells

def cellBytes : ResultRetentionPolicy → Nat
  | mysql _ => maxResultCellBytes
  | redis _ => maxRedisCellBytes

def maxDepth : ResultRetentionPolicy → Option Nat
  | mysql _ => none
  | redis _ => some maxRedisDepth

def transientAllocation : ResultRetentionPolicy → TransientAllocationQualification
  | mysql _ => .mySqlCurrentRowOrCell
  | redis _ => .redisWholeRespFrame

end ResultRetentionPolicy

def TransientAllocationQualification.notice : TransientAllocationQualification → ResultNotice
  | mySqlCurrentRowOrCell => .mySqlTransientRowAllocation
  | redisWholeRespFrame => .redisTransientFrameAllocation

def pushResultNotice (notices : List ResultNotice) (notice : ResultNotice) : List ResultNotice :=
  if notices.length < maxResultNotices ∧ notice ∉ notices then notices ++ [notice] else notices

/-! ## One cell -/

/-- The search for a character boundary, downwards. -/
def boundaryAtMost (value : Text) : Nat → Nat
  | 0 => 0
  | boundary + 1 =>
      if (sliceTo value (boundary + 1)).isSome then boundary + 1 else boundaryAtMost value boundary

def truncateUtf8 (value : Text) (cap : Nat) : Text :=
  if byteLen value ≤ cap then value else (sliceTo value (boundaryAtMost value cap)).getD []

section
variable {φ : Type}

mutual

/-- The value with the containers at `maxDepth` emptied, and whether one was not empty. -/
def truncateJsonDepth (maxDepth : Nat) : Nat → Json.Value (Number φ) →
    Json.Value (Number φ) × Bool
  | depth, .array values =>
      if maxDepth ≤ depth then (.array [], !values.isEmpty)
      else
        let result := truncateItemsDepth maxDepth (depth + 1) values
        (.array result.1, result.2)
  | depth, .object values =>
      if maxDepth ≤ depth then (.object [], !values.isEmpty)
      else
        let result := truncateFieldsDepth maxDepth (depth + 1) values
        (.object result.1, result.2)
  | _, value => (value, false)

def truncateItemsDepth (maxDepth : Nat) : Nat → List (Json.Value (Number φ)) →
    List (Json.Value (Number φ)) × Bool
  | _, [] => ([], false)
  | depth, value :: values =>
      let first := truncateJsonDepth maxDepth depth value
      let rest := truncateItemsDepth maxDepth depth values
      (first.1 :: rest.1, first.2 || rest.2)

def truncateFieldsDepth (maxDepth : Nat) : Nat → List (Text × Json.Value (Number φ)) →
    List (Text × Json.Value (Number φ)) × Bool
  | _, [] => ([], false)
  | depth, (key, value) :: values =>
      let first := truncateJsonDepth maxDepth depth value
      let rest := truncateFieldsDepth maxDepth depth values
      ((key, first.1) :: rest.1, first.2 || rest.2)

end

variable (floats : Floats φ)

def Number.toText : Number φ → Text
  | .posInt value => natText value
  | .negInt value => intText value
  | .float value => floats.json value

/-- `serde_json::to_string`. -/
def jsonText (value : Json.Value (Number φ)) : Text := Json.print (value.map (Number.toText floats))

def displayFloat : F64 φ → Text
  | .nan => "NaN".toList
  | .infinity => "inf".toList
  | .negInfinity => "-inf".toList
  | .finite x => floats.display x

def scalarRetainedBytes : Cell φ (Number φ) → Nat
  | .null => 4
  | .bool _ => 5
  | .int value => byteLen (intText value)
  | .uint value => byteLen (natText value)
  | .float value => byteLen (displayFloat floats value)
  | .decimal value => byteLen value
  | .text value => byteLen value
  | .dateTime value => byteLen value
  | .textPreview preview _ => byteLen preview
  | .jsonPreview preview _ => byteLen preview
  | .bytes retained _ => retained.length
  | .json value => byteLen (jsonText floats value)

structure RetainedCell (φ : Type) where
  cell : Cell φ (Number φ)
  retainedBytes : Nat
  truncation : Option CellTruncation
  depthTruncated : Bool

/-- The record of a cell that was cut, at its place. -/
def cellTruncation (kind : CellTruncationKind) (retainedBytes originalLen rowIndex columnIndex : Nat) :
    CellTruncation :=
  ⟨rowIndex, columnIndex, kind, retainedBytes, some originalLen, true⟩

def retainTextCell (preview : Text) (declaredOriginalLen : Option Nat)
    (cap rowIndex columnIndex : Nat) : RetainedCell φ :=
  let originalLen := max (declaredOriginalLen.getD (byteLen preview)) (byteLen preview)
  let preview := truncateUtf8 preview cap
  let retainedBytes := byteLen preview
  let truncated := declaredOriginalLen.isSome || decide (retainedBytes < originalLen)
  { cell := if truncated then .textPreview preview originalLen else .text preview
    retainedBytes
    truncation :=
      if truncated then some (cellTruncation .text retainedBytes originalLen rowIndex columnIndex)
      else none
    depthTruncated := false }

def retainCompleteStringCell (value : Text) (cap : Nat) (wrap : Text → Cell φ (Number φ)) :
    Option (RetainedCell φ) :=
  let retainedBytes := byteLen value
  if retainedBytes > cap then none else some ⟨wrap value, retainedBytes, none, false⟩

def retainCell (cell : Cell φ (Number φ)) (cap : Nat) (maxDepth : Option Nat)
    (rowIndex columnIndex : Nat) : Option (RetainedCell φ) :=
  match cell with
  | .text value => some (retainTextCell value none cap rowIndex columnIndex)
  | .textPreview preview originalLen =>
      some (retainTextCell preview (some originalLen) cap rowIndex columnIndex)
  | .decimal value => retainCompleteStringCell value cap .decimal
  | .dateTime value => retainCompleteStringCell value cap .dateTime
  | .bytes retained originalLen =>
      let originalLen := max originalLen retained.length
      let retained := retained.take cap
      let retainedBytes := retained.length
      some
        { cell := .bytes retained originalLen
          retainedBytes
          truncation :=
            if retainedBytes < originalLen then
              some (cellTruncation .bytes retainedBytes originalLen rowIndex columnIndex)
            else none
          depthTruncated := false }
  | .json value =>
      let originalLen := byteLen (jsonText floats value)
      let shallow := match maxDepth with
        | none => (value, false)
        | some depth => truncateJsonDepth depth 1 value
      let encodedLen := byteLen (jsonText floats shallow.1)
      let retained := truncateUtf8 (jsonText floats shallow.1) cap
      let retainedBytes := byteLen retained
      let truncated := shallow.2 || decide (retainedBytes < encodedLen)
      some
        { cell := if truncated then .jsonPreview retained originalLen else .json shallow.1
          retainedBytes
          truncation :=
            if truncated then some (cellTruncation .json retainedBytes originalLen rowIndex columnIndex)
            else none
          depthTruncated := shallow.2 }
  | .jsonPreview preview originalLen =>
      let originalLen := max originalLen (byteLen preview)
      let preview := truncateUtf8 preview cap
      let retainedBytes := byteLen preview
      some
        { cell := .jsonPreview preview originalLen
          retainedBytes
          truncation := some (cellTruncation .json retainedBytes originalLen rowIndex columnIndex)
          depthTruncated := false }
  | scalar => some ⟨scalar, scalarRetainedBytes floats scalar, none, false⟩

/-! ## Columns -/

structure RetainedColumns where
  columns : List Column := []
  retainedBytes : Nat := 0
  notices : List ResultNotice

def retainColumns : List Column → RetainedColumns → RetainedColumns
  | [], s => s
  | column :: columns, s =>
      let columnBytes := saturatingAdd (byteLen column.name) (byteLen column.typeName)
      if columnBytes > maxResultCellBytes ∨
          saturatingAdd s.retainedBytes columnBytes > maxResultBytes then
        { s with notices := pushResultNotice s.notices .snapshotByteLimitReached }
      else
        retainColumns columns
          { s with
            columns := s.columns ++ [column]
            retainedBytes := s.retainedBytes + columnBytes }

/-! ## Rows -/

structure Retaining (φ : Type) where
  rows : List (List (Cell φ (Number φ))) := []
  retainedBytes : Nat
  retainedCells : Nat := 0
  truncated : Bool
  notices : List ResultNotice
  cellTruncations : List CellTruncation := []

structure RetainingRow (φ : Type) where
  retaining : Retaining φ
  retainedRow : List (Cell φ (Number φ)) := []
  rowComplete : Bool := true
  dropRow : Bool := false

def Retaining.notify (s : Retaining φ) (notice : ResultNotice) : Retaining φ :=
  { s with notices := pushResultNotice s.notices notice }

/-- What one retained cell changes. -/
def Retaining.take (s : Retaining φ) (retained : RetainedCell φ) : Retaining φ :=
  let s := if retained.depthTruncated then s.notify .redisDepthLimitReached else s
  let s := match retained.truncation with
    | some metadata =>
        { s with truncated := true, cellTruncations := s.cellTruncations ++ [metadata] }.notify
          .cellPreviewTruncated
    | none => s
  { s with
    retainedBytes := saturatingAdd s.retainedBytes retained.retainedBytes
    retainedCells := s.retainedCells + 1 }

/-- The cells of a row from `columnIndex` on. -/
def retainCells (policy : ResultRetentionPolicy) (rowIndex : Nat) :
    Nat → List (Cell φ (Number φ)) → RetainingRow φ → RetainingRow φ
  | _, [], s => s
  | columnIndex, cell :: cells, s =>
      let remaining := maxResultBytes - s.retaining.retainedBytes
      if remaining = 0 then { s with rowComplete := false }
      else
        match retainCell floats cell (min policy.cellBytes remaining) policy.maxDepth rowIndex
            columnIndex with
        | none => { s with rowComplete := false, dropRow := true }
        | some retained =>
            if retained.retainedBytes > remaining then { s with rowComplete := false }
            else
              retainCells policy rowIndex (columnIndex + 1) cells
                { s with
                  retaining := s.retaining.take retained
                  retainedRow := s.retainedRow ++ [retained.cell] }

/-- The end of a row; the flag says that the loop over the rows ends here. -/
def closeRow (columns : List Column) (sourceCellCount allowedCells : Nat) (s : Retaining φ)
    (row : RetainingRow φ) : Retaining φ × Bool :=
  let rowComplete := row.rowComplete &&
    !(decide (allowedCells < sourceCellCount) || decide (allowedCells < columns.length))
  let after := row.retaining
  let truncated := after.truncated || !rowComplete
  if row.dropRow || (decide (row.retainedRow.length ≠ columns.length) && !columns.isEmpty) then
    ({ after with
        truncated
        retainedBytes := s.retainedBytes
        retainedCells := after.retainedCells - row.retainedRow.length
        cellTruncations := after.cellTruncations.take s.cellTruncations.length
        notices := pushResultNotice (after.notices.take s.notices.length)
          .snapshotByteLimitReached }, true)
  else ({ after with truncated, rows := after.rows ++ [row.retainedRow] }, false)

def retainRow (policy : ResultRetentionPolicy) (columns : List Column)
    (sourceRow : List (Cell φ (Number φ))) (s : Retaining φ) : Retaining φ × Bool :=
  let allowedColumns := min columns.length sourceRow.length
  let allowedCells := min allowedColumns (policy.cellLimit - s.retainedCells)
  closeRow columns sourceRow.length allowedCells s
    (retainCells floats policy s.rows.length 0 (sourceRow.take allowedCells) { retaining := s })

def retainRows (policy : ResultRetentionPolicy) (columns : List Column) :
    List (List (Cell φ (Number φ))) → Retaining φ → Retaining φ
  | [], s => s
  | sourceRow :: sourceRows, s =>
      if s.retainedBytes ≥ maxResultBytes ∨ s.retainedCells ≥ policy.cellLimit then
        let s := { s with truncated := true }
        let s := if s.retainedBytes ≥ maxResultBytes then s.notify .snapshotByteLimitReached else s
        if s.retainedCells ≥ policy.cellLimit then s.notify .redisCellLimitReached else s
      else
        let result := retainRow floats policy columns sourceRow s
        if result.2 then result.1 else retainRows policy columns sourceRows result.1

/-! ## The snapshot -/

/-- The notices that are there before anything is retained. -/
def driverNotices (result : QueryResult φ (Number φ)) (policy : ResultRetentionPolicy) :
    List ResultNotice :=
  let notices := pushResultNotice [] policy.transientAllocation.notice
  let notices :=
    if result.truncated then pushResultNotice notices .driverReportedTruncation else notices
  if result.backendNoticesPresent then pushResultNotice notices .backendNoticesDiscarded else notices

/-- What is noted when the loop over the rows has ended. -/
def closeRows (policy : ResultRetentionPolicy) (sourceRowCount : Nat) (s : Retaining φ) :
    Retaining φ :=
  let s :=
    if s.rows.length < sourceRowCount then { s with truncated := true }.notify .rowLimitReached
    else s
  if s.retainedCells ≥ policy.cellLimit ∧ sourceRowCount > s.rows.length then
    s.notify .redisCellLimitReached
  else s

def retain (result : QueryResult φ (Number φ)) (provenance : ResultProvenance)
    (policy : ResultRetentionPolicy) : ResultSnapshot φ (Number φ) :=
  let head := retainColumns (result.columns.take maxResultColumns)
    { notices := driverNotices result policy }
  let short := decide (head.columns.length < result.columns.length)
  let s := closeRows policy result.rows.length
    (retainRows floats policy head.columns (result.rows.take policy.rowLimit)
      { retainedBytes := head.retainedBytes
        truncated := result.truncated || short
        notices :=
          if short then pushResultNotice head.notices .columnLimitReached else head.notices })
  { provenance
    columns := head.columns
    rows := s.rows
    affectedRows := result.affectedRows
    lastInsertId := result.lastInsertId
    truncated := s.truncated
    notices := s.notices.take maxResultNotices
    retainedBytes := s.retainedBytes
    transientAllocation := policy.transientAllocation
    cellTruncations := s.cellTruncations }

end

end Dbotter.Results
