import Dbotter.Drivers.RedisValues

/-!
The preview of a Redis key, from `src/drivers/redis_browser.rs`.

`none` is a panic: a slice that ends inside a character or behind the end. The keys of an object
stand in the order of the map that prints them.
-/

namespace Dbotter.Drivers
open Dbotter.Utf8 Dbotter.Configuration Dbotter.Results

def maxRedisPreviewItems : Nat := 100

def maxRedisPreviewBytes : Nat := 1024 * 1024

/-! ## Slices -/

def utf8PrefixLen (value : Text) (maximum : Nat) : Nat :=
  boundaryAtMost value (min (byteLen value) maximum)

/-- `&bytes[..stop]`. -/
def sliceBytesTo (bytes : List UInt8) (stop : Nat) : Option (List UInt8) :=
  if stop ≤ bytes.length then some (bytes.take stop) else none

section
variable {φ : Type} (floats : Floats φ)

/-! ## JSON of bounded size -/

def binaryJson (bytes : List UInt8) (allowance : Nat) : Option (Json.Value (Number φ)) :=
  match decodeUtf8 bytes with
  | some value => do
      let retained ← sliceTo value (utf8PrefixLen value allowance)
      some (.object
        [("original_len".toList, .number (.posInt bytes.length)),
          ("text".toList, .string retained),
          ("truncated".toList, .bool (byteLen retained < bytes.length))])
  | none => do
      let rawAllowance := allowance / 4 * 3
      let retained ← sliceBytesTo bytes (min bytes.length rawAllowance)
      some (.object
        [("base64".toList, .string (Base64.encodeStandard retained)),
          ("original_len".toList, .number (.posInt bytes.length)),
          ("truncated".toList, .bool (retained.length < bytes.length))])

/-- What the walk over a value has retained, and its two flags. -/
structure RespPreview where
  retained : Nat := 0
  truncated : Bool := false
  depthTruncated : Bool := false
  deriving DecidableEq, Repr

/-- A string of a value; the branch of simple strings does the same in place. -/
def boundedStringJson (value : Text) (s : RespPreview) :
    Option (Json.Value (Number φ) × RespPreview) := do
  let allowance := maxRedisCellBytes - s.retained
  let stop := utf8PrefixLen value allowance
  let retained ← sliceTo value stop
  some (.string retained,
    { s with
      retained := saturatingAdd s.retained stop
      truncated := s.truncated || decide (stop < byteLen value) })

mutual

def boundedRespJson (depth : Nat) (s : RespPreview) (value : RespValue φ) :
    Option (Json.Value (Number φ) × RespPreview) :=
  if depth ≥ maxRedisDepth ∨ s.retained ≥ maxRedisCellBytes then
    some (.string "[dbotter-truncated]".toList,
      { s with
        truncated := true
        depthTruncated := s.depthTruncated || decide (depth ≥ maxRedisDepth) })
  else
    match value with
    | .nil => some (.null, s)
    | .int value => some (.number (numberOfInt value), s)
    | .bulkString value => do
        let allowance := maxRedisCellBytes - s.retained
        let json ← binaryJson value allowance
        some (json,
          { s with
            retained := saturatingAdd s.retained (min value.length allowance)
            truncated := s.truncated || decide (value.length > allowance) })
    | .simpleString value => boundedStringJson value s
    | .okay => some (.string "OK".toList, s)
    | .double value => some (((numberFromF64 value).map .number).getD .null, s)
    | .boolean value => some (.bool value, s)
    | .array values => do
        let s := { s with
          truncated := s.truncated || decide (values.length > maxRedisPreviewItems) }
        let result ← boundedRespItems (depth + 1) values s maxRedisPreviewItems
        some (.array result.1, result.2)
    | .set values => do
        let s := { s with
          truncated := s.truncated || decide (values.length > maxRedisPreviewItems) }
        let result ← boundedRespItems (depth + 1) values s maxRedisPreviewItems
        some (.array result.1, result.2)
    | .map entries => do
        let s := { s with
          truncated := s.truncated || decide (entries.length > maxRedisPreviewItems) }
        let result ← boundedRespEntries (depth + 1) entries s maxRedisPreviewItems
        some (.array result.1, result.2)
    | .verbatimString text => boundedStringJson text s
    | .bigNumber value => boundedStringJson (Numerals.intText value) s
    | .attributed _ _ | .push _ | .serverError | .unsupported =>
        some (.string "[unsupported-resp-value]".toList, s)

/-- The first `count` of the values, in turn. -/
def boundedRespItems (depth : Nat) : List (RespValue φ) → RespPreview → Nat →
    Option (List (Json.Value (Number φ)) × RespPreview)
  | [], s, _ => some ([], s)
  | value :: values, s, count =>
      if count = 0 then some ([], s)
      else do
        let first ← boundedRespJson depth s value
        let rest ← boundedRespItems depth values first.2 (count - 1)
        some (first.1 :: rest.1, rest.2)

/-- The first `count` of the entries, the key of each before its value. -/
def boundedRespEntries (depth : Nat) : List (RespValue φ × RespValue φ) → RespPreview → Nat →
    Option (List (Json.Value (Number φ)) × RespPreview)
  | [], s, _ => some ([], s)
  | (key, value) :: entries, s, count =>
      if count = 0 then some ([], s)
      else do
        let first ← boundedRespJson depth s key
        let second ← boundedRespJson depth first.2 value
        let rest ← boundedRespEntries depth entries second.2 (count - 1)
        some (.object [("key".toList, first.1), ("value".toList, second.1)] :: rest.1, rest.2)

end

/-! ## One cell -/

def boundedPreviewCell (cell : Cell φ (Number φ)) (sourceOriginalLen : Nat)
    (alreadyTruncated : Bool) : Option (Cell φ (Number φ)) :=
  match cell with
  | .text value => do
      let originalLen := max sourceOriginalLen (byteLen value)
      let stop := utf8PrefixLen value maxRedisCellBytes
      let retained ← sliceTo value stop
      some (if alreadyTruncated || decide (stop < originalLen) then .textPreview retained originalLen
        else .text retained)
  | .textPreview preview originalLen => do
      let originalLen := max (max sourceOriginalLen originalLen) (byteLen preview)
      let retained ← sliceTo preview (utf8PrefixLen preview maxRedisCellBytes)
      some (.textPreview retained originalLen)
  | .bytes retained originalLen =>
      let originalLen := max (max sourceOriginalLen originalLen) retained.length
      some (.bytes (retained.take maxRedisCellBytes) originalLen)
  | .json value =>
      let preview := jsonText floats value
      let originalLen := max sourceOriginalLen (byteLen preview)
      let stop := utf8PrefixLen preview maxRedisCellBytes
      if alreadyTruncated || decide (stop < byteLen preview) then do
        let retained ← sliceTo preview stop
        some (.jsonPreview retained originalLen)
      else some (.json value)
  | .jsonPreview preview originalLen => do
      let originalLen := max (max sourceOriginalLen originalLen) (byteLen preview)
      let retained ← sliceTo preview (utf8PrefixLen preview maxRedisCellBytes)
      some (.jsonPreview retained originalLen)
  | scalar => some scalar

/-- `cellSize` is the size of a `Cell` in memory. -/
def cellMaterializedBytes (cellSize : Nat) : Cell φ (Number φ) → Nat
  | .text value | .decimal value => byteLen value
  | .textPreview preview _ | .jsonPreview preview _ => byteLen preview
  | .bytes retained _ => retained.length
  | .json value => byteLen (jsonText floats value)
  | .null | .bool _ | .int _ | .uint _ | .float _ | .dateTime _ => cellSize

/-! ## The preview -/

structure PreviewRetention (φ : Type) where
  items : List (Cell φ (Number φ)) := []
  retainedBytes : Nat := 0
  truncated : Bool := false
  depthTruncated : Bool := false

def cellIsTruncated : Cell φ (Number φ) → Bool
  | .textPreview _ _ | .jsonPreview _ _ => true
  | .bytes retained originalLen => retained.length < originalLen
  | _ => false

namespace PreviewRetention

variable (cellSize : Nat)

def push (preview : PreviewRetention φ) (cell : Cell φ (Number φ)) (sourceOriginalLen : Nat)
    (cellTruncated : Bool) : Option (PreviewRetention φ) := do
  let cell ← boundedPreviewCell floats cell sourceOriginalLen cellTruncated
  let materializedBytes := cellMaterializedBytes floats cellSize cell
  if preview.items.length ≥ maxRedisPreviewItems ∨
      saturatingAdd preview.retainedBytes materializedBytes > maxRedisPreviewBytes then
    some { preview with truncated := true }
  else
    some { preview with
      retainedBytes := saturatingAdd preview.retainedBytes materializedBytes
      truncated := preview.truncated || (cellTruncated || cellIsTruncated cell)
      items := preview.items ++ [cell] }

/-- The cell of a string. -/
def binaryCell (bytes : List UInt8) : Option (Cell φ (Number φ)) :=
  match decodeUtf8 bytes with
  | some value =>
      let stop := utf8PrefixLen value maxRedisCellBytes
      if stop < bytes.length then do
        let preview ← sliceTo value stop
        some (.textPreview preview bytes.length)
      else some (.text value)
  | none => do
      let retained ← sliceBytesTo bytes (min bytes.length maxRedisCellBytes)
      some (.bytes retained bytes.length)

/-- Whether a string was cut is asked of its cell. -/
def pushBinary (preview : PreviewRetention φ) (bytes : List UInt8) :
    Option (PreviewRetention φ) := do
  let cell ← binaryCell bytes
  preview.push floats cellSize cell bytes.length (cellIsTruncated cell)

def markMore (preview : PreviewRetention φ) (more : Bool) : PreviewRetention φ :=
  { preview with truncated := preview.truncated || more }

/-- Whether a pair was cut is asked of the lengths. -/
def pushPair (preview : PreviewRetention φ) (leftName : Text) (left : List UInt8)
    (rightName : Text) (right : List UInt8) : Option (PreviewRetention φ) := do
  let rawLen := saturatingAdd left.length right.length
  let cellTruncated := decide (rawLen > maxRedisCellBytes)
  let allowance := (maxRedisCellBytes - 512) / 2
  let leftJson ← binaryJson left allowance
  let rightJson ← binaryJson right allowance
  preview.push floats cellSize (.json (.object [(leftName, leftJson), (rightName, rightJson)]))
    rawLen cellTruncated

/-- Eight is the size of an `f64`. -/
def pushScored (preview : PreviewRetention φ) (member : List UInt8) (score : F64 φ) :
    Option (PreviewRetention φ) := do
  let rawLen := saturatingAdd member.length 8
  let cellTruncated := decide (rawLen > maxRedisCellBytes)
  let memberJson ← binaryJson member (maxRedisCellBytes - 512)
  preview.push floats cellSize
    (.json (.object
      [("member".toList, memberJson), ("score".toList, .string (displayFloat floats score))]))
    rawLen cellTruncated

/-- One value of a sequence. -/
def pushResp (preview : PreviewRetention φ) (value : RespValue φ) :
    Option (PreviewRetention φ) := do
  let result ← boundedRespJson 0 { depthTruncated := preview.depthTruncated } value
  { preview with depthTruncated := result.2.depthTruncated }.push floats cellSize (.json result.1)
    result.2.retained result.2.truncated

/-- The values of a reply to `XRANGE`. -/
def respSequence : RespValue φ → List (RespValue φ)
  | .array values | .set values => values
  | .nil => []
  | value => [value]

def pushRespSequence (preview : PreviewRetention φ) (value : RespValue φ) :
    Option (PreviewRetention φ) :=
  (respSequence value).foldlM (pushResp floats cellSize) preview

def pushStaticUnsupported (preview : PreviewRetention φ) : Option (PreviewRetention φ) :=
  preview.push floats cellSize (.text "[unsupported-redis-type]".toList) 24 false

end PreviewRetention

/-- What `inspect_key` does to a preview. -/
inductive PreviewCall (φ : Type)
  | binary (bytes : List UInt8)
  | more (more : Bool)
  | pair (field value : List UInt8)
  | scored (member : List UInt8) (score : F64 φ)
  | respSequence (value : RespValue φ)
  | staticUnsupported

namespace PreviewRetention

variable (cellSize : Nat)

def call (preview : PreviewRetention φ) : PreviewCall φ → Option (PreviewRetention φ)
  | .binary bytes => preview.pushBinary floats cellSize bytes
  | .more more => some (preview.markMore more)
  | .pair field value => preview.pushPair floats cellSize "field".toList field "value".toList value
  | .scored member score => preview.pushScored floats cellSize member score
  | .respSequence value => preview.pushRespSequence floats cellSize value
  | .staticUnsupported => preview.pushStaticUnsupported floats cellSize

def calls (preview : PreviewRetention φ) (cs : List (PreviewCall φ)) :
    Option (PreviewRetention φ) :=
  cs.foldlM (call floats cellSize) preview

end PreviewRetention

end

end Dbotter.Drivers
