import Dbotter.Drivers.RedisPreview
import Dbotter.Program.Dialogue
import Dbotter.Service.KeyFilter
import Dbotter.Service.State

/-!
What the Redis browser asks a server, from `src/drivers/redis_browser.rs`.

A page of keys is one SCAN. An inspection asks for the type of the key, its time to live, the size
of the value and a bounded part of it, and for the type once more.
-/

namespace Dbotter.Drivers
open Dbotter.Utf8 Dbotter.Configuration Dbotter.Results Dbotter.Service
open Dbotter.Program (Dialogue)

/-! ## Commands and replies -/

inductive RedisCommand
  | scan (cursor : Nat) (pattern : List UInt8) (countHint : Nat)
  | type (key : List UInt8)
  | pttl (key : List UInt8)
  | strlen (key : List UInt8)
  | getrange (key : List UInt8) (start stop : Nat)
  | hlen (key : List UInt8)
  | hscan (key : List UInt8) (cursor count : Nat)
  | llen (key : List UInt8)
  | lrange (key : List UInt8) (start stop : Nat)
  | scard (key : List UInt8)
  | sscan (key : List UInt8) (cursor count : Nat)
  | zcard (key : List UInt8)
  | zrangeWithScores (key : List UInt8) (start stop : Nat)
  | xlen (key : List UInt8)
  | xrange (key : List UInt8) (start stop : Text) (count : Nat)
  deriving DecidableEq, Repr

def RedisCommand.name : RedisCommand → Text
  | .scan _ _ _ => "SCAN".toList
  | .type _ => "TYPE".toList
  | .pttl _ => "PTTL".toList
  | .strlen _ => "STRLEN".toList
  | .getrange _ _ _ => "GETRANGE".toList
  | .hlen _ => "HLEN".toList
  | .hscan _ _ _ => "HSCAN".toList
  | .llen _ => "LLEN".toList
  | .lrange _ _ _ => "LRANGE".toList
  | .scard _ => "SCARD".toList
  | .sscan _ _ _ => "SSCAN".toList
  | .zcard _ => "ZCARD".toList
  | .zrangeWithScores _ _ _ => "ZRANGE".toList
  | .xlen _ => "XLEN".toList
  | .xrange _ _ _ _ => "XRANGE".toList

/-- What the reply to a command is decoded to. -/
abbrev RedisReply (φ : Type) : RedisCommand → Type
  | .scan _ _ _ | .sscan _ _ _ => Nat × List (List UInt8)
  | .type _ => Text
  | .pttl _ => Int
  | .strlen _ | .hlen _ | .llen _ | .scard _ | .zcard _ | .xlen _ => Nat
  | .getrange _ _ _ | .xrange _ _ _ _ => RespValue φ
  | .hscan _ _ _ => Nat × List (List UInt8 × List UInt8)
  | .lrange _ _ _ => List (List UInt8)
  | .zrangeWithScores _ _ _ => List (List UInt8 × F64 φ)

/-- A command that got no reply in time, and a Redis error with its code. -/
inductive RedisFailure
  | timedOut
  | redis (kind : RedisErrorKind) (code : Option Text)
  deriving DecidableEq, Repr

abbrev RedisAnswer (φ : Type) (command : RedisCommand) : Type :=
  Except RedisFailure (RedisReply φ command)

abbrev Conversation (φ α : Type) : Type := Dialogue RedisCommand (RedisAnswer φ) DriverError α

variable {φ : Type}

/-! ## One command -/

def queryError : RedisFailure → DriverError
  | .timedOut => .timeout .redis
  | .redis kind _ => .redis kind

def query (command : RedisCommand) : Conversation φ (RedisReply φ command) :=
  .ask command fun answer => .done (answer.mapError queryError)

def keyQueryError : RedisFailure → DriverError
  | .timedOut => .timeout .redis
  | .redis kind code =>
    if code = some "WRONGTYPE".toList then .redisKeyTypeChanged else .redis kind

def keyQuery (command : RedisCommand) : Conversation φ (RedisReply φ command) :=
  .ask command fun answer => .done (answer.mapError keyQueryError)

/-! ## A page of keys -/

/-- What the loop over the keys of a reply keeps. -/
structure ScannedKeys where
  seen : Finset (List UInt8) := ∅
  keys : List RedisKeyEntry := []
  retainedBytes : Nat := 0
  skippedOversize : Nat := 0
  truncated : Bool := false

def ScannedKeys.push (page : ScannedKeys) (raw : List UInt8) : ScannedKeys :=
  if raw.length > maxRedisKeyBytes then
    { page with skippedOversize := saturatingAdd page.skippedOversize 1, truncated := true }
  else if raw ∈ page.seen then page
  else
    let page := { page with seen := insert raw page.seen }
    let nextBytes := saturatingAdd page.retainedBytes raw.length
    if page.keys.length ≥ maxRedisKeys || nextBytes > maxRedisRetainedKeyBytes then
      { page with truncated := true }
    else { page with retainedBytes := nextBytes, keys := page.keys ++ [⟨raw⟩] }

def scannedPage (request : RedisScanRequest) (nextCursor : Nat) (rawKeys : List (List UInt8)) :
    RedisKeyPage :=
  let page := rawKeys.foldl ScannedKeys.push {}
  { identity := request.identity
    nextCursor
    retainedCount := page.keys.length
    keys := page.keys
    skippedOversize := page.skippedOversize
    retainedBytes := page.retainedBytes
    truncated := page.truncated
    stale := false }

def scanKeys (request : RedisScanRequest) : Conversation φ RedisKeyPage := do
  .ofExcept (request.validate.mapError fun _ => .invalidConfig .redis)
  let pattern ← .ofExcept (request.filter.matchPattern.mapError fun _ => .invalidConfig .redis)
  let (nextCursor, rawKeys) ← query (.scan request.cursor (bytes pattern) request.countHint)
  return scannedPage request nextCursor rawKeys

/-! ## The parts of an inspection -/

inductive RedisValueType
  | string
  | hash
  | list
  | set
  | sortedSet
  | stream
  | moduleOrUnknown
  deriving DecidableEq, Repr

inductive RedisTtl
  | missing
  | persistent
  | expiresIn (milliseconds : Int)
  deriving DecidableEq, Repr

def inspectCommandNames : RedisValueType → List Text
  | .string => ["TYPE", "PTTL", "STRLEN", "GETRANGE", "TYPE"].map String.toList
  | .hash => ["TYPE", "PTTL", "HLEN", "HSCAN", "TYPE"].map String.toList
  | .list => ["TYPE", "PTTL", "LLEN", "LRANGE", "TYPE"].map String.toList
  | .set => ["TYPE", "PTTL", "SCARD", "SSCAN", "TYPE"].map String.toList
  | .sortedSet => ["TYPE", "PTTL", "ZCARD", "ZRANGE", "TYPE"].map String.toList
  | .stream => ["TYPE", "PTTL", "XLEN", "XRANGE", "TYPE"].map String.toList
  | .moduleOrUnknown => ["TYPE", "PTTL", "TYPE"].map String.toList

def valueType (redisType : Text) : RedisValueType :=
  if redisType = "string".toList then .string
  else if redisType = "hash".toList then .hash
  else if redisType = "list".toList then .list
  else if redisType = "set".toList then .set
  else if redisType = "zset".toList then .sortedSet
  else if redisType = "stream".toList then .stream
  else .moduleOrUnknown

def toAsciiLowercase (value : Text) : Text := value.map Char.toLower

def keyType (key : List UInt8) : Conversation φ Text := do
  let value ← keyQuery (.type key)
  return toAsciiLowercase value

def readTtl (key : List UInt8) : Conversation φ RedisTtl := do
  let pttl ← keyQuery (.pttl key)
  if pttl = -2 then .fail .redisKeyMissing
  else if pttl = -1 then return .persistent
  else if pttl ≥ 0 then return .expiresIn pttl
  else .fail .redisParse

def bulkBytes : RespValue φ → Except DriverError (List UInt8)
  | .bulkString value => .ok value
  | .simpleString value => .ok (bytes value)
  | .nil => .error .redisKeyMissing
  | _ => .error .redisKeyTypeChanged

/-- The size of a value and a part of it, as what is done to the preview. -/
def measured {α : Type} (size : Conversation φ Nat) (part : Conversation φ α)
    (calls : Nat → α → Except DriverError (List (PreviewCall φ))) :
    Conversation φ (Option Nat × List (PreviewCall φ)) := do
  let size ← size
  let part ← part
  let calls ← .ofExcept (calls size part)
  return (some size, calls)

def inspectValue (key : List UInt8) :
    RedisValueType → Conversation φ (Option Nat × List (PreviewCall φ))
  | .string =>
    measured (keyQuery (.strlen key)) (keyQuery (.getrange key 0 65535)) fun size value => do
      let bytes ← bulkBytes value
      return [.more (size > bytes.length), .binary bytes]
  | .hash =>
    measured (keyQuery (.hlen key)) (keyQuery (.hscan key 0 100)) fun size (nextCursor, entries) =>
      .ok (.more (nextCursor != 0 || decide (size > entries.length)) ::
        entries.map fun (field, value) => .pair field value)
  | .list =>
    measured (keyQuery (.llen key)) (keyQuery (.lrange key 0 99)) fun size values =>
      .ok (.more (size > values.length) :: values.map .binary)
  | .set =>
    measured (keyQuery (.scard key)) (keyQuery (.sscan key 0 100)) fun size (nextCursor, values) =>
      .ok (.more (nextCursor != 0 || decide (size > values.length)) :: values.map .binary)
  | .sortedSet =>
    measured (keyQuery (.zcard key)) (keyQuery (.zrangeWithScores key 0 99)) fun size values =>
      .ok (.more (size > values.length) :: values.map fun (member, score) => .scored member score)
  | .stream =>
    measured (keyQuery (.xlen key)) (keyQuery (.xrange key "-".toList "+".toList 100))
      fun size value =>
        match value with
        | .array values => .ok [.more (size > values.length), .respSequence value]
        | value => .ok [.respSequence value]
  | .moduleOrUnknown => return (none, [.staticUnsupported])

def PreviewRetention.notices (preview : PreviewRetention φ) : List ResultNotice :=
  .redisTransientFrameAllocation ::
    ((if preview.truncated then [.cellPreviewTruncated] else []) ++
      if preview.depthTruncated then [.redisDepthLimitReached] else [])

/-! ## An inspection -/

/-- A preview with what only the view reads. -/
structure InspectedPreview (φ : Type) extends RedisValuePreview where
  valueType : RedisValueType
  ttl : RedisTtl
  size : Option Nat
  items : List (Cell φ (Number φ))
  retainedItems : Nat
  retainedBytes : Nat
  transientAllocation : TransientAllocationQualification
  notices : List ResultNotice

section
variable (floats : Floats φ) (cellSize : Nat)

/-- `none` is a panic. -/
def inspectKey (request : RedisKeyInspectRequest) :
    Conversation φ (Option (InspectedPreview φ)) := do
  .ofExcept (request.validate.mapError fun _ => .invalidConfig .redis)
  let initialType ← keyType request.key
  if initialType = "none".toList then .fail .redisKeyMissing
  else do
    let ttl ← readTtl request.key
    let (size, calls) ← inspectValue request.key (valueType initialType)
    match ({} : PreviewRetention φ).calls floats cellSize calls with
    | none => return none
    | some preview => do
      let finalType ← keyType request.key
      if finalType = "none".toList then .fail .redisKeyMissing
      else if finalType ≠ initialType then .fail .redisKeyTypeChanged
      else return some {
        identity := request.identity
        key := ⟨request.key⟩
        valueType := valueType initialType
        ttl
        size
        retainedItems := preview.items.length
        items := preview.items
        retainedBytes := preview.retainedBytes
        truncated := preview.truncated
        stale := false
        transientAllocation := .redisWholeRespFrame
        notices := preview.notices }

end

end Dbotter.Drivers
