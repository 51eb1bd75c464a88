import Mathlib.Data.Finset.Basic
import Mathlib.Data.List.AList
import Dbotter.Service.Request

/-!
Pages of the two explorers and what is retained of them.

A driver answers one bounded page. `CatalogRetention` is the budget of one MySQL explorer, and
`RedisScanAccumulator` the keys of one weakly consistent SCAN cycle.
-/

namespace Dbotter.Drivers
open Dbotter.Utf8 Dbotter.Service

/-- The largest `usize` of a 64-bit target. -/
def usizeMax : Nat := 2 ^ 64 - 1

/-- `usize::saturating_add`; `saturating_sub` is the subtraction of `Nat`. -/
def saturatingAdd (a b : Nat) : Nat := min (a + b) usizeMax

/-! ## The catalog -/

inductive CatalogNodeIdentity
  | schema (schema : Text)
  | relation (schema relation : Text)
  | column (schema relation : Text) (ordinal : Nat)
  deriving DecidableEq, Repr

/-- A node without its kind, its nullability and the copy of its ordinal, which are shown
and not used. -/
structure CatalogNode where
  identity : CatalogNodeIdentity
  name : Text
  typeName : Option Text
  deriving DecidableEq, Repr

structure CatalogRetainedCounts where
  schemas : Nat := 0
  relations : Nat := 0
  columns : Nat := 0
  columnsInRelation : Nat := 0
  deriving DecidableEq, Repr

/-- The `CatalogLevel` of a page. A request carries its parents in its level. -/
inductive CatalogPageLevel
  | schemas
  | relations
  | columns
  deriving DecidableEq, Repr

def pageLevel : CatalogLevel → CatalogPageLevel
  | .schemas => .schemas
  | .relations _ => .relations
  | .columns _ _ => .columns

structure CatalogPage where
  identity : RequestIdentity
  level : CatalogPageLevel
  parent : Option CatalogNodeIdentity
  nodes : List CatalogNode
  nextToken : Option Text
  retainedCounts : CatalogRetainedCounts
  retainedUtf8Bytes : Nat
  truncated : Bool
  stale : Bool
  deriving DecidableEq, Repr

def maxCatalogSchemas : Nat := 200
def maxCatalogRelations : Nat := 2000
def maxCatalogColumns : Nat := 10000
def maxCatalogColumnsPerRelation : Nat := 512
def maxCatalogUtf8Bytes : Nat := 4 * 1024 * 1024

def catalogNodeUtf8Bytes (node : CatalogNode) : Nat :=
  saturatingAdd (byteLen node.name) (node.typeName.elim 0 byteLen)

structure CatalogRetention where
  identities : Finset CatalogNodeIdentity := ∅
  retainedCounts : CatalogRetainedCounts := {}
  retainedUtf8Bytes : Nat := 0
  columnsByRelation : AList (fun _ : Text × Text => Nat) := ∅

namespace CatalogRetention

def columnsOf (retention : CatalogRetention) (schema relation : Text) : Nat :=
  (retention.columnsByRelation.lookup (schema, relation)).getD 0

def canRetain (retention : CatalogRetention) (node : CatalogNode) : Bool :=
  if node.identity ∈ retention.identities then true
  else if saturatingAdd retention.retainedUtf8Bytes (catalogNodeUtf8Bytes node) >
      maxCatalogUtf8Bytes then false
  else
    match node.identity with
    | .schema _ => retention.retainedCounts.schemas < maxCatalogSchemas
    | .relation _ _ => retention.retainedCounts.relations < maxCatalogRelations
    | .column schema relation _ =>
      retention.retainedCounts.columns < maxCatalogColumns &&
        retention.columnsOf schema relation < maxCatalogColumnsPerRelation

/-- The counters after one more node of this identity. -/
def count (retention : CatalogRetention) : CatalogNodeIdentity → CatalogRetention
  | .schema _ =>
    { retention with retainedCounts.schemas := saturatingAdd retention.retainedCounts.schemas 1 }
  | .relation _ _ =>
    { retention with
      retainedCounts.relations := saturatingAdd retention.retainedCounts.relations 1 }
  | .column schema relation _ =>
    { retention with
      retainedCounts.columns := saturatingAdd retention.retainedCounts.columns 1
      columnsByRelation := retention.columnsByRelation.insert (schema, relation)
        (saturatingAdd (retention.columnsOf schema relation) 1) }

inductive RetainDecision
  | accepted
  | duplicate
  | capReached
  deriving DecidableEq, Repr

def retainOne (retention : CatalogRetention) (node : CatalogNode) :
    CatalogRetention × RetainDecision :=
  if node.identity ∈ retention.identities then (retention, .duplicate)
  else if !retention.canRetain node then (retention, .capReached)
  else
    let counted := retention.count node.identity
    ({ counted with
        retainedUtf8Bytes :=
          saturatingAdd retention.retainedUtf8Bytes (catalogNodeUtf8Bytes node)
        identities := insert node.identity retention.identities }, .accepted)

/-- `retain`: the nodes that were accepted, and whether a cap refused one. -/
def retain (retention : CatalogRetention) : List CatalogNode →
    CatalogRetention × List CatalogNode × Bool
  | [] => (retention, [], false)
  | node :: nodes =>
    let (next, decision) := retention.retainOne node
    let (final, accepted, truncated) := next.retain nodes
    match decision with
    | .accepted => (final, node :: accepted, truncated)
    | .duplicate => (final, accepted, truncated)
    | .capReached => (final, accepted, true)

/-- The counters after one node of this identity has left. -/
def uncount (retention : CatalogRetention) : CatalogNodeIdentity → CatalogRetention
  | .schema _ =>
    { retention with retainedCounts.schemas := retention.retainedCounts.schemas - 1 }
  | .relation _ _ =>
    { retention with retainedCounts.relations := retention.retainedCounts.relations - 1 }
  | .column schema relation _ =>
    let uncounted :=
      { retention with retainedCounts.columns := retention.retainedCounts.columns - 1 }
    match retention.columnsByRelation.lookup (schema, relation) with
    | none => uncounted
    | some n =>
      { uncounted with
        columnsByRelation :=
          if n - 1 = 0 then retention.columnsByRelation.erase (schema, relation)
          else retention.columnsByRelation.insert (schema, relation) (n - 1) }

def removeOne (retention : CatalogRetention) (node : CatalogNode) : CatalogRetention :=
  if node.identity ∈ retention.identities then
    let uncounted := retention.uncount node.identity
    { uncounted with
      retainedUtf8Bytes := retention.retainedUtf8Bytes - catalogNodeUtf8Bytes node
      identities := retention.identities.erase node.identity }
  else retention

def remove (retention : CatalogRetention) (nodes : List CatalogNode) : CatalogRetention :=
  nodes.foldl removeOne retention

end CatalogRetention

/-! ## The keyspace -/

/-- A key entry. Its base64, hexadecimal and lossy forms are functions of the raw key. -/
structure RedisKeyEntry where
  id : List UInt8
  deriving DecidableEq, Repr

structure RedisKeyPage where
  identity : RequestIdentity
  nextCursor : Nat
  keys : List RedisKeyEntry
  retainedCount : Nat
  skippedOversize : Nat
  retainedBytes : Nat
  truncated : Bool
  stale : Bool
  deriving DecidableEq, Repr

/-- The preview of one value. The items it shows are not read outside the view. -/
structure RedisValuePreview where
  identity : RequestIdentity
  key : RedisKeyEntry
  truncated : Bool
  stale : Bool
  deriving DecidableEq, Repr

def maxRedisKeys : Nat := 10000
def maxRedisRetainedKeyBytes : Nat := 8 * 1024 * 1024

structure RedisScanAccumulator where
  filter : RedisKeyFilter
  keys : List RedisKeyEntry := []
  seen : Finset (List UInt8) := ∅
  nextCursor : Nat := 0
  requested : Bool := false
  skippedOversize : Nat := 0
  retainedBytes : Nat := 0
  truncated : Bool := false
  stale : Bool := false
  deriving DecidableEq

namespace RedisScanAccumulator

def restart (_scan : RedisScanAccumulator) (filter : RedisKeyFilter) : RedisScanAccumulator :=
  { filter }

def applyKey (scan : RedisScanAccumulator) (key : RedisKeyEntry) : RedisScanAccumulator :=
  if key.id.length > maxRedisKeyBytes then
    { scan with skippedOversize := saturatingAdd scan.skippedOversize 1, truncated := true }
  else if key.id ∈ scan.seen then scan
  else
    let nextBytes := saturatingAdd scan.retainedBytes key.id.length
    if scan.keys.length ≥ maxRedisKeys || nextBytes > maxRedisRetainedKeyBytes then
      { scan with truncated := true }
    else
      { scan with
        seen := insert key.id scan.seen
        retainedBytes := nextBytes
        keys := scan.keys ++ [key] }

def applyPage (scan : RedisScanAccumulator) (page : RedisKeyPage) : RedisScanAccumulator :=
  page.keys.foldl applyKey
    { scan with
      requested := true
      nextCursor := page.nextCursor
      skippedOversize := saturatingAdd scan.skippedOversize page.skippedOversize
      truncated := scan.truncated || page.truncated || page.skippedOversize > 0
      stale := scan.stale || page.stale }

def isComplete (scan : RedisScanAccumulator) : Bool := scan.requested && scan.nextCursor == 0

def markStale (scan : RedisScanAccumulator) : RedisScanAccumulator := { scan with stale := true }

end RedisScanAccumulator

end Dbotter.Drivers
