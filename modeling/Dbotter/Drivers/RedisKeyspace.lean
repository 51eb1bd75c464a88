import Dbotter.Drivers.RedisDialogue

/-!
What a Redis server documents about the commands of the browser.

The server is a parameter: a state, what it answers in it, and what each key holds. An absent key
reads as an empty value of every type, and a command about another type is refused.
-/

namespace Dbotter.Drivers
open Dbotter.Utf8 Dbotter.Configuration Dbotter.Results

/-! ## Values -/

def builtinTypeNames : List Text :=
  ["none", "string", "hash", "list", "set", "zset", "stream"].map String.toList

/-- The name of a type that a module of the server adds, in lower case. -/
structure ModuleTypeName where
  name : Text
  lower : toAsciiLowercase name = name
  foreign : name ∉ builtinTypeNames

inductive RedisData (φ : Type)
  | string (value : List UInt8)
  | hash (fields : List (List UInt8 × List UInt8))
  | list (values : List (List UInt8))
  | set (members : List (List UInt8))
  | sortedSet (members : List (List UInt8 × F64 φ))
  | stream (entries : List (RespValue φ))
  | moduleType (typeName : ModuleTypeName)

variable {φ : Type}

namespace RedisData

def type : RedisData φ → RedisValueType
  | .string _ => .string
  | .hash _ => .hash
  | .list _ => .list
  | .set _ => .set
  | .sortedSet _ => .sortedSet
  | .stream _ => .stream
  | .moduleType _ => .moduleOrUnknown

def typeName : RedisData φ → Text
  | .string _ => "string".toList
  | .hash _ => "hash".toList
  | .list _ => "list".toList
  | .set _ => "set".toList
  | .sortedSet _ => "zset".toList
  | .stream _ => "stream".toList
  | .moduleType typeName => typeName.name

def size : RedisData φ → Nat
  | .string value => value.length
  | .hash fields => fields.length
  | .list values | .set values => values.length
  | .sortedSet members => members.length
  | .stream entries => entries.length
  | .moduleType _ => 0

/-- Everything that a preview of the value could show. -/
def contents : RedisData φ → List (PreviewCall φ)
  | .string value => [.binary value]
  | .hash fields => fields.map fun (field, value) => .pair field value
  | .list values | .set values => values.map .binary
  | .sortedSet members => members.map fun (member, score) => .scored member score
  | .stream entries => [.respSequence (.array entries)]
  | .moduleType _ => [.staticUnsupported]

theorem typeName_ne_none (data : RedisData φ) : data.typeName ≠ "none".toList := by
  cases data with
  | moduleType typeName =>
      intro h
      have hbuiltin : "none".toList ∈ builtinTypeNames := by decide
      rw [← h] at hbuiltin
      exact typeName.foreign hbuiltin
  | _ =>
      simp only [RedisData.typeName]
      decide

/-- The browser reads the type from the name of the type. -/
theorem valueType_typeName (data : RedisData φ) : valueType data.typeName = data.type := by
  cases data with
  | moduleType typeName =>
      have hforeign := typeName.foreign
      simp only [builtinTypeNames, List.map_cons, List.map_nil, List.mem_cons, List.not_mem_nil,
        or_false, not_or] at hforeign
      simp only [RedisData.typeName, valueType, hforeign, if_false]
      rfl
  | _ => rfl

end RedisData

structure StoredValue (φ : Type) where
  data : RedisData φ
  /-- The milliseconds that are left to it. -/
  expires : Option Nat

namespace StoredValue

def ttl (value : StoredValue φ) : RedisTtl :=
  match value.expires with
  | none => .persistent
  | some milliseconds => .expiresIn milliseconds

def pttl : Option (StoredValue φ) → Int
  | none => -2
  | some ⟨_, none⟩ => -1
  | some ⟨_, some milliseconds⟩ => milliseconds

def typeName : Option (StoredValue φ) → Text
  | none => "none".toList
  | some value => value.data.typeName

/-- The size that a command for the type of the value, or for any type, tells. -/
def size : Option (StoredValue φ) → Nat
  | none => 0
  | some value => value.data.size

end StoredValue

/-! ## Replies -/

namespace RedisCommand

def key? : RedisCommand → Option (List UInt8)
  | .scan _ _ _ => none
  | .type key | .pttl key | .strlen key | .getrange key _ _ | .hlen key | .hscan key _ _
  | .llen key | .lrange key _ _ | .scard key | .sscan key _ _ | .zcard key
  | .zrangeWithScores key _ _ | .xlen key | .xrange key _ _ _ => some key

/-- The type of value that the command is about. -/
def type? : RedisCommand → Option RedisValueType
  | .scan _ _ _ | .type _ | .pttl _ => none
  | .strlen _ | .getrange _ _ _ => some .string
  | .hlen _ | .hscan _ _ _ => some .hash
  | .llen _ | .lrange _ _ _ => some .list
  | .scard _ | .sscan _ _ _ => some .set
  | .zcard _ | .zrangeWithScores _ _ _ => some .sortedSet
  | .xlen _ | .xrange _ _ _ _ => some .stream

/-- The key holds no value that the command is not about. -/
def Fits (command : RedisCommand) (held : Option (StoredValue φ)) : Prop :=
  ∀ type ∈ command.type?, ∀ value ∈ held, value.data.type = type

/-- What is documented for a reply, given what the key holds. -/
def Documents (held : Option (StoredValue φ)) : (command : RedisCommand) →
    RedisReply φ command → Prop
  | .scan _ _ _, _ => True
  | .type _, reply => toAsciiLowercase reply = StoredValue.typeName held
  | .pttl _, reply => reply = StoredValue.pttl held
  | .strlen _, reply | .hlen _, reply | .llen _, reply | .scard _, reply | .zcard _, reply
  | .xlen _, reply => reply = StoredValue.size held
  | .getrange _ start stop, reply => ∃ value,
      reply = .bulkString ((value.drop start).take (stop + 1 - start)) ∧
        ∀ stored ∈ held, stored.data = .string value
  | .hscan _ cursor _, (nextCursor, entries) => ∀ stored ∈ held, ∀ fields,
      stored.data = .hash fields →
        entries ⊆ fields ∧ (cursor = 0 → nextCursor = 0 → fields ⊆ entries)
  | .lrange _ start stop, reply => ∀ stored ∈ held, ∀ values, stored.data = .list values →
      reply = (values.drop start).take (stop + 1 - start)
  | .sscan _ cursor _, (nextCursor, reply) => ∀ stored ∈ held, ∀ members,
      stored.data = .set members →
        reply ⊆ members ∧ (cursor = 0 → nextCursor = 0 → members ⊆ reply)
  | .zrangeWithScores _ start stop, reply => ∀ stored ∈ held, ∀ members,
      stored.data = .sortedSet members → reply = (members.drop start).take (stop + 1 - start)
  | .xrange _ start stop count, reply => start = "-".toList → stop = "+".toList → ∃ entries,
      reply = .array (entries.take count) ∧ ∀ stored ∈ held, stored.data = .stream entries

end RedisCommand

/-- What is documented for the commands about one key at one moment. -/
structure Documented (key : List UInt8) (answer : (command : RedisCommand) → RedisAnswer φ command)
    (held : Option (StoredValue φ)) : Prop where
  fits : ∀ command reply, command.key? = some key → answer command = .ok reply →
    command.Fits held
  replies : ∀ command reply, command.key? = some key → answer command = .ok reply →
    command.Documents held reply
  /-- A command is refused with this code for no other reason. -/
  wrongType : ∀ command kind, command.key? = some key →
    answer command = .error (.redis kind (some "WRONGTYPE".toList)) → ¬ command.Fits held

/-! ## A server that answers so -/

namespace StoredValue

def stringOf : Option (StoredValue φ) → List UInt8
  | some ⟨.string value, _⟩ => value
  | _ => []

def fieldsOf : Option (StoredValue φ) → List (List UInt8 × List UInt8)
  | some ⟨.hash fields, _⟩ => fields
  | _ => []

def membersOf : Option (StoredValue φ) → List (List UInt8)
  | some ⟨.list members, _⟩ | some ⟨.set members, _⟩ => members
  | _ => []

def scoresOf : Option (StoredValue φ) → List (List UInt8 × F64 φ)
  | some ⟨.sortedSet members, _⟩ => members
  | _ => []

def entriesOf : Option (StoredValue φ) → List (RespValue φ)
  | some ⟨.stream entries, _⟩ => entries
  | _ => []

end StoredValue

instance (command : RedisCommand) (held : Option (StoredValue φ)) :
    Decidable (command.Fits held) :=
  inferInstanceAs (Decidable (∀ type ∈ command.type?, ∀ value ∈ held, value.data.type = type))

/-- The reply to a command that fits. Iterations are answered at once. -/
def referenceReply (held : Option (StoredValue φ)) : (command : RedisCommand) → RedisReply φ command
  | .scan _ _ _ => (0, [])
  | .type _ => StoredValue.typeName held
  | .pttl _ => StoredValue.pttl held
  | .strlen _ | .hlen _ | .llen _ | .scard _ | .zcard _ | .xlen _ => StoredValue.size held
  | .getrange _ start stop =>
    .bulkString (((StoredValue.stringOf held).drop start).take (stop + 1 - start))
  | .hscan _ _ _ => (0, StoredValue.fieldsOf held)
  | .lrange _ start stop => ((StoredValue.membersOf held).drop start).take (stop + 1 - start)
  | .sscan _ _ _ => (0, StoredValue.membersOf held)
  | .zrangeWithScores _ start stop =>
    ((StoredValue.scoresOf held).drop start).take (stop + 1 - start)
  | .xrange _ _ _ count => .array ((StoredValue.entriesOf held).take count)

def referenceAnswer (held : Option (StoredValue φ)) (command : RedisCommand) :
    RedisAnswer φ command :=
  if command.Fits held then .ok (referenceReply held command)
  else .error (.redis .extension (some "WRONGTYPE".toList))

theorem typeName_lower (held : Option (StoredValue φ)) :
    toAsciiLowercase (StoredValue.typeName held) = StoredValue.typeName held := by
  cases held with
  | none => rfl
  | some value =>
    rcases value with ⟨data, _⟩
    cases data with
    | moduleType typeName => exact typeName.lower
    | _ => rfl

theorem referenceReply_documents {command : RedisCommand} {held : Option (StoredValue φ)}
    (hfits : command.Fits held) : command.Documents held (referenceReply held command) := by
  cases command with
  | scan cursor pattern countHint => trivial
  | type key => exact typeName_lower held
  | pttl key => exact rfl
  | strlen key | hlen key | llen key | scard key | zcard key | xlen key => exact rfl
  | getrange key start stop =>
    refine ⟨_, rfl, ?_⟩
    rintro ⟨data, expires⟩ rfl
    cases data with
    | string value => rfl
    | _ => cases hfits _ rfl _ rfl
  | hscan key cursor count =>
    rintro ⟨_, expires⟩ rfl fields rfl
    exact ⟨List.Subset.refl _, fun _ _ => List.Subset.refl _⟩
  | lrange key start stop =>
    rintro ⟨_, expires⟩ rfl values rfl
    rfl
  | sscan key cursor count =>
    rintro ⟨_, expires⟩ rfl members rfl
    exact ⟨List.Subset.refl _, fun _ _ => List.Subset.refl _⟩
  | zrangeWithScores key start stop =>
    rintro ⟨_, expires⟩ rfl members rfl
    rfl
  | xrange key start stop count =>
    intro _ _
    refine ⟨_, rfl, ?_⟩
    rintro ⟨data, expires⟩ rfl
    cases data with
    | stream entries => rfl
    | _ => cases hfits _ rfl _ rfl

theorem referenceAnswer_documented (key : List UInt8) (held : Option (StoredValue φ)) :
    Documented key (referenceAnswer held) held where
  fits command reply _ h := by
    by_contra hunfit
    rw [referenceAnswer, if_neg hunfit] at h
    cases h
  replies command reply _ h := by
    by_cases hfits : command.Fits held
    · rw [referenceAnswer, if_pos hfits] at h
      cases h
      exact referenceReply_documents hfits
    · rw [referenceAnswer, if_neg hfits] at h
      cases h
  wrongType command kind _ h hfits := by
    rw [referenceAnswer, if_pos hfits] at h
    cases h

end Dbotter.Drivers
