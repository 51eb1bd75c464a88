import Dbotter.Text.Base64
import Dbotter.Text.PrefixCode
import Dbotter.Drivers.Retention
import Dbotter.Service.State

/-!
The page tokens of the MySQL explorer.

A page ends with a token that says where the next one starts and how much of the budget is
spent. The token is bound to its listing: it carries fingerprints of the profile, the parents
and the filter, and an authenticator over the whole payload. The hash functions and the JSON
codec are parameters; base64 and the framing are computed.
-/

namespace Dbotter.Drivers
open Dbotter.Utf8 Dbotter.Service

/-! ## Checkpoints of the budget -/

namespace CatalogRetention

def counts (retention : CatalogRetention) : CatalogRetainedCounts :=
  { retention.retainedCounts with
    columnsInRelation := (retention.columnsByRelation.entries.map (·.2)).max?.getD 0 }

def fromCheckpoint (counts : CatalogRetainedCounts) (retainedUtf8Bytes : Nat)
    (relation : Option (Text × Text)) : Except DriverError CatalogRetention :=
  if counts.schemas > maxCatalogSchemas || counts.relations > maxCatalogRelations ||
      counts.columns > maxCatalogColumns ||
      counts.columnsInRelation > maxCatalogColumnsPerRelation ||
      retainedUtf8Bytes > maxCatalogUtf8Bytes then
    .error .invalidCatalogRequest
  else if counts.columnsInRelation > 0 then
    match relation with
    | none => .error .invalidCatalogRequest
    | some relation =>
      .ok { retainedCounts := counts
            retainedUtf8Bytes
            columnsByRelation := AList.singleton relation counts.columnsInRelation }
  else .ok { retainedCounts := counts, retainedUtf8Bytes }

end CatalogRetention

structure CatalogRetentionOutcome where
  nodes : List CatalogNode
  retainedCounts : CatalogRetainedCounts
  retainedUtf8Bytes : Nat
  truncated : Bool
  deriving DecidableEq, Repr

/-- The outcome `retain` reports, with the budget after it. -/
def CatalogRetention.outcome (retention : CatalogRetention) (nodes : List CatalogNode) :
    CatalogRetention × CatalogRetentionOutcome :=
  let (final, accepted, truncated) := retention.retain nodes
  (final, { nodes := accepted
            retainedCounts := final.counts
            retainedUtf8Bytes := final.retainedUtf8Bytes
            truncated })

def relationOf : CatalogLevel → Option (Text × Text)
  | .columns schema relation => some (schema, relation)
  | .schemas | .relations _ => none

/-! ## Fingerprints -/

structure TokenPayload where
  version : Nat
  profileFingerprint : Text
  profileGeneration : ProfileGeneration
  level : Nat
  parentFingerprint : Text
  prefixFingerprint : Text
  pageSize : Nat
  lastName : Text
  lastOrdinal : Option Nat
  schemas : Nat
  relations : Nat
  columns : Nat
  columnsInRelation : Nat
  retainedUtf8Bytes : Nat
  deriving DecidableEq, Repr

/-- The libraries a token is made with. -/
structure TokenCodec where
  sha256 : List UInt8 → List UInt8
  hmacSha256 : List UInt8 → List UInt8 → List UInt8
  toJson : TokenPayload → List UInt8
  fromJson : List UInt8 → Option TokenPayload

/-- `u64::to_be_bytes`. -/
def toBeBytes (n : Nat) : List UInt8 :=
  [UInt8.ofNat (n / 256 ^ 7), UInt8.ofNat (n / 256 ^ 6), UInt8.ofNat (n / 256 ^ 5),
    UInt8.ofNat (n / 256 ^ 4), UInt8.ofNat (n / 256 ^ 3), UInt8.ofNat (n / 256 ^ 2),
    UInt8.ofNat (n / 256), UInt8.ofNat n]

/-- `update_fingerprint_part`: a text behind its length. -/
def fingerprintPart (value : Text) : List UInt8 := toBeBytes (byteLen value) ++ bytes value

/-- An ASCII literal that ends in a zero byte. -/
def domain (label : String) : List UInt8 := bytes label.toList ++ [0]

def parentPreimage (level : CatalogLevel) : List UInt8 :=
  domain "dbotter:mysql-catalog-parent:v1" ++
    match level with
    | .schemas => [0]
    | .relations schema => 1 :: fingerprintPart schema
    | .columns schema relation => 2 :: (fingerprintPart schema ++ fingerprintPart relation)

def profilePreimage (profileId : ProfileId) : List UInt8 :=
  domain "dbotter:mysql-catalog-profile:v1" ++ fingerprintPart profileId

def prefixPreimage (namePrefix : Option Text) : List UInt8 :=
  domain "dbotter:mysql-catalog-prefix:v1" ++
    match namePrefix with
    | some namePrefix => 1 :: fingerprintPart namePrefix
    | none => [0]

def levelTag : CatalogLevel → Nat
  | .schemas => 1
  | .relations _ => 2
  | .columns _ _ => 3

namespace TokenCodec

def fingerprint (codec : TokenCodec) (preimage : List UInt8) : Text :=
  Base64.encode (codec.sha256 preimage)

def parentFingerprint (codec : TokenCodec) (request : CatalogRequest) : Text :=
  codec.fingerprint (parentPreimage request.level)

def profileFingerprint (codec : TokenCodec) (request : CatalogRequest) : Text :=
  codec.fingerprint (profilePreimage request.identity.profileId)

def prefixFingerprint (codec : TokenCodec) (namePrefix : Option Text) : Text :=
  codec.fingerprint (prefixPreimage namePrefix)

def sign (codec : TokenCodec) (key payload : List UInt8) : List UInt8 :=
  codec.hmacSha256 key (domain "dbotter:mysql-catalog-token:v1" ++ payload)

def verify (codec : TokenCodec) (key payload supplied : List UInt8) : Except DriverError Unit :=
  if codec.sign key payload = supplied then .ok () else .error .invalidCatalogRequest

end TokenCodec

/-! ## Encoding and decoding -/

def tokenVersion : Nat := 1
def tokenPrefix : Text := "v1".toList

def usizeToU64 (value : Nat) : Except DriverError Nat :=
  if value < 2 ^ 64 then .ok value else .error .invalidCatalogRequest

def u64ToUsize (value : Nat) : Except DriverError Nat :=
  if value ≤ usizeMax then .ok value else .error .invalidCatalogRequest

structure DecodedToken where
  lastName : Text
  lastOrdinal : Option Nat
  counts : CatalogRetainedCounts
  retainedUtf8Bytes : Nat
  deriving DecidableEq, Repr

/-- The ordinal of a column is part of its key. -/
def CatalogNode.keyOrdinal (node : CatalogNode) : Option Nat :=
  match node.identity with
  | .column _ _ ordinal => some ordinal
  | .schema _ | .relation _ _ => none

section tokens
variable (codec : TokenCodec) (key : List UInt8)

def payloadOf (request : CatalogRequest) (last : CatalogNode) (counts : CatalogRetainedCounts)
    (retainedUtf8Bytes : Nat) : TokenPayload where
  version := tokenVersion
  profileFingerprint := codec.profileFingerprint request
  profileGeneration := request.identity.profileGeneration
  level := levelTag request.level
  parentFingerprint := codec.parentFingerprint request
  prefixFingerprint := codec.prefixFingerprint request.namePrefix
  pageSize := request.pageSize
  lastName := last.name
  lastOrdinal := last.keyOrdinal
  schemas := counts.schemas
  relations := counts.relations
  columns := counts.columns
  columnsInRelation := counts.columnsInRelation
  retainedUtf8Bytes

def tokenPayload (request : CatalogRequest) (last : CatalogNode)
    (outcome : CatalogRetentionOutcome) : Except DriverError TokenPayload := do
  let counts : CatalogRetainedCounts := {
    schemas := ← usizeToU64 outcome.retainedCounts.schemas
    relations := ← usizeToU64 outcome.retainedCounts.relations
    columns := ← usizeToU64 outcome.retainedCounts.columns
    columnsInRelation := ← usizeToU64 outcome.retainedCounts.columnsInRelation }
  let retainedUtf8Bytes ← usizeToU64 outcome.retainedUtf8Bytes
  return payloadOf codec request last counts retainedUtf8Bytes

/-- A payload as the text `v1.<payload>.<authenticator>`. -/
def sealPayload (payload : TokenPayload) : Text :=
  ['.'].intercalate [tokenPrefix, Base64.encode (codec.toJson payload),
    Base64.encode (codec.sign key (codec.toJson payload))]

def encodePageToken (request : CatalogRequest) (last : CatalogNode)
    (outcome : CatalogRetentionOutcome) : Except DriverError Text := do
  let payload ← tokenPayload codec request last outcome
  return sealPayload codec key payload

/-- The payload of a token that is well formed and authentic. -/
def openPayload (token : Text) : Except DriverError TokenPayload :=
  match token.splitOn '.' with
  | [version, payloadEncoded, authenticatorEncoded] =>
    if version ≠ tokenPrefix then .error .invalidCatalogRequest
    else
      match Base64.decode payloadEncoded, Base64.decode authenticatorEncoded with
      | some payloadBytes, some suppliedAuthenticator => do
        codec.verify key payloadBytes suppliedAuthenticator
        match codec.fromJson payloadBytes with
        | some payload => .ok payload
        | none => .error .invalidCatalogRequest
      | _, _ => .error .invalidCatalogRequest
  | _ => .error .invalidCatalogRequest

/-- The checks that bind a payload to the request it is presented with. -/
def payloadMatches (request : CatalogRequest) (payload : TokenPayload) : Bool :=
  payload.version == tokenVersion &&
    payload.profileFingerprint == codec.profileFingerprint request &&
    payload.profileGeneration == request.identity.profileGeneration &&
    payload.level == levelTag request.level &&
    payload.parentFingerprint == codec.parentFingerprint request &&
    payload.prefixFingerprint == codec.prefixFingerprint request.namePrefix &&
    payload.pageSize == request.pageSize &&
    (pageLevel request.level == .columns) == payload.lastOrdinal.isSome

def decodePageToken (request : CatalogRequest) (token : Text) :
    Except DriverError DecodedToken := do
  let payload ← openPayload codec key token
  if !payloadMatches codec request payload then .error .invalidCatalogRequest
  else
    let counts : CatalogRetainedCounts := {
      schemas := ← u64ToUsize payload.schemas
      relations := ← u64ToUsize payload.relations
      columns := ← u64ToUsize payload.columns
      columnsInRelation := ← u64ToUsize payload.columnsInRelation }
    let retainedUtf8Bytes ← u64ToUsize payload.retainedUtf8Bytes
    let _ ← CatalogRetention.fromCheckpoint counts retainedUtf8Bytes (relationOf request.level)
    return { lastName := payload.lastName
             lastOrdinal := payload.lastOrdinal
             counts
             retainedUtf8Bytes }

/-! ## Pages -/

def parentOf : CatalogLevel → Option CatalogNodeIdentity
  | .schemas => none
  | .relations schema => some (.schema schema)
  | .columns schema relation => some (.relation schema relation)

def finishPage (request : CatalogRequest) (decoded : DecodedToken) (fetched : List CatalogNode) :
    Except DriverError CatalogPage := do
  let pageSize := request.pageSize
  let hasExtra := decide (fetched.length > pageSize)
  let extra := fetched[pageSize]?
  let start ← CatalogRetention.fromCheckpoint decoded.counts decoded.retainedUtf8Bytes
    (relationOf request.level)
  let (retention, outcome) := start.outcome (fetched.take pageSize)
  let extraFits := extra.all retention.canRetain
  let truncated := outcome.truncated || hasExtra && !extraFits
  let nextToken ←
    if hasExtra && extraFits && !truncated && outcome.nodes.length == pageSize then
      match outcome.nodes.getLast? with
      | some last => some <$> encodePageToken codec key request last outcome
      | none => .ok none
    else .ok none
  return { identity := request.identity
           level := pageLevel request.level
           parent := parentOf request.level
           nodes := outcome.nodes
           nextToken
           retainedCounts := outcome.retainedCounts
           retainedUtf8Bytes := outcome.retainedUtf8Bytes
           truncated
           stale := false }

end tokens

/-! ## Fingerprints tell listings apart -/

theorem toBeBytes_inj {m n : Nat} (hm : m < 2 ^ 64) (hn : n < 2 ^ 64)
    (h : toBeBytes m = toBeBytes n) : m = n := by
  simp only [toBeBytes, List.cons.injEq, and_true, ← UInt8.toNat_inj, UInt8.toNat_ofNat'] at h
  omega

theorem prefixFree_toBeBytes : Codes.PrefixFree (· < 2 ^ 64) toBeBytes :=
  Codes.prefixFree_of_width 8 (fun _ => rfl) fun _ _ hm hn h => toBeBytes_inj hm hn h

theorem fingerprintPart_inj {s t : Text} {rest rest' : List UInt8} (hs : byteLen s < 2 ^ 64)
    (ht : byteLen t < 2 ^ 64) (h : fingerprintPart s ++ rest = fingerprintPart t ++ rest') :
    s = t ∧ rest = rest' := by
  unfold fingerprintPart at h
  rw [← bytes_length] at hs ht
  rw [← bytes_length s, ← bytes_length t] at h
  exact prefixFree_toBeBytes.lengthPrefixed.comp bytes_injective hs ht h

/-- A text that is hashed last is determined without a bound on its length. -/
theorem fingerprintPart_injective : Function.Injective fingerprintPart := by
  intro s t h
  exact bytes_injective (List.append_inj h rfl).2

theorem profilePreimage_injective : Function.Injective profilePreimage := by
  intro p q h
  exact fingerprintPart_injective (List.append_cancel_left h)

theorem prefixPreimage_injective : Function.Injective prefixPreimage := by
  intro p q h
  have htail := List.append_cancel_left h
  cases p with
  | none =>
    cases q with
    | none => rfl
    | some t => simp at htail
  | some s =>
    cases q with
    | none => simp at htail
    | some t => rw [fingerprintPart_injective (List.tail_eq_of_cons_eq htail)]

/-- The schema of a column listing is as long as a string of the program can be. -/
def Addressable : CatalogLevel → Prop
  | .columns schema _ => byteLen schema ≤ usizeMax
  | .schemas | .relations _ => True

theorem parentPreimage_inj {a b : CatalogLevel} (ha : Addressable a) (hb : Addressable b)
    (h : parentPreimage a = parentPreimage b) : a = b := by
  have htail := List.append_cancel_left h
  cases a with
  | schemas => cases b <;> simp_all
  | relations s =>
    cases b with
    | relations t => rw [fingerprintPart_injective (List.tail_eq_of_cons_eq htail)]
    | schemas => simp at htail
    | columns t r => simp at htail
  | columns s r =>
    cases b with
    | columns t r' =>
      obtain ⟨rfl, hr⟩ := fingerprintPart_inj (Nat.lt_of_le_pred (by decide) ha)
        (Nat.lt_of_le_pred (by decide) hb) (List.tail_eq_of_cons_eq htail)
      rw [fingerprintPart_injective hr]
    | schemas => simp at htail
    | relations t => simp at htail

/-- Everything the fingerprints of a request are computed from. -/
def preimages (request : CatalogRequest) : List (List UInt8) :=
  [profilePreimage request.identity.profileId, parentPreimage request.level,
    prefixPreimage request.namePrefix]

/-- SHA-256 separates the texts hashed for these two requests. -/
def CollisionFree (codec : TokenCodec) (r₁ r₂ : CatalogRequest) : Prop :=
  Set.InjOn codec.sha256 {preimage | preimage ∈ preimages r₁ ++ preimages r₂}

/-- Two requests ask for pages of one listing. -/
def SameListing (r₁ r₂ : CatalogRequest) : Prop :=
  r₁.identity.profileId = r₂.identity.profileId ∧
    r₁.identity.profileGeneration = r₂.identity.profileGeneration ∧
    r₁.level = r₂.level ∧ r₁.namePrefix = r₂.namePrefix ∧ r₁.pageSize = r₂.pageSize

/-! ## The budget stays within its caps -/

/-- The nodes a listing of this level can hold. -/
def Lists : CatalogLevel → CatalogNodeIdentity → Prop
  | .schemas, .schema _ => True
  | .relations schema, .relation schema' _ => schema' = schema
  | .columns schema relation, .column schema' relation' _ =>
    schema' = schema ∧ relation' = relation
  | _, _ => False

namespace CatalogRetention

/-- A budget of one listing: no counter is over its cap, and columns are counted for the one
relation that is listed. -/
structure Bounded (relation : Option (Text × Text)) (retention : CatalogRetention) : Prop where
  schemas : retention.retainedCounts.schemas ≤ maxCatalogSchemas
  relations : retention.retainedCounts.relations ≤ maxCatalogRelations
  columns : retention.retainedCounts.columns ≤ maxCatalogColumns
  bytes : retention.retainedUtf8Bytes ≤ maxCatalogUtf8Bytes
  perRelation : retention.columnsByRelation = ∅ ∨
    ∃ pair n, relation = some pair ∧ 0 < n ∧ n ≤ maxCatalogColumnsPerRelation ∧
      retention.columnsByRelation = AList.singleton pair n

variable {counts : CatalogRetainedCounts} {size : Nat} {relation : Option (Text × Text)}
  {retention : CatalogRetention}

theorem fromCheckpoint_bounded (h : fromCheckpoint counts size relation = .ok retention) :
    Bounded relation retention := by
  simp only [fromCheckpoint, Bool.or_eq_true, decide_eq_true_eq] at h
  split at h
  · cases h
  rename_i hcaps
  split at h
  · cases relation with
    | none => cases h
    | some pair =>
      cases h
      exact ⟨by simp only; omega, by simp only; omega, by simp only; omega, by simp only; omega,
        .inr ⟨pair, _, rfl, by omega, by omega, rfl⟩⟩
  · cases h
    exact ⟨by simp only; omega, by simp only; omega, by simp only; omega, by simp only; omega,
      .inl rfl⟩

/-- The counters of a budget of one listing, with the columns of its relation. -/
theorem Bounded.columnsInRelation_le (h : Bounded relation retention) :
    retention.counts.columnsInRelation ≤ maxCatalogColumnsPerRelation := by
  unfold CatalogRetention.counts
  obtain hnone | ⟨pair, n, -, -, hn, hone⟩ := h.perRelation
  · simp [hnone]
  · simpa [hone] using hn

/-- A budget is continued from its own checkpoint, with the identities forgotten. -/
theorem Bounded.checkpoint (h : Bounded relation retention) :
    fromCheckpoint retention.counts retention.retainedUtf8Bytes relation =
      .ok { retention with identities := ∅, retainedCounts := retention.counts } := by
  have hschemas : retention.counts.schemas ≤ maxCatalogSchemas := h.schemas
  have hrelations : retention.counts.relations ≤ maxCatalogRelations := h.relations
  have hcolumns : retention.counts.columns ≤ maxCatalogColumns := h.columns
  have hbytes := h.bytes
  have hin := h.columnsInRelation_le
  simp only [fromCheckpoint, Bool.or_eq_true, decide_eq_true_eq]
  rw [if_neg (by omega)]
  obtain hnone | ⟨pair, n, rfl, hpos, -, hone⟩ := h.perRelation
  · have hzero : retention.counts.columnsInRelation = 0 := by
      simp [CatalogRetention.counts, hnone]
    rw [if_neg (by omega), hnone]
  · have hcount : retention.counts.columnsInRelation = n := by
      simp [CatalogRetention.counts, hone]
    rw [if_pos (by omega), hone, hcount]

/-- What one node does to the budget. -/
theorem retainOne_cases (retention : CatalogRetention) (node : CatalogNode) :
    (node.identity ∈ retention.identities ∧
      retention.retainOne node = (retention, .duplicate)) ∨
    (node.identity ∉ retention.identities ∧ retention.canRetain node = false ∧
      retention.retainOne node = (retention, .capReached)) ∨
    (node.identity ∉ retention.identities ∧ retention.canRetain node = true ∧
      retention.retainOne node =
        ({ retention.count node.identity with
            retainedUtf8Bytes :=
              saturatingAdd retention.retainedUtf8Bytes (catalogNodeUtf8Bytes node)
            identities := insert node.identity retention.identities }, .accepted)) := by
  by_cases hmem : node.identity ∈ retention.identities
  · exact .inl ⟨hmem, by simp [CatalogRetention.retainOne, hmem]⟩
  cases hfit : retention.canRetain node with
  | false => exact .inr (.inl ⟨hmem, rfl, by simp [CatalogRetention.retainOne, hmem, hfit]⟩)
  | true => exact .inr (.inr ⟨hmem, rfl, by simp [CatalogRetention.retainOne, hmem, hfit]⟩)

/-- The room a new node needs: its bytes, and a place among its kind. -/
theorem canRetain_new {node : CatalogNode} (hnew : node.identity ∉ retention.identities) :
    retention.canRetain node = true ↔
      saturatingAdd retention.retainedUtf8Bytes (catalogNodeUtf8Bytes node) ≤
        maxCatalogUtf8Bytes ∧
      match node.identity with
      | .schema _ => retention.retainedCounts.schemas < maxCatalogSchemas
      | .relation _ _ => retention.retainedCounts.relations < maxCatalogRelations
      | .column schema relation _ => retention.retainedCounts.columns < maxCatalogColumns ∧
          retention.columnsOf schema relation < maxCatalogColumnsPerRelation := by
  unfold canRetain
  rw [if_neg hnew]
  cases node.identity <;> simp [and_comm]

theorem Bounded.retainOne {level : CatalogLevel} {node : CatalogNode}
    (h : Bounded (relationOf level) retention) (hnode : Lists level node.identity) :
    Bounded (relationOf level) (retention.retainOne node).1 := by
  obtain ⟨-, heq⟩ | ⟨-, -, heq⟩ | ⟨hnew, hfit, heq⟩ := retention.retainOne_cases node
  · rw [heq]
    exact h
  · rw [heq]
    exact h
  · rw [heq]
    obtain ⟨hbytes, hroom⟩ := (canRetain_new hnew).mp hfit
    cases hid : node.identity with
    | schema s =>
      rw [hid] at hroom
      exact ⟨min_le_of_left_le hroom, h.relations, h.columns, hbytes, h.perRelation⟩
    | relation s r =>
      rw [hid] at hroom
      exact ⟨h.schemas, min_le_of_left_le hroom, h.columns, hbytes, h.perRelation⟩
    | column s r ordinal =>
      rw [hid] at hroom hnode
      cases level with
      | schemas => exact hnode.elim
      | relations _ => exact hnode.elim
      | columns s' r' =>
        obtain ⟨rfl, rfl⟩ := hnode
        refine ⟨h.schemas, h.relations, min_le_of_left_le hroom.1, hbytes, .inr
          ⟨(s, r), saturatingAdd (retention.columnsOf s r) 1, rfl, ?_,
            min_le_of_left_le hroom.2, ?_⟩⟩
        · unfold saturatingAdd usizeMax
          omega
        · obtain hnone | ⟨pair, n, hpair, -, -, hone⟩ := h.perRelation
          · simp only [CatalogRetention.count, hnone]
            rfl
          · cases hpair
            simp only [CatalogRetention.count, hone]
            exact AList.insert_singleton_eq

theorem Bounded.retain {level : CatalogLevel} {nodes : List CatalogNode}
    (h : Bounded (relationOf level) retention)
    (hnodes : ∀ node ∈ nodes, Lists level node.identity) :
    Bounded (relationOf level) (retention.retain nodes).1 := by
  induction nodes generalizing retention with
  | nil => exact h
  | cons node nodes ih =>
    have hone := h.retainOne (hnodes node List.mem_cons_self)
    have hrest := ih hone fun other hmem => hnodes other (List.mem_cons_of_mem _ hmem)
    simp only [CatalogRetention.retain]
    split <;> exact hrest

theorem retain_sublist (retention : CatalogRetention) (nodes : List CatalogNode) :
    (retention.retain nodes).2.1.Sublist nodes := by
  induction nodes generalizing retention with
  | nil => exact List.Sublist.slnil
  | cons node nodes ih =>
    have hrest := ih (retention.retainOne node).1
    simp only [CatalogRetention.retain]
    split
    · exact hrest.cons_cons node
    · exact hrest.cons node
    · exact hrest.cons node

end CatalogRetention

section binding
variable {codec : TokenCodec} {r₁ r₂ : CatalogRequest}

theorem CollisionFree.fingerprint (free : CollisionFree codec r₁ r₂) {a b : List UInt8}
    (ha : a ∈ preimages r₁) (hb : b ∈ preimages r₂)
    (h : codec.fingerprint a = codec.fingerprint b) : a = b := by
  have hsha : codec.sha256 a = codec.sha256 b := Base64.encode_injective h
  exact free (List.mem_append_left _ ha) (List.mem_append_right _ hb) hsha

/-- Every count of the budget is carried by the payload as it is. -/
theorem tokenPayload_bounded {relation : Option (Text × Text)} {retention : CatalogRetention}
    {outcome : CatalogRetentionOutcome} (last : CatalogNode)
    (h : CatalogRetention.Bounded relation retention)
    (hcounts : outcome.retainedCounts = retention.counts)
    (hbytes : outcome.retainedUtf8Bytes = retention.retainedUtf8Bytes) :
    tokenPayload codec r₁ last outcome =
      .ok (payloadOf codec r₁ last outcome.retainedCounts outcome.retainedUtf8Bytes) := by
  have hfit : ∀ {n : Nat} (cap : Nat), n ≤ cap → cap < 2 ^ 64 → usizeToU64 n = .ok n := by
    intro n cap hn hcap
    exact if_pos (Nat.lt_of_le_of_lt hn hcap)
  have hschemas : usizeToU64 retention.counts.schemas = .ok retention.counts.schemas :=
    hfit _ h.schemas (by decide)
  have hrelations : usizeToU64 retention.counts.relations = .ok retention.counts.relations :=
    hfit _ h.relations (by decide)
  have hcolumns : usizeToU64 retention.counts.columns = .ok retention.counts.columns :=
    hfit _ h.columns (by decide)
  unfold tokenPayload
  rw [hcounts, hbytes, hschemas, hrelations, hcolumns, hfit _ h.columnsInRelation_le (by decide),
    hfit _ h.bytes (by decide)]
  rfl

theorem keyOrdinal_isSome {level : CatalogLevel} {node : CatalogNode}
    (h : Lists level node.identity) :
    node.keyOrdinal.isSome = (pageLevel level == .columns) := by
  unfold CatalogNode.keyOrdinal
  cases hid : node.identity <;> rw [hid] at h <;> cases level <;> first | exact h.elim | rfl

theorem payloadMatches_of_sameListing {last : CatalogNode} (hlast : Lists r₁.level last.identity)
    (h : SameListing r₁ r₂) (counts : CatalogRetainedCounts) (size : Nat) :
    payloadMatches codec r₂ (payloadOf codec r₁ last counts size) = true := by
  obtain ⟨hid, hg, hlev, hname, hps⟩ := h
  simp only [payloadMatches, payloadOf, Bool.and_eq_true, beq_iff_eq, true_and]
  refine ⟨⟨⟨⟨⟨⟨?_, hg⟩, ?_⟩, ?_⟩, ?_⟩, hps⟩, ?_⟩
  · simp only [TokenCodec.profileFingerprint, hid]
  · rw [hlev]
  · simp only [TokenCodec.parentFingerprint, hlev]
  · rw [hname]
  · rw [← hlev]
    exact (keyOrdinal_isSome hlast).symm

/-- The checks on a payload hold exactly for the requests of its listing. -/
theorem payloadMatches_iff (free : CollisionFree codec r₁ r₂) (h₁ : Addressable r₁.level)
    (h₂ : Addressable r₂.level) {last : CatalogNode} (hlast : Lists r₁.level last.identity)
    (counts : CatalogRetainedCounts) (size : Nat) :
    payloadMatches codec r₂ (payloadOf codec r₁ last counts size) = true ↔
      SameListing r₁ r₂ := by
  constructor
  · intro hmatches
    simp only [payloadMatches, payloadOf, Bool.and_eq_true, beq_iff_eq, true_and] at hmatches
    obtain ⟨⟨⟨⟨⟨⟨hp, hg⟩, -⟩, hpar⟩, hpre⟩, hps⟩, -⟩ := hmatches
    have hid := profilePreimage_injective (free.fingerprint (by simp [preimages])
      (by simp [preimages]) hp)
    have hlev := parentPreimage_inj h₁ h₂ (free.fingerprint (by simp [preimages])
      (by simp [preimages]) hpar)
    have hname := prefixPreimage_injective (free.fingerprint (by simp [preimages])
      (by simp [preimages]) hpre)
    exact ⟨hid, hg, hlev, hname, hps⟩
  · intro hsame
    exact payloadMatches_of_sameListing hlast hsame counts size

/-- The JSON codec reads this payload back. -/
def Lossless (codec : TokenCodec) (payload : TokenPayload) : Prop :=
  codec.fromJson (codec.toJson payload) = some payload

/-- A sealed payload is opened with the key that sealed it. -/
theorem openPayload_seal (key : List UInt8) {payload : TokenPayload}
    (lossless : Lossless codec payload) :
    openPayload codec key (sealPayload codec key payload) = .ok payload := by
  have hsplit : (sealPayload codec key payload).splitOn '.' =
      [tokenPrefix, Base64.encode (codec.toJson payload),
        Base64.encode (codec.sign key (codec.toJson payload))] := by
    apply List.splitOn_intercalate
    · intro part hpart
      simp only [List.mem_cons, List.not_mem_nil, or_false] at hpart
      obtain rfl | rfl | rfl := hpart
      · decide
      · exact Base64.dot_not_mem_encode _
      · exact Base64.dot_not_mem_encode _
    · simp
  unfold openPayload
  rw [hsplit]
  simp only [ne_eq, not_true_eq_false, if_false, Base64.decode_encode, TokenCodec.verify, if_true]
  rw [lossless]
  rfl

/-- What `finish_page` reports of the rows that were fetched for a request: the outcome of
retaining a page of them, and the last node that was retained. -/
def Reported (request : CatalogRequest) (last : CatalogNode)
    (outcome : CatalogRetentionOutcome) : Prop :=
  ∃ (decoded : DecodedToken) (fetched : List CatalogNode) (start : CatalogRetention),
    (∀ node ∈ fetched, Lists request.level node.identity) ∧
    CatalogRetention.fromCheckpoint decoded.counts decoded.retainedUtf8Bytes
      (relationOf request.level) = .ok start ∧
    (start.outcome (fetched.take request.pageSize)).2 = outcome ∧
    outcome.nodes.getLast? = some last

variable {last : CatalogNode} {outcome : CatalogRetentionOutcome}

theorem Reported.lists (h : Reported r₁ last outcome) : Lists r₁.level last.identity := by
  obtain ⟨decoded, fetched, start, hlists, -, rfl, hlast⟩ := h
  have hmem : last ∈ fetched.take r₁.pageSize :=
    (start.retain_sublist _).subset (List.mem_of_getLast? hlast)
  exact hlists last (List.mem_of_mem_take hmem)

theorem Reported.bounded (h : Reported r₁ last outcome) :
    ∃ retention, CatalogRetention.Bounded (relationOf r₁.level) retention ∧
      outcome.retainedCounts = retention.counts ∧
      outcome.retainedUtf8Bytes = retention.retainedUtf8Bytes := by
  obtain ⟨decoded, fetched, start, hlists, hstart, rfl, -⟩ := h
  have hpage : ∀ node ∈ fetched.take r₁.pageSize, Lists r₁.level node.identity :=
    fun node hmem => hlists node (List.mem_of_mem_take hmem)
  exact ⟨_, (CatalogRetention.fromCheckpoint_bounded hstart).retain hpage, rfl, rfl⟩

theorem Reported.encoded (codec : TokenCodec) (h : Reported r₁ last outcome) (key : List UInt8) :
    encodePageToken codec key r₁ last outcome = .ok (sealPayload codec key
      (payloadOf codec r₁ last outcome.retainedCounts outcome.retainedUtf8Bytes)) := by
  obtain ⟨retention, hbounded, hcounts, hbytes⟩ := h.bounded
  unfold encodePageToken
  rw [tokenPayload_bounded last hbounded hcounts hbytes]
  rfl

/-- The checkpoint of a page is taken up again under every request of the same level. -/
theorem Reported.resumed (h : Reported r₁ last outcome) (key : List UInt8)
    (lossless : Lossless codec
      (payloadOf codec r₁ last outcome.retainedCounts outcome.retainedUtf8Bytes))
    (hlevel : r₂.level = r₁.level)
    (hmatches : payloadMatches codec r₂
      (payloadOf codec r₁ last outcome.retainedCounts outcome.retainedUtf8Bytes) = true) :
    decodePageToken codec key r₂ (sealPayload codec key
      (payloadOf codec r₁ last outcome.retainedCounts outcome.retainedUtf8Bytes)) =
      .ok { lastName := last.name
            lastOrdinal := last.keyOrdinal
            counts := outcome.retainedCounts
            retainedUtf8Bytes := outcome.retainedUtf8Bytes } := by
  obtain ⟨retention, hbounded, hcounts, hbytes⟩ := h.bounded
  have hfit : ∀ {n : Nat} (cap : Nat), n ≤ cap → cap ≤ usizeMax → u64ToUsize n = .ok n := by
    intro n cap hn hcap
    exact if_pos (Nat.le_trans hn hcap)
  have hschemas : u64ToUsize retention.counts.schemas = .ok retention.counts.schemas :=
    hfit _ hbounded.schemas (by decide)
  have hrelations : u64ToUsize retention.counts.relations = .ok retention.counts.relations :=
    hfit _ hbounded.relations (by decide)
  have hcolumns : u64ToUsize retention.counts.columns = .ok retention.counts.columns :=
    hfit _ hbounded.columns (by decide)
  have hin : u64ToUsize retention.counts.columnsInRelation =
      .ok retention.counts.columnsInRelation := hfit _ hbounded.columnsInRelation_le (by decide)
  have hsize : u64ToUsize retention.retainedUtf8Bytes = .ok retention.retainedUtf8Bytes :=
    hfit _ hbounded.bytes (by decide)
  unfold decodePageToken
  rw [openPayload_seal key lossless]
  simp only [bind, Except.bind, hmatches, Bool.not_true, Bool.false_eq_true, if_false]
  simp only [payloadOf, hcounts, hbytes, hschemas, hrelations, hcolumns, hin, hsize]
  rw [hlevel, hbounded.checkpoint]
  rfl

/-- **A token continues its own listing and no other.** -/
theorem decodePageToken_encoded_iff (codec : TokenCodec) (key : List UInt8)
    {r₁ r₂ : CatalogRequest} {last : CatalogNode} {outcome : CatalogRetentionOutcome}
    (h : Reported r₁ last outcome) (h₁ : Addressable r₁.level) (h₂ : Addressable r₂.level)
    (free : CollisionFree codec r₁ r₂)
    (lossless : Lossless codec
      (payloadOf codec r₁ last outcome.retainedCounts outcome.retainedUtf8Bytes)) :
    ∃ token, encodePageToken codec key r₁ last outcome = .ok token ∧
      ((∃ decoded, decodePageToken codec key r₂ token = .ok decoded) ↔ SameListing r₁ r₂) ∧
      ∀ decoded, decodePageToken codec key r₂ token = .ok decoded →
        decoded = { lastName := last.name
                    lastOrdinal := last.keyOrdinal
                    counts := outcome.retainedCounts
                    retainedUtf8Bytes := outcome.retainedUtf8Bytes } := by
  have hiff := payloadMatches_iff free h₁ h₂ h.lists outcome.retainedCounts
    outcome.retainedUtf8Bytes
  refine ⟨_, h.encoded codec key, ?_⟩
  by_cases hsame : SameListing r₁ r₂
  · have hresumed := h.resumed key lossless hsame.2.2.1.symm (hiff.mpr hsame)
    refine ⟨⟨fun _ => hsame, fun _ => ⟨_, hresumed⟩⟩, ?_⟩
    intro decoded hdecoded
    rw [hresumed] at hdecoded
    exact (Except.ok.inj hdecoded).symm
  · have hrefused : payloadMatches codec r₂ (payloadOf codec r₁ last outcome.retainedCounts
        outcome.retainedUtf8Bytes) = false := by
      simpa using fun hmatches => hsame (hiff.mp hmatches)
    have herror : ∀ decoded, decodePageToken codec key r₂ (sealPayload codec key
        (payloadOf codec r₁ last outcome.retainedCounts outcome.retainedUtf8Bytes)) ≠
          .ok decoded := by
      intro decoded hdecoded
      unfold decodePageToken at hdecoded
      rw [openPayload_seal key lossless] at hdecoded
      simp only [bind, Except.bind, hrefused, Bool.not_false, if_true] at hdecoded
      cases hdecoded
    refine ⟨⟨?_, fun h => absurd h hsame⟩, fun decoded hdecoded => absurd hdecoded (herror _)⟩
    rintro ⟨decoded, hdecoded⟩
    exact absurd hdecoded (herror decoded)

end binding

/-! A page of one column, with the digests, the JSON and the authenticator of its token. -/

def firstColumns : CatalogRequest where
  identity := ⟨"mysql-live".toList, 7, 1⟩
  level := .columns "shop".toList "orders".toList
  namePrefix := none
  pageToken := none
  pageSize := 1
  timeout := seconds 10

def nextColumns : CatalogRequest :=
  { firstColumns with identity.operationId := 2 }

def idColumn : CatalogNode where
  identity := .column "shop".toList "orders".toList 1
  name := "id".toList
  typeName := some "int".toList

def recordedPayload : TokenPayload where
  version := 1
  profileFingerprint := "vsCutAO2EIa0timba8GNuLZIUUUEwVfo9JKuNVleaTA".toList
  profileGeneration := 7
  level := 3
  parentFingerprint := "RFCx-A0cbE0TIJozbNWXYEgT8e-FFmuqLfpArCNI9V0".toList
  prefixFingerprint := "ClYwNDZwUyNbqniv2vYIRUzx0g9cSfEXhgmevDexk5g".toList
  pageSize := 1
  lastName := "id".toList
  lastOrdinal := some 1
  schemas := 0
  relations := 0
  columns := 1
  columnsInRelation := 1
  retainedUtf8Bytes := 5

def recordedJson : List UInt8 := bytes ("\x7b\"version\":1,\"profile_fingerprint\":" ++
  "\"vsCutAO2EIa0timba8GNuLZIUUUEwVfo9JKuNVleaTA\",\"profile_generation\":7,\"level\":3," ++
  "\"parent_fingerprint\":\"RFCx-A0cbE0TIJozbNWXYEgT8e-FFmuqLfpArCNI9V0\"," ++
  "\"prefix_fingerprint\":\"ClYwNDZwUyNbqniv2vYIRUzx0g9cSfEXhgmevDexk5g\"," ++
  "\"page_size\":1,\"last_name\":\"id\",\"last_ordinal\":1,\"schemas\":0,\"relations\":0," ++
  "\"columns\":1,\"columns_in_relation\":1,\"retained_utf8_bytes\":5\x7d").toList

/-- The libraries on the inputs of this token. -/
def recordedCodec : TokenCodec where
  sha256 preimage :=
    if preimage = profilePreimage "mysql-live".toList then
      [190, 192, 174, 180, 3, 182, 16, 134, 180, 182, 41, 155, 107, 193, 141, 184, 182, 72, 81,
        69, 4, 193, 87, 232, 244, 146, 174, 53, 89, 94, 105, 48]
    else if preimage = parentPreimage firstColumns.level then
      [68, 80, 177, 248, 13, 28, 108, 77, 19, 32, 154, 51, 108, 213, 151, 96, 72, 19, 241, 239,
        133, 22, 107, 170, 45, 250, 64, 172, 35, 72, 245, 93]
    else
      [10, 86, 48, 52, 54, 112, 83, 35, 91, 170, 120, 175, 218, 246, 8, 69, 76, 241, 210, 15, 92,
        73, 241, 23, 134, 9, 158, 188, 55, 177, 147, 152]
  hmacSha256 _ _ :=
    [12, 64, 245, 43, 246, 235, 99, 83, 120, 0, 112, 244, 79, 236, 144, 176, 0, 206, 2, 104, 249,
      228, 57, 105, 1, 179, 197, 131, 19, 107, 156, 31]
  toJson payload := if payload = recordedPayload then recordedJson else []
  fromJson json := if json = recordedJson then some recordedPayload else none

def firstOutcome : CatalogRetentionOutcome where
  nodes := [idColumn]
  retainedCounts := { columns := 1, columnsInRelation := 1 }
  retainedUtf8Bytes := 5
  truncated := false

theorem shop_addressable : byteLen "shop".toList ≤ usizeMax := by decide +kernel

theorem recordedCodec_injOn :
    ∀ a ∈ preimages firstColumns ++ preimages nextColumns,
      ∀ b ∈ preimages firstColumns ++ preimages nextColumns,
        recordedCodec.sha256 a = recordedCodec.sha256 b → a = b := by decide +kernel

theorem payloadOf_recorded :
    payloadOf recordedCodec firstColumns idColumn { columns := 1, columnsInRelation := 1 } 5 =
      recordedPayload := by decide +kernel

theorem recordedCodec_lossless :
    recordedCodec.fromJson (recordedCodec.toJson (payloadOf recordedCodec firstColumns idColumn
        { columns := 1, columnsInRelation := 1 } 5)) =
      some (payloadOf recordedCodec firstColumns idColumn
        { columns := 1, columnsInRelation := 1 } 5) := by
  rw [payloadOf_recorded]
  simp only [recordedCodec, if_true]

theorem decodePageToken_encoded_columns :
    ∃ token, encodePageToken recordedCodec (List.replicate 32 7) firstColumns idColumn
        firstOutcome = .ok token ∧
      ((∃ decoded, decodePageToken recordedCodec (List.replicate 32 7) nextColumns token =
        .ok decoded) ↔ SameListing firstColumns nextColumns) ∧
      ∀ decoded, decodePageToken recordedCodec (List.replicate 32 7) nextColumns token =
        .ok decoded → decoded = ⟨"id".toList, some 1, { columns := 1, columnsInRelation := 1 }, 5⟩ := by
  have hreported : Reported firstColumns idColumn firstOutcome := by
    refine ⟨⟨[], none, {}, 0⟩, [idColumn], {}, ?_, rfl, ?_, rfl⟩
    · intro node hmem
      rw [List.mem_singleton.mp hmem]
      exact ⟨rfl, rfl⟩
    · decide +kernel
  refine decodePageToken_encoded_iff recordedCodec (List.replicate 32 7) hreported ?_ ?_ ?_ ?_
  · exact shop_addressable
  · exact shop_addressable
  · exact fun a ha b hb => recordedCodec_injOn a ha b hb
  · exact recordedCodec_lossless

end Dbotter.Drivers
