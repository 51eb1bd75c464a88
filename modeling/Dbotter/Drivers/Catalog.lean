import Mathlib.Data.List.Lex
import Mathlib.Data.Prod.Lex
import Dbotter.Program.Keyset
import Dbotter.Drivers.PageTokens

/-!
Listing a MySQL catalog page by page.

The rows of `information_schema` are filtered, ordered by their binary key and cut off one row
past the page, so that the extra row shows that there is more. Following the tokens from the
first page reads the whole listing as long as the budget lasts.
-/

namespace Dbotter.Drivers
open Dbotter.Utf8 Dbotter.Service Dbotter.Program.Keyset

/-! ## The catalog of a server -/

structure TableRow where
  schema : Text
  name : Text
  tableType : Text
  deriving DecidableEq, Repr

/-- A row of `COLUMNS` without `IS_NULLABLE`, which is only shown. -/
structure ColumnRow where
  schema : Text
  table : Text
  name : Text
  columnType : Text
  ordinalPosition : Nat
  deriving DecidableEq, Repr

/-- The catalog of a server: names are not empty and unique, and so are the positions of the
columns of a table, which count from one. -/
structure InformationSchema where
  schemata : List Text
  tables : List TableRow
  columns : List ColumnRow
  schemata_nodup : schemata.Nodup
  schemata_ne_nil : ∀ name ∈ schemata, name ≠ []
  tables_nodup : (tables.map fun row => (row.schema, row.name)).Nodup
  tables_ne_nil : ∀ row ∈ tables, row.name ≠ []
  columns_nodup : (columns.map fun row => (row.schema, row.table, row.ordinalPosition)).Nodup
  columns_pos : ∀ row ∈ columns, 1 ≤ row.ordinalPosition

/-- `CAST(name AS BINARY)`, compared octet by octet. -/
def binary (name : Text) : List Nat := (bytes name).map UInt8.toNat

/-- The `LEFT` condition of the queries; an empty filter is not applied. -/
def startsWith (name namePrefix : Text) : Bool :=
  namePrefix.isEmpty || (bytes name).take (byteLen namePrefix) == bytes namePrefix

def schemaNode (name : Text) : CatalogNode where
  identity := .schema name
  name
  typeName := none

def relationNode (schema : Text) (row : TableRow) : CatalogNode where
  identity := .relation schema row.name
  name := row.name
  typeName := some row.tableType

def columnNode (schema relation : Text) (row : ColumnRow) : CatalogNode where
  identity := .column schema relation row.ordinalPosition
  name := row.name
  typeName := some row.columnType

section queries
variable (server : InformationSchema)

def loadSchemas (configuredDatabase : Option Text) (namePrefix lastName : Text)
    (serverLimit : Nat) : List CatalogNode :=
  let rows := server.schemata.filter fun name =>
    configuredDatabase.all (fun database => binary name == binary database) &&
      startsWith name namePrefix && (lastName.isEmpty || binary lastName < binary name)
  ((sortBy binary rows).take serverLimit).map schemaNode

def loadRelations (schema namePrefix lastName : Text) (serverLimit : Nat) : List CatalogNode :=
  let rows := server.tables.filter fun row =>
    binary row.schema == binary schema && startsWith row.name namePrefix &&
      (lastName.isEmpty || binary lastName < binary row.name)
  ((sortBy (fun row => binary row.name) rows).take serverLimit).map (relationNode schema)

def loadColumns (schema relation namePrefix : Text) (lastOrdinal : Nat) (lastName : Text)
    (serverLimit : Nat) : List CatalogNode :=
  let rows := server.columns.filter fun row =>
    binary row.schema == binary schema && binary row.table == binary relation &&
      startsWith row.name namePrefix &&
      (lastOrdinal < row.ordinalPosition ||
        row.ordinalPosition == lastOrdinal && binary lastName < binary row.name)
  ((sortBy (fun row => toLex (row.ordinalPosition, binary row.name)) rows).take
    serverLimit).map (columnNode schema relation)

/-! ## Pages -/

variable (configuredDatabase : Option Text) (codec : TokenCodec) (key : List UInt8)

/-- The level query of a page that starts behind a decoded token. -/
def loadNodes (request : CatalogRequest) (decoded : DecodedToken) (serverLimit : Nat) :
    List CatalogNode :=
  let namePrefix := request.namePrefix.getD []
  match request.level with
  | .schemas => loadSchemas server configuredDatabase namePrefix decoded.lastName serverLimit
  | .relations schema => loadRelations server schema namePrefix decoded.lastName serverLimit
  | .columns schema relation =>
    loadColumns server schema relation namePrefix (decoded.lastOrdinal.getD 0) decoded.lastName
      serverLimit

def startToken : DecodedToken where
  lastName := []
  lastOrdinal := none
  counts := {}
  retainedUtf8Bytes := 0

/-- Where a request starts: behind its token, or at the first page. -/
def startOf (request : CatalogRequest) : Except DriverError DecodedToken :=
  match request.pageToken with
  | some token => decodePageToken codec key request token
  | none => .ok startToken

/-- `load_page`, for a server that answers within the timeout. -/
def loadPage (request : CatalogRequest) : Except DriverError CatalogPage :=
  match request.validate with
  | .error _ => .error .invalidCatalogRequest
  | .ok () => do
    let decoded ← startOf codec key request
    finishPage codec key request decoded
      (loadNodes server configuredDatabase request decoded (request.pageSize + 1))

/-- Load a page and, as long as there is a next token, the page behind it. -/
def follow : Nat → CatalogRequest → Option (Except DriverError (List CatalogPage))
  | 0, _ => none
  | fuel + 1, request =>
    match loadPage server configuredDatabase codec key request with
    | .error error => some (.error error)
    | .ok page =>
      match page.nextToken with
      | none => some (.ok [page])
      | some token =>
        (follow fuel { request with pageToken := some token }).map (·.map (page :: ·))

end queries

/-! ## The listing a request asks for -/

/-- The matching nodes of a level, in the order of the catalog. -/
def entries (server : InformationSchema) (configuredDatabase : Option Text)
    (level : CatalogLevel) (namePrefix : Text) : List CatalogNode :=
  match level with
  | .schemas =>
    (server.schemata.filter fun name =>
      configuredDatabase.all (fun database => binary name == binary database) &&
        startsWith name namePrefix).map schemaNode
  | .relations schema =>
    (server.tables.filter fun row =>
      binary row.schema == binary schema && startsWith row.name namePrefix).map
        (relationNode schema)
  | .columns schema relation =>
    (server.columns.filter fun row =>
      binary row.schema == binary schema && binary row.table == binary relation &&
        startsWith row.name namePrefix).map (columnNode schema relation)

/-- Names are ordered by their octets, columns first by their position. -/
def nodeKey (node : CatalogNode) : ℕ ×ₗ List ℕ :=
  toLex (node.keyOrdinal.getD 0, binary node.name)

def listing (server : InformationSchema) (configuredDatabase : Option Text)
    (request : CatalogRequest) : List CatalogNode :=
  sortBy nodeKey (entries server configuredDatabase request.level (request.namePrefix.getD []))

theorem binary_injective : Function.Injective binary := by
  intro s t h
  have hnat : Function.Injective UInt8.toNat := fun a b hab => UInt8.toNat_inj.mp hab
  exact bytes_injective (List.map_injective_iff.mpr hnat h)

theorem nodeKey_le_iff {a b : CatalogNode} (h : a.keyOrdinal = b.keyOrdinal) :
    nodeKey a ≤ nodeKey b ↔ binary a.name ≤ binary b.name := by
  simp [nodeKey, h, Prod.Lex.toLex_le_toLex]

section listing
variable (server : InformationSchema) (configuredDatabase : Option Text)

/-- What tells the rows of a level apart tells its entries apart. -/
theorem entries_nodup {γ : Type*} (g : CatalogNode → γ)
    (hschema : ∀ a b, g (schemaNode a) = g (schemaNode b) → a = b)
    (hrelation : ∀ s a b, g (relationNode s a) = g (relationNode s b) → a.name = b.name)
    (hcolumn : ∀ s r a b, g (columnNode s r a) = g (columnNode s r b) →
      a.ordinalPosition = b.ordinalPosition) (level : CatalogLevel) (namePrefix : Text) :
    ((entries server configuredDatabase level namePrefix).map g).Nodup := by
  cases level with
  | schemas =>
    simp only [entries, List.map_map]
    refine List.Nodup.map_on ?_ (server.schemata_nodup.filter _)
    intro a _ b _ h
    exact hschema a b h
  | relations schema =>
    simp only [entries, List.map_map]
    refine List.Nodup.map_on ?_ (server.tables_nodup.of_map.filter _)
    intro a ha b hb h
    simp only [List.mem_filter, Bool.and_eq_true, beq_iff_eq] at ha hb
    have hsame : a.schema = b.schema := binary_injective (ha.2.1.trans hb.2.1.symm)
    have hname := hrelation schema a b h
    exact List.inj_on_of_nodup_map server.tables_nodup ha.1 hb.1 (by rw [hsame, hname])
  | columns schema relation =>
    simp only [entries, List.map_map]
    refine List.Nodup.map_on ?_ (server.columns_nodup.of_map.filter _)
    intro a ha b hb h
    simp only [List.mem_filter, Bool.and_eq_true, beq_iff_eq] at ha hb
    have hsame : a.schema = b.schema := binary_injective (ha.2.1.1.trans hb.2.1.1.symm)
    have htable : a.table = b.table := binary_injective (ha.2.1.2.trans hb.2.1.2.symm)
    have hordinal := hcolumn schema relation a b h
    exact List.inj_on_of_nodup_map server.columns_nodup ha.1 hb.1
      (by rw [hsame, htable, hordinal])

theorem nodeKey_nodup (level : CatalogLevel) (namePrefix : Text) :
    ((entries server configuredDatabase level namePrefix).map nodeKey).Nodup := by
  apply entries_nodup
  · intro a b h
    exact binary_injective (congrArg Prod.snd (toLex_inj.mp h))
  · intro s a b h
    exact binary_injective (congrArg Prod.snd (toLex_inj.mp h))
  · intro s r a b h
    exact congrArg Prod.fst (toLex_inj.mp h)

theorem identity_nodup (level : CatalogLevel) (namePrefix : Text) :
    ((entries server configuredDatabase level namePrefix).map (·.identity)).Nodup := by
  apply entries_nodup
  · intro a b h
    exact CatalogNodeIdentity.schema.inj h
  · intro s a b h
    exact (CatalogNodeIdentity.relation.inj h).2
  · intro s r a b h
    exact (CatalogNodeIdentity.column.inj h).2.2

variable {server configuredDatabase}

theorem Lists.of_mem_entries {level : CatalogLevel} {namePrefix : Text} {node : CatalogNode}
    (h : node ∈ entries server configuredDatabase level namePrefix) :
    Lists level node.identity := by
  cases level with
  | schemas =>
    obtain ⟨name, -, rfl⟩ := List.mem_map.mp h
    exact True.intro
  | relations schema =>
    obtain ⟨row, -, rfl⟩ := List.mem_map.mp h
    exact rfl
  | columns schema relation =>
    obtain ⟨row, -, rfl⟩ := List.mem_map.mp h
    exact ⟨rfl, rfl⟩

theorem nil_lt_binary {name : Text} (h : name ≠ []) : [] < binary name := by
  cases hname : binary name with
  | nil =>
    have hbytes : bytes name = [] := List.map_eq_nil_iff.mp hname
    exact absurd (bytes_injective hbytes) h
  | cons octet rest => exact List.nil_lt_cons octet rest

/-- Every entry stands behind the start of the first page. -/
theorem start_lt_nodeKey {level : CatalogLevel} {namePrefix : Text} {node : CatalogNode}
    (h : node ∈ entries server configuredDatabase level namePrefix) :
    toLex (0, []) < nodeKey node := by
  cases level with
  | schemas =>
    obtain ⟨name, hname, rfl⟩ := List.mem_map.mp h
    exact Prod.Lex.toLex_lt_toLex.mpr (.inr ⟨rfl, nil_lt_binary
      (server.schemata_ne_nil name (List.mem_of_mem_filter hname))⟩)
  | relations schema =>
    obtain ⟨row, hrow, rfl⟩ := List.mem_map.mp h
    exact Prod.Lex.toLex_lt_toLex.mpr (.inr ⟨rfl, nil_lt_binary
      (server.tables_ne_nil row (List.mem_of_mem_filter hrow))⟩)
  | columns schema relation =>
    obtain ⟨row, hrow, rfl⟩ := List.mem_map.mp h
    exact Prod.Lex.toLex_lt_toLex.mpr (.inl
      (server.columns_pos row (List.mem_of_mem_filter hrow)))

/-- The key a page starts behind. -/
def DecodedToken.startKey (decoded : DecodedToken) : ℕ ×ₗ List ℕ :=
  toLex (decoded.lastOrdinal.getD 0, binary decoded.lastName)

/-- The cursor of a name query; the empty name stands before the first one. -/
theorem behind_eq (node : CatalogNode) (hordinal : node.keyOrdinal = none) (hname : node.name ≠ [])
    (lastName : Text) :
    (lastName.isEmpty || decide (binary lastName < binary node.name)) =
      decide (toLex (0, binary lastName) < nodeKey node) := by
  have hkey : toLex (0, binary lastName) < nodeKey node ↔ binary lastName < binary node.name := by
    simp [nodeKey, hordinal, Prod.Lex.toLex_lt_toLex]
  cases lastName with
  | nil =>
    have hfirst : binary [] < binary node.name := nil_lt_binary hname
    simpa [hkey] using hfirst
  | cons c rest => simp [hkey]

theorem loadSchemas_eq (namePrefix lastName : Text) (serverLimit : Nat) :
    loadSchemas server configuredDatabase namePrefix lastName serverLimit =
      (after nodeKey (toLex (0, binary lastName))
        (sortBy nodeKey (entries server configuredDatabase .schemas namePrefix))).take
          serverLimit := by
  have hnodup := nodeKey_nodup server configuredDatabase .schemas namePrefix
  simp only [entries, List.map_map] at hnodup
  have hkey : ∀ a b, binary a ≤ binary b ↔ nodeKey (schemaNode a) ≤ nodeKey (schemaNode b) :=
    fun a b => (nodeKey_le_iff (a := schemaNode a) (b := schemaNode b) rfl).symm
  refine query_eq hkey ?_ hnodup serverLimit
  intro name hname _
  exact behind_eq (schemaNode name) rfl (server.schemata_ne_nil name hname) lastName

theorem loadRelations_eq (schema namePrefix lastName : Text) (serverLimit : Nat) :
    loadRelations server schema namePrefix lastName serverLimit =
      (after nodeKey (toLex (0, binary lastName))
        (sortBy nodeKey (entries server configuredDatabase (.relations schema) namePrefix))).take
          serverLimit := by
  have hnodup := nodeKey_nodup server configuredDatabase (.relations schema) namePrefix
  simp only [entries, List.map_map] at hnodup
  have hkey : ∀ a b : TableRow, binary a.name ≤ binary b.name ↔
      nodeKey (relationNode schema a) ≤ nodeKey (relationNode schema b) := fun a b =>
    (nodeKey_le_iff (a := relationNode schema a) (b := relationNode schema b) rfl).symm
  refine query_eq hkey ?_ hnodup serverLimit
  intro row hrow _
  exact behind_eq (relationNode schema row) rfl (server.tables_ne_nil row hrow) lastName

theorem loadColumns_eq (schema relation namePrefix : Text) (lastOrdinal : Nat) (lastName : Text)
    (serverLimit : Nat) :
    loadColumns server schema relation namePrefix lastOrdinal lastName serverLimit =
      (after nodeKey (toLex (lastOrdinal, binary lastName)) (sortBy nodeKey
        (entries server configuredDatabase (.columns schema relation) namePrefix))).take
          serverLimit := by
  have hnodup := nodeKey_nodup server configuredDatabase (.columns schema relation) namePrefix
  simp only [entries, List.map_map] at hnodup
  refine query_eq (f := columnNode schema relation) (fun a b => Iff.rfl) ?_ hnodup serverLimit
  intro row _ _
  simp only [nodeKey, CatalogNode.keyOrdinal, columnNode, Option.getD_some,
    Prod.Lex.toLex_lt_toLex]
  grind

/-- **The level queries read the listing.** They return what stands behind the key of the token,
up to the limit. -/
theorem loadNodes_eq (request : CatalogRequest) (decoded : DecodedToken)
    (hordinal : decoded.lastOrdinal.isSome = true → pageLevel request.level = .columns)
    (serverLimit : Nat) :
    loadNodes server configuredDatabase request decoded serverLimit =
      (after nodeKey decoded.startKey
        (listing server configuredDatabase request)).take serverLimit := by
  have hnone : pageLevel request.level ≠ .columns → decoded.lastOrdinal = none := by
    intro hlevel
    cases hsome : decoded.lastOrdinal with
    | none => rfl
    | some ordinal => exact absurd (hordinal (by rw [hsome]; rfl)) hlevel
  unfold loadNodes listing DecodedToken.startKey
  cases hlevel : request.level with
  | schemas =>
    rw [hnone (by rw [hlevel]; decide)]
    exact loadSchemas_eq _ _ serverLimit
  | relations schema =>
    rw [hnone (by rw [hlevel]; simp [pageLevel])]
    exact loadRelations_eq _ _ _ serverLimit
  | columns schema relation => exact loadColumns_eq _ _ _ _ _ serverLimit

variable (server configuredDatabase)

theorem listing_ordered (request : CatalogRequest) :
    Ordered nodeKey (listing server configuredDatabase request) :=
  ordered_sortBy (nodeKey_nodup server configuredDatabase _ _)

theorem listing_identity_nodup (request : CatalogRequest) :
    ((listing server configuredDatabase request).map (·.identity)).Nodup :=
  ((sortBy_perm nodeKey _).map _).nodup_iff.mpr (identity_nodup server configuredDatabase _ _)

theorem listing_lists (request : CatalogRequest) :
    ∀ node ∈ listing server configuredDatabase request, Lists request.level node.identity :=
  fun _ hmem => Lists.of_mem_entries (mem_sortBy.mp hmem)

end listing

end Dbotter.Drivers
