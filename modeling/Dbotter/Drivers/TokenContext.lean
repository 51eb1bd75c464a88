import Dbotter.Drivers.PageTokens

/-!
The connection that a signing key of catalog tokens is bound to, from
`src/drivers/mysql_catalog.rs`.

The fields of the connection are hashed one after another. Each stands behind its tag and its
length, so what is hashed determines the connection.
-/

namespace Dbotter.Drivers
open Dbotter.Utf8 Dbotter.Configuration Dbotter.Service Dbotter.Codes

/-! ## The hashed bytes -/

/-- The arguments of `from_connection_fields`. A path is the bytes that the system gives it. -/
structure ConnectionFields where
  driver : DriverKind
  host : Text
  port : UInt16
  database : Option Text
  username : Option Text
  tls : TlsMode
  credentialMode : CredentialMode
  secretEnv : Option Text
  redisCaFile : Option (List UInt8)
  deriving DecidableEq, Repr

def updateContextField (tag : UInt8) (value : List UInt8) : List UInt8 :=
  [tag] ++ (toBeBytes value.length ++ value)

def updateOptionalContextField (tag : UInt8) : Option (List UInt8) → List UInt8
  | some value => [tag, 1] ++ (toBeBytes value.length ++ value)
  | none => [tag, 0]

def driverContextTag : DriverKind → UInt8
  | .mySql => 1
  | .redis => 2
  | .mongoDb => 3

def tlsContextTag : TlsMode → UInt8
  | .disabled => 1
  | .preferred => 2
  | .required => 3

def credentialModeContextTag : CredentialMode → UInt8
  | .none => 1
  | .session => 2
  | .environment => 3

/-- `u16::to_be_bytes`. -/
def portBytes (port : UInt16) : List UInt8 :=
  [UInt8.ofNat (port.toNat / 256), UInt8.ofNat port.toNat]

/-- What `from_connection_fields` feeds to the digest. -/
def contextPreimage (fields : ConnectionFields) : List UInt8 :=
  domain "dbotter:mysql-catalog-connection:v1" ++
    (updateContextField 1 [driverContextTag fields.driver] ++
    (updateContextField 2 (bytes fields.host) ++
    (updateContextField 3 (portBytes fields.port) ++
    (updateOptionalContextField 4 (fields.database.map bytes) ++
    (updateOptionalContextField 5 (fields.username.map bytes) ++
    (updateContextField 6 [tlsContextTag fields.tls] ++
    (updateContextField 7 [credentialModeContextTag fields.credentialMode] ++
    (updateOptionalContextField 8 (fields.secretEnv.map bytes) ++
    updateOptionalContextField 9 fields.redisCaFile))))))))

/-! ## Each field can be read back -/

theorem prefixFree_lengthPrefixed : PrefixFree (fun value : List UInt8 => value.length < 2 ^ 64)
    fun value => toBeBytes value.length ++ value :=
  prefixFree_toBeBytes.lengthPrefixed

theorem prefixFree_updateContextField (tag : UInt8) :
    PrefixFree (fun value : List UInt8 => value.length < 2 ^ 64) (updateContextField tag) :=
  prefixFree_lengthPrefixed.header [tag]

theorem prefixFree_updateOptionalContextField (tag : UInt8) :
    PrefixFree (fun o : Option (List UInt8) => ∀ value, o = some value → value.length < 2 ^ 64)
      (updateOptionalContextField tag) := by
  intro a b s t ha hb h
  have hfield : PrefixFree _ fun o => (updateOptionalContextField tag o).tail :=
    prefixFree_lengthPrefixed.option (show (1 : UInt8) ≠ 0 by decide) (fun _ => rfl) rfl
  have hcons : ∀ o, updateOptionalContextField tag o =
      tag :: (updateOptionalContextField tag o).tail := by
    intro o
    cases o <;> rfl
  rw [hcons a, hcons b] at h
  exact hfield ha hb (List.tail_eq_of_cons_eq h)

theorem driverContextTag_injective : Function.Injective driverContextTag := by
  intro a b h
  cases a <;> cases b <;> first | rfl | exact absurd h (by decide)

theorem tlsContextTag_injective : Function.Injective tlsContextTag := by
  intro a b h
  cases a <;> cases b <;> first | rfl | exact absurd h (by decide)

theorem credentialModeContextTag_injective : Function.Injective credentialModeContextTag := by
  intro a b h
  cases a <;> cases b <;> first | rfl | exact absurd h (by decide)

theorem portBytes_injective : Function.Injective portBytes := by
  intro a b h
  simp only [portBytes, List.cons.injEq, and_true, ← UInt8.toNat_inj, UInt8.toNat_ofNat'] at h
  have ha := a.toNat_lt
  have hb := b.toNat_lt
  exact UInt16.toNat_inj.mp (by omega)

/-! ## The connection is determined -/

/-- The texts of the connection are as long as strings of the program can be. -/
structure ConnectionFields.Addressable (fields : ConnectionFields) : Prop where
  host : byteLen fields.host ≤ usizeMax
  database : ∀ value, fields.database = some value → byteLen value ≤ usizeMax
  username : ∀ value, fields.username = some value → byteLen value ≤ usizeMax
  secretEnv : ∀ value, fields.secretEnv = some value → byteLen value ≤ usizeMax
  redisCaFile : ∀ value, fields.redisCaFile = some value → value.length ≤ usizeMax

theorem lt_of_le_usizeMax {n : Nat} (h : n ≤ usizeMax) : n < 2 ^ 64 :=
  Nat.lt_of_le_pred (by decide) h

theorem addressable_bytes {o : Option Text} (h : ∀ value, o = some value → byteLen value ≤ usizeMax) :
    ∀ value, o.map bytes = some value → value.length < 2 ^ 64 := by
  intro value hvalue
  obtain ⟨text, htext, rfl⟩ := Option.map_eq_some_iff.mp hvalue
  rw [bytes_length]
  exact lt_of_le_usizeMax (h text htext)

theorem contextPreimage_inj {a b : ConnectionFields} (ha : a.Addressable) (hb : b.Addressable)
    (h : contextPreimage a = contextPreimage b) : a = b := by
  have hsingle : ∀ tag : UInt8, [tag].length < 2 ^ 64 := fun _ => show 1 < 2 ^ 64 by decide
  have hport : ∀ port, (portBytes port).length < 2 ^ 64 := fun _ => show 2 < 2 ^ 64 by decide
  have hhost : ∀ {fields : ConnectionFields}, fields.Addressable →
      (bytes fields.host).length < 2 ^ 64 := by
    intro fields hfields
    rw [bytes_length]
    exact lt_of_le_usizeMax hfields.host
  replace h := List.append_cancel_left h
  obtain ⟨hdriver, h⟩ := prefixFree_updateContextField 1 (hsingle _) (hsingle _) h
  obtain ⟨hhost, h⟩ := prefixFree_updateContextField 2 (hhost ha) (hhost hb) h
  obtain ⟨hport, h⟩ := prefixFree_updateContextField 3 (hport _) (hport _) h
  obtain ⟨hdatabase, h⟩ := prefixFree_updateOptionalContextField 4 (addressable_bytes ha.database)
    (addressable_bytes hb.database) h
  obtain ⟨husername, h⟩ := prefixFree_updateOptionalContextField 5 (addressable_bytes ha.username)
    (addressable_bytes hb.username) h
  obtain ⟨htls, h⟩ := prefixFree_updateContextField 6 (hsingle _) (hsingle _) h
  obtain ⟨hmode, h⟩ := prefixFree_updateContextField 7 (hsingle _) (hsingle _) h
  obtain ⟨henv, h⟩ := prefixFree_updateOptionalContextField 8 (addressable_bytes ha.secretEnv)
    (addressable_bytes hb.secretEnv) h
  have hca := (prefixFree_updateOptionalContextField 9).inj
    (fun value hvalue => lt_of_le_usizeMax (ha.redisCaFile value hvalue))
    (fun value hvalue => lt_of_le_usizeMax (hb.redisCaFile value hvalue)) h
  have htexts : Function.Injective (Option.map bytes) := Option.map_injective bytes_injective
  cases a
  cases b
  congr
  · exact driverContextTag_injective (List.head_eq_of_cons_eq hdriver)
  · exact bytes_injective hhost
  · exact portBytes_injective hport
  · exact htexts hdatabase
  · exact htexts husername
  · exact tlsContextTag_injective (List.head_eq_of_cons_eq htls)
  · exact credentialModeContextTag_injective (List.head_eq_of_cons_eq hmode)
  · exact htexts henv

/-- Nothing that is hashed stands for two connections, two listings, two profiles or two
filters. -/
theorem token_preimages_injective :
    (∀ a b : ConnectionFields, a.Addressable → b.Addressable →
      (contextPreimage a = contextPreimage b ↔ a = b)) ∧
    (∀ a b : CatalogRequest, Addressable a.level → Addressable b.level →
      (parentPreimage a.level = parentPreimage b.level ↔ a.level = b.level)) ∧
    (∀ a b : CatalogRequest,
      profilePreimage a.identity.profileId = profilePreimage b.identity.profileId ↔
        a.identity.profileId = b.identity.profileId) ∧
    ∀ a b : CatalogRequest,
      prefixPreimage a.namePrefix = prefixPreimage b.namePrefix ↔ a.namePrefix = b.namePrefix :=
  ⟨fun _ _ ha hb => ⟨contextPreimage_inj ha hb, congrArg _⟩,
    fun _ _ ha hb => ⟨parentPreimage_inj ha hb, congrArg _⟩,
    fun _ _ => profilePreimage_injective.eq_iff,
    fun _ _ => prefixPreimage_injective.eq_iff⟩

/-- A connection without a database, and the one with an empty database. -/
def localFields (database : Option Text) : ConnectionFields where
  driver := .mySql
  host := "127.0.0.1".toList
  port := 3306
  database
  username := some "root".toList
  tls := .disabled
  credentialMode := .session
  secretEnv := none
  redisCaFile := none

theorem localFields_addressable {database : Option Text}
    (h : ∀ value, database = some value → byteLen value ≤ usizeMax) :
    (localFields database).Addressable where
  host := show byteLen "127.0.0.1".toList ≤ usizeMax by decide
  database := h
  username := by rintro _ ⟨⟩; decide
  secretEnv := nofun
  redisCaFile := nofun

theorem token_preimages_injective_empty :
    contextPreimage (localFields none) ≠ contextPreimage (localFields (some [])) := by
  have hnone : (localFields none).Addressable := localFields_addressable nofun
  have hempty : (localFields (some [])).Addressable :=
    localFields_addressable (by rintro _ ⟨⟩; decide)
  exact fun h => absurd ((token_preimages_injective.1 _ _ hnone hempty).mp h) (by decide)

end Dbotter.Drivers
