import Dbotter.Drivers.RedisValues
import Dbotter.Text.JsonSize

/-!
The text of the JSON of a reply.

`jsonBytes` is its length and `jsonDepth` its nesting, both read off the reply.
-/

namespace Dbotter.Drivers
open Dbotter.Utf8 Dbotter.Configuration Dbotter.Results Dbotter.Numerals Dbotter.Json

variable {φ : Type} (floats : Floats φ)

def stringBytes (value : Text) : Nat := 2 + (value.map jsonCharBytes).sum

mutual

/-- The length of the JSON text of a reply. -/
def jsonBytes : RespValue φ → Nat
  | .nil => 4
  | .int value => byteLen (intText value)
  | .bulkString value =>
      match decodeUtf8 value with
      | some text => stringBytes text
      | none => 47 + byteLen (Base64.encodeStandard value) + byteLen (natText value.length)
  | .simpleString value => stringBytes value
  | .okay => 4
  | .double value => jsonFloatBytes floats value
  | .boolean value => if value then 4 else 5
  | .array values => 2 + (values.length - 1) + itemsBytes values
  | .set values => 2 + (values.length - 1) + itemsBytes values
  | .map entries => 2 + (entries.length - 1) + entriesBytes entries
  | .attributed data attributes =>
      23 + jsonBytes data + (2 + (attributes.length - 1) + entriesBytes attributes)
  | .verbatimString text => stringBytes text
  | .bigNumber value => 2 + byteLen (intText value)
  | .push data => 23 + (2 + (data.length - 1) + itemsBytes data)
  | .serverError => stringBytes "[redis-server-error]".toList
  | .unsupported => stringBytes "[unsupported-resp-value]".toList

def itemsBytes : List (RespValue φ) → Nat
  | [] => 0
  | value :: values => jsonBytes value + itemsBytes values

def entriesBytes : List (RespValue φ × RespValue φ) → Nat
  | [] => 0
  | (key, value) :: entries => 17 + jsonBytes key + jsonBytes value + entriesBytes entries

end

mutual

/-- How deep the containers of the JSON nest that are not empty. A map is an array of objects,
and bytes that are no text are an object. -/
def jsonDepth : RespValue φ → Nat
  | .bulkString value => if (decodeUtf8 value).isSome then 0 else 1
  | .array values => if values.isEmpty then 0 else itemsDepth values + 1
  | .set values => if values.isEmpty then 0 else itemsDepth values + 1
  | .map entries => if entries.isEmpty then 0 else entriesDepth entries + 1
  | .attributed data attributes =>
      max (jsonDepth data) (if attributes.isEmpty then 0 else entriesDepth attributes + 1) + 1
  | .push data => (if data.isEmpty then 0 else itemsDepth data + 1) + 1
  | _ => 0

def itemsDepth : List (RespValue φ) → Nat
  | [] => 0
  | value :: values => max (jsonDepth value) (itemsDepth values)

def entriesDepth : List (RespValue φ × RespValue φ) → Nat
  | [] => 0
  | (key, value) :: entries =>
      max (max (jsonDepth key) (jsonDepth value) + 1) (entriesDepth entries)

end

/-! ## Strings and numbers -/

theorem byteLen_of_ascii {s : Text} (h : ∀ c ∈ s, isAscii c) : byteLen s = s.length := by
  induction s with
  | nil => rfl
  | cons c s ih =>
      have hs := ih fun d hd => h d (List.mem_cons_of_mem c hd)
      rw [byteLen_cons, ascii_utf8Size (h c List.mem_cons_self), hs, List.length_cons]
      omega

/-- What is decoded is spelled by the bytes. -/
theorem bytes_of_decodeUtf8 {value : List UInt8} {text : Text} (h : decodeUtf8 value = some text) :
    bytes text = value := by
  obtain ⟨chars, hchars, rfl⟩ := Option.map_eq_some_iff.mp h
  have hget := ByteArray.utf8Encode_get_utf8Decode? (h := Option.isSome_of_eq_some hchars)
  simp only [hchars, Option.get_some] at hget
  have hencode : ByteArray.mk (bytes chars.toList).toArray = chars.toList.utf8Encode := by
    rw [List.utf8Encode, bytes, ← List.data_toByteArray]
  simpa using congrArg (fun b => b.data.toList) (hencode.trans hget)

theorem byteLen_escapeChar (c : Char) : byteLen (escapeChar c) = jsonCharBytes c := by
  have hshort : ∀ d ∈ ['"', '\\', '\x08', '\x0c', '\n', '\r', '\t'],
      byteLen (escapeChar d) = jsonCharBytes d := forall_mem_of_all (by decide +kernel)
  by_cases hc : c ∈ ['"', '\\', '\x08', '\x0c', '\n', '\r', '\t']
  · exact hshort c hc
  · simp only [List.mem_cons, List.not_mem_nil, or_false, not_or] at hc
    obtain ⟨h1, h2, h3, h4, h5, h6, h7⟩ := hc
    have hbytes : jsonCharBytes c = if c.toNat ≤ 0x1f then 6 else c.utf8Size := by
      clear hshort
      unfold jsonCharBytes
      split <;> first | rfl | contradiction
    rw [hbytes, escapeChar, if_neg (by simpa using h1), if_neg (by simpa using h2),
      if_neg (by simpa using h3), if_neg (by simpa using h4), if_neg (by simpa using h5),
      if_neg (by simpa using h6), if_neg (by simpa using h7)]
    by_cases hcontrol : c.toNat < 32
    · have hhex : ∀ n < 32,
          byteLen ['\\', 'u', '0', '0', hexDigit (n / 16), hexDigit (n % 16)] = 6 := by
        decide +kernel
      rw [if_pos hcontrol, if_pos (by omega), hhex _ hcontrol]
    · rw [if_neg hcontrol, if_neg (by omega), byteLen_cons, byteLen_nil, Nat.add_zero]

theorem byteLen_print_string_eq (value : Text) :
    byteLen (print (.string value)) = stringBytes value := by
  rw [byteLen_print_string, stringBytes]
  simp only [byteLen_escapeChar]

theorem isAscii_of_isDigit {c : Char} (h : c.isDigit = true) : isAscii c := by
  simp only [Char.isDigit, Bool.and_eq_true, decide_eq_true_eq] at h
  have hle : c.toNat ≤ 57 := h.2
  exact decide_eq_true (by omega)

theorem byteLen_natText (n : Nat) : byteLen (natText n) = (natText n).length :=
  byteLen_of_ascii fun _ hc => isAscii_of_isDigit (isDigit_of_mem_natText hc)

theorem decimalDigitsFrom_eq {value : Nat} (hpos : 0 < value) (digits : Nat) :
    decimalDigitsFrom value digits = digits + (natText value).length := by
  induction value using Nat.strong_induction_on generalizing digits with
  | _ value ih =>
      rw [decimalDigitsFrom, if_neg (by omega)]
      by_cases hlt : value < 10
      · rw [Nat.div_eq_of_lt hlt, decimalDigitsFrom, if_pos rfl, natText,
          Nat.toDigits_of_lt_base hlt]
        rfl
      · have hsplit : (natText value).length = (natText (value / 10)).length + 1 := by
          rw [natText, Nat.toDigits_of_base_le (by decide) (by omega), List.length_append]
          rfl
        rw [ih (value / 10) (by omega) (by omega), hsplit]
        omega

theorem decimalDigits_eq (value : Nat) : decimalDigits value = byteLen (natText value) := by
  unfold decimalDigits
  by_cases hzero : value = 0
  · subst hzero
    rfl
  · rw [if_neg hzero, decimalDigitsFrom_eq (by omega), byteLen_natText, Nat.zero_add]

theorem byteLen_intText (value : Int) : byteLen (intText value) =
    (if value < 0 then 1 else 0) + byteLen (natText value.natAbs) := by
  have hsign : ('-').utf8Size = 1 := by decide
  cases value with
  | ofNat n =>
      rw [if_neg (by simp), Nat.zero_add]
      rfl
  | negSucc n =>
      rw [intText, byteLen_cons, hsign, if_pos (Int.negSucc_lt_zero n)]
      rfl

theorem signedDecimalDigits_eq (value : Int) :
    signedDecimalDigits value = byteLen (intText value) := by
  unfold signedDecimalDigits
  by_cases hzero : value.natAbs = 0
  · rw [if_pos hzero, Int.natAbs_eq_zero.mp hzero]
    rfl
  · rw [if_neg hzero, decimalDigitsFrom_eq (by omega), byteLen_intText, byteLen_natText]

theorem length_encode (value : List UInt8) : (Base64.encode value).length +
    (3 - value.length % 3) % 3 = (value.length + 2) / 3 * 4 := by
  induction value using Base64.encode.induct with
  | case1 => rfl
  | case2 a => simp [Base64.encode]
  | case3 a b => simp [Base64.encode]
  | case4 a b c rest ih =>
      simp only [Base64.encode, List.length_cons]
      omega

theorem byteLen_encodeStandard (value : List UInt8) :
    byteLen (Base64.encodeStandard value) = (value.length + 2) / 3 * 4 := by
  have hdigit : ∀ c ∈ Base64.alphabet, isAscii (Base64.standardDigit c) :=
    forall_mem_of_all (by decide +kernel)
  rw [byteLen_of_ascii, Base64.encodeStandard, List.length_append, List.length_map,
    List.length_replicate, length_encode]
  intro c hc
  rcases List.mem_append.mp hc with hc | hc
  · obtain ⟨d, hd, rfl⟩ := List.mem_map.mp hc
    exact hdigit d (Base64.mem_alphabet_of_mem_encode hd)
  · rw [List.eq_of_mem_replicate hc]
    decide

/-- So many bits are at most so many decimal digits. -/
theorem lt_ten_pow {bits value : Nat} (h : value < 2 ^ bits) :
    value < 10 ^ ((bits * 30103 + 99999) / 100000) := by
  have hbase : 2 ^ 100000 ≤ 10 ^ 30103 := by decide +kernel
  have hscaled : 30103 * bits ≤ 100000 * ((bits * 30103 + 99999) / 100000) := by omega
  refine h.trans_le ((Nat.pow_le_pow_iff_left (n := 100000) (by decide)).mp ?_)
  calc (2 ^ bits) ^ 100000 = (2 ^ 100000) ^ bits := pow_right_comm 2 bits 100000
    _ ≤ (10 ^ 30103) ^ bits := Nat.pow_le_pow_left hbase bits
    _ = 10 ^ (30103 * bits) := (pow_mul 10 30103 bits).symm
    _ ≤ 10 ^ (100000 * ((bits * 30103 + 99999) / 100000)) :=
        Nat.pow_le_pow_right (by decide) hscaled
    _ = (10 ^ ((bits * 30103 + 99999) / 100000)) ^ 100000 := by
        rw [← pow_mul, Nat.mul_comm]

/-! ## The length of the JSON -/

theorem jsonText_array (values : List (Value (Number φ))) :
    byteLen (jsonText floats (.array values)) =
      2 + (values.length - 1) + (values.map fun v => byteLen (jsonText floats v)).sum := by
  rw [jsonText, Value.map, byteLen_print_array, Value.mapItems_eq, List.length_map, List.map_map]
  rfl

theorem jsonText_object (fields : List (Text × Value (Number φ))) :
    byteLen (jsonText floats (.object fields)) = 2 + (fields.length - 1) +
      (fields.map fun f => stringBytes f.1 + 1 + byteLen (jsonText floats f.2)).sum := by
  rw [jsonText, Value.map, byteLen_print_object, Value.mapFields_eq, List.length_map, List.map_map]
  simp only [Function.comp_def, byteLen_print_string_eq]
  rfl

theorem jsonText_string (value : Text) :
    byteLen (jsonText floats (.string value)) = stringBytes value := by
  rw [jsonText, Value.map, byteLen_print_string_eq]

theorem jsonText_number (number : Number φ) :
    byteLen (jsonText floats (.number number)) = byteLen (number.toText floats) := by
  rw [jsonText, Value.map, byteLen_print_number]

theorem jsonText_bool (value : Bool) :
    byteLen (jsonText floats (.bool value)) = if value then 4 else 5 := by
  cases value <;> rfl

theorem toText_numberOfInt (value : Int) : (numberOfInt value).toText floats = intText value := by
  unfold numberOfInt
  split
  · rfl
  · next hneg =>
    obtain ⟨n, rfl⟩ := Int.eq_ofNat_of_zero_le (not_lt.mp hneg)
    rfl

theorem jsonText_float (value : F64 φ) :
    byteLen (jsonText floats (cellJson (.float value))) = jsonFloatBytes floats value := by
  unfold cellJson jsonFloatBytes
  cases value with
  | finite x => exact jsonText_number floats _
  | _ => rfl

/-- A text without escapes is quoted as it stands. -/
theorem stringBytes_plain {value : Text} (h : ∀ c ∈ value, jsonCharBytes c = c.utf8Size) :
    stringBytes value = 2 + byteLen value := by
  have hsum : (value.map jsonCharBytes).sum = byteLen value := by
    induction value with
    | nil => rfl
    | cons c value ih =>
        rw [List.map_cons, List.sum_cons, ih fun d hd => h d (List.mem_cons_of_mem c hd),
          h c List.mem_cons_self, byteLen_cons]
  rw [stringBytes, hsum]

theorem jsonCharBytes_digit {c : Char} (h : c.isDigit = true) : jsonCharBytes c = c.utf8Size := by
  have hcontrol : ¬ c.toNat ≤ 0x1f := by
    simp only [Char.isDigit, Bool.and_eq_true, decide_eq_true_eq] at h
    have hge : 48 ≤ c.toNat := h.1
    omega
  unfold jsonCharBytes
  split <;> first | exact if_neg hcontrol | exact absurd h (by decide)

theorem stringBytes_intText (value : Int) :
    stringBytes (intText value) = 2 + byteLen (intText value) := by
  have hsign : jsonCharBytes '-' = ('-').utf8Size := by decide
  have hdigits : ∀ n, ∀ c ∈ natText n, jsonCharBytes c = c.utf8Size :=
    fun n c hc => jsonCharBytes_digit (isDigit_of_mem_natText hc)
  refine stringBytes_plain fun c hc => ?_
  cases value with
  | ofNat n => exact hdigits n c hc
  | negSucc n =>
      rcases List.mem_cons.mp hc with rfl | hc
      · exact hsign
      · exact hdigits _ c hc

theorem stringBytes_encodeStandard (value : List UInt8) :
    stringBytes (Base64.encodeStandard value) = 2 + byteLen (Base64.encodeStandard value) := by
  have hdigit : ∀ c ∈ Base64.alphabet, jsonCharBytes (Base64.standardDigit c) =
      (Base64.standardDigit c).utf8Size := forall_mem_of_all (by decide +kernel)
  refine stringBytes_plain fun c hc => ?_
  rcases List.mem_append.mp hc with hc | hc
  · obtain ⟨d, hd, rfl⟩ := List.mem_map.mp hc
    exact hdigit d (Base64.mem_alphabet_of_mem_encode hd)
  · rw [List.eq_of_mem_replicate hc]
    decide

theorem jsonText_bytes (value : List UInt8) :
    byteLen (jsonText floats (cellJson (bytesCell value))) =
      47 + byteLen (Base64.encodeStandard value) + byteLen (natText value.length) := by
  have hkeys : stringBytes "base64".toList = 8 ∧ stringBytes "original_len".toList = 14 ∧
      stringBytes "truncated".toList = 11 := by decide +kernel
  rw [bytesCell, cellJson, jsonText_object]
  simp only [List.map_cons, List.map_nil, List.sum_cons, List.sum_nil, List.length_cons,
    List.length_nil, jsonText_string, jsonText_number, jsonText_bool, hkeys,
    stringBytes_encodeStandard, Number.toText, Nat.lt_irrefl, decide_false, Bool.false_eq_true,
    if_false]
  omega

theorem length_valuesJson (values : List (RespValue φ)) :
    (valuesJsonComplete values).length = values.length := by
  induction values with
  | nil => rfl
  | cons value values ih => rw [valuesJsonComplete, List.length_cons, ih, List.length_cons]

theorem length_entriesJson (entries : List (RespValue φ × RespValue φ)) :
    (entriesJsonComplete entries).length = entries.length := by
  induction entries with
  | nil => rfl
  | cons entry entries ih =>
      obtain ⟨key, value⟩ := entry
      rw [entriesJsonComplete, List.length_cons, ih, List.length_cons]

mutual

theorem jsonText_value : ∀ value : RespValue φ,
    byteLen (jsonText floats (cellJson (valueCellComplete value))) = jsonBytes floats value
  | .nil => rfl
  | .int value => by
      rw [valueCellComplete, cellJson, jsonText_number, toText_numberOfInt, jsonBytes]
  | .bulkString value => by
      rw [valueCellComplete, jsonBytes]
      cases decodeUtf8 value with
      | some text => exact jsonText_string floats text
      | none => exact jsonText_bytes floats value
  | .array values => by
      rw [valueCellComplete, cellJson, jsonText_array, jsonBytes, jsonText_values values,
        length_valuesJson]
  | .simpleString value => jsonText_string floats value
  | .okay => rfl
  | .map entries => by
      rw [valueCellComplete, cellJson, jsonText_array, jsonBytes, jsonText_entries entries,
        length_entriesJson]
  | .attributed data attributes => by
      have hdata := jsonText_value data
      have hentries := jsonText_entries attributes
      have hkeys : stringBytes "data".toList = 6 ∧ stringBytes "attributes".toList = 12 := by
        decide +kernel
      rw [valueCellComplete, cellJson, jsonText_object, jsonBytes]
      simp only [List.map_cons, List.map_nil, List.sum_cons, List.sum_nil, List.length_cons,
        List.length_nil, jsonText_array, length_entriesJson, hkeys, hdata, hentries]
      omega
  | .set values => by
      rw [valueCellComplete, cellJson, jsonText_array, jsonBytes, jsonText_values values,
        length_valuesJson]
  | .double value => jsonText_float floats value
  | .boolean value => jsonText_bool floats value
  | .verbatimString text => jsonText_string floats text
  | .bigNumber value => by
      rw [valueCellComplete, cellJson, jsonText_string, stringBytes_intText, jsonBytes]
  | .push data => by
      have hdata := jsonText_values data
      have hkeys : stringBytes "type".toList = 6 ∧ stringBytes "push".toList = 6 ∧
          stringBytes "data".toList = 6 := by decide +kernel
      rw [valueCellComplete, cellJson, jsonText_object, jsonBytes]
      simp only [List.map_cons, List.map_nil, List.sum_cons, List.sum_nil, List.length_cons,
        List.length_nil, jsonText_array, jsonText_string, length_valuesJson, hkeys, hdata]
      omega
  | .serverError => jsonText_string floats _
  | .unsupported => jsonText_string floats _

theorem jsonText_values : ∀ values : List (RespValue φ),
    ((valuesJsonComplete values).map fun v => byteLen (jsonText floats v)).sum =
      itemsBytes floats values
  | [] => rfl
  | value :: values => by
      rw [valuesJsonComplete, List.map_cons, List.sum_cons, jsonText_value value,
        jsonText_values values, itemsBytes]

theorem jsonText_entries : ∀ entries : List (RespValue φ × RespValue φ),
    ((entriesJsonComplete entries).map fun v => byteLen (jsonText floats v)).sum =
      entriesBytes floats entries
  | [] => rfl
  | (key, value) :: entries => by
      have hkeys : stringBytes "key".toList = 5 ∧ stringBytes "value".toList = 7 := by decide +kernel
      rw [entriesJsonComplete, List.map_cons, List.sum_cons, jsonText_object, jsonText_entries entries,
        entriesBytes]
      simp only [List.map_cons, List.map_nil, List.sum_cons, List.sum_nil, List.length_cons,
        List.length_nil, jsonText_value key, jsonText_value value, hkeys]
      omega

end

/-! ## The nesting of the JSON -/

mutual

theorem nesting_value : ∀ value : RespValue φ,
    (cellJson (valueCellComplete value)).nesting = jsonDepth value
  | .nil => rfl
  | .int _ => rfl
  | .bulkString value => by
      rw [valueCellComplete, jsonDepth]
      cases decodeUtf8 value <;> rfl
  | .array values => nesting_container values
  | .simpleString _ => rfl
  | .okay => rfl
  | .map entries => nesting_map entries
  | .attributed data attributes => by
      have hdata := nesting_value data
      have hattributes := nesting_map attributes
      rw [valueCellComplete, cellJson, Value.nesting, Value.nestingFields, Value.nestingFields,
        Value.nestingFields, hdata, hattributes, jsonDepth]
      simp [Nat.max_comm]
  | .set values => nesting_container values
  | .double value => by cases value <;> rfl
  | .boolean _ => rfl
  | .verbatimString _ => rfl
  | .bigNumber _ => rfl
  | .push data => by
      have hdata := nesting_container data
      rw [valueCellComplete, cellJson, Value.nesting, Value.nestingFields, Value.nestingFields,
        Value.nestingFields, hdata, jsonDepth, Value.nesting]
      · simp
      · nofun
      · nofun
  | .serverError => rfl
  | .unsupported => rfl

theorem nesting_container : ∀ values : List (RespValue φ),
    (Value.array (valuesJsonComplete values)).nesting =
      if values.isEmpty then 0 else itemsDepth values + 1
  | [] => rfl
  | value :: values => by
      rw [Value.nesting, nesting_values (value :: values)]
      rfl

theorem nesting_map : ∀ entries : List (RespValue φ × RespValue φ),
    (Value.array (entriesJsonComplete entries)).nesting =
      if entries.isEmpty then 0 else entriesDepth entries + 1
  | [] => rfl
  | entry :: entries => by
      rw [Value.nesting, nesting_entries (entry :: entries)]
      rfl

theorem nesting_values : ∀ values : List (RespValue φ),
    Value.nestingItems (valuesJsonComplete values) = itemsDepth values
  | [] => rfl
  | value :: values => by
      rw [valuesJsonComplete, Value.nestingItems, nesting_value value, nesting_values values,
        itemsDepth]

theorem nesting_entries : ∀ entries : List (RespValue φ × RespValue φ),
    Value.nestingItems (entriesJsonComplete entries) = entriesDepth entries
  | [] => rfl
  | (key, value) :: entries => by
      rw [entriesJsonComplete, Value.nestingItems, nesting_entries entries, Value.nesting,
        Value.nestingFields, Value.nestingFields, Value.nestingFields, nesting_value key,
        nesting_value value, entriesDepth]
      simp

end

end Dbotter.Drivers
