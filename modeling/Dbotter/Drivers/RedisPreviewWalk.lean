import Dbotter.Drivers.RedisMeasure
import Dbotter.Drivers.RedisPreview
import Dbotter.Results.RetainedCells

/-!
The JSON of a preview shows the strings that it is made of.

A string that is cut behind its allowance leaves a mark or a long JSON: what the walk has
retained is at most as long as the JSON that it has made.
-/

namespace Dbotter.Drivers
open Dbotter.Utf8 Dbotter.Configuration Dbotter.Results

variable {φ : Type} (floats : Floats φ)

/-! ## Slices -/

/-- The longest text of at most so many bytes that ends at a character boundary. -/
def utf8Prefix (value : Text) (maximum : Nat) : Text :=
  (sliceTo value (utf8PrefixLen value maximum)).getD []

theorem sliceTo_utf8PrefixLen (value : Text) (maximum : Nat) :
    sliceTo value (utf8PrefixLen value maximum) = some (utf8Prefix value maximum) := by
  obtain ⟨p, hp⟩ := Option.isSome_iff_exists.mp
    (isSome_boundaryAtMost value (min (byteLen value) maximum))
  rw [utf8Prefix, utf8PrefixLen, hp, Option.getD_some]

theorem byteLen_utf8Prefix (value : Text) (maximum : Nat) :
    byteLen (utf8Prefix value maximum) = utf8PrefixLen value maximum :=
  byteLen_sliceTo (sliceTo_utf8PrefixLen value maximum)

theorem utf8PrefixLen_le (value : Text) (maximum : Nat) :
    utf8PrefixLen value maximum ≤ byteLen value ∧ utf8PrefixLen value maximum ≤ maximum := by
  have hle := boundaryAtMost_le value (min (byteLen value) maximum)
  unfold utf8PrefixLen
  omega

theorem utf8PrefixLen_of_le {value : Text} {maximum : Nat} (h : byteLen value ≤ maximum) :
    utf8PrefixLen value maximum = byteLen value := by
  rw [utf8PrefixLen, Nat.min_eq_left h]
  cases hlen : byteLen value with
  | zero => rfl
  | succ n =>
      have hself := sliceTo_byteLen value
      rw [hlen] at hself
      rw [boundaryAtMost, hself]
      rfl

theorem utf8Prefix_eq_of_len {value : Text} {maximum : Nat}
    (h : ¬ utf8PrefixLen value maximum < byteLen value) : utf8Prefix value maximum = value := by
  have hle := (utf8PrefixLen_le value maximum).1
  have hlen : utf8PrefixLen value maximum = byteLen value := by omega
  rw [utf8Prefix, hlen, sliceTo_byteLen, Option.getD_some]

theorem sliceBytesTo_min (bytes : List UInt8) (n : Nat) :
    sliceBytesTo bytes (min bytes.length n) = some (bytes.take n) := by
  rw [sliceBytesTo, if_pos (Nat.min_le_left _ _)]
  rcases Nat.le_total bytes.length n with hle | hle
  · rw [Nat.min_eq_left hle, List.take_length, List.take_of_length_le hle]
  · rw [Nat.min_eq_right hle]

/-! ## The JSON of a string -/

/-- The JSON shows these bytes, as a text or as base64. -/
def HoldsBytes (bytes : List UInt8) (json : Json.Value (Number φ)) : Prop :=
  ∃ fields, json = .object fields ∧
    ((∃ text, ("text".toList, .string text) ∈ fields ∧ Utf8.bytes text = bytes) ∨
      ∃ encoded, ("base64".toList, .string encoded) ∈ fields ∧
        Base64.decodeStandard encoded = some bytes)

/-- The bytes fit in the allowance: base64 makes four characters of three bytes. -/
def FitsAllowance (bytes : List UInt8) (allowance : Nat) : Prop :=
  if (decodeUtf8 bytes).isSome then bytes.length ≤ allowance
  else bytes.length ≤ allowance / 4 * 3

theorem byteLen_le_stringBytes (value : Text) : byteLen value ≤ stringBytes value := by
  have hchar : ∀ c : Char, c.utf8Size ≤ jsonCharBytes c := by
    intro c
    have hsize := c.utf8Size_le_four
    unfold jsonCharBytes
    split
    all_goals try decide
    split <;> omega
  have hsum : byteLen value ≤ (value.map jsonCharBytes).sum := by
    induction value with
    | nil => exact le_rfl
    | cons c value ih =>
        have hc := hchar c
        rw [byteLen_cons, List.map_cons, List.sum_cons]
        omega
  rw [stringBytes]
  omega

/-- What the JSON of a string is, in the two cases. -/
theorem binaryJson_text {bytes : List UInt8} {value : Text} (h : decodeUtf8 bytes = some value)
    (allowance : Nat) :
    (binaryJson bytes allowance : Option (Json.Value (Number φ))) = some (.object
      [("original_len".toList, .number (.posInt bytes.length)),
        ("text".toList, .string (utf8Prefix value allowance)),
        ("truncated".toList, .bool (byteLen (utf8Prefix value allowance) < bytes.length))]) := by
  rw [binaryJson, h]
  dsimp only
  rw [sliceTo_utf8PrefixLen]
  rfl

theorem binaryJson_base64 {bytes : List UInt8} (h : decodeUtf8 bytes = none) (allowance : Nat) :
    (binaryJson bytes allowance : Option (Json.Value (Number φ))) = some (.object
      [("base64".toList, .string (Base64.encodeStandard (bytes.take (allowance / 4 * 3)))),
        ("original_len".toList, .number (.posInt bytes.length)),
        ("truncated".toList, .bool ((bytes.take (allowance / 4 * 3)).length < bytes.length))]) := by
  rw [binaryJson, h]
  dsimp only
  rw [sliceBytesTo_min]
  rfl

theorem byteLen_of_decodeUtf8 {bytes : List UInt8} {value : Text}
    (h : decodeUtf8 bytes = some value) : byteLen value = bytes.length := by
  rw [← bytes_length, bytes_of_decodeUtf8 h]

/-- The JSON of a string shows all of it exactly if the string fits; its length is at least that of
what it shows. -/
theorem binaryJson_spec (bytes : List UInt8) (allowance : Nat) :
    ∃ json : Json.Value (Number φ), binaryJson bytes allowance = some json ∧
      (HoldsBytes bytes json ↔ FitsAllowance bytes allowance) ∧
      (FitsAllowance bytes allowance → bytes.length ≤ byteLen (jsonText floats json)) ∧
      (¬ FitsAllowance bytes allowance → decodeUtf8 bytes = none →
        allowance < byteLen (jsonText floats json)) := by
  cases hdecoded : decodeUtf8 bytes with
  | some value =>
      have hlen := byteLen_of_decodeUtf8 hdecoded
      have hfits : FitsAllowance bytes allowance ↔ bytes.length ≤ allowance := by
        simp [FitsAllowance, hdecoded]
      refine ⟨_, binaryJson_text hdecoded allowance, ?_, ?_, nofun⟩
      · rw [hfits]
        constructor
        · rintro ⟨fields, hfields, ⟨text, hmem, hbytes⟩ | ⟨encoded, hmem, -⟩⟩
          · cases hfields
            have hsame : text = utf8Prefix value allowance := by simpa using hmem
            have hle := (utf8PrefixLen_le value allowance).2
            rw [← byteLen_utf8Prefix, ← hsame] at hle
            rwa [← hbytes, bytes_length]
          · cases hfields
            simp at hmem
        · intro hle
          have hwhole : utf8Prefix value allowance = value :=
            utf8Prefix_eq_of_len (by rw [utf8PrefixLen_of_le (hlen ▸ hle)]; omega)
          refine ⟨_, rfl, .inl ⟨value, ?_, bytes_of_decodeUtf8 hdecoded⟩⟩
          simp [hwhole]
      · intro hle
        rw [hfits] at hle
        have hshown := byteLen_le_stringBytes (utf8Prefix value allowance)
        rw [byteLen_utf8Prefix, utf8PrefixLen_of_le (hlen ▸ hle), hlen] at hshown
        rw [jsonText_object]
        simp only [List.map_cons, List.sum_cons, jsonText_string]
        omega
  | none =>
      have hfits : FitsAllowance bytes allowance ↔ bytes.length ≤ allowance / 4 * 3 := by
        simp [FitsAllowance, hdecoded]
      have hlength : allowance ≤ byteLen (jsonText floats (.string
          (Base64.encodeStandard (bytes.take (allowance / 4 * 3))))) + 1 ∨
            bytes.length ≤ allowance / 4 * 3 := by
        rw [jsonText_string, stringBytes_encodeStandard, byteLen_encodeStandard, List.length_take]
        omega
      have hall : bytes.length ≤ allowance / 4 * 3 → bytes.length ≤ byteLen (jsonText floats (.string
          (Base64.encodeStandard (bytes.take (allowance / 4 * 3))))) := by
        intro hle
        rw [jsonText_string, stringBytes_encodeStandard, byteLen_encodeStandard,
          List.take_of_length_le hle]
        omega
      refine ⟨_, binaryJson_base64 hdecoded allowance, ?_, ?_, ?_⟩
      · rw [hfits]
        constructor
        · rintro ⟨fields, hfields, ⟨text, hmem, -⟩ | ⟨encoded, hmem, hbytes⟩⟩
          · cases hfields
            simp at hmem
          · cases hfields
            have hsame : encoded = Base64.encodeStandard (bytes.take (allowance / 4 * 3)) := by
              simpa using hmem
            rw [hsame, Base64.decodeStandard_encodeStandard, Option.some_inj] at hbytes
            rw [← hbytes]
            exact List.length_take_le _ _
        · intro hle
          refine ⟨_, rfl, .inr ⟨_, List.mem_cons_self, ?_⟩⟩
          rw [Base64.decodeStandard_encodeStandard, List.take_of_length_le hle]
      · intro hle
        have hshown := hall (hfits.mp hle)
        rw [jsonText_object]
        simp only [List.map_cons, List.sum_cons]
        omega
      · intro hcut _
        rw [hfits] at hcut
        have hkey : stringBytes "base64".toList = 8 := by decide +kernel
        have hlong := hlength.resolve_right hcut
        rw [jsonText_object]
        simp only [List.map_cons, List.sum_cons, hkey]
        omega

/-! ## The JSON of a value -/

mutual

/-- The bytes of the strings of a value. -/
def respStrings : RespValue φ → Nat
  | .bulkString value => value.length
  | .simpleString value | .verbatimString value => byteLen value
  | .bigNumber value => byteLen (Numerals.intText value)
  | .array values | .set values => itemStrings values
  | .map entries => entryStrings entries
  | _ => 0

def itemStrings : List (RespValue φ) → Nat
  | [] => 0
  | value :: values => respStrings value + itemStrings values

def entryStrings : List (RespValue φ × RespValue φ) → Nat
  | [] => 0
  | (key, value) :: entries => respStrings key + respStrings value + entryStrings entries

end

mutual

/-- No value of an unsupported kind stands where the walk gets to: it stops at the greatest depth
and once the strings before have filled a cell. -/
def Supported (depth retained : Nat) : RespValue φ → Prop
  | .array values | .set values =>
      maxRedisPreviewItems < values.length ∨ SupportedItems (depth + 1) retained values
  | .map entries =>
      maxRedisPreviewItems < entries.length ∨ SupportedEntries (depth + 1) retained entries
  | .attributed _ _ | .push _ | .serverError | .unsupported => maxRedisCellBytes ≤ retained
  | _ => True

def SupportedItems (depth retained : Nat) : List (RespValue φ) → Prop
  | [] => True
  | value :: values => (depth < maxRedisDepth → Supported depth retained value) ∧
      SupportedItems depth (retained + respStrings value) values

def SupportedEntries (depth retained : Nat) : List (RespValue φ × RespValue φ) → Prop
  | [] => True
  | (key, value) :: entries =>
      (depth < maxRedisDepth → Supported depth retained key ∧
        Supported depth (retained + respStrings key) value) ∧
        SupportedEntries depth (retained + (respStrings key + respStrings value)) entries

end

mutual

/-- The JSON shows the strings of the value, each in its place. -/
def HoldsStrings : RespValue φ → Json.Value (Number φ) → Prop
  | .bulkString value, json => HoldsBytes value json
  | .simpleString value, json | .verbatimString value, json => json = .string value
  | .bigNumber value, json => json = .string (Numerals.intText value)
  | .array values, json | .set values, json =>
      ∃ items, json = .array items ∧ HoldsItems values items
  | .map entries, json => ∃ items, json = .array items ∧ HoldsEntries entries items
  | .attributed _ _, _ | .push _, _ | .serverError, _ | .unsupported, _ => False
  | _, _ => True

def HoldsItems : List (RespValue φ) → List (Json.Value (Number φ)) → Prop
  | [], items => items = []
  | value :: values, items => ∃ first rest, items = first :: rest ∧ HoldsStrings value first ∧
      HoldsItems values rest

def HoldsEntries : List (RespValue φ × RespValue φ) → List (Json.Value (Number φ)) → Prop
  | [], items => items = []
  | (key, value) :: entries, items => ∃ first second rest,
      items = .object [("key".toList, first), ("value".toList, second)] :: rest ∧
        HoldsStrings key first ∧ HoldsStrings value second ∧ HoldsEntries entries rest

end

/-- From `s` to `s'` so many bytes of JSON were made of strings of so many bytes. While nothing is
flagged, the strings are counted and stay below the JSON, and as long as this fits in a cell, what
was to be shown is shown. -/
structure Walked (s s' : RespPreview) (length strings : Nat) (Shown : Prop) : Prop where
  start : s'.truncated = false → s.truncated = false
  counted : s'.truncated = false → s'.retained ≤ s.retained + length
  retained : s'.truncated = false → s'.retained = s.retained + strings
  shown : s'.truncated = false → s.retained + length ≤ maxRedisCellBytes → Shown

namespace Walked

variable {s s' s'' : RespPreview} {length length' strings strings' : Nat} {Shown Shown' : Prop}

theorem same (h : Shown) : Walked s s length 0 Shown :=
  ⟨id, fun _ => by omega, fun _ => rfl, fun _ _ => h⟩

theorem flagged (h : s'.truncated = true) : Walked s s' length strings Shown := by
  refine ⟨?_, ?_, ?_, ?_⟩ <;> simp [h]

theorem mono (h : Walked s s' length strings Shown) (hle : length ≤ length')
    (himp : s'.truncated = false → Shown → Shown') : Walked s s' length' strings Shown' where
  start := h.start
  counted hs := by
    have hcount := h.counted hs
    omega
  retained := h.retained
  shown hs hfits := himp hs (h.shown hs (by omega))

theorem trans (h : Walked s s' length strings Shown) (h' : Walked s' s'' length' strings' Shown') :
    Walked s s'' (length + length') (strings + strings') (Shown ∧ Shown') where
  start hs := h.start (h'.start hs)
  counted hs := by
    have hcount := h.counted (h'.start hs)
    have hcount' := h'.counted hs
    omega
  retained hs := by
    rw [h'.retained hs, h.retained (h'.start hs), Nat.add_assoc]
  shown hs hfits := by
    have hcount := h.counted (h'.start hs)
    exact ⟨h.shown (h'.start hs) (by omega), h'.shown hs (by omega)⟩

/-- A container with too many elements is flagged before its elements are walked. -/
theorem counting {n : Nat}
    (h : Walked { s with truncated := s.truncated || decide (n > maxRedisPreviewItems) } s' length
      strings Shown) (hstrings : n ≤ maxRedisPreviewItems → strings = strings') :
    Walked s s' length strings' (n ≤ maxRedisPreviewItems ∧ Shown) where
  start hs := (Bool.or_eq_false_iff.mp (h.start hs)).1
  counted := h.counted
  retained hs := by
    have hcount := (Bool.or_eq_false_iff.mp (h.start hs)).2
    rw [← hstrings (by simpa using hcount)]
    exact h.retained hs
  shown hs hfits := by
    have hcount := (Bool.or_eq_false_iff.mp (h.start hs)).2
    exact ⟨by simpa using hcount, h.shown hs hfits⟩

end Walked

/-- A cell is far from the greatest `usize`. -/
theorem saturatingAdd_retained {retained added : Nat} (hroom : ¬ retained ≥ maxRedisCellBytes)
    (hadded : added ≤ maxRedisCellBytes - retained) :
    saturatingAdd retained added = retained + added := by
  have hmax : maxRedisCellBytes ≤ usizeMax := by decide
  unfold saturatingAdd
  omega

theorem boundedStringJson_walk (value : Text) {s : RespPreview}
    (hroom : ¬ s.retained ≥ maxRedisCellBytes) :
    ∃ json s', (boundedStringJson value s : Option (Json.Value (Number φ) × RespPreview)) =
        some (json, s') ∧
      Walked s s' (byteLen (jsonText floats json)) (byteLen value) (json = .string value) := by
  have hle := utf8PrefixLen_le value (maxRedisCellBytes - s.retained)
  rw [boundedStringJson]
  rw [sliceTo_utf8PrefixLen]
  refine ⟨_, _, rfl, ?_⟩
  by_cases hcut : utf8PrefixLen value (maxRedisCellBytes - s.retained) < byteLen value
  · exact .flagged (by simp [hcut])
  · have hshown := byteLen_le_stringBytes value
    have hwhole : utf8PrefixLen value (maxRedisCellBytes - s.retained) = byteLen value := by omega
    have hsum := saturatingAdd_retained hroom hle.2
    rw [hwhole] at hsum
    rw [utf8Prefix_eq_of_len hcut, jsonText_string, hwhole, hsum]
    refine ⟨fun hs => (Bool.or_eq_false_iff.mp hs).1, fun _ => ?_, fun _ => rfl, fun _ _ => rfl⟩
    dsimp only
    omega

theorem bulkString_walk (value : List UInt8) {s : RespPreview}
    (hroom : ¬ s.retained ≥ maxRedisCellBytes) :
    ∃ json : Json.Value (Number φ), binaryJson value (maxRedisCellBytes - s.retained) = some json ∧
      Walked s
        { s with
          retained := saturatingAdd s.retained (min value.length (maxRedisCellBytes - s.retained))
          truncated := s.truncated || decide (value.length > maxRedisCellBytes - s.retained) }
        (byteLen (jsonText floats json)) value.length (HoldsBytes value json) := by
  obtain ⟨json, hjson, hholds, hshown, hlong⟩ :=
    binaryJson_spec floats value (maxRedisCellBytes - s.retained)
  refine ⟨json, hjson, ?_⟩
  by_cases hlength : value.length > maxRedisCellBytes - s.retained
  · exact .flagged (by simp [hlength])
  · have hsum : saturatingAdd s.retained (min value.length (maxRedisCellBytes - s.retained)) =
        s.retained + value.length := by
      rw [saturatingAdd_retained hroom (Nat.min_le_right _ _), Nat.min_eq_left (by omega)]
    rw [hsum]
    by_cases hfits : FitsAllowance value (maxRedisCellBytes - s.retained)
    · have hcount := hshown hfits
      refine ⟨fun hs => (Bool.or_eq_false_iff.mp hs).1, fun _ => ?_, fun _ => rfl,
        fun _ _ => hholds.mpr hfits⟩
      dsimp only
      omega
    · -- base64 that is cut fills the rest of the cell
      have hnone : decodeUtf8 value = none := by
        unfold FitsAllowance at hfits
        cases hdecoded : decodeUtf8 value with
        | none => rfl
        | some text =>
            rw [hdecoded] at hfits
            exact absurd (not_lt.mp hlength) hfits
      have hfull := hlong hfits hnone
      refine ⟨fun hs => (Bool.or_eq_false_iff.mp hs).1, fun _ => ?_, fun _ => rfl,
        fun _ hall => ?_⟩
      · dsimp only
        omega
      · omega

theorem sum_le_array (items : List (Json.Value (Number φ))) :
    (items.map fun v => byteLen (jsonText floats v)).sum ≤
      byteLen (jsonText floats (.array items)) := by
  rw [jsonText_array]
  omega

mutual

theorem boundedRespJson_walk : ∀ (value : RespValue φ) (depth : Nat) (s : RespPreview),
    ∃ json s', boundedRespJson depth s value = some (json, s') ∧
      Walked s s' (byteLen (jsonText floats json)) (respStrings value)
        ((depth < maxRedisDepth → Supported depth s.retained value) → HoldsStrings value json)
  | value, depth, s => by
      unfold boundedRespJson
      by_cases hstop : depth ≥ maxRedisDepth ∨ s.retained ≥ maxRedisCellBytes
      · rw [if_pos hstop]
        exact ⟨_, _, rfl, .flagged rfl⟩
      · rw [if_neg hstop]
        rw [not_or, not_le] at hstop
        obtain ⟨hdepth, hroom⟩ := hstop
        cases value with
        | bulkString value =>
            obtain ⟨json, hjson, hwalk⟩ := bulkString_walk floats value hroom
            simp only [hjson, Option.bind_eq_bind, Option.bind_some]
            exact ⟨_, _, rfl, hwalk.mono le_rfl fun _ hshown _ => hshown⟩
        | simpleString value =>
            obtain ⟨json, s', hjson, hwalk⟩ := boundedStringJson_walk floats value hroom
            exact ⟨json, s', hjson, hwalk.mono le_rfl fun _ hshown _ => hshown⟩
        | verbatimString value =>
            obtain ⟨json, s', hjson, hwalk⟩ := boundedStringJson_walk floats value hroom
            exact ⟨json, s', hjson, hwalk.mono le_rfl fun _ hshown _ => hshown⟩
        | bigNumber value =>
            obtain ⟨json, s', hjson, hwalk⟩ :=
              boundedStringJson_walk floats (Numerals.intText value) hroom
            exact ⟨json, s', hjson, hwalk.mono le_rfl fun _ hshown _ => hshown⟩
        | array values =>
            obtain ⟨items, s', hitems, hwalk⟩ := boundedRespItems_walk values (depth + 1)
              { s with truncated := s.truncated || decide (values.length > maxRedisPreviewItems) }
              maxRedisPreviewItems
            simp only [hitems, Option.bind_eq_bind, Option.bind_some]
            refine ⟨_, _, rfl, (hwalk.counting fun hle => ?_).mono (sum_le_array floats items) ?_⟩
            · rw [List.take_of_length_le hle, respStrings]
            rintro - ⟨hcount, hshown⟩ hsupported
            exact ⟨items, rfl, hshown hcount ((hsupported hdepth).resolve_left (by omega))⟩
        | set values =>
            obtain ⟨items, s', hitems, hwalk⟩ := boundedRespItems_walk values (depth + 1)
              { s with truncated := s.truncated || decide (values.length > maxRedisPreviewItems) }
              maxRedisPreviewItems
            simp only [hitems, Option.bind_eq_bind, Option.bind_some]
            refine ⟨_, _, rfl, (hwalk.counting fun hle => ?_).mono (sum_le_array floats items) ?_⟩
            · rw [List.take_of_length_le hle, respStrings]
            rintro - ⟨hcount, hshown⟩ hsupported
            exact ⟨items, rfl, hshown hcount ((hsupported hdepth).resolve_left (by omega))⟩
        | map entries =>
            obtain ⟨items, s', hitems, hwalk⟩ := boundedRespEntries_walk entries (depth + 1)
              { s with truncated := s.truncated || decide (entries.length > maxRedisPreviewItems) }
              maxRedisPreviewItems
            simp only [hitems, Option.bind_eq_bind, Option.bind_some]
            refine ⟨_, _, rfl, (hwalk.counting fun hle => ?_).mono (sum_le_array floats items) ?_⟩
            · rw [List.take_of_length_le hle, respStrings]
            rintro - ⟨hcount, hshown⟩ hsupported
            exact ⟨items, rfl, hshown hcount ((hsupported hdepth).resolve_left (by omega))⟩
        | nil => exact ⟨_, _, rfl, .same fun _ => trivial⟩
        | int _ => exact ⟨_, _, rfl, .same fun _ => trivial⟩
        | okay => exact ⟨_, _, rfl, .same fun _ => trivial⟩
        | double _ => exact ⟨_, _, rfl, .same fun _ => trivial⟩
        | boolean _ => exact ⟨_, _, rfl, .same fun _ => trivial⟩
        | attributed _ _ => exact ⟨_, _, rfl, .same fun hsupported => absurd (hsupported hdepth) hroom⟩
        | push _ => exact ⟨_, _, rfl, .same fun hsupported => absurd (hsupported hdepth) hroom⟩
        | serverError => exact ⟨_, _, rfl, .same fun hsupported => absurd (hsupported hdepth) hroom⟩
        | unsupported => exact ⟨_, _, rfl, .same fun hsupported => absurd (hsupported hdepth) hroom⟩

theorem boundedRespItems_walk : ∀ (values : List (RespValue φ)) (depth : Nat) (s : RespPreview)
    (count : Nat), ∃ items s', boundedRespItems depth values s count = some (items, s') ∧
      Walked s s' (items.map fun v => byteLen (jsonText floats v)).sum
        (itemStrings (values.take count))
        (values.length ≤ count → SupportedItems depth s.retained values → HoldsItems values items)
  | [], depth, s, count => ⟨[], s, rfl, by rw [List.take_nil]; exact .same fun _ _ => rfl⟩
  | value :: values, depth, s, count => by
      unfold boundedRespItems
      by_cases hcount : count = 0
      · rw [if_pos hcount, hcount]
        refine ⟨[], s, rfl, .same fun hle => ?_⟩
        cases hle
      · obtain ⟨first, s', hfirst, hwalk⟩ := boundedRespJson_walk value depth s
        obtain ⟨rest, s'', hrest, hwalk'⟩ := boundedRespItems_walk values depth s' (count - 1)
        rw [if_neg hcount]
        simp only [hfirst, hrest, Option.bind_eq_bind, Option.bind_some]
        obtain ⟨count, rfl⟩ := Nat.exists_eq_succ_of_ne_zero hcount
        refine ⟨_, _, rfl, (hwalk.trans hwalk').mono (by simp) ?_⟩
        rintro hs ⟨hshown, hshown'⟩ hle ⟨hsupported, hsupported'⟩
        rw [List.length_cons] at hle
        rw [← hwalk.retained (hwalk'.start hs)] at hsupported'
        exact ⟨first, rest, rfl, hshown hsupported, hshown' (by omega) hsupported'⟩

theorem boundedRespEntries_walk : ∀ (entries : List (RespValue φ × RespValue φ)) (depth : Nat)
    (s : RespPreview) (count : Nat),
    ∃ items s', boundedRespEntries depth entries s count = some (items, s') ∧
      Walked s s' (items.map fun v => byteLen (jsonText floats v)).sum
        (entryStrings (entries.take count))
        (entries.length ≤ count → SupportedEntries depth s.retained entries →
          HoldsEntries entries items)
  | [], depth, s, count => ⟨[], s, rfl, by rw [List.take_nil]; exact .same fun _ _ => rfl⟩
  | (key, value) :: entries, depth, s, count => by
      unfold boundedRespEntries
      by_cases hcount : count = 0
      · rw [if_pos hcount, hcount]
        refine ⟨[], s, rfl, .same fun hle => ?_⟩
        cases hle
      · obtain ⟨first, s₁, hfirst, hwalk₁⟩ := boundedRespJson_walk key depth s
        obtain ⟨second, s₂, hsecond, hwalk₂⟩ := boundedRespJson_walk value depth s₁
        obtain ⟨rest, s₃, hrest, hwalk₃⟩ := boundedRespEntries_walk entries depth s₂ (count - 1)
        rw [if_neg hcount]
        simp only [hfirst, hsecond, hrest, Option.bind_eq_bind, Option.bind_some]
        obtain ⟨count, rfl⟩ := Nat.exists_eq_succ_of_ne_zero hcount
        refine ⟨_, _, rfl, ((hwalk₁.trans hwalk₂).trans hwalk₃).mono ?_ ?_⟩
        · rw [List.map_cons, List.sum_cons, jsonText_object]
          simp only [List.map_cons, List.map_nil, List.sum_cons, List.sum_nil]
          omega
        · rintro hs ⟨⟨hshown₁, hshown₂⟩, hshown₃⟩ hle ⟨hsupported, hsupported'⟩
          rw [List.length_cons] at hle
          rw [← hwalk₁.retained (hwalk₂.start (hwalk₃.start hs))] at hsupported
          rw [← (hwalk₁.trans hwalk₂).retained (hwalk₃.start hs)] at hsupported'
          exact ⟨first, second, rest, rfl, hshown₁ fun h => (hsupported h).1,
            hshown₂ fun h => (hsupported h).2, hshown₃ (by omega) hsupported'⟩

end

end Dbotter.Drivers
