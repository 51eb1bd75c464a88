import Dbotter.Drivers.RedisPreviewWalk

/-!
The caps of a preview, and whether its flag can be believed.

A cell is cut once more when it is pushed, so the caps hold whatever its JSON has become. The
flag of a pair or of a scored member is asked of the length of the strings, which are cut before.
-/

namespace Dbotter.Drivers
open Dbotter.Utf8 Dbotter.Configuration Dbotter.Results

variable {φ : Type} (floats : Floats φ) (cellSize : Nat)

/-! ## One cell -/

/-- The kinds of cells that are pushed. -/
def IsPreviewable : Cell φ (Number φ) → Prop
  | .text _ | .textPreview _ _ | .bytes _ _ | .json _ | .jsonPreview _ _ => True
  | _ => False

section
variable {cell cell' : Cell φ (Number φ)} {sourceOriginalLen : Nat} {alreadyTruncated : Bool}

theorem boundedPreviewCell_capped (h : IsPreviewable cell) :
    ∃ cell', boundedPreviewCell floats cell sourceOriginalLen alreadyTruncated = some cell' ∧
      cellMaterializedBytes floats cellSize cell' ≤ maxRedisCellBytes := by
  have hpre : ∀ value, byteLen (utf8Prefix value maxRedisCellBytes) ≤ maxRedisCellBytes := by
    intro value
    rw [byteLen_utf8Prefix]
    exact (utf8PrefixLen_le value maxRedisCellBytes).2
  cases cell with
  | text value =>
      unfold boundedPreviewCell
      simp only [sliceTo_utf8PrefixLen, Option.bind_eq_bind, Option.bind_some]
      refine ⟨_, rfl, ?_⟩
      split <;> exact hpre value
  | textPreview preview originalLen =>
      unfold boundedPreviewCell
      simp only [sliceTo_utf8PrefixLen, Option.bind_eq_bind, Option.bind_some]
      exact ⟨_, rfl, hpre preview⟩
  | bytes retained originalLen => exact ⟨_, rfl, List.length_take_le _ _⟩
  | json value =>
      unfold boundedPreviewCell
      dsimp only
      split
      · simp only [sliceTo_utf8PrefixLen, Option.bind_eq_bind, Option.bind_some]
        exact ⟨_, rfl, hpre _⟩
      · next hwhole =>
        have hle := utf8PrefixLen_le (jsonText floats value) maxRedisCellBytes
        rw [Bool.or_eq_true, decide_eq_true_eq, not_or] at hwhole
        refine ⟨_, rfl, ?_⟩
        rw [cellMaterializedBytes]
        omega
  | jsonPreview preview originalLen =>
      unfold boundedPreviewCell
      simp only [sliceTo_utf8PrefixLen, Option.bind_eq_bind, Option.bind_some]
      exact ⟨_, rfl, hpre preview⟩
  | _ => exact h.elim

theorem boundedPreviewCell_text {value : Text}
    (h : boundedPreviewCell floats (.text value) sourceOriginalLen alreadyTruncated = some cell')
    (hwhole : cellIsTruncated cell' = false) : cell' = .text value := by
  unfold boundedPreviewCell at h
  simp only [sliceTo_utf8PrefixLen, Option.bind_eq_bind, Option.bind_some, Option.some_inj] at h
  split at h
  · subst h
    cases hwhole
  · next hkeep =>
    rw [Bool.or_eq_true, decide_eq_true_eq, not_or] at hkeep
    rw [← h, utf8Prefix_eq_of_len (by omega)]

theorem boundedPreviewCell_bytes {retained : List UInt8} {originalLen : Nat}
    (h : boundedPreviewCell floats (.bytes retained originalLen) sourceOriginalLen
      alreadyTruncated = some cell')
    (hwhole : cellIsTruncated cell' = false) : ∃ n, cell' = .bytes retained n := by
  cases h
  simp only [cellIsTruncated, decide_eq_false_iff_not, List.length_take] at hwhole
  exact ⟨_, by rw [List.take_of_length_le (by omega)]⟩

/-- JSON is kept as it is exactly if nothing was cut and it fits. -/
theorem boundedPreviewCell_json (value : Json.Value (Number φ)) :
    (alreadyTruncated = false ∧ byteLen (jsonText floats value) ≤ maxRedisCellBytes ∧
        boundedPreviewCell floats (.json value) sourceOriginalLen alreadyTruncated =
          some (.json value)) ∨
      ¬ (alreadyTruncated = false ∧ byteLen (jsonText floats value) ≤ maxRedisCellBytes) ∧
        ∃ preview n, boundedPreviewCell floats (.json value) sourceOriginalLen alreadyTruncated =
          some (.jsonPreview preview n) := by
  have hle := utf8PrefixLen_le (jsonText floats value) maxRedisCellBytes
  by_cases hfits : byteLen (jsonText floats value) ≤ maxRedisCellBytes
  · have hlen := utf8PrefixLen_of_le hfits
    unfold boundedPreviewCell
    cases alreadyTruncated with
    | true =>
        simp only [sliceTo_utf8PrefixLen, Option.bind_eq_bind, Option.bind_some, Bool.true_or,
          if_true]
        exact .inr ⟨nofun, _, _, rfl⟩
    | false => exact .inl ⟨rfl, hfits, by simp [hlen]⟩
  · have hcut : utf8PrefixLen (jsonText floats value) maxRedisCellBytes <
        byteLen (jsonText floats value) := by omega
    unfold boundedPreviewCell
    simp only [sliceTo_utf8PrefixLen, Option.bind_eq_bind, Option.bind_some, hcut, decide_true,
      Bool.or_true, if_true]
    exact .inr ⟨fun h => hfits h.2, _, _, rfl⟩

end

/-! ## One push -/

/-- The caps of a preview. -/
structure WithinCaps (preview : PreviewRetention φ) : Prop where
  items : preview.items.length ≤ maxRedisPreviewItems
  bytes : preview.retainedBytes =
    (preview.items.map (cellMaterializedBytes floats cellSize)).sum
  fits : preview.retainedBytes ≤ maxRedisPreviewBytes
  cells : ∀ cell ∈ preview.items, cellMaterializedBytes floats cellSize cell ≤ maxRedisCellBytes

/-- Nothing of the cell is missing: it stands behind the items, and nothing is flagged. -/
structure Taken (preview preview' : PreviewRetention φ) (cell : Cell φ (Number φ))
    (sourceOriginalLen : Nat) (cellTruncated : Bool) (item : Cell φ (Number φ)) : Prop where
  before : preview.truncated = false
  source : cellTruncated = false
  bounded : boundedPreviewCell floats cell sourceOriginalLen cellTruncated = some item
  whole : cellIsTruncated item = false
  items : preview'.items = preview.items ++ [item]

section
variable {preview : PreviewRetention φ} {cell : Cell φ (Number φ)} {sourceOriginalLen : Nat}
  {cellTruncated : Bool}

theorem push_spec (h : WithinCaps floats cellSize preview) (hcell : IsPreviewable cell) :
    ∃ preview', preview.push floats cellSize cell sourceOriginalLen cellTruncated = some preview' ∧
      WithinCaps floats cellSize preview' ∧
      (preview'.truncated = false → ∃ item,
        Taken floats preview preview' cell sourceOriginalLen cellTruncated item) := by
  obtain ⟨item, hitem, hsize⟩ := @boundedPreviewCell_capped _ floats cellSize cell
    sourceOriginalLen cellTruncated hcell
  have hfits := h.fits
  unfold PreviewRetention.push
  simp only [hitem, Option.bind_eq_bind, Option.bind_some]
  split
  · exact ⟨_, rfl, ⟨h.items, h.bytes, h.fits, h.cells⟩, nofun⟩
  · next hroom =>
    rw [not_or, not_le, not_lt] at hroom
    obtain ⟨hcount, hbytes⟩ := hroom
    have hmax : maxRedisPreviewBytes + maxRedisCellBytes ≤ usizeMax := by decide
    have hsum : saturatingAdd preview.retainedBytes (cellMaterializedBytes floats cellSize item) =
        preview.retainedBytes + cellMaterializedBytes floats cellSize item := by
      unfold saturatingAdd
      omega
    rw [hsum] at hbytes ⊢
    refine ⟨_, rfl, ⟨?_, ?_, hbytes, ?_⟩, fun hclean => ⟨item, ?_⟩⟩
    · rw [List.length_append, List.length_singleton]
      omega
    · rw [List.map_append, List.sum_append, ← h.bytes, List.map_singleton, List.sum_singleton]
    · intro c hc
      rcases List.mem_append.mp hc with hc | hc
      · exact h.cells c hc
      · rw [List.mem_singleton.mp hc]
        exact hsize
    · simp only [Bool.or_eq_false_iff] at hclean
      exact ⟨hclean.1, hclean.2.1, hitem, hclean.2.2, rfl⟩

/-- JSON that is not cut is its own item, and it fits in a cell. -/
theorem Taken.json {preview' : PreviewRetention φ} {value : Json.Value (Number φ)}
    {item : Cell φ (Number φ)}
    (h : Taken floats preview preview' (.json value) sourceOriginalLen cellTruncated item) :
    item = .json value ∧ byteLen (jsonText floats value) ≤ maxRedisCellBytes := by
  rcases @boundedPreviewCell_json _ floats sourceOriginalLen cellTruncated value with
    ⟨-, hfits, hkept⟩ | ⟨-, preview'', n, hcut⟩
  · rw [h.bounded] at hkept
    exact ⟨Option.some_inj.mp hkept, hfits⟩
  · have hbounded := h.bounded
    have hwhole := h.whole
    rw [hcut, Option.some_inj] at hbounded
    subst hbounded
    cases hwhole

end

/-! ## What the items show -/

/-- The cell has these bytes. -/
def HoldsCell (bytes : List UInt8) : Cell φ (Number φ) → Prop
  | .text value => Utf8.bytes value = bytes
  | .bytes retained _ => retained = bytes
  | _ => False

/-- The JSON of a pair of strings. -/
def pairJson (leftName : Text) (leftJson : Json.Value (Number φ)) (rightName : Text)
    (rightJson : Json.Value (Number φ)) : Json.Value (Number φ) :=
  .object [(leftName, leftJson), (rightName, rightJson)]

/-- The items that a call has added show all of its strings. -/
def ShowsCall : PreviewCall φ → List (Cell φ (Number φ)) → Prop
  | .binary bytes, items => ∃ cell, items = [cell] ∧ HoldsCell bytes cell
  | .more _, items => items = []
  | .pair field value, items => ∃ fieldJson valueJson,
      items = [.json (pairJson "field".toList fieldJson "value".toList valueJson)] ∧
        HoldsBytes field fieldJson ∧ HoldsBytes value valueJson
  | .scored member score, items => ∃ memberJson,
      items = [.json (pairJson "member".toList memberJson "score".toList
        (.string (displayFloat floats score)))] ∧ HoldsBytes member memberJson
  | .respSequence value, items => List.Forall₂
      (fun element item => ∃ json, item = .json json ∧ HoldsStrings element json)
      (PreviewRetention.respSequence value) items
  | .staticUnsupported, items => items = [.text "[unsupported-redis-type]".toList]

/-- The items show all strings of all calls, call by call. -/
def ShowsCalls (cs : List (PreviewCall φ)) (items : List (Cell φ (Number φ))) : Prop :=
  ∃ parts : List (List (Cell φ (Number φ))), items = parts.flatten ∧
    List.Forall₂ (ShowsCall floats) cs parts

/-! ## When the flag is right -/

def pairAllowance : Nat := (maxRedisCellBytes - 512) / 2

def memberAllowance : Nat := maxRedisCellBytes - 512

/-- The length of a string in JSON: of the text that the allowance leaves, with its escapes, or of
the base64 of the bytes that it leaves. -/
def binaryJsonBytes (bytes : List UInt8) (allowance : Nat) : Nat :=
  -- The constants are the names of the three fields with their punctuation, and `true` or `false`.
  match decodeUtf8 bytes with
  | some value =>
      let retained := utf8Prefix value allowance
      38 + byteLen (Numerals.natText bytes.length) + stringBytes retained +
        if byteLen retained < bytes.length then 4 else 5
  | none =>
      let retained := min (allowance / 4 * 3) bytes.length
      42 + byteLen (Numerals.natText bytes.length) + (retained + 2) / 3 * 4 +
        if retained < bytes.length then 4 else 5

/-- What the allowance leaves of both sides is longer than a cell in JSON, so that it is cut
again. -/
def PairCutAgain (field value : List UInt8) : Prop :=
  maxRedisCellBytes <
    19 + binaryJsonBytes field pairAllowance + binaryJsonBytes value pairAllowance

def MemberCutAgain (member : List UInt8) (score : F64 φ) : Prop :=
  maxRedisCellBytes <
    20 + binaryJsonBytes member memberAllowance + stringBytes (displayFloat floats score)

theorem binaryJson_bytes {bytes : List UInt8} {allowance : Nat} {json : Json.Value (Number φ)}
    (h : binaryJson bytes allowance = some json) :
    byteLen (jsonText floats json) = binaryJsonBytes bytes allowance := by
  have hkeys : stringBytes "original_len".toList = 14 ∧ stringBytes "text".toList = 6 ∧
      stringBytes "truncated".toList = 11 ∧ stringBytes "base64".toList = 8 := by decide +kernel
  unfold binaryJsonBytes
  cases hdecoded : decodeUtf8 bytes with
  | some value =>
      rw [binaryJson_text hdecoded, Option.some_inj] at h
      subst h
      simp only [jsonText_object, jsonText_string, jsonText_number, jsonText_bool, Number.toText,
        List.map_cons, List.map_nil, List.sum_cons, List.sum_nil, List.length_cons,
        List.length_nil, hkeys, decide_eq_true_eq]
      omega
  | none =>
      rw [binaryJson_base64 hdecoded, Option.some_inj] at h
      subst h
      simp only [jsonText_object, jsonText_string, jsonText_number, jsonText_bool, Number.toText,
        stringBytes_encodeStandard, byteLen_encodeStandard, List.length_take,
        List.map_cons, List.map_nil, List.sum_cons, List.sum_nil, List.length_cons,
        List.length_nil, hkeys, decide_eq_true_eq]
      omega

theorem pairJson_bytes (leftName rightName : Text) (leftJson rightJson : Json.Value (Number φ)) :
    byteLen (jsonText floats (pairJson leftName leftJson rightName rightJson)) =
      5 + stringBytes leftName + stringBytes rightName + byteLen (jsonText floats leftJson) +
        byteLen (jsonText floats rightJson) := by
  simp only [pairJson, jsonText_object, List.map_cons, List.map_nil, List.sum_cons, List.sum_nil,
    List.length_cons, List.length_nil]
  omega

/-- The pair is cut again exactly where its JSON does not fit in a cell. -/
theorem pairCutAgain_iff {field value : List UInt8} {fieldJson valueJson : Json.Value (Number φ)}
    (hfield : binaryJson field pairAllowance = some fieldJson)
    (hvalue : binaryJson value pairAllowance = some valueJson) :
    PairCutAgain field value ↔ maxRedisCellBytes <
      byteLen (jsonText floats (pairJson "field".toList fieldJson "value".toList valueJson)) := by
  have hkeys : stringBytes "field".toList = 7 ∧ stringBytes "value".toList = 7 := by decide +kernel
  rw [pairJson_bytes, binaryJson_bytes floats hfield, binaryJson_bytes floats hvalue, hkeys.1,
    hkeys.2, PairCutAgain]

theorem memberCutAgain_iff {member : List UInt8} {score : F64 φ}
    {memberJson : Json.Value (Number φ)}
    (hmember : binaryJson member memberAllowance = some memberJson) :
    MemberCutAgain floats member score ↔ maxRedisCellBytes <
      byteLen (jsonText floats (pairJson "member".toList memberJson "score".toList
        (.string (displayFloat floats score)))) := by
  have hkeys : stringBytes "member".toList = 8 ∧ stringBytes "score".toList = 7 := by decide +kernel
  rw [pairJson_bytes, binaryJson_bytes floats hmember, jsonText_string, hkeys.1, hkeys.2,
    MemberCutAgain]

/-- The flag of the call says whether something is cut. -/
def KeepsFlag : PreviewCall φ → Prop
  | .pair field value =>
      (FitsAllowance field pairAllowance ∧ FitsAllowance value pairAllowance) ∨
        maxRedisCellBytes < field.length + value.length ∨ PairCutAgain field value
  | .scored member score => FitsAllowance member memberAllowance ∨
      maxRedisCellBytes < member.length + 8 ∨ MemberCutAgain floats member score
  | .respSequence value =>
      ∀ element ∈ PreviewRetention.respSequence value, Supported 0 0 element
  | _ => True

/-! ## One call -/

/-- What a call does: it does not fail, and it keeps the caps. While nothing is flagged, it adds
items that show it, if its flag is right. -/
structure Called (preview preview' : PreviewRetention φ) (Right : Prop)
    (Shows : List (Cell φ (Number φ)) → Prop) : Prop where
  capped : WithinCaps floats cellSize preview'
  before : preview'.truncated = false → preview.truncated = false
  shown : Right → preview'.truncated = false → ∃ part, preview'.items = preview.items ++ part ∧
    Shows part

theorem binaryCell_spec (bytes : List UInt8) :
    ∃ cell : Cell φ (Number φ), PreviewRetention.binaryCell bytes = some cell ∧
      IsPreviewable cell ∧ (cellIsTruncated cell = false → HoldsCell bytes cell) := by
  unfold PreviewRetention.binaryCell
  cases hdecoded : decodeUtf8 bytes with
  | some value =>
      dsimp only
      split
      · simp only [sliceTo_utf8PrefixLen, Option.bind_eq_bind, Option.bind_some]
        exact ⟨_, rfl, trivial, nofun⟩
      · exact ⟨_, rfl, trivial, fun _ => bytes_of_decodeUtf8 hdecoded⟩
  | none =>
      simp only [sliceBytesTo_min, Option.bind_eq_bind, Option.bind_some]
      refine ⟨_, rfl, trivial, fun hwhole => ?_⟩
      simp only [cellIsTruncated, decide_eq_false_iff_not, List.length_take] at hwhole
      exact List.take_of_length_le (by omega)

section
variable {preview : PreviewRetention φ}

theorem pushBinary_called (h : WithinCaps floats cellSize preview) (bytes : List UInt8) :
    ∃ preview', preview.pushBinary floats cellSize bytes = some preview' ∧
      Called floats cellSize preview preview' True (ShowsCall floats (.binary bytes)) := by
  obtain ⟨cell, hcell, hkind, hholds⟩ := binaryCell_spec (φ := φ) bytes
  obtain ⟨preview', hpush, hcapped, htaken⟩ :=
    @push_spec _ floats cellSize _ cell bytes.length (cellIsTruncated cell) h hkind
  unfold PreviewRetention.pushBinary
  simp only [hcell, Option.bind_eq_bind, Option.bind_some]
  refine ⟨preview', hpush, hcapped, fun hclean => (htaken hclean).choose_spec.before,
    fun _ hclean => ?_⟩
  obtain ⟨item, htaken⟩ := htaken hclean
  have hwhole := hholds htaken.source
  refine ⟨[item], htaken.items, item, rfl, ?_⟩
  cases cell with
  | text value => rwa [boundedPreviewCell_text floats htaken.bounded htaken.whole]
  | bytes retained originalLen =>
      obtain ⟨n, hitem⟩ := boundedPreviewCell_bytes floats htaken.bounded htaken.whole
      rwa [hitem]
  | _ => exact hwhole.elim

/-- A pair of JSON values, of which a flag was asked. -/
theorem pushJson_called (h : WithinCaps floats cellSize preview) (value : Json.Value (Number φ))
    (sourceOriginalLen : Nat) (cellTruncated : Bool) {Right : Prop}
    {Shows : List (Cell φ (Number φ)) → Prop}
    (hright : Right → cellTruncated = false →
      byteLen (jsonText floats value) ≤ maxRedisCellBytes → Shows [.json value]) :
    ∃ preview', preview.push floats cellSize (.json value) sourceOriginalLen cellTruncated =
        some preview' ∧ Called floats cellSize preview preview' Right Shows := by
  obtain ⟨preview', hpush, hcapped, htaken⟩ :=
    @push_spec _ floats cellSize _ (.json value) sourceOriginalLen cellTruncated h trivial
  refine ⟨preview', hpush, hcapped, fun hclean => (htaken hclean).choose_spec.before,
    fun hkeeps hclean => ?_⟩
  obtain ⟨item, htaken⟩ := htaken hclean
  obtain ⟨rfl, hfits⟩ := htaken.json
  exact ⟨_, htaken.items, hright hkeeps htaken.source hfits⟩

theorem not_long {a b : Nat}
    (h : decide (saturatingAdd a b > maxRedisCellBytes) = false) : ¬ maxRedisCellBytes < a + b := by
  have hmax : maxRedisCellBytes < usizeMax := by decide
  rw [decide_eq_false_iff_not] at h
  unfold saturatingAdd at h
  omega

theorem pushPair_called (h : WithinCaps floats cellSize preview) (field value : List UInt8) :
    ∃ preview', preview.pushPair floats cellSize "field".toList field "value".toList value =
        some preview' ∧
      Called floats cellSize preview preview' (KeepsFlag floats (.pair field value))
        (ShowsCall floats (.pair field value)) := by
  obtain ⟨fieldJson, hfield, hholds, -, -⟩ := binaryJson_spec floats field pairAllowance
  obtain ⟨valueJson, hvalue, hholds', -, -⟩ := binaryJson_spec floats value pairAllowance
  unfold PreviewRetention.pushPair
  change binaryJson field ((maxRedisCellBytes - 512) / 2) = _ at hfield
  change binaryJson value ((maxRedisCellBytes - 512) / 2) = _ at hvalue
  simp only [hfield, hvalue, Option.bind_eq_bind, Option.bind_some]
  refine pushJson_called floats cellSize h _ _ _ fun hkeeps hflag hfits => ?_
  rcases hkeeps with ⟨hleft, hright⟩ | hlong | hcut
  · exact ⟨fieldJson, valueJson, rfl, hholds.mpr hleft, hholds'.mpr hright⟩
  · exact absurd hlong (not_long hflag)
  · exact absurd ((pairCutAgain_iff floats hfield hvalue).mp hcut) (not_lt.mpr hfits)

theorem pushScored_called (h : WithinCaps floats cellSize preview) (member : List UInt8)
    (score : F64 φ) :
    ∃ preview', preview.pushScored floats cellSize member score = some preview' ∧
      Called floats cellSize preview preview' (KeepsFlag floats (.scored member score))
        (ShowsCall floats (.scored member score)) := by
  obtain ⟨memberJson, hmember, hholds, -, -⟩ := binaryJson_spec floats member memberAllowance
  unfold PreviewRetention.pushScored
  change binaryJson member (maxRedisCellBytes - 512) = _ at hmember
  simp only [hmember, Option.bind_eq_bind, Option.bind_some]
  refine pushJson_called floats cellSize h _ _ _ fun hkeeps hflag hfits => ?_
  rcases hkeeps with hall | hlong | hcut
  · exact ⟨memberJson, rfl, hholds.mpr hall⟩
  · exact absurd hlong (not_long hflag)
  · exact absurd ((memberCutAgain_iff floats hmember).mp hcut) (not_lt.mpr hfits)

theorem pushResp_called (h : WithinCaps floats cellSize preview) (value : RespValue φ) :
    ∃ preview', preview.pushResp floats cellSize value = some preview' ∧
      Called floats cellSize preview preview' (Supported 0 0 value)
        (fun part => ∃ item, part = [item] ∧
          ∃ json, item = .json json ∧ HoldsStrings value json) := by
  obtain ⟨json, s', hjson, hwalk⟩ := boundedRespJson_walk floats value 0
    { depthTruncated := preview.depthTruncated }
  have hcapped : WithinCaps floats cellSize { preview with depthTruncated := s'.depthTruncated } :=
    ⟨h.items, h.bytes, h.fits, h.cells⟩
  unfold PreviewRetention.pushResp
  simp only [hjson, Option.bind_eq_bind, Option.bind_some]
  obtain ⟨preview', hpush, hcalled⟩ := @pushJson_called _ floats cellSize _ hcapped json
    s'.retained s'.truncated (Supported 0 0 value) (fun part => ∃ item, part = [item] ∧
      ∃ json, item = .json json ∧ HoldsStrings value json) (by
        intro hsupported hflag hfits
        refine ⟨_, rfl, json, rfl, hwalk.shown hflag ?_ fun _ => hsupported⟩
        rwa [Nat.zero_add])
  exact ⟨preview', hpush, hcalled.capped, hcalled.before, hcalled.shown⟩

end

/-! ## Many calls -/

section
variable {β : Type} {preview : PreviewRetention φ}

theorem foldlM_called {f : PreviewRetention φ → β → Option (PreviewRetention φ)}
    {Right : β → Prop} {Shows : β → List (Cell φ (Number φ)) → Prop}
    (hstep : ∀ (preview : PreviewRetention φ) (x : β), WithinCaps floats cellSize preview →
      ∃ preview', f preview x = some preview' ∧
        Called floats cellSize preview preview' (Right x) (Shows x))
    (xs : List β) (h : WithinCaps floats cellSize preview) :
    ∃ preview', xs.foldlM f preview = some preview' ∧
      Called floats cellSize preview preview' (∀ x ∈ xs, Right x)
        (fun items => ∃ parts : List (List (Cell φ (Number φ))), items = parts.flatten ∧
          List.Forall₂ Shows xs parts) := by
  induction xs generalizing preview with
  | nil => exact ⟨preview, rfl, h, id, fun _ _ => ⟨[], by simp, [], rfl, .nil⟩⟩
  | cons x xs ih =>
      obtain ⟨middle, hfirst, hcalled⟩ := hstep preview x h
      obtain ⟨preview', hrest, hcalled'⟩ := ih hcalled.capped
      refine ⟨preview', ?_, hcalled'.capped, fun hclean => hcalled.before (hcalled'.before hclean),
        fun hright hclean => ?_⟩
      · rw [List.foldlM_cons, hfirst]
        exact hrest
      · rw [List.forall_mem_cons] at hright
        obtain ⟨part, hitems, hshows⟩ := hcalled.shown hright.1 (hcalled'.before hclean)
        obtain ⟨-, hitems', parts, rfl, hparts⟩ := hcalled'.shown hright.2 hclean
        refine ⟨_, ?_, part :: parts, rfl, .cons hshows hparts⟩
        rw [hitems', hitems, List.flatten_cons, List.append_assoc]

/-- Parts of one item each. -/
theorem forall₂_flatten {R : β → Cell φ (Number φ) → Prop} {xs : List β}
    {parts : List (List (Cell φ (Number φ)))}
    (h : List.Forall₂ (fun x part => ∃ item, part = [item] ∧ R x item) xs parts) :
    List.Forall₂ R xs parts.flatten := by
  induction h with
  | nil => exact .nil
  | cons hpart _ ih =>
      obtain ⟨item, rfl, hitem⟩ := hpart
      exact .cons hitem ih

theorem call_called (h : WithinCaps floats cellSize preview) (c : PreviewCall φ) :
    ∃ preview', preview.call floats cellSize c = some preview' ∧
      Called floats cellSize preview preview' (KeepsFlag floats c) (ShowsCall floats c) := by
  cases c with
  | binary bytes =>
      obtain ⟨preview', hpush, hcalled⟩ := pushBinary_called floats cellSize h bytes
      exact ⟨preview', hpush, hcalled.capped, hcalled.before, hcalled.shown⟩
  | more more =>
      refine ⟨_, rfl, ⟨h.items, h.bytes, h.fits, h.cells⟩, fun hclean => ?_,
        fun _ _ => ⟨[], (List.append_nil _).symm, rfl⟩⟩
      exact (Bool.or_eq_false_iff.mp hclean).1
  | pair field value => exact pushPair_called floats cellSize h field value
  | scored member score => exact pushScored_called floats cellSize h member score
  | respSequence value =>
      obtain ⟨preview', hfold, hcalled⟩ := foldlM_called floats cellSize
        (fun _ element hcapped => pushResp_called floats cellSize hcapped element)
        (PreviewRetention.respSequence value) h
      refine ⟨preview', hfold, hcalled.capped, hcalled.before, fun hright hclean => ?_⟩
      obtain ⟨-, hitems, parts, rfl, hparts⟩ := hcalled.shown hright hclean
      exact ⟨_, hitems, forall₂_flatten hparts⟩
  | staticUnsupported =>
      obtain ⟨preview', hpush, hcapped, htaken⟩ := @push_spec _ floats cellSize _
        (.text "[unsupported-redis-type]".toList) 24 false h trivial
      refine ⟨preview', hpush, hcapped, fun hclean => (htaken hclean).choose_spec.before,
        fun _ hclean => ?_⟩
      obtain ⟨item, htaken⟩ := htaken hclean
      have hitem := boundedPreviewCell_text floats htaken.bounded htaken.whole
      exact ⟨[item], htaken.items, by rw [hitem]; rfl⟩

theorem calls_called (h : WithinCaps floats cellSize preview) (cs : List (PreviewCall φ)) :
    ∃ preview', preview.calls floats cellSize cs = some preview' ∧
      Called floats cellSize preview preview' (∀ c ∈ cs, KeepsFlag floats c)
        (ShowsCalls floats cs) :=
  foldlM_called floats cellSize (fun _ c hcapped => call_called floats cellSize hcapped c) cs h

end

theorem empty_capped : WithinCaps floats cellSize ({} : PreviewRetention φ) :=
  ⟨Nat.zero_le _, rfl, Nat.zero_le _, nofun⟩

theorem preview_capped (cs : List (PreviewCall φ)) :
    ∃ preview, ({} : PreviewRetention φ).calls floats cellSize cs = some preview ∧
      WithinCaps floats cellSize preview := by
  obtain ⟨preview, hcalls, hcalled⟩ := calls_called floats cellSize (empty_capped floats cellSize) cs
  exact ⟨preview, hcalls, hcalled.capped⟩

theorem preview_flag_right (cs : List (PreviewCall φ)) (hright : ∀ c ∈ cs, KeepsFlag floats c) :
    ∃ preview, ({} : PreviewRetention φ).calls floats cellSize cs = some preview ∧
      (preview.truncated = false → ShowsCalls floats cs preview.items) := by
  obtain ⟨preview, hcalls, hcalled⟩ := calls_called floats cellSize (empty_capped floats cellSize) cs
  refine ⟨preview, hcalls, fun hclean => ?_⟩
  obtain ⟨part, hitems, hshows⟩ := hcalled.shown hright hclean
  rwa [hitems]

/-! ## When the flag is wrong -/

theorem push_of_room (preview : PreviewRetention φ) {cell item : Cell φ (Number φ)}
    {sourceOriginalLen : Nat} {cellTruncated : Bool}
    (hitem : boundedPreviewCell floats cell sourceOriginalLen cellTruncated = some item)
    (hcount : preview.items.length < maxRedisPreviewItems)
    (hbytes : saturatingAdd preview.retainedBytes (cellMaterializedBytes floats cellSize item) ≤
      maxRedisPreviewBytes) :
    preview.push floats cellSize cell sourceOriginalLen cellTruncated = some { preview with
      retainedBytes :=
        saturatingAdd preview.retainedBytes (cellMaterializedBytes floats cellSize item)
      truncated := preview.truncated || (cellTruncated || cellIsTruncated item)
      items := preview.items ++ [item] } := by
  unfold PreviewRetention.push
  simp only [hitem, Option.bind_eq_bind, Option.bind_some]
  exact if_neg (not_or.mpr ⟨not_le.mpr hcount, not_lt.mpr hbytes⟩)

/-- JSON that fits is the one item, and nothing is flagged. -/
theorem push_json_empty {value : Json.Value (Number φ)} {sourceOriginalLen : Nat}
    (hfits : byteLen (jsonText floats value) ≤ maxRedisCellBytes) :
    ({} : PreviewRetention φ).push floats cellSize (.json value) sourceOriginalLen false =
      some { items := [.json value], retainedBytes := byteLen (jsonText floats value) } := by
  have hmax : maxRedisCellBytes ≤ maxRedisPreviewBytes ∧ maxRedisCellBytes ≤ usizeMax := by decide
  have hsum : saturatingAdd 0 (byteLen (jsonText floats value)) =
      byteLen (jsonText floats value) := by
    unfold saturatingAdd
    omega
  have hitem : boundedPreviewCell floats (.json value) sourceOriginalLen false =
      some (.json value) := by
    rcases @boundedPreviewCell_json _ floats sourceOriginalLen false value with ⟨-, -, h⟩ | ⟨h, -⟩
    · exact h
    · exact absurd ⟨rfl, hfits⟩ h
  have hempty : 0 < maxRedisPreviewItems := by decide
  have hpush := push_of_room floats cellSize ({} : PreviewRetention φ) hitem hempty
    (hsum.trans_le (by omega))
  simpa [cellMaterializedBytes, cellIsTruncated, hsum] using hpush

/-- A call that pushes JSON with a flag: of this call alone the flag is right exactly under its
condition, if it is wrong outside of it. -/
theorem json_flag_iff {c : PreviewCall φ} {value : Json.Value (Number φ)} {sourceOriginalLen : Nat}
    {cellTruncated : Bool}
    (hcall : ({} : PreviewRetention φ).call floats cellSize c =
      ({} : PreviewRetention φ).push floats cellSize (.json value) sourceOriginalLen cellTruncated)
    (hwrong : ¬ KeepsFlag floats c → cellTruncated = false ∧
      byteLen (jsonText floats value) ≤ maxRedisCellBytes ∧ ¬ ShowsCall floats c [.json value]) :
    ∃ preview, ({} : PreviewRetention φ).calls floats cellSize [c] = some preview ∧
      ((preview.truncated = false → ShowsCalls floats [c] preview.items) ↔ KeepsFlag floats c) := by
  by_cases hright : KeepsFlag floats c
  · obtain ⟨preview, hcalls, hshown⟩ := preview_flag_right floats cellSize [c] (by simpa using hright)
    exact ⟨preview, hcalls, fun _ => hright, fun _ => hshown⟩
  · obtain ⟨rfl, hfits, hmissing⟩ := hwrong hright
    have hpush := @push_json_empty _ floats cellSize value sourceOriginalLen hfits
    have hcalls := congrArg (· >>= some) (hcall.trans hpush)
    refine ⟨_, hcalls, fun hshown => ?_, fun h => absurd h hright⟩
    obtain ⟨parts, hitems, hparts⟩ := hshown rfl
    obtain ⟨part, rest, hshows, hrest, rfl⟩ := List.forall₂_cons_left_iff.mp hparts
    cases hrest
    rw [List.flatten_singleton] at hitems
    subst hitems
    exact absurd hshows hmissing

theorem decide_long_eq_false {a b : Nat} (h : ¬ maxRedisCellBytes < a + b) :
    decide (saturatingAdd a b > maxRedisCellBytes) = false := by
  rw [decide_eq_false_iff_not]
  unfold saturatingAdd
  omega

theorem pair_flag_iff (field value : List UInt8) :
    ∃ preview, ({} : PreviewRetention φ).calls floats cellSize [.pair field value] = some preview ∧
      ((preview.truncated = false → ShowsCalls floats [.pair field value] preview.items) ↔
        KeepsFlag floats (.pair field value)) := by
  obtain ⟨fieldJson, hfield, hholds, -, -⟩ := binaryJson_spec floats field pairAllowance
  obtain ⟨valueJson, hvalue, hholds', -, -⟩ := binaryJson_spec floats value pairAllowance
  have hcall : ({} : PreviewRetention φ).call floats cellSize (.pair field value) =
      ({} : PreviewRetention φ).push floats cellSize
        (.json (pairJson "field".toList fieldJson "value".toList valueJson))
        (saturatingAdd field.length value.length)
        (decide (saturatingAdd field.length value.length > maxRedisCellBytes)) := by
    change ({} : PreviewRetention φ).pushPair floats cellSize _ field _ value = _
    unfold PreviewRetention.pushPair
    change binaryJson field ((maxRedisCellBytes - 512) / 2) = _ at hfield
    change binaryJson value ((maxRedisCellBytes - 512) / 2) = _ at hvalue
    simp only [hfield, hvalue, Option.bind_eq_bind, Option.bind_some]
    rfl
  refine json_flag_iff floats cellSize hcall fun hwrong => ?_
  simp only [KeepsFlag, not_or] at hwrong
  obtain ⟨hcut, hlong, hagain⟩ := hwrong
  refine ⟨decide_long_eq_false hlong, not_lt.mp fun hgt => hagain ?_, ?_⟩
  · exact (pairCutAgain_iff floats hfield hvalue).mpr hgt
  · rintro ⟨fieldJson', valueJson', hitem, hshows, hshows'⟩
    cases hitem
    exact hcut ⟨hholds.mp hshows, hholds'.mp hshows'⟩

theorem scored_flag_iff (member : List UInt8) (score : F64 φ) :
    ∃ preview, ({} : PreviewRetention φ).calls floats cellSize [.scored member score] =
        some preview ∧
      ((preview.truncated = false → ShowsCalls floats [.scored member score] preview.items) ↔
        KeepsFlag floats (.scored member score)) := by
  obtain ⟨memberJson, hmember, hholds, -, -⟩ := binaryJson_spec floats member memberAllowance
  have hcall : ({} : PreviewRetention φ).call floats cellSize (.scored member score) =
      ({} : PreviewRetention φ).push floats cellSize
        (.json (pairJson "member".toList memberJson "score".toList
          (.string (displayFloat floats score))))
        (saturatingAdd member.length 8)
        (decide (saturatingAdd member.length 8 > maxRedisCellBytes)) := by
    change ({} : PreviewRetention φ).pushScored floats cellSize member score = _
    unfold PreviewRetention.pushScored
    change binaryJson member (maxRedisCellBytes - 512) = _ at hmember
    simp only [hmember, Option.bind_eq_bind, Option.bind_some]
    rfl
  refine json_flag_iff floats cellSize hcall fun hwrong => ?_
  simp only [KeepsFlag, not_or] at hwrong
  obtain ⟨hcut, hlong, hagain⟩ := hwrong
  refine ⟨decide_long_eq_false hlong, not_lt.mp fun hgt => hagain ?_, ?_⟩
  · exact (memberCutAgain_iff floats hmember).mpr hgt
  · rintro ⟨memberJson', hitem, hshows⟩
    cases hitem
    exact hcut (hholds.mp hshows)

/-- A hash field whose value is longer than half of a cell. -/
def longPair : PreviewCall Empty := .pair [102] (List.replicate 40000 97)

theorem bytes_replicate (n : Nat) : Utf8.bytes (List.replicate n 'a') = List.replicate n 97 := by
  have ha : String.utf8EncodeChar 'a' = [97] := by decide
  induction n with
  | zero => rfl
  | succ n ih =>
      rw [List.replicate_succ, Utf8.bytes, List.flatMap_cons, ← Utf8.bytes, ih, ha]
      rfl

/-- Letters are quoted as they stand. -/
theorem stringBytes_letters (n maximum : Nat) :
    stringBytes (utf8Prefix (List.replicate n 'a') maximum) ≤ 2 + maximum := by
  have hplain : stringBytes (utf8Prefix (List.replicate n 'a') maximum) =
      2 + byteLen (utf8Prefix (List.replicate n 'a') maximum) := by
    refine stringBytes_plain fun c hc => ?_
    have hmem := (sliceTo_isPrefix (sliceTo_utf8PrefixLen (List.replicate n 'a') maximum)).subset hc
    rw [List.eq_of_mem_replicate hmem]
    decide
  have hle := (utf8PrefixLen_le (List.replicate n 'a') maximum).2
  rw [hplain, byteLen_utf8Prefix]
  omega

/-- A value of more letters than the allowance, which fits in a cell. -/
theorem letters_wrong {n : Nat} (hcut : pairAllowance < n) (hshort : 1 + n ≤ maxRedisCellBytes)
    (hdigits : byteLen (Numerals.natText n) ≤ 5) :
    ¬ KeepsFlag noFloats (.pair [102] (List.replicate n 97)) := by
  have hfield : decodeUtf8 [102] = some ['f'] := decodeUtf8_bytes ['f']
  have hvalue : decodeUtf8 (List.replicate n 97) = some (List.replicate n 'a') := by
    rw [← bytes_replicate, decodeUtf8_bytes]
  have hletters := stringBytes_letters n pairAllowance
  have hone : stringBytes (utf8Prefix ['f'] pairAllowance) = 3 := by
    rw [utf8Prefix_eq_of_len (by rw [utf8PrefixLen_of_le (by decide)]; omega)]
    decide
  have hallowance : pairAllowance = 32512 ∧ maxRedisCellBytes = 65536 := by decide
  have hdigit : byteLen (Numerals.natText 1) = 1 := by decide
  rintro (⟨-, hfits⟩ | hlong | hagain)
  · rw [FitsAllowance, hvalue, Option.isSome_some, if_pos rfl, List.length_replicate] at hfits
    omega
  · rw [List.length_replicate, List.length_singleton] at hlong
    omega
  · simp only [PairCutAgain, binaryJsonBytes, hfield, hvalue, hone, hdigit, List.length_singleton,
      List.length_replicate] at hagain
    have hflags : ∀ a b c d : Nat, (if a < b then 4 else 5) + (if c < d then 4 else 5) ≤ 10 := by
      intro a b c d
      split <;> split <;> omega
    have hflags := hflags (byteLen (utf8Prefix ['f'] pairAllowance)) 1
      (byteLen (utf8Prefix (List.replicate n 'a') pairAllowance)) n
    omega

theorem preview_flag_wrong_longPair : ∃ preview,
    ({} : PreviewRetention Empty).calls noFloats 32 [longPair] = some preview ∧
      preview.truncated = false ∧ ¬ ShowsCalls noFloats [longPair] preview.items := by
  obtain ⟨preview, hcalls, hiff⟩ := pair_flag_iff noFloats 32 [102] (List.replicate 40000 97)
  have hwrong := mt hiff.mp (letters_wrong (by decide) (by decide) (by decide))
  rw [Classical.not_imp] at hwrong
  exact ⟨preview, hcalls, hwrong⟩

/-- A field with its value, bytes that are no text, and a stream entry. -/
theorem preview_flag_right_short : ∃ preview,
    ({} : PreviewRetention Empty).calls noFloats 32
      [.pair [102] [118], .binary [255], .respSequence (.array [.bulkString [120]])] =
        some preview ∧
      (preview.truncated = false → ShowsCalls noFloats
        [.pair [102] [118], .binary [255], .respSequence (.array [.bulkString [120]])]
        preview.items) := by
  have hfits : ∀ byte : UInt8, FitsAllowance [byte] pairAllowance := by
    intro byte
    unfold FitsAllowance
    have hone : 1 ≤ pairAllowance ∧ 1 ≤ pairAllowance / 4 * 3 := by decide
    split
    · exact hone.1
    · exact hone.2
  refine preview_flag_right noFloats 32 _ fun c hc => ?_
  simp only [List.mem_cons, List.not_mem_nil, or_false] at hc
  rcases hc with rfl | rfl | rfl
  · exact .inl ⟨hfits 102, hfits 118⟩
  · trivial
  · intro element helement
    rw [List.mem_singleton.mp helement]
    trivial

end Dbotter.Drivers
