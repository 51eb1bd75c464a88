import Dbotter.Drivers.RedisMeasure

/-!
The meter of a composite is exact.

`measure_composite` refuses a value when its depth, its nodes or the length of its JSON exceed
what is left, and never because of an overflow. What it has counted is that length, apart from
big numbers, whose digits it bounds.
-/

namespace Dbotter.Drivers
open Dbotter.Utf8 Dbotter.Configuration Dbotter.Results Dbotter.Numerals Dbotter.Json

variable {φ : Type} (floats : Floats φ)

/-! ## Nodes -/

mutual

/-- The value and the values in it. -/
def replyNodes : RespValue φ → List (RespValue φ)
  | .array values => .array values :: itemNodes values
  | .set values => .set values :: itemNodes values
  | .map entries => .map entries :: entryNodes entries
  | .attributed data attributes =>
      .attributed data attributes :: (entryNodes attributes ++ replyNodes data)
  | .push data => .push data :: itemNodes data
  | value => [value]

def itemNodes : List (RespValue φ) → List (RespValue φ)
  | [] => []
  | value :: values => replyNodes value ++ itemNodes values

def entryNodes : List (RespValue φ × RespValue φ) → List (RespValue φ)
  | [] => []
  | (key, value) :: entries => replyNodes key ++ (replyNodes value ++ entryNodes entries)

end

mutual

/-- The number of nodes on the longest way down. -/
def replyHeight : RespValue φ → Nat
  | .array values => itemsHeight values + 1
  | .set values => itemsHeight values + 1
  | .map entries => entriesHeight entries + 1
  | .attributed data attributes => max (entriesHeight attributes) (replyHeight data) + 1
  | .push data => itemsHeight data + 1
  | _ => 1

def itemsHeight : List (RespValue φ) → Nat
  | [] => 0
  | value :: values => max (replyHeight value) (itemsHeight values)

def entriesHeight : List (RespValue φ × RespValue φ) → Nat
  | [] => 0
  | (key, value) :: entries =>
      max (replyHeight key) (max (replyHeight value) (entriesHeight entries))

end

def RespValue.isBigNumber : RespValue φ → Bool
  | .bigNumber _ => true
  | _ => false

/-- The bound that is put in for the digits of a big number. -/
def bigNumberBound (value : Int) : Nat :=
  (if Nat.size value.natAbs = 0 then 1 else (Nat.size value.natAbs * 30103 + 99999) / 100000) + 1

/-- What the meter counts in excess. -/
def excessBytes : RespValue φ → Nat
  | .bigNumber value => bigNumberBound value - byteLen (intText value)
  | _ => 0

/-- What the meter counts for a list of nodes in excess. -/
def nodesExcess (nodes : List (RespValue φ)) : Nat := (nodes.map excessBytes).sum

@[simp] theorem nodesExcess_nil : nodesExcess ([] : List (RespValue φ)) = 0 := rfl

@[simp] theorem nodesExcess_cons (node : RespValue φ) (nodes : List (RespValue φ)) :
    nodesExcess (node :: nodes) = excessBytes node + nodesExcess nodes := by
  rw [nodesExcess, List.map_cons, List.sum_cons, nodesExcess]

@[simp] theorem nodesExcess_append (nodes nodes' : List (RespValue φ)) :
    nodesExcess (nodes ++ nodes') = nodesExcess nodes + nodesExcess nodes' := by
  rw [nodesExcess, List.map_append, List.sum_append, nodesExcess, nodesExcess]

/-- The bytes that the meter counts for a value. -/
def measuredBytes (value : RespValue φ) : Nat := jsonBytes floats value + nodesExcess (replyNodes value)

theorem nodesExcess_eq_zero {nodes : List (RespValue φ)}
    (h : ∀ node ∈ nodes, node.isBigNumber = false) : nodesExcess nodes = 0 := by
  induction nodes with
  | nil => rfl
  | cons node nodes ih =>
      have hnode : excessBytes node = 0 := by
        have hkind := h node List.mem_cons_self
        cases node <;> first | rfl | exact absurd hkind (by simp [RespValue.isBigNumber])
      rw [nodesExcess_cons, hnode, ih fun other hother => h other (List.mem_cons_of_mem _ hother)]

theorem byteLen_intText_le_bound (value : Int) : byteLen (intText value) ≤ bigNumberBound value := by
  have hdigits : (natText value.natAbs).length ≤ bigNumberBound value - 1 := by
    unfold bigNumberBound
    rw [Nat.add_sub_cancel]
    split
    · next hzero =>
      rw [Nat.size_eq_zero.mp hzero]
      rfl
    · next hpos =>
      rw [natText, Nat.length_toDigits_le_iff (by decide) (by omega)]
      exact lt_ten_pow (Nat.lt_size_self _)
  have hpos : 1 ≤ bigNumberBound value := Nat.le_add_left 1 _
  rw [byteLen_intText, byteLen_natText]
  split <;> omega

/-! ## Spending -/

namespace CompositeMeter

/-- Takes bytes and nodes off what remains, if they are there. -/
def spend (meter : CompositeMeter) (bytes nodes : Nat) : Option CompositeMeter :=
  if nodes ≤ meter.remainingNodes ∧ bytes ≤ meter.remainingBytes then
    some ⟨meter.remainingNodes - nodes, meter.remainingBytes - bytes, meter.nodes + nodes,
      meter.encodedBytes + bytes⟩
  else none

/-- What is counted and what remains stay within `limit`, so that nothing overflows. -/
structure Within (limit : Nat) (meter : CompositeMeter) : Prop where
  bytes : meter.encodedBytes + meter.remainingBytes ≤ limit
  nodes : meter.nodes + meter.remainingNodes ≤ usizeMax

variable {limit bytes nodes bytes' nodes' depth : Nat} {meter meter' : CompositeMeter}

theorem spend_eq_some (h : meter.spend bytes nodes = some meter') :
    nodes ≤ meter.remainingNodes ∧ bytes ≤ meter.remainingBytes ∧
      meter' = ⟨meter.remainingNodes - nodes, meter.remainingBytes - bytes, meter.nodes + nodes,
        meter.encodedBytes + bytes⟩ := by
  unfold spend at h
  split at h
  · next hle => exact ⟨hle.1, hle.2, (Option.some.inj h).symm⟩
  · cases h

theorem spend_zero (meter : CompositeMeter) : meter.spend 0 0 = some meter := by
  rw [spend, if_pos ⟨Nat.zero_le _, Nat.zero_le _⟩]
  rfl

theorem Within.after (hwithin : meter.Within limit) (h : meter.spend bytes nodes = some meter') :
    meter'.Within limit := by
  obtain ⟨hbytes, hnodes⟩ := hwithin
  obtain ⟨h1, h2, rfl⟩ := spend_eq_some h
  constructor <;> dsimp only <;> omega

theorem spend_bind (meter : CompositeMeter) (bytes nodes bytes' nodes' : Nat) :
    ((meter.spend bytes nodes).bind fun meter => meter.spend bytes' nodes') =
      meter.spend (bytes + bytes') (nodes + nodes') := by
  by_cases hfirst : nodes ≤ meter.remainingNodes ∧ bytes ≤ meter.remainingBytes
  · rw [spend, if_pos hfirst, Option.bind_some, spend, spend]
    by_cases hall : nodes + nodes' ≤ meter.remainingNodes ∧ bytes + bytes' ≤ meter.remainingBytes
    · rw [if_pos hall, if_pos (by dsimp only; omega)]
      simp only [Nat.sub_sub, Nat.add_assoc]
    · rw [if_neg hall, if_neg (by dsimp only; omega)]
  · rw [spend, if_neg hfirst, Option.bind_none, spend, if_neg (by omega)]

/-- One part is measured after another: both have to fit. -/
theorem measured_bind {p q : Prop} [Decidable p] [Decidable q]
    {rest : CompositeMeter → Option CompositeMeter} (hwithin : meter.Within limit)
    (hrest : p → ∀ meter' : CompositeMeter, meter'.Within limit →
      rest meter' = if q then meter'.spend bytes' nodes' else none) :
    (if p then meter.spend bytes nodes else none).bind rest =
      if p ∧ q then meter.spend (bytes + bytes') (nodes + nodes') else none := by
  by_cases hp : p
  · by_cases hq : q
    · rw [if_pos hp, if_pos ⟨hp, hq⟩, ← spend_bind]
      cases hspend : meter.spend bytes nodes with
      | none => rfl
      | some meter' =>
          rw [Option.bind_some, Option.bind_some, hrest hp meter' (hwithin.after hspend), if_pos hq]
    · rw [if_pos hp, if_neg fun h => hq h.2]
      cases hspend : meter.spend bytes nodes with
      | none => rfl
      | some meter' => rw [Option.bind_some, hrest hp meter' (hwithin.after hspend), if_neg hq]
  · rw [if_neg hp, if_neg fun h => hp h.1, Option.bind_none]

theorem Within.consumeNode_eq (h : meter.Within limit) :
    meter.consumeNode depth = if depth + 1 ≤ maxRedisDepth then meter.spend 0 1 else none := by
  obtain ⟨-, hnodes⟩ := h
  unfold consumeNode
  by_cases hdepth : depth ≥ maxRedisDepth
  · rw [if_pos hdepth, if_neg (by omega)]
  · rw [if_neg hdepth, if_pos (by omega), spend]
    by_cases hleft : 1 ≤ meter.remainingNodes
    · have hsum : meter.nodes + 1 ≤ usizeMax := by omega
      simp [checkedSub, checkedAdd, hleft, hsum]
    · simp [checkedSub, hleft]

theorem Within.addBytes_eq (h : meter.Within limit) (hlimit : limit ≤ usizeMax) :
    meter.addBytes bytes = meter.spend bytes 0 := by
  obtain ⟨hbytes, -⟩ := h
  unfold addBytes spend
  by_cases hleft : bytes ≤ meter.remainingBytes
  · have hsum : meter.encodedBytes + bytes ≤ usizeMax := by omega
    simp [checkedSub, checkedAdd, hleft, hsum]
  · simp [checkedSub, hleft]

end CompositeMeter

/-! ## Checked totals -/

/-- A checked computation of `total` fails only beyond the limit. -/
def Totals (limit : Nat) (result : Option Nat) (total : Nat) : Prop :=
  result = some total ∨ result = none ∧ limit < total

section
variable {limit : Nat}

theorem totals_checkedAdd (a b : Nat) : Totals usizeMax (checkedAdd a b) (a + b) := by
  unfold checkedAdd
  split
  · exact .inl rfl
  · exact .inr ⟨rfl, by omega⟩

theorem totals_checkedMul (a b : Nat) : Totals usizeMax (checkedMul a b) (a * b) := by
  unfold checkedMul
  split
  · exact .inl rfl
  · exact .inr ⟨rfl, by omega⟩

theorem Totals.mono {limit' total : Nat} {result : Option Nat} (h : Totals limit result total)
    (hle : limit' ≤ limit) : Totals limit' result total := by
  rcases h with h | ⟨h, hlt⟩
  · exact .inl h
  · exact .inr ⟨h, by omega⟩

theorem Totals.bind {part total : Nat} {result : Option Nat} {next : Nat → Option Nat}
    (h : Totals limit result part) (hnext : Totals limit (next part) total) (hle : part ≤ total) :
    Totals limit (result >>= next) total := by
  rcases h with rfl | ⟨rfl, hlt⟩
  · exact hnext
  · exact .inr ⟨rfl, by omega⟩

theorem totals_jsonStringBytesFrom (bytes : Nat) (value : Text) :
    Totals usizeMax (jsonStringBytesFrom bytes value) (bytes + (value.map jsonCharBytes).sum) := by
  induction value generalizing bytes with
  | nil => exact .inl rfl
  | cons c value ih =>
      rw [jsonStringBytesFrom, List.map_cons, List.sum_cons, ← Nat.add_assoc]
      exact (totals_checkedAdd bytes (jsonCharBytes c)).bind (ih _) (Nat.le_add_right _ _)

theorem totals_jsonStringBytes (value : Text) :
    Totals usizeMax (jsonStringBytes value) (stringBytes value) := totals_jsonStringBytesFrom 2 value

/-- The object that stands for bytes that are no text. -/
theorem totals_base64 (length : Nat) :
    Totals usizeMax
      (base64EncodedBytes length >>= fun encoded =>
        checkedAdd 47 encoded >>= fun wrapped => checkedAdd wrapped (decimalDigits length))
      (47 + (length + 2) / 3 * 4 + decimalDigits length) := by
  have hencoded : Totals usizeMax (base64EncodedBytes length) ((length + 2) / 3 * 4) := by
    rcases totals_checkedAdd length 2 with hpadded | ⟨hpadded, hlarge⟩
    · rw [base64EncodedBytes, hpadded]
      exact totals_checkedMul _ 4
    · rw [base64EncodedBytes, hpadded]
      refine .inr ⟨rfl, ?_⟩
      simp only [usizeMax] at hlarge ⊢
      omega
  refine hencoded.bind ((totals_checkedAdd 47 _).bind (totals_checkedAdd _ _) ?_) ?_ <;> omega

/-- No bound on the digits of a big number overflows below it. -/
def maxMeasuredBytes : Nat := 2 ^ 47

theorem totals_magnitudeDigits (bits : Nat) :
    Totals maxMeasuredBytes (magnitudeDigits bits)
      (if bits = 0 then 1 else (bits * 30103 + 99999) / 100000) := by
  unfold magnitudeDigits
  by_cases hzero : bits = 0
  · rw [if_pos hzero, if_pos hzero]
    exact .inl rfl
  · rw [if_neg hzero, if_neg hzero]
    have hnines : 100000 - 1 = 99999 := by decide
    rw [hnines]
    rcases totals_checkedMul bits 30103 with hscaled | ⟨hscaled, hlarge⟩
    · rcases totals_checkedAdd (bits * 30103) 99999 with hrounded | ⟨hrounded, hlarge⟩
      · refine .inl ?_
        rw [hscaled, Option.bind_eq_bind, Option.bind_some, hrounded, Option.bind_some,
          Option.pure_def]
      · refine .inr ⟨?_, ?_⟩
        · rw [hscaled, Option.bind_eq_bind, Option.bind_some, hrounded, Option.bind_none]
        · simp only [usizeMax, maxMeasuredBytes] at hlarge ⊢
          omega
    · refine .inr ⟨?_, ?_⟩
      · rw [hscaled, Option.bind_eq_bind, Option.bind_none]
      · simp only [usizeMax, maxMeasuredBytes] at hlarge ⊢
        omega

/-- The bound of a big number overflows only for numbers that are much too large. -/
theorem totals_bigNumber (value : Int) :
    Totals maxMeasuredBytes (decimalStringUpperBoundFromBits (Nat.size value.natAbs))
      (bigNumberBound value) := by
  have hsmall : maxMeasuredBytes ≤ usizeMax := by decide
  show Totals _ (magnitudeDigits _ >>= fun digits => checkedAdd digits 1) _
  exact (totals_magnitudeDigits _).bind ((totals_checkedAdd _ 1).mono hsmall) (Nat.le_add_right _ 1)

/-- The rounded product is there unless it overflows. -/
theorem scaledQuotient (bits n r d : Nat) :
    (checkedMul bits n >>= fun scaled => checkedAdd scaled r >>= fun rounded => pure (rounded / d)) =
      if bits * n + r ≤ usizeMax then some ((bits * n + r) / d) else none := by
  by_cases hfits : bits * n + r ≤ usizeMax
  · have hscaled : checkedMul bits n = some (bits * n) :=
      if_pos ((Nat.le_add_right _ _).trans hfits)
    have hrounded : checkedAdd (bits * n) r = some (bits * n + r) := if_pos hfits
    rw [if_pos hfits, hscaled, Option.bind_eq_bind, Option.bind_some, hrounded, Option.bind_some,
      Option.pure_def]
  · rw [if_neg hfits]
    rcases totals_checkedMul bits n with hscaled | ⟨hscaled, -⟩
    · have hrounded : checkedAdd (bits * n) r = none := if_neg hfits
      rw [hscaled, Option.bind_eq_bind, Option.bind_some, hrounded, Option.bind_none]
    · rw [hscaled, Option.bind_eq_bind, Option.bind_none]

/-- The bound is missing exactly if the product with the numerator, rounded up, overflows. -/
theorem decimalStringUpperBoundFromBits_eq_none (bits : Nat) :
    decimalStringUpperBoundFromBits bits = none ↔ bits ≠ 0 ∧ usizeMax < bits * 30103 + 99999 := by
  by_cases hzero : bits = 0
  · subst hzero
    exact ⟨nofun, fun h => absurd rfl h.1⟩
  · have hnines : 100000 - 1 = 99999 := by decide
    unfold decimalStringUpperBoundFromBits magnitudeDigits
    rw [if_neg hzero, hnines, scaledQuotient]
    by_cases hfits : bits * 30103 + 99999 ≤ usizeMax
    · -- The quotient is far below the limit, so one more does not overflow.
      have hlast : (bits * 30103 + 99999) / 100000 + 1 ≤ usizeMax := by
        simp only [usizeMax] at hfits ⊢
        omega
      rw [if_pos hfits, Option.bind_eq_bind, Option.bind_some, checkedAdd, if_pos hlast]
      exact ⟨nofun, fun h => absurd h.2 (Nat.not_lt.mpr hfits)⟩
    · rw [if_neg hfits, Option.bind_eq_bind, Option.bind_none]
      exact ⟨fun _ => ⟨hzero, Nat.not_le.mp hfits⟩, fun _ => rfl⟩

theorem byteLen_bigNumber_le {value : Int} {bound : Nat}
    (h : decimalStringUpperBoundFromBits (Nat.size value.natAbs) = some bound) :
    byteLen (intText value) ≤ bound := by
  have hle := byteLen_intText_le_bound value
  rcases totals_bigNumber value with hsome | ⟨hnone, -⟩
  · rw [h] at hsome
    cases hsome
    exact hle
  · rw [h] at hnone
    cases hnone

/-- The stand-in for the logarithm is safe at every length, and gives no bound only where the
arithmetic overflows. -/
theorem decimal_bound_safe (value : Int) :
    byteLen (intText value) ≤ bigNumberBound value ∧
      (∀ bound, decimalStringUpperBoundFromBits (Nat.size value.natAbs) = some bound →
        (intText value).length ≤ bound) ∧
      ∀ bits, decimalStringUpperBoundFromBits bits = none ↔
        bits ≠ 0 ∧ usizeMax < bits * 30103 + 99999 := by
  refine ⟨byteLen_intText_le_bound value, fun bound hbound => ?_,
    decimalStringUpperBoundFromBits_eq_none⟩
  have hascii : (intText value).length ≤ byteLen (intText value) := length_le_byteLen _
  exact hascii.trans (byteLen_bigNumber_le hbound)

theorem decimal_bound_safe_large : (intText (-(2 ^ 64))).length ≤ 21 :=
  (decimal_bound_safe (-(2 ^ 64))).2.1 21 (by decide)

end

/-! ## The measure -/

section
variable {limit depth : Nat} {meter : CompositeMeter}

/-- Either the limit is far from an overflow, or there is no big number to bound. -/
def Boundable (limit : Nat) (nodes : List (RespValue φ)) : Prop :=
  limit ≤ maxMeasuredBytes ∨ ∀ node ∈ nodes, node.isBigNumber = false

theorem Boundable.mono {nodes nodes' : List (RespValue φ)} (h : Boundable limit nodes)
    (hsub : ∀ node ∈ nodes', node ∈ nodes) : Boundable limit nodes' :=
  h.imp_right fun hnone node hnode => hnone node (hsub node hnode)

theorem measured_add (hwithin : meter.Within limit) (hlimit : limit ≤ usizeMax)
    {result : Option Nat} {total : Nat} (htotal : Totals limit result total) :
    (result >>= fun n => meter.addBytes n) = meter.spend total 0 := by
  rcases htotal with rfl | ⟨rfl, hlarge⟩
  · exact hwithin.addBytes_eq hlimit
  · have hbytes := hwithin.bytes
    rw [CompositeMeter.spend, if_neg (by omega)]
    rfl

/-- What comes after some bytes. -/
theorem measured_then (hwithin : meter.Within limit) {bytes bytes' nodes' : Nat} {q : Prop}
    [Decidable q] {rest : CompositeMeter → Option CompositeMeter}
    (hrest : ∀ meter' : CompositeMeter, meter'.Within limit →
      rest meter' = if q then meter'.spend bytes' nodes' else none) :
    (meter.spend bytes 0).bind rest = if q then meter.spend (bytes + bytes') nodes' else none := by
  have hall : (if True then meter.spend bytes 0 else none).bind rest =
      if True ∧ q then meter.spend (bytes + bytes') (0 + nodes') else none :=
    CompositeMeter.measured_bind hwithin fun _ => hrest
  simpa only [true_and, if_true, Nat.zero_add] using hall

/-- A node, and what is measured in it. -/
theorem measured_node (hwithin : meter.Within limit) {bytes nodes height : Nat}
    {rest : CompositeMeter → Option CompositeMeter}
    (hrest : depth + 1 ≤ maxRedisDepth → ∀ meter' : CompositeMeter, meter'.Within limit →
      rest meter' =
        if depth + 1 + height ≤ maxRedisDepth then meter'.spend bytes nodes else none) :
    (meter.consumeNode depth).bind rest =
      if depth + (height + 1) ≤ maxRedisDepth then meter.spend bytes (nodes + 1) else none := by
  have hdepth : (depth + 1 ≤ maxRedisDepth ∧ depth + 1 + height ≤ maxRedisDepth) ↔
      depth + (height + 1) ≤ maxRedisDepth := by omega
  rw [hwithin.consumeNode_eq, CompositeMeter.measured_bind hwithin hrest, Nat.zero_add,
    Nat.add_comm 1 nodes]
  exact if_congr hdepth rfl rfl

/-- A leaf: one node and the bytes of its text. -/
theorem measured_leaf (hwithin : meter.Within limit) (hlimit : limit ≤ usizeMax)
    {result : Option Nat} {total : Nat} (htotal : Totals limit result total) :
    ((meter.consumeNode depth).bind fun meter => result >>= fun n => meter.addBytes n) =
      if depth + 1 ≤ maxRedisDepth then meter.spend total 1 else none := by
  have hleaf : ((meter.consumeNode depth).bind fun meter => result >>= fun n => meter.addBytes n) =
      if depth + (0 + 1) ≤ maxRedisDepth then meter.spend total (0 + 1) else none := by
    refine measured_node hwithin fun hdepth meter' hwithin' => ?_
    rw [measured_add hwithin' hlimit htotal, if_pos hdepth]
  simpa only [Nat.zero_add] using hleaf

/-- The brackets and commas of a container, and then its elements. -/
theorem measured_elements (hwithin : meter.Within limit) (hlimit : limit ≤ usizeMax)
    {length bytes nodes : Nat} {q : Prop} [Decidable q]
    {elements : CompositeMeter → Option CompositeMeter}
    (helements : ∀ meter' : CompositeMeter, meter'.Within limit →
      elements meter' = if q then meter'.spend bytes nodes else none) :
    ((checkedAdd 2 (length - 1)).bind fun n => (meter.addBytes n).bind elements) =
      if q then meter.spend (2 + (length - 1) + bytes) nodes else none := by
  have hbrackets := measured_add hwithin hlimit ((totals_checkedAdd 2 (length - 1)).mono hlimit)
  have hassoc : ((checkedAdd 2 (length - 1)).bind fun n => (meter.addBytes n).bind elements) =
      ((checkedAdd 2 (length - 1)).bind fun n => meter.addBytes n).bind elements := by
    rw [Option.bind_assoc]
  rw [hassoc]
  rw [Option.bind_eq_bind] at hbrackets
  rw [hbrackets]
  exact measured_then hwithin helements

end

/-! ## What a value spends -/

theorem measuredBytes_int (value : Int) :
    measuredBytes floats (.int value) = signedDecimalDigits value := by
  rw [signedDecimalDigits_eq]
  rfl

theorem measuredBytes_array (values : List (RespValue φ)) :
    measuredBytes floats (.array values) = 2 + (values.length - 1) +
      (itemsBytes floats values + nodesExcess (itemNodes values)) := by
  rw [measuredBytes, jsonBytes, replyNodes, nodesExcess_cons, excessBytes]
  · omega
  · nofun

theorem measuredBytes_set (values : List (RespValue φ)) :
    measuredBytes floats (.set values) = 2 + (values.length - 1) +
      (itemsBytes floats values + nodesExcess (itemNodes values)) := by
  rw [measuredBytes, jsonBytes, replyNodes, nodesExcess_cons, excessBytes]
  · omega
  · nofun

theorem measuredBytes_map (entries : List (RespValue φ × RespValue φ)) :
    measuredBytes floats (.map entries) = 2 + (entries.length - 1) +
      (entriesBytes floats entries + nodesExcess (entryNodes entries)) := by
  rw [measuredBytes, jsonBytes, replyNodes, nodesExcess_cons, excessBytes]
  · omega
  · nofun

theorem measuredBytes_attributed (data : RespValue φ)
    (attributes : List (RespValue φ × RespValue φ)) :
    measuredBytes floats (.attributed data attributes) = 23 +
      (2 + (attributes.length - 1) + (entriesBytes floats attributes +
        nodesExcess (entryNodes attributes) + measuredBytes floats data)) := by
  rw [measuredBytes, jsonBytes, replyNodes, nodesExcess_cons, nodesExcess_append, excessBytes,
    measuredBytes]
  · omega
  · nofun

theorem measuredBytes_push (data : List (RespValue φ)) :
    measuredBytes floats (.push data) = 23 + (2 + (data.length - 1) +
      (itemsBytes floats data + nodesExcess (itemNodes data))) := by
  rw [measuredBytes, jsonBytes, replyNodes, nodesExcess_cons, excessBytes]
  · omega
  · nofun

theorem measuredBytes_bigNumber (value : Int) :
    measuredBytes floats (.bigNumber value) = bigNumberBound value + 2 := by
  have hle := byteLen_intText_le_bound value
  rw [measuredBytes, jsonBytes, replyNodes, nodesExcess_cons, nodesExcess_nil, excessBytes]
  · omega
  all_goals nofun

section
variable {limit : Nat}

mutual

/-- The measure in closed form: the depth is looked at, and then bytes and nodes are spent. -/
theorem measured_value : ∀ (value : RespValue φ) {depth : Nat} {meter : CompositeMeter},
    limit ≤ usizeMax → meter.Within limit → Boundable limit (replyNodes value) →
    measureJsonValueInto floats depth meter value =
      if depth + replyHeight value ≤ maxRedisDepth then
        meter.spend (measuredBytes floats value) (replyNodes value).length
      else none
  | .nil, _, _, hlimit, hwithin, _ => measured_leaf hwithin hlimit (.inl rfl)
  | .int value, _, _, hlimit, hwithin, _ => by
      rw [measuredBytes_int]
      exact measured_leaf hwithin hlimit (.inl rfl)
  | .bulkString value, depth, meter, hlimit, hwithin, _ => by
      rw [measureJsonValueInto, measuredBytes, jsonBytes]
      cases htext : decodeUtf8 value with
      | some text => exact measured_leaf hwithin hlimit ((totals_jsonStringBytes text).mono hlimit)
      | none =>
          have hbase := (totals_base64 value.length).mono hlimit
          rw [← byteLen_encodeStandard] at hbase
          have hleaf := @measured_leaf limit depth meter hwithin hlimit _ _ hbase
          simp only [Option.bind_eq_bind, Option.bind_assoc, decimalDigits_eq] at hleaf ⊢
          exact hleaf
  | .simpleString value, _, _, hlimit, hwithin, _ =>
      measured_leaf hwithin hlimit ((totals_jsonStringBytes value).mono hlimit)
  | .okay, _, _, hlimit, hwithin, _ => measured_leaf hwithin hlimit (.inl rfl)
  | .double value, _, _, hlimit, hwithin, _ => measured_leaf hwithin hlimit (.inl rfl)
  | .boolean value, _, _, hlimit, hwithin, _ => measured_leaf hwithin hlimit (.inl rfl)
  | .array values, _, _, hlimit, hwithin, hbig => by
      have hitems := hbig.mono fun node hnode => List.mem_cons_of_mem _ hnode
      rw [measuredBytes_array]
      exact measured_node hwithin fun hdepth _ hwithin₁ => measured_elements hwithin₁ hlimit
        fun _ hwithin₂ => measured_values values hlimit hdepth hwithin₂ hitems
  | .set values, _, _, hlimit, hwithin, hbig => by
      have hitems := hbig.mono fun node hnode => List.mem_cons_of_mem _ hnode
      rw [measuredBytes_set]
      exact measured_node hwithin fun hdepth _ hwithin₁ => measured_elements hwithin₁ hlimit
        fun _ hwithin₂ => measured_values values hlimit hdepth hwithin₂ hitems
  | .map entries, _, _, hlimit, hwithin, hbig => by
      have hentries := hbig.mono fun node hnode => List.mem_cons_of_mem _ hnode
      rw [measuredBytes_map]
      exact measured_node hwithin fun hdepth _ hwithin₁ => measured_elements hwithin₁ hlimit
        fun _ hwithin₂ => measured_entries entries hlimit hdepth hwithin₂ hentries
  | .attributed data attributes, depth, meter, hlimit, hwithin, hbig => by
      have hentries : Boundable limit (entryNodes attributes) := hbig.mono fun node hnode =>
        List.mem_cons_of_mem _ (List.mem_append_left _ hnode)
      have hdata : Boundable limit (replyNodes data) := hbig.mono fun node hnode =>
        List.mem_cons_of_mem _ (List.mem_append_right _ hnode)
      have hnodes : (replyNodes (.attributed data attributes)).length =
          (entryNodes attributes).length + (replyNodes data).length + 1 := by
        rw [replyNodes, List.length_cons, List.length_append]
      have hheight : ∀ depth, (depth + entriesHeight attributes ≤ maxRedisDepth ∧
          depth + replyHeight data ≤ maxRedisDepth) ↔
            depth + max (entriesHeight attributes) (replyHeight data) ≤ maxRedisDepth := by
        intro depth
        omega
      rw [measuredBytes_attributed, hnodes]
      refine measured_node hwithin fun hdepth m₁ hwithin₁ => ?_
      rw [hwithin₁.addBytes_eq hlimit]
      refine measured_then hwithin₁ fun m₂ hwithin₂ => measured_elements hwithin₂ hlimit
        fun m₃ hwithin₃ => ?_
      rw [← if_congr (hheight (depth + 1)) rfl rfl, Option.bind_eq_bind,
        measured_entries attributes hlimit hdepth hwithin₃ hentries]
      exact CompositeMeter.measured_bind hwithin₃ fun _ m₄ hwithin₄ =>
        measured_value data hlimit hwithin₄ hdata
  | .verbatimString text, _, _, hlimit, hwithin, _ =>
      measured_leaf hwithin hlimit ((totals_jsonStringBytes text).mono hlimit)
  | .bigNumber value, depth, meter, hlimit, hwithin, hbig => by
      have hsmall : limit ≤ maxMeasuredBytes := by
        rcases hbig with hsmall | hnone
        · exact hsmall
        · exact absurd (hnone _ List.mem_cons_self) (by simp [RespValue.isBigNumber])
      have hquoted : Totals limit (decimalStringUpperBoundFromBits (Nat.size value.natAbs) >>=
          fun bound => checkedAdd bound 2) (bigNumberBound value + 2) :=
        ((totals_bigNumber value).mono hsmall).bind ((totals_checkedAdd _ 2).mono hlimit)
          (Nat.le_add_right _ 2)
      have hleaf := @measured_leaf limit depth meter hwithin hlimit _ _ hquoted
      rw [measuredBytes_bigNumber, measureJsonValueInto]
      simp only [Option.bind_eq_bind, Option.bind_assoc] at hleaf ⊢
      exact hleaf
  | .push data, _, _, hlimit, hwithin, hbig => by
      have hitems := hbig.mono fun node hnode => List.mem_cons_of_mem _ hnode
      rw [measuredBytes_push]
      refine measured_node hwithin fun hdepth m₁ hwithin₁ => ?_
      rw [hwithin₁.addBytes_eq hlimit]
      exact measured_then hwithin₁ fun _ hwithin₂ => measured_elements hwithin₂ hlimit
        fun _ hwithin₃ => measured_values data hlimit hdepth hwithin₃ hitems
  | .serverError, _, _, hlimit, hwithin, _ =>
      measured_leaf hwithin hlimit ((totals_jsonStringBytes _).mono hlimit)
  | .unsupported, _, _, hlimit, hwithin, _ =>
      measured_leaf hwithin hlimit ((totals_jsonStringBytes _).mono hlimit)

theorem measured_values : ∀ (values : List (RespValue φ)) {depth : Nat} {meter : CompositeMeter},
    limit ≤ usizeMax → depth ≤ maxRedisDepth → meter.Within limit →
    Boundable limit (itemNodes values) →
    measureJsonArray floats depth meter values =
      if depth + itemsHeight values ≤ maxRedisDepth then
        meter.spend (itemsBytes floats values + nodesExcess (itemNodes values))
          (itemNodes values).length
      else none
  | [], depth, meter, _, hdepth, _, _ => by
      have hzero : depth + itemsHeight ([] : List (RespValue φ)) ≤ maxRedisDepth := hdepth
      rw [if_pos hzero]
      exact (CompositeMeter.spend_zero meter).symm
  | value :: values, depth, meter, hlimit, hdepth, hwithin, hbig => by
      have hfirst : Boundable limit (replyNodes value) :=
        hbig.mono fun node hnode => List.mem_append_left _ hnode
      have hrest : Boundable limit (itemNodes values) :=
        hbig.mono fun node hnode => List.mem_append_right _ hnode
      have hheight : (depth + replyHeight value ≤ maxRedisDepth ∧
          depth + itemsHeight values ≤ maxRedisDepth) ↔
            depth + itemsHeight (value :: values) ≤ maxRedisDepth := by
        rw [itemsHeight]
        omega
      have hbytes : itemsBytes floats (value :: values) + nodesExcess (itemNodes (value :: values)) =
          measuredBytes floats value +
            (itemsBytes floats values + nodesExcess (itemNodes values)) := by
        rw [itemsBytes, itemNodes, nodesExcess_append, measuredBytes]
        omega
      rw [← if_congr hheight rfl rfl, hbytes, itemNodes, List.length_append, measureJsonArray,
        measured_value value hlimit hwithin hfirst]
      exact CompositeMeter.measured_bind hwithin fun _ _ hwithin' =>
        measured_values values hlimit hdepth hwithin' hrest

theorem measured_entries : ∀ (entries : List (RespValue φ × RespValue φ)) {depth : Nat}
    {meter : CompositeMeter},
    limit ≤ usizeMax → depth ≤ maxRedisDepth → meter.Within limit →
    Boundable limit (entryNodes entries) →
    measureJsonEntries floats depth meter entries =
      if depth + entriesHeight entries ≤ maxRedisDepth then
        meter.spend (entriesBytes floats entries + nodesExcess (entryNodes entries))
          (entryNodes entries).length
      else none
  | [], depth, meter, _, hdepth, _, _ => by
      have hzero : depth + entriesHeight ([] : List (RespValue φ × RespValue φ)) ≤ maxRedisDepth :=
        hdepth
      rw [if_pos hzero]
      exact (CompositeMeter.spend_zero meter).symm
  | (key, value) :: entries, depth, meter, hlimit, hdepth, hwithin, hbig => by
      have hkey : Boundable limit (replyNodes key) :=
        hbig.mono fun node hnode => List.mem_append_left _ hnode
      have hvalue : Boundable limit (replyNodes value) := hbig.mono fun node hnode =>
        List.mem_append_right _ (List.mem_append_left _ hnode)
      have hrest : Boundable limit (entryNodes entries) := hbig.mono fun node hnode =>
        List.mem_append_right _ (List.mem_append_right _ hnode)
      have hheight : (depth + replyHeight key ≤ maxRedisDepth ∧
          depth + replyHeight value ≤ maxRedisDepth ∧
            depth + entriesHeight entries ≤ maxRedisDepth) ↔
              depth + entriesHeight ((key, value) :: entries) ≤ maxRedisDepth := by
        rw [entriesHeight]
        omega
      have hbytes : entriesBytes floats ((key, value) :: entries) +
          nodesExcess (entryNodes ((key, value) :: entries)) =
            17 + (measuredBytes floats key + (measuredBytes floats value +
              (entriesBytes floats entries + nodesExcess (entryNodes entries)))) := by
        rw [entriesBytes, entryNodes, nodesExcess_append, nodesExcess_append, measuredBytes,
          measuredBytes]
        omega
      rw [← if_congr hheight rfl rfl, hbytes, entryNodes, List.length_append, List.length_append,
        measureJsonEntries, hwithin.addBytes_eq hlimit]
      refine measured_then hwithin fun m₁ hwithin₁ => ?_
      rw [measured_value key hlimit hwithin₁ hkey]
      refine CompositeMeter.measured_bind hwithin₁ fun _ m₂ hwithin₂ => ?_
      rw [measured_value value hlimit hwithin₂ hvalue]
      exact CompositeMeter.measured_bind hwithin₂ fun _ _ hwithin₃ =>
        measured_entries entries hlimit hdepth hwithin₃ hrest

end

end

/-! ## The measure of a composite -/

/-- The length of the JSON of a value. -/
def encodedLen (value : RespValue φ) : Nat :=
  byteLen (jsonText floats (cellJson (valueCellComplete value)))

theorem measuredBytes_eq (value : RespValue φ) :
    measuredBytes floats value = encodedLen floats value + nodesExcess (replyNodes value) := by
  rw [measuredBytes, encodedLen, jsonText_value]

/-- A value is admitted when its depth, its nodes and its bytes are within the limits. -/
def Admitted (value : RespValue φ) (nodes bytes : Nat) : Prop :=
  replyHeight value ≤ maxRedisDepth ∧ (replyNodes value).length ≤ nodes ∧
    measuredBytes floats value ≤ bytes

instance (value : RespValue φ) (nodes bytes : Nat) : Decidable (Admitted floats value nodes bytes) :=
  inferInstanceAs (Decidable (_ ∧ _ ∧ _))

theorem measureComposite_eq {value : RespValue φ} {remainingNodes byteLimit : Nat}
    (hnodes : remainingNodes ≤ usizeMax) (hlimit : byteLimit ≤ usizeMax)
    (hbig : Boundable byteLimit (replyNodes value)) :
    measureComposite floats value remainingNodes byteLimit =
      if Admitted floats value remainingNodes byteLimit then
        some ⟨remainingNodes - (replyNodes value).length, byteLimit - measuredBytes floats value,
          (replyNodes value).length, measuredBytes floats value⟩
      else none := by
  have hwithin : CompositeMeter.Within byteLimit ⟨remainingNodes, byteLimit, 0, 0⟩ := by
    constructor <;> dsimp only <;> omega
  have hmeasured : measureComposite floats value remainingNodes byteLimit =
      if 0 + replyHeight value ≤ maxRedisDepth then
        CompositeMeter.spend ⟨remainingNodes, byteLimit, 0, 0⟩ (measuredBytes floats value)
          (replyNodes value).length
      else none := measured_value floats value hlimit hwithin hbig
  rw [hmeasured, Nat.zero_add, CompositeMeter.spend, Nat.zero_add, Nat.zero_add]
  by_cases hheight : replyHeight value ≤ maxRedisDepth
  · rw [if_pos hheight]
    exact if_congr ⟨fun h => ⟨hheight, h⟩, fun h => h.2⟩ rfl rfl
  · rw [if_neg hheight, if_neg fun h => hheight h.1]

theorem decodeComposite_eq (value : RespValue φ) {budget : DecodeBudget}
    (hnodes : budget.remainingNodes ≤ usizeMax) :
    decodeComposite floats value budget =
      if Admitted floats value budget.remainingNodes (min budget.remainingBytes maxRedisCellBytes)
      then
        (some ⟨valueCellComplete value, false⟩,
          { budget with
            remainingNodes := budget.remainingNodes - (replyNodes value).length
            remainingBytes := budget.remainingBytes - measuredBytes floats value })
      else (none, { budget with truncated := true }) := by
  have hcap : min budget.remainingBytes maxRedisCellBytes ≤ maxMeasuredBytes :=
    (Nat.min_le_right _ _).trans (by decide)
  have hlimit : maxMeasuredBytes ≤ usizeMax := by decide
  rw [decodeComposite, measureComposite_eq floats hnodes (hcap.trans hlimit) (.inl hcap)]
  by_cases hadmitted : Admitted floats value budget.remainingNodes
      (min budget.remainingBytes maxRedisCellBytes)
  · rw [if_pos hadmitted, if_pos hadmitted]
  · rw [if_neg hadmitted, if_neg hadmitted]

/-- **The meter.** A composite is refused exactly when its depth, its nodes or its bytes exceed
the limits. Otherwise its nodes are counted, and the length of its JSON, apart from the excess of
big numbers; so that a decoded composite has at most 64 KiB of JSON. -/
theorem composite_measure_exact (value : RespValue φ) (remainingNodes byteLimit : Nat)
    (hnodes : remainingNodes ≤ usizeMax) (hlimit : byteLimit ≤ usizeMax)
    (hbig : Boundable byteLimit (replyNodes value)) :
    (measureComposite floats value remainingNodes byteLimit = none ↔
        maxRedisDepth < replyHeight value ∨ remainingNodes < (replyNodes value).length ∨
          byteLimit < encodedLen floats value + nodesExcess (replyNodes value)) ∧
      (∀ measure, measureComposite floats value remainingNodes byteLimit = some measure →
        measure.nodes = (replyNodes value).length ∧
          encodedLen floats value ≤ measure.encodedBytes ∧
          ((∀ node ∈ replyNodes value, node.isBigNumber = false) →
            measure.encodedBytes = encodedLen floats value)) ∧
      ∀ budget decoded budget', budget.remainingNodes ≤ usizeMax →
        decodeComposite floats value budget = (some decoded, budget') →
          byteLen (jsonText floats (cellJson decoded.cell)) ≤ maxRedisCellBytes := by
  have hmeasure := measureComposite_eq floats hnodes hlimit hbig
  have hbytes := measuredBytes_eq floats value
  refine ⟨?_, ?_, ?_⟩
  · rw [hmeasure, ← hbytes]
    by_cases hadmitted : Admitted floats value remainingNodes byteLimit
    · rw [if_pos hadmitted]
      obtain ⟨hheight, hcount, hlen⟩ := hadmitted
      exact ⟨nofun, fun h => by omega⟩
    · rw [if_neg hadmitted]
      simp only [Admitted, not_and_or, not_le] at hadmitted
      exact ⟨fun _ => hadmitted, fun _ => rfl⟩
  · intro measure hsome
    rw [hmeasure] at hsome
    split at hsome
    · cases hsome
      refine ⟨rfl, ?_, fun hnone => ?_⟩
      · dsimp only
        omega
      · dsimp only
        rw [hbytes, nodesExcess_eq_zero hnone, Nat.add_zero]
    · cases hsome
  · intro budget decoded budget' hbudget hdecoded
    rw [decodeComposite_eq floats value hbudget] at hdecoded
    split at hdecoded
    · next hadmitted =>
      cases hdecoded
      have hcap := hadmitted.2.2.trans (Nat.min_le_right _ _)
      change encodedLen floats value ≤ maxRedisCellBytes
      omega
    · cases hdecoded

/-- Bytes that are no text, and a big number. -/
def mixedReply : RespValue Empty := .map [(.bulkString [0xff], .bigNumber (2 ^ 70))]

theorem composite_measure_mixed :
    Boundable 64 (replyNodes mixedReply) ∧
      (measureComposite noFloats mixedReply 3 64 = none ↔
        maxRedisDepth < replyHeight mixedReply ∨ 3 < (replyNodes mixedReply).length ∨
          64 < encodedLen noFloats mixedReply + nodesExcess (replyNodes mixedReply)) := by
  have hbig : Boundable 64 (replyNodes mixedReply) := .inl (by decide)
  exact ⟨hbig, (composite_measure_exact noFloats mixedReply 3 64 (by decide) (by decide) hbig).1⟩

end Dbotter.Drivers
