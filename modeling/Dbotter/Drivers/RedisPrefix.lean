import Dbotter.Drivers.RedisMeter

/-!
A decoded reply is a prefix of the whole reply.

Every row is decoded completely, whatever it costs. A text that crosses a limit is the last row:
the retention cuts it later, so the decoder reports a truncation although it has lost nothing yet.
-/

namespace Dbotter.Drivers
open Dbotter.Utf8 Dbotter.Configuration Dbotter.Results Dbotter.Numerals Dbotter.Json

variable {φ : Type} (floats : Floats φ)

/-! ## What a value costs -/

/-- The values that get a row. -/
def replyItems : RespValue φ → List (RespValue φ)
  | .array values => values
  | value => [value]

/-- The bytes that the decoder charges for a value. A number that is too large to be measured
costs more than there is. -/
def chargedBytes (value : RespValue φ) : Nat :=
  if isComposite value then measuredBytes floats value
  else ((scalarMeasure floats value).map (·.1)).getD (maxResultBytes + 1)

/-- A scalar that may be cut to a preview later. -/
def isPreviewable (value : RespValue φ) : Bool :=
  !isComposite value && (scalarMeasure floats value).any (·.2)

def chargedTotal (values : List (RespValue φ)) : Nat := (values.map (chargedBytes floats)).sum

def nodesTotal (values : List (RespValue φ)) : Nat :=
  (values.map fun value => (replyNodes value).length).sum

/-- The row of a value that is decoded completely. -/
def completeRow (value : RespValue φ) : List (Cell φ (Number φ)) := [valueCellComplete value]

/-- With `remaining` bytes left, the last of the values is a text that crosses a limit. -/
def CrossesLast (remaining : Nat) (values : List (RespValue φ)) : Prop :=
  ∃ before last, values = before ++ [last] ∧ isPreviewable floats last = true ∧
    (maxRedisCellBytes < chargedBytes floats last ∨
      remaining < chargedTotal floats before + chargedBytes floats last)

/-! ## One value -/

section
variable {value : RespValue φ} {budget : DecodeBudget}

theorem replyNodes_scalar (h : isComposite value = false) : (replyNodes value).length = 1 := by
  cases value <;> first | rfl | cases h

/-- The value fits, with nodes and bytes to spare. -/
structure Affordable (value : RespValue φ) (budget : DecodeBudget) : Prop where
  nodes : (replyNodes value).length ≤ budget.remainingNodes
  cap : chargedBytes floats value ≤ maxRedisCellBytes
  bytes : chargedBytes floats value ≤ budget.remainingBytes

/-- What the budget is after a value that fits. -/
def DecodeBudget.charge (budget : DecodeBudget) (value : RespValue φ) : DecodeBudget :=
  { budget with
    remainingNodes := budget.remainingNodes - (replyNodes value).length
    remainingBytes := budget.remainingBytes - chargedBytes floats value }

/-- The value is a text that crosses a limit, with a node to spare. -/
structure Crossing (value : RespValue φ) (budget : DecodeBudget) : Prop where
  nodes : (replyNodes value).length ≤ budget.remainingNodes
  previewable : isPreviewable floats value = true
  crosses : maxRedisCellBytes < chargedBytes floats value ∨
    budget.remainingBytes < chargedBytes floats value

theorem decodeScalar_cases (hscalar : isComposite value = false) :
    decodeScalar floats value budget = (none, { budget with truncated := true }) ∨
      Affordable floats value budget ∧
        decodeScalar floats value budget =
          (some ⟨valueCellComplete value, false⟩, budget.charge floats value) ∨
      Crossing floats value budget ∧ ∃ budget',
        decodeScalar floats value budget = (some ⟨valueCellComplete value, true⟩, budget') := by
  have hone := replyNodes_scalar hscalar
  unfold decodeScalar
  by_cases hnodes : 1 ≤ budget.remainingNodes
  · simp only [checkedSub, if_pos hnodes]
    cases hmeasure : scalarMeasure floats value with
    | none => exact .inl rfl
    | some measure =>
        obtain ⟨bytes, previewable⟩ := measure
        have hcharged : chargedBytes floats value = bytes := by
          simp [chargedBytes, hscalar, hmeasure]
        by_cases hcross : bytes > maxRedisCellBytes ∨ bytes > budget.remainingBytes
        · simp only [decide_eq_true hcross, Bool.true_and]
          cases previewable with
          | false => exact .inl rfl
          | true =>
              have hpreview : isPreviewable floats value = true := by
                simp [isPreviewable, hscalar, hmeasure]
              exact .inr (.inr ⟨⟨by omega, hpreview, by rwa [hcharged]⟩, _, rfl⟩)
        · simp only [decide_eq_false hcross, Bool.false_and]
          refine .inr (.inl ⟨⟨by omega, by omega, by omega⟩, ?_⟩)
          simp [DecodeBudget.charge, hone, hcharged]
  · simp only [checkedSub, if_neg hnodes]
    exact .inl trivial

/-- A value is refused, or it fits, or it is a text that crosses a limit. Only the first leaves
no row. -/
theorem decodeValueCell_cases (hnodes : budget.remainingNodes ≤ usizeMax) :
    decodeValueCell floats value budget = (none, { budget with truncated := true }) ∨
      Affordable floats value budget ∧
        decodeValueCell floats value budget =
          (some ⟨valueCellComplete value, false⟩, budget.charge floats value) ∨
      Crossing floats value budget ∧ ∃ budget',
        decodeValueCell floats value budget = (some ⟨valueCellComplete value, true⟩, budget') := by
  cases hcomposite : isComposite value with
  | true =>
      have hcharged : chargedBytes floats value = measuredBytes floats value := by
        simp [chargedBytes, hcomposite]
      rw [decodeValueCell, if_pos hcomposite, decodeComposite_eq floats value hnodes]
      split
      · next hadmitted =>
        obtain ⟨-, hcount, hbytes⟩ := hadmitted
        have hcap := hbytes.trans (Nat.min_le_right _ _)
        have hleft := hbytes.trans (Nat.min_le_left _ _)
        refine .inr (.inl ⟨⟨hcount, by omega, by omega⟩, ?_⟩)
        rw [DecodeBudget.charge, hcharged]
      · exact .inl rfl
  | false =>
      rw [decodeValueCell, if_neg (by simp [hcomposite])]
      exact decodeScalar_cases floats hcomposite

end

/-! ## The loop -/

@[simp] theorem chargedTotal_cons (value : RespValue φ) (values : List (RespValue φ)) :
    chargedTotal floats (value :: values) =
      chargedBytes floats value + chargedTotal floats values := by
  rw [chargedTotal, List.map_cons, List.sum_cons, chargedTotal]

@[simp] theorem nodesTotal_cons (value : RespValue φ) (values : List (RespValue φ)) :
    nodesTotal (value :: values) = (replyNodes value).length + nodesTotal values := by
  rw [nodesTotal, List.map_cons, List.sum_cons, nodesTotal]

/-- The values `kept` got their rows; all of them fit, or all but the last. -/
structure Decodes (values kept : List (RespValue φ)) (budget : DecodeBudget) (truncated : Bool) :
    Prop where
  kept_pre : kept <+: values
  nodes : nodesTotal kept ≤ budget.remainingNodes
  bytes : ¬ CrossesLast floats budget.remainingBytes kept →
    chargedTotal floats kept ≤ budget.remainingBytes
  cap : ¬ CrossesLast floats budget.remainingBytes kept →
    ∀ value ∈ kept, chargedBytes floats value ≤ maxRedisCellBytes
  before : chargedTotal floats kept.dropLast ≤ budget.remainingBytes
  whole : truncated = false ↔ kept = values ∧ ¬ CrossesLast floats budget.remainingBytes kept

section
variable {value : RespValue φ} {values kept : List (RespValue φ)} {budget : DecodeBudget}
  {truncated : Bool}

theorem not_crossesLast_nil (remaining : Nat) : ¬ CrossesLast floats remaining [] := by
  rintro ⟨before, last, hnil, -⟩
  exact absurd hnil (by simp)

theorem Decodes.nil (h : truncated = false) : Decodes floats [] [] budget truncated where
  kept_pre := List.prefix_rfl
  nodes := Nat.zero_le _
  bytes := fun _ => Nat.zero_le _
  cap := fun _ => nofun
  before := Nat.zero_le _
  whole := ⟨fun _ => ⟨rfl, not_crossesLast_nil floats _⟩, fun _ => h⟩

theorem Decodes.none (values : List (RespValue φ)) (hrest : values ≠ []) :
    Decodes floats values [] budget true where
  kept_pre := List.nil_prefix
  nodes := Nat.zero_le _
  bytes := fun _ => Nat.zero_le _
  cap := fun _ => nofun
  before := Nat.zero_le _
  whole := ⟨nofun, fun h => absurd h.1.symm hrest⟩

theorem Decodes.crossing (h : Crossing floats value budget) :
    Decodes floats (value :: values) [value] budget true := by
  have hcross : CrossesLast floats budget.remainingBytes [value] :=
    ⟨[], value, rfl, h.previewable, by simpa [chargedTotal] using h.crosses⟩
  refine ⟨⟨values, rfl⟩, ?_, fun hnot => absurd hcross hnot, fun hnot => absurd hcross hnot,
    Nat.zero_le _, ⟨nofun, fun hwhole => absurd hcross hwhole.2⟩⟩
  simpa [nodesTotal] using h.nodes

/-- A value that fits in front does not change what crosses behind it. -/
theorem crossesLast_cons (h : Affordable floats value budget) :
    CrossesLast floats budget.remainingBytes (value :: kept) ↔
      CrossesLast floats (budget.charge floats value).remainingBytes kept := by
  have hbytes := h.bytes
  have hcap := h.cap
  have hcharge : (budget.charge floats value).remainingBytes =
      budget.remainingBytes - chargedBytes floats value := rfl
  constructor
  · rintro ⟨before, last, heq, hpreview, hcross⟩
    cases before with
    | nil =>
        cases heq
        simp only [chargedTotal, List.map_nil, List.sum_nil] at hcross
        omega
    | cons first before =>
        obtain ⟨rfl, rfl⟩ := List.cons.inj heq
        rw [chargedTotal_cons] at hcross
        exact ⟨before, last, rfl, hpreview, by omega⟩
  · rintro ⟨before, last, rfl, hpreview, hcross⟩
    refine ⟨value :: before, last, rfl, hpreview, ?_⟩
    rw [chargedTotal_cons]
    omega

theorem Decodes.cons (h : Affordable floats value budget)
    (hrest : Decodes floats values kept (budget.charge floats value) truncated) :
    Decodes floats (value :: values) (value :: kept) budget truncated := by
  have hnodes := h.nodes
  have hbytes := h.bytes
  have hleft : (budget.charge floats value).remainingNodes =
      budget.remainingNodes - (replyNodes value).length := rfl
  have hroom : (budget.charge floats value).remainingBytes =
      budget.remainingBytes - chargedBytes floats value := rfl
  constructor
  · exact List.cons_prefix_cons.mpr ⟨rfl, hrest.kept_pre⟩
  · have hcount := hrest.nodes
    rw [nodesTotal_cons]
    omega
  · intro hnot
    have hfits := hrest.bytes fun hcross => hnot ((crossesLast_cons floats h).mpr hcross)
    rw [chargedTotal_cons]
    omega
  · intro hnot other hother
    rcases List.mem_cons.mp hother with rfl | hother
    · exact h.cap
    · exact hrest.cap (fun hcross => hnot ((crossesLast_cons floats h).mpr hcross)) other hother
  · have hbefore := hrest.before
    cases kept with
    | nil => exact Nat.zero_le _
    | cons next kept =>
        rw [List.dropLast_cons_cons, chargedTotal_cons]
        omega
  · rw [hrest.whole, crossesLast_cons floats h, List.cons_inj_right]

theorem decodeRows_decodes (values : List (RespValue φ)) (hnodes : budget.remainingNodes ≤ usizeMax)
    (hbudget : budget.truncated = false) :
    ∃ kept, (decodeRows floats values budget).1 = kept.map completeRow ∧
      Decodes floats values kept budget (decodeRows floats values budget).2 := by
  induction values generalizing budget with
  | nil =>
      exact ⟨[], rfl, Decodes.nil floats hbudget⟩
  | cons value values ih =>
      rw [decodeRows]
      rcases @decodeValueCell_cases φ floats value budget hnodes with
        hnone | ⟨haffordable, hsome⟩ | ⟨hcrossing, budget', hsome⟩
      · rw [hnone]
        exact ⟨[], rfl, Decodes.none floats _ (List.cons_ne_nil _ _)⟩
      · have hcharged : (budget.charge floats value).remainingNodes ≤ usizeMax :=
          (Nat.sub_le _ _).trans hnodes
        obtain ⟨kept, hrows, hdecodes⟩ := ih hcharged hbudget
        rw [hsome]
        refine ⟨value :: kept, ?_, hdecodes.cons floats haffordable⟩
        rw [List.map_cons, ← hrows]
        rfl
      · rw [hsome]
        exact ⟨[value], rfl, Decodes.crossing floats hcrossing⟩

end

/-! ## The reply -/

theorem replyItems_single {value : RespValue φ} (h : ∀ values, value = .array values → False) :
    replyItems value = [value] := by
  cases value with
  | array values => exact (h values rfl).elim
  | _ => rfl

/-- The values that are decoded, and what they cost. -/
theorem valueRows_decodes (value : RespValue φ) (rowLimit : Nat) :
    ∃ kept, (valueRows floats value rowLimit).1 = kept.map completeRow ∧
      kept <+: (replyItems value).take rowLimit ∧
      Decodes floats (replyItems value) kept ⟨maxRedisCells, maxResultBytes, false⟩
        (valueRows floats value rowLimit).2 := by
  have hnodes : maxRedisCells ≤ usizeMax := by decide
  unfold valueRows
  split
  · next values =>
    obtain ⟨kept, hrows, hdecodes⟩ := @decodeRows_decodes φ floats
      ⟨maxRedisCells, maxResultBytes, false⟩ (values.take rowLimit) hnodes rfl
    refine ⟨kept, hrows, hdecodes.kept_pre, hdecodes.kept_pre.trans (List.take_prefix _ _),
      hdecodes.nodes, hdecodes.bytes, hdecodes.cap, hdecodes.before, ?_⟩
    rw [Bool.or_eq_false_iff, hdecodes.whole, decide_eq_false_iff_not, not_lt]
    constructor
    · rintro ⟨hshort, hkept, hnot⟩
      exact ⟨by rw [hkept, List.take_of_length_le hshort, replyItems], hnot⟩
    · rintro ⟨hkept, hnot⟩
      have hall : kept = values := hkept
      have hshort : values.length ≤ rowLimit := by
        have hlen := hdecodes.kept_pre.length_le
        rw [hall, List.length_take] at hlen
        omega
      exact ⟨hshort, by rw [hall, List.take_of_length_le hshort], hnot⟩
  · next hsingle =>
    rw [replyItems_single hsingle]
    by_cases hzero : rowLimit = 0
    · rw [if_pos hzero]
      exact ⟨[], rfl, List.nil_prefix, Decodes.none floats _ (List.cons_ne_nil _ _)⟩
    · rw [if_neg hzero]
      have htake : [value].take rowLimit = [value] :=
        List.take_of_length_le (by rw [List.length_singleton]; omega)
      rw [htake]
      rcases @decodeValueCell_cases φ floats value ⟨maxRedisCells, maxResultBytes, false⟩ hnodes with
        hnone | ⟨haffordable, hsome⟩ | ⟨hcrossing, budget', hsome⟩
      · rw [hnone]
        exact ⟨[], rfl, List.nil_prefix, Decodes.none floats _ (List.cons_ne_nil _ _)⟩
      · rw [hsome]
        exact ⟨[value], rfl, List.prefix_rfl, (Decodes.nil floats rfl).cons floats haffordable⟩
      · rw [hsome]
        exact ⟨[value], rfl, List.prefix_rfl, Decodes.crossing floats hcrossing⟩

/-- **Bounded decoding.** The rows are those of the first values of the reply, completely decoded.
No truncation is reported exactly if there are no other values and the last is not a text that
crosses a limit. The nodes are at most 10,000, and all values, or all but such a last text, fit
into 8 MiB. -/
theorem value_rows_bounded (value : RespValue φ) (rowLimit : Nat) :
    ∃ kept, (valueRows floats value rowLimit).1 = kept.map completeRow ∧
      kept <+: (replyItems value).take rowLimit ∧
      ((valueRows floats value rowLimit).2 = false ↔
        kept = replyItems value ∧ ¬ CrossesLast floats maxResultBytes kept) ∧
      nodesTotal kept ≤ maxRedisCells ∧
      (¬ CrossesLast floats maxResultBytes kept → chargedTotal floats kept ≤ maxResultBytes) ∧
      chargedTotal floats kept.dropLast ≤ maxResultBytes := by
  obtain ⟨kept, hrows, hkept, hdecodes⟩ := valueRows_decodes floats value rowLimit
  exact ⟨kept, hrows, hkept, hdecodes.whole, hdecodes.nodes, hdecodes.bytes, hdecodes.before⟩

theorem valueRows_long {text : List UInt8} (hlen : text.length = maxRedisCellBytes + 1) :
    valueRows noFloats (.bulkString text) 1 = ([completeRow (.bulkString text)], true) := by
  have hnodes : checkedSub maxRedisCells 1 = some 9999 := by decide
  simp [valueRows, decodeValueCell, isComposite, decodeScalar, scalarMeasure, hlen, hnodes,
    completeRow]

/-- One text of 64 KiB and a byte: it is decoded completely, and reported as truncated. -/
theorem value_rows_crossing : ¬ ∀ (value : RespValue Empty) (rowLimit : Nat),
    (valueRows noFloats value rowLimit).2 = false ↔
      (valueRows noFloats value rowLimit).1 = (replyItems value).map completeRow := by
  intro h
  have hrows := valueRows_long (List.length_replicate (n := maxRedisCellBytes + 1)
    (a := (0x61 : UInt8)))
  have hcut := (h (.bulkString (List.replicate (maxRedisCellBytes + 1) 0x61)) 1).mpr
    (by rw [hrows]; rfl)
  rw [hrows] at hcut
  cases hcut

end Dbotter.Drivers
