import Mathlib.Data.Nat.Find
import Dbotter.Execution.WholeSelection
import Dbotter.Service.Mutations
import Dbotter.Text.Numerals

/-!
The ids that the program makes up for new profiles.

The slug of a name is words of small letters and digits with single hyphens between them. Its
allocation tries suffixes until one is free; among one more suffix than there are profiles one
is, and the counter of the loop does not saturate before it is reached.
-/

namespace Dbotter.Service
open Dbotter.Utf8 Dbotter.Execution Dbotter.Configuration Dbotter.Numerals

/-! ## Valid ids -/

def isIdChar (c : Char) : Bool := isAsciiAlphanumeric c || c == '.' || c == '_' || c == '-'

theorem isWhitespace_of_isIdChar {c : Char} (h : isIdChar c = true) : isWhitespace c = false := by
  simp only [isIdChar, isAsciiAlphanumeric, isAsciiAlphabetic, isAsciiDigit, Char.le_def,
    UInt32.le_iff_toNat_le, Bool.or_eq_true, Bool.and_eq_true, decide_eq_true_eq, beq_iff_eq] at h
  have hrange : c.toNat ≠ 32 ∧ 33 ≤ c.toNat ∧ c.toNat < 0x80 := by
    rcases h with ((h | rfl) | rfl) | rfl
    · simp only [Char.toNat, Char.reduceVal, UInt32.reduceToNat] at h ⊢
      omega
    all_goals decide
  simp only [isWhitespace, Bool.or_eq_false_iff, Bool.and_eq_false_imp, decide_eq_true_eq,
    decide_eq_false_iff_not, beq_eq_false_iff_ne]
  omega

theorem validProfileId_iff {value : Text} :
    validProfileId value = true ↔
      ∃ c s, value = c :: s ∧ isAsciiAlphanumeric c = true ∧ ∀ d ∈ s, isIdChar d = true := by
  cases value with
  | nil => simp [validProfileId, validName]
  | cons c s => simp [validProfileId, validName, isIdChar]

theorem isIdChar_of_mem {value : Text} (h : validProfileId value = true) {c : Char}
    (hc : c ∈ value) : isIdChar c = true := by
  obtain ⟨first, s, rfl, hfirst, hrest⟩ := validProfileId_iff.mp h
  rcases List.mem_cons.mp hc with rfl | hc
  · simp [isIdChar, hfirst]
  · exact hrest c hc

/-- Trimming changes nothing in an id that is otherwise valid. -/
theorem validateProfileId_ok_iff {value : Text} :
    validateProfileId value = .ok () ↔ validProfileId value = true := by
  unfold validateProfileId
  cases hvalid : validProfileId value with
  | false => simp
  | true =>
    have hblank : ∀ c ∈ value, isWhitespace c = false := fun c hc =>
      isWhitespace_of_isIdChar (isIdChar_of_mem hvalid hc)
    have htrim : trim value = value :=
      trim_eq_self (fun c hc => hblank c (List.mem_of_head? hc))
        fun c hc => hblank c (List.mem_of_getLast? hc)
    simp [htrim]

/-! ## Slugs -/

/-- A letter or a digit that is not a capital one. -/
def isSlugChar (c : Char) : Bool := isAsciiAlphanumeric c && asciiLowercase c == c

/-- Words of slug characters, with single hyphens between them. -/
inductive IsSlug : Text → Prop
  | single {c : Char} : isSlugChar c = true → IsSlug [c]
  | letter {s : Text} {c : Char} : IsSlug s → isSlugChar c = true → IsSlug (s ++ [c])
  | word {s : Text} {c : Char} : IsSlug s → isSlugChar c = true → IsSlug (s ++ ['-', c])

theorem asciiLowercase_toNat (c : Char) :
    (asciiLowercase c).toNat = if 'A' ≤ c ∧ c ≤ 'Z' then c.toNat + 32 else c.toNat := by
  unfold asciiLowercase
  split
  · next h =>
    have hsmall : c.toNat + 32 < 0xd800 := by
      have hle : c.toNat ≤ 90 := UInt32.le_iff_toNat_le.mp h.2
      omega
    rw [Char.ofNat, dif_pos (Or.inl hsmall)]
    rfl
  · rfl

theorem isSlugChar_asciiLowercase {c : Char} (h : isAsciiAlphanumeric c = true) :
    isSlugChar (asciiLowercase c) = true := by
  have hcode := asciiLowercase_toNat c
  simp only [isSlugChar, isAsciiAlphanumeric, isAsciiAlphabetic, isAsciiDigit, Char.le_def,
    UInt32.le_iff_toNat_le, Bool.or_eq_true, Bool.and_eq_true, decide_eq_true_eq, beq_iff_eq,
    Char.reduceVal, UInt32.reduceToNat] at h hcode ⊢
  have hval : ∀ d : Char, d.toNat = d.val.toNat := fun _ => rfl
  rw [hval, hval] at hcode
  constructor
  · split at hcode <;> omega
  · unfold asciiLowercase
    refine if_neg fun hupper => ?_
    simp only [Char.le_def, UInt32.le_iff_toNat_le, Char.reduceVal, UInt32.reduceToNat] at hupper
    change _ ≤ (asciiLowercase c).val.toNat ∧ (asciiLowercase c).val.toNat ≤ _ at hupper
    split at hcode <;> omega

namespace IsSlug

theorem ne_nil {s : Text} (h : IsSlug s) : s ≠ [] := by
  cases h <;> simp

theorem valid {s : Text} (h : IsSlug s) : validProfileId s = true := by
  have halnum : ∀ {c}, isSlugChar c = true → isAsciiAlphanumeric c = true := fun hc =>
    (Bool.and_eq_true_iff.mp hc).1
  have hid : ∀ {c}, isSlugChar c = true → isIdChar c = true := fun hc => by
    simp [isIdChar, halnum hc]
  induction h with
  | single hc => exact validProfileId_iff.mpr ⟨_, [], rfl, halnum hc, by simp⟩
  | letter hs hc ih =>
    obtain ⟨first, rest, rfl, hfirst, hrest⟩ := validProfileId_iff.mp ih
    refine validProfileId_iff.mpr ⟨first, _, rfl, hfirst, fun d hd => ?_⟩
    rcases List.mem_append.mp hd with hd | hd
    · exact hrest d hd
    · rw [List.mem_singleton.mp hd]
      exact hid hc
  | word hs hc ih =>
    obtain ⟨first, rest, rfl, hfirst, hrest⟩ := validProfileId_iff.mp ih
    refine validProfileId_iff.mpr ⟨first, _, rfl, hfirst, fun d hd => ?_⟩
    rcases List.mem_append.mp hd with hd | hd
    · exact hrest d hd
    · rcases List.mem_cons.mp hd with rfl | hd
      · rfl
      · rw [List.mem_singleton.mp hd]
        exact hid hc

end IsSlug

/-- The slug so far stays a slug. -/
theorem slugify_isSlug (text : Text) {slug : Text} (pending : Bool) (h : slug = [] ∨ IsSlug slug) :
    slugify slug pending text = [] ∨ IsSlug (slugify slug pending text) := by
  induction text generalizing slug pending with
  | nil => exact h
  | cons c text ih =>
    rw [slugify]
    split
    · next hc =>
      have hlower := isSlugChar_asciiLowercase hc
      refine ih _ (.inr ?_)
      rcases h with rfl | h
      · simpa using IsSlug.single hlower
      · have hne : slug.isEmpty = false := by simpa using h.ne_nil
        rw [hne]
        cases pending with
        | false => simpa using h.letter hlower
        | true => simpa using h.word hlower
    · exact ih _ h

/-- Reading a slug again leaves its text. -/
theorem slugify_slug {s : Text} (h : IsSlug s) (rest : Text) :
    slugify [] false (s ++ rest) = slugify s false rest := by
  have hchar : ∀ {c}, isSlugChar c = true → isAsciiAlphanumeric c = true ∧ asciiLowercase c = c :=
    fun hc => (Bool.and_eq_true_iff.mp hc).imp_right beq_iff_eq.mp
  induction h generalizing rest with
  | single hc =>
    obtain ⟨halnum, hlower⟩ := hchar hc
    rw [List.singleton_append, slugify, if_pos halnum, hlower]
    rfl
  | letter hs hc ih =>
    obtain ⟨halnum, hlower⟩ := hchar hc
    rw [List.append_assoc, ih, List.singleton_append, slugify, if_pos halnum, hlower]
    simp
  | word hs hc ih =>
    obtain ⟨halnum, hlower⟩ := hchar hc
    have hhyphen : isAsciiAlphanumeric '-' = false := by decide
    rw [List.append_assoc, ih, List.cons_append, List.singleton_append, slugify, hhyphen,
      if_neg Bool.false_ne_true, slugify, if_pos halnum, hlower]
    simp [hs.ne_nil]

theorem isSlug_slugifyProfileId (displayName : Text) : IsSlug (slugifyProfileId displayName) := by
  unfold slugifyProfileId
  rcases slugify_isSlug displayName false (.inl rfl) with h | h
  · rw [h]
    exact (((((((((IsSlug.single (c := 'c') rfl).letter (c := 'o') rfl).letter (c := 'n') rfl).letter
      (c := 'n') rfl).letter (c := 'e') rfl).letter (c := 'c') rfl).letter (c := 't') rfl).letter
      (c := 'i') rfl).letter (c := 'o') rfl).letter (c := 'n') rfl
  · rw [if_neg (by simpa using h.ne_nil)]
    exact h

theorem slugifyProfileId_of_isSlug {s : Text} (h : IsSlug s) : slugifyProfileId s = s := by
  have hself : slugify [] false s = s := by
    have hread := slugify_slug h []
    rwa [List.append_nil] at hread
  rw [slugifyProfileId, hself]
  exact if_neg (by simpa using h.ne_nil)

/-! ## Allocation -/

section
variable {baseId : Text} {profiles : List ConnectionProfile}

/-- The loop of `allocate_profile_id` for some turns, with its counter of 64 bits. -/
def allocateLoop (baseId : Text) (profiles : List ConnectionProfile) : Nat → Nat → Option Text
  | 0, _ => none
  | turns + 1, suffix =>
      if profileIdFree (suffixedId baseId suffix) profiles then some (suffixedId baseId suffix)
      else allocateLoop baseId profiles turns (min (suffix + 1) (2 ^ 64 - 1))

/-- `allocate_profile_id`, given up after some turns of its loop. -/
def allocateWithin (turns : Nat) (baseId : Text) (profiles : List ConnectionProfile) : Option Text :=
  if profileIdFree baseId profiles then some baseId else allocateLoop baseId profiles turns 2

theorem profileIdFree_iff {id : Text} :
    profileIdFree id profiles = true ↔ id ∉ profiles.map (·.id) := by
  simp only [profileIdFree, List.all_eq_true, bne_iff_ne, List.mem_map, not_exists, not_and]

theorem suffixedId_injective (baseId : Text) : Function.Injective (suffixedId baseId) := by
  intro m n h
  have hdigits : (toString m).toList = (toString n).toList :=
    (List.cons.inj (List.append_cancel_left h)).2
  rw [Nat.toString_eq_repr, Nat.toString_eq_repr, Nat.toList_repr, Nat.toList_repr] at hdigits
  have hread := readNat_natText m
  rw [natText, hdigits] at hread
  exact (Option.some.inj ((readNat_natText n).symm.trans hread)).symm

/-- The least suffix from 2 on that is free. -/
structure FirstFree (baseId : Text) (profiles : List ConnectionProfile) (n : Nat) : Prop where
  two_le : 2 ≤ n
  free : profileIdFree (suffixedId baseId n) profiles = true
  taken : ∀ m, 2 ≤ m → m < n → profileIdFree (suffixedId baseId m) profiles = false

/-- There are too few profiles to take all of these suffixes. -/
theorem exists_free (baseId : Text) (profiles : List ConnectionProfile) :
    ∃ n, 2 ≤ n ∧ n ≤ profiles.length + 2 ∧
      profileIdFree (suffixedId baseId n) profiles = true := by
  by_contra hnone
  push Not at hnone
  let candidates := (List.range' 2 (profiles.length + 1)).map (suffixedId baseId)
  have hnodup : candidates.Nodup := (List.nodup_range').map (suffixedId_injective baseId)
  have hsubset : candidates ⊆ profiles.map (·.id) := by
    intro id hid
    obtain ⟨n, hn, rfl⟩ := List.mem_map.mp hid
    rw [List.mem_range'_1] at hn
    by_contra hfree
    exact hnone n (by omega) (by omega) (profileIdFree_iff.mpr hfree)
  have hlength := (List.subperm_of_subset hnodup hsubset).length_le
  simp only [candidates, List.length_map, List.length_range'] at hlength
  omega

theorem exists_firstFree (baseId : Text) (profiles : List ConnectionProfile) :
    ∃ n, FirstFree baseId profiles n ∧ n ≤ profiles.length + 2 := by
  have hexists : ∃ n, 2 ≤ n ∧ profileIdFree (suffixedId baseId n) profiles = true := by
    obtain ⟨n, hn, -, hfree⟩ := exists_free baseId profiles
    exact ⟨n, hn, hfree⟩
  obtain ⟨bound, hbound, hle, hfree⟩ := exists_free baseId profiles
  refine ⟨Nat.find hexists, ⟨(Nat.find_spec hexists).1, (Nat.find_spec hexists).2, ?_⟩, ?_⟩
  · intro m hm hlt
    have hmin := Nat.find_min hexists hlt
    simpa [hm] using hmin
  · exact (Nat.find_min' hexists ⟨hbound, hfree⟩).trans hle

/-- The model of the allocation finds the suffix within its fuel. -/
theorem allocateFrom_eq {n : Nat} (h : FirstFree baseId profiles n) (fuel : Nat) {suffix : Nat}
    (htwo : 2 ≤ suffix) (hle : suffix ≤ n) (hfuel : n ≤ suffix + fuel) :
    allocateFrom baseId profiles fuel suffix = suffixedId baseId n := by
  induction fuel generalizing suffix with
  | zero => rw [allocateFrom, Nat.le_antisymm hle hfuel]
  | succ fuel ih =>
    rw [allocateFrom]
    by_cases heq : suffix = n
    · rw [heq, if_pos h.free]
    · rw [if_neg (by simp [h.taken suffix htwo (by omega)])]
      exact ih (by omega) (by omega) (by omega)

/-- The loop of the source finds it as well, before its counter saturates. -/
theorem allocateLoop_eq {n : Nat} (h : FirstFree baseId profiles n) (hcounter : n < 2 ^ 64)
    (turns : Nat) {suffix : Nat} (htwo : 2 ≤ suffix) (hle : suffix ≤ n)
    (hturns : n < suffix + turns) :
    allocateLoop baseId profiles turns suffix = some (suffixedId baseId n) := by
  induction turns generalizing suffix with
  | zero => omega
  | succ turns ih =>
    rw [allocateLoop]
    by_cases heq : suffix = n
    · rw [heq, if_pos h.free]
    · have hnext : min (suffix + 1) (2 ^ 64 - 1) = suffix + 1 := by omega
      rw [if_neg (by simp [h.taken suffix htwo (by omega)]), hnext]
      exact ih (by omega) (by omega) (by omega)

/-- What the allocation gives out. -/
def Allocated (baseId : Text) (profiles : List ConnectionProfile) (id : Text) : Prop :=
  (profileIdFree baseId profiles = true ∧ id = baseId) ∨
    (profileIdFree baseId profiles = false ∧ ∃ n, FirstFree baseId profiles n ∧ id = suffixedId baseId n)

theorem allocated_allocateProfileId (baseId : Text) (profiles : List ConnectionProfile) :
    Allocated baseId profiles (allocateProfileId baseId profiles) := by
  unfold allocateProfileId
  cases hfree : profileIdFree baseId profiles with
  | true => exact .inl ⟨hfree, if_pos rfl⟩
  | false =>
    obtain ⟨n, hfirst, hn⟩ := exists_firstFree baseId profiles
    refine .inr ⟨hfree, n, hfirst, ?_⟩
    rw [if_neg Bool.false_ne_true]
    exact allocateFrom_eq hfirst _ le_rfl hfirst.two_le (by omega)

/-- The source finds the id of the model in one turn more than there are profiles. -/
theorem allocateWithin_eq (baseId : Text) {profiles : List ConnectionProfile}
    (hlength : profiles.length < 2 ^ 63) {turns : Nat} (hturns : profiles.length < turns) :
    allocateWithin turns baseId profiles = some (allocateProfileId baseId profiles) := by
  unfold allocateWithin allocateProfileId
  split
  · rfl
  · obtain ⟨n, hfirst, hn⟩ := exists_firstFree baseId profiles
    rw [allocateLoop_eq hfirst (by omega) turns le_rfl hfirst.two_le (by omega),
      allocateFrom_eq hfirst _ le_rfl hfirst.two_le (by omega)]

theorem Allocated.fresh {id : Text} (h : Allocated baseId profiles id) :
    id ∉ profiles.map (·.id) := by
  rcases h with ⟨hfree, rfl⟩ | ⟨-, n, hfirst, rfl⟩
  · exact profileIdFree_iff.mp hfree
  · exact profileIdFree_iff.mp hfirst.free

/-- A suffix neither makes nor breaks an id. -/
theorem validProfileId_suffixedId (baseId : Text) (n : Nat) :
    validProfileId (suffixedId baseId n) = validProfileId baseId := by
  have hdigits : ∀ c ∈ (toString n).toList, isIdChar c = true := by
    intro c hc
    rw [Nat.toString_eq_repr, Nat.toList_repr] at hc
    have hdigit : isAsciiDigit c = true := isDigit_of_mem_natText hc
    simp [isIdChar, isAsciiAlphanumeric, hdigit]
  rw [Bool.eq_iff_iff, validProfileId_iff, validProfileId_iff]
  cases baseId with
  | nil =>
    have hhyphen : isAsciiAlphanumeric '-' = false := by decide
    simp [suffixedId, hhyphen]
  | cons c s =>
    have hhyphen : isIdChar '-' = true := by decide
    simp only [suffixedId, List.cons_append, List.cons.injEq, exists_eq_left', and_assoc,
      exists_and_left, List.mem_append, List.mem_cons]
    constructor
    · rintro ⟨hc, hrest⟩
      exact ⟨hc, fun d hd => hrest d (.inl hd)⟩
    · rintro ⟨hc, hrest⟩
      refine ⟨hc, ?_⟩
      rintro d (hd | rfl | hd)
      · exact hrest d hd
      · exact hhyphen
      · exact hdigits d hd

theorem Allocated.valid_iff {id : Text} (h : Allocated baseId profiles id) :
    validateProfileId id = .ok () ↔ validateProfileId baseId = .ok () := by
  rcases h with ⟨-, rfl⟩ | ⟨-, n, -, rfl⟩
  · rfl
  · rw [validateProfileId_ok_iff, validateProfileId_ok_iff, validProfileId_suffixedId]

/-- The ids that are made up are valid, and an allocated one is the first that is free. -/
theorem automatic_ids_fresh :
    (∀ displayName : Text, validateProfileId (slugifyProfileId displayName) = .ok () ∧
      slugifyProfileId (slugifyProfileId displayName) = slugifyProfileId displayName) ∧
    ∀ (baseId : Text) (config : Config) (profile : ConnectionProfile),
      config.profiles.length < 2 ^ 63 →
      (∀ turns, config.profiles.length < turns → allocateWithin turns baseId config.profiles =
        some (allocateProfileId baseId config.profiles)) ∧
      Allocated baseId config.profiles (allocateProfileId baseId config.profiles) ∧
      allocateProfileId baseId config.profiles ∉ config.profiles.map (·.id) ∧
      (validateProfileId (allocateProfileId baseId config.profiles) = .ok () ↔
        validateProfileId baseId = .ok ()) ∧
      ∃ after id, applyMutation config (.createAuto baseId profile) = .ok (after, some id) ∧
        id = allocateProfileId baseId config.profiles ∧
        after.profiles.map (·.id) = config.profiles.map (·.id) ++ [id] ∧
        ((config.profiles.map (·.id)).Nodup → (after.profiles.map (·.id)).Nodup) := by
  refine ⟨fun displayName => ?_, fun baseId config profile hlength => ?_⟩
  · have hslug := isSlug_slugifyProfileId displayName
    exact ⟨validateProfileId_ok_iff.mpr hslug.valid, slugifyProfileId_of_isSlug hslug⟩
  · have hallocated := allocated_allocateProfileId baseId config.profiles
    refine ⟨fun turns hturns => allocateWithin_eq baseId hlength hturns, hallocated,
      hallocated.fresh, hallocated.valid_iff, _, _, rfl, rfl, ?_, fun hnodup => ?_⟩
    · rw [List.map_append]
      rfl
    · rw [List.map_append, List.map_singleton]
      exact List.nodup_append.mpr ⟨hnodup, List.nodup_singleton _, fun id hid other hother => by
        rw [List.mem_singleton.mp hother]
        rintro rfl
        exact hallocated.fresh hid⟩

end

def cacheProfile (id : String) : ConnectionProfile where
  id := id.toList
  name := "Cache".toList
  driver := .redis
  host := "cache".toList
  port := 6379
  database := none
  username := none
  tls := .disabled
  credentialMode := .none
  secretEnv := none
  redisTls := {}

theorem automatic_ids_fresh_third :
    allocateWithin 3 "cache".toList [cacheProfile "cache", cacheProfile "cache-2"] =
        some "cache-3".toList ∧
      "cache-3".toList ∉ [cacheProfile "cache", cacheProfile "cache-2"].map (·.id) := by
  have hid : allocateProfileId "cache".toList [cacheProfile "cache", cacheProfile "cache-2"] =
      "cache-3".toList := by decide
  obtain ⟨hfound, -, hfresh, -⟩ := automatic_ids_fresh.2 "cache".toList
    { profiles := [cacheProfile "cache", cacheProfile "cache-2"] } (cacheProfile "cache")
    (show 2 < 2 ^ 63 by decide)
  rw [hid] at hfresh
  exact ⟨(hfound 3 (by decide)).trans (congrArg some hid), hfresh⟩

end Dbotter.Service
