import Dbotter.Execution.Target

/-!
Stream reads and the two words that the classifier looks for.

`block_precedes_streams` takes every word in front of the operands for a keyword. The words of a
stream read are those of Redis's option grammar, where the name of a group and the name of a
consumer may be any string.
-/

namespace Dbotter.Execution
open Dbotter.Utf8

def redisArgvIsDenied (argv : List (List UInt8)) : Bool := redisBytesAreDenied argv

/-! ## The option grammar -/

inductive StreamOption
  | count (n : List UInt8)
  | block (ms : List UInt8)
  | group (name consumer : List UInt8)
  | noAck
  deriving DecidableEq, Repr

/-- Keywords are written in any case. -/
def Spells (word : List UInt8) (keyword : Text) : Prop :=
  eqIgnoreAsciiCase word (bytes keyword) = true

/-- A decimal integer with an optional minus sign. -/
def IsInteger (word : List UInt8) : Prop :=
  ∃ digits, digits ≠ [] ∧ (∀ b ∈ digits, 48 ≤ b ∧ b ≤ 57) ∧ (word = digits ∨ word = 45 :: digits)

inductive OptionWords : StreamOption → List (List UInt8) → Prop
  | count {word n} : Spells word "COUNT".toList → IsInteger n → OptionWords (.count n) [word, n]
  | block {word ms} : Spells word "BLOCK".toList → IsInteger ms → OptionWords (.block ms) [word, ms]
  | group {word} (name consumer) : Spells word "GROUP".toList →
      OptionWords (.group name consumer) [word, name, consumer]
  | noAck {word} : Spells word "NOACK".toList → OptionWords .noAck [word]

/-- The words of several options, in any order. -/
inductive OptionsWords : List StreamOption → List (List UInt8) → Prop
  | nil : OptionsWords [] []
  | cons {option words options rest} : OptionWords option words → OptionsWords options rest →
      OptionsWords (option :: options) (words ++ rest)

def StreamOption.isPlain : StreamOption → Bool
  | .count _ | .block _ => true
  | _ => false

def StreamOption.isGroup : StreamOption → Bool
  | .group _ _ => true
  | _ => false

/-- A well-formed stream read with its options. As many ids as keys follow `STREAMS`. -/
inductive StreamRead : List (List UInt8) → List StreamOption → Prop
  | xread {command options words streams keys ids} : Spells command "XREAD".toList →
      OptionsWords options words → options.all StreamOption.isPlain = true →
      Spells streams "STREAMS".toList → keys ≠ [] → ids.length = keys.length →
      StreamRead (command :: (words ++ streams :: (keys ++ ids))) options
  | xreadgroup {command options words streams keys ids} : Spells command "XREADGROUP".toList →
      OptionsWords options words → options.any StreamOption.isGroup = true →
      Spells streams "STREAMS".toList → keys ≠ [] → ids.length = keys.length →
      StreamRead (command :: (words ++ streams :: (keys ++ ids))) options

/-- The parsed command may wait for entries. -/
def CarriesBlock (options : List StreamOption) : Prop := ∃ ms, .block ms ∈ options

/-! ## Bare words -/

inductive Keyword
  | streams
  | block
  deriving DecidableEq, Repr

/-- The keyword that the bare word is taken for. -/
def keyword (word : List UInt8) : Option Keyword :=
  if eqIgnoreAsciiCase word (bytes "STREAMS".toList) then some .streams
  else if eqIgnoreAsciiCase word (bytes "BLOCK".toList) then some .block
  else none

/-- The first name that is taken for a keyword says the same as the options that follow. -/
def NamesAgree : List StreamOption → Prop
  | [] => True
  | .block _ :: _ => True
  | .group name consumer :: options =>
      match (keyword name).or (keyword consumer) with
      | some .block => CarriesBlock options
      | some .streams => ¬ CarriesBlock options
      | none => NamesAgree options
  | _ :: options => NamesAgree options

theorem keyword_of_spells {word : List UInt8} {text : Text} (h : Spells word text) :
    keyword word = keyword (bytes text) := by
  have hlower : word.map asciiLower = (bytes text).map asciiLower := by
    simpa [Spells, eqIgnoreAsciiCase] using h
  unfold keyword eqIgnoreAsciiCase
  rw [hlower]

theorem asciiLower_of_le {b : UInt8} (h : b ≤ 57) : asciiLower b = b := by
  have hlow : ¬ 65 ≤ b := by
    intro hle
    have hbad : (65 : UInt8) ≤ 57 := UInt8.le_trans hle h
    exact absurd hbad (by decide)
  simp [asciiLower, hlow]

theorem keyword_of_isInteger {word : List UInt8} (h : IsInteger word) : keyword word = none := by
  have hsmall : ∀ b ∈ word, b ≤ 57 := by
    obtain ⟨digits, -, hdigits, rfl | rfl⟩ := h
    · exact fun b hb => (hdigits b hb).2
    · intro b hb
      rcases List.mem_cons.mp hb with rfl | hb
      · decide
      · exact (hdigits b hb).2
  have hlower : word.map asciiLower = word := by
    rw [List.map_congr_left fun b hb => asciiLower_of_le (hsmall b hb), List.map_id']
  have hletter : ∀ {text : Text} {b : UInt8}, b ∈ (bytes text).map asciiLower → ¬ b ≤ 57 →
      eqIgnoreAsciiCase word (bytes text) = false := by
    intro text b hb hlarge
    rw [eqIgnoreAsciiCase, hlower]
    refine beq_eq_false_iff_ne.mpr fun heq => hlarge (hsmall b ?_)
    rwa [heq]
  have hstreams : eqIgnoreAsciiCase word (bytes "STREAMS".toList) = false :=
    @hletter _ 115 (by decide +kernel) (by decide)
  have hblock : eqIgnoreAsciiCase word (bytes "BLOCK".toList) = false :=
    @hletter _ 98 (by decide +kernel) (by decide)
  rw [keyword, hstreams, hblock, if_neg Bool.false_ne_true, if_neg Bool.false_ne_true]

/-! ## The scan -/

def Keyword.denies : Keyword → Bool
  | .streams => false
  | .block => true

/-- The keyword that the scan finds among the words of an option. -/
def StreamOption.found : StreamOption → Option Keyword
  | .block _ => some .block
  | .group name consumer => (keyword name).or (keyword consumer)
  | _ => none

theorem blockPrecedesStreams_cons (word : List UInt8) (rest : List (List UInt8)) :
    blockPrecedesStreams (word :: rest) =
      ((keyword word).map Keyword.denies).getD (blockPrecedesStreams rest) := by
  rw [blockPrecedesStreams, keyword]
  split_ifs <;> rfl

/-- Of an option, only the keyword `BLOCK` and the two names of a group can end the scan. -/
theorem blockPrecedesStreams_option {option : StreamOption} {words rest : List (List UInt8)}
    (h : OptionWords option words) :
    blockPrecedesStreams (words ++ rest) =
      (option.found.map Keyword.denies).getD (blockPrecedesStreams rest) := by
  have hnone : ∀ text ∈ ["COUNT".toList, "GROUP".toList, "NOACK".toList],
      keyword (bytes text) = none := by decide +kernel
  cases h with
  | count hword hn =>
      have hcount := (keyword_of_spells hword).trans (hnone _ (by simp))
      simp [blockPrecedesStreams_cons, hcount, keyword_of_isInteger hn, StreamOption.found]
  | block hword hms =>
      have hblock : keyword (bytes "BLOCK".toList) = some .block := by decide +kernel
      rw [List.cons_append, blockPrecedesStreams_cons, (keyword_of_spells hword).trans hblock]
      rfl
  | group name consumer hword =>
      have hgroup := (keyword_of_spells hword).trans (hnone _ (by simp))
      simp only [List.cons_append, List.nil_append, blockPrecedesStreams_cons, hgroup,
        StreamOption.found]
      cases keyword name <;> rfl
  | noAck hword =>
      have hnoAck := (keyword_of_spells hword).trans (hnone _ (by simp))
      rw [List.cons_append, blockPrecedesStreams_cons, hnoAck]
      rfl

theorem carriesBlock_cons {option : StreamOption} {options : List StreamOption}
    (h : ∀ ms, option ≠ .block ms) : CarriesBlock (option :: options) ↔ CarriesBlock options := by
  have hne : ∀ ms, StreamOption.block ms ≠ option := fun ms heq => h ms heq.symm
  simp [CarriesBlock, hne]

/-- The scan of the options in front of `STREAMS` finds out whether one of them is `BLOCK` if
and only if the names agree with that. -/
theorem blockPrecedesStreams_iff {options : List StreamOption} {words : List (List UInt8)}
    {streams : List UInt8} {operands : List (List UInt8)} (h : OptionsWords options words)
    (hstreams : Spells streams "STREAMS".toList) :
    (blockPrecedesStreams (words ++ streams :: operands) = true ↔ CarriesBlock options) ↔
      NamesAgree options := by
  induction h with
  | nil =>
      have hkeyword : keyword (bytes "STREAMS".toList) = some .streams := by decide +kernel
      rw [List.nil_append, blockPrecedesStreams_cons, (keyword_of_spells hstreams).trans hkeyword]
      simp [CarriesBlock, NamesAgree, Keyword.denies]
  | @cons option words options rest hoption _ ih =>
      rw [List.append_assoc, blockPrecedesStreams_option hoption]
      cases option with
      | count n =>
          rw [@carriesBlock_cons (.count n) options nofun]
          exact ih
      | block ms =>
          have hcarries : CarriesBlock (.block ms :: options) := ⟨ms, List.mem_cons_self⟩
          simp [NamesAgree, hcarries, StreamOption.found, Keyword.denies]
      | group name consumer =>
          have hcons := @carriesBlock_cons (.group name consumer) options nofun
          rw [hcons, NamesAgree, StreamOption.found]
          cases (keyword name).or (keyword consumer) with
          | none => exact ih
          | some k => cases k <;> simp [Keyword.denies]
      | noAck =>
          rw [@carriesBlock_cons .noAck options nofun]
          exact ih

theorem redisArgvIsDenied_xread {command : List UInt8} {arguments : List (List UInt8)}
    (h : Spells command "XREAD".toList ∨ Spells command "XREADGROUP".toList) :
    redisArgvIsDenied (command :: arguments) = blockPrecedesStreams arguments := by
  have hpre : ∀ text ∈ ["XREAD".toList, "XREADGROUP".toList], Spells command text →
      eqIgnoreAsciiCase (command.take 2) (bytes "BL".toList) = false := by
    intro text htext hcommand
    have hlower : command.map asciiLower = (bytes text).map asciiLower := by
      simpa [Spells, eqIgnoreAsciiCase] using hcommand
    have hother : ∀ text ∈ ["XREAD".toList, "XREADGROUP".toList],
        (((bytes text).map asciiLower).take 2 == (bytes "BL".toList).map asciiLower) = false := by
      decide +kernel
    rw [eqIgnoreAsciiCase, List.map_take, hlower]
    exact hother text htext
  have hbl : eqIgnoreAsciiCase (command.take 2) (bytes "BL".toList) = false := by
    rcases h with hxread | hgroup
    · exact hpre _ (by simp) hxread
    · exact hpre _ (by simp) hgroup
  have hread : (eqIgnoreAsciiCase command (bytes "XREAD".toList) ||
      eqIgnoreAsciiCase command (bytes "XREADGROUP".toList)) = true := by
    simpa [Spells] using h
  rw [redisArgvIsDenied, redisBytesAreDenied, hbl, Bool.and_false, if_neg Bool.false_ne_true,
    if_pos hread]

/-- A stream read is denied exactly when it carries `BLOCK`, if and only if no name of a group or
a consumer that stands before the first `BLOCK` is taken for a keyword that says otherwise. -/
theorem stream_read_denied_iff {argv : List (List UInt8)} {options : List StreamOption}
    (h : StreamRead argv options) :
    (redisArgvIsDenied argv = true ↔ CarriesBlock options) ↔ NamesAgree options := by
  cases h with
  | xread hcommand hwords _ hstreams =>
      rw [redisArgvIsDenied_xread (.inl hcommand)]
      exact blockPrecedesStreams_iff hwords hstreams
  | xreadgroup hcommand hwords _ hstreams =>
      rw [redisArgvIsDenied_xread (.inr hcommand)]
      exact blockPrecedesStreams_iff hwords hstreams

/-- A group with the name of a keyword, and a read that waits for ever. -/
def waitingRead : List (List UInt8) :=
  ["XREADGROUP", "GROUP", "streams", "c", "BLOCK", "0", "STREAMS", "k", ">"].map
    fun word => bytes word.toList

theorem streamRead_waitingRead : StreamRead waitingRead
    [.group (bytes "streams".toList) (bytes "c".toList), .block (bytes "0".toList)] := by
  have hspells : ∀ keyword ∈ ["XREADGROUP", "GROUP", "BLOCK", "STREAMS"],
      Spells (bytes keyword.toList) keyword.toList := by
    unfold Spells
    decide +kernel
  have hdigit : ∀ b ∈ [(48 : UInt8)], 48 ≤ b ∧ b ≤ 57 := by simp
  have hzero : IsInteger (bytes "0".toList) :=
    ⟨[48], List.cons_ne_nil _ _, hdigit, .inl (by decide +kernel)⟩
  have hoptions := OptionsWords.cons (.group (bytes "streams".toList) (bytes "c".toList)
    (hspells "GROUP" (by simp))) (.cons (.block (hspells "BLOCK" (by simp)) hzero) .nil)
  have hids : [bytes ">".toList].length = [bytes "k".toList].length := rfl
  exact .xreadgroup (hspells "XREADGROUP" (by simp)) hoptions rfl (hspells "STREAMS" (by simp))
    (List.cons_ne_nil _ _) hids

theorem stream_read_denied_waitingRead :
    (redisArgvIsDenied waitingRead = true ↔
      CarriesBlock [.group (bytes "streams".toList) (bytes "c".toList),
        .block (bytes "0".toList)]) ↔
      NamesAgree [.group (bytes "streams".toList) (bytes "c".toList),
        .block (bytes "0".toList)] := stream_read_denied_iff streamRead_waitingRead

/-- The waiting read passes the classifier. -/
theorem waitingRead_admitted : ¬ ∀ argv options, StreamRead argv options →
    (redisArgvIsDenied argv = true ↔ CarriesBlock options) := by
  intro h
  have hdenied := (h _ _ streamRead_waitingRead).mpr ⟨_, List.mem_cons_of_mem _ List.mem_cons_self⟩
  have hadmitted : redisArgvIsDenied waitingRead = false := by decide +kernel
  rw [hadmitted] at hdenied
  exact Bool.false_ne_true hdenied

end Dbotter.Execution
