import Dbotter.Service.Request
import Dbotter.Text.Glob

/-!
The pattern that a key filter of the Redis browser sends, from `src/model.rs`.

A literal prefix is sent with its metacharacters behind backslashes and a star at its end. No
byte of a character outside ASCII is a metacharacter, so the pattern asks for exactly the prefix.
-/

namespace Dbotter.Service
open Dbotter.Utf8 Dbotter.Glob

/-- The characters that `match_pattern` escapes. -/
def isGlobMetacharacter (character : Char) : Bool :=
  character == '*' || character == '?' || character == '[' || character == ']' || character == '\\'

def RedisKeyFilter.validate (filter : RedisKeyFilter) : Except RequestValidationError Unit :=
  if byteLen filter.value > maxRedisFilterBytes then .error .redisFilterTooLarge else .ok ()

def escapeLiteral (literal : Text) : Text :=
  literal.flatMap fun character =>
    if isGlobMetacharacter character then ['\\', character] else [character]

def RedisKeyFilter.matchPattern (filter : RedisKeyFilter) :
    Except RequestValidationError Text := do
  filter.validate
  match filter with
  | .glob pattern => return pattern
  | .literalPrefix literal => return escapeLiteral literal ++ ['*']

/-! ## Escaping -/

theorem isPlain_of_mem {character : Char} (h : isGlobMetacharacter character = false) {b : UInt8}
    (hb : b ∈ String.utf8EncodeChar character) : isPlain b = true := by
  simp only [isGlobMetacharacter, Bool.or_eq_false_iff, beq_eq_false_iff_ne] at h
  obtain ⟨⟨⟨⟨hstar, hquestion⟩, hbracket⟩, -⟩, hbackslash⟩ := h
  have hne : ∀ {d : Char}, isAscii d → character ≠ d → b ≠ d.toUInt8 := fun hd hc =>
    beq_eq_false_iff_ne.mp (beq_of_mem_utf8EncodeChar hd hc hb)
  simp only [isPlain, Bool.and_eq_true, bne_iff_ne]
  exact ⟨⟨⟨hne (by decide) hstar, hne (by decide) hquestion⟩, hne (by decide) hbracket⟩,
    hne (by decide) hbackslash⟩

theorem spells_character (character : Char) :
    Spells (bytes (if isGlobMetacharacter character then ['\\', character] else [character]))
      (bytes [character]) := by
  cases hmeta : isGlobMetacharacter character with
  | true =>
    have hascii : isAscii character = true := by
      simp only [isGlobMetacharacter, Bool.or_eq_true, beq_iff_eq] at hmeta
      rcases hmeta with (((rfl | rfl) | rfl) | rfl) | rfl <;> rfl
    rw [if_pos rfl, bytes_ascii_cons (by decide), bytes_ascii_cons hascii, bytes_nil]
    exact .escaped .nil
  | false =>
    rw [if_neg Bool.false_ne_true]
    refine .of_plain fun b hb => isPlain_of_mem hmeta ?_
    rwa [bytes_cons, bytes_nil, List.append_nil] at hb

theorem spells_escapeLiteral (literal : Text) :
    Spells (bytes (escapeLiteral literal)) (bytes literal) := by
  induction literal with
  | nil => exact .nil
  | cons character literal ih =>
    have hsplit : bytes (character :: literal) = bytes [character] ++ bytes literal := by
      rw [← bytes_append, List.singleton_append]
    rw [escapeLiteral, List.flatMap_cons, bytes_append, hsplit]
    exact (spells_character character).append ih

/-- A literal prefix is sent as a pattern for exactly the keys that start with it. -/
theorem literal_filter_exact (literal : Text) (hlength : byteLen literal ≤ 512) :
    ∃ pattern, (RedisKeyFilter.literalPrefix literal).matchPattern = .ok pattern ∧
      ∀ key : List UInt8,
        stringMatches (bytes pattern) key = true ↔ bytes literal <+: key := by
  have hvalid : (RedisKeyFilter.literalPrefix literal).validate = .ok () :=
    if_neg (Nat.not_lt.mpr hlength)
  refine ⟨escapeLiteral literal ++ ['*'], ?_, fun key => ?_⟩
  · rw [RedisKeyFilter.matchPattern, hvalid]
    rfl
  · rw [bytes_append]
    exact (spells_escapeLiteral literal).matches_star key

theorem literal_filter_exact_brackets :
    ∃ pattern, (RedisKeyFilter.literalPrefix "[é]*".toList).matchPattern = .ok pattern ∧
      stringMatches (bytes pattern) (bytes "[é]*:1".toList) = true ∧
      stringMatches (bytes pattern) (bytes "é:1".toList) = false := by
  obtain ⟨pattern, hpattern, hmatches⟩ := literal_filter_exact "[é]*".toList (by decide)
  refine ⟨pattern, hpattern, (hmatches _).mpr (by decide), ?_⟩
  exact Bool.eq_false_iff.mpr fun h => absurd ((hmatches _).mp h) (by decide)

end Dbotter.Service
