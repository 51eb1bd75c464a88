import Dbotter.Text.Utf8

/-!
Paths of the file system and their comparison.

Two paths are the same where their components are: repeated and trailing separators and the
components `.` do not count, except for a `.` that a path begins with.
-/

namespace Dbotter.Utf8

instance equivBEqOption {α : Type} [BEq α] [EquivBEq α] : EquivBEq (Option α) where
  symm {x y} h := by
    cases x <;> cases y <;> first | exact h | exact BEq.symm (α := α) h
  trans {x y z} h h' := by
    cases x <;> cases y <;> cases z <;>
      first | exact h | exact h' | cases h | cases h' | exact BEq.trans (α := α) h h'

theorem isSome_eq_of_beq {α : Type} [BEq α] {x y : Option α} (h : x == y) :
    x.isSome = y.isSome := by
  cases x <;> cases y <;> first | rfl | cases h

theorem exists_of_beq_some {α : Type} [BEq α] {x : Option α} {a : α} (h : x == some a) :
    ∃ b, x = some b ∧ b == a := by
  cases x with
  | none => cases h
  | some b => exact ⟨b, rfl, h⟩

/-- A path, as it is spelled. -/
structure PathBuf where
  text : Text
  deriving DecidableEq, Repr

namespace PathBuf

/-- The root is the component `/`. -/
def components (path : PathBuf) : List Text :=
  let parts := path.text.splitOn '/'
  let named := parts.filter fun part => part ≠ [] ∧ part ≠ ['.']
  if path.text.head? = some '/' then ['/'] :: named
  else if parts.head? = some ['.'] then ['.'] :: named
  else named

/-- Not the equality of the spellings. -/
instance : BEq PathBuf where
  beq path other := path.components == other.components

theorem beq_iff {path other : PathBuf} :
    (path == other) = true ↔ path.components = other.components := by
  change (path.components == other.components) = true ↔ _
  exact beq_iff_eq

instance : EquivBEq PathBuf where
  rfl := beq_iff.2 rfl
  symm h := beq_iff.2 (beq_iff.1 h).symm
  trans h h' := beq_iff.2 ((beq_iff.1 h).trans (beq_iff.1 h'))

example : (⟨"/etc/ca.pem".toList⟩ : PathBuf) == ⟨"/etc//./ca.pem/".toList⟩ := by decide

example : ((⟨"./ca.pem".toList⟩ : PathBuf) == ⟨"ca.pem".toList⟩) = false := by decide

end PathBuf

end Dbotter.Utf8
