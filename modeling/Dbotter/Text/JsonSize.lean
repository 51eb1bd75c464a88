import Dbotter.Text.JsonKeys

/-! The length of a printed value, and how deep its containers nest. -/

namespace Dbotter.Json
open Dbotter.Utf8

variable {ν μ : Type}

/-! ## Lengths -/

def toksLen (ts : List Tok) : Nat := byteLen (ts.flatMap Tok.text)

@[simp] theorem toksLen_nil : toksLen [] = 0 := rfl

@[simp] theorem toksLen_cons (t : Tok) (ts : List Tok) :
    toksLen (t :: ts) = byteLen t.text + toksLen ts := by
  rw [toksLen, List.flatMap_cons, byteLen_append]
  rfl

@[simp] theorem toksLen_append (ts us : List Tok) : toksLen (ts ++ us) = toksLen ts + toksLen us := by
  rw [toksLen, List.flatMap_append, byteLen_append]
  rfl

theorem toksLen_items (items : List (Value Text)) :
    toksLen (itemToks items) = items.length - 1 + (items.map fun v => byteLen (print v)).sum := by
  induction items with
  | nil => rfl
  | cons v vs ih =>
      cases vs with
      | nil => simp [itemToks, toksLen, print]
      | cons w vs =>
          have hcomma : byteLen Tok.comma.text = 1 := by decide
          rw [itemToks, toksLen_append, toksLen_cons, ih, hcomma]
          simp only [List.map_cons, List.sum_cons, List.length_cons]
          change byteLen (print v) + _ = _
          omega

theorem toksLen_fields (fields : List (Text × Value Text)) :
    toksLen (fieldToks fields) = fields.length - 1 +
      (fields.map fun f => byteLen (print (.string f.1)) + 1 + byteLen (print f.2)).sum := by
  have hcomma : byteLen Tok.comma.text = 1 := by decide
  have hcolon : byteLen Tok.colon.text = 1 := by decide
  have hkey : ∀ key, byteLen (print (.string key)) = byteLen (Tok.str key).text := by
    intro key
    rw [print, toks, List.flatMap_singleton]
  induction fields with
  | nil => rfl
  | cons f fs ih =>
      obtain ⟨key, v⟩ := f
      have hv : toksLen (toks v) = byteLen (print v) := rfl
      cases fs with
      | nil =>
          simp only [fieldToks, toksLen_cons, hcolon, hv, List.length_singleton, List.map_cons,
            List.map_nil, List.sum_cons, List.sum_nil, hkey]
          omega
      | cons w fs =>
          rw [fieldToks, toksLen_append, toksLen_cons, toksLen_cons, toksLen_cons, ih, hcomma, hcolon,
            hv]
          simp only [List.map_cons, List.sum_cons, List.length_cons, hkey]
          omega

theorem byteLen_print_array (items : List (Value Text)) :
    byteLen (print (.array items)) =
      2 + (items.length - 1) + (items.map fun v => byteLen (print v)).sum := by
  have hopen : byteLen Tok.lbracket.text = 1 := by decide
  have hclose : toksLen [Tok.rbracket] = 1 := by decide
  change toksLen (.lbracket :: itemToks items ++ [.rbracket]) = _
  rw [toksLen_append, toksLen_cons, toksLen_items, hopen, hclose]
  omega

theorem byteLen_print_object (fields : List (Text × Value Text)) :
    byteLen (print (.object fields)) = 2 + (fields.length - 1) +
      (fields.map fun f => byteLen (print (.string f.1)) + 1 + byteLen (print f.2)).sum := by
  have hopen : byteLen Tok.lbrace.text = 1 := by decide
  have hclose : toksLen [Tok.rbrace] = 1 := by decide
  change toksLen (.lbrace :: fieldToks fields ++ [.rbrace]) = _
  rw [toksLen_append, toksLen_cons, toksLen_fields, hopen, hclose]
  omega

theorem byteLen_print_string (s : Text) :
    byteLen (print (.string s)) = 2 + (s.map fun c => byteLen (escapeChar c)).sum := by
  have hquote : ('"').utf8Size = 1 := by decide
  have hbody : byteLen (s.flatMap escapeChar) = (s.map fun c => byteLen (escapeChar c)).sum := by
    induction s with
    | nil => rfl
    | cons c s ih => rw [List.flatMap_cons, byteLen_append, ih, List.map_cons, List.sum_cons]
  rw [print, toks, List.flatMap_singleton, Tok.text, byteLen_append, byteLen_cons, hbody, byteLen_cons,
    byteLen_nil, hquote]
  omega

theorem byteLen_print_number (literal : Text) :
    byteLen (print (.number literal)) = byteLen literal := by
  rw [print, toks, List.flatMap_singleton, Tok.text]

/-! ## Nesting -/

namespace Value

mutual

/-- The number of containers around each other in a value, empty ones not counted. -/
def nesting : Value ν → Nat
  | .array items => if items.isEmpty then 0 else nestingItems items + 1
  | .object fields => if fields.isEmpty then 0 else nestingFields fields + 1
  | _ => 0

def nestingItems : List (Value ν) → Nat
  | [] => 0
  | v :: vs => max (nesting v) (nestingItems vs)

def nestingFields : List (Text × Value ν) → Nat
  | [] => 0
  | (_, v) :: fs => max (nesting v) (nestingFields fs)

end

end Value

end Dbotter.Json
