import Mathlib.Data.List.Basic
import Mathlib.Data.List.TakeWhile
import Dbotter.Text.Utf8

/-!
Tables as text: records of fields in the format of RFC 4180, and lines of fields between tabs
with backslash escapes.

A record of the first format ends with CRLF or with the text. An empty line is a record whose
one field is empty.
-/

namespace Dbotter.Tables
open Dbotter.Utf8

/-! ## RFC 4180 -/

/-- The characters that stand in a field only between quotes. -/
def isCsvMark (c : Char) : Bool := c == ',' || c == '"' || c == '\r' || c == '\n'

def doubledQuotes (field : Text) : Text :=
  field.flatMap fun c => if c == '"' then ['"', '"'] else [c]

def csvField (field : Text) : Text :=
  if field.any isCsvMark then '"' :: doubledQuotes field ++ ['"'] else field

def csvRecord (fields : List Text) : Text :=
  [','].intercalate (fields.map csvField) ++ ['\r', '\n']

/-- A field behind its opening quote, and what follows it. -/
def readQuotedField : Text → Option (Text × Text)
  | [] => none
  | '"' :: '"' :: r => (readQuotedField r).map fun p => ('"' :: p.1, p.2)
  | c :: r => if c == '"' then some ([], r) else (readQuotedField r).map fun p => (c :: p.1, p.2)

def readField : Text → Option (Text × Text)
  | '"' :: r => readQuotedField r
  | s => some (s.takeWhile (!isCsvMark ·), s.dropWhile (!isCsvMark ·))

def readRecord : Nat → Text → Option (List Text × Text)
  | 0, _ => none
  | fuel + 1, s =>
      match readField s with
      | some (field, ',' :: r) => (readRecord fuel r).map fun p => (field :: p.1, p.2)
      | some (field, '\r' :: '\n' :: r) => some ([field], r)
      | some (field, []) => some ([field], [])
      | _ => none

def readRecords : Nat → Text → Option (List (List Text))
  | _, [] => some []
  | 0, _ => none
  | fuel + 1, s =>
      (readRecord (s.length + 1) s).bind fun p => (readRecords fuel p.2).map (p.1 :: ·)

def readCsv (s : Text) : Option (List (List Text)) := readRecords s.length s

@[simp] theorem doubledQuotes_nil : doubledQuotes [] = [] := rfl

theorem doubledQuotes_cons (c : Char) (s : Text) :
    doubledQuotes (c :: s) = (if c == '"' then ['"', '"'] else [c]) ++ doubledQuotes s := rfl

theorem readQuotedField_doubledQuotes (field : Text) {r : Text} (hr : r.head? ≠ some '"') :
    readQuotedField (doubledQuotes field ++ '"' :: r) = some (field, r) := by
  induction field with
  | nil =>
      rw [doubledQuotes_nil, List.nil_append]
      unfold readQuotedField
      split
      · next heq => cases heq
      · next heq => exact absurd (congrArg List.head? (List.cons.inj heq).2) hr
      · next heq =>
        obtain ⟨rfl, rfl⟩ := List.cons.inj heq
        rfl
  | cons c field ih =>
      rw [doubledQuotes_cons]
      by_cases hc : c = '"'
      · subst hc
        simp [readQuotedField, ih]
      · simp [hc, readQuotedField, ih]

/-- What may stand behind a field. -/
def EndsField (r : Text) : Prop := ∃ s, r = ',' :: s ∨ r = '\r' :: s

theorem readField_csvField (field : Text) {r : Text} (hr : EndsField r) :
    readField (csvField field ++ r) = some (field, r) := by
  have hhead : r.head? ≠ some '"' ∧ r.takeWhile (!isCsvMark ·) = [] ∧
      r.dropWhile (!isCsvMark ·) = r := by
    obtain ⟨s, rfl | rfl⟩ := hr <;> exact ⟨by simp, by simp [isCsvMark], by simp [isCsvMark]⟩
  unfold csvField
  split
  · next hmark =>
    rw [List.cons_append, List.cons_append, List.append_assoc, List.singleton_append]
    exact readQuotedField_doubledQuotes field hhead.1
  · next hmark =>
    have hplain : ∀ c ∈ field, (!isCsvMark c) = true := by simpa using hmark
    have htake : (field ++ r).takeWhile (!isCsvMark ·) = field := by
      rw [List.takeWhile_append_of_pos hplain, hhead.2.1, List.append_nil]
    have hdrop : (field ++ r).dropWhile (!isCsvMark ·) = r := by
      rw [List.dropWhile_append_of_pos hplain, hhead.2.2]
    unfold readField
    split
    · next heq =>
      -- a field that starts with a quote is quoted
      cases field with
      | nil => exact absurd (congrArg List.head? heq) hhead.1
      | cons c field =>
          obtain ⟨rfl, -⟩ := List.cons.inj heq
          exact absurd (hplain '"' List.mem_cons_self) (by decide)
    · rw [htake, hdrop]

theorem readRecord_csvRecord (fields : List Text) (hfields : fields ≠ []) (r : Text) (fuel : Nat)
    (hfuel : fields.length ≤ fuel) :
    readRecord fuel (csvRecord fields ++ r) = some (fields, r) := by
  unfold csvRecord
  induction fields generalizing fuel with
  | nil => exact absurd rfl hfields
  | cons field fields ih =>
      obtain ⟨fuel, rfl⟩ : ∃ n, fuel = n + 1 :=
        ⟨fuel - 1, by rw [List.length_cons] at hfuel; omega⟩
      cases fields with
      | nil =>
          have hfield := readField_csvField field (r := '\r' :: '\n' :: r) ⟨_, .inr rfl⟩
          simp only [List.map_cons, List.map_nil, List.intercalate_singleton, List.append_assoc,
            List.cons_append, List.nil_append, readRecord, hfield]
      | cons next fields =>
          have hrest := ih (by simp) fuel (Nat.le_of_succ_le_succ hfuel)
          have hfield := readField_csvField field
            (r := ',' :: ([','].intercalate ((next :: fields).map csvField) ++ ['\r', '\n'] ++ r))
            ⟨_, .inl rfl⟩
          rw [List.map_cons, List.intercalate_cons_of_ne_nil (by simp), List.append_assoc,
            List.append_assoc, List.append_assoc, List.singleton_append, ← List.append_assoc _ _ r,
            readRecord, hfield]
          simp only [hrest, Option.map_some]

theorem length_le_csvRecord (fields : List Text) : fields.length + 1 ≤ (csvRecord fields).length := by
  unfold csvRecord
  induction fields with
  | nil => exact Nat.le_succ 1
  | cons field fields ih =>
      cases fields with
      | nil => simp
      | cons next fields =>
          rw [List.map_cons, List.intercalate_cons_of_ne_nil (by simp)]
          simp only [List.length_append, List.length_cons] at ih ⊢
          omega

theorem csvRecord_ne_nil (fields : List Text) (r : Text) : csvRecord fields ++ r ≠ [] := by
  have hlen := length_le_csvRecord fields
  intro h
  rw [(List.append_eq_nil_iff.mp h).1, List.length_nil] at hlen
  omega

theorem readRecords_csvRecords (records : List (List Text))
    (hrecords : ∀ fields ∈ records, fields ≠ []) (fuel : Nat) (hfuel : records.length ≤ fuel) :
    readRecords fuel (records.flatMap csvRecord) = some records := by
  induction records generalizing fuel with
  | nil => cases fuel <;> rfl
  | cons fields records ih =>
      obtain ⟨fuel, rfl⟩ : ∃ n, fuel = n + 1 :=
        ⟨fuel - 1, by rw [List.length_cons] at hfuel; omega⟩
      have hlen := length_le_csvRecord fields
      have hrecord := readRecord_csvRecord fields (hrecords fields List.mem_cons_self)
        (records.flatMap csvRecord) ((csvRecord fields ++ records.flatMap csvRecord).length + 1)
        (by rw [List.length_append]; omega)
      have hrest := ih (fun f hf => hrecords f (List.mem_cons_of_mem fields hf)) fuel
        (Nat.le_of_succ_le_succ hfuel)
      have hne := csvRecord_ne_nil fields (records.flatMap csvRecord)
      rw [List.flatMap_cons]
      generalize csvRecord fields ++ records.flatMap csvRecord = s at hrecord hne
      obtain ⟨c, s, rfl⟩ := List.exists_cons_of_ne_nil hne
      rw [readRecords, hrecord, Option.bind_some, hrest, Option.map_some]
      exact hne

theorem readCsv_csvRecords (records : List (List Text)) (hrecords : ∀ fields ∈ records, fields ≠ []) :
    readCsv (records.flatMap csvRecord) = some records := by
  refine readRecords_csvRecords records hrecords _ ?_
  induction records with
  | nil => exact Nat.zero_le _
  | cons fields records ih =>
      have hlen := length_le_csvRecord fields
      have hrest := ih fun f hf => hrecords f (List.mem_cons_of_mem fields hf)
      rw [List.flatMap_cons, List.length_append, List.length_cons]
      omega

/-! ## Lines of escaped fields -/

def escapeTab (c : Char) : Text :=
  if c == '\\' then ['\\', '\\']
  else if c == '\t' then ['\\', 't']
  else if c == '\r' then ['\\', 'r']
  else if c == '\n' then ['\\', 'n']
  else [c]

def escapedChar (c : Char) : Option Char :=
  if c == '\\' then some '\\'
  else if c == 't' then some '\t'
  else if c == 'r' then some '\r'
  else if c == 'n' then some '\n'
  else none

def unescapeTabs : Text → Option Text
  | [] => some []
  | [c] => if c == '\\' then none else some [c]
  | c :: e :: r =>
      if c == '\\' then (escapedChar e).bind fun x => (unescapeTabs r).map (x :: ·)
      else (unescapeTabs (e :: r)).map (c :: ·)

def tsvLine (fields : List Text) : Text := ['\t'].intercalate (fields.map (·.flatMap escapeTab))

/-- Every line ends with LF. -/
def readTsv (s : Text) : Option (List (List Text)) :=
  if (s.splitOn '\n').getLast? = some [] then
    (s.splitOn '\n').dropLast.mapM fun line => (line.splitOn '\t').mapM unescapeTabs
  else none

theorem unescapeTabs_cons {c : Char} (hc : c ≠ '\\') (r : Text) :
    unescapeTabs (c :: r) = (unescapeTabs r).map (c :: ·) := by
  cases r with
  | nil => simp [unescapeTabs, hc]
  | cons e r => simp [unescapeTabs, hc]

theorem unescapeTabs_escapeTab (c : Char) (r : Text) :
    unescapeTabs (escapeTab c ++ r) = (unescapeTabs r).map (c :: ·) := by
  unfold escapeTab
  split
  · next h => simp_all [unescapeTabs, escapedChar]
  split
  · next h => simp_all [unescapeTabs, escapedChar]
  split
  · next h => simp_all [unescapeTabs, escapedChar]
  split
  · next h => simp_all [unescapeTabs, escapedChar]
  · next hslash _ _ _ => exact unescapeTabs_cons (by simpa using hslash) r

theorem unescapeTabs_escape (field : Text) : unescapeTabs (field.flatMap escapeTab) = some field := by
  induction field with
  | nil => rfl
  | cons c field ih =>
      rw [List.flatMap_cons, unescapeTabs_escapeTab, ih]
      rfl

theorem ne_of_mem_escapeTab {c d : Char} (h : d ∈ escapeTab c) : d ≠ '\t' ∧ d ≠ '\n' := by
  unfold escapeTab at h
  split_ifs at h with hslash htab hcr hlf
  all_goals simp only [List.mem_cons, List.not_mem_nil, or_false] at h
  · rcases h with rfl | rfl <;> decide
  · rcases h with rfl | rfl <;> decide
  · rcases h with rfl | rfl <;> decide
  · rcases h with rfl | rfl <;> decide
  · subst h
    exact ⟨by simpa using htab, by simpa using hlf⟩

theorem not_mem_escape (field : Text) :
    '\t' ∉ field.flatMap escapeTab ∧ '\n' ∉ field.flatMap escapeTab := by
  simp only [List.mem_flatMap, not_exists, not_and]
  exact ⟨fun c _ h => (ne_of_mem_escapeTab h).1 rfl, fun c _ h => (ne_of_mem_escapeTab h).2 rfl⟩

theorem newline_not_mem_tsvLine (fields : List Text) : '\n' ∉ tsvLine fields := by
  unfold tsvLine
  induction fields with
  | nil => simp
  | cons field fields ih =>
      have hfield := (not_mem_escape field).2
      cases fields with
      | nil => simpa using hfield
      | cons next fields =>
          rw [List.map_cons, List.intercalate_cons_of_ne_nil (by simp)]
          simp only [List.mem_append, List.mem_singleton, not_or]
          exact ⟨⟨hfield, by decide⟩, ih⟩

theorem mapM_unescapeTabs (fields : List Text) :
    (fields.map (·.flatMap escapeTab)).mapM unescapeTabs = some fields := by
  induction fields with
  | nil => rfl
  | cons field fields ih =>
      rw [List.map_cons, List.mapM_cons, unescapeTabs_escape, ih]
      rfl

theorem read_tsvLine {fields : List Text} (hfields : fields ≠ []) :
    ((tsvLine fields).splitOn '\t').mapM unescapeTabs = some fields := by
  have hsplit : (tsvLine fields).splitOn '\t' = fields.map (·.flatMap escapeTab) := by
    refine List.splitOn_intercalate '\t' ?_ (by simpa using hfields)
    intro l hl
    obtain ⟨field, -, rfl⟩ := List.mem_map.mp hl
    exact (not_mem_escape field).1
  rw [hsplit, mapM_unescapeTabs]

theorem mapM_read_tsvLine (lines : List (List Text)) (hlines : ∀ fields ∈ lines, fields ≠ []) :
    ((lines.map tsvLine).mapM fun line => (line.splitOn '\t').mapM unescapeTabs) = some lines := by
  induction lines with
  | nil => rfl
  | cons fields lines ih =>
      rw [List.map_cons, List.mapM_cons, read_tsvLine (hlines fields List.mem_cons_self),
        ih fun f hf => hlines f (List.mem_cons_of_mem fields hf)]
      rfl

theorem readTsv_tsvLines (lines : List (List Text)) (hlines : ∀ fields ∈ lines, fields ≠ []) :
    readTsv (lines.flatMap fun fields => tsvLine fields ++ ['\n']) = some lines := by
  have htext : (lines.flatMap fun fields => tsvLine fields ++ ['\n']) =
      ['\n'].intercalate (lines.map tsvLine ++ [[]]) := by
    clear hlines
    induction lines with
    | nil => rfl
    | cons fields lines ih =>
        rw [List.flatMap_cons, ih, List.map_cons, List.cons_append,
          List.intercalate_cons_of_ne_nil (by simp)]
  have hsplit : (lines.flatMap fun fields => tsvLine fields ++ ['\n']).splitOn '\n' =
      lines.map tsvLine ++ [[]] := by
    rw [htext]
    refine List.splitOn_intercalate '\n' ?_ (by simp)
    intro l hl
    rcases List.mem_append.mp hl with hl | hl
    · obtain ⟨fields, -, rfl⟩ := List.mem_map.mp hl
      exact newline_not_mem_tsvLine fields
    · obtain rfl := List.mem_singleton.mp hl
      exact List.not_mem_nil
  rw [readTsv, hsplit, if_pos (by simp), List.dropLast_concat, mapM_read_tsvLine lines hlines]

end Dbotter.Tables
