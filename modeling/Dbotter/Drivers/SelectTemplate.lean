import Dbotter.Execution.StatementCut

/-!
The query that the MySQL explorer inserts for a relation, from
`src/drivers/mysql_catalog.rs`, read by both SQL modes and by the scanner that
later has to accept it.

Both modes read back the two names it was built from. The scanner agrees with
them unless a name has an odd run of backslashes before a backtick or at its end.
There it reads one delimiter too few, and every place where one of its tokens can
start leaves backticks behind that have no partner (`Unpaired`).
-/

namespace Dbotter.Drivers
open Dbotter.Utf8 Dbotter.Execution

/-! ## Quoting -/

/-- The loop of `quote_mysql_identifier`. -/
def doubled : Text → Text
  | [] => []
  | character :: s =>
      if character == '`' then '`' :: character :: doubled s else character :: doubled s

def quoteMysqlIdentifier (identifier : Text) : Text := '`' :: doubled identifier ++ ['`']

def selectFrom : Text := "SELECT * FROM ".toList

def limit500 : Text := " LIMIT 500".toList

def boundedSelectTemplate (schema relation : Text) : Text :=
  selectFrom ++ quoteMysqlIdentifier schema ++ '.' :: (quoteMysqlIdentifier relation ++ limit500)

/-- The name that the body of a backticked token stands for. -/
def unquoted : Text → Text
  | '`' :: '`' :: s => '`' :: unquoted s
  | c :: s => c :: unquoted s
  | [] => []

def identifierOf : Token → Option Text
  | .quoted d body => if d == '`' then some (unquoted body) else none
  | _ => none

/-- The tokens of a text are one statement over all of it, with these names in it. -/
structure ReadsNames (lexed : List Token × Text) (names : List Text) : Prop where
  one : OneStatement lexed
  whole : rangesOf lexed 0 none = [(0, byteLen (lexed.1.flatMap Token.chars))]
  names : lexed.1.filterMap identifierOf = names

/-- The quoter and the scanner agree on a template: either mode reads the two
names in it, and the scanner accepts it as one statement over all of it. -/
structure TemplateLaw (schema relation : Text) : Prop where
  reference : ∀ mode ∈ [defaultMode, noBackslashMode],
    ReadsNames (lex mode (boundedSelectTemplate schema relation)) [schema, relation]
  accepted : validateMysqlSelection (boundedSelectTemplate schema relation) = some (.ok ())
  whole : (scanMysql (boundedSelectTemplate schema relation)).map
      (fun scan => scan.statements.map MysqlStatement.range) =
    some [(0, byteLen (boundedSelectTemplate schema relation))]

/-- No odd run of backslashes stands before a backtick of the name or at its end. -/
def cleanName (name : Text) : Bool := !escapedDelimiter '`' false (name ++ ['`'])

@[simp] theorem doubled_backtick (s : Text) : doubled ('`' :: s) = '`' :: '`' :: doubled s := rfl

theorem doubled_cons {c : Char} (hc : c ≠ '`') (s : Text) : doubled (c :: s) = c :: doubled s := by
  simp [doubled, hc]

theorem unquoted_doubled (s : Text) : unquoted (doubled s) = s := by
  induction s with
  | nil => rfl
  | cons c s ih =>
      by_cases hc : c = '`'
      · subst hc
        rw [doubled_backtick, unquoted, ih]
      · rw [doubled_cons hc, unquoted, ih]
        rintro t rfl -
        exact hc rfl

theorem escapedDelimiter_doubled (odd : Bool) (s : Text) :
    escapedDelimiter '`' odd (doubled s ++ ['`']) = escapedDelimiter '`' odd (s ++ ['`']) := by
  induction s generalizing odd with
  | nil => rfl
  | cons c s ih =>
      by_cases hc : c = '`'
      · subst hc
        simp [escapedDelimiter, ih]
      · simp [doubled_cons hc, escapedDelimiter, ih]

/-! ## Closing a quoted name -/

theorem closeQuote_false_doubled (s : Text) {r : Text} (hr : r.head? ≠ some '`') :
    closeQuote false '`' (doubled s ++ '`' :: r) = some (doubled s, r) := by
  induction s with
  | nil =>
      cases r with
      | nil => rfl
      | cons y r =>
          have hy : y ≠ '`' := by simpa using hr
          simp [doubled, closeQuote, hy]
  | cons c s ih =>
      by_cases hc : c = '`'
      · subst hc
        simp [closeQuote, ih]
      · rw [doubled_cons hc, List.cons_append, closeQuote_false_cons hc, ih]
        rfl

theorem closeQuote_doubled {escapes : Bool} {s r : Text}
    (hs : escapes = true → cleanName s = true) (hr : r.head? ≠ some '`') :
    closeQuote escapes '`' (doubled s ++ '`' :: r) = some (doubled s, r) := by
  have hfalse := closeQuote_false_doubled s hr
  cases escapes with
  | false => exact hfalse
  | true =>
      have hclean : escapedDelimiter '`' false (doubled s ++ ['`']) = false := by
        rw [escapedDelimiter_doubled]
        simpa [cleanName] using hs rfl
      exact closeQuote_congr (by decide) false true hfalse hclean

theorem closeQuote_true_cons {c : Char} (hc : c ≠ '`') (hslash : c ≠ '\\') (s : Text) :
    closeQuote true '`' (c :: s) = (closeQuote true '`' s).map fun p => (c :: p.1, p.2) := by
  cases s with
  | nil => simp [closeQuote, hc, hslash]
  | cons e s => simp [closeQuote, hc, hslash]

/-- Where a name closes for a reader who is one backtick out of step: before some
rest of the name, or in what follows the name. -/
def ClosesLate (r rest : Text) : Prop :=
  (∃ u, rest = doubled u ++ '`' :: r) ∨ ∃ body, closeQuote true '`' r = some (body, rest)

theorem closesLate_of_backtick (u : Text) {r body rest : Text}
    (h : closeQuote true '`' ('`' :: (doubled u ++ '`' :: r)) = some (body, rest)) :
    ClosesLate r rest := by
  induction u generalizing body with
  | nil =>
      simp only [doubled, List.nil_append, closeQuote] at h
      obtain ⟨⟨body', rest'⟩, hclose, heq⟩ := Option.map_eq_some_iff.mp h
      cases heq
      exact .inr ⟨body', hclose⟩
  | cons c u ih =>
      by_cases hc : c = '`'
      · subst hc
        simp only [doubled_backtick, List.cons_append, closeQuote] at h
        obtain ⟨⟨body', rest'⟩, hclose, heq⟩ := Option.map_eq_some_iff.mp h
        cases heq
        exact ih hclose
      · -- the stray backtick is not doubled, so the token ends in front of `c`
        rw [doubled_cons hc, List.cons_append] at h
        simp only [closeQuote] at h
        simp [hc] at h
        obtain ⟨-, rfl⟩ := h
        exact .inl ⟨c :: u, by rw [doubled_cons hc, List.cons_append]⟩

/-- An unclean name gets the scanner out of step. -/
theorem closesLate_of_unclean : ∀ (s : Text) {r body rest : Text},
    escapedDelimiter '`' false (s ++ ['`']) = true →
      closeQuote true '`' (doubled s ++ '`' :: r) = some (body, rest) → ClosesLate r rest
  | [], _, _, _, hs, _ => by simp [escapedDelimiter] at hs
  | [c], r, body, rest, hs, h => by
      have hc : c = '\\' := by
        by_contra hne
        simp [escapedDelimiter, hne] at hs
      subst hc
      have hd : doubled ['\\'] = ['\\'] := rfl
      rw [hd, List.cons_append, List.nil_append, closeQuote_escape] at h
      obtain ⟨⟨body', rest'⟩, hclose, heq⟩ := Option.map_eq_some_iff.mp h
      cases heq
      exact .inr ⟨body', hclose⟩
  | c :: e :: s, r, body, rest, hs, h => by
      by_cases hslash : c = '\\'
      · subst hslash
        rw [doubled_cons (by decide), List.cons_append] at h
        by_cases he : e = '`'
        · subst he
          rw [doubled_backtick, List.cons_append, List.cons_append, closeQuote_escape] at h
          obtain ⟨⟨body', rest'⟩, hclose, heq⟩ := Option.map_eq_some_iff.mp h
          cases heq
          exact closesLate_of_backtick s hclose
        · have hs' : escapedDelimiter '`' false (s ++ ['`']) = true := by
            by_cases hee : e = '\\'
            · simpa [escapedDelimiter, hee] using hs
            · simpa [escapedDelimiter, hee, he] using hs
          rw [doubled_cons he, List.cons_append, closeQuote_escape] at h
          obtain ⟨⟨body', rest'⟩, hclose, heq⟩ := Option.map_eq_some_iff.mp h
          cases heq
          exact closesLate_of_unclean s hs' hclose
      · have hs' : escapedDelimiter '`' false (e :: s ++ ['`']) = true := by
          rw [List.cons_append, escapedDelimiter, if_neg (by simpa using hslash)] at hs
          simpa using hs
        by_cases hc : c = '`'
        · subst hc
          simp only [doubled_backtick, List.cons_append, closeQuote] at h
          obtain ⟨⟨body', rest'⟩, hclose, heq⟩ := Option.map_eq_some_iff.mp h
          cases heq
          exact closesLate_of_unclean (e :: s) hs' hclose
        · rw [doubled_cons hc, List.cons_append, closeQuote_true_cons hc hslash] at h
          obtain ⟨⟨body', rest'⟩, hclose, heq⟩ := Option.map_eq_some_iff.mp h
          cases heq
          exact closesLate_of_unclean (e :: s) hs' hclose

/-! ## Texts with an unpaired backtick -/

/-- What can be left to read when the scanner is out of step: a rest of the
relation name, or of both names, with all the delimiters that follow. -/
def Unpaired (w text : Text) : Prop :=
  (∃ u, text = doubled u ++ '`' :: w) ∨
    ∃ u v, text = doubled u ++ '`' :: '.' :: '`' :: (doubled v ++ '`' :: w)

theorem doubled_cut {u z y rest : Text} {d : Char} (hd : d ≠ '`')
    (h : doubled u ++ z = y ++ d :: rest) :
    (∃ u', rest = doubled u' ++ z) ∨ ∃ y', z = y' ++ d :: rest := by
  induction u generalizing y with
  | nil => exact .inr ⟨y, h⟩
  | cons c u ih =>
      by_cases hc : c = '`'
      · subst hc
        rw [doubled_backtick, List.cons_append, List.cons_append] at h
        match y, h with
        | [], h => exact absurd (List.cons.inj h).1.symm hd
        | [_], h => exact absurd (List.cons.inj (List.cons.inj h).2).1.symm hd
        | _ :: _ :: y, h => exact ih (List.cons.inj (List.cons.inj h).2).2
      · rw [doubled_cons hc, List.cons_append] at h
        cases y with
        | nil => exact .inl ⟨u, (List.cons.inj h).2.symm⟩
        | cons _ y => exact ih (List.cons.inj h).2

section Scan
variable {w : Text} (hw : '`' ∉ w)

theorem unpaired_cons {c : Char} (hc : c ≠ '`') {text : Text} (h : Unpaired w text) :
    Unpaired w (c :: text) := by
  rcases h with ⟨u, rfl⟩ | ⟨u, v, rfl⟩
  · exact .inl ⟨c :: u, by rw [doubled_cons hc, List.cons_append]⟩
  · exact .inr ⟨c :: u, v, by rw [doubled_cons hc, List.cons_append]⟩

theorem unpaired_tail {c : Char} (hc : c ≠ '`') {text : Text} (h : Unpaired w (c :: text)) :
    Unpaired w text := by
  have hcut : ∀ {u z : Text}, c :: text = doubled u ++ '`' :: z →
      ∃ u', text = doubled u' ++ '`' :: z := by
    intro u z heq
    have hsplit : doubled u ++ '`' :: z = [] ++ c :: text := heq.symm
    rcases doubled_cut hc hsplit with hrest | ⟨y, hy⟩
    · exact hrest
    · have hlen := congrArg List.length heq
      have hylen := congrArg List.length hy
      simp only [List.length_cons, List.length_append] at hlen hylen
      obtain rfl : y = [] := List.length_eq_zero_iff.mp (by omega)
      exact absurd (List.cons.inj hy).1.symm hc
  rcases h with ⟨u, heq⟩ | ⟨u, v, heq⟩
  · exact .inl (hcut heq)
  · obtain ⟨u', hu⟩ := hcut heq
    exact .inr ⟨u', v, hu⟩

/-- A cut behind any character of the names leaves an unpaired backtick. -/
theorem unpaired_cut {text y rest : Text} {d : Char} (hd : d ≠ '`') (hdot : d ≠ '.') (hdw : d ∉ w)
    (htext : text = y ++ d :: rest) (h : Unpaired w text) : Unpaired w rest := by
  have hlast : ∀ {u y : Text}, doubled u ++ '`' :: w = y ++ d :: rest →
      ∃ u', rest = doubled u' ++ '`' :: w := by
    intro u y heq
    rcases doubled_cut hd heq with hrest | ⟨y', hy⟩
    · exact hrest
    · have hmem : d ∈ '`' :: w := by rw [hy]; simp
      rcases List.mem_cons.mp hmem with hd' | hmem
      · exact absurd hd' hd
      · exact absurd hmem hdw
  rcases h with ⟨u, rfl⟩ | ⟨u, v, rfl⟩
  · exact .inl (hlast htext)
  · rcases doubled_cut hd htext with ⟨u', hrest⟩ | ⟨y', hy⟩
    · exact .inr ⟨u', v, hrest⟩
    · -- the cut is in the relation name or behind it
      match y', hy with
      | [], hy => exact absurd (List.cons.inj hy).1.symm hd
      | [_], hy => exact absurd (List.cons.inj (List.cons.inj hy).2).1.symm hdot
      | [_, _], hy => exact absurd (List.cons.inj (List.cons.inj (List.cons.inj hy).2).2).1.symm hd
      | _ :: _ :: _ :: y'', hy =>
          exact .inl (hlast (List.cons.inj (List.cons.inj (List.cons.inj hy).2).2).2)

include hw in
theorem closeQuote_tail_none {body rest : Text} : closeQuote true '`' w ≠ some (body, rest) := by
  intro h
  apply hw
  rw [closeQuote_eq_append h]
  simp

include hw in
theorem unpaired_of_closesLate_relation {rest : Text} (h : ClosesLate w rest) : Unpaired w rest := by
  rcases h with hu | ⟨body, hbody⟩
  · exact .inl hu
  · exact absurd hbody (closeQuote_tail_none hw)

include hw in
theorem unpaired_of_closesLate_schema {v rest : Text}
    (h : ClosesLate ('.' :: '`' :: (doubled v ++ '`' :: w)) rest) : Unpaired w rest := by
  rcases h with ⟨u, hu⟩ | ⟨body, hbody⟩
  · exact .inr ⟨u, v, hu⟩
  · rw [closeQuote_true_cons (by decide) (by decide)] at hbody
    obtain ⟨⟨body', rest'⟩, hclose, heq⟩ := Option.map_eq_some_iff.mp hbody
    cases heq
    exact unpaired_of_closesLate_relation hw (closesLate_of_backtick v hclose)

include hw in
theorem unpaired_of_closeQuote {s body rest : Text} (h : Unpaired w ('`' :: s))
    (hclose : closeQuote true '`' s = some (body, rest)) : Unpaired w rest := by
  rcases h with ⟨u, heq⟩ | ⟨u, v, heq⟩
  · cases u with
    | nil =>
        obtain rfl : s = w := (List.cons.inj heq).2
        exact absurd hclose (closeQuote_tail_none hw)
    | cons c u =>
        obtain rfl : c = '`' := by
          by_contra hc
          rw [doubled_cons hc] at heq
          exact hc (List.cons.inj heq).1.symm
        obtain rfl := (List.cons.inj heq).2
        exact unpaired_of_closesLate_relation hw (closesLate_of_backtick u hclose)
  · cases u with
    | nil =>
        obtain rfl := (List.cons.inj heq).2
        exact unpaired_of_closesLate_schema hw (.inr ⟨body, hclose⟩)
    | cons c u =>
        obtain rfl : c = '`' := by
          by_contra hc
          rw [doubled_cons hc] at heq
          exact hc (List.cons.inj heq).1.symm
        obtain rfl := (List.cons.inj heq).2
        exact unpaired_of_closesLate_schema hw (closesLate_of_backtick u hclose)

variable (hmarks : ∀ c ∈ w, isQuote c = false ∧ c ≠ '/' ∧ c ≠ '\n')

include hmarks in
/-- One token of an unpaired text leaves an unpaired text, or is a comment that
takes everything. -/
theorem unpaired_step {text rest : Text} {t : Token} (h : Unpaired w text)
    (hone : lexOne scannerRule text = some (t, rest)) :
    (∃ cs, t = .comment cs ∧ rest = []) ∨ Unpaired w rest := by
  have hw : '`' ∉ w := fun hmem => by simpa [isQuote] using (hmarks _ hmem).1
  cases lexStep_of_lexOne hone with
  | line hline =>
      cases hrest : text.dropWhile (· != '\n') with
      | nil => exact .inl ⟨_, rfl, rfl⟩
      | cons c r =>
          have hc : c = '\n' := by
            have hhead := List.head?_dropWhile_not (· != '\n') text
            rw [hrest] at hhead
            simpa using hhead
          subst hc
          have hsplit : text = text.takeWhile (· != '\n') ++ '\n' :: r := by
            rw [← hrest, List.takeWhile_append_dropWhile]
          refine .inr (unpaired_cons (by decide) (unpaired_cut (by decide) (by decide) ?_ hsplit h))
          exact fun hmem => (hmarks _ hmem).2.2 rfl
  | @block r body _ hclose =>
      have hsplit : '/' :: '*' :: r = '/' :: '*' :: body ++ ['*'] ++ '/' :: rest := by
        rw [closeBlock_eq_append hclose]
        simp
      refine .inr (unpaired_cut (by decide) (by decide) ?_ hsplit h)
      exact fun hmem => (hmarks _ hmem).2.1 rfl
  | @quoted d s body _ hd hclose =>
      by_cases hb : d = '`'
      · subst hb
        exact .inr (unpaired_of_closeQuote hw h hclose)
      · have hsplit : d :: s = d :: body ++ d :: rest := by
          rw [closeQuote_eq_append hclose]
          rfl
        have hdot : d ≠ '.' := by
          rintro rfl
          revert hd
          decide
        refine .inr (unpaired_cut hb hdot ?_ hsplit h)
        exact fun hmem => by simpa [hd] using (hmarks _ hmem).1
  | terminator => exact .inr (unpaired_tail (by decide) h)
  | char hline hblock hquote hterm =>
      refine .inr (unpaired_tail ?_ h)
      rintro rfl
      revert hquote
      decide

end Scan

/-- The text is unterminated, or a comment is its last token. -/
def EndsInComment (lexed : List Token × Text) : Prop :=
  lexed.2 = [] → ∃ ts cs, lexed.1 = ts ++ [.comment cs]

theorem endsInComment_of_token {escapes : Char → Bool} {s rest : Text} {t : Token}
    (hone : lexOne escapes s = some (t, rest)) (h : EndsInComment (lex escapes rest)) :
    EndsInComment (lex escapes s) := by
  rw [lex_of_some hone]
  intro hend
  obtain ⟨ts, cs, hts⟩ := h hend
  exact ⟨t :: ts, cs, congrArg (t :: ·) hts⟩

theorem endsInComment_of_unpaired {w : Text} (hmarks : ∀ c ∈ w, isQuote c = false ∧ c ≠ '/' ∧ c ≠ '\n')
    (s : Text) (h : Unpaired w s) : EndsInComment (lex scannerRule s) := by
  induction s using lex_induction scannerRule with
  | stop s hone =>
      rw [lex_of_none hone]
      rintro rfl
      rcases h with ⟨u, heq⟩ | ⟨u, v, heq⟩ <;> simp at heq
  | token s t rest hone ih =>
      rcases unpaired_step hmarks h hone with ⟨cs, rfl, rfl⟩ | hrest
      · intro _
        exact ⟨[], cs, by rw [lex_of_some hone]; rfl⟩
      · exact endsInComment_of_token hone (ih hrest)

/-! ## The tokens of a template -/

/-- A character that is a token by itself, wherever it stands outside a token. -/
def isOrdinary (c : Char) : Bool :=
  !isQuote c && c != '#' && c != '-' && c != '/' && c != ';'

def charToken (c : Char) : Token := if isWhitespace c then .blank c else .plain c

theorem lexOne_ordinary (mode : Char → Bool) {c : Char} (hc : isOrdinary c = true) (s : Text) :
    lexOne mode (c :: s) = some (charToken c, s) := by
  simp only [isOrdinary, Bool.and_eq_true, Bool.not_eq_true', bne_iff_ne] at hc
  obtain ⟨⟨⟨⟨hquote, hhash⟩, hdash⟩, hslash⟩, hterm⟩ := hc
  refine lexOne_of_lexStep (.char ?_ ?_ hquote hterm)
  · by_contra hline
    rw [Bool.not_eq_false] at hline
    exact (startsLineComment_head hline).elim hhash hdash
  · by_contra hblock
    rw [Bool.not_eq_false, startsBlockComment_iff] at hblock
    obtain ⟨r, hr⟩ := hblock
    exact hslash (List.cons.inj hr).1

theorem lex_ordinary (mode : Char → Bool) (front s : Text) (hfront : front.all isOrdinary = true) :
    lex mode (front ++ s) = (front.map charToken ++ (lex mode s).1, (lex mode s).2) := by
  induction front with
  | nil => rfl
  | cons c front ih =>
      rw [List.all_cons, Bool.and_eq_true] at hfront
      rw [List.cons_append, lex_of_some (lexOne_ordinary mode hfront.1 (front ++ s)), ih hfront.2]
      rfl

theorem lexOne_name {mode : Char → Bool} {name r : Text}
    (hname : mode '`' = true → cleanName name = true) (hr : r.head? ≠ some '`') :
    lexOne mode (quoteMysqlIdentifier name ++ r) = some (.quoted '`' (doubled name), r) := by
  have hsplit : quoteMysqlIdentifier name ++ r = '`' :: (doubled name ++ '`' :: r) := by
    simp [quoteMysqlIdentifier]
  rw [hsplit]
  exact lexOne_of_lexStep (.quoted (by decide) (closeQuote_doubled hname hr))

def templateTokens (schema relation : Text) : List Token :=
  selectFrom.map charToken ++ .quoted '`' (doubled schema) :: .plain '.' ::
    .quoted '`' (doubled relation) :: limit500.map charToken

theorem lex_boundedSelectTemplate {mode : Char → Bool} {schema relation : Text}
    (h : mode '`' = true → cleanName schema = true ∧ cleanName relation = true) :
    lex mode (boundedSelectTemplate schema relation) = (templateTokens schema relation, []) := by
  have hempty : lex mode [] = ([], []) := lex_of_none rfl
  have hlimit := lex_ordinary mode limit500 [] (by decide +kernel)
  rw [List.append_nil, hempty, List.append_nil] at hlimit
  have hrelation := lexOne_name (fun hm => (h hm).2) (r := limit500) (by decide +kernel)
  have hdot := lexOne_ordinary mode (c := '.') (by decide) (quoteMysqlIdentifier relation ++ limit500)
  have hschema := lexOne_name (fun hm => (h hm).1)
    (r := '.' :: (quoteMysqlIdentifier relation ++ limit500)) (by simp)
  rw [boundedSelectTemplate, List.append_assoc, lex_ordinary mode _ _ (by decide +kernel),
    lex_of_some hschema, lex_of_some hdot, lex_of_some hrelation, hlimit]
  rfl

/-! ## One statement over the whole text -/

/-- A statement ends before a comment at the end of the text. -/
theorem stop_lt_of_last_comment {complete : Bool} {pos : Nat} {current : Option (Nat × Nat)}
    {ts : List Token} {cs : Text} (hcs : cs ≠ []) (hcurrent : ∀ c ∈ current, c.2 ≤ pos)
    {r : Nat × Nat} (h : r ∈ statementRanges complete pos current (ts ++ [Token.comment cs])) :
    r.2 < pos + byteLen ((ts ++ [Token.comment cs]).flatMap Token.chars) := by
  have hpos := byteLen_pos.mpr hcs
  induction ts generalizing pos current with
  | nil =>
      have hlen : byteLen (([] ++ [Token.comment cs]).flatMap Token.chars) = byteLen cs := by
        simp [Token.chars]
      have hr : r ∈ (if complete then current.toList else []) := h
      split at hr
      · have := hcurrent r (Option.mem_toList.mp hr)
        omega
      · cases hr
  | cons t ts ih =>
      have hlen : pos + byteLen t.chars + byteLen ((ts ++ [Token.comment cs]).flatMap Token.chars) =
          pos + byteLen ((t :: ts ++ [Token.comment cs]).flatMap Token.chars) := by
        rw [List.cons_append, List.flatMap_cons, byteLen_append]
        omega
      have hrest : byteLen ((ts ++ [Token.comment cs]).flatMap Token.chars) =
          byteLen (ts.flatMap Token.chars) + byteLen cs := by
        simp [Token.chars]
      rw [← hlen]
      simp only [List.cons_append, statementRanges] at h
      split at h
      · rcases List.mem_append.mp h with hclosed | htail
        · obtain ⟨c, hc, rfl⟩ := Option.map_eq_some_iff.mp (Option.mem_toList.mp hclosed)
          show pos + byteLen t.chars < _
          omega
        · exact ih (by simp) htail
      · split at h
        · refine ih ?_ h
          rintro c hc
          obtain rfl := Option.some.inj hc
          exact Nat.le_refl _
        · refine ih ?_ h
          intro c hc
          have := hcurrent c hc
          omega

theorem charToken_ne_terminator (c : Char) : charToken c ≠ .terminator := by
  unfold charToken
  split <;> exact nofun

theorem identifierOf_charToken (c : Char) : identifierOf (charToken c) = none := by
  unfold charToken
  split <;> rfl

theorem readsNames_templateTokens (schema relation : Text) :
    ReadsNames (templateTokens schema relation, []) [schema, relation] := by
  have hchars : ∀ (s : Text), ∀ u ∈ s.map charToken, u ≠ .terminator := by
    intro s u hu
    obtain ⟨c, -, rfl⟩ := List.mem_map.mp hu
    exact charToken_ne_terminator c
  have hnone : ∀ s : Text, (s.map charToken).filterMap identifierOf = [] := by
    intro s
    rw [List.filterMap_eq_nil_iff]
    intro u hu
    obtain ⟨c, -, rfl⟩ := List.mem_map.mp hu
    exact identifierOf_charToken c
  have hterm : ∀ u ∈ templateTokens schema relation, u ≠ .terminator := by
    intro u hu
    simp only [templateTokens, List.mem_append, List.mem_cons] at hu
    rcases hu with hu | rfl | rfl | rfl | hu
    · exact hchars _ u hu
    · exact nofun
    · exact nofun
    · exact nofun
    · exact hchars _ u hu
  have hfront : selectFrom.map charToken = .plain 'S' :: selectFrom.tail.map charToken := by
    decide +kernel
  have hback : limit500.map charToken = limit500.dropLast.map charToken ++ [.plain '0'] := by
    decide +kernel
  -- the first and the last token are code, so the statement reaches from end to end
  have hends : templateTokens schema relation = .plain 'S' :: ((selectFrom.tail.map charToken ++
      .quoted '`' (doubled schema) :: .plain '.' :: .quoted '`' (doubled relation) ::
        limit500.dropLast.map charToken) ++ [.plain '0']) := by
    rw [templateTokens, hfront, hback]
    simp
  have hnames : (templateTokens schema relation).filterMap identifierOf = [schema, relation] := by
    rw [templateTokens, List.filterMap_append, hnone]
    simp only [List.filterMap_cons, identifierOf, beq_self_eq_true, if_true, unquoted_doubled, hnone]
    rfl
  generalize templateTokens schema relation = ts at hterm hends hnames
  have hwhole : WholeStatement ts := by
    refine ⟨⟨.plain 'S', _, hends, rfl⟩, fun u hu => hterm u (List.dropLast_subset ts hu), ?_⟩
    intro u hu
    rw [hends, ← List.cons_append, List.getLast?_concat] at hu
    obtain rfl := Option.some.inj hu
    rfl
  exact ⟨hwhole.oneStatement, hwhole.rangesOf, hnames⟩

/-! ## The template and the scanner -/

theorem endsInComment_append {front s : Text} (hfront : front.all isOrdinary = true)
    (h : EndsInComment (lex scannerRule s)) : EndsInComment (lex scannerRule (front ++ s)) := by
  rw [lex_ordinary scannerRule front s hfront]
  intro hend
  obtain ⟨ts, cs, hts⟩ := h hend
  exact ⟨front.map charToken ++ ts, cs, by rw [hts, List.append_assoc]⟩

theorem endsInComment_of_name {name r : Text}
    (h : ∀ body rest, closeQuote true '`' (doubled name ++ '`' :: r) = some (body, rest) →
      EndsInComment (lex scannerRule rest)) :
    EndsInComment (lex scannerRule (quoteMysqlIdentifier name ++ r)) := by
  have hsplit : quoteMysqlIdentifier name ++ r = '`' :: (doubled name ++ '`' :: r) := by
    simp [quoteMysqlIdentifier]
  rw [hsplit]
  cases hclose : closeQuote true '`' (doubled name ++ '`' :: r) with
  | none =>
      rw [lex_of_none (lexOne_eq_none_iff.mpr (.inr (.inr ⟨_, _, rfl, by decide, hclose⟩)))]
      exact nofun
  | some p =>
      have hone := @lexOne_of_lexStep scannerRule _ _ _ (.quoted (by decide) hclose)
      exact endsInComment_of_token hone (h p.1 p.2 hclose)

/-- With an unclean name the scanner finds no token that ends the template. -/
theorem endsInComment_of_unclean {schema relation : Text}
    (h : ¬ (cleanName schema = true ∧ cleanName relation = true)) :
    EndsInComment (lex scannerRule (boundedSelectTemplate schema relation)) := by
  have hmarks : ∀ c ∈ limit500, isQuote c = false ∧ c ≠ '/' ∧ c ≠ '\n' :=
    forall_mem_of_all (by decide +kernel)
  have hw : '`' ∉ limit500 := by decide +kernel
  have hunclean : ∀ {name : Text}, cleanName name ≠ true →
      escapedDelimiter '`' false (name ++ ['`']) = true := by
    intro name hname
    simpa [cleanName] using hname
  rw [boundedSelectTemplate, List.append_assoc]
  refine endsInComment_append (by decide +kernel) ?_
  by_cases hschema : cleanName schema = true
  · have hrelation : cleanName relation ≠ true := fun hrelation => h ⟨hschema, hrelation⟩
    refine endsInComment_of_token (lexOne_name (fun _ => hschema) (by simp)) ?_
    refine endsInComment_of_token (lexOne_ordinary scannerRule (by decide) _) ?_
    refine endsInComment_of_name fun body rest hclose => ?_
    have hlate := closesLate_of_unclean relation (hunclean hrelation) hclose
    exact endsInComment_of_unpaired hmarks rest (unpaired_of_closesLate_relation hw hlate)
  · refine endsInComment_of_name fun body rest hclose => ?_
    have hsplit : '.' :: (quoteMysqlIdentifier relation ++ limit500) =
        '.' :: '`' :: (doubled relation ++ '`' :: limit500) := by
      simp [quoteMysqlIdentifier]
    rw [hsplit] at hclose
    have hlate := closesLate_of_unclean schema (hunclean hschema) hclose
    exact endsInComment_of_unpaired hmarks rest (unpaired_of_closesLate_schema hw hlate)

/-- The template keeps its promise exactly for two clean names. -/
theorem boundedSelectTemplate_lawful_iff (schema relation : Text) :
    TemplateLaw schema relation ↔ cleanName schema = true ∧ cleanName relation = true := by
  constructor
  · intro h
    by_contra hunclean
    have hcomment := endsInComment_of_unclean hunclean
    have hone := (validateMysqlSelection_ok_iff _).mp h.accepted
    obtain ⟨ts, cs, hts⟩ := hcomment hone.1
    have hchars := flatMap_chars_lex hone.1
    have hcs : cs ≠ [] := by
      have hmem : Token.comment cs ∈ (lex scannerRule (boundedSelectTemplate schema relation)).1 := by
        rw [hts]
        simp
      exact chars_ne_nil_of_mem_lex _ _ hmem
    have hwhole := h.whole
    rw [scanMysql_eq_scanLex, Option.map_some, (scanLex_statements _).1, rangesOf, hts,
      Option.some.injEq] at hwhole
    have hlt := stop_lt_of_last_comment hcs (by simp) (hwhole ▸ List.mem_cons_self)
    rw [← hts, hchars] at hlt
    omega
  · intro hclean
    have hlex := fun mode => @lex_boundedSelectTemplate mode _ _ fun _ => hclean
    have hreads := readsNames_templateTokens schema relation
    have hchars := @flatMap_chars_lex scannerRule (boundedSelectTemplate schema relation)
      (by rw [hlex])
    refine ⟨fun mode _ => by rwa [hlex], ?_, ?_⟩
    · rw [validateMysqlSelection_ok_iff, hlex]
      exact hreads.one
    · rw [scanMysql_eq_scanLex, Option.map_some, (scanLex_statements _).1, hlex, hreads.whole]
      rw [hlex] at hchars
      rw [hchars]

/-- A schema name that ends in a backslash makes a template that the scanner
rejects. -/
theorem boundedSelectTemplate_backslash_name : ¬ TemplateLaw "a\\".toList "t".toList := by
  intro h
  exact absurd h.accepted (by decide +kernel)

end Dbotter.Drivers
