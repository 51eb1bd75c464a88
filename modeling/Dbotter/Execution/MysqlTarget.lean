import Dbotter.Execution.ScanTokens

/-!
Which texts the MySQL scanner accepts as one statement, and which statement it
finds at a caret, against the reference lexer.
-/

namespace Dbotter.Execution
open Dbotter.Utf8

/-! ## One statement -/

/-- A terminated token sequence whose significant tokens are one nonempty
statement with at most one terminator, at its end. -/
def OneStatement (lexed : List Token × Text) : Prop :=
  lexed.2 = [] ∧
    (lexed.1.filter Token.isSignificant).takeWhile (· != .terminator) ≠ [] ∧
    ((lexed.1.filter Token.isSignificant).dropWhile (· != .terminator) = [] ∨
      (lexed.1.filter Token.isSignificant).dropWhile (· != .terminator) = [.terminator])

instance (lexed : List Token × Text) : Decidable (OneStatement lexed) :=
  inferInstanceAs (Decidable (_ ∧ _ ∧ (_ ∨ _)))

/-- What the scan of a token sequence counts. -/
structure Tally where
  statements : Nat := 0
  pending : Bool := false
  stray : Bool := false
  deriving DecidableEq, Repr

namespace Tally

def token (c : Tally) (t : Token) : Tally :=
  if t == .terminator then
    if c.pending then { c with statements := c.statements + 1, pending := false }
    else { c with stray := true }
  else { c with pending := c.pending || t.isCode }

def accepts (c : Tally) : Prop := c.statements + c.pending.toNat = 1 ∧ c.stray = false

/-- A tally that no further token brings back to acceptance. -/
def dead (c : Tally) : Prop := 2 ≤ c.statements + c.pending.toNat ∨ c.stray = true

theorem dead_token {c : Tally} (h : c.dead) (t : Token) : (c.token t).dead := by
  obtain ⟨n, p, b⟩ := c
  simp only [dead] at h ⊢
  unfold token
  split_ifs with ht hp
  · simp_all
  · exact .inr rfl
  · rcases h with h | h
    · have hp : p.toNat ≤ (p || t.isCode).toNat := by cases p <;> cases t.isCode <;> decide
      exact .inl (Nat.le_trans h (Nat.add_le_add_left hp n))
    · exact .inr h

theorem not_accepts_of_dead {c : Tally} (h : c.dead) (ts : List Token) :
    ¬ (ts.foldl token c).accepts := by
  induction ts generalizing c with
  | nil =>
      rintro ⟨hone, hstray⟩
      rcases h with h | h
      · simp only [List.foldl_nil] at hone
        omega
      · simp [h] at hstray
  | cons t ts ih => exact ih (dead_token h t)

theorem foldl_filter (c : Tally) (ts : List Token) :
    ts.foldl token c = (ts.filter Token.isSignificant).foldl token c := by
  induction ts generalizing c with
  | nil => rfl
  | cons t ts ih =>
      by_cases ht : t.isSignificant = true
      · rw [List.filter_cons_of_pos ht, List.foldl_cons, List.foldl_cons, ih]
      · have hlayout : t.isCode = false ∧ (t == .terminator) = false := by
          simpa [Token.isSignificant] using ht
        rw [List.filter_cons_of_neg ht, List.foldl_cons, ih]
        simp [token, hlayout.1, hlayout.2]

theorem accepts_closed {ts : List Token} (hts : ∀ t ∈ ts, t.isSignificant = true) :
    (ts.foldl token ⟨1, false, false⟩).accepts ↔ ts = [] := by
  cases ts with
  | nil => exact iff_of_true ⟨rfl, rfl⟩ rfl
  | cons t ts =>
      refine iff_of_false (not_accepts_of_dead ?_ ts) (List.cons_ne_nil t ts)
      have ht := hts t List.mem_cons_self
      simp only [Token.isSignificant, Bool.or_eq_true, beq_iff_eq] at ht
      rcases ht with hcode | rfl
      · left
        have hne : (t == .terminator) = false := beq_eq_false_iff_ne.mpr (by rintro rfl; cases hcode)
        simp [token, hne, hcode]
      · exact .inr rfl

theorem accepts_pending {ts : List Token} (hts : ∀ t ∈ ts, t.isSignificant = true) :
    (ts.foldl token ⟨0, true, false⟩).accepts ↔
      ts.dropWhile (· != .terminator) = [] ∨ ts.dropWhile (· != .terminator) = [.terminator] := by
  induction ts with
  | nil => exact iff_of_true ⟨rfl, rfl⟩ (.inl rfl)
  | cons t ts ih =>
      have htail : ∀ u ∈ ts, u.isSignificant = true := fun u hu => hts u (List.mem_cons_of_mem t hu)
      by_cases hterm : t = .terminator
      · subst hterm
        rw [List.foldl_cons, show token ⟨0, true, false⟩ .terminator = ⟨1, false, false⟩ from rfl,
          accepts_closed htail]
        simp
      · have hne : (t == .terminator) = false := beq_eq_false_iff_ne.mpr hterm
        rw [List.foldl_cons, show token ⟨0, true, false⟩ t = ⟨0, true, false⟩ by simp [token, hne],
          ih htail, List.dropWhile_cons_of_pos (by simp [hterm])]

theorem accepts_initial {ts : List Token} (hts : ∀ t ∈ ts, t.isSignificant = true) :
    (ts.foldl token {}).accepts ↔
      ts.takeWhile (· != .terminator) ≠ [] ∧
        (ts.dropWhile (· != .terminator) = [] ∨ ts.dropWhile (· != .terminator) = [.terminator]) := by
  cases ts with
  | nil => exact iff_of_false (by rintro ⟨h, -⟩; cases h) (by simp)
  | cons t ts =>
      have htail : ∀ u ∈ ts, u.isSignificant = true := fun u hu => hts u (List.mem_cons_of_mem t hu)
      have ht := hts t List.mem_cons_self
      by_cases hterm : t = .terminator
      · subst hterm
        exact iff_of_false (not_accepts_of_dead (.inr rfl) ts) (by simp)
      · have hne : (t == .terminator) = false := beq_eq_false_iff_ne.mpr hterm
        have hcode : t.isCode = true := by simpa [Token.isSignificant, hne] using ht
        rw [List.foldl_cons, show token {} t = ⟨0, true, false⟩ by simp [token, hne, hcode],
          accepts_pending htail, List.dropWhile_cons_of_pos (by simp [hterm]),
          List.takeWhile_cons_of_pos (by simp [hterm])]
        simp

end Tally

def ScanState.tally (st : ScanState) : Tally :=
  ⟨st.statements.length, st.pending.firstExecutable.isSome, st.strayTerminator⟩

theorem tally_token (before : Text) (st : ScanState) (t : Token) :
    (st.token before t).tally = st.tally.token t := by
  by_cases ht : t = .terminator
  · subst ht
    show st.terminate.tally = _
    unfold ScanState.terminate PendingMysqlStatement.finish
    cases hfirst : st.pending.firstExecutable <;>
      simp [ScanState.tally, Tally.token, hfirst]
  · have hne : (t == .terminator) = false := beq_eq_false_iff_ne.mpr ht
    cases hcode : t.isCode <;>
      simp [ScanState.token, ScanState.tally, Tally.token, hne, hcode,
        PendingMysqlStatement.markExecutable, PendingMysqlStatement.flag]

theorem tally_scanTokens (before : Text) (st : ScanState) (ts : List Token) :
    (scanTokens before st ts).tally = ts.foldl Tally.token st.tally := by
  induction ts generalizing before st with
  | nil => rfl
  | cons t ts ih => rw [scanTokens, ih, tally_token, List.foldl_cons]

theorem oneStatement_iff_accepts (lexed : List Token × Text) :
    OneStatement lexed ↔ lexed.2 = [] ∧ (lexed.1.foldl Tally.token {}).accepts := by
  rw [OneStatement, Tally.foldl_filter, Tally.accepts_initial]
  exact fun t ht => (List.mem_filter.mp ht).2

theorem finishScan_accepts_iff (st : ScanState) :
    (st.finishScan.statements.length = 1 ∧ st.finishScan.strayTerminator = false) ↔
      st.tally.accepts := by
  unfold ScanState.finishScan PendingMysqlStatement.finish ScanState.tally Tally.accepts
  cases st.pending.firstExecutable <;> simp

theorem validateMysqlSelection_ok_iff_scan {text : Text} (htext : text ≠ []) :
    validateMysqlSelection text = some (.ok ()) ↔
      (scanLex text).issue = none ∧ (scanLex text).statements.length = 1 ∧
        (scanLex text).strayTerminator = false := by
  rw [validateMysqlSelection, if_neg (by simpa using htext), scanMysql_eq_scanLex]
  generalize scanLex text = scan
  obtain ⟨statements, issue, stray⟩ := scan
  cases issue with
  | some issue => simp
  | none =>
      match statements with
      | [] => simp
      | [_] => cases stray <;> simp
      | _ :: _ :: _ => simp

theorem conclude_issue_isSome (before : Text) (st : ScanState) (c : Char) (r : Text) :
    (st.conclude before (c :: r)).issue ≠ none := by
  rw [ScanState.conclude]
  split_ifs <;> exact Option.some_ne_none _

/-- The scanner accepts what is one statement under its own escape rule. -/
theorem validateMysqlSelection_ok_iff (text : Text) :
    validateMysqlSelection text = some (.ok ()) ↔ OneStatement (lex scannerRule text) := by
  rw [oneStatement_iff_accepts]
  by_cases htext : text = []
  · subst htext
    exact iff_of_false (by simp [validateMysqlSelection]) (by rintro ⟨-, h, -⟩; cases h)
  · have htally := tally_scanTokens [] {} (lex scannerRule text).1
    have hinit : ({} : ScanState).tally = {} := rfl
    rw [validateMysqlSelection_ok_iff_scan htext, ← hinit, ← htally, ← finishScan_accepts_iff, scanLex]
    generalize scanTokens [] {} (lex scannerRule text).1 = st
    cases (lex scannerRule text).2 with
    | nil => exact ⟨fun h => ⟨rfl, h.2⟩, fun h => ⟨rfl, h.2⟩⟩
    | cons c r => exact iff_of_false (fun h => conclude_issue_isSome _ st c r h.1) (by simp)

/-- On a text with clean identifiers, and for the reason that there the scanner
reads the tokens of the default mode, a selection is accepted exactly when the
default mode reads it as one statement. -/
theorem validateMysqlSelection_eq_reference (text : Text) :
    (cleanIdentifiers text = true ↔ lex scannerRule text = lex defaultMode text) ∧
      (cleanIdentifiers text = true →
        (validateMysqlSelection text = some (.ok ()) ↔ OneStatement (lex defaultMode text))) := by
  refine ⟨(lex_eq_iff text).symm, fun hclean => ?_⟩
  rw [validateMysqlSelection_ok_iff, (lex_eq_iff text).mpr hclean]

theorem validateMysqlSelection_quoted_name :
    cleanIdentifiers "SELECT `a`;".toList = true ∧
      (validateMysqlSelection "SELECT `a`;".toList = some (.ok ()) ↔
        OneStatement (lex defaultMode "SELECT `a`;".toList)) :=
  ⟨by decide +kernel,
    (validateMysqlSelection_eq_reference "SELECT `a`;".toList).2 (by decide +kernel)⟩

/-- A name that ends in a backslash is rejected, and a second statement behind
such a name is accepted. -/
theorem validateMysqlSelection_backslash_name :
    (OneStatement (lex defaultMode "SELECT `a\\`".toList) ∧
      validateMysqlSelection "SELECT `a\\`".toList = some (.error .unterminatedSqlToken)) ∧
    (validateMysqlSelection "SELECT 1 AS `a\\`; DROP TABLE t; -- `".toList = some (.ok ()) ∧
      ¬ OneStatement (lex defaultMode "SELECT 1 AS `a\\`; DROP TABLE t; -- `".toList)) := by
  decide +kernel

/-! ## The statement at a caret -/

/-- The byte ranges of the statements of a token sequence that starts at `pos`
with the range `current` still open. An unterminated token takes the statement it
stands in out of the list. -/
def statementRanges (complete : Bool) (pos : Nat) (current : Option (Nat × Nat)) :
    List Token → List (Nat × Nat)
  | [] => if complete then current.toList else []
  | t :: ts =>
      let stop := pos + byteLen t.chars
      if t == .terminator then
        (current.map fun r => (r.1, stop)).toList ++ statementRanges complete stop none ts
      else if t.isCode then
        statementRanges complete stop (some ((current.map Prod.fst).getD pos, stop)) ts
      else statementRanges complete stop current ts

def rangesOf (lexed : List Token × Text) (pos : Nat) (current : Option (Nat × Nat)) :
    List (Nat × Nat) :=
  statementRanges lexed.2.isEmpty pos current lexed.1

def rangeContains (caret textLen : Nat) (r : Nat × Nat) : Bool :=
  mysqlStatementContains ⟨r.1, r.2, false⟩ caret textLen

/-- The statement that a SQL mode has at a byte offset. -/
def statementAt (mode : Char → Bool) (text : Text) (caret : Nat) : Option (Nat × Nat) :=
  (rangesOf (lex mode text) 0 none).find? (rangeContains caret (byteLen text))

/-- Every token with its byte offset. -/
def positioned (pos : Nat) : List Token → List (Nat × Token)
  | [] => []
  | t :: ts => (pos, t) :: positioned (pos + byteLen t.chars) ts

def Token.isIdentifier : Token → Bool
  | .quoted d _ => d == '`'
  | _ => false

/-- No odd run of backslashes stands before a delimiter of a token left of the
statement at the caret, or of an identifier in it, as the default mode reads the
text; without a statement there, of an identifier anywhere. -/
def caretUnambiguous (text : Text) (caret : Nat) : Bool :=
  match statementAt defaultMode text caret with
  | some r =>
      (positioned 0 (lex defaultMode text).1).all fun pt =>
        !(pt.2.misread && (pt.1 < r.1 || (pt.2.isIdentifier && pt.1 < r.2)))
  | none => cleanIdentifiers text

theorem le_of_mem_positioned {pos : Nat} {ts : List Token} {pt : Nat × Token}
    (h : pt ∈ positioned pos ts) : pos ≤ pt.1 := by
  induction ts generalizing pos with
  | nil => cases h
  | cons t ts ih =>
      rcases List.mem_cons.mp h with rfl | htail
      · exact Nat.le_refl pos
      · have := ih htail
        omega

theorem le_stop_of_mem {complete : Bool} {m pos : Nat} {current : Option (Nat × Nat)}
    {ts : List Token} (hpos : m ≤ pos) (hcurrent : ∀ c ∈ current, m ≤ c.2) {r : Nat × Nat}
    (h : r ∈ statementRanges complete pos current ts) : m ≤ r.2 := by
  induction ts generalizing pos current with
  | nil =>
      rw [statementRanges] at h
      split at h
      · exact hcurrent r (Option.mem_toList.mp h)
      · cases h
  | cons t ts ih =>
      simp only [statementRanges] at h
      split at h
      · rcases List.mem_append.mp h with hclosed | htail
        · obtain ⟨c, hc, rfl⟩ := Option.map_eq_some_iff.mp (Option.mem_toList.mp hclosed)
          show m ≤ pos + byteLen t.chars
          omega
        · exact ih (by omega) (by simp) htail
      · split at h
        · refine ih (by omega) ?_ h
          rintro c hc
          obtain rfl := Option.some.inj hc
          show m ≤ pos + byteLen t.chars
          omega
        · exact ih (by omega) hcurrent h

/-- A range that ends before a token is still open there only if the token is
layout. -/
theorem layout_of_stop_le {complete : Bool} {pos : Nat} {current : Option (Nat × Nat)}
    {t : Token} {ts : List Token} {r : Nat × Nat} (ht : t.chars ≠ [])
    (h : r ∈ statementRanges complete pos current (t :: ts)) (hr : r.2 ≤ pos) :
    t.isSignificant = false := by
  have hpos := byteLen_pos.mpr ht
  by_contra hsig
  rw [Bool.not_eq_false] at hsig
  suffices pos + byteLen t.chars ≤ r.2 by omega
  simp only [Token.isSignificant, Bool.or_eq_true] at hsig
  simp only [statementRanges] at h
  split at h
  · rcases List.mem_append.mp h with hclosed | htail
    · obtain ⟨c, hc, rfl⟩ := Option.map_eq_some_iff.mp (Option.mem_toList.mp hclosed)
      exact Nat.le_refl _
    · exact le_stop_of_mem (Nat.le_refl _) (by simp) htail
  · next hterm =>
    rw [if_pos (hsig.resolve_right hterm)] at h
    refine le_stop_of_mem (Nat.le_refl _) ?_ h
    rintro c hc
    obtain rfl := Option.some.inj hc
    exact Nat.le_refl _

theorem sameUnder_of_layout {t : Token} (h : t.isSignificant = false) (f g : Char → Bool) :
    t.sameUnder f g = true := by
  cases t with
  | quoted d body => cases h
  | _ => rfl

/-- Two escape rules have the same statement at a place when they read alike
every token that starts before its end. -/
theorem find_rangesOf_congr {f g : Char → Bool} {p : Nat × Nat → Bool} {r : Nat × Nat} (s : Text) :
    ∀ (pos : Nat) (current : Option (Nat × Nat)),
      (rangesOf (lex f s) pos current).find? p = some r →
      (∀ pt ∈ positioned pos (lex f s).1, pt.1 < r.2 → pt.2.sameUnder f g = true) →
      (rangesOf (lex g s) pos current).find? p = some r := by
  induction s using lex_induction f with
  | stop s hone =>
      intro pos current hfind _
      rw [lex_of_none hone] at hfind
      cases s with
      | nil => exact hfind
      | cons c s => cases hfind
  | token s t rest hone ih =>
      intro pos current hfind hsame
      rw [lex_of_some hone] at hfind hsame
      have ht : t.sameUnder f g = true := by
        by_cases hlt : pos < r.2
        · exact hsame (pos, t) List.mem_cons_self hlt
        · exact sameUnder_of_layout
            (layout_of_stop_le (lexOne_chars_ne_nil hone) (List.mem_of_find?_eq_some hfind)
              (by omega)) f g
      have htail : ∀ pt ∈ positioned (pos + byteLen t.chars) (lex f rest).1,
          pt.1 < r.2 → pt.2.sameUnder f g = true := fun pt hpt =>
        hsame pt (List.mem_cons_of_mem _ hpt)
      rw [lex_of_some (lexOne_congr hone ht)]
      simp only [rangesOf, statementRanges] at hfind ⊢
      split
      · next hterm =>
        rw [if_pos hterm, List.find?_append] at hfind
        rw [List.find?_append]
        cases hclosed : ((current.map fun r => (r.1, pos + byteLen t.chars)).toList).find? p with
        | some r' => simpa [hclosed] using hfind
        | none =>
            rw [hclosed, Option.none_or] at hfind
            rw [Option.none_or]
            exact ih _ none hfind htail
      · next hterm =>
        rw [if_neg hterm] at hfind
        split
        · next hcode =>
          rw [if_pos hcode] at hfind
          exact ih _ _ hfind htail
        · next hcode =>
          rw [if_neg hcode] at hfind
          exact ih _ current hfind htail

theorem mem_positioned_congr {f g : Char → Bool} {limit : Nat} {pt : Nat × Token} (s : Text) :
    ∀ pos : Nat, pt ∈ positioned pos (lex f s).1 → pt.1 < limit →
      (∀ qt ∈ positioned pos (lex f s).1, qt.1 < limit → qt.2.sameUnder f g = true) →
      pt ∈ positioned pos (lex g s).1 := by
  induction s using lex_induction f with
  | stop s hone =>
      intro pos hmem
      rw [lex_of_none hone] at hmem
      cases hmem
  | token s t rest hone ih =>
      intro pos hmem hlt hsame
      rw [lex_of_some hone] at hmem hsame
      have hpos := le_of_mem_positioned hmem
      have ht : t.sameUnder f g = true := hsame (pos, t) List.mem_cons_self (by omega)
      rw [lex_of_some (lexOne_congr hone ht)]
      rcases List.mem_cons.mp hmem with rfl | htail
      · exact List.mem_cons_self
      · refine List.mem_cons_of_mem _ (ih _ htail hlt fun qt hqt => ?_)
        exact hsame qt (List.mem_cons_of_mem _ hqt)

/-! ## The scanner's statements -/

def MysqlStatement.range (x : MysqlStatement) : Nat × Nat := (x.start, x.stop)

def PendingMysqlStatement.range (p : PendingMysqlStatement) : Option (Nat × Nat) :=
  p.firstExecutable.map fun start => (start, p.lastExecutableEnd)

/-- What the scan of `ts` from `st` promises about a statement `x` it adds: where
it starts, and that without its flag only identifiers in it are misread. -/
structure AddedBy (st : ScanState) (ts : List Token) (x : MysqlStatement) : Prop where
  start : st.pending.firstExecutable = some x.start ∨ st.index ≤ x.start
  pending : x.ambiguousSqlMode = false → st.pending.firstExecutable = some x.start →
    st.pending.ambiguousSqlMode = false
  tokens : x.ambiguousSqlMode = false → ∀ pt ∈ positioned st.index ts,
    x.start ≤ pt.1 → pt.1 < x.stop → pt.2.misread = true → pt.2.isIdentifier = true

theorem misread_of_not_quoted {t : Token} (h : t.misread = true) :
    t.isCode = true ∧ t ≠ .terminator := by
  cases t with
  | quoted d body => exact ⟨rfl, nofun⟩
  | _ => cases h

theorem AddedBy.layout {before : Text} {st : ScanState} {t : Token} {ts : List Token}
    {x : MysqlStatement} (ht : t.isSignificant = false) (h : AddedBy (st.token before t) ts x) :
    AddedBy st (t :: ts) x := by
  rw [token_of_layout ht] at h
  refine ⟨h.start.imp_right fun hle => Nat.le_trans (Nat.le_add_right _ _) hle, h.pending, ?_⟩
  intro hx pt hpt hstart hstop hmis
  rcases List.mem_cons.mp hpt with rfl | htail
  · have hcode := (misread_of_not_quoted hmis).1
    simp [Token.isSignificant, hcode] at ht
  · exact h.tokens hx pt htail hstart hstop hmis

theorem AddedBy.code {before : Text} {st : ScanState} {t : Token} {ts : List Token}
    {x : MysqlStatement} (ht : t.isCode = true) (hchars : t.chars ≠ [])
    (h : AddedBy (st.token before t) ts x) : AddedBy st (t :: ts) x := by
  rw [token_of_code ht] at h
  have hpos := byteLen_pos.mpr hchars
  obtain ⟨hstart, hpending, htokens⟩ := h
  simp only [PendingMysqlStatement.markExecutable, PendingMysqlStatement.flag] at hstart hpending htokens
  refine ⟨?_, fun hx hfirst => ?_, fun hx pt hpt hle hlt hmis => ?_⟩
  · cases hfirst : st.pending.firstExecutable with
    | none =>
        rw [hfirst, Option.none_or, Option.some.injEq] at hstart
        exact .inr (by omega)
    | some start =>
        rw [hfirst, Option.some_or] at hstart
        exact hstart.imp_right fun hle => by omega
  · have hflag := hpending hx (by rw [hfirst, Option.some_or])
    exact (Bool.or_eq_false_iff.mp hflag).1
  · rcases List.mem_cons.mp hpt with rfl | htail
    · -- the token itself: its flag went into the statement, unless it is an identifier
      have hfirst : st.pending.firstExecutable.or (some st.index) = some x.start :=
        hstart.resolve_right fun hge => by
          have : x.start ≤ st.index := hle
          omega
      have hflag := (Bool.or_eq_false_iff.mp (hpending hx hfirst)).2
      cases t with
      | quoted d body =>
          simp only [Token.ambiguous, hmis, Bool.or_true, Bool.and_true] at hflag
          simpa [Token.isIdentifier] using hflag
      | _ => cases hmis
    · exact htokens hx pt htail hle hlt hmis

theorem AddedBy.later {st st' : ScanState} {ts : List Token} {x : MysqlStatement}
    (hst : ∀ start ∈ st.pending.firstExecutable, start ≤ st.index)
    (hindex : st'.index = st.index + 1) (hnone : st'.pending.firstExecutable = none)
    (h : AddedBy st' ts x) : AddedBy st (.terminator :: ts) x := by
  have hge : st.index + 1 ≤ x.start := hindex ▸ h.start.resolve_left (by simp [hnone])
  refine ⟨.inr (by omega), fun _ hfirst => ?_, fun hx pt hpt hle hlt hmis => ?_⟩
  · have := hst x.start hfirst
    omega
  · rcases List.mem_cons.mp hpt with rfl | htail
    · cases hmis
    · have hsize : byteLen Token.terminator.chars = 1 := by decide
      rw [hsize, ← hindex] at htail
      exact h.tokens hx pt htail hle hlt hmis

theorem AddedBy.closed {st : ScanState} {ts : List Token} {x : MysqlStatement}
    (h : st.pending.finish (st.index + 1) = some x) : AddedBy st (.terminator :: ts) x := by
  obtain ⟨start, hfirst, rfl⟩ := Option.map_eq_some_iff.mp h
  refine ⟨.inl hfirst, fun hx _ => hx, fun _ pt hpt _ hlt hmis => ?_⟩
  rcases List.mem_cons.mp hpt with rfl | htail
  · cases hmis
  · have hge := le_of_mem_positioned htail
    have hsize : byteLen Token.terminator.chars = 1 := by decide
    have hlt' : pt.1 < st.index + 1 := hlt
    omega

theorem AddedBy.last {st : ScanState} {x : MysqlStatement}
    (h : st.pending.finish st.pending.lastExecutableEnd = some x) : AddedBy st [] x := by
  obtain ⟨start, hfirst, rfl⟩ := Option.map_eq_some_iff.mp h
  exact ⟨.inl hfirst, fun hx _ => hx, fun _ pt hpt => nomatch hpt⟩

theorem terminate_spec (st : ScanState) :
    st.terminate.index = st.index + 1 ∧ st.terminate.pending.firstExecutable = none ∧
      st.terminate.statements = st.statements ++ (st.pending.finish (st.index + 1)).toList := by
  unfold ScanState.terminate
  cases h : st.pending.finish (st.index + 1) with
  | some x => exact ⟨rfl, rfl, rfl⟩
  | none => exact ⟨rfl, Option.map_eq_none_iff.mp h, (List.append_nil _).symm⟩

theorem first_le_index_token {st : ScanState} (before : Text) (t : Token)
    (hst : ∀ start ∈ st.pending.firstExecutable, start ≤ st.index) :
    ∀ start ∈ (st.token before t).pending.firstExecutable, start ≤ (st.token before t).index := by
  intro start hstart
  rw [token_index]
  by_cases hcode : t.isCode = true
  · rw [token_of_code hcode] at hstart
    have hor : st.pending.firstExecutable.or (some st.index) = some start := hstart
    rcases Option.or_eq_some_iff.mp hor with h | ⟨-, h⟩
    · exact Nat.le_trans (hst start h) (Nat.le_add_right _ _)
    · obtain rfl := Option.some.inj h
      exact Nat.le_add_right _ _
  · by_cases hterm : t = .terminator
    · subst hterm
      have hnone : (st.token before .terminator).pending.firstExecutable = none :=
        (terminate_spec st).2.1
      rw [hnone] at hstart
      cases hstart
    · rw [token_of_layout (by simp [Token.isSignificant, hcode, hterm])] at hstart
      exact Nat.le_trans (hst start hstart) (Nat.le_add_right _ _)

/-- The statements a scan of `ts` and the unterminated `rest` adds to those of `st`. -/
theorem exists_added (ts : List Token) (hts : ∀ t ∈ ts, t.chars ≠ []) (before' rest : Text) :
    ∀ (before : Text) (st : ScanState),
      (∀ start ∈ st.pending.firstExecutable, start ≤ st.index) →
      ∃ added : List MysqlStatement,
        ((scanTokens before st ts).conclude before' rest).statements = st.statements ++ added ∧
        added.map MysqlStatement.range = rangesOf (ts, rest) st.index st.pending.range ∧
        ∀ x ∈ added, AddedBy st ts x := by
  induction ts with
  | nil =>
      intro before st _
      cases rest with
      | nil =>
          refine ⟨(st.pending.finish st.pending.lastExecutableEnd).toList, rfl, ?_, fun x hx =>
            .last (Option.mem_toList.mp hx)⟩
          show _ = st.pending.range.toList
          unfold PendingMysqlStatement.finish PendingMysqlStatement.range
          cases st.pending.firstExecutable <;> rfl
      | cons c r =>
          refine ⟨[], ?_, rfl, nofun⟩
          simp only [scanTokens, ScanState.conclude]
          split <;> exact (List.append_nil _).symm
  | cons t ts ih =>
      intro before st hst
      obtain ⟨added, hstatements, hranges, hadded⟩ :=
        ih (fun u hu => hts u (List.mem_cons_of_mem _ hu)) (before ++ t.chars) (st.token before t)
          (first_le_index_token before t hst)
      rw [token_index] at hranges
      by_cases hterm : t = .terminator
      · subst hterm
        obtain ⟨hindex, hnone, hclosed⟩ := terminate_spec st
        refine ⟨(st.pending.finish (st.index + 1)).toList ++ added, ?_, ?_, ?_⟩
        · rw [scanTokens, hstatements, ← List.append_assoc, ← hclosed]
          rfl
        · have hrange : (st.token before .terminator).pending.range = none := by
            show st.terminate.pending.range = none
            rw [PendingMysqlStatement.range, hnone]
            rfl
          rw [hrange] at hranges
          rw [List.map_append, hranges]
          simp only [rangesOf, statementRanges, beq_self_eq_true, if_true]
          congr 1
          unfold PendingMysqlStatement.finish PendingMysqlStatement.range
          have hsize : byteLen Token.terminator.chars = 1 := by decide
          rw [hsize]
          cases st.pending.firstExecutable <;> rfl
        · intro x hx
          rcases List.mem_append.mp hx with h | h
          · exact .closed (Option.mem_toList.mp h)
          · exact .later hst hindex hnone (hadded x h)
      · have hne : (t == .terminator) = false := beq_eq_false_iff_ne.mpr hterm
        by_cases hcode : t.isCode = true
        · refine ⟨added, ?_, ?_, fun x hx =>
            .code hcode (hts t List.mem_cons_self) (hadded x hx)⟩
          · rw [scanTokens, hstatements, token_of_code hcode]
          · rw [hranges, token_of_code hcode]
            simp only [rangesOf, statementRanges, hne, hcode, Bool.false_eq_true, if_false, if_true]
            congr 1
            unfold PendingMysqlStatement.range
            cases h : st.pending.firstExecutable <;>
              simp [PendingMysqlStatement.markExecutable, PendingMysqlStatement.flag, h]
        · have hlayout : t.isSignificant = false := by simp [Token.isSignificant, hcode, hterm]
          refine ⟨added, ?_, ?_, fun x hx => .layout hlayout (hadded x hx)⟩
          · rw [scanTokens, hstatements, token_of_layout hlayout]
          · rw [hranges, token_of_layout hlayout]
            simp only [rangesOf, statementRanges, hne, hcode, Bool.false_eq_true, if_false]

theorem chars_ne_nil_of_mem_lex {escapes : Char → Bool} (s : Text) :
    ∀ t ∈ (lex escapes s).1, t.chars ≠ [] := by
  induction s using lex_induction escapes with
  | stop s hone =>
      rw [lex_of_none hone]
      exact nofun
  | token s t rest hone ih =>
      rw [lex_of_some hone]
      intro u hu
      rcases List.mem_cons.mp hu with rfl | htail
      · exact lexOne_chars_ne_nil hone
      · exact ih u htail

theorem scanLex_statements (text : Text) :
    (scanLex text).statements.map MysqlStatement.range = rangesOf (lex scannerRule text) 0 none ∧
      ∀ x ∈ (scanLex text).statements, AddedBy {} (lex scannerRule text).1 x := by
  obtain ⟨added, hstatements, hranges, hadded⟩ :=
    exists_added (lex scannerRule text).1 (chars_ne_nil_of_mem_lex text)
      ((lex scannerRule text).1.flatMap Token.chars) (lex scannerRule text).2 [] {} (by simp)
  rw [List.nil_append] at hstatements
  exact ⟨by rw [scanLex, hstatements, hranges]; rfl, by rwa [scanLex, hstatements]⟩

/-- What the caret path returns is an unflagged statement of the scan. -/
theorem exists_of_inferMysqlTarget {text target : Text} {caret start stop : Nat}
    (h : inferMysqlTarget text caret = some (.ok (start, stop, target))) :
    ∃ x ∈ (scanLex text).statements, x.range = (start, stop) ∧ x.ambiguousSqlMode = false ∧
      statementAt scannerRule text caret = some (start, stop) := by
  rw [inferMysqlTarget, scanMysql_eq_scanLex, Option.map_some, Option.some.injEq] at h
  cases hfind : (scanLex text).statements.find?
      (mysqlStatementContains · caret (byteLen text)) with
  | none =>
      simp only [hfind] at h
      split at h
      · split at h <;> cases h
      · cases h
  | some x =>
      simp only [hfind] at h
      split at h
      · cases h
      · next hflag =>
        split at h
        · next target' hslice =>
          cases h
          refine ⟨x, List.mem_of_find?_eq_some hfind, rfl, by simpa using hflag, ?_⟩
          rw [statementAt, ← (scanLex_statements text).1, List.find?_map]
          have hcontains : rangeContains caret (byteLen text) ∘ MysqlStatement.range =
              (mysqlStatementContains · caret (byteLen text)) := rfl
          rw [hcontains, hfind]
          rfl
        · cases h

theorem isIdentifier_sameUnder {t : Token} (h : t.isIdentifier = true) :
    t.sameUnder defaultMode noBackslashMode = true := by
  cases t with
  | quoted d body =>
      have hd : d = '`' := by simpa [Token.isIdentifier] using h
      subst hd
      rfl
  | _ => cases h

theorem sameUnder_of_not_misread {t : Token} (h : t.misread = false) (f g : Char → Bool) :
    t.sameUnder f g = true := by
  cases t with
  | quoted d body => simp [Token.sameUnder, h]
  | _ => rfl

theorem sameUnder_scannerRule {t : Token} (h : t.isIdentifier = false) :
    t.sameUnder defaultMode scannerRule = true := by
  cases t with
  | quoted d body =>
      have hd : d ≠ '`' := by simpa [Token.isIdentifier] using h
      simp [Token.sameUnder, scannerRule_eq_defaultMode hd]
  | _ => rfl

/-- Where no token before the end of the statement hides an escaped delimiter from
the scanner's flag, a target of the caret path has its exact range in both modes. -/
theorem inferMysqlTarget_same_in_both_modes (text target : Text) (caret start stop : Nat)
    (hunambiguous : caretUnambiguous text caret = true)
    (hok : inferMysqlTarget text caret = some (.ok (start, stop, target))) :
    statementAt defaultMode text caret = some (start, stop) ∧
      statementAt noBackslashMode text caret = some (start, stop) := by
  obtain ⟨x, hx, hrange, hflag, hscan⟩ := exists_of_inferMysqlTarget hok
  unfold caretUnambiguous at hunambiguous
  cases hdefault : statementAt defaultMode text caret with
  | none =>
      rw [hdefault] at hunambiguous
      rw [statementAt, (lex_eq_iff text).mpr hunambiguous] at hscan
      cases hdefault.symm.trans hscan
  | some r =>
      rw [hdefault] at hunambiguous
      simp only [List.all_eq_true, Bool.not_eq_true', Bool.and_eq_false_iff, Bool.or_eq_false_iff,
        decide_eq_false_iff_not] at hunambiguous
      have hsame : ∀ pt ∈ positioned 0 (lex defaultMode text).1, pt.1 < r.2 →
          pt.2.sameUnder defaultMode scannerRule = true := by
        intro pt hpt hlt
        rcases hunambiguous pt hpt with hmis | ⟨-, hid | hge⟩
        · exact sameUnder_of_not_misread hmis _ _
        · exact sameUnder_scannerRule hid
        · exact absurd hlt hge
      have hr : r = (start, stop) := by
        have := find_rangesOf_congr text 0 none hdefault hsame
        exact Option.some.inj (this.symm.trans hscan)
      subst hr
      refine ⟨rfl, find_rangesOf_congr text 0 none hdefault fun pt hpt hlt => ?_⟩
      cases hid : pt.2.isIdentifier with
      | true => exact isIdentifier_sameUnder hid
      | false =>
          cases hmis : pt.2.misread with
          | false => exact sameUnder_of_not_misread hmis _ _
          | true =>
              -- a misread string left of the statement is excluded, one inside it is flagged
              have hge : start ≤ pt.1 := by
                rcases hunambiguous pt hpt with hnot | ⟨hge, -⟩
                · cases hmis.symm.trans hnot
                · exact Nat.le_of_not_lt hge
              have hmem := mem_positioned_congr text 0 hpt hlt hsame
              have hadded := (scanLex_statements text).2 x hx
              obtain ⟨hstart, hstop⟩ := Prod.mk.inj hrange
              have htoken := hadded.tokens hflag pt hmem (by omega) (by omega) hmis
              cases hid.symm.trans htoken

theorem inferMysqlTarget_second_statement :
    caretUnambiguous "SELECT '\\n'; SELECT 1;".toList 16 = true ∧
      statementAt defaultMode "SELECT '\\n'; SELECT 1;".toList 16 = some (13, 22) ∧
      statementAt noBackslashMode "SELECT '\\n'; SELECT 1;".toList 16 = some (13, 22) :=
  ⟨by decide +kernel,
    inferMysqlTarget_same_in_both_modes "SELECT '\\n'; SELECT 1;".toList "SELECT 1;".toList 16 13 22
      (by decide +kernel) (by decide +kernel)⟩

/-- An escaped quote in the statement before moves the boundaries of the next. -/
theorem inferMysqlTarget_escape_in_earlier_statement :
    inferMysqlTarget "SELECT '\\'; SELECT ';  SELECT 1;".toList 24 =
        some (.ok (23, 32, "SELECT 1;".toList)) ∧
      statementAt defaultMode "SELECT '\\'; SELECT ';  SELECT 1;".toList 24 = some (23, 32) ∧
      statementAt noBackslashMode "SELECT '\\'; SELECT ';  SELECT 1;".toList 24 = none := by
  decide +kernel

end Dbotter.Execution
