import Dbotter.Execution.StatementCut

/-!
How the statements of a scan lie in the text.

`Laid` cuts a token sequence into whole statements and the tokens between them, and says with
them whether a terminator stands there on its own. The scanner keeps such a cut of everything up
to the statement that is open, and all that is said of its ranges is read off the cut.
-/

namespace Dbotter.Execution
open Dbotter.Utf8

/-! ## A text cut into statements -/

/-- How many bytes some tokens take. -/
abbrev extent (ts : List Token) : Nat := byteLen (ts.flatMap Token.chars)

/-- The tokens `ts` are whole statements at the ranges `rs` and single tokens between them;
`stray` tells whether one of these is a terminator. -/
inductive Laid : List Token → List (Nat × Nat) → Bool → Prop
  | nil : Laid [] [] false
  | gap {ts : List Token} {rs : List (Nat × Nat)} {stray : Bool} {t : Token}
      (before : Laid ts rs stray) (hlayout : t.isCode = false) :
      Laid (ts ++ [t]) rs (stray || t == .terminator)
  | statement {ts body : List Token} {rs : List (Nat × Nat)} {stray : Bool}
      (before : Laid ts rs stray) (hwhole : WholeStatement body) :
      Laid (ts ++ body) (rs ++ [(extent ts, extent (ts ++ body))]) stray

/-- A byte offset inside one of the ranges. -/
def Covered (rs : List (Nat × Nat)) (p : Nat) : Prop := ∃ r ∈ rs, r.1 ≤ p ∧ p < r.2

theorem covered_append {rs ss : List (Nat × Nat)} {p : Nat} :
    Covered (rs ++ ss) p ↔ Covered rs p ∨ Covered ss p := by
  constructor
  · rintro ⟨r, hr, hp⟩
    rcases List.mem_append.mp hr with h | h
    · exact .inl ⟨r, h, hp⟩
    · exact .inr ⟨r, h, hp⟩
  · rintro (⟨r, h, hp⟩ | ⟨r, h, hp⟩)
    · exact ⟨r, List.mem_append_left _ h, hp⟩
    · exact ⟨r, List.mem_append_right _ h, hp⟩

theorem covered_singleton {r : Nat × Nat} {p : Nat} : Covered [r] p ↔ r.1 ≤ p ∧ p < r.2 := by
  constructor
  · rintro ⟨r', hr, hp⟩
    obtain rfl := List.mem_singleton.mp hr
    exact hp
  · intro hp
    exact ⟨r, List.mem_singleton_self r, hp⟩

theorem extent_append (ts us : List Token) : extent (ts ++ us) = extent ts + extent us := by
  rw [extent, List.flatMap_append, byteLen_append]

theorem extent_singleton (t : Token) : extent [t] = byteLen t.chars := by
  rw [extent, List.flatMap_singleton]

theorem extent_cons (t : Token) (ts : List Token) :
    extent (t :: ts) = byteLen t.chars + extent ts := by
  rw [extent, List.flatMap_cons, byteLen_append]

theorem positioned_append (pos : Nat) (ts us : List Token) :
    positioned pos (ts ++ us) = positioned pos ts ++ positioned (pos + extent ts) us := by
  induction ts generalizing pos with
  | nil => rfl
  | cons t ts ih =>
      rw [List.cons_append, positioned, ih, positioned, List.cons_append, extent_cons, Nat.add_assoc]

/-- Tokens that take bytes stand inside the bytes that they all take. -/
theorem lt_of_mem_positioned {pos : Nat} {ts : List Token} (hts : ∀ t ∈ ts, t.chars ≠ [])
    {pt : Nat × Token} (h : pt ∈ positioned pos ts) : pt.1 < pos + extent ts := by
  induction ts generalizing pos with
  | nil => cases h
  | cons t ts ih =>
      have hpos := byteLen_pos.mpr (hts t List.mem_cons_self)
      have hlen : extent (t :: ts) = byteLen t.chars + extent ts := extent_cons t ts
      rcases List.mem_cons.mp h with rfl | htail
      · show pos < pos + extent (t :: ts)
        omega
      · have := ih (fun u hu => hts u (List.mem_cons_of_mem t hu)) htail
        omega

theorem WholeStatement.extent_pos {body : List Token} (h : WholeStatement body)
    (hbody : ∀ t ∈ body, t.chars ≠ []) : 0 < extent body := by
  obtain ⟨t, ts, rfl, -⟩ := h.first
  have hpos := byteLen_pos.mpr (hbody t List.mem_cons_self)
  have hlen : extent (t :: ts) = byteLen t.chars + extent ts := extent_cons t ts
  omega

namespace Laid
variable {ts : List Token} {rs : List (Nat × Nat)} {stray : Bool}

theorem layout (us : List Token) (h : Laid ts rs stray)
    (hus : ∀ t ∈ us, t.isCode = false ∧ t ≠ .terminator) : Laid (ts ++ us) rs stray := by
  induction us generalizing ts with
  | nil => rwa [List.append_nil]
  | cons u us ih =>
      obtain ⟨hcode, hterm⟩ := hus u List.mem_cons_self
      have hgap := h.gap hcode
      rw [beq_eq_false_iff_ne.mpr hterm, Bool.or_false] at hgap
      have hrest := ih hgap fun t ht => hus t (List.mem_cons_of_mem u ht)
      rwa [List.append_assoc, List.singleton_append] at hrest

theorem bounds (h : Laid ts rs stray) (hts : ∀ t ∈ ts, t.chars ≠ []) :
    ∀ r ∈ rs, r.1 < r.2 ∧ r.2 ≤ extent ts := by
  induction h with
  | nil => exact nofun
  | gap _ _ ih =>
      intro r hr
      obtain ⟨hlt, hle⟩ := ih (fun t ht => hts t (List.mem_append_left _ ht)) r hr
      rw [extent_append]
      exact ⟨hlt, Nat.le_trans hle (Nat.le_add_right _ _)⟩
  | statement _ hwhole ih =>
      intro r hr
      rcases List.mem_append.mp hr with hold | hnew
      · obtain ⟨hlt, hle⟩ := ih (fun t ht => hts t (List.mem_append_left _ ht)) r hold
        rw [extent_append]
        exact ⟨hlt, Nat.le_trans hle (Nat.le_add_right _ _)⟩
      · obtain rfl := List.mem_singleton.mp hnew
        have hpos := hwhole.extent_pos fun t ht => hts t (List.mem_append_right _ ht)
        refine ⟨?_, Nat.le_refl _⟩
        rw [extent_append]
        exact Nat.lt_add_of_pos_right hpos

theorem ordered (h : Laid ts rs stray) (hts : ∀ t ∈ ts, t.chars ≠ []) :
    rs.Pairwise fun r s => r.2 ≤ s.1 := by
  induction h with
  | nil => exact .nil
  | gap _ _ ih => exact ih fun t ht => hts t (List.mem_append_left _ ht)
  | @statement ts _ _ _ before _ ih =>
      have hold : ∀ t ∈ ts, t.chars ≠ [] := fun t ht => hts t (List.mem_append_left _ ht)
      refine List.pairwise_append.mpr ⟨ih hold, List.pairwise_singleton _ _, ?_⟩
      intro r hr s hs
      obtain rfl := List.mem_singleton.mp hs
      exact (before.bounds hold r hr).2

/-- Both ends of a range are where a token ends. -/
theorem cuts (h : Laid ts rs stray) :
    ∀ r ∈ rs, ∃ pre body post, StandsIn ts r pre body post := by
  induction h with
  | nil => exact nofun
  | @gap ts _ _ t _ _ ih =>
      intro r hr
      obtain ⟨pre, body, post, hstands⟩ := ih r hr
      exact ⟨pre, body, post ++ [t], by simp [hstands.split], hstands.start, hstands.stop,
        hstands.whole⟩
  | @statement ts body' _ _ _ hwhole ih =>
      intro r hr
      rcases List.mem_append.mp hr with hold | hnew
      · obtain ⟨pre, body, post, hstands⟩ := ih r hold
        exact ⟨pre, body, post ++ body', by simp [hstands.split], hstands.start, hstands.stop,
          hstands.whole⟩
      · obtain rfl := List.mem_singleton.mp hnew
        exact ⟨ts, body', [], by rw [List.append_nil], rfl, rfl, hwhole⟩

/-- A byte outside the ranges is in a token between them. -/
theorem gap_of_not_covered (h : Laid ts rs stray) {p : Nat} (hp : p < extent ts)
    (houtside : ¬ Covered rs p) :
    ∃ pt ∈ positioned 0 ts, pt.1 ≤ p ∧ p < pt.1 + byteLen pt.2.chars ∧ pt.2.isCode = false := by
  induction h with
  | nil => exact absurd hp (Nat.not_lt_zero p)
  | @gap ts _ _ t _ hlayout ih =>
      rw [positioned_append, Nat.zero_add]
      by_cases hold : p < extent ts
      · obtain ⟨pt, hpt, hin⟩ := ih hold houtside
        exact ⟨pt, List.mem_append_left _ hpt, hin⟩
      · rw [extent_append, extent_singleton] at hp
        exact ⟨(extent ts, t), List.mem_append_right _ List.mem_cons_self, Nat.le_of_not_lt hold, hp,
          hlayout⟩
  | @statement ts body _ _ _ _ ih =>
      rw [covered_append, not_or, covered_singleton] at houtside
      obtain ⟨hearlier, hnew⟩ := houtside
      have hold : p < extent ts := by
        by_contra hge
        exact hnew ⟨Nat.le_of_not_lt hge, hp⟩
      obtain ⟨pt, hpt, hin⟩ := ih hold hearlier
      exact ⟨pt, positioned_append 0 ts body ▸ List.mem_append_left _ hpt, hin⟩

/-- The flag tells whether a terminator stands outside the ranges. -/
theorem stray_iff (h : Laid ts rs stray) (hts : ∀ t ∈ ts, t.chars ≠ []) :
    stray = true ↔ ∃ pos, (pos, Token.terminator) ∈ positioned 0 ts ∧ ¬ Covered rs pos := by
  induction h with
  | nil => exact iff_of_false Bool.false_ne_true (by rintro ⟨pos, h, -⟩; cases h)
  | @gap ts rs stray t before hlayout ih =>
      have hold : ∀ t ∈ ts, t.chars ≠ [] := fun t ht => hts t (List.mem_append_left _ ht)
      have hend : ¬ Covered rs (extent ts) := by
        rintro ⟨r, hr, -, hlt⟩
        exact Nat.lt_irrefl _ (Nat.lt_of_lt_of_le hlt (before.bounds hold r hr).2)
      rw [Bool.or_eq_true, ih hold, beq_iff_eq, positioned_append, Nat.zero_add]
      constructor
      · rintro (⟨pos, hmem, hout⟩ | rfl)
        · exact ⟨pos, List.mem_append_left _ hmem, hout⟩
        · exact ⟨extent ts, List.mem_append_right _ List.mem_cons_self, hend⟩
      · rintro ⟨pos, hmem, hout⟩
        rcases List.mem_append.mp hmem with hmem | hmem
        · exact .inl ⟨pos, hmem, hout⟩
        · obtain ⟨-, rfl⟩ := Prod.mk.inj (List.mem_singleton.mp hmem)
          exact .inr rfl
  | @statement ts body rs stray before hwhole ih =>
      have hold : ∀ t ∈ ts, t.chars ≠ [] := fun t ht => hts t (List.mem_append_left _ ht)
      have hnew : ∀ t ∈ body, t.chars ≠ [] := fun t ht => hts t (List.mem_append_right _ ht)
      rw [ih hold, positioned_append, Nat.zero_add]
      constructor
      · rintro ⟨pos, hmem, hout⟩
        have hlt := lt_of_mem_positioned hold hmem
        refine ⟨pos, List.mem_append_left _ hmem, ?_⟩
        rw [covered_append, covered_singleton]
        rintro (h | ⟨h, -⟩)
        · exact hout h
        · exact Nat.not_lt.mpr h (by simpa using hlt)
      · rintro ⟨pos, hmem, hout⟩
        rw [covered_append, not_or, covered_singleton] at hout
        rcases List.mem_append.mp hmem with hmem | hmem
        · exact ⟨pos, hmem, hout.1⟩
        · have hge := le_of_mem_positioned hmem
          have hlt := lt_of_mem_positioned hnew hmem
          rw [← extent_append] at hlt
          exact absurd ⟨hge, hlt⟩ hout.2

end Laid

/-! ## The cut that a scan keeps -/

/-- A statement is open behind the tokens `laid`, or everything is laid out. -/
inductive OpenAt (ts laid : List Token) : Option (Nat × Nat) → Prop
  | closed (hlaid : laid = ts) : OpenAt ts laid none
  | inside {r : Nat × Nat} {body layout : List Token} (hopen : Opened ts r laid body layout)
      (hlayout : ∀ t ∈ layout, t.isCode = false) : OpenAt ts laid (some r)

/-- Where a scan stands behind the tokens `ts`. -/
structure Scanned (ts : List Token) (st : ScanState) (laid : List Token) : Prop where
  index : st.index = extent ts
  done : Laid laid (st.statements.map MysqlStatement.range) st.strayTerminator
  rest : OpenAt ts laid st.pending.range

namespace Scanned
variable {ts laid : List Token} {st : ScanState} {t : Token}

theorem initial : Scanned [] {} [] := ⟨rfl, .nil, .closed rfl⟩

theorem range_mark (p : PendingMysqlStatement) (start stop : Nat) (b : Bool) :
    ((p.markExecutable start stop).flag b).range =
      some ((p.range.map Prod.fst).getD start, stop) := by
  unfold PendingMysqlStatement.range PendingMysqlStatement.markExecutable
    PendingMysqlStatement.flag
  cases p.firstExecutable <;> rfl

theorem index_token (h : Scanned ts st laid) (before : Text) (t : Token) :
    (st.token before t).index = extent (ts ++ [t]) := by
  rw [token_index, h.index, extent_append, extent_singleton]

theorem code (h : Scanned ts st laid) (before : Text) (ht : t.isCode = true) :
    Scanned (ts ++ [t]) (st.token before t) laid := by
  have hindex := h.index_token before t
  rw [token_of_code ht] at hindex ⊢
  refine ⟨hindex, h.done, ?_⟩
  rw [range_mark, ← extent_singleton, h.index, ← extent_append]
  generalize st.pending.range = range, h.rest = hrest
  cases hrest with
  | closed hlaid =>
      subst hlaid
      exact .inside (Opened.opens laid ht) nofun
  | inside hopen hlayout => exact .inside (hopen.code ht) nofun

theorem layout (h : Scanned ts st laid) (before : Text) (ht : t.isSignificant = false) :
    ∃ laid', Scanned (ts ++ [t]) (st.token before t) laid' := by
  obtain ⟨hcode, hterm⟩ : t.isCode = false ∧ t ≠ .terminator := by
    simpa [Token.isSignificant] using ht
  have hindex := h.index_token before t
  rw [token_of_layout ht] at hindex ⊢
  obtain ⟨-, hdone, hrest⟩ := h
  cases hrange : st.pending.range with
  | none =>
      rw [hrange] at hrest
      cases hrest with
      | closed hlaid =>
          subst hlaid
          refine ⟨laid ++ [t], hindex, hdone.layout [t] ?_, hrange ▸ .closed rfl⟩
          intro u hu
          obtain rfl := List.mem_singleton.mp hu
          exact ⟨hcode, hterm⟩
  | some r =>
      rw [hrange] at hrest
      cases hrest with
      | inside hopen hlayout =>
          refine ⟨laid, hindex, hdone, hrange ▸ .inside (hopen.layout_snoc hterm) ?_⟩
          intro u hu
          rcases List.mem_append.mp hu with hold | hu
          · exact hlayout u hold
          · exact List.mem_singleton.mp hu ▸ hcode

theorem terminator (h : Scanned ts st laid) (before : Text) :
    ∃ laid', Scanned (ts ++ [.terminator]) (st.token before .terminator) laid' := by
  have hindex := h.index_token before .terminator
  have hstep : st.token before .terminator = st.terminate := rfl
  rw [hstep] at hindex ⊢
  obtain ⟨hat, hdone, hrest⟩ := h
  refine ⟨ts ++ [.terminator], hindex, ?_, ?_⟩
  · unfold ScanState.terminate PendingMysqlStatement.finish
    unfold PendingMysqlStatement.range at hrest
    cases hfirst : st.pending.firstExecutable with
    | none =>
        rw [hfirst] at hrest
        cases hrest with
        | closed hlaid =>
            subst hlaid
            have hgap := hdone.gap (t := .terminator) rfl
            rwa [beq_self_eq_true, Bool.or_true] at hgap
    | some start =>
        rw [hfirst] at hrest
        cases hrest with
        | inside hopen hlayout =>
            have hwhole := hdone.statement hopen.closed
            rw [← List.append_assoc, ← hopen.split] at hwhole
            have hstop : st.index + 1 = extent (ts ++ [.terminator]) :=
              (terminate_spec st).1.symm.trans hindex
            have hstart : extent laid = start := hopen.start
            rw [hstart, ← hstop] at hwhole
            show Laid _ ((st.statements ++ [_]).map MysqlStatement.range) st.strayTerminator
            rw [List.map_append]
            exact hwhole
  · rw [PendingMysqlStatement.range, (terminate_spec st).2.1]
    exact .closed rfl

theorem token (h : Scanned ts st laid) (before : Text) (t : Token) :
    ∃ laid', Scanned (ts ++ [t]) (st.token before t) laid' := by
  by_cases hcode : t.isCode = true
  · exact ⟨laid, h.code before hcode⟩
  · by_cases hterm : t = .terminator
    · subst hterm
      exact h.terminator before
    · exact h.layout before (by simp [Token.isSignificant, hcode, hterm])

theorem tokens (h : Scanned ts st laid) (before : Text) (us : List Token) :
    ∃ laid', Scanned (ts ++ us) (scanTokens before st us) laid' := by
  induction us generalizing ts st laid before with
  | nil => exact ⟨laid, by rwa [List.append_nil]⟩
  | cons u us ih =>
      obtain ⟨laid', hnext⟩ := h.token before u
      obtain ⟨laid'', hrest⟩ := ih hnext (before ++ u.chars)
      rw [List.append_assoc, List.singleton_append] at hrest
      exact ⟨laid'', hrest⟩

/-- At the end of the text the open statement ends at its last code. -/
theorem finishScan (h : Scanned ts st laid) :
    Laid ts (st.finishScan.statements.map MysqlStatement.range) st.finishScan.strayTerminator := by
  obtain ⟨-, hdone, hrest⟩ := h
  have hranges : st.finishScan.statements.map MysqlStatement.range =
      st.statements.map MysqlStatement.range ++ st.pending.range.toList := by
    rw [ScanState.finishScan, List.map_append]
    unfold PendingMysqlStatement.finish PendingMysqlStatement.range
    cases st.pending.firstExecutable <;> rfl
  rw [hranges]
  show Laid ts _ st.strayTerminator
  generalize st.pending.range = range at hrest
  cases hrest with
  | closed hlaid =>
      subst hlaid
      rwa [Option.toList_none, List.append_nil]
  | @inside r body layout hopen hlayout =>
      have hwhole := hdone.statement hopen.whole
      have hstart : extent laid = r.1 := hopen.start
      have hstop : extent (laid ++ body) = r.2 := hopen.stop
      rw [hstart, hstop] at hwhole
      have hall := hwhole.layout layout fun t ht =>
        ⟨hlayout t ht, hopen.inner t (List.mem_append_right _ ht)⟩
      rwa [List.append_assoc, ← hopen.split] at hall

/-- An issue is reported from the start of the open statement, or from the token itself. -/
theorem issueAt (h : Scanned ts st laid) :
    ∃ later, ts = laid ++ later ∧ st.pending.firstExecutable.getD st.index = extent laid := by
  obtain ⟨hat, -, hrest⟩ := h
  unfold PendingMysqlStatement.range at hrest
  cases hfirst : st.pending.firstExecutable with
  | none =>
      rw [hfirst] at hrest
      cases hrest with
      | closed hlaid =>
          exact ⟨[], by rw [List.append_nil, hlaid], by rw [Option.getD_none, hat, hlaid]⟩
  | some start =>
      rw [hfirst] at hrest
      cases hrest with
      | inside hopen hlayout => exact ⟨_, hopen.split, hopen.start.symm⟩

end Scanned

/-- How far a scan got: to the start of the statement that it reports, or to the end. -/
def MysqlScan.limit (scan : MysqlScan) (text : Text) : Nat :=
  (scan.issue.map MysqlLexIssue.statementStart).getD (byteLen text)

/-- A scan cuts the tokens up to its limit into statements. -/
theorem scanLex_laid (text : Text) :
    ∃ laid later, (lex scannerRule text).1 = laid ++ later ∧
      (scanLex text).limit text = extent laid ∧
      Laid laid ((scanLex text).statements.map MysqlStatement.range)
        (scanLex text).strayTerminator := by
  obtain ⟨laid, hscan⟩ := Scanned.initial.tokens [] (lex scannerRule text).1
  rw [List.nil_append] at hscan
  have htext := (Lexes.of_lex scannerRule text).eq_append
  unfold scanLex
  generalize scanTokens [] {} (lex scannerRule text).1 = st at hscan
  generalize (lex scannerRule text).1 = ts, (lex scannerRule text).2 = rest at *
  cases rest with
  | nil =>
      refine ⟨ts, [], (List.append_nil ts).symm, ?_, hscan.finishScan⟩
      rw [List.append_nil] at htext
      rw [htext]
      rfl
  | cons c r =>
      obtain ⟨later, hsplit, hstart⟩ := hscan.issueAt
      refine ⟨laid, later, hsplit, ?_, ?_⟩
      · rw [← hstart, ScanState.conclude]
        split
        · show (st.pending.firstExecutable.or (some st.index)).getD st.index = _
          cases st.pending.firstExecutable <;> rfl
        · rfl
      · rw [ScanState.conclude]
        split <;> exact hscan.done

/-! ## The bytes between statements -/

/-- Layout, an ordinary comment or a terminator, judged by the characters. -/
def Token.isFiller : Token → Bool
  | .blank c => isWhitespace c
  | .comment cs =>
      cs.take 1 == ['#'] || cs.take 2 == ['-', '-'] ||
        (cs.take 2 == ['/', '*'] && cs[2]? != some '!')
  | .terminator => true
  | _ => false

theorem isFiller_lineComment {s : Text} (h : startsLineComment s = true) :
    (Token.comment (s.takeWhile (· != '\n'))).isFiller = true := by
  unfold startsLineComment at h
  split at h
  · rfl
  · rfl
  · cases h

theorem isFiller_comment {cs : Text} (hmark : cs.take 2 = ['/', '*'])
    (hthird : cs[2]? ≠ some '!') : (Token.comment cs).isFiller = true := by
  show (cs.take 1 == ['#'] || cs.take 2 == ['-', '-'] ||
    (cs.take 2 == ['/', '*'] && cs[2]? != some '!')) = true
  rw [hmark, bne_iff_ne.mpr hthird, beq_self_eq_true, Bool.and_self, Bool.or_true]

theorem isFiller_blockComment {r body rest : Text} (hclose : closeBlock r = some (body, rest))
    (hhead : r.head? ≠ some '!') :
    (Token.comment ('/' :: '*' :: body ++ ['*', '/'])).isFiller = true := by
  refine isFiller_comment rfl ?_
  have hthird : ('/' :: '*' :: body ++ ['*', '/'])[2]? = r.head? := by
    rw [closeBlock_eq_append hclose]
    cases body <;> rfl
  rwa [hthird]

/-- What the lexer reads and does not count as text of a statement is filler. -/
theorem lexOne_isFiller {escapes : Char → Bool} {s rest : Text} {t : Token}
    (h : lexOne escapes s = some (t, rest)) (ht : t.isCode = false) : t.isFiller = true := by
  cases lexStep_of_lexOne h with
  | line hline => exact isFiller_lineComment hline
  | @block r body _ hclose =>
      by_cases hhead : r.head? = some '!'
      · rw [hhead] at ht
        cases ht
      · rw [beq_eq_false_iff_ne.mpr hhead]
        exact isFiller_blockComment hclose hhead
  | quoted _ _ => cases ht
  | terminator => rfl
  | @char c _ _ _ _ _ =>
      by_cases hblank : isWhitespace c = true
      · rw [if_pos hblank]
        exact hblank
      · rw [if_neg hblank] at ht
        cases ht

theorem isFiller_of_mem_lex {escapes : Char → Bool} (s : Text) :
    ∀ t ∈ (lex escapes s).1, t.isCode = false → t.isFiller = true := by
  induction s using lex_induction escapes with
  | stop s hone =>
      rw [lex_of_none hone]
      exact nofun
  | token s t rest hone ih =>
      rw [lex_of_some hone]
      intro u hu
      rcases List.mem_cons.mp hu with rfl | htail
      · exact lexOne_isFiller hone
      · exact ih u htail

theorem split_of_mem_positioned {pos : Nat} {ts : List Token} {pt : Nat × Token}
    (h : pt ∈ positioned pos ts) :
    ∃ pre post, ts = pre ++ pt.2 :: post ∧ pt.1 = pos + extent pre := by
  induction ts generalizing pos with
  | nil => cases h
  | cons t ts ih =>
      rcases List.mem_cons.mp h with rfl | htail
      · exact ⟨[], ts, rfl, rfl⟩
      · obtain ⟨pre, post, hsplit, hpos⟩ := ih htail
        refine ⟨t :: pre, post, by rw [hsplit, List.cons_append], ?_⟩
        rw [hpos, extent_cons, Nat.add_assoc]

/-- The token `t` of the text starts at byte `pos`. -/
def TokenAt (text : Text) (pos : Nat) (t : Token) : Prop :=
  (pos, t) ∈ positioned 0 (lex scannerRule text).1

/-- The byte `p` belongs to layout, to a comment or to a terminator. -/
def FillerAt (text : Text) (p : Nat) : Prop :=
  ∃ pos t, TokenAt text pos t ∧ slice text pos (pos + byteLen t.chars) = some t.chars ∧
    pos ≤ p ∧ p < pos + byteLen t.chars ∧ t.isFiller = true

theorem TokenAt.mem_and_slice {text : Text} {pos : Nat} {t : Token} (h : TokenAt text pos t) :
    t ∈ (lex scannerRule text).1 ∧ slice text pos (pos + byteLen t.chars) = some t.chars := by
  obtain ⟨pre, post, hsplit, hpos⟩ := split_of_mem_positioned h
  have hat : pos = extent pre := hpos.trans (Nat.zero_add _)
  have htext := (Lexes.of_lex scannerRule text).eq_append
  rw [hsplit, List.flatMap_append, List.flatMap_cons, List.append_assoc, List.append_assoc,
    ← List.append_assoc] at htext
  refine ⟨hsplit ▸ List.mem_append_right _ List.mem_cons_self, ?_⟩
  rw [htext, hat, ← byteLen_append]
  exact slice_append _ _ _

namespace MysqlScan

/-- The byte `p` lies in no statement of the scan. -/
def Outside (scan : MysqlScan) (p : Nat) : Prop :=
  ∀ x ∈ scan.statements, ¬ (x.start ≤ p ∧ p < x.stop)

theorem outside_iff (scan : MysqlScan) (p : Nat) :
    scan.Outside p ↔ ¬ Covered (scan.statements.map MysqlStatement.range) p := by
  constructor
  · rintro h ⟨r, hr, hp⟩
    obtain ⟨x, hx, rfl⟩ := List.mem_map.mp hr
    exact h x hx hp
  · intro h x hx hp
    exact h ⟨x.range, List.mem_map_of_mem hx, hp⟩

end MysqlScan

/-! ## Where the statements of a scan lie -/

section
variable (text : Text)

theorem scanLex_limit_le : (scanLex text).limit text ≤ byteLen text := by
  obtain ⟨laid, later, hsplit, hlimit, -⟩ := scanLex_laid text
  have htext := congrArg byteLen (Lexes.of_lex scannerRule text).eq_append
  rw [hsplit, List.flatMap_append, List.append_assoc, byteLen_append] at htext
  rw [hlimit, htext]
  exact Nat.le_add_right _ _

theorem chars_ne_nil_of_laid {laid later : List Token}
    (hsplit : (lex scannerRule text).1 = laid ++ later) : ∀ t ∈ laid, t.chars ≠ [] :=
  fun t ht => chars_ne_nil_of_mem_lex text t (hsplit ▸ List.mem_append_left _ ht)

theorem scanLex_bounds :
    ∀ x ∈ (scanLex text).statements, x.start < x.stop ∧ x.stop ≤ (scanLex text).limit text := by
  obtain ⟨laid, later, hsplit, hlimit, hlaid⟩ := scanLex_laid text
  intro x hx
  rw [hlimit]
  exact hlaid.bounds (chars_ne_nil_of_laid text hsplit) x.range (List.mem_map_of_mem hx)

theorem scanLex_ordered : (scanLex text).statements.Pairwise fun x y => x.stop ≤ y.start := by
  obtain ⟨laid, later, hsplit, -, hlaid⟩ := scanLex_laid text
  exact List.pairwise_map.mp (hlaid.ordered (chars_ne_nil_of_laid text hsplit))

theorem scanLex_slice :
    ∀ x ∈ (scanLex text).statements, ∃ target, slice text x.start x.stop = some target := by
  obtain ⟨laid, later, hsplit, -, hlaid⟩ := scanLex_laid text
  intro x hx
  obtain ⟨pre, body, post, hstands⟩ := hlaid.cuts x.range (List.mem_map_of_mem hx)
  have htext := (Lexes.of_lex scannerRule text).eq_append
  rw [hsplit, hstands.split] at htext
  have hstart : byteLen (pre.flatMap Token.chars) = x.start := hstands.start
  have hstop : byteLen ((pre ++ body).flatMap Token.chars) = x.stop := hstands.stop
  rw [List.flatMap_append] at hstop
  refine ⟨body.flatMap Token.chars, ?_⟩
  rw [htext, ← hstop, ← hstart]
  simp only [List.flatMap_append, List.append_assoc]
  rw [← List.append_assoc]
  exact slice_append _ _ _

theorem scanLex_filler :
    ∀ p < (scanLex text).limit text, (scanLex text).Outside p → FillerAt text p := by
  obtain ⟨laid, later, hsplit, hlimit, hlaid⟩ := scanLex_laid text
  intro p hp houtside
  rw [MysqlScan.outside_iff] at houtside
  obtain ⟨⟨pos, t⟩, hpt, hle, hlt, hcode⟩ := hlaid.gap_of_not_covered (hlimit ▸ hp) houtside
  have hmem : TokenAt text pos t := by
    rw [TokenAt, hsplit, positioned_append]
    exact List.mem_append_left _ hpt
  obtain ⟨htoken, hslice⟩ := hmem.mem_and_slice
  exact ⟨pos, t, hmem, hslice, hle, hlt, isFiller_of_mem_lex text t htoken hcode⟩

theorem scanLex_stray :
    (scanLex text).strayTerminator = true ↔
      ∃ p < (scanLex text).limit text, TokenAt text p .terminator ∧ (scanLex text).Outside p := by
  obtain ⟨laid, later, hsplit, hlimit, hlaid⟩ := scanLex_laid text
  have hchars := chars_ne_nil_of_laid text hsplit
  rw [hlaid.stray_iff hchars, hlimit]
  simp only [TokenAt, MysqlScan.outside_iff, hsplit, positioned_append, List.mem_append,
    Nat.zero_add]
  constructor
  · rintro ⟨p, hmem, hout⟩
    exact ⟨p, by simpa using lt_of_mem_positioned hchars hmem, .inl hmem, hout⟩
  · rintro ⟨p, hlt, hmem, hout⟩
    rcases hmem with hmem | hmem
    · exact ⟨p, hmem, hout⟩
    · exact absurd hlt (Nat.not_lt.mpr (le_of_mem_positioned hmem))

theorem length_filter_le_one {α : Type} {q : α → Bool} {l : List α}
    (h : l.Pairwise fun x y => ¬ (q x = true ∧ q y = true)) : (l.filter q).length ≤ 1 := by
  have hkept := h.sublist (List.filter_sublist (p := q))
  have hall : ∀ x ∈ l.filter q, q x = true := fun x hx => (List.mem_filter.mp hx).2
  match hl : l.filter q with
  | [] => exact Nat.zero_le 1
  | [_] => exact Nat.le_refl 1
  | x :: y :: rest =>
      rw [hl] at hkept hall
      have hxy := (List.pairwise_cons.mp hkept).1 y List.mem_cons_self
      exact absurd ⟨hall x List.mem_cons_self, hall y (List.mem_cons_of_mem x List.mem_cons_self)⟩
        hxy

theorem mysqlStatementContains_iff {x : MysqlStatement} {caret textLen : Nat} :
    mysqlStatementContains x caret textLen = true ↔
      x.start ≤ caret ∧ (caret < x.stop ∨ caret = textLen ∧ x.stop = textLen) := by
  simp only [mysqlStatementContains, Bool.or_eq_true, Bool.and_eq_true, decide_eq_true_eq,
    beq_iff_eq]
  tauto

/-- A caret, also one at the end of the text, is in one statement at most. -/
theorem scanLex_caret (caret : Nat) :
    ((scanLex text).statements.filter
      (mysqlStatementContains · caret (byteLen text))).length ≤ 1 := by
  have hlimit := scanLex_limit_le text
  have hbounds := scanLex_bounds text
  refine length_filter_le_one ((scanLex_ordered text).imp_of_mem ?_)
  rintro x y - hy hbefore ⟨hinx, hiny⟩
  obtain ⟨hlt, hle⟩ := hbounds y hy
  obtain ⟨-, hx⟩ := mysqlStatementContains_iff.mp hinx
  obtain ⟨hstart, -⟩ := mysqlStatementContains_iff.mp hiny
  omega

/-- Every statement has its text, so a caret is answered without an off-boundary slice. -/
theorem inferMysqlTarget_total (caret : Nat) :
    ∃ answer, inferMysqlTarget text caret = some answer ∧
      answer ≠ .error .invalidCaretPosition := by
  rw [inferMysqlTarget, scanMysql_eq_scanLex, Option.map_some]
  refine ⟨_, rfl, ?_⟩
  split
  · next x hfind =>
    obtain ⟨target, htarget⟩ := scanLex_slice text x (List.mem_of_find?_eq_some hfind)
    rw [htarget]
    split <;> simp
  · split
    · split <;> simp
    · simp

/-- The scan of any text ends with the same result however much fuel there is, its statements are
nonempty slices of the text in order and apart, and between them, up to the reported issue, there
are only layout, comments and terminators. -/
theorem scan_mysql_lays_out :
    ∃ scan, (∀ fuel, text.length < fuel → scanLoop text fuel {} = some scan) ∧
      scanMysql text = some scan ∧
      scan.limit text ≤ byteLen text ∧
      (∀ x ∈ scan.statements, x.start < x.stop ∧ x.stop ≤ scan.limit text ∧
        ∃ target, slice text x.start x.stop = some target) ∧
      (scan.statements.Pairwise fun x y => x.stop ≤ y.start) ∧
      (∀ p < scan.limit text, scan.Outside p → FillerAt text p) ∧
      (scan.strayTerminator = true ↔
        ∃ p < scan.limit text, TokenAt text p .terminator ∧ scan.Outside p) ∧
      (∀ caret, (scan.statements.filter
        (mysqlStatementContains · caret (byteLen text))).length ≤ 1) ∧
      ∀ caret, ∃ answer, inferMysqlTarget text caret = some answer ∧
        answer ≠ .error .invalidCaretPosition := by
  refine ⟨scanLex text, ?_, scanMysql_eq_scanLex text, scanLex_limit_le text, ?_,
    scanLex_ordered text, scanLex_filler text, scanLex_stray text, scanLex_caret text,
    inferMysqlTarget_total text⟩
  · intro fuel hfuel
    have hloop := scanLoop_eq fuel [] text {} rfl hfuel
    rwa [List.nil_append, List.nil_append] at hloop
  · intro x hx
    obtain ⟨hlt, hle⟩ := scanLex_bounds text x hx
    exact ⟨hlt, hle, scanLex_slice text x hx⟩

end

end Dbotter.Execution
