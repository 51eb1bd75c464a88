import Dbotter.Execution.MysqlTarget

/-!
A statement that is cut out of its text.

A token ends where it does because of what stands behind it: a third byte after two dashes, a
star, one more delimiter. Where the text ends there is no such thing, so the tokens of a statement
are those of its text alone, provided that the last of them is not a comment.
-/

namespace Dbotter.Execution
open Dbotter.Utf8

/-! ## Tokens with another text behind them -/

theorem closeBlock_cut {s body rest : Text} (kept : Text) (h : closeBlock s = some (body, rest)) :
    closeBlock (body ++ '*' :: '/' :: kept) = some (body, kept) := by
  fun_induction closeBlock s generalizing body with
  | case1 a b s hab =>
      simp only [Option.some.injEq, Prod.mk.injEq] at h
      obtain ⟨rfl, rfl⟩ := h
      rfl
  | case2 a b s hab ih =>
      obtain ⟨⟨body', rest'⟩, hclose, heq⟩ := Option.map_eq_some_iff.mp h
      simp only [Prod.mk.injEq] at heq
      obtain ⟨rfl, rfl⟩ := heq
      have hhead : ∃ tail, body' ++ '*' :: '/' :: kept = b :: tail := by
        have hs := closeBlock_eq_append hclose
        cases body' with
        | nil =>
            obtain ⟨rfl, -⟩ := List.cons.inj hs
            exact ⟨_, rfl⟩
        | cons c body' =>
            obtain ⟨rfl, -⟩ := List.cons.inj hs
            exact ⟨_, rfl⟩
      obtain ⟨tail, htail⟩ := hhead
      have hkept := ih hclose
      rw [htail] at hkept
      rw [List.cons_append, htail, closeBlock, if_neg hab, hkept]
      rfl
  | case3 s hs => cases h

theorem closeQuote_cons {escapes : Bool} {d c : Char} (hescape : ¬(escapes && c == '\\') = true)
    (hd : ¬(c == d) = true) (s : Text) :
    closeQuote escapes d (c :: s) = (closeQuote escapes d s).map fun p => (c :: p.1, p.2) := by
  cases s with
  | nil =>
      have hnil : closeQuote escapes d [] = none := rfl
      rw [hnil, closeQuote, if_neg hescape, if_neg hd, Option.map_none]
  | cons e s => rw [closeQuote, if_neg hescape, if_neg hd]

theorem closeQuote_delimiter {escapes : Bool} {d : Char}
    (hescape : ¬(escapes && d == '\\') = true) {kept : Text} (hkept : kept.head? ≠ some d) :
    closeQuote escapes d (d :: kept) = some ([], kept) := by
  cases kept with
  | nil => rw [closeQuote, if_neg hescape, if_pos (beq_self_eq_true d)]
  | cons e s =>
      have he : ¬(e == d) = true := by simpa using hkept
      rw [closeQuote, if_neg hescape, if_pos (beq_self_eq_true d), if_neg he]

theorem closeQuote_cut {escapes : Bool} {d : Char} {s body rest kept : Text}
    (h : closeQuote escapes d s = some (body, rest)) (hkept : kept.head? ≠ some d) :
    closeQuote escapes d (body ++ d :: kept) = some (body, kept) := by
  fun_induction closeQuote escapes d s generalizing body with
  | case1 => cases h
  | case2 c hc => cases h
  | case3 c hc hd =>
      obtain rfl : c = d := by simpa using hd
      simp only [Option.some.injEq, Prod.mk.injEq] at h
      obtain ⟨rfl, -⟩ := h
      exact closeQuote_delimiter hc hkept
  | case4 c hc hd => cases h
  | case5 c e s hc ih =>
      obtain ⟨⟨body', rest'⟩, hclose, heq⟩ := Option.map_eq_some_iff.mp h
      simp only [Prod.mk.injEq] at heq
      obtain ⟨rfl, rfl⟩ := heq
      rw [List.cons_append, List.cons_append, closeQuote, if_pos hc, ih hclose]
      rfl
  | case6 c e s hc hd he ih =>
      obtain ⟨⟨body', rest'⟩, hclose, heq⟩ := Option.map_eq_some_iff.mp h
      simp only [Prod.mk.injEq] at heq
      obtain ⟨rfl, rfl⟩ := heq
      rw [List.cons_append, List.cons_append, closeQuote, if_neg hc, if_pos hd, if_pos he, ih hclose]
      rfl
  | case7 c e s hc hd he =>
      obtain rfl : c = d := by simpa using hd
      simp only [Option.some.injEq, Prod.mk.injEq] at h
      obtain ⟨rfl, -⟩ := h
      exact closeQuote_delimiter hc hkept
  | case8 c e s hc hd ih =>
      obtain ⟨⟨body', rest'⟩, hclose, heq⟩ := Option.map_eq_some_iff.mp h
      simp only [Prod.mk.injEq] at heq
      obtain ⟨rfl, rfl⟩ := heq
      rw [List.cons_append, closeQuote_cons hc hd, ih hclose]
      rfl

/-- A closing delimiter is not doubled. -/
theorem closeQuote_rest_head {escapes : Bool} {d : Char} {s body rest : Text}
    (h : closeQuote escapes d s = some (body, rest)) : rest.head? ≠ some d := by
  fun_induction closeQuote escapes d s generalizing body with
  | case1 => cases h
  | case2 c hc => cases h
  | case3 c hc hd =>
      cases h
      simp
  | case4 c hc hd => cases h
  | case5 c e s hc ih | case6 c e s hc hd he ih | case8 c e s hc hd ih =>
      obtain ⟨⟨body', rest'⟩, hclose, heq⟩ := Option.map_eq_some_iff.mp h
      simp only [Prod.mk.injEq] at heq
      obtain ⟨-, rfl⟩ := heq
      exact ih hclose
  | case7 c e s hc hd he =>
      cases h
      simpa using he

theorem startsLineComment_append {s : Text} (h : startsLineComment s = true) (u : Text) :
    startsLineComment (s ++ u) = true := by
  unfold startsLineComment at h
  split at h
  · rfl
  · exact h
  · cases h

theorem startsBlockComment_append {s : Text} (h : startsBlockComment s = true) (u : Text) :
    startsBlockComment (s ++ u) = true := by
  obtain ⟨r, rfl⟩ := startsBlockComment_iff.mp h
  rfl

/-- A line comment is one before any text that begins with its line break. -/
theorem startsLineComment_cut {s kept dropped : Text} (h : startsLineComment s = true)
    (hcut : s.dropWhile (· != '\n') = kept ++ dropped) (hkept : kept ≠ []) :
    startsLineComment (s.takeWhile (· != '\n') ++ kept) = true := by
  obtain ⟨c, kept, rfl⟩ := List.exists_cons_of_ne_nil hkept
  unfold startsLineComment at h
  split at h
  · rfl
  · next c' s =>
      by_cases hbreak : c' = '\n'
      · subst hbreak
        have hdrop : ('-' :: '-' :: '\n' :: s).dropWhile (· != '\n') = '\n' :: s := rfl
        rw [hdrop] at hcut
        obtain ⟨rfl, -⟩ := List.cons.inj hcut
        rfl
      · have htake : ('-' :: '-' :: c' :: s).takeWhile (· != '\n') =
            '-' :: '-' :: c' :: s.takeWhile (· != '\n') := by
          simp [hbreak]
        rw [htake]
        exact h
  · cases h

/-- A token is read alike when the text behind it is cut short; behind a comment something has
to be left. -/
theorem lexOne_cut {escapes : Char → Bool} {s rest kept dropped : Text} {t : Token}
    (h : lexOne escapes s = some (t, rest)) (hcut : rest = kept ++ dropped)
    (hend : kept = [] → t.isSignificant = true) :
    lexOne escapes (t.chars ++ kept) = some (t, kept) := by
  apply lexOne_of_lexStep
  have hs := lexOne_eq_append h
  cases lexStep_of_lexOne h with
  | line hline =>
      have hkept : kept ≠ [] := fun hnil => Bool.false_ne_true (hend hnil)
      have hall : ∀ c ∈ s.takeWhile (· != '\n'), (c != '\n') = true := fun c hc =>
        List.mem_takeWhile_imp (p := (· != '\n')) hc
      obtain ⟨c, kept, rfl⟩ := List.exists_cons_of_ne_nil hkept
      have hc : ¬(c != '\n') = true := by
        have hhead := List.head?_dropWhile_not (· != '\n') s
        rw [hcut] at hhead
        simpa using hhead
      have hstep : LexStep escapes _ _ _ := .line (startsLineComment_cut hline hcut hkept)
      rwa [List.takeWhile_append_of_pos hall,
        List.takeWhile_cons_of_neg (p := (· != '\n')) hc, List.append_nil,
        List.dropWhile_append_of_pos hall,
        List.dropWhile_cons_of_neg (p := (· != '\n')) hc] at hstep
  | @block r body _ hclose =>
      have hflag : (body ++ '*' :: '/' :: kept).head? = r.head? := by
        rw [closeBlock_eq_append hclose]
        cases body <;> rfl
      have hstep : LexStep escapes _ _ _ := .block (closeBlock_cut kept hclose)
      rw [hflag] at hstep
      simpa using hstep
  | @quoted d r body _ hd hclose =>
      have hkept : kept.head? ≠ some d := by
        have hrest := closeQuote_rest_head hclose
        cases kept with
        | nil => exact nofun
        | cons c kept =>
            rw [hcut] at hrest
            exact hrest
      have hstep := LexStep.quoted hd (closeQuote_cut hclose hkept)
      simpa [Token.chars] using hstep
  | terminator => exact .terminator
  | @char c r hline hblock hquote hterm =>
      have hline' : startsLineComment (c :: kept) = false := by
        by_contra hstart
        have := startsLineComment_append (Bool.not_eq_false _ ▸ hstart) dropped
        rw [List.cons_append, ← hcut, hline] at this
        cases this
      have hblock' : startsBlockComment (c :: kept) = false := by
        by_contra hstart
        have := startsBlockComment_append (Bool.not_eq_false _ ▸ hstart) dropped
        rw [List.cons_append, ← hcut, hblock] at this
        cases this
      have hstep : LexStep escapes _ _ _ := .char hline' hblock' hquote hterm
      split <;> rename_i hblank <;> simpa [Token.chars, hblank] using hstep

theorem flatMap_chars_lex {mode : Char → Bool} {s : Text} (h : (lex mode s).2 = []) :
    (lex mode s).1.flatMap Token.chars = s := by
  have happ := (Lexes.of_lex mode s).eq_append
  rw [h, List.append_nil] at happ
  exact happ.symm

namespace Lexes

/-- The tokens of a text are those of the part that they stand for. -/
theorem cut {escapes : Char → Bool} {s rest : Text} {ts : List Token} (h : Lexes escapes s ts rest)
    (hlast : ∀ t ∈ ts.getLast?, t.isSignificant = true) :
    Lexes escapes (ts.flatMap Token.chars) ts [] := by
  induction h with
  | done => exact .done
  | @token s r rest t ts hone htail ih =>
      refine .token (lexOne_cut hone htail.eq_append ?_) (ih ?_)
      · intro hnil
        cases htail with
        | done => exact hlast t rfl
        | token hone' _ => exact absurd (List.append_eq_nil_iff.mp hnil).1 (lexOne_chars_ne_nil hone')
      · intro u hu
        refine hlast u ?_
        cases ts with
        | nil => cases hu
        | cons v vs => rwa [List.getLast?_cons_cons]

theorem lex_cut {escapes : Char → Bool} {s rest : Text} {ts : List Token}
    (h : Lexes escapes s ts rest) (hlast : ∀ t ∈ ts.getLast?, t.isSignificant = true) :
    lex escapes (ts.flatMap Token.chars) = (ts, []) := by
  rw [(h.cut hlast).lex_eq]
  exact Prod.ext (List.append_nil ts) rfl

end Lexes

/-! ## Whole statements -/

/-- Tokens from the first code of a statement to its terminator, or to its last code. -/
structure WholeStatement (body : List Token) : Prop where
  first : ∃ t ts, body = t :: ts ∧ t.isCode = true
  inner : ∀ t ∈ body.dropLast, t ≠ .terminator
  last : ∀ t ∈ body.getLast?, t.isSignificant = true

theorem ne_terminator_of_isCode {t : Token} (h : t.isCode = true) : t ≠ .terminator := by
  rintro rfl
  cases h

theorem isSignificant_of_isCode {t : Token} (h : t.isCode = true) : t.isSignificant = true := by
  rw [Token.isSignificant, h, Bool.true_or]

theorem oneStatement_of_no_terminator {ts : List Token} (hts : ∀ u ∈ ts, u ≠ .terminator)
    (hcode : ∃ u ∈ ts, u.isCode = true) : OneStatement (ts, []) := by
  have hall : ∀ u ∈ ts.filter Token.isSignificant, (u != .terminator) = true := by
    intro u hu
    simpa using hts u (List.mem_filter.mp hu).1
  refine ⟨rfl, ?_, .inl (List.dropWhile_eq_nil_iff.mpr hall)⟩
  rw [List.takeWhile_eq_self_iff.mpr hall]
  obtain ⟨u, hu, hcode⟩ := hcode
  exact List.ne_nil_of_mem (List.mem_filter.mpr ⟨hu, isSignificant_of_isCode hcode⟩)

/-- A statement that is open stays the only one up to the last token. -/
theorem statementRanges_open (pos start stop : Nat) (ts : List Token) {t : Token}
    (hts : ∀ u ∈ ts, u ≠ .terminator) (ht : t.isSignificant = true) :
    statementRanges true pos (some (start, stop)) (ts ++ [t]) =
      [(start, pos + byteLen ((ts ++ [t]).flatMap Token.chars))] := by
  have hne : ∀ u : Token, u ≠ .terminator → (u == .terminator) = false :=
    fun u hu => beq_eq_false_iff_ne.mpr hu
  induction ts generalizing pos stop with
  | nil =>
      by_cases hterm : t = .terminator
      · subst hterm
        simp [statementRanges]
      · have hcode : t.isCode = true := by simpa [Token.isSignificant, hne t hterm] using ht
        simp [statementRanges, hne t hterm, hcode]
  | cons u ts ih =>
      have hu := hts u List.mem_cons_self
      have htail := fun pos stop => ih pos stop fun v hv => hts v (List.mem_cons_of_mem u hv)
      have hlen : pos + byteLen u.chars + byteLen ((ts ++ [t]).flatMap Token.chars) =
          pos + byteLen ((u :: ts ++ [t]).flatMap Token.chars) := by
        rw [List.cons_append, List.flatMap_cons, byteLen_append]
        omega
      simp only [List.cons_append, statementRanges, hne u hu, Bool.false_eq_true, if_false]
      split
      · rw [Option.map_some, Option.getD_some, htail, hlen, List.cons_append]
      · rw [htail, hlen, List.cons_append]

namespace WholeStatement

theorem oneStatement {body : List Token} (h : WholeStatement body) : OneStatement (body, []) := by
  obtain ⟨⟨t, ts, hbody, ht⟩, hinner, hlast⟩ := h
  obtain ⟨init, last, rfl⟩ := (List.eq_nil_or_concat' body).resolve_left (by simp [hbody])
  rw [List.dropLast_concat] at hinner
  by_cases hterm : last = .terminator
  swap
  · refine oneStatement_of_no_terminator ?_ ⟨t, by simp [hbody], ht⟩
    intro u hu
    rcases List.mem_append.mp hu with hinit | hu
    · exact hinner u hinit
    · rwa [List.mem_singleton.mp hu]
  subst hterm
  obtain ⟨init, rfl⟩ : ∃ us, init = t :: us := by
    cases init with
    | nil =>
        obtain ⟨rfl, -⟩ := List.cons.inj hbody
        exact absurd rfl (ne_terminator_of_isCode ht)
    | cons u us =>
        obtain ⟨rfl, -⟩ := List.cons.inj hbody
        exact ⟨us, rfl⟩
  have hall : ∀ u ∈ (t :: init).filter Token.isSignificant, (u != .terminator) = true := by
    intro u hu
    simpa using hinner u (List.mem_filter.mp hu).1
  have hsplit : (t :: init ++ [Token.terminator]).filter Token.isSignificant =
      (t :: init).filter Token.isSignificant ++ [.terminator] := by
    rw [List.filter_append]
    rfl
  refine ⟨rfl, ?_, .inr ?_⟩ <;> simp only [hsplit]
  · rw [List.takeWhile_append_of_pos hall, List.filter_cons_of_pos (isSignificant_of_isCode ht),
      List.cons_append]
    exact List.cons_ne_nil _ _
  · rw [List.dropWhile_append_of_pos hall]
    rfl

theorem rangesOf {body : List Token} (h : WholeStatement body) :
    rangesOf (body, []) 0 none = [(0, byteLen (body.flatMap Token.chars))] := by
  obtain ⟨⟨t, ts, rfl, ht⟩, hinner, hlast⟩ := h
  have hne : (t == .terminator) = false := beq_eq_false_iff_ne.mpr (ne_terminator_of_isCode ht)
  have hopen : Execution.rangesOf (t :: ts, []) 0 none =
      statementRanges true (byteLen t.chars) (some (0, byteLen t.chars)) ts := by
    simp [Execution.rangesOf, statementRanges, hne, ht]
  rw [hopen]
  rcases List.eq_nil_or_concat' ts with rfl | ⟨init, last, rfl⟩
  · simp [statementRanges]
  · have hinit : ∀ u ∈ init, u ≠ .terminator := by
      intro u hu
      rw [← List.cons_append, List.dropLast_concat] at hinner
      exact hinner u (List.mem_cons_of_mem t hu)
    rw [← List.cons_append, List.getLast?_concat] at hlast
    rw [statementRanges_open _ _ _ init hinit (hlast last rfl), List.flatMap_cons, byteLen_append]

end WholeStatement

/-! ## The tokens of a range -/

/-- The tokens seen so far end in an open statement, which may have layout behind it. -/
structure Opened (seen : List Token) (r : Nat × Nat) (pre body layout : List Token) : Prop where
  split : seen = pre ++ (body ++ layout)
  start : byteLen (pre.flatMap Token.chars) = r.1
  stop : byteLen ((pre ++ body).flatMap Token.chars) = r.2
  first : ∃ t ts, body = t :: ts ∧ t.isCode = true
  inner : ∀ t ∈ body ++ layout, t ≠ .terminator
  last : ∀ t ∈ body.getLast?, t.isCode = true

namespace Opened
variable {seen pre body layout : List Token} {r : Nat × Nat} {t : Token}

theorem whole (h : Opened seen r pre body layout) : WholeStatement body where
  first := h.first
  inner t ht := h.inner t (List.mem_append_left _ (List.dropLast_subset body ht))
  last t ht := isSignificant_of_isCode (h.last t ht)

theorem closed (h : Opened seen r pre body layout) :
    WholeStatement (body ++ layout ++ [.terminator]) where
  first := by
    obtain ⟨u, us, rfl, hu⟩ := h.first
    exact ⟨u, _, rfl, hu⟩
  inner t ht := by
    rw [List.dropLast_concat] at ht
    exact h.inner t ht
  last t ht := by
    rw [List.getLast?_concat] at ht
    obtain rfl := Option.some.inj ht
    rfl

theorem opens (seen : List Token) (ht : t.isCode = true) :
    Opened (seen ++ [t])
      (byteLen (seen.flatMap Token.chars), byteLen ((seen ++ [t]).flatMap Token.chars)) seen [t] []
    where
  split := rfl
  start := rfl
  stop := rfl
  first := ⟨t, [], rfl, ht⟩
  inner u hu := by
    rw [List.append_nil, List.mem_singleton] at hu
    exact hu ▸ ne_terminator_of_isCode ht
  last u hu := by
    obtain rfl := Option.some.inj hu
    exact ht

theorem code (h : Opened seen r pre body layout) (ht : t.isCode = true) :
    Opened (seen ++ [t]) (r.1, byteLen ((seen ++ [t]).flatMap Token.chars)) pre
      (body ++ layout ++ [t]) [] where
  split := by simp [h.split]
  start := h.start
  stop := by simp only [h.split, List.append_assoc]
  first := by
    obtain ⟨u, us, rfl, hu⟩ := h.first
    exact ⟨u, _, rfl, hu⟩
  inner u hu := by
    rw [List.append_nil] at hu
    rcases List.mem_append.mp hu with hold | hu
    · exact h.inner u hold
    · exact List.mem_singleton.mp hu ▸ ne_terminator_of_isCode ht
  last u hu := by
    rw [List.getLast?_concat] at hu
    obtain rfl := Option.some.inj hu
    exact ht

theorem layout_snoc (h : Opened seen r pre body layout) (ht : t ≠ .terminator) :
    Opened (seen ++ [t]) r pre body (layout ++ [t]) where
  split := by simp [h.split]
  start := h.start
  stop := h.stop
  first := h.first
  inner u hu := by
    rw [← List.append_assoc] at hu
    rcases List.mem_append.mp hu with hold | hu
    · exact h.inner u hold
    · exact List.mem_singleton.mp hu ▸ ht
  last := h.last

end Opened

/-- The tokens of a statement, and how many bytes stand before them. -/
structure StandsIn (ts : List Token) (r : Nat × Nat) (pre body post : List Token) : Prop where
  split : ts = pre ++ (body ++ post)
  start : byteLen (pre.flatMap Token.chars) = r.1
  stop : byteLen ((pre ++ body).flatMap Token.chars) = r.2
  whole : WholeStatement body

/-- Every range is that of a whole statement among the tokens. -/
theorem exists_standsIn {complete : Bool} (ts : List Token) :
    ∀ (seen : List Token) (current : Option (Nat × Nat)),
      (∀ c ∈ current, ∃ pre body layout, Opened seen c pre body layout) →
      ∀ r ∈ statementRanges complete (byteLen (seen.flatMap Token.chars)) current ts,
        ∃ pre body post, StandsIn (seen ++ ts) r pre body post := by
  induction ts with
  | nil =>
      intro seen current hcurrent r hr
      rw [statementRanges] at hr
      split at hr
      · obtain ⟨pre, body, layout, h⟩ := hcurrent r (Option.mem_toList.mp hr)
        exact ⟨pre, body, layout, by rw [List.append_nil, h.split], h.start, h.stop, h.whole⟩
      · cases hr
  | cons t ts ih =>
      intro seen current hcurrent r hr
      have hpos : byteLen (seen.flatMap Token.chars) + byteLen t.chars =
          byteLen ((seen ++ [t]).flatMap Token.chars) := by simp
      have hsnoc : seen ++ t :: ts = seen ++ [t] ++ ts := by simp
      simp only [statementRanges, hpos] at hr
      rw [hsnoc]
      split at hr
      · next hterm =>
        rcases List.mem_append.mp hr with hclosed | htail
        · obtain ⟨c, hc, rfl⟩ := Option.map_eq_some_iff.mp (Option.mem_toList.mp hclosed)
          obtain ⟨pre, body, layout, h⟩ := hcurrent c hc
          obtain rfl : t = .terminator := by simpa using hterm
          exact ⟨pre, body ++ layout ++ [.terminator], ts, by simp [h.split], h.start,
            by simp [h.split], h.closed⟩
        · exact ih _ none (by simp) r htail
      · next hterm =>
        split at hr
        · next hcode =>
          refine ih _ _ ?_ r hr
          rintro c hc
          obtain rfl := Option.some.inj hc
          cases current with
          | none => exact ⟨_, _, _, Opened.opens seen hcode⟩
          | some c =>
              obtain ⟨pre, body, layout, h⟩ := hcurrent c rfl
              exact ⟨_, _, _, h.code hcode⟩
        · refine ih _ current ?_ r hr
          intro c hc
          obtain ⟨pre, body, layout, h⟩ := hcurrent c hc
          exact ⟨_, _, _, h.layout_snoc (by simpa using hterm)⟩

/-! ## The statement at the caret -/

theorem slice_of_inferMysqlTarget {text target : Text} {caret start stop : Nat}
    (h : inferMysqlTarget text caret = some (.ok (start, stop, target))) :
    slice text start stop = some target := by
  obtain ⟨scan, -, hscan⟩ := Option.map_eq_some_iff.mp h
  split at hscan
  · split at hscan
    · cases hscan
    · split at hscan
      · next hslice =>
        cases hscan
        exact hslice
      · cases hscan
  · split at hscan
    · split at hscan <;> cases hscan
    · cases hscan

/-- An inferred statement lexes, on its own, into the tokens that it has in the text. -/
theorem inferMysqlTarget_cut {text target : Text} {caret start stop : Nat}
    (h : inferMysqlTarget text caret = some (.ok (start, stop, target))) :
    ∃ body, lex scannerRule target = (body, []) ∧ WholeStatement body := by
  obtain ⟨-, -, -, -, hat⟩ := exists_of_inferMysqlTarget h
  have hmem := List.mem_of_find?_eq_some hat
  obtain ⟨pre, body, post, hstands⟩ := exists_standsIn (lex scannerRule text).1 [] none nofun _ hmem
  have hlexes := Lexes.of_lex scannerRule text
  rw [← List.nil_append (lex scannerRule text).1, hstands.split] at hlexes
  obtain ⟨middle, hpre, hmiddle⟩ := Lexes.split pre hlexes
  obtain ⟨rest, hbody, -⟩ := Lexes.split body hmiddle
  have htext : text = pre.flatMap Token.chars ++ (body.flatMap Token.chars ++ rest) := by
    rw [← hbody.eq_append]
    exact hpre.eq_append
  have htarget : target = body.flatMap Token.chars := by
    have hslice := slice_of_inferMysqlTarget h
    have hstart : byteLen (pre.flatMap Token.chars) = start := hstands.start
    have hstop : byteLen ((pre ++ body).flatMap Token.chars) = stop := hstands.stop
    rw [List.flatMap_append] at hstop
    rw [htext, ← List.append_assoc, ← hstop, ← hstart, slice_append] at hslice
    exact (Option.some.inj hslice).symm
  rw [htarget]
  exact ⟨body, hbody.lex_cut hstands.whole.last, hstands.whole⟩

/-- Code and terminators have no layout at their ends. -/
theorem lexOne_ends {escapes : Char → Bool} {s rest : Text} {t : Token}
    (h : lexOne escapes s = some (t, rest)) (ht : t.isSignificant = true) :
    (∀ c ∈ t.chars.head?, isWhitespace c = false) ∧
      ∀ c ∈ t.chars.getLast?, isWhitespace c = false := by
  have hquote : ∀ d, isQuote d = true → isWhitespace d = false := by
    intro d hd
    simp only [isQuote, Bool.or_eq_true, beq_iff_eq] at hd
    rcases hd with (rfl | rfl) | rfl <;> decide
  cases lexStep_of_lexOne h with
  | line hline => cases ht
  | block hclose =>
      rw [blockToken_chars]
      refine ⟨fun c hc => ?_, fun c hc => ?_⟩
      · obtain rfl := Option.some.inj hc
        decide
      · rw [List.getLast?_append] at hc
        obtain rfl := Option.some.inj hc
        decide
  | @quoted d _ body _ hd hclose =>
      refine ⟨fun c hc => ?_, fun c hc => ?_⟩
      · obtain rfl := Option.some.inj hc
        exact hquote _ hd
      · rw [Token.chars, List.getLast?_concat] at hc
        obtain rfl := Option.some.inj hc
        exact hquote _ hd
  | terminator =>
      refine ⟨fun c hc => ?_, fun c hc => ?_⟩ <;>
      · obtain rfl := Option.some.inj hc
        decide
  | @char c _ hline hblock hq hterm =>
      by_cases hblank : isWhitespace c = true
      · rw [if_pos hblank] at ht
        cases ht
      · rw [if_neg hblank]
        refine ⟨fun c' hc => ?_, fun c' hc => ?_⟩ <;>
        · obtain rfl := Option.some.inj hc
          simpa using hblank

namespace WholeStatement

/-- Neither end of a whole statement is layout. -/
theorem ends {body : List Token} {target : Text} (h : WholeStatement body)
    (hlex : lex scannerRule target = (body, [])) :
    (∀ c ∈ target.head?, isWhitespace c = false) ∧
      ∀ c ∈ target.getLast?, isWhitespace c = false := by
  have hlexes := Lexes.of_lex scannerRule target
  have htarget := flatMap_chars_lex (congrArg Prod.snd hlex)
  rw [hlex] at hlexes htarget
  obtain ⟨t, ts, rfl, ht⟩ := h.first
  constructor
  · intro c hc
    cases hlexes with
    | token hone _ =>
      refine (lexOne_ends hone (isSignificant_of_isCode ht)).1 c ?_
      obtain ⟨a, as, hchars⟩ := List.exists_cons_of_ne_nil (lexOne_chars_ne_nil hone)
      rw [← htarget, List.flatMap_cons, hchars] at hc
      rw [hchars]
      exact hc
  · intro c hc
    obtain ⟨init, last, hbody⟩ :=
      (List.eq_nil_or_concat' (t :: ts)).resolve_left (List.cons_ne_nil t ts)
    rw [hbody] at hlexes htarget
    have hlast := h.last last (by rw [hbody, List.getLast?_concat]; rfl)
    obtain ⟨middle, -, hmiddle⟩ := Lexes.split init hlexes
    cases hmiddle with
    | token hone _ =>
      refine (lexOne_ends hone hlast).2 c ?_
      have hsome := List.getLast?_eq_some_getLast (lexOne_chars_ne_nil hone)
      rw [← htarget, List.flatMap_append, List.flatMap_singleton, List.getLast?_append, hsome] at hc
      rw [hsome]
      exact hc

/-- The text of a whole statement is scanned as one statement that spans it. -/
theorem scanMysql {body : List Token} {target : Text} (h : WholeStatement body)
    (hlex : lex scannerRule target = (body, [])) :
    ∃ ambiguous, scanMysql target = some ⟨[⟨0, byteLen target, ambiguous⟩], none, false⟩ := by
  have hlexes := Lexes.of_lex scannerRule target
  have htarget := flatMap_chars_lex (congrArg Prod.snd hlex)
  rw [hlex] at hlexes htarget
  have hne : target ≠ [] := by
    obtain ⟨t, ts, rfl, -⟩ := h.first
    cases hlexes with
    | token hone _ =>
      rw [← htarget, List.flatMap_cons]
      exact List.append_ne_nil_of_left_ne_nil (lexOne_chars_ne_nil hone) _
  have hok : validateMysqlSelection target = some (.ok ()) := by
    rw [validateMysqlSelection_ok_iff, hlex]
    exact h.oneStatement
  obtain ⟨hissue, hlength, hstray⟩ := (validateMysqlSelection_ok_iff_scan hne).mp hok
  have hranges := (scanLex_statements target).1
  rw [hlex, h.rangesOf, htarget] at hranges
  obtain ⟨x, hx⟩ := List.length_eq_one_iff.mp hlength
  rw [hx, List.map_singleton, List.singleton_inj] at hranges
  obtain ⟨hstart, hstop⟩ := Prod.mk.inj hranges
  refine ⟨x.ambiguousSqlMode, ?_⟩
  rw [scanMysql_eq_scanLex, Option.some.injEq, ← hstart, ← hstop, ← hx, ← hissue, ← hstray]

end WholeStatement

end Dbotter.Execution
