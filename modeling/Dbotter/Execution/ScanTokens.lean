import Dbotter.Execution.MysqlLexer

/-!
The byte loop of `scan_mysql` is a fold over the tokens that its own escape rule
gives: `scanMysql_eq_scanLex`. In particular the loop ends and slices the text on
character boundaries only.
-/

namespace Dbotter.Execution
open Dbotter.Utf8

/-! ## The scan of a token sequence -/

def oddBackslashesEnd (before : Text) : Bool :=
  (before.reverse.takeWhile (· == '\\')).length % 2 == 1

/-- The flag a token behind `before` gives its statement. -/
def Token.ambiguous (before : Text) : Token → Bool
  | .quoted d body =>
      d != '`' && (oddBackslashesEnd before || (Token.quoted d body).misread)
  | _ => false

def ScanState.terminate (s : ScanState) : ScanState :=
  match s.pending.finish (s.index + 1) with
  | some statement =>
      { s with
        index := s.index + 1
        statements := s.statements ++ [statement]
        pending := {} }
  | none => { s with index := s.index + 1, strayTerminator := true }

def ScanState.token (before : Text) (s : ScanState) (t : Token) : ScanState :=
  if t == .terminator then s.terminate
  else
    { s with
      index := s.index + byteLen t.chars
      pending :=
        if t.isCode then
          (s.pending.markExecutable s.index (s.index + byteLen t.chars)).flag (t.ambiguous before)
        else s.pending }

def scanTokens (before : Text) (s : ScanState) : List Token → ScanState
  | [] => s
  | t :: ts => scanTokens (before ++ t.chars) (s.token before t) ts

/-- The result at the end of the tokens, with the unterminated token `rest`. -/
def ScanState.conclude (before : Text) (s : ScanState) : Text → MysqlScan
  | [] => s.finishScan
  | c :: _ =>
      if isQuote c then
        s.issueAt ((s.pending.markExecutable s.index (s.index + 1)).flag
          (c != '`' && oddBackslashesEnd before))
      else s.issueAt s.pending

def scanLex (text : Text) : MysqlScan :=
  (scanTokens [] {} (lex scannerRule text).1).conclude ((lex scannerRule text).1.flatMap Token.chars)
    (lex scannerRule text).2

/-! ## First bytes -/

theorem head_byte (c : Char) (s : Text) :
    ∃ b, (bytes (c :: s))[0]? = some b ∧ ∀ x, isAscii x → (b == x.toUInt8) = (c == x) := by
  obtain ⟨b, bs, hb⟩ := List.exists_cons_of_ne_nil (@String.utf8EncodeChar_ne_nil c)
  have hhead : (bytes (c :: s))[0]? = some b := by
    rw [bytes_cons, hb]
    rfl
  refine ⟨b, hhead, fun x hx => ?_⟩
  have hiff := bytes_head_eq hx c s
  rw [hhead, Option.some.injEq] at hiff
  rw [Bool.eq_iff_iff, beq_iff_eq, beq_iff_eq, hiff]

theorem head_byte_control {c : Char} {s : Text} {b : UInt8} (hb : (bytes (c :: s))[0]? = some b) :
    (isAsciiWhitespace b || isAsciiControl b) = (c == ' ' || c.toNat < 32 || c.toNat == 127) := by
  have hmem : b ∈ String.utf8EncodeChar c := by
    obtain ⟨b', bs, hbs⟩ := List.exists_cons_of_ne_nil (@String.utf8EncodeChar_ne_nil c)
    rw [bytes_cons, hbs] at hb
    obtain rfl : b' = b := by simpa using hb
    rw [hbs]
    exact List.mem_cons_self
  have hspace : c = ' ' ↔ c.toNat = 32 := by
    refine ⟨fun h => h ▸ rfl, fun h => Char.ext (UInt32.toNat_inj.mp h)⟩
  have hleft : (isAsciiWhitespace b || isAsciiControl b) = true ↔
      b.toNat < 32 ∨ b.toNat = 32 ∨ b.toNat = 127 := by
    simp only [isAsciiWhitespace, isAsciiControl, Bool.or_eq_true, beq_iff_eq,
      decide_eq_true_eq, ← UInt8.toNat_inj, UInt8.lt_iff_toNat_lt, UInt8.reduceToNat]
    omega
  have hright : (c == ' ' || c.toNat < 32 || c.toNat == 127) = true ↔
      c.toNat < 32 ∨ c.toNat = 32 ∨ c.toNat = 127 := by
    simp only [Bool.or_eq_true, beq_iff_eq, decide_eq_true_eq, hspace]
    omega
  rw [Bool.eq_iff_iff, hleft, hright]
  by_cases hc : isAscii c
  · rw [utf8EncodeChar_ascii hc, List.mem_singleton] at hmem
    rw [hmem, toUInt8_toNat hc]
  · have hge := le_of_mem_utf8EncodeChar hc hmem
    have hge' : ¬ c.toNat < 128 := by simpa [isAscii] using hc
    omega

theorem nextCharBoundary_append (before : Text) (c : Char) (s : Text) :
    nextCharBoundary (before ++ c :: s) (byteLen before) = some (byteLen (before ++ [c])) := by
  unfold nextCharBoundary
  rw [sliceFrom_append]
  cases s <;> simp

theorem getElem?_bytes_zero (before s : Text) :
    (bytes (before ++ s))[byteLen before]? = (bytes s)[0]? := getElem?_bytes before s 0

/-! ## Quoted spans -/

theorem closeQuote_even_run (d : Char) (k : Nat) (s : Text) :
    closeQuote true d (List.replicate (2 * k) '\\' ++ s) =
      (closeQuote true d s).map fun p => (List.replicate (2 * k) '\\' ++ p.1, p.2) := by
  induction k with
  | zero => simp
  | succ k ih =>
      rw [show 2 * (k + 1) = 2 * k + 1 + 1 by omega, List.replicate_succ, List.replicate_succ,
        List.cons_append, List.cons_append, closeQuote_escape, ih, Option.map_map]
      rfl

theorem closeQuote_odd_run (d e : Char) (k : Nat) (s : Text) :
    closeQuote true d (List.replicate (2 * k + 1) '\\' ++ e :: s) =
      (closeQuote true d s).map fun p => (List.replicate (2 * k + 1) '\\' ++ e :: p.1, p.2) := by
  rw [List.replicate_succ', List.append_assoc, List.singleton_append, closeQuote_even_run,
    closeQuote_escape, Option.map_map]
  simp [Function.comp_def]

theorem closeQuote_replicate (d : Char) (n : Nat) :
    closeQuote true d (List.replicate n '\\') = none := by
  obtain ⟨k, rfl | rfl⟩ : ∃ k, n = 2 * k ∨ n = 2 * k + 1 := ⟨n / 2, by omega⟩
  · simpa [closeQuote] using closeQuote_even_run d k []
  · simpa [closeQuote, List.replicate_succ'] using closeQuote_even_run d k ['\\']

theorem escapedDelimiter_run (d : Char) (n : Nat) (odd : Bool) (s : Text) :
    escapedDelimiter d odd (List.replicate n '\\' ++ s) =
      escapedDelimiter d (odd ^^ n % 2 == 1) s := by
  induction n generalizing odd with
  | zero => simp
  | succ n ih =>
      rw [List.replicate_succ, List.cons_append, escapedDelimiter, if_pos (by rfl), ih]
      congr 1
      rcases Nat.mod_two_eq_zero_or_one n with h | h <;> cases odd <;> simp [Nat.add_mod, h]

theorem exists_run (s : Text) :
    ∃ n r, (s.takeWhile (· == '\\')).length = n ∧ s = List.replicate n '\\' ++ r ∧
      r.head? ≠ some '\\' := by
  refine ⟨_, s.dropWhile (· == '\\'), rfl, ?_, ?_⟩
  · have hrep : s.takeWhile (· == '\\') = List.replicate (s.takeWhile (· == '\\')).length '\\' :=
      List.eq_replicate_iff.mpr ⟨rfl, fun c hc => by simpa using List.mem_takeWhile_imp hc⟩
    rw [← hrep, List.takeWhile_append_dropWhile]
  · intro h
    have := List.head?_dropWhile_not (· == '\\') s
    simp [h] at this

theorem isAscii_of_isQuote {d : Char} (hd : isQuote d = true) : isAscii d = true := by
  simp only [isQuote, Bool.or_eq_true, beq_iff_eq] at hd
  rcases hd with (rfl | rfl) | rfl <;> decide

/-- What `quoted_span` returns for a token that opens right before `s`. -/
def spanOf (d : Char) (start : Nat) (ambiguous : Bool) (s : Text) : Option QuotedSpan :=
  (closeQuote true d s).map fun p =>
    ⟨start + byteLen p.1 + 1, ambiguous || (d != '`' && escapedDelimiter d false (p.1 ++ [d]))⟩

theorem spanOf_odd_run (d e : Char) (start : Nat) (ambiguous : Bool) (k : Nat) (s : Text)
    (he : e ≠ '\\') :
    spanOf d start ambiguous (List.replicate (2 * k + 1) '\\' ++ e :: s) =
      spanOf d (start + byteLen (List.replicate (2 * k + 1) '\\' ++ [e]))
        (ambiguous || (e == d && d != '`')) s := by
  unfold spanOf
  rw [closeQuote_odd_run, Option.map_map]
  congr 1
  funext p
  simp only [Function.comp_apply, QuotedSpan.mk.injEq]
  constructor
  · simp only [byteLen_append, byteLen_cons, byteLen_nil]
    omega
  · rw [List.append_assoc, escapedDelimiter_run, List.cons_append, escapedDelimiter]
    have hodd : (2 * k + 1) % 2 = 1 := by omega
    simp only [hodd, he, beq_iff_eq, if_false, Bool.false_xor, beq_self_eq_true, Bool.true_and]
    cases ambiguous <;> cases d != '`' <;> simp

theorem spanOf_even_run (d : Char) (start : Nat) (ambiguous : Bool) (k : Nat) (s : Text) :
    spanOf d start ambiguous (List.replicate (2 * k) '\\' ++ s) =
      spanOf d (start + byteLen (List.replicate (2 * k) '\\')) ambiguous s := by
  unfold spanOf
  rw [closeQuote_even_run, Option.map_map]
  congr 1
  funext p
  have heven : 2 * k % 2 = 0 := by omega
  simp [escapedDelimiter_run, heven, Nat.add_assoc]

theorem spanOf_plain {d c : Char} (hc : c ≠ '\\') (hcd : c ≠ d) (start : Nat) (ambiguous : Bool)
    (s : Text) :
    spanOf d start ambiguous (c :: s) = spanOf d (start + byteLen [c]) ambiguous s := by
  have hclose : closeQuote true d (c :: s) =
      (closeQuote true d s).map fun p => (c :: p.1, p.2) := by
    cases s with
    | nil => simp [closeQuote, hc, hcd]
    | cons e s => simp [closeQuote, hc, hcd]
  unfold spanOf
  rw [hclose, Option.map_map]
  congr 1
  funext p
  simp [escapedDelimiter, hc, Nat.add_assoc]

theorem spanOf_doubled {d : Char} (hd : d ≠ '\\') (start : Nat) (ambiguous : Bool) (s : Text) :
    spanOf d start ambiguous (d :: d :: s) = spanOf d (start + byteLen [d, d]) ambiguous s := by
  have hclose : closeQuote true d (d :: d :: s) =
      (closeQuote true d s).map fun p => (d :: d :: p.1, p.2) := by
    simp [closeQuote, hd]
  unfold spanOf
  rw [hclose, Option.map_map]
  congr 1
  funext p
  simp [escapedDelimiter, hd, Nat.add_assoc]

theorem spanOf_close {d : Char} (hd : d ≠ '\\') (start : Nat) (ambiguous : Bool) {s : Text}
    (hs : s.head? ≠ some d) :
    spanOf d start ambiguous (d :: s) = some ⟨start + 1, ambiguous⟩ := by
  cases s with
  | nil => simp [spanOf, closeQuote, hd, escapedDelimiter]
  | cons e s =>
      have he : e ≠ d := by simpa using hs
      simp [spanOf, closeQuote, hd, he, escapedDelimiter]

theorem byteLen_replicate_backslash (n : Nat) : byteLen (List.replicate n '\\') = n := by
  induction n with
  | zero => rfl
  | succ n ih =>
      rw [List.replicate_succ, byteLen_cons, ih, ascii_utf8Size (by decide)]
      omega

theorem head_byte_eq_iff {d : Char} (hd : isAscii d) (s : Text) :
    (bytes s)[0]? = some d.toUInt8 ↔ s.head? = some d := by
  cases s with
  | nil => exact iff_of_false nofun nofun
  | cons c s => rw [bytes_head_eq hd, List.head?_cons, Option.some.injEq]

theorem toUInt8_beq {c d : Char} (hc : isAscii c) (hd : isAscii d) :
    (c.toUInt8 == d.toUInt8) = (c == d) := by
  rw [Bool.eq_iff_iff, beq_iff_eq, beq_iff_eq, toUInt8_inj hc hd]

theorem quotedLoop_eq {d : Char} (hd : isQuote d = true) (fuel : Nat) (before s : Text)
    (ambiguous : Bool) (hfuel : s.length < fuel) :
    quotedLoop (before ++ s) d.toUInt8 fuel (byteLen before) ambiguous =
      some (spanOf d (byteLen before) ambiguous s) := by
  induction fuel generalizing before s ambiguous with
  | zero => omega
  | succ fuel ih =>
      have hda := isAscii_of_isQuote hd
      have hbs : isAscii '\\' = true := by decide
      rw [quotedLoop]
      simp only [getElem?_bytes_zero]
      cases s with
      | nil => rfl
      | cons c s =>
          obtain ⟨b, hb, hbeq⟩ := head_byte c s
          simp only [hb, hbeq _ hbs, hbeq _ hda, beq_iff_eq]
          by_cases hc : c = '\\'
          · rw [if_pos hc, drop_bytes, length_takeWhile_bytes hbs]
            obtain ⟨n, r, hrun, hr, hhead⟩ := exists_run (c :: s)
            have hpos : 0 < n := by simp [← hrun, hc]
            have hindex : byteLen before + n = byteLen (before ++ List.replicate n '\\') := by
              simp [byteLen_replicate_backslash]
            rw [hrun, hr, ← List.append_assoc, hindex, getElem?_bytes_zero]
            rw [hr] at hfuel
            cases r with
            | nil => simp [spanOf, closeQuote_replicate]
            | cons e r =>
                obtain ⟨b', hb', hbeq'⟩ := head_byte e r
                have he : e ≠ '\\' := by simpa using hhead
                have hlen : n + (r.length + 1) < fuel + 1 := by simpa using hfuel
                simp only [hb', hbeq' _ hda, bne, toUInt8_beq hda (by decide : isAscii '`' = true)]
                obtain ⟨k, rfl | rfl⟩ : ∃ k, n = 2 * k ∨ n = 2 * k + 1 := ⟨n / 2, by omega⟩
                · have hstep := ih (before ++ List.replicate (2 * k) '\\') (e :: r) ambiguous
                    (by simp only [List.length_cons]; omega)
                  rw [spanOf_even_run, ← byteLen_append, ← hstep]
                  simp
                · have hstep := ih (before ++ List.replicate (2 * k + 1) '\\' ++ [e]) r
                    (ambiguous || (e == d && d != '`')) (by omega)
                  rw [nextCharBoundary_append, spanOf_odd_run _ _ _ _ _ _ he, ← byteLen_append,
                    ← List.append_assoc, ← hstep]
                  simp [bne, Nat.add_mod]
          · rw [if_neg hc]
            by_cases hcd : c = d
            · subst hcd
              rw [if_pos rfl, getElem?_bytes, bytes_ascii_cons hda, List.getElem?_cons_succ]
              simp only [head_byte_eq_iff hda]
              have hne := isQuote_ne_backslash hd
              by_cases hs : s.head? = some c
              · obtain ⟨r, rfl⟩ : ∃ r, s = c :: r := ⟨s.tail, List.eq_cons_of_mem_head? hs⟩
                have hsize : byteLen before + 2 = byteLen (before ++ [c, c]) := by
                  simp [ascii_utf8Size hda]
                have hstep := ih (before ++ [c, c]) r ambiguous (by simp at hfuel; omega)
                rw [List.append_assoc, List.cons_append, List.singleton_append] at hstep
                rw [spanOf_doubled hne, ← byteLen_append, ← hstep, hsize]
                simp
              · rw [spanOf_close hne _ _ hs]
                simp [hs]
            · rw [if_neg hcd, nextCharBoundary_append, Option.bind_some, spanOf_plain hc hcd,
                ← byteLen_append]
              have hstep := ih (before ++ [c]) s ambiguous (by simpa using hfuel)
              rwa [List.append_assoc, List.singleton_append] at hstep

theorem quotedSpan_eq {d : Char} (hd : isQuote d = true) (before s : Text) :
    quotedSpan (before ++ d :: s) (byteLen before) d.toUInt8 =
      some (spanOf d (byteLen before + 1) false s) := by
  have hsize : byteLen before + 1 = byteLen (before ++ [d]) := by
    simp [ascii_utf8Size (isAscii_of_isQuote hd)]
  have hfuel : s.length < byteLen (before ++ d :: s) + 1 := by
    have := length_le_byteLen s
    simp only [byteLen_append, byteLen_cons]
    omega
  have hloop := quotedLoop_eq hd _ (before ++ [d]) s false hfuel
  rw [List.append_assoc, List.singleton_append] at hloop
  rw [quotedSpan, hsize, hloop]

/-! ## The tests of one turn -/

theorem findBlockEnd_append {bs : List UInt8} (hbs : ∀ b ∈ bs, b ≠ '*'.toUInt8) (cs : List UInt8) :
    findBlockEnd (bs ++ cs) = (findBlockEnd cs).map (· + bs.length) := by
  induction bs with
  | nil => simp
  | cons b bs ih =>
      have hb : b ≠ '*'.toUInt8 := hbs b List.mem_cons_self
      have htail := ih fun x hx => hbs x (List.mem_cons_of_mem _ hx)
      rw [List.cons_append]
      cases hcs : bs ++ cs with
      | nil =>
          obtain ⟨rfl, rfl⟩ := List.append_eq_nil_iff.mp hcs
          rfl
      | cons x xs =>
          rw [findBlockEnd, if_neg (by simp [hb]), ← hcs, htail, Option.map_map]
          rfl

theorem findBlockEnd_star (bs : List UInt8) :
    findBlockEnd ('*'.toUInt8 :: bs) =
      if bs[0]? = some '/'.toUInt8 then some 0 else (findBlockEnd bs).map (· + 1) := by
  cases bs with
  | nil => rfl
  | cons b bs =>
      rw [findBlockEnd]
      simp

theorem findBlockEnd_bytes (s : Text) :
    findBlockEnd (bytes s) = (closeBlock s).map fun p => byteLen p.1 := by
  induction s with
  | nil => rfl
  | cons c s ih =>
      have hclose : closeBlock (c :: s) =
          if c = '*' ∧ s.head? = some '/' then some ([], s.tail)
          else (closeBlock s).map fun p => (c :: p.1, p.2) := by
        cases s with
        | nil => simp [closeBlock]
        | cons e s => simp [closeBlock]
      rw [hclose]
      by_cases hc : c = '*'
      · subst hc
        rw [bytes_ascii_cons (by decide), findBlockEnd_star, ih]
        simp only [head_byte_eq_iff (by decide : isAscii '/' = true), true_and]
        split_ifs with hs
        · rfl
        · rw [Option.map_map, Option.map_map]
          congr 1
          funext p
          simp [ascii_utf8Size (by decide : isAscii '*' = true), Nat.add_comm]
      · have hne : ∀ b ∈ String.utf8EncodeChar c, b ≠ '*'.toUInt8 := fun b hb h =>
          hc ((mem_utf8EncodeChar (by decide) c).mp (h ▸ hb))
        rw [bytes_cons, findBlockEnd_append hne, ih, if_neg (by simp [hc]), Option.map_map,
          Option.map_map]
        congr 1
        funext p
        simp [Nat.add_comm]

theorem blockCommentEnd_eq (before r : Text) :
    blockCommentEnd (bytes (before ++ '/' :: '*' :: r)) (byteLen before + 2) =
      (closeBlock r).map fun p => byteLen before + byteLen ('/' :: '*' :: p.1 ++ ['*', '/']) := by
  have hopen : byteLen before + 2 = byteLen (before ++ ['/', '*']) := by
    simp [ascii_utf8Size (by decide : isAscii '/' = true),
      ascii_utf8Size (by decide : isAscii '*' = true)]
  have hsplit : before ++ '/' :: '*' :: r = (before ++ ['/', '*']) ++ r := by simp
  rw [hsplit, blockCommentEnd, if_pos (by rw [bytes_length, hopen]; simp), hopen, drop_bytes,
    findBlockEnd_bytes, Option.map_map]
  congr 1
  funext p
  simp [ascii_utf8Size (by decide : isAscii '/' = true),
    ascii_utf8Size (by decide : isAscii '*' = true)]
  omega

theorem blockTest_eq (before s : Text) :
    (((bytes (before ++ s)).drop (byteLen before)).take 2 == ['/'.toUInt8, '*'.toUInt8]) =
      startsBlockComment s := by
  have hiff := take_bytes_eq_iff ['/', '*'] (forall_mem_of_all (by decide)) s
  rw [drop_bytes, Bool.eq_iff_iff, beq_iff_eq, startsBlockComment_iff]
  refine hiff.trans ⟨fun ⟨r, hr⟩ => ⟨r, hr.symm⟩, fun ⟨r, hr⟩ => ⟨r, hr.symm⟩⟩

theorem dashTest_eq (before s : Text) :
    mysqlDashCommentStarts (bytes (before ++ s)) (byteLen before) =
      (startsLineComment s && s.head? == some '-') := by
  have hiff := take_bytes_eq_iff ['-', '-'] (forall_mem_of_all (by decide)) s
  rw [mysqlDashCommentStarts, drop_bytes, getElem?_bytes]
  by_cases hs : ['-', '-'] <+: s
  · obtain ⟨r, rfl⟩ := hs
    have htake : (bytes (['-', '-'] ++ r)).take 2 = ['-'.toUInt8, '-'.toUInt8] :=
      hiff.mpr ⟨r, rfl⟩
    have hget : (bytes (['-', '-'] ++ r))[2]? = (bytes r)[0]? := by
      rw [List.cons_append, List.singleton_append, bytes_ascii_cons (by decide),
        bytes_ascii_cons (by decide)]
      rfl
    rw [htake, hget]
    cases r with
    | nil => rfl
    | cons c r =>
        obtain ⟨b, hb, -⟩ := head_byte c r
        rw [hb, Option.any_some, head_byte_control hb]
        simp [startsLineComment]
  · have htake : ((bytes s).take 2 == ['-'.toUInt8, '-'.toUInt8]) = false := by
      rw [beq_eq_false_iff_ne]
      exact fun h => hs (hiff.mp h)
    rw [htake, Bool.false_and]
    symm
    unfold startsLineComment
    split
    · simp
    · next c r => exact absurd ⟨c :: r, rfl⟩ hs
    · rfl

theorem lineTest_eq (before : Text) {c : Char} {s : Text} {b : UInt8}
    (hb : ∀ x, isAscii x → (b == x.toUInt8) = (c == x)) :
    (b == '#'.toUInt8 || mysqlDashCommentStarts (bytes (before ++ c :: s)) (byteLen before)) =
      startsLineComment (c :: s) := by
  rw [dashTest_eq, hb _ (by decide), Bool.eq_iff_iff]
  simp only [Bool.or_eq_true, beq_iff_eq, Bool.and_eq_true, List.head?_cons, Option.some.injEq]
  constructor
  · rintro (rfl | ⟨h, -⟩)
    · rfl
    · exact h
  · intro h
    rcases startsLineComment_head h with rfl | rfl
    · exact .inl rfl
    · exact .inr ⟨h, rfl⟩

theorem isQuoteByte_eq {c : Char} {b : UInt8}
    (hb : ∀ x, isAscii x → (b == x.toUInt8) = (c == x)) : isQuoteByte b = isQuote c := by
  simp only [isQuoteByte, isQuote, hb '\'' (by decide), hb '"' (by decide), hb '`' (by decide)]

theorem lineCommentEnd_eq (before s : Text) :
    lineCommentEnd (bytes (before ++ s)) (byteLen before) =
      byteLen before + byteLen (s.takeWhile (· != '\n')) := by
  rw [← findIdx?_bytes (by decide : isAscii '\n' = true), lineCommentEnd, drop_bytes]
  cases (bytes s).findIdx? (· == '\n'.toUInt8) with
  | none => simp
  | some i => rfl

theorem oddBackslashRunBefore_eq (before s : Text) :
    oddBackslashRunBefore (bytes (before ++ s)) (byteLen before) = oddBackslashesEnd before := by
  rw [oddBackslashRunBefore, oddBackslashesEnd, take_bytes,
    length_takeWhile_reverse_bytes (by decide)]

/-! ## One turn is one token -/

@[simp] theorem flag_false (p : PendingMysqlStatement) : p.flag false = p := by
  simp [PendingMysqlStatement.flag]

@[simp] theorem markExecutable_twice (p : PendingMysqlStatement) (start stop stop' : Nat) :
    (p.markExecutable start stop).markExecutable start stop' = p.markExecutable start stop' := by
  unfold PendingMysqlStatement.markExecutable
  cases p.firstExecutable <;> rfl

theorem token_of_layout {t : Token} (h : t.isSignificant = false) (before : Text) (st : ScanState) :
    st.token before t = { st with index := st.index + byteLen t.chars } := by
  simp only [Token.isSignificant, Bool.or_eq_false_iff] at h
  rw [ScanState.token, h.2, h.1]
  rfl

theorem token_of_code {t : Token} (h : t.isCode = true) (before : Text) (st : ScanState) :
    st.token before t =
      { st with
        index := st.index + byteLen t.chars
        pending := (st.pending.markExecutable st.index (st.index + byteLen t.chars)).flag
          (t.ambiguous before) } := by
  have hne : (t == .terminator) = false := by
    rw [beq_eq_false_iff_ne]
    rintro rfl
    cases h
  rw [ScanState.token, hne, h]
  rfl

theorem scanBody_token {before s rest : Text} {t : Token} {st : ScanState} {b : UInt8}
    (h : lexOne scannerRule s = some (t, rest)) (hindex : st.index = byteLen before)
    (hb : (bytes s)[0]? = some b) :
    scanBody (before ++ s) st b = some (.continue (st.token before t)) := by
  cases s with
  | nil => cases h
  | cons c s =>
      obtain ⟨b', hb', hbeq⟩ := head_byte c s
      obtain rfl : b = b' := Option.some.inj (hb.symm.trans hb')
      simp only [scanBody, hindex, lineTest_eq before hbeq, blockTest_eq, isQuoteByte_eq hbeq]
      cases lexStep_of_lexOne h with
      | line hline =>
          rw [if_pos hline, lineCommentEnd_eq, token_of_layout rfl, hindex]
          rfl
      | @block r body rest hclose =>
          have hbang : (bytes (before ++ '/' :: '*' :: r))[byteLen before + 2]? = (bytes r)[0]? := by
            rw [getElem?_bytes, bytes_ascii_cons (by decide), bytes_ascii_cons (by decide)]
            rfl
          rw [if_neg (by simp [startsLineComment]), if_pos (by rfl), blockCommentEnd_eq, hclose, hbang]
          simp only [Option.map_some, beq_iff_eq, head_byte_eq_iff (by decide : isAscii '!' = true)]
          by_cases hhead : r.head? = some '!'
          · rw [if_pos hhead, token_of_code (by simp [hhead, blockToken, Token.isCode]), hindex]
            simp [hhead, blockToken, Token.ambiguous, Token.chars]
          · have hlayout : (blockToken (r.head? == some '!') body).isSignificant = false := by
              simp [hhead, blockToken, Token.isSignificant, Token.isCode]
            rw [if_neg hhead, token_of_layout hlayout, hindex]
            simp [hhead, blockToken, Token.chars]
      | @quoted _ _ body rest hd hclose =>
          have hclose' : closeQuote true c s = some (body, rest) := hclose
          obtain rfl : b = c.toUInt8 := by
            simpa using hbeq c (isAscii_of_isQuote hd)
          rw [startsLineComment_of_isQuote hd, startsBlockComment_of_isQuote hd, hd]
          simp only [Bool.false_eq_true, if_false, if_true]
          rw [quotedSpan_eq hd, spanOf, hclose', token_of_code rfl, hindex]
          have hlen : byteLen before + 1 + byteLen body + 1 =
              byteLen before + byteLen (Token.quoted c body).chars := by
            simp [Token.chars, ascii_utf8Size (isAscii_of_isQuote hd)]
            omega
          have hticks : (c.toUInt8 != '`'.toUInt8) = (c != '`') := by
            rw [bne, toUInt8_beq (isAscii_of_isQuote hd) (by decide)]
            rfl
          simp only [Option.map_some, markExecutable_twice, hlen, oddBackslashRunBefore_eq, hticks,
            Token.ambiguous, Token.misread, Bool.false_or, Bool.and_or_distrib_left]
      | terminator =>
          have hsemi : (b == ';'.toUInt8) = true := hbeq ';' (by decide)
          rw [if_neg (by simp [startsLineComment]), if_neg (by simp [startsBlockComment]),
            if_neg (by decide), hsemi, if_pos rfl]
          show _ = some (ScanStep.continue st.terminate)
          rw [ScanState.terminate, hindex]
          cases st.pending.finish (byteLen before + 1) <;> rfl
      | char hline hblock hquote hterm =>
          have hslice := slice_append before [c] rest
          rw [List.append_assoc, List.singleton_append] at hslice
          rw [hline, hblock, hquote, hbeq ';' (by decide), nextCharBoundary_append]
          simp only [Bool.false_eq_true, if_false, beq_iff_eq, hterm, Option.bind_some, hslice,
            Option.map_some, List.all_cons, List.all_nil, Bool.and_true]
          by_cases hw : isWhitespace c = true
          · rw [if_pos hw, if_pos hw, token_of_layout rfl, hindex]
            simp [Token.chars]
          · rw [if_neg hw, if_neg hw, token_of_code rfl, hindex]
            simp [Token.chars, Token.ambiguous]

theorem scanBody_unterminated {before s : Text} {st : ScanState} {b : UInt8}
    (h : lexOne scannerRule s = none) (hindex : st.index = byteLen before)
    (hb : (bytes s)[0]? = some b) :
    scanBody (before ++ s) st b = some (.return (st.conclude before s)) := by
  rcases lexOne_eq_none_iff.mp h with rfl | ⟨r, rfl, hclose⟩ | ⟨d, r, rfl, hd, hclose⟩
  · cases hb
  · obtain ⟨b', hb', hbeq⟩ := head_byte '/' ('*' :: r)
    obtain rfl : b = b' := Option.some.inj (hb.symm.trans hb')
    simp only [scanBody, hindex, lineTest_eq before hbeq, blockTest_eq]
    rw [if_neg (by simp [startsLineComment]), if_pos (by rfl), blockCommentEnd_eq, hclose]
    rfl
  · obtain ⟨b', hb', hbeq⟩ := head_byte d r
    obtain rfl : b = b' := Option.some.inj (hb.symm.trans hb')
    have hclose' : closeQuote true d r = none := hclose
    obtain rfl : b = d.toUInt8 := by
      simpa using hbeq d (isAscii_of_isQuote hd)
    simp only [scanBody, hindex, lineTest_eq before hbeq, blockTest_eq, isQuoteByte_eq hbeq]
    rw [startsLineComment_of_isQuote hd, startsBlockComment_of_isQuote hd, hd]
    simp only [Bool.false_eq_true, if_false, if_true]
    have hticks : (d.toUInt8 != '`'.toUInt8) = (d != '`') := by
      rw [bne, toUInt8_beq (isAscii_of_isQuote hd) (by decide)]
      rfl
    rw [quotedSpan_eq hd, spanOf, hclose', ScanState.conclude, if_pos hd, hindex,
      oddBackslashRunBefore_eq, hticks]
    rfl

/-! ## The whole scan -/

theorem token_index (before : Text) (st : ScanState) (t : Token) :
    (st.token before t).index = st.index + byteLen t.chars := by
  unfold ScanState.token
  split
  · next ht =>
    rw [beq_iff_eq] at ht
    subst ht
    unfold ScanState.terminate
    have hsize : byteLen Token.terminator.chars = 1 := by decide
    rw [hsize]
    split <;> rfl
  · rfl

theorem scanLoop_eq (fuel : Nat) (before s : Text) (st : ScanState)
    (hindex : st.index = byteLen before) (hfuel : s.length < fuel) :
    scanLoop (before ++ s) fuel st =
      some ((scanTokens before st (lex scannerRule s).1).conclude
        (before ++ (lex scannerRule s).1.flatMap Token.chars) (lex scannerRule s).2) := by
  induction s using lex_induction scannerRule generalizing before st fuel with
  | stop s hone =>
      obtain ⟨fuel, rfl⟩ : ∃ n, fuel = n + 1 := ⟨fuel - 1, by omega⟩
      rw [lex_of_none hone, scanLoop, hindex, getElem?_bytes_zero]
      cases s with
      | nil => simp [scanTokens, ScanState.conclude]
      | cons c s =>
          obtain ⟨b, hb, -⟩ := head_byte c s
          simp only [hb, scanBody_unterminated hone hindex hb]
          simp [scanTokens]
  | token s t rest hone ih =>
      obtain ⟨fuel, rfl⟩ : ∃ n, fuel = n + 1 := ⟨fuel - 1, by omega⟩
      rw [lex_of_some hone, scanLoop, hindex, getElem?_bytes_zero]
      have hs := lexOne_eq_append hone
      obtain ⟨b, hb⟩ : ∃ b, (bytes s)[0]? = some b := by
        cases s with
        | nil => cases hone
        | cons c s =>
            obtain ⟨b, hb, -⟩ := head_byte c s
            exact ⟨b, hb⟩
      have hlt := lexOne_length_lt hone
      have hnext := ih fuel (before ++ t.chars) (st.token before t)
        (by rw [token_index, hindex, byteLen_append]) (by omega)
      rw [List.append_assoc, ← hs] at hnext
      simp only [hb, scanBody_token hone hindex hb, hnext]
      simp [scanTokens]

theorem scanMysql_eq_scanLex (text : Text) : scanMysql text = some (scanLex text) := by
  have hfuel : text.length < byteLen text + 1 := Nat.lt_succ_of_le (length_le_byteLen text)
  have hloop := scanLoop_eq (byteLen text + 1) [] text {} rfl hfuel
  rwa [List.nil_append, List.nil_append] at hloop

end Dbotter.Execution
