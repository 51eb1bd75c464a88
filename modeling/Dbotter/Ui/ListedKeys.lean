import Dbotter.Drivers.RedisScanning
import Dbotter.Ui.ScanContinuation

/-!
What the Redis explorer lists, against the keys of the server.

The scan of an explorer is always that of its latest cycle, however the cycle was read: across
edits, refreshes, retries and answers that come too late.
-/

namespace Dbotter.Ui
open Dbotter.Utf8 Dbotter.Glob Dbotter.Service Dbotter.Drivers
open Dbotter.Drivers.RedisScanAccumulator

/-- The filter asks for the key. -/
def Selects (filter : RedisKeyFilter) (key : List UInt8) : Prop :=
  match filter with
  | .literalPrefix literal => bytes literal <+: key
  | .glob pattern => stringMatches (bytes pattern) key = true

theorem stringMatches_iff {filter : RedisKeyFilter} {pattern : Text}
    (h : filter.matchPattern = .ok pattern) (key : List UInt8) :
    stringMatches (bytes pattern) key = true ↔ Selects filter key := by
  unfold RedisKeyFilter.matchPattern at h
  cases hvalid : filter.validate with
  | error e =>
    rw [hvalid] at h
    cases h
  | ok _ =>
    rw [hvalid] at h
    cases filter with
    | glob pattern =>
      cases h
      rfl
    | literalPrefix literal =>
      cases h
      rw [bytes_append]
      exact (spells_escapeLiteral literal).matches_star key

namespace ScanRecord

/-- The scan has been given the pages of its cycle. -/
def Given (scan : RedisScanAccumulator) (pages : List RedisKeyPage) : Prop :=
  ∃ filter calls, scan = runCalls filter calls ∧ appliedPages calls = pages

theorem Given.call {scan : RedisScanAccumulator} {pages : List RedisKeyPage}
    (h : Given scan pages) (call : ScanCall) : Given (scan.call call) (callPages pages call) := by
  obtain ⟨filter, calls, rfl, rfl⟩ := h
  refine ⟨filter, calls ++ [call], ?_, ?_⟩
  · rw [runCalls, runCalls, List.foldl_append]
    rfl
  · rw [appliedPages, appliedPages, List.foldl_append]
    rfl

theorem takePage_given {explorer : RedisExplorer} {cycle : Cycle}
    (h : Given explorer.scan cycle.pages) (applied : AppliedPage) :
    Given (explorer.takePage applied.pending applied.page).scan
      (continueCycle cycle applied).pages := by
  cases hrestart : applied.pending.restart with
  | true =>
    have hgiven := (h.call (.restart applied.pending.filter)).call (.applyPage applied.page)
    simpa [RedisExplorer.takePage, continueCycle, hrestart, call, callPages] using hgiven
  | false =>
    have hgiven := h.call (.applyPage applied.page)
    simpa [RedisExplorer.takePage, continueCycle, hrestart, call, callPages] using hgiven

theorem step_given {r : ScanRecord} (h : Given r.panel.explorer.scan r.cycle.pages)
    (move : ScanMove) :
    Given (r.step move).panel.explorer.scan (r.step move).cycle.pages := by
  cases move with
  | hear event =>
    rcases r.panel.explorer.handleEvent_scan_cases event with ⟨applied, hsome, heq⟩ | ⟨hnone, hstays⟩
    · have htaken := takePage_given h applied
      simpa only [step, cycle, heq, hsome, Option.toList_some, cycleOf_concat] using htaken
    · simp only [step, cycle, hnone, Option.toList_none, List.append_nil]
      rcases hstays with hsame | hstale
      · rw [hsame]
        exact h
      · rw [hstale]
        exact h.call .markStale
  | _ => exact h

theorem run_given (key : WorkspaceKey) (moves : List ScanMove) :
    Given (run key moves).panel.explorer.scan (run key moves).cycle.pages := by
  induction moves using List.reverseRecOn with
  | nil => exact ⟨.literalPrefix [], [], rfl, rfl⟩
  | append_singleton moves move ih =>
    rw [run, List.foldl_append]
    exact step_given ih move

/-! ## The keys of the server -/

/-- What the explorer shows of the keys that its filter asks for, after the pages `served`. -/
structure Lists (scan : RedisScanAccumulator) (filter : RedisKeyFilter)
    (present : Nat → List UInt8 → Prop) (served : List ServedPage) : Prop where
  complete : scan.isComplete = true
  distinct : scan.keys.Nodup
  /-- Nothing else is listed. -/
  sound : ∀ key ∈ scan.keys, Selects filter key.id ∧ ∃ s ∈ served, present s.time key.id
  /-- Nothing is missing that was there from the first page to the last. -/
  whole : scan.truncated = false → ∀ key, Selects filter key →
    (∀ a ∈ served, ∀ b ∈ served, ∀ t, a.time ≤ t → t ≤ b.time → present t key) →
      ⟨key⟩ ∈ scan.keys

/-- **The explorer lists the keys.** In every run of an explorer, a cycle whose pages came from
the server under one filter, each with the cursor of the one before, up to cursor 0, is listed as
it is documented for SCAN. -/
theorem explorer_lists {φ : Type} {answer : Nat → (command : RedisCommand) → RedisAnswer φ command}
    {present : Nat → List UInt8 → Prop} (hserver : ScanDocumented answer present)
    (key : WorkspaceKey) (moves : List ScanMove) {filter : RedisKeyFilter}
    {served : List ServedPage}
    (hserved : Iteration (Served answer filter) (·.page.nextCursor) (·.time) 0 served)
    (hcycle : (run key moves).cycle.pages = served.map (·.page)) :
    Lists (run key moves).panel.explorer.scan filter present served := by
  obtain ⟨last, hlast, hzero⟩ := hserved.last_next
  have hpattern : ∃ pattern, filter.matchPattern = .ok pattern := by
    obtain ⟨cursor, rfl, -, hrun⟩ := hserved.step_of_mem (List.mem_of_getLast? hlast)
    obtain ⟨pattern, _, _, hpattern, -⟩ := scanKeys_meets _ _ _ hrun
    exact ⟨pattern, hpattern⟩
  obtain ⟨pattern, hpattern⟩ := hpattern
  obtain ⟨first, calls, hscan, hpages⟩ := run_given key moves
  obtain ⟨hsound, hwhole⟩ := listed_exact hserver hpattern hserved first (hpages.trans hcycle)
  rw [← hscan] at hsound hwhole
  refine ⟨?_, ?_, fun k hk => ?_, fun hclean k hk hpresent => ?_⟩
  · rw [isComplete_iff (run_holds key moves)]
    have hlatest := cycleOf_getLast (run key moves).applied
    have hcycle' : (cycleOf (run key moves).applied).pages = served.map (·.page) := hcycle
    rw [hcycle', List.getLast?_map, hlast, Option.map_some] at hlatest
    cases happlied : (run key moves).applied.getLast? with
    | none =>
      rw [happlied] at hlatest
      cases hlatest
    | some applied =>
      rw [happlied, Option.map_some, Option.some_inj] at hlatest
      exact ⟨applied, rfl, hlatest ▸ hzero⟩
  · rw [hscan]
    exact (runCalls_accumulated first calls).distinct
  · exact ⟨(stringMatches_iff hpattern _).1 (hsound k hk).1, (hsound k hk).2⟩
  · exact hwhole hclean k ((stringMatches_iff hpattern _).2 hk) hpresent

/-! ## A server of two pages -/

def pageKeys (cursor : Nat) : List (List UInt8) :=
  if cursor = 0 then [bytes "a:1".toList, bytes "b".toList] else [bytes "a:2".toList]

def twoPages : (command : RedisCommand) → RedisAnswer Empty command
  | .scan cursor pattern _ =>
    .ok (if cursor = 0 then 7 else 0, (pageKeys cursor).filter (stringMatches pattern))
  | _ => .error .timedOut

theorem twoPages_documented : ScanDocumented (fun _ => twoPages)
    (fun _ key => key ∈ pageKeys 0 ∨ key ∈ pageKeys 7) where
  reported := by
    rintro pattern cursor ⟨time, nextCursor, keys⟩ ⟨_, h⟩ key hkey
    cases h
    obtain ⟨hmem, hmatches⟩ := List.mem_filter.1 hkey
    refine ⟨?_, hmatches⟩
    by_cases hzero : cursor = 0
    · subst hzero
      exact .inl hmem
    · rw [pageKeys, if_neg hzero] at hmem
      exact .inr hmem
  complete := by
    intro pattern replies h key hmatches hpresent
    -- the first page goes on at cursor 7, and the second one is the last
    cases h with
    | @last _ first h hzero =>
      obtain ⟨_, nextCursor, _⟩ := first
      obtain ⟨_, h⟩ := h
      cases h
      cases hzero
    | @more _ first rest h hmore hlater hrest =>
      obtain ⟨time, nextCursor, keys⟩ := first
      obtain ⟨_, h⟩ := h
      cases h
      obtain ⟨second, hsecond, hkeys⟩ : ∃ second ∈ rest, second.keys =
          (pageKeys 7).filter (stringMatches pattern) := by
        cases hrest with
        | @last _ second h _ | @more _ second _ h _ _ _ =>
          obtain ⟨_, nextCursor, keys⟩ := second
          obtain ⟨_, h⟩ := h
          cases h
          exact ⟨_, List.mem_cons_self, rfl⟩
      rcases hpresent _ List.mem_cons_self _ List.mem_cons_self time le_rfl le_rfl with hmem | hmem
      · exact ⟨_, List.mem_cons_self, List.mem_filter.2 ⟨hmem, hmatches⟩⟩
      · exact ⟨second, List.mem_cons_of_mem _ hsecond, by
          rw [hkeys]
          exact List.mem_filter.2 ⟨hmem, hmatches⟩⟩

def prefixScan (operationId : OperationId) (cursor : Nat) : RedisScanRequest :=
  ⟨⟨"p".toList, 1, operationId⟩, .literalPrefix "a:".toList, cursor, 100, seconds 5⟩

def prefixPage (operationId : OperationId) (cursor nextCursor : Nat) (key : Text) : ServedPage :=
  ⟨prefixScan operationId cursor, operationId, scannedPage (prefixScan operationId cursor) nextCursor
    [bytes key]⟩

/-- The prefix is typed, refreshed and followed to the end. -/
def prefixMoves : List ScanMove :=
  [.edit "a:".toList .literalPrefix,
    .beginScan 1 (.literalPrefix "a:".toList) 0 true,
    .hear (.redisKeysLoaded (prefixPage 1 0 7 "a:1".toList).page 1 .keep),
    .beginScan 2 (.literalPrefix "a:".toList) 7 false,
    .hear (.redisKeysLoaded (prefixPage 2 7 0 "a:2".toList).page 1 .keep)]

theorem explorer_lists_prefix :
    Lists (run ⟨"p".toList, 1⟩ prefixMoves).panel.explorer.scan (.literalPrefix "a:".toList)
      (fun _ key => key ∈ pageKeys 0 ∨ key ∈ pageKeys 7)
      [prefixPage 1 0 7 "a:1".toList, prefixPage 2 7 0 "a:2".toList] := by
  apply explorer_lists twoPages_documented
  · apply Iteration.more ⟨rfl, rfl, by decide +kernel⟩ (by decide) (by decide)
    exact .last ⟨rfl, rfl, by decide +kernel⟩ rfl
  · decide +kernel

end ScanRecord

end Dbotter.Ui
