import Dbotter.Ui.App

/-!
Continuing a Redis scan.

A SCAN cycle is read page by page. `load_more_intent` offers the next page, and this module
compares what it offers with the pages that have been applied: a page of the cycle may be empty,
repeat keys or hold keys that are too large to keep.
-/

namespace Dbotter.Drivers.RedisScanAccumulator
open Dbotter.Service

/-! ## What is kept of a page -/

/-- The identities `seen` are those of the keys, and nothing is charged without a key. -/
structure Sound (scan : RedisScanAccumulator) : Prop where
  seen : ∀ id, id ∈ scan.seen ↔ id ∈ scan.keys.map (·.id)
  free : scan.keys = [] → scan.retainedBytes = 0

/-- Every key of the list is kept or the scan says that it is truncated. -/
def Covers (scan : RedisScanAccumulator) (keys : List RedisKeyEntry) : Prop :=
  ∀ key ∈ keys, key.id ∈ scan.keys.map (·.id) ∨ scan.truncated = true

def AllOversize (keys : List RedisKeyEntry) : Prop :=
  ∀ key ∈ keys, maxRedisKeyBytes < key.id.length

instance (keys : List RedisKeyEntry) : Decidable (AllOversize keys) :=
  inferInstanceAs (Decidable (∀ key ∈ keys, _))

variable {scan : RedisScanAccumulator}

/-- The first key that is not too large is kept. -/
theorem applyKey_keys_nil (h : scan.Sound) (key : RedisKeyEntry) :
    (scan.applyKey key).keys = [] ↔ scan.keys = [] ∧ maxRedisKeyBytes < key.id.length := by
  by_cases hlarge : key.id.length > maxRedisKeyBytes
  · simp [applyKey, hlarge]
  · by_cases hseen : key.id ∈ scan.seen
    · have hmem := (h.seen key.id).1 hseen
      have hkeys : scan.keys ≠ [] := by
        rintro hnil
        simp [hnil] at hmem
      simp [applyKey, hlarge, hseen, hkeys]
    · by_cases hkeys : scan.keys = []
      · have hbytes := h.free hkeys
        have hbudget : ¬saturatingAdd 0 key.id.length > maxRedisRetainedKeyBytes := by
          simp only [saturatingAdd, maxRedisRetainedKeyBytes, maxRedisKeyBytes, usizeMax] at *
          omega
        have hroom : maxRedisKeys ≠ 0 := by decide
        simp [applyKey, hlarge, hseen, hkeys, hbytes, hbudget, hroom]
      · simp only [applyKey, hlarge, hseen, if_false, hkeys, false_and, iff_false]
        split <;> simp [hkeys]

theorem Sound.applyKey (h : scan.Sound) (key : RedisKeyEntry) : (scan.applyKey key).Sound := by
  unfold RedisScanAccumulator.applyKey
  split
  · exact ⟨h.seen, h.free⟩
  · split
    · exact h
    · simp only
      split
      · exact ⟨h.seen, h.free⟩
      · refine ⟨fun id => ?_, fun hnil => ?_⟩
        · simp only [Finset.mem_insert, List.map_append, List.mem_append, List.map_cons,
            List.map_nil, List.mem_singleton, h.seen id]
          exact Or.comm
        · simp at hnil

theorem covers_applyKey (h : scan.Sound) (key : RedisKeyEntry) :
    (scan.applyKey key).Covers [key] := by
  intro key' hkey'
  rw [List.mem_singleton] at hkey'
  subst hkey'
  unfold RedisScanAccumulator.applyKey
  split
  · exact .inr rfl
  · split
    · rename_i hseen
      exact .inl ((h.seen _).1 hseen)
    · simp only
      split
      · exact .inr rfl
      · simp

theorem Covers.applyKey {keys : List RedisKeyEntry} (h : scan.Covers keys) (key : RedisKeyEntry) :
    (scan.applyKey key).Covers keys := by
  intro key' hkey'
  have hbefore := h key' hkey'
  unfold RedisScanAccumulator.applyKey
  split
  · exact .inr rfl
  · split
    · exact hbefore
    · simp only
      split
      · exact .inr rfl
      · rcases hbefore with hkept | htruncated
        · exact .inl (by simp only [List.map_append, List.mem_append, hkept, true_or])
        · exact .inr htruncated

/-- The parts of the accumulator that only a page changes. -/
theorem applyKey_page (scan : RedisScanAccumulator) (key : RedisKeyEntry) :
    (scan.applyKey key).filter = scan.filter ∧ (scan.applyKey key).requested = scan.requested ∧
      (scan.applyKey key).nextCursor = scan.nextCursor := by
  unfold RedisScanAccumulator.applyKey
  split
  · exact ⟨rfl, rfl, rfl⟩
  · split
    · exact ⟨rfl, rfl, rfl⟩
    · simp only
      split <;> exact ⟨rfl, rfl, rfl⟩

theorem foldl_applyKey (keys : List RedisKeyEntry) (h : scan.Sound) :
    (keys.foldl RedisScanAccumulator.applyKey scan).Sound ∧
      ((keys.foldl RedisScanAccumulator.applyKey scan).keys = [] ↔
        scan.keys = [] ∧ AllOversize keys) ∧
      (keys.foldl RedisScanAccumulator.applyKey scan).Covers keys ∧
      ∀ before, scan.Covers before →
        (keys.foldl RedisScanAccumulator.applyKey scan).Covers before := by
  induction keys generalizing scan with
  | nil => exact ⟨h, by simp [AllOversize], nofun, fun _ hbefore => hbefore⟩
  | cons key keys ih =>
    obtain ⟨hsound, hnil, hcovers, hkeeps⟩ := ih (h.applyKey key)
    refine ⟨hsound, ?_, ?_, fun before hbefore => hkeeps before (hbefore.applyKey key)⟩
    · rw [List.foldl_cons, hnil, applyKey_keys_nil h]
      simp only [AllOversize, List.forall_mem_cons, and_assoc]
    · intro key' hkey'
      rcases List.mem_cons.1 hkey' with rfl | hmem
      · exact hkeeps [key'] (covers_applyKey h key') key' (List.mem_singleton_self _)
      · exact hcovers key' hmem

theorem foldl_applyKey_page (scan : RedisScanAccumulator) (keys : List RedisKeyEntry) :
    (keys.foldl RedisScanAccumulator.applyKey scan).filter = scan.filter ∧
      (keys.foldl RedisScanAccumulator.applyKey scan).requested = scan.requested ∧
      (keys.foldl RedisScanAccumulator.applyKey scan).nextCursor = scan.nextCursor := by
  induction keys generalizing scan with
  | nil => exact ⟨rfl, rfl, rfl⟩
  | cons key keys ih =>
    obtain ⟨hfilter, hrequested, hcursor⟩ := applyKey_page scan key
    obtain ⟨hfilter', hrequested', hcursor'⟩ := ih (scan.applyKey key)
    exact ⟨hfilter'.trans hfilter, hrequested'.trans hrequested, hcursor'.trans hcursor⟩

/-! ## Cycles -/

/-- The pages of one SCAN cycle and the filter it was begun with. -/
structure Cycle where
  filter : RedisKeyFilter
  pages : List RedisKeyPage
  deriving DecidableEq

/-- The accumulator holds the pages of the cycle, and no others. -/
structure Holds (scan : RedisScanAccumulator) (cycle : Cycle) : Prop where
  sound : scan.Sound
  filter : scan.filter = cycle.filter
  requested : scan.requested = !cycle.pages.isEmpty
  cursor : ∀ page ∈ cycle.pages.getLast?, scan.nextCursor = page.nextCursor
  empty : scan.keys = [] ↔ ∀ page ∈ cycle.pages, AllOversize page.keys
  covers : ∀ page ∈ cycle.pages, scan.Covers page.keys

theorem holds_new (filter : RedisKeyFilter) :
    ({ filter } : RedisScanAccumulator).Holds ⟨filter, []⟩ where
  sound := ⟨by simp, by simp⟩
  filter := rfl
  requested := rfl
  cursor := nofun
  empty := by simp
  covers := nofun

theorem Holds.markStale {cycle : Cycle} (h : scan.Holds cycle) : scan.markStale.Holds cycle where
  sound := ⟨h.sound.seen, h.sound.free⟩
  filter := h.filter
  requested := h.requested
  cursor := h.cursor
  empty := h.empty
  covers := h.covers

theorem Holds.applyPage {cycle : Cycle} (h : scan.Holds cycle) (page : RedisKeyPage) :
    (scan.applyPage page).Holds { cycle with pages := cycle.pages ++ [page] } := by
  unfold RedisScanAccumulator.applyPage
  set opened : RedisScanAccumulator := { scan with
    requested := true
    nextCursor := page.nextCursor
    skippedOversize := saturatingAdd scan.skippedOversize page.skippedOversize
    truncated := scan.truncated || page.truncated || page.skippedOversize > 0
    stale := scan.stale || page.stale } with hopened
  have hsound : opened.Sound := ⟨h.sound.seen, h.sound.free⟩
  obtain ⟨hkeys, hnil, hcovers, hkeeps⟩ := foldl_applyKey page.keys hsound
  obtain ⟨hfilter, hrequested, hcursor⟩ := foldl_applyKey_page opened page.keys
  have hbefore : ∀ earlier ∈ cycle.pages, opened.Covers earlier.keys := by
    intro earlier hearlier key hkey
    rcases h.covers earlier hearlier key hkey with hkept | htruncated
    · exact .inl hkept
    · exact .inr (by simp [hopened, htruncated])
  refine ⟨hkeys, hfilter.trans h.filter, ?_, ?_, ?_, ?_⟩
  · have hpages : (cycle.pages ++ [page]).isEmpty = false := by simp
    rw [hpages]
    exact hrequested
  · intro last hlast
    rw [List.getLast?_concat, Option.mem_some] at hlast
    rw [hcursor, ← hlast]
  · rw [hnil]
    have hopen : opened.keys = [] ↔ scan.keys = [] := Iff.rfl
    rw [hopen, h.empty]
    simp only [List.mem_append, List.mem_singleton, or_imp, forall_and, forall_eq]
  · intro earlier hearlier
    rcases List.mem_append.1 hearlier with hearlier | hearlier
    · exact hkeeps _ (hbefore earlier hearlier)
    · rw [List.mem_singleton] at hearlier
      subst hearlier
      exact hcovers

end Dbotter.Drivers.RedisScanAccumulator

namespace Dbotter.Ui
open Dbotter.Utf8 Dbotter.Service Dbotter.Drivers
open Dbotter.Drivers.RedisScanAccumulator

/-! ## The offer -/

inductive FilterMode
  | literalPrefix
  | glob
  deriving DecidableEq, Repr

/-- The explorer with what its filter field holds. -/
structure RedisPanel where
  explorer : RedisExplorer
  filterText : Text := []
  filterMode : FilterMode := .literalPrefix
  deriving DecidableEq

namespace RedisPanel

def currentFilter (panel : RedisPanel) : RedisKeyFilter :=
  match panel.filterMode with
  | .literalPrefix => .literalPrefix panel.filterText
  | .glob => .glob panel.filterText

def pageFilterMatchesDraft (panel : RedisPanel) : Bool :=
  panel.explorer.scan.filter = panel.currentFilter

def loadMoreIntent (panel : RedisPanel) : Option DbotterApp.RedisExplorerIntent :=
  if panel.explorer.pendingScan.isNone && !panel.explorer.scan.isComplete &&
      !panel.explorer.scan.keys.isEmpty && panel.pageFilterMatchesDraft then
    some (.scan panel.explorer.scan.filter panel.explorer.scan.nextCursor false)
  else none

end RedisPanel

/-! ## Runs of one explorer -/

/-- A page that was applied, with the scan it answers. -/
structure AppliedPage where
  pending : PendingScan
  page : RedisKeyPage
  deriving DecidableEq

/-- The panel and the pages that have been applied, the latest last. -/
structure ScanRecord where
  panel : RedisPanel
  applied : List AppliedPage := []

/-- A frame may edit the filter; `Refresh`, `Load more` and a retry begin a scan. -/
inductive ScanMove
  | edit (filterText : Text) (filterMode : FilterMode)
  | beginScan (operationId : OperationId) (filter : RedisKeyFilter) (cursor : Nat)
    (restart : Bool)
  | beginInspect (operationId : OperationId) (key : List UInt8)
  | cancelSubmitted (operationId : OperationId)
  | dismissErrors
  | hear (event : UiEvent)

/-- The page of an event that answers the pending scan. -/
def RedisExplorer.answeredBy (explorer : RedisExplorer) : UiEvent → Option AppliedPage
  | .redisKeysLoaded page _ _ =>
    match explorer.pendingScan with
    | some pending =>
      if explorer.profile = some (workspaceKey page.identity) ∧
          pending.operationId = page.identity.operationId then some ⟨pending, page⟩
      else none
    | none => none
  | _ => none

namespace ScanRecord

def step (r : ScanRecord) : ScanMove → ScanRecord
  | .edit filterText filterMode => { r with panel := { r.panel with filterText, filterMode } }
  | .beginScan operationId filter cursor restart =>
    { r with panel.explorer := r.panel.explorer.beginScan operationId filter cursor restart }
  | .beginInspect operationId key =>
    { r with panel.explorer := r.panel.explorer.beginInspect operationId key }
  | .cancelSubmitted operationId =>
    { r with panel.explorer := r.panel.explorer.cancelSubmitted operationId }
  | .dismissErrors => { r with panel.explorer := r.panel.explorer.dismissErrors }
  | .hear event =>
    { panel := { r.panel with explorer := r.panel.explorer.handleEvent event }
      applied := r.applied ++ (r.panel.explorer.answeredBy event).toList }

/-- The explorer of a workspace when it is created. -/
def opened (key : WorkspaceKey) : ScanRecord := { panel := { explorer := { profile := some key } } }

def run (key : WorkspaceKey) (moves : List ScanMove) : ScanRecord := moves.foldl step (opened key)

end ScanRecord

/-- An applied page opens a cycle or continues the one that is there. -/
def continueCycle (cycle : Cycle) (applied : AppliedPage) : Cycle :=
  if applied.pending.restart then ⟨applied.pending.filter, [applied.page]⟩
  else { cycle with pages := cycle.pages ++ [applied.page] }

/-- The cycle of the pages that have been applied. A new explorer has the empty prefix. -/
def cycleOf (applied : List AppliedPage) : Cycle :=
  applied.foldl continueCycle ⟨.literalPrefix [], []⟩

theorem cycleOf_concat (applied : List AppliedPage) (latest : AppliedPage) :
    cycleOf (applied ++ [latest]) = continueCycle (cycleOf applied) latest := by
  simp [cycleOf]

/-- The latest page that was applied is the last of its cycle. -/
theorem cycleOf_getLast (applied : List AppliedPage) :
    (cycleOf applied).pages.getLast? = applied.getLast?.map (·.page) := by
  induction applied using List.reverseRecOn with
  | nil => rfl
  | append_singleton applied latest _ =>
    rw [cycleOf_concat, continueCycle]
    split <;> simp

/-! ## The pages that a scan holds -/

theorem RedisExplorer.takePage_holds {explorer : RedisExplorer} {cycle : Cycle}
    (h : explorer.scan.Holds cycle) (pending : PendingScan) (page : RedisKeyPage) :
    (explorer.takePage pending page).scan.Holds (continueCycle cycle ⟨pending, page⟩) := by
  cases hrestart : pending.restart with
  | true =>
    have hfirst : ((explorer.scan.restart pending.filter).applyPage page).Holds
        ⟨pending.filter, [page]⟩ := (holds_new pending.filter).applyPage page
    simpa [RedisExplorer.takePage, continueCycle, hrestart] using hfirst
  | false => simpa [RedisExplorer.takePage, continueCycle, hrestart] using h.applyPage page

/-- An event applies the page that answers the scan, and otherwise the scan stays or turns
stale. -/
theorem RedisExplorer.handleEvent_scan_cases (explorer : RedisExplorer) (event : UiEvent) :
    (∃ applied, explorer.answeredBy event = some applied ∧
        explorer.handleEvent event = explorer.takePage applied.pending applied.page) ∨
      explorer.answeredBy event = none ∧
        ((explorer.handleEvent event).scan = explorer.scan ∨
          (explorer.handleEvent event).scan = explorer.scan.markStale) := by
  cases event with
  | redisKeysLoaded page session disposition =>
    cases hpending : explorer.pendingScan with
    | none => exact .inr ⟨by simp [answeredBy, hpending], .inl (by simp [handleEvent, hpending])⟩
    | some pending =>
      by_cases hmatch : explorer.profile = some (workspaceKey page.identity) ∧
          pending.operationId = page.identity.operationId
      · exact .inl ⟨⟨pending, page⟩, by simp [answeredBy, hpending, hmatch],
          by simp [handleEvent, hpending, hmatch]⟩
      · exact .inr ⟨by simp [answeredBy, hpending, hmatch],
          .inl (by simp [handleEvent, hpending, hmatch])⟩
  | redisKeysFailed request error session disposition outcome =>
    refine .inr ⟨rfl, ?_⟩
    simp only [handleEvent]
    split
    · split
      · exact .inr rfl
      · exact .inl rfl
    · exact .inl rfl
  | redisKeyInspected preview session disposition =>
    refine .inr ⟨rfl, .inl ?_⟩
    simp only [handleEvent]
    split
    · split <;> rfl
    · rfl
  | redisKeyInspectFailed request error session disposition outcome =>
    refine .inr ⟨rfl, .inl ?_⟩
    simp only [handleEvent]
    split
    · split <;> rfl
    · rfl
  | configUncertain operationId => exact .inr ⟨rfl, .inr rfl⟩
  | _ => exact .inr ⟨rfl, .inl rfl⟩

namespace ScanRecord

def cycle (r : ScanRecord) : Cycle := cycleOf r.applied

/-- What one move does to the pages that are held. -/
theorem step_holds {r : ScanRecord} (h : r.panel.explorer.scan.Holds r.cycle) (move : ScanMove) :
    (r.step move).panel.explorer.scan.Holds (r.step move).cycle := by
  cases move with
  | hear event =>
    rcases r.panel.explorer.handleEvent_scan_cases event with ⟨applied, hsome, heq⟩ | ⟨hnone, hscan⟩
    · have htaken := RedisExplorer.takePage_holds h applied.pending applied.page
      simpa only [step, cycle, heq, hsome, Option.toList_some, cycleOf_concat] using htaken
    · simp only [step, cycle, hnone, Option.toList_none, List.append_nil]
      rcases hscan with hsame | hstale
      · rw [hsame]
        exact h
      · rw [hstale]
        exact h.markStale
  | _ => exact h

theorem run_holds (key : WorkspaceKey) (moves : List ScanMove) :
    (run key moves).panel.explorer.scan.Holds (run key moves).cycle := by
  induction moves using List.reverseRecOn with
  | nil => exact holds_new _
  | append_singleton moves move ih =>
    rw [run, List.foldl_append]
    exact step_holds ih move

/-! ## Continuing -/

/-- The scan rests after this page: the server has more, nothing is pending, and the filter
field holds the filter that the page was asked with. -/
structure Rests (r : ScanRecord) (latest : AppliedPage) : Prop where
  applied : r.applied.getLast? = some latest
  more : latest.page.nextCursor ≠ 0
  idle : r.panel.explorer.pendingScan = none
  unchanged : r.panel.currentFilter = latest.pending.filter

def Offers (r : ScanRecord) (latest : AppliedPage) : Prop :=
  r.panel.loadMoreIntent =
    some (.scan latest.pending.filter latest.page.nextCursor false)

/-- The page was asked with the filter of its cycle, and some page of the cycle has a key that
is not too large. -/
def Continuable (r : ScanRecord) (latest : AppliedPage) : Prop :=
  r.cycle.filter = latest.pending.filter ∧ ∃ page ∈ r.cycle.pages, ¬AllOversize page.keys

/-- What is offered, in terms of the cycle that is held. -/
theorem loadMoreIntent_holds {panel : RedisPanel} {cycle : Cycle} {latest : RedisKeyPage}
    (h : panel.explorer.scan.Holds cycle) (hlatest : cycle.pages.getLast? = some latest)
    (hidle : panel.explorer.pendingScan = none) :
    panel.loadMoreIntent =
      if latest.nextCursor ≠ 0 ∧ (∃ page ∈ cycle.pages, ¬AllOversize page.keys) ∧
          cycle.filter = panel.currentFilter then
        some (.scan cycle.filter latest.nextCursor false)
      else none := by
  have hcursor := h.cursor latest hlatest
  have hrequested : panel.explorer.scan.requested = true := by
    rw [h.requested]
    cases hpages : cycle.pages with
    | nil =>
      rw [hpages] at hlatest
      cases hlatest
    | cons page pages => rfl
  have hcomplete : panel.explorer.scan.isComplete = (latest.nextCursor == 0) := by
    rw [RedisScanAccumulator.isComplete, hrequested, hcursor, Bool.true_and]
  have hkeys : (!panel.explorer.scan.keys.isEmpty) =
      decide (∃ page ∈ cycle.pages, ¬AllOversize page.keys) := by
    rw [← Bool.coe_iff_coe]
    simpa using not_congr h.empty
  simp only [RedisPanel.loadMoreIntent, hidle, hcomplete, hkeys, hcursor, h.filter,
    RedisPanel.pageFilterMatchesDraft]
  by_cases hmore : latest.nextCursor = 0 <;> simp [hmore]

theorem offers_iff {r : ScanRecord} {latest : AppliedPage}
    (hholds : r.panel.explorer.scan.Holds r.cycle) (h : r.Rests latest) :
    r.Offers latest ↔ r.Continuable latest := by
  have hlatest : r.cycle.pages.getLast? = some latest.page := by
    rw [cycle, cycleOf_getLast, h.applied, Option.map_some]
  rw [Offers, loadMoreIntent_holds hholds hlatest h.idle, h.unchanged]
  constructor
  · intro hoffered
    split at hoffered
    · rename_i hall
      exact ⟨hall.2.2, hall.2.1⟩
    · cases hoffered
  · rintro ⟨hfilter, hsome⟩
    rw [if_pos ⟨h.more, hsome, hfilter⟩, hfilter]

theorem isComplete_iff {r : ScanRecord} (hholds : r.panel.explorer.scan.Holds r.cycle) :
    r.panel.explorer.scan.isComplete = true ↔
      ∃ latest ∈ r.applied.getLast?, latest.page.nextCursor = 0 := by
  have hlatest := cycleOf_getLast r.applied
  cases happlied : r.applied.getLast? with
  | none =>
    have hpages : r.cycle.pages = [] := by
      rw [happlied, Option.map_none, List.getLast?_eq_none_iff] at hlatest
      exact hlatest
    simp [RedisScanAccumulator.isComplete, hholds.requested, hpages]
  | some latest =>
    rw [happlied, Option.map_some] at hlatest
    have hcursor := hholds.cursor latest.page hlatest
    have hpages : r.cycle.pages.isEmpty = false := by
      rw [List.isEmpty_eq_false_iff]
      intro hnil
      rw [cycle] at hnil
      rw [hnil] at hlatest
      cases hlatest
    simp [RedisScanAccumulator.isComplete, hholds.requested, hpages, hcursor]

/-! ## Following the offers -/

/-- What the server answers to call `n`, under the identity of that call. -/
def answer (key : WorkspaceKey) (server : Nat → RedisKeyFilter → Nat → RedisKeyPage) (n : Nat)
    (filter : RedisKeyFilter) (cursor : Nat) : RedisKeyPage :=
  { server n filter cursor with identity := ⟨key.profileId, key.profileGeneration, n + 1⟩ }

/-- One scan is begun and answered. -/
def scanOnce (r : ScanRecord) (key : WorkspaceKey)
    (server : Nat → RedisKeyFilter → Nat → RedisKeyPage) (n : Nat) (filter : RedisKeyFilter)
    (cursor : Nat) (restart : Bool) : ScanRecord :=
  (r.step (.beginScan (n + 1) filter cursor restart)).step
    (.hear (.redisKeysLoaded (answer key server n filter cursor) 0 .keep))

/-- The filter is typed and refreshed, and then the offer is followed `n` times. -/
def followed (key : WorkspaceKey) (filterText : Text) (filterMode : FilterMode)
    (server : Nat → RedisKeyFilter → Nat → RedisKeyPage) : Nat → ScanRecord
  | 0 =>
    let typed := (opened key).step (.edit filterText filterMode)
    typed.scanOnce key server 0 typed.panel.currentFilter 0 true
  | n + 1 =>
    let r := followed key filterText filterMode server n
    match r.panel.loadMoreIntent with
    | some (.scan filter cursor restart) => r.scanOnce key server (n + 1) filter cursor restart
    | _ => r

/-- The pages of a full cycle, at most `n` after the first. -/
def cyclePages (key : WorkspaceKey) (server : Nat → RedisKeyFilter → Nat → RedisKeyPage)
    (filter : RedisKeyFilter) : Nat → List RedisKeyPage
  | 0 => [answer key server 0 filter 0]
  | n + 1 =>
    let pages := cyclePages key server filter n
    match pages.getLast? with
    | some latest =>
      if latest.nextCursor = 0 then pages
      else pages ++ [answer key server (n + 1) filter latest.nextCursor]
    | none => pages

variable {key : WorkspaceKey} {server : Nat → RedisKeyFilter → Nat → RedisKeyPage}

theorem cyclePages_ne_nil (key : WorkspaceKey)
    (server : Nat → RedisKeyFilter → Nat → RedisKeyPage) (filter : RedisKeyFilter) (n : Nat) :
    cyclePages key server filter n ≠ [] := by
  induction n with
  | zero => simp [cyclePages]
  | succ n ih =>
    simp only [cyclePages]
    split
    · split
      · exact ih
      · simp
    · exact ih

theorem first_mem_cyclePages (filter : RedisKeyFilter) (n : Nat) :
    answer key server 0 filter 0 ∈ cyclePages key server filter n := by
  induction n with
  | zero => exact List.mem_singleton_self _
  | succ n ih =>
    simp only [cyclePages]
    split
    · split
      · exact ih
      · exact List.mem_append_left _ ih
    · exact ih

/-- A cycle that is complete with its first page has no other. -/
theorem cyclePages_complete {filter : RedisKeyFilter}
    (hzero : (answer key server 0 filter 0).nextCursor = 0) (n : Nat) :
    cyclePages key server filter n = [answer key server 0 filter 0] := by
  induction n with
  | zero => rfl
  | succ n ih => simp [cyclePages, ih, hzero]

/-- The explorer of `key`, at rest, holds a cycle of the filter in its field. -/
structure Follows (r : ScanRecord) (key : WorkspaceKey) (filter : RedisKeyFilter)
    (pages : List RedisKeyPage) : Prop where
  profile : r.panel.explorer.profile = some key
  idle : r.panel.explorer.pendingScan = none
  draft : r.panel.currentFilter = filter
  cycle : r.cycle = ⟨filter, pages⟩
  holds : r.panel.explorer.scan.Holds r.cycle

theorem scanOnce_follows {r : ScanRecord} (hprofile : r.panel.explorer.profile = some key)
    (hholds : r.panel.explorer.scan.Holds r.cycle) (n : Nat) (filter : RedisKeyFilter)
    (cursor : Nat) (restart : Bool) (hdraft : r.panel.currentFilter = filter)
    (hcycle : restart = false → r.cycle.filter = filter) :
    (r.scanOnce key server n filter cursor restart).Follows key filter
      ((if restart then [] else r.cycle.pages) ++ [answer key server n filter cursor]) := by
  set pending : PendingScan := ⟨n + 1, filter, cursor, restart, false⟩ with hpending
  set page := answer key server n filter cursor with hpage
  have hanswered : (r.step (.beginScan (n + 1) filter cursor restart)).panel.explorer.answeredBy
      (.redisKeysLoaded page 0 .keep) = some ⟨pending, page⟩ := by
    simp [step, RedisExplorer.beginScan, RedisExplorer.answeredBy, hprofile, hpage, answer,
      workspaceKey, hpending]
  have htaken : (r.step (.beginScan (n + 1) filter cursor restart)).panel.explorer.handleEvent
      (.redisKeysLoaded page 0 .keep) =
        (r.panel.explorer.beginScan (n + 1) filter cursor restart).takePage pending page := by
    simp [step, RedisExplorer.beginScan, RedisExplorer.handleEvent, hprofile, hpage, answer,
      workspaceKey, hpending]
  refine ⟨?_, ?_, hdraft, ?_, step_holds (step_holds hholds _) _⟩
  · simp only [scanOnce, step, ← hpage] at htaken ⊢
    rw [htaken]
    cases restart <;> exact hprofile
  · simp only [scanOnce, step, ← hpage] at htaken ⊢
    rw [htaken]
    cases restart <;> rfl
  · simp only [scanOnce, step, ← hpage] at hanswered ⊢
    rw [cycle, hanswered, Option.toList_some, cycleOf_concat]
    cases restart with
    | true => rfl
    | false =>
      have hfilter := hcycle rfl
      simp only [continueCycle, hpending, Bool.false_eq_true, if_false]
      rw [← hfilter]
      rfl

theorem followed_zero (key : WorkspaceKey) (filterText : Text) (filterMode : FilterMode)
    (server : Nat → RedisKeyFilter → Nat → RedisKeyPage) :
    let filter := (followed key filterText filterMode server 0).panel.currentFilter
    (followed key filterText filterMode server 0).Follows key filter
      (cyclePages key server filter 0) :=
  scanOnce_follows rfl (holds_new _) 0 _ 0 true rfl nofun

/-- The offer after the pages of a cycle: the next one, once a key has been kept. -/
theorem Follows.loadMoreIntent {r : ScanRecord} {filter : RedisKeyFilter}
    {pages : List RedisKeyPage} {latest : RedisKeyPage} (h : r.Follows key filter pages)
    (hlatest : pages.getLast? = some latest) :
    r.panel.loadMoreIntent =
      if latest.nextCursor ≠ 0 ∧ ∃ page ∈ pages, ¬AllOversize page.keys then
        some (.scan filter latest.nextCursor false)
      else none := by
  have hholds := h.holds
  rw [h.cycle] at hholds
  rw [loadMoreIntent_holds hholds hlatest h.idle, h.draft]
  simp

/-- As long as the first page had a key to keep, the offers lead through the whole cycle. -/
theorem followed_follows (filterText : Text) (filterMode : FilterMode)
    (hfirst : let filter := (followed key filterText filterMode server 0).panel.currentFilter
      (answer key server 0 filter 0).nextCursor = 0 ∨
        ¬AllOversize (answer key server 0 filter 0).keys) (n : Nat) :
    let filter := (followed key filterText filterMode server 0).panel.currentFilter
    (followed key filterText filterMode server n).Follows key filter
      (cyclePages key server filter n) := by
  intro filter
  induction n with
  | zero => exact followed_zero key filterText filterMode server
  | succ n ih =>
    obtain ⟨latest, hlatest⟩ := Option.ne_none_iff_exists'.1 fun hnone =>
      cyclePages_ne_nil key server filter n (List.getLast?_eq_none_iff.1 hnone)
    have hintent := ih.loadMoreIntent hlatest
    by_cases hmore : latest.nextCursor = 0
    · have hnone : (followed key filterText filterMode server n).panel.loadMoreIntent = none := by
        rw [hintent, if_neg (by simp [hmore])]
      simpa only [followed, cyclePages, hnone, hlatest, hmore, if_true] using ih
    · have hsome : ∃ page ∈ cyclePages key server filter n, ¬AllOversize page.keys := by
        rcases hfirst with hzero | hkey
        · rw [cyclePages_complete hzero n, List.getLast?_singleton, Option.some_inj] at hlatest
          exact absurd (hlatest ▸ hzero) hmore
        · exact ⟨_, first_mem_cyclePages filter n, hkey⟩
      rw [if_pos ⟨hmore, hsome⟩] at hintent
      have hnext := @scanOnce_follows key server _ ih.profile ih.holds (n + 1) filter
        latest.nextCursor false ih.draft (fun _ => by rw [ih.cycle])
      simpa only [followed, cyclePages, hintent, hlatest, hmore, if_false, ih.cycle,
        Bool.false_eq_true] using hnext

/-- Where the first page had no key to keep, nothing follows it. -/
theorem followed_stops (filterText : Text) (filterMode : FilterMode)
    (hfirst : let filter := (followed key filterText filterMode server 0).panel.currentFilter
      AllOversize (answer key server 0 filter 0).keys) :
    followed key filterText filterMode server 1 = followed key filterText filterMode server 0 := by
  have h := followed_zero key filterText filterMode server
  have hintent := h.loadMoreIntent rfl
  rw [if_neg] at hintent
  · simp only [followed] at hintent ⊢
    rw [hintent]
  · rintro ⟨-, page, hpage, hkey⟩
    rw [cyclePages, List.mem_singleton] at hpage
    rw [hpage] at hkey
    exact hkey hfirst

/-- **Load more.** Where a scan rests, the next page is offered with the cursor and the filter
of the latest one if and only if that page was asked with the filter of its cycle and a page of
the cycle has a key to keep; completion is reported at cursor zero only, and every key of the
cycle is kept or reported as capped. Following the offers reads the whole cycle of every server
if and only if its first page completes the cycle or has a key to keep. -/
theorem load_more_offered (key : WorkspaceKey) :
    (∀ moves, let r := run key moves
      ((∀ latest, r.Rests latest → r.Offers latest) ↔
          ∀ latest, r.Rests latest → r.Continuable latest) ∧
        (r.panel.explorer.scan.isComplete = true ↔
          ∃ latest ∈ r.applied.getLast?, latest.page.nextCursor = 0) ∧
        ∀ page ∈ r.cycle.pages, r.panel.explorer.scan.Covers page.keys) ∧
      ∀ filterText filterMode server,
        let filter := (followed key filterText filterMode server 0).panel.currentFilter
        let first := answer key server 0 filter 0
        (∀ n, (followed key filterText filterMode server n).cycle.pages =
            cyclePages key server filter n) ↔
          first.nextCursor = 0 ∨ ¬AllOversize first.keys := by
  constructor
  · intro moves r
    have hholds : r.panel.explorer.scan.Holds r.cycle := run_holds key moves
    refine ⟨⟨?_, ?_⟩, isComplete_iff hholds, hholds.covers⟩
    · intro hoffers latest hrests
      exact (offers_iff hholds hrests).1 (hoffers latest hrests)
    · intro hcontinuable latest hrests
      exact (offers_iff hholds hrests).2 (hcontinuable latest hrests)
  · intro filterText filterMode server filter first
    constructor
    · intro hpages
      by_contra hstuck
      obtain ⟨hmore, hoversize⟩ := not_or.1 hstuck
      have hone := hpages 1
      rw [followed_stops filterText filterMode (not_not.1 hoversize), hpages 0] at hone
      have hlength := congrArg List.length hone
      simp [cyclePages, first, hmore] at hlength
    · intro hfirst n
      rw [(followed_follows filterText filterMode hfirst n).cycle]

/-- A filter is typed and refreshed, and the first page of the cycle has no key. -/
def emptyFirstPage : List ScanMove :=
  [.edit "p5:".toList .literalPrefix,
    .beginScan 1 (.literalPrefix "p5:".toList) 0 true,
    .hear (.redisKeysLoaded ⟨⟨"p".toList, 1, 1⟩, 41, [], 0, 0, 0, false, false⟩ 1 .keep)]

/-- The cursor is 41, the filter is the one typed, and nothing is offered. -/
theorem load_more_withheld :
    let r := run ⟨"p".toList, 1⟩ emptyFirstPage
    (∃ latest, r.Rests latest ∧ ¬r.Offers latest) ∧
      r.panel.explorer.scan.nextCursor = 41 ∧ r.panel.loadMoreIntent = none := by
  intro r
  have hnone : r.panel.loadMoreIntent = none := by rfl
  refine ⟨⟨⟨⟨1, .literalPrefix "p5:".toList, 0, true, false⟩,
    ⟨⟨"p".toList, 1, 1⟩, 41, [], 0, 0, 0, false, false⟩⟩, ?_, ?_⟩, rfl, hnone⟩
  · exact ⟨by decide +kernel, by decide, rfl, rfl⟩
  · rw [Offers, hnone]
    exact nofun

end ScanRecord

end Dbotter.Ui
