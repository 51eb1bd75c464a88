import Dbotter.Drivers.RedisDialogue
import Dbotter.Drivers.ScanAccumulation

/-!
The keys that the browser lists, against the keys that are there.

A page and the accumulator of the pages have a loop each, with the same caps. What a server
documents about SCAN is about a whole iteration, from cursor 0 until the cursor is 0 again: a key
that is there all the time is reported, and what is reported was there and matches the pattern.
-/

namespace Dbotter.Drivers
open Dbotter.Utf8 Dbotter.Service Dbotter.Glob
open Dbotter.Program (Dialogue)

/-! ## A page -/

/-- The page so far and a new accumulator that has been given the same keys. -/
structure Agrees (page : ScannedKeys) (scan : RedisScanAccumulator)
    (history : List RedisKeyEntry) : Prop where
  keys : page.keys = scan.keys
  bytes : page.retainedBytes = scan.retainedBytes
  skipped : page.skippedOversize = scan.skippedOversize
  truncated : page.truncated = scan.truncated
  accumulated : scan.Accumulated history
  /-- The page has also seen the keys that a cap refused. -/
  seen : ∀ raw, raw ∈ page.seen ↔ (⟨raw⟩ : RedisKeyEntry) ∈ history ∧
    raw.length ≤ maxRedisKeyBytes

variable {page : ScannedKeys} {scan : RedisScanAccumulator} {history : List RedisKeyEntry}

theorem mem_concat_entry {other raw : List UInt8} :
    (⟨other⟩ : RedisKeyEntry) ∈ history ++ [⟨raw⟩] ↔
      (⟨other⟩ : RedisKeyEntry) ∈ history ∨ other = raw := by
  simp

/-- A key that a cap has refused is refused again, and flags nothing new. -/
theorem applyKey_refused (h : scan.Accumulated history) {key : RedisKeyEntry}
    (hsmall : ¬ key.id.length > maxRedisKeyBytes) (hold : key ∈ history)
    (hdropped : key ∉ scan.keys) : scan.applyKey key = scan := by
  have htruncated : scan.truncated = true := by
    by_contra hwhole
    rw [h.whole (Bool.not_eq_true _ ▸ hwhole), List.mem_eraseDups] at hdropped
    exact hdropped hold
  have hunseen : key.id ∉ scan.seen := fun hseen => hdropped ((h.seen_iff key).mp hseen)
  have hfull : (decide (scan.keys.length ≥ maxRedisKeys) || decide (saturatingAdd
      scan.retainedBytes key.id.length > maxRedisRetainedKeyBytes)) = true := by
    have hbytes := h.bytes_le
    have hsum : saturatingAdd scan.retainedBytes key.id.length =
        scan.retainedBytes + key.id.length := by
      apply saturatingAdd_of_le
      simp only [maxRedisRetainedKeyBytes, maxRedisKeyBytes, usizeMax] at *
      omega
    rw [hsum, Bool.or_eq_true, decide_eq_true_eq, decide_eq_true_eq]
    rcases h.refused key hold hdropped with hlarge | hcount | hfits
    · exact absurd hlarge hsmall
    · exact .inl hcount
    · exact .inr hfits
  rw [RedisScanAccumulator.applyKey, if_neg hsmall, if_neg hunseen, if_pos hfull, ← htruncated]

theorem Agrees.push (h : Agrees page scan history) (raw : List UInt8) :
    Agrees (page.push raw) (scan.applyKey ⟨raw⟩) (history ++ [⟨raw⟩]) := by
  have haccumulated := h.accumulated.applyKey ⟨raw⟩
  by_cases hlarge : raw.length > maxRedisKeyBytes
  · have hpage : page.push raw = { page with
        skippedOversize := saturatingAdd page.skippedOversize 1
        truncated := true } := if_pos hlarge
    have hscan : scan.applyKey ⟨raw⟩ = { scan with
        skippedOversize := saturatingAdd scan.skippedOversize 1
        truncated := true } := if_pos hlarge
    rw [hscan] at haccumulated ⊢
    rw [hpage]
    refine ⟨h.keys, h.bytes, congrArg (saturatingAdd · 1) h.skipped, rfl, haccumulated,
      fun other => ?_⟩
    rw [h.seen, mem_concat_entry]
    constructor
    · exact fun hold => ⟨.inl hold.1, hold.2⟩
    · rintro ⟨hold | rfl, hsmall⟩
      · exact ⟨hold, hsmall⟩
      · omega
  · by_cases hseen : raw ∈ page.seen
    · have hold := ((h.seen raw).1 hseen).1
      have hpage : page.push raw = page := by
        rw [ScannedKeys.push, if_neg hlarge, if_pos hseen]
      have hscan : scan.applyKey ⟨raw⟩ = scan := by
        by_cases hkept : (⟨raw⟩ : RedisKeyEntry) ∈ scan.keys
        · rw [RedisScanAccumulator.applyKey, if_neg hlarge,
            if_pos ((h.accumulated.seen_iff ⟨raw⟩).2 hkept)]
        · exact applyKey_refused h.accumulated hlarge hold hkept
      rw [hscan] at haccumulated ⊢
      rw [hpage]
      refine ⟨h.keys, h.bytes, h.skipped, h.truncated, haccumulated, fun other => ?_⟩
      rw [h.seen, mem_concat_entry]
      constructor
      · exact fun hold => ⟨.inl hold.1, hold.2⟩
      · rintro ⟨hother | rfl, hsmall⟩
        · exact ⟨hother, hsmall⟩
        · exact ⟨hold, hsmall⟩
    · have hnew : (⟨raw⟩ : RedisKeyEntry) ∉ history :=
        fun hold => hseen ((h.seen raw).2 ⟨hold, by omega⟩)
      have hunseen : raw ∉ scan.seen := fun hscan => hnew
        (RedisScanAccumulator.mem_history h.accumulated ((h.accumulated.seen_iff ⟨raw⟩).1 hscan))
      have hinsert : ∀ other, other ∈ insert raw page.seen ↔
          (⟨other⟩ : RedisKeyEntry) ∈ history ++ [⟨raw⟩] ∧ other.length ≤ maxRedisKeyBytes := by
        intro other
        rw [Finset.mem_insert, h.seen, mem_concat_entry]
        constructor
        · rintro (rfl | ⟨hold, hsmall⟩)
          · exact ⟨.inr rfl, by omega⟩
          · exact ⟨.inl hold, hsmall⟩
        · rintro ⟨hold | rfl, hsmall⟩
          · exact .inr ⟨hold, hsmall⟩
          · exact .inl rfl
      rw [ScannedKeys.push, if_neg hlarge, if_neg hseen]
      rw [RedisScanAccumulator.applyKey, if_neg hlarge, if_neg hunseen] at haccumulated ⊢
      simp only [h.keys, h.bytes] at haccumulated ⊢
      by_cases hfull : (decide (scan.keys.length ≥ maxRedisKeys) || decide (saturatingAdd
          scan.retainedBytes raw.length > maxRedisRetainedKeyBytes)) = true
      · rw [if_pos hfull] at haccumulated ⊢
        rw [if_pos hfull]
        exact ⟨rfl, rfl, h.skipped, rfl, haccumulated, hinsert⟩
      · rw [if_neg hfull] at haccumulated ⊢
        rw [if_neg hfull]
        exact ⟨rfl, rfl, h.skipped, h.truncated, haccumulated, hinsert⟩

theorem agrees_scanned (filter : RedisKeyFilter) (rawKeys : List (List UInt8)) :
    Agrees (rawKeys.foldl ScannedKeys.push {})
      ((rawKeys.map RedisKeyEntry.mk).foldl RedisScanAccumulator.applyKey { filter })
      (rawKeys.map RedisKeyEntry.mk) := by
  induction rawKeys using List.reverseRecOn with
  | nil => exact ⟨rfl, rfl, rfl, rfl, RedisScanAccumulator.accumulated_new filter, by simp⟩
  | append_singleton rawKeys raw ih =>
    rw [List.map_append, List.foldl_append, List.foldl_append]
    exact ih.push raw

/-- A page and a new accumulator keep the same keys. -/
theorem scannedPage_accumulated (request : RedisScanRequest) (nextCursor : Nat)
    (rawKeys : List (List UInt8)) :
    let page := scannedPage request nextCursor rawKeys
    (∀ key ∈ page.keys, key.id ∈ rawKeys) ∧
      (page.truncated = false → ∀ raw ∈ rawKeys, ⟨raw⟩ ∈ page.keys) := by
  intro page
  have hagrees := agrees_scanned request.filter rawKeys
  have hkeys : page.keys = _ := hagrees.keys
  constructor
  · intro key hkey
    rw [hkeys] at hkey
    have hold := RedisScanAccumulator.mem_history hagrees.accumulated hkey
    obtain ⟨raw, hraw, rfl⟩ := List.mem_map.1 hold
    exact hraw
  · intro hwhole raw hraw
    have hflag : page.truncated = _ := hagrees.truncated
    rw [hflag] at hwhole
    rw [hkeys, hagrees.accumulated.whole hwhole, List.mem_eraseDups]
    exact List.mem_map_of_mem hraw

/-! ## Iterations -/

/-- Steps from a cursor until the next cursor is 0, one after the other. -/
inductive Iteration {α : Type} (Step : Nat → α → Prop) (next time : α → Nat) :
    Nat → List α → Prop
  | last {cursor : Nat} {a : α} (h : Step cursor a) (hzero : next a = 0) :
      Iteration Step next time cursor [a]
  | more {cursor : Nat} {a : α} {rest : List α} (h : Step cursor a) (hmore : next a ≠ 0)
      (hlater : ∀ b ∈ rest, time a < time b) (hrest : Iteration Step next time (next a) rest) :
      Iteration Step next time cursor (a :: rest)

section
variable {α β : Type} {Step : Nat → α → Prop} {next time : α → Nat} {Step' : Nat → β → Prop}
  {next' time' : β → Nat}

theorem exists_of_forall₂ {R : α → β → Prop} {as : List α} {bs : List β}
    (h : List.Forall₂ R as bs) {b : β} (hb : b ∈ bs) : ∃ a ∈ as, R a b := by
  induction h with
  | nil => cases hb
  | cons hr _ ih =>
    rcases List.mem_cons.1 hb with rfl | hb
    · exact ⟨_, List.mem_cons_self, hr⟩
    · obtain ⟨a, ha, hr⟩ := ih hb
      exact ⟨a, List.mem_cons_of_mem _ ha, hr⟩

/-- Steps that are told in another way. -/
theorem Iteration.image {R : α → β → Prop}
    (hstep : ∀ cursor a, Step cursor a → ∃ b, Step' cursor b ∧ R a b)
    (hnext : ∀ a b, R a b → next' b = next a) (htime : ∀ a b, R a b → time' b = time a)
    {cursor : Nat} {as : List α} (h : Iteration Step next time cursor as) :
    ∃ bs, Iteration Step' next' time' cursor bs ∧ List.Forall₂ R as bs := by
  induction h with
  | last h hzero =>
    obtain ⟨b, hb, hr⟩ := hstep _ _ h
    exact ⟨[b], .last hb ((hnext _ _ hr).trans hzero), .cons hr .nil⟩
  | more h hmore hlater _ ih =>
    obtain ⟨b, hb, hr⟩ := hstep _ _ h
    obtain ⟨bs, hbs, hall⟩ := ih
    rw [← hnext _ _ hr] at hmore hbs
    refine ⟨b :: bs, .more hb hmore (fun b' hb' => ?_) hbs, .cons hr hall⟩
    obtain ⟨a', ha', hr'⟩ := exists_of_forall₂ hall hb'
    rw [htime _ _ hr, htime _ _ hr']
    exact hlater _ ha'

theorem Iteration.step_of_mem {cursor : Nat} {as : List α} (h : Iteration Step next time cursor as)
    {a : α} (ha : a ∈ as) : ∃ cursor, Step cursor a := by
  induction h with
  | last h _ =>
    rw [List.mem_singleton.1 ha]
    exact ⟨_, h⟩
  | more h _ _ _ ih =>
    rcases List.mem_cons.1 ha with rfl | ha
    · exact ⟨_, h⟩
    · exact ih ha

theorem Iteration.last_next {cursor : Nat} {as : List α} (h : Iteration Step next time cursor as) :
    ∃ a, as.getLast? = some a ∧ next a = 0 := by
  induction h with
  | last _ hzero => exact ⟨_, rfl, hzero⟩
  | more _ _ _ hrest ih =>
    obtain ⟨a, ha, hzero⟩ := ih
    exact ⟨a, by rw [List.getLast?_cons, ha]; rfl, hzero⟩

end

/-! ## What is documented -/

variable {φ : Type}

/-- The reply to one SCAN. -/
structure ScanReply where
  time : Nat
  nextCursor : Nat
  keys : List (List UInt8)

/-- The server answers so at this moment, whatever the hint. -/
def Replied (answer : Nat → (command : RedisCommand) → RedisAnswer φ command)
    (pattern : List UInt8) (cursor : Nat) (reply : ScanReply) : Prop :=
  ∃ countHint, answer reply.time (.scan cursor pattern countHint) =
    .ok (reply.nextCursor, reply.keys)

/-- What is documented for SCAN. `present t` are the keys at moment `t`. -/
structure ScanDocumented (answer : Nat → (command : RedisCommand) → RedisAnswer φ command)
    (present : Nat → List UInt8 → Prop) : Prop where
  reported : ∀ pattern cursor reply, Replied answer pattern cursor reply →
    ∀ key ∈ reply.keys, present reply.time key ∧ stringMatches pattern key = true
  complete : ∀ pattern replies,
    Iteration (Replied answer pattern) (·.nextCursor) (·.time) 0 replies →
      ∀ key, stringMatches pattern key = true →
        (∀ first ∈ replies, ∀ last ∈ replies, ∀ t, first.time ≤ t → t ≤ last.time →
          present t key) →
        ∃ reply ∈ replies, key ∈ reply.keys

/-! ## What is listed -/

/-- A page with the request and the moment it was read at. -/
structure ServedPage where
  request : RedisScanRequest
  time : Nat
  page : RedisKeyPage

def Served (answer : Nat → (command : RedisCommand) → RedisAnswer φ command)
    (filter : RedisKeyFilter) (cursor : Nat) (served : ServedPage) : Prop :=
  served.request.filter = filter ∧ served.request.cursor = cursor ∧
    ((scanKeys served.request : Conversation φ _).run (fun _ => answer served.time) []).2 =
      .ok served.page

/-- The page holds keys of the reply, and all of them if it is not truncated. -/
def Holds (served : ServedPage) (reply : ScanReply) : Prop :=
  reply.time = served.time ∧ reply.nextCursor = served.page.nextCursor ∧
    (∀ key ∈ served.page.keys, key.id ∈ reply.keys) ∧
    (served.page.truncated = false → ∀ raw ∈ reply.keys, ⟨raw⟩ ∈ served.page.keys)

/-- A page is the reply to one SCAN. -/
theorem scanKeys_meets (answer : Nat → (command : RedisCommand) → RedisAnswer φ command)
    (request : RedisScanRequest) :
    (scanKeys request : Conversation φ _).Meets answer (fun _ r => ∀ page, r = .ok page →
      ∃ pattern nextCursor rawKeys, request.filter.matchPattern = .ok pattern ∧
        answer 0 (.scan request.cursor (bytes pattern) request.countHint) =
          .ok (nextCursor, rawKeys) ∧ page = scannedPage request nextCursor rawKeys) [] := by
  unfold scanKeys
  rw [Dialogue.bind_eq, Dialogue.meets_ofExcept_bind]
  constructor
  · intro _ _
    rw [Dialogue.bind_eq, Dialogue.meets_ofExcept_bind]
    constructor
    · intro pattern hpattern
      have hfilter : request.filter.matchPattern = .ok pattern := by
        cases hmatch : request.filter.matchPattern with
        | ok _ =>
          rw [hmatch] at hpattern
          cases hpattern
          rfl
        | error _ =>
          rw [hmatch] at hpattern
          cases hpattern
      have hquery : (query (.scan request.cursor (bytes pattern) request.countHint) :
          Conversation φ _).Meets answer (fun _ r => ∀ reply, r = .ok reply →
            answer 0 (.scan request.cursor (bytes pattern) request.countHint) = .ok reply) [] := by
        unfold query
        rw [Dialogue.meets_ask]
        cases answer 0 (.scan request.cursor (bytes pattern) request.countHint) with
        | ok _ =>
          rintro _ ⟨⟩
          rfl
        | error _ => exact fun _ h => nomatch h
      apply hquery.bind
      · rintro _ ⟨nextCursor, rawKeys⟩ hanswer _ ⟨⟩
        exact ⟨pattern, nextCursor, rawKeys, hfilter, hanswer _ rfl, rfl⟩
      · exact fun _ _ _ _ h => nomatch h
    · exact fun _ _ _ h => nomatch h
  · exact fun _ _ _ h => nomatch h

theorem Served.replied {answer : Nat → (command : RedisCommand) → RedisAnswer φ command}
    {filter : RedisKeyFilter} {pattern : Text} (hpattern : filter.matchPattern = .ok pattern)
    {cursor : Nat} {served : ServedPage} (h : Served answer filter cursor served) :
    ∃ reply, Replied answer (bytes pattern) cursor reply ∧ Holds served reply := by
  obtain ⟨rfl, rfl, hrun⟩ := h
  obtain ⟨pattern', nextCursor, rawKeys, hpattern', hanswer, hpage⟩ :=
    scanKeys_meets _ _ _ hrun
  cases hpattern.symm.trans hpattern'
  obtain ⟨hsub, hall⟩ := scannedPage_accumulated served.request nextCursor rawKeys
  refine ⟨⟨served.time, nextCursor, rawKeys⟩, ⟨_, hanswer⟩, rfl, ?_⟩
  rw [hpage]
  exact ⟨rfl, hsub, hall⟩

/-! ## A whole cycle -/

namespace RedisScanAccumulator

theorem applyKey_clean {scan : RedisScanAccumulator} {key : RedisKeyEntry}
    (h : (scan.applyKey key).truncated = false) : scan.truncated = false := by
  unfold applyKey at h
  split at h
  · cases h
  · split at h
    · exact h
    · simp only at h
      split at h
      · cases h
      · exact h

theorem applyKeys_clean {scan : RedisScanAccumulator} {keys : List RedisKeyEntry}
    (h : (keys.foldl applyKey scan).truncated = false) : scan.truncated = false := by
  induction keys generalizing scan with
  | nil => exact h
  | cons key keys ih => exact applyKey_clean (ih h)

/-- A scan that is not truncated has no page that is. -/
theorem pages_clean (filter : RedisKeyFilter) (calls : List ScanCall)
    (h : (runCalls filter calls).truncated = false) :
    ∀ page ∈ appliedPages calls, page.truncated = false := by
  induction calls using List.reverseRecOn with
  | nil => exact fun _ hpage => absurd hpage List.not_mem_nil
  | append_singleton calls last ih =>
    rw [runCalls, List.foldl_append] at h
    rw [appliedPages, List.foldl_append]
    cases last with
    | restart filter => exact fun _ hpage => absurd hpage List.not_mem_nil
    | applyPage page =>
      have hopened := applyKeys_clean h
      simp only [Bool.or_eq_false_iff] at hopened
      intro other hother
      rcases List.mem_append.1 hother with hother | hother
      · exact ih hopened.1.1 other hother
      · rw [List.mem_singleton.1 hother]
        exact hopened.1.2
    | markStale => exact ih h

end RedisScanAccumulator

/-- What a scan lists that holds the pages of one iteration. -/
theorem listed_exact {answer : Nat → (command : RedisCommand) → RedisAnswer φ command}
    {present : Nat → List UInt8 → Prop} (hserver : ScanDocumented answer present)
    {filter : RedisKeyFilter} {pattern : Text} (hpattern : filter.matchPattern = .ok pattern)
    {served : List ServedPage}
    (h : Iteration (Served answer filter) (·.page.nextCursor) (·.time) 0 served)
    (first : RedisKeyFilter) {calls : List RedisScanAccumulator.ScanCall}
    (hcalls : RedisScanAccumulator.appliedPages calls = served.map (·.page)) :
    let scan := RedisScanAccumulator.runCalls first calls
    (∀ key ∈ scan.keys, stringMatches (bytes pattern) key.id = true ∧
        ∃ s ∈ served, present s.time key.id) ∧
      (scan.truncated = false → ∀ key, stringMatches (bytes pattern) key = true →
        (∀ a ∈ served, ∀ b ∈ served, ∀ t, a.time ≤ t → t ≤ b.time → present t key) →
          ⟨key⟩ ∈ scan.keys) := by
  intro scan
  have haccumulated := RedisScanAccumulator.runCalls_accumulated first calls
  rw [hcalls] at haccumulated
  obtain ⟨replies, hreplies, hall⟩ := h.image (R := Holds)
    (fun _ _ hserved => hserved.replied hpattern) (fun _ _ hr => hr.2.1) fun _ _ hr => hr.1
  constructor
  · intro key hkey
    have hold := RedisScanAccumulator.mem_history haccumulated hkey
    obtain ⟨page, hpage, hmem⟩ := List.mem_flatMap.1 hold
    obtain ⟨s, hs, rfl⟩ := List.mem_map.1 hpage
    obtain ⟨reply, hreply, htime, -, hsub, -⟩ := exists_of_forall₂ hall.flip hs
    have hanswered := hreplies.step_of_mem hreply
    obtain ⟨cursor, hanswered⟩ := hanswered
    have hreported := hserver.reported _ _ _ hanswered _ (hsub key hmem)
    exact ⟨hreported.2, s, hs, htime ▸ hreported.1⟩
  · intro hclean key hmatches hpresent
    have hwhole := RedisScanAccumulator.pages_clean first calls hclean
    rw [hcalls] at hwhole
    obtain ⟨reply, hreply, hkey⟩ := hserver.complete _ _ hreplies key hmatches fun a ha b hb t hat htb => by
      obtain ⟨s, hs, hstime, -⟩ := exists_of_forall₂ hall ha
      obtain ⟨s', hs', hstime', -⟩ := exists_of_forall₂ hall hb
      exact hpresent s hs s' hs' t (hstime ▸ hat) (hstime' ▸ htb)
    obtain ⟨s, hs, -, -, -, hfull⟩ := exists_of_forall₂ hall hreply
    have hpage := List.mem_map_of_mem (f := fun s : ServedPage => s.page) hs
    rw [haccumulated.whole hclean, List.mem_eraseDups]
    exact List.mem_flatMap.2 ⟨s.page, hpage, hfull (hwhole _ hpage) key hkey⟩

end Dbotter.Drivers
