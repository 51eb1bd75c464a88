import Mathlib.Data.Finset.Dedup
import Dbotter.Drivers.Retention

/-!
What a scan has accumulated.

SCAN may report a key more than once, and a key that a cap refuses may come again. The keys that
are kept are those of the pages in the order in which they were first seen, less the refused ones:
a refused key stays refused, because the caps only get tighter until the scan is restarted.
-/

namespace Dbotter.Drivers

theorem saturatingAdd_of_le {a b : Nat} (h : a + b ≤ usizeMax) : saturatingAdd a b = a + b :=
  Nat.min_eq_left h

namespace RedisScanAccumulator
open Dbotter.Service

/-! ## The history of a scan -/

inductive ScanCall
  | restart (filter : RedisKeyFilter)
  | applyPage (page : RedisKeyPage)
  | markStale
  deriving DecidableEq, Repr

def call (scan : RedisScanAccumulator) : ScanCall → RedisScanAccumulator
  | .restart filter => scan.restart filter
  | .applyPage page => scan.applyPage page
  | .markStale => scan.markStale

def runCalls (filter : RedisKeyFilter) (calls : List ScanCall) : RedisScanAccumulator :=
  calls.foldl call { filter }

/-- The pages of the scan before the call, and after it. -/
def callPages (pages : List RedisKeyPage) : ScanCall → List RedisKeyPage
  | .restart _ => []
  | .applyPage page => pages ++ [page]
  | .markStale => pages

/-- The pages that have been applied since the last restart. -/
def appliedPages (calls : List ScanCall) : List RedisKeyPage := calls.foldl callPages []

/-! ## The caps -/

/-- A cap refuses the key. -/
def Refuses (scan : RedisScanAccumulator) (key : RedisKeyEntry) : Prop :=
  maxRedisKeyBytes < key.id.length ∨ maxRedisKeys ≤ scan.keys.length ∨
    maxRedisRetainedKeyBytes < scan.retainedBytes + key.id.length

/-- The scan has seen `history`, in this order. -/
structure Accumulated (scan : RedisScanAccumulator) (history : List RedisKeyEntry) : Prop where
  distinct : scan.keys.Nodup
  order : scan.keys.Sublist history.eraseDups
  seen : scan.seen = (scan.keys.map (·.id)).toFinset
  bytes : scan.retainedBytes = (scan.keys.map (·.id.length)).sum
  bytes_le : scan.retainedBytes ≤ maxRedisRetainedKeyBytes
  count_le : scan.keys.length ≤ maxRedisKeys
  small : ∀ key ∈ scan.keys, key.id.length ≤ maxRedisKeyBytes
  refused : ∀ key ∈ history, key ∉ scan.keys → scan.Refuses key
  whole : scan.truncated = false → scan.keys = history.eraseDups

variable {scan : RedisScanAccumulator} {history : List RedisKeyEntry}

theorem id_mem_map {key : RedisKeyEntry} {keys : List RedisKeyEntry} :
    key.id ∈ keys.map (·.id) ↔ key ∈ keys := by
  constructor
  · intro h
    obtain ⟨other, hother, heq⟩ := List.mem_map.mp h
    obtain rfl : other = key := by
      cases other
      cases key
      exact congrArg _ heq
    exact hother
  · exact fun h => List.mem_map.mpr ⟨key, h, rfl⟩

theorem Accumulated.seen_iff (h : scan.Accumulated history) (key : RedisKeyEntry) :
    key.id ∈ scan.seen ↔ key ∈ scan.keys := by
  rw [h.seen, List.mem_toFinset, id_mem_map]

theorem mem_history (h : scan.Accumulated history) {key : RedisKeyEntry} (hkey : key ∈ scan.keys) :
    key ∈ history := List.mem_eraseDups.mp (h.order.subset hkey)

theorem eraseDups_concat_mem {key : RedisKeyEntry} (h : key ∈ history) :
    (history ++ [key]).eraseDups = history.eraseDups := by
  have hnone : [key].removeAll history = [] := by simp [List.removeAll, h]
  rw [List.eraseDups_append, hnone, List.eraseDups_nil, List.append_nil]

theorem eraseDups_concat_not_mem {key : RedisKeyEntry} (h : key ∉ history) :
    (history ++ [key]).eraseDups = history.eraseDups ++ [key] := by
  have hself : [key].removeAll history = [key] := by simp [List.removeAll, h]
  rw [List.eraseDups_append, hself]
  rfl

/-- One key: it is kept if it is new and no cap refuses it. -/
theorem applyKey_cases (h : scan.Accumulated history) (key : RedisKeyEntry) :
    (key ∈ scan.keys ∧ scan.applyKey key = scan) ∨
      (scan.Refuses key ∧ ((scan.applyKey key).keys = scan.keys ∧
        (scan.applyKey key).seen = scan.seen ∧
        (scan.applyKey key).retainedBytes = scan.retainedBytes ∧
        (scan.applyKey key).truncated = true)) ∨
      (key ∉ scan.keys ∧ ¬ scan.Refuses key ∧ scan.applyKey key =
        { scan with
          seen := insert key.id scan.seen
          retainedBytes := scan.retainedBytes + key.id.length
          keys := scan.keys ++ [key] }) := by
  have hbytes := h.bytes_le
  unfold applyKey
  by_cases hlarge : key.id.length > maxRedisKeyBytes
  · exact .inr (.inl ⟨.inl hlarge, by simp [hlarge]⟩)
  · have hsum : saturatingAdd scan.retainedBytes key.id.length =
        scan.retainedBytes + key.id.length := by
      refine saturatingAdd_of_le ?_
      simp only [maxRedisRetainedKeyBytes, maxRedisKeyBytes, usizeMax] at *
      omega
    by_cases hseen : key.id ∈ scan.seen
    · exact .inl ⟨(h.seen_iff key).mp hseen, by simp [hlarge, hseen]⟩
    · have hnew : key ∉ scan.keys := fun hkey => hseen ((h.seen_iff key).mpr hkey)
      by_cases hfull : scan.keys.length ≥ maxRedisKeys ∨
          scan.retainedBytes + key.id.length > maxRedisRetainedKeyBytes
      · refine .inr (.inl ⟨.inr hfull, ?_⟩)
        simp [hlarge, hseen, hsum, hfull]
      · refine .inr (.inr ⟨hnew, fun hrefuses => hrefuses.elim hlarge hfull, ?_⟩)
        simp [hlarge, hseen, hsum, hfull]

/-- A key that is refused is refused as long as the scan goes on. -/
theorem Refuses.mono {scan' : RedisScanAccumulator} {key : RedisKeyEntry} (h : scan.Refuses key)
    (hkeys : scan.keys.length ≤ scan'.keys.length)
    (hbytes : scan.retainedBytes ≤ scan'.retainedBytes) : scan'.Refuses key := by
  rcases h with hlarge | hcount | hfull
  · exact .inl hlarge
  · exact .inr (.inl (hcount.trans hkeys))
  · exact .inr (.inr (by omega))

/-- The parts that the caps do not look at may change, and the flag may be set. -/
theorem Accumulated.congr {scan' : RedisScanAccumulator} (h : scan.Accumulated history)
    (hkeys : scan'.keys = scan.keys) (hseen : scan'.seen = scan.seen)
    (hbytes : scan'.retainedBytes = scan.retainedBytes)
    (htruncated : scan'.truncated = false → scan.truncated = false) :
    scan'.Accumulated history where
  distinct := hkeys ▸ h.distinct
  order := hkeys ▸ h.order
  seen := by rw [hseen, hkeys, h.seen]
  bytes := by rw [hbytes, hkeys, h.bytes]
  bytes_le := hbytes ▸ h.bytes_le
  count_le := hkeys ▸ h.count_le
  small := hkeys ▸ h.small
  refused := fun key hkey hmissing =>
    (h.refused key hkey (hkeys ▸ hmissing)).mono (by rw [hkeys]) (by rw [hbytes])
  whole := fun hfalse => hkeys.trans (h.whole (htruncated hfalse))

theorem Accumulated.keep (h : scan.Accumulated history) {key : RedisKeyEntry}
    (hkept : key ∈ scan.keys) : scan.Accumulated (history ++ [key]) := by
  have hhistory := eraseDups_concat_mem (mem_history h hkept)
  refine { h with order := ?_, refused := ?_, whole := ?_ }
  · rw [hhistory]
    exact h.order
  · intro other hother hmissing
    rcases List.mem_append.mp hother with hother | hother
    · exact h.refused other hother hmissing
    · rw [List.mem_singleton.mp hother] at hmissing
      exact absurd hkept hmissing
  · rw [hhistory]
    exact h.whole

/-- The flag is set, and the keys stay as they are. -/
theorem Accumulated.refuse (h : scan.Accumulated history) {scan' : RedisScanAccumulator}
    {key : RedisKeyEntry} (hrefuses : scan.Refuses key) (hkeys : scan'.keys = scan.keys)
    (hseen : scan'.seen = scan.seen) (hbytes : scan'.retainedBytes = scan.retainedBytes)
    (htruncated : scan'.truncated = true) : scan'.Accumulated (history ++ [key]) := by
  have hlonger : (history ++ [key]).eraseDups =
      history.eraseDups ++ ([key].removeAll history).eraseDups := List.eraseDups_append
  have hsame := h.congr hkeys hseen hbytes (by simp [htruncated])
  refine { hsame with order := ?_, refused := ?_, whole := ?_ }
  · rw [hlonger]
    exact hsame.order.trans (List.sublist_append_left _ _)
  · intro other hother hmissing
    rcases List.mem_append.mp hother with hother | hother
    · exact hsame.refused other hother hmissing
    · rw [List.mem_singleton.mp hother]
      exact hrefuses.mono (by rw [hkeys]) (by rw [hbytes])
  · intro hfalse
    rw [htruncated] at hfalse
    cases hfalse

theorem Accumulated.add (h : scan.Accumulated history) {key : RedisKeyEntry}
    (hnew : key ∉ scan.keys) (hadmitted : ¬ scan.Refuses key) :
    ({ scan with
      seen := insert key.id scan.seen
      retainedBytes := scan.retainedBytes + key.id.length
      keys := scan.keys ++ [key] } : RedisScanAccumulator).Accumulated (history ++ [key]) := by
  -- A key that had been refused before would be refused again.
  have hfirst : key ∉ history := fun hold => hadmitted (h.refused key hold hnew)
  have hhistory := eraseDups_concat_not_mem hfirst
  simp only [Refuses, not_or, not_lt, not_le] at hadmitted
  obtain ⟨hsmall, hcount, hfits⟩ := hadmitted
  constructor
  · rw [List.nodup_append]
    refine ⟨h.distinct, List.nodup_singleton key, ?_⟩
    intro other hother last hlast hsame
    rw [List.mem_singleton.mp hlast] at hsame
    exact hnew (hsame ▸ hother)
  · rw [hhistory]
    exact h.order.append (List.Sublist.refl _)
  · ext id
    simp only [h.seen, Finset.mem_insert, List.mem_toFinset, List.map_append, List.mem_append,
      List.map_cons, List.map_nil, List.mem_singleton]
    exact Or.comm
  · simp [h.bytes]
  · exact hfits
  · rw [List.length_append, List.length_singleton]
    omega
  · intro other hother
    rcases List.mem_append.mp hother with hother | hother
    · exact h.small other hother
    · rwa [List.mem_singleton.mp hother]
  · intro other hother hmissing
    have hkept := fun hkeep => hmissing (List.mem_append_left _ hkeep)
    rcases List.mem_append.mp hother with hother | hother
    · exact (h.refused other hother hkept).mono (by simp) (Nat.le_add_right _ _)
    · exact absurd (List.mem_append_right _ hother) hmissing
  · intro hfalse
    rw [hhistory, ← h.whole hfalse]

theorem Accumulated.applyKey (h : scan.Accumulated history) (key : RedisKeyEntry) :
    (scan.applyKey key).Accumulated (history ++ [key]) := by
  rcases applyKey_cases h key with ⟨hkept, heq⟩ | ⟨hrefuses, hkeys, hseen, hbytes, htruncated⟩ |
    ⟨hnew, hadmitted, heq⟩
  · rw [heq]
    exact h.keep hkept
  · exact h.refuse hrefuses hkeys hseen hbytes htruncated
  · rw [heq]
    exact h.add hnew hadmitted

theorem Accumulated.applyKeys (h : scan.Accumulated history) (keys : List RedisKeyEntry) :
    (keys.foldl RedisScanAccumulator.applyKey scan).Accumulated (history ++ keys) := by
  induction keys generalizing scan history with
  | nil => simpa using h
  | cons key keys ih =>
      have hnext := ih (h.applyKey key)
      rwa [List.append_assoc] at hnext

theorem accumulated_new (filter : RedisKeyFilter) :
    ({ filter } : RedisScanAccumulator).Accumulated [] where
  distinct := List.nodup_nil
  order := List.Sublist.refl _
  seen := rfl
  bytes := rfl
  bytes_le := Nat.zero_le _
  count_le := Nat.zero_le _
  small := nofun
  refused := nofun
  whole := fun _ => rfl

/-- What one call does to the keys of the pages. -/
theorem Accumulated.call {pages : List RedisKeyPage}
    (h : scan.Accumulated (pages.flatMap (·.keys))) (call : ScanCall) :
    (scan.call call).Accumulated ((callPages pages call).flatMap (·.keys)) := by
  cases call with
  | restart filter => exact accumulated_new filter
  | applyPage page =>
      have hopened : ({ scan with
          requested := true
          nextCursor := page.nextCursor
          skippedOversize := saturatingAdd scan.skippedOversize page.skippedOversize
          truncated := scan.truncated || page.truncated || page.skippedOversize > 0
          stale := scan.stale || page.stale } : RedisScanAccumulator).Accumulated
          (pages.flatMap (·.keys)) := by
        refine h.congr rfl rfl rfl fun hfalse => ?_
        simp only [Bool.or_eq_false_iff] at hfalse
        exact hfalse.1.1
      have hpages : (callPages pages (.applyPage page)).flatMap (·.keys) =
          pages.flatMap (·.keys) ++ page.keys := by simp [callPages]
      rw [hpages]
      exact hopened.applyKeys page.keys
  | markStale => exact h.congr rfl rfl rfl id

theorem runCalls_accumulated (filter : RedisKeyFilter) (calls : List ScanCall) :
    (runCalls filter calls).Accumulated ((appliedPages calls).flatMap (·.keys)) := by
  induction calls using List.reverseRecOn with
  | nil => exact accumulated_new filter
  | append_singleton calls call ih =>
      rw [runCalls, appliedPages, List.foldl_append, List.foldl_append]
      exact ih.call call

/-- **Scan accumulation.** After any calls the keys are pairwise different, in the order in which
they were first seen, with exact counters below the caps, and a scan that is not truncated holds
exactly the keys of its pages. -/
theorem scan_accumulation (filter : RedisKeyFilter) (calls : List ScanCall) :
    let scan := runCalls filter calls
    let history := (appliedPages calls).flatMap (·.keys)
    (scan.keys.map (·.id)).Nodup ∧ scan.keys.Sublist history.eraseDups ∧
      scan.seen = (scan.keys.map (·.id)).toFinset ∧
      scan.retainedBytes = (scan.keys.map (·.id.length)).sum ∧
      scan.retainedBytes ≤ maxRedisRetainedKeyBytes ∧ scan.keys.length ≤ maxRedisKeys ∧
      (∀ key ∈ scan.keys, key.id.length ≤ maxRedisKeyBytes) ∧
      (scan.truncated = false →
        ∀ key, key ∈ scan.keys ↔ ∃ page ∈ appliedPages calls, key ∈ page.keys) := by
  intro scan history
  have h : scan.Accumulated history := runCalls_accumulated filter calls
  have hdistinct : (scan.keys.map (·.id)).Nodup := by
    refine h.distinct.map_on fun key _ other _ heq => ?_
    cases key
    cases other
    exact congrArg _ heq
  refine ⟨hdistinct, h.order, h.seen, h.bytes, h.bytes_le, h.count_le, h.small, ?_⟩
  intro hwhole key
  rw [h.whole hwhole, List.mem_eraseDups, List.mem_flatMap]

end RedisScanAccumulator

end Dbotter.Drivers
