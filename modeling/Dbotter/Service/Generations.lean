import Dbotter.Program.Allocation
import Dbotter.Program.Solo
import Dbotter.Service.Calls

/-!
The discipline of the generations.

The observed state is a ledger: it says which generation of a profile is live and which one is
its tombstone. A mutation, a reload and the fence each turn the ledger into a new one; every
number a turn enters comes from the counter, unless the profile is the one it was before.
-/

namespace Dbotter.Service
open Dbotter.Utf8 Dbotter.Configuration Dbotter.Program

variable {ρ α : Type}

/-! ## The ledger -/

namespace ObservedState

def live (o : ObservedState) (p : ProfileId) : Option ProfileGeneration := o.generations.lookup p

def tombstone (o : ObservedState) (p : ProfileId) : Option ProfileGeneration :=
  o.tombstones.lookup p

def content (o : ObservedState) (p : ProfileId) : Option ConnectionProfile :=
  (profileMap o.config.profiles).lookup p

/-- The profile of the second ledger equals that of the first, as the code compares profiles. -/
abbrev Unchanged (o o' : ObservedState) (p : ProfileId) : Prop := o'.content p == o.content p

theorem unchanged_refl (o : ObservedState) (p : ProfileId) : o.Unchanged o p := BEq.rfl

/-- No generation is entered twice, all are below the counter, and exactly the observed
profiles have a live one. -/
structure Sound (o : ObservedState) (next : Nat) : Prop where
  live_lt : ∀ p g, o.live p = some g → g < next
  tombstone_lt : ∀ p g, o.tombstone p = some g → g < next
  live_inj : ∀ p q g, o.live p = some g → o.live q = some g → p = q
  tombstone_inj : ∀ p q g, o.tombstone p = some g → o.tombstone q = some g → p = q
  disjoint : ∀ p q g, o.live p = some g → o.tombstone q ≠ some g
  listed : ∀ p, (o.live p).isSome = (o.content p).isSome

/-- One ledger after another. The profiles of `forced` get a new generation in any case. -/
structure Turn (forced : ProfileId → Bool) (o : ObservedState) (next : Nat) (o' : ObservedState)
    (next' : Nat) : Prop where
  next_le : next ≤ next'
  sound : o.Sound next → o'.Sound next'
  kept : o.Sound next → ∀ p, forced p = false → o.Unchanged o' p → o'.live p = o.live p
  fresh : ∀ p g, forced p = true ∨ ¬ o.Unchanged o' p → o'.live p = some g → next ≤ g
  tombstone : ∀ p g, o'.tombstone p = some g → o.tombstone p = some g ∨ next ≤ g

theorem content_eq_latest (o : ObservedState) (p : ProfileId) :
    o.content p = latest ConnectionProfile.id o.config.profiles p := by
  have h := lookup_foldl_insert ConnectionProfile.id id o.config.profiles p
  rwa [Option.map_id] at h

theorem Sound.mono {o : ObservedState} {next next' : Nat} (h : o.Sound next)
    (hle : next ≤ next') : o.Sound next' :=
  { h with
    live_lt := fun p g hg => lt_of_lt_of_le (h.live_lt p g hg) hle
    tombstone_lt := fun p g hg => lt_of_lt_of_le (h.tombstone_lt p g hg) hle }

/-- The counter moves and the ledger stays. -/
theorem Turn.waste {o : ObservedState} {next next' : Nat} (hle : next ≤ next') :
    Turn (fun _ => false) o next o next' where
  next_le := hle
  sound h := h.mono hle
  kept _ _ _ _ := rfl
  fresh p g h := by simp at h
  tombstone _ _ h := .inl h

/-- A turn that starts from a later counter. -/
theorem Turn.after {forced : ProfileId → Bool} {o o' : ObservedState} {next middle next' : Nat}
    (h : Turn forced o middle o' next') (hle : next ≤ middle) : Turn forced o next o' next' where
  next_le := le_trans hle h.next_le
  sound hs := h.sound (hs.mono hle)
  kept hs := h.kept (hs.mono hle)
  fresh p g hp hg := le_trans hle (h.fresh p g hp hg)
  tombstone p g hg := (h.tombstone p g hg).imp_right (le_trans hle)

end ObservedState

open ObservedState

/-! ## Numbering -/

/-- Keys that take a number each are numbered without keeping any. -/
theorem assigned_keys (keys : List ProfileId) (m : ProfileMap ProfileGeneration) (n : Nat) :
    Assigned (fun key : ProfileId => key) (fun _ => none) keys m n
      (keys.foldl (fun acc key => (acc.1.insert key acc.2, acc.2 + 1)) (m, n)) :=
  assigned _ _ keys m n

theorem latest_id {keys : List ProfileId} {p : ProfileId} (h : p ∈ keys) :
    latest (fun key : ProfileId => key) keys p = some p := by
  have hsome : (latest (fun key : ProfileId => key) keys p).isSome := latest_isSome.2 ⟨p, h, rfl⟩
  obtain ⟨q, hq⟩ := Option.isSome_iff_exists.1 hsome
  rw [hq, show q = p from latest_key hq]

theorem latest_id_none {keys : List ProfileId} {p : ProfileId} (h : p ∉ keys) :
    latest (fun key : ProfileId => key) keys p = none :=
  latest_eq_none.2 fun _ hmem heq => h (heq ▸ hmem)

/-- The generation that a profile keeps in a reconciliation. -/
def keeps (snapshot : Snapshot) (unchanged : ConnectionProfile → Bool)
    (profile : ConnectionProfile) : Option ProfileGeneration :=
  if unchanged profile then snapshot.generations.lookup profile.id else none

theorem assignGenerations_assigned (snapshot : Snapshot) (unchanged : ConnectionProfile → Bool)
    (profiles : List ConnectionProfile) (next : Nat) :
    Assigned ConnectionProfile.id (keeps snapshot unchanged) profiles ∅ next
      (assignGenerations snapshot unchanged profiles next) := by
  have hstep : assignGenerations snapshot unchanged profiles next =
      profiles.foldl (assign ConnectionProfile.id (keeps snapshot unchanged)) (∅, next) := by
    refine List.foldl_ext _ _ _ fun acc profile _ => ?_
    simp only [nextGenerationFor, assign, keeps]
    cases unchanged profile
    · rfl
    · cases snapshot.generations.lookup profile.id <;> rfl
  rw [hstep]
  exact assigned _ _ profiles ∅ next

/-- A numbering of the profiles, and one of the ids to bury behind it. -/
structure Rebuilt (o : ObservedState) (next : Nat) (snapshot : Snapshot)
    (unchanged : ConnectionProfile → Bool) (profiles : List ConnectionProfile)
    (missing : List ProfileId) (r t : Numbering ProfileId) : Prop where
  assigned : Assigned ConnectionProfile.id (keeps snapshot unchanged) profiles ∅ next r
  buried : Assigned (fun key : ProfileId => key) (fun _ => none) missing o.tombstones r.2 t
  generations : snapshot.generations = o.generations

namespace Rebuilt
variable {o : ObservedState} {next : Nat} {snapshot : Snapshot}
  {unchanged : ConnectionProfile → Bool} {config : Config} {version : ConfigSourceVersion}
  {missing : List ProfileId} {r t : Numbering ProfileId}

/-- A live entry belongs to a listed profile, and it is kept or taken from the counter. -/
theorem live_cases (h : Rebuilt o next snapshot unchanged config.profiles missing r t)
    {p : ProfileId} {g : ProfileGeneration} (hg : r.1.lookup p = some g) :
    ∃ profile, latest ConnectionProfile.id config.profiles p = some profile ∧
      (unchanged profile = true ∧ o.live p = some g ∨
        keeps snapshot unchanged profile = none ∧ next ≤ g ∧ g < r.2) := by
  cases hlatest : latest ConnectionProfile.id config.profiles p with
  | none =>
    rw [h.assigned.other p hlatest] at hg
    cases hg
  | some profile =>
    refine ⟨profile, rfl, ?_⟩
    cases hkeep : keeps snapshot unchanged profile with
    | some g' =>
      cases (h.assigned.kept p profile g' hlatest hkeep).symm.trans hg
      obtain rfl := latest_key hlatest
      simp only [keeps, Option.ite_none_right_eq_some, h.generations] at hkeep
      exact .inl hkeep
    | none =>
      obtain ⟨g', hg', hge, hlt⟩ := h.assigned.fresh p profile hlatest hkeep
      cases hg'.symm.trans hg
      exact .inr ⟨rfl, hge, hlt⟩

/-- A tombstone was there before, or it is one of the buried ids. -/
theorem tombstone_cases (h : Rebuilt o next snapshot unchanged config.profiles missing r t)
    {p : ProfileId} {g : ProfileGeneration} (hg : t.1.lookup p = some g) :
    (p ∉ missing ∧ o.tombstone p = some g) ∨ (p ∈ missing ∧ r.2 ≤ g ∧ g < t.2) := by
  by_cases hp : p ∈ missing
  · obtain ⟨g', hg', hge, hlt⟩ := h.buried.fresh p p (latest_id hp) rfl
    cases hg'.symm.trans hg
    exact .inr ⟨hp, hge, hlt⟩
  · rw [h.buried.other p (latest_id_none hp)] at hg
    exact .inl ⟨hp, hg⟩

theorem live_inj (h : Rebuilt o next snapshot unchanged config.profiles missing r t)
    (hs : o.Sound next) {p q : ProfileId} {g : ProfileGeneration} (hp : r.1.lookup p = some g)
    (hq : r.1.lookup q = some g) : p = q := by
  obtain ⟨profile, hlatest, ⟨-, hold⟩ | ⟨hkeep, hge, -⟩⟩ := h.live_cases hp <;>
    obtain ⟨profile', hlatest', ⟨-, hold'⟩ | ⟨hkeep', hge', -⟩⟩ := h.live_cases hq
  · exact hs.live_inj p q g hold hold'
  · exact absurd (hs.live_lt p g hold) (not_lt.2 hge')
  · exact absurd (hs.live_lt q g hold') (not_lt.2 hge)
  · exact h.assigned.distinct p q profile profile' hlatest hlatest' hkeep hkeep' (hp.trans hq.symm)

theorem tombstone_inj (h : Rebuilt o next snapshot unchanged config.profiles missing r t)
    (hs : o.Sound next) {p q : ProfileId} {g : ProfileGeneration} (hp : t.1.lookup p = some g)
    (hq : t.1.lookup q = some g) : p = q := by
  have hnext : next ≤ r.2 := h.assigned.le
  obtain ⟨hmem, hold⟩ | ⟨hmem, hge, -⟩ := h.tombstone_cases hp <;>
    obtain ⟨hmem', hold'⟩ | ⟨hmem', hge', -⟩ := h.tombstone_cases hq
  · exact hs.tombstone_inj p q g hold hold'
  · exact absurd (hs.tombstone_lt p g hold) (not_lt.2 (le_trans hnext hge'))
  · exact absurd (hs.tombstone_lt q g hold') (not_lt.2 (le_trans hnext hge))
  · exact h.buried.distinct p q p q (latest_id hmem) (latest_id hmem') rfl rfl (hp.trans hq.symm)

theorem disjoint (h : Rebuilt o next snapshot unchanged config.profiles missing r t)
    (hs : o.Sound next) {p q : ProfileId} {g : ProfileGeneration} (hp : r.1.lookup p = some g) :
    t.1.lookup q ≠ some g := by
  intro hq
  have hnext : next ≤ r.2 := h.assigned.le
  obtain ⟨profile, -, ⟨-, hold⟩ | ⟨-, hge, hlt⟩⟩ := h.live_cases hp <;>
    obtain ⟨-, hold'⟩ | ⟨-, hge', -⟩ := h.tombstone_cases hq
  · exact hs.disjoint p q g hold hold'
  · exact absurd (hs.live_lt p g hold) (not_lt.2 (le_trans hnext hge'))
  · exact absurd (hs.tombstone_lt q g hold') (not_lt.2 hge)
  · exact absurd hlt (not_lt.2 hge')

theorem listed (h : Rebuilt o next snapshot unchanged config.profiles missing r t)
    (p : ProfileId) :
    (r.1.lookup p).isSome = (latest ConnectionProfile.id config.profiles p).isSome := by
  cases hlatest : latest ConnectionProfile.id config.profiles p with
  | none =>
    rw [h.assigned.other p hlatest]
    rfl
  | some profile =>
    cases hkeep : keeps snapshot unchanged profile with
    | some g => rw [h.assigned.kept p profile g hlatest hkeep, Option.isSome_some, Option.isSome_some]
    | none =>
      obtain ⟨g, hg, -, -⟩ := h.assigned.fresh p profile hlatest hkeep
      rw [hg, Option.isSome_some, Option.isSome_some]

theorem sound (h : Rebuilt o next snapshot unchanged config.profiles missing r t)
    (hs : o.Sound next) : ObservedState.Sound ⟨config, version, r.1, t.1⟩ t.2 where
  live_lt p g hg := by
    have hnext : r.2 ≤ t.2 := h.buried.le
    obtain ⟨profile, -, ⟨-, hold⟩ | ⟨-, -, hlt⟩⟩ := h.live_cases hg
    · exact lt_of_lt_of_le (hs.live_lt p g hold) (le_trans h.assigned.le hnext)
    · exact lt_of_lt_of_le hlt hnext
  tombstone_lt p g hg := by
    obtain ⟨-, hold⟩ | ⟨-, -, hlt⟩ := h.tombstone_cases hg
    · exact lt_of_lt_of_le (hs.tombstone_lt p g hold) (le_trans h.assigned.le h.buried.le)
    · exact hlt
  live_inj p q g hp hq := h.live_inj hs hp hq
  tombstone_inj p q g hp hq := h.tombstone_inj hs hp hq
  disjoint p q g hp hq := h.disjoint hs hp hq
  listed p := by
    rw [content_eq_latest]
    exact h.listed p

/-- A profile that is neither forced nor changed keeps its generation. -/
theorem kept {forced : ProfileId → Bool}
    (h : Rebuilt o next snapshot unchanged config.profiles missing r t)
    (hunchanged : ∀ p profile, latest ConnectionProfile.id config.profiles p = some profile →
      unchanged profile = (!forced p && o.content p == some profile))
    (hs : o.Sound next) {p : ProfileId} (hforced : forced p = false)
    (hsame : latest ConnectionProfile.id config.profiles p == o.content p) :
    r.1.lookup p = o.live p := by
  have hlisted := hs.listed p
  rw [← isSome_eq_of_beq hsame] at hlisted
  cases hlatest : latest ConnectionProfile.id config.profiles p with
  | none =>
    rw [hlatest] at hlisted
    rw [Option.isSome_eq_false_iff.1 hlisted |> Option.isNone_iff_eq_none.1]
    exact h.assigned.other p hlatest
  | some profile =>
    rw [hlatest] at hlisted hsame
    obtain ⟨g, hg⟩ := Option.isSome_iff_exists.1 hlisted
    rw [hg]
    refine h.assigned.kept p profile g hlatest ?_
    obtain rfl := latest_key hlatest
    simp only [keeps, hunchanged _ profile hlatest, hforced, BEq.symm hsame, h.generations,
      Bool.not_false, Bool.and_self, ↓reduceIte]
    exact hg

end Rebuilt

/-- The ledger that a numbering of the profiles and a list of ids to bury lead to. -/
theorem Turn.rebuild {o : ObservedState} {next : Nat} {forced : ProfileId → Bool}
    (snapshot : Snapshot) (config : Config) (version : ConfigSourceVersion)
    (unchanged : ConnectionProfile → Bool) (missing : List ProfileId)
    (hsnapshot : snapshot.generations = o.generations)
    (hunchanged : ∀ p profile, latest ConnectionProfile.id config.profiles p = some profile →
      unchanged profile = (!forced p && o.content p == some profile)) :
    Turn forced o next
      ⟨config, version, (assignGenerations snapshot unchanged config.profiles next).1,
        (buryMissing o.tombstones missing
          (assignGenerations snapshot unchanged config.profiles next).2).1⟩
      (buryMissing o.tombstones missing
        (assignGenerations snapshot unchanged config.profiles next).2).2 := by
  have hrebuilt : Rebuilt o next snapshot unchanged config.profiles missing
      (assignGenerations snapshot unchanged config.profiles next)
      (buryMissing o.tombstones missing
        (assignGenerations snapshot unchanged config.profiles next).2) :=
    ⟨assignGenerations_assigned snapshot unchanged config.profiles next, assigned_keys missing _ _,
      hsnapshot⟩
  generalize assignGenerations snapshot unchanged config.profiles next = r at hrebuilt ⊢
  generalize buryMissing o.tombstones missing r.2 = t at hrebuilt ⊢
  refine ⟨le_trans hrebuilt.assigned.le hrebuilt.buried.le, hrebuilt.sound, ?_, ?_, ?_⟩
  · intro hs p hforced hsame
    rw [ObservedState.Unchanged, content_eq_latest] at hsame
    exact hrebuilt.kept hunchanged hs hforced hsame
  · intro p g hp hg
    obtain ⟨profile, hlatest, ⟨hkept, -⟩ | ⟨-, hge, -⟩⟩ := hrebuilt.live_cases hg
    · rw [hunchanged p profile hlatest, Bool.and_eq_true, Bool.not_eq_true'] at hkept
      rw [ObservedState.Unchanged, content_eq_latest, hlatest] at hp
      rcases hp with hp | hp
      · rw [hkept.1] at hp
        cases hp
      · exact absurd (BEq.symm hkept.2) hp
    · exact hge
  · intro p g hg
    obtain ⟨-, hold⟩ | ⟨-, hge, -⟩ := hrebuilt.tombstone_cases hg
    · exact .inl hold
    · exact .inr (le_trans hrebuilt.assigned.le hge)

/-- The ledger of a freshly loaded service. -/
theorem initial_sound (loaded : LoadedConfig) :
    (ApplicationService.initial loaded).observed.Sound
      (ApplicationService.initial loaded).nextGeneration := by
  -- It is rebuilt from an empty one, with no profile kept.
  let empty : ObservedState := ⟨{ loaded.config with profiles := [] }, loaded.sourceVersion, ∅, ∅⟩
  have hturn : Turn (fun _ => true) empty 1 _ _ :=
    Turn.rebuild ⟨∅, ∅, ∅, ∅⟩ loaded.config loaded.sourceVersion (fun _ => false) [] rfl
      fun _ _ _ => rfl
  have hempty : empty.Sound 1 :=
    ⟨fun _ _ h => (nomatch h), fun _ _ h => (nomatch h), fun _ _ _ h => (nomatch h),
      fun _ _ _ h => (nomatch h), fun _ _ _ h => (nomatch h), fun _ => rfl⟩
  exact hturn.sound hempty

/-- The fence gives every live profile a new generation. -/
theorem Turn.fence (o : ObservedState) (next : Nat) :
    Turn (fun _ => true) o next { o with generations := (reallocate o.generations next).1 }
      (reallocate o.generations next).2 := by
  have hassigned : Assigned (fun key : ProfileId => key) (fun _ => none) o.generations.keys
      o.generations next (reallocate o.generations next) :=
    assigned_keys o.generations.keys o.generations next
  generalize reallocate o.generations next = r at hassigned ⊢
  have hlive : ∀ p g, r.1.lookup p = some g →
      p ∈ o.generations.keys ∧ next ≤ g ∧ g < r.2 := by
    intro p g hg
    by_cases hp : p ∈ o.generations.keys
    · obtain ⟨g', hg', hge, hlt⟩ := hassigned.fresh p p (latest_id hp) rfl
      cases hg'.symm.trans hg
      exact ⟨hp, hge, hlt⟩
    · rw [hassigned.other p (latest_id_none hp), AList.lookup_eq_none.2 hp] at hg
      cases hg
  refine ⟨hassigned.le, ?_, ?_, ?_, fun _ _ h => .inl h⟩
  · intro hs
    refine ⟨fun p g hg => (hlive p g hg).2.2, ?_, ?_, hs.tombstone_inj, ?_, ?_⟩
    · intro p g hg
      exact lt_of_lt_of_le (hs.tombstone_lt p g hg) hassigned.le
    · intro p q g hp hq
      exact hassigned.distinct p q p q (latest_id (hlive p g hp).1) (latest_id (hlive q g hq).1)
        rfl rfl (hp.trans hq.symm)
    · intro p q g hp hq
      exact absurd (hs.tombstone_lt q g hq) (not_lt.2 (hlive p g hp).2.1)
    · intro p
      rw [show content { o with generations := r.1 } p = o.content p from rfl, ← hs.listed p]
      by_cases hp : p ∈ o.generations.keys
      · obtain ⟨g, hg, -, -⟩ := hassigned.fresh p p (latest_id hp) rfl
        rw [show live { o with generations := r.1 } p = some g from hg,
          show (o.live p).isSome = true from AList.lookup_isSome.2 hp]
        rfl
      · rw [show live { o with generations := r.1 } p = o.live p from
          hassigned.other p (latest_id_none hp)]
  · intro _ p hp
    cases hp
  · intro p g _ hg
    exact (hlive p g hg).2.1

/-! ## Calls that run alone -/

/-- The ledger, the counter and the flag are the same. -/
structure Untouched (s s' : ApplicationService) : Prop where
  observed : s'.observed = s.observed
  nextGeneration : s'.nextGeneration = s.nextGeneration
  configUncertain : s'.configUncertain = s.configUncertain

theorem Untouched.refl (s : ApplicationService) : Untouched s s := ⟨rfl, rfl, rfl⟩

theorem Untouched.trans {a b c : ApplicationService} (hab : Untouched a b)
    (hbc : Untouched b c) : Untouched a c :=
  ⟨hbc.observed.trans hab.observed, hbc.nextGeneration.trans hab.nextGeneration,
    hbc.configUncertain.trans hab.configUncertain⟩

/-- Every run of the task alone succeeds and leaves the ledger as it found it. -/
def Quiet {ε : Type} (t : Task ApplicationService (Answer ρ) Event ε α) : Prop :=
  ∀ s, t.Ends s fun s' r => Untouched s s' ∧ ∃ a, r = .ok a

namespace Quiet
variable {ε ε' β : Type} {t : Task ApplicationService (Answer ρ) Event ε α}

theorem ok (a : α) : Quiet (.done (.ok a) : Task ApplicationService (Answer ρ) Event ε α) :=
  fun s => ⟨Untouched.refl s, a, rfl⟩

theorem step {f : Answer ρ → ApplicationService → Effect ApplicationService Event (Except ε α)}
    (h : ∀ i s, Untouched s (f i s).state ∧ ∃ a, (f i s).value = .ok a) : Quiet (Task.step f) :=
  fun s i => h i s

theorem bind {f : α → Task ApplicationService (Answer ρ) Event ε β} (ht : Quiet t)
    (hf : ∀ a, Quiet (f a)) : Quiet (t >>= f) := by
  intro s
  refine (ht s).bind ?_ ?_
  · rintro s' a ⟨h, -⟩
    exact (hf a s').mono fun _ _ h' => ⟨h.trans h'.1, h'.2⟩
  · rintro s' e ⟨-, a, h⟩
    cases h

theorem mapError (ht : Quiet t) (f : ε → ε') : Quiet (t.mapError f) := by
  intro s
  refine Task.ends_mapError.2 ((ht s).mono ?_)
  rintro s' r ⟨h, a, rfl⟩
  exact ⟨h, a, rfl⟩

end Quiet

theorem close_quiet (handle : Handle) : Quiet (close handle : Op ρ Unit) :=
  .step fun _ _ => ⟨⟨rfl, rfl, rfl⟩, _, rfl⟩

theorem takeCachedSessionExact_quiet (p : ProfileId) (g : ProfileGeneration)
    (session : SessionGeneration) :
    Quiet (takeCachedSessionExact p g session : Op ρ (Option Handle)) := by
  refine .step fun _ s => ?_
  split
  · split <;> exact ⟨⟨rfl, rfl, rfl⟩, _, rfl⟩
  · exact ⟨.refl s, _, rfl⟩

theorem evictCachedSessionExact_quiet (p : ProfileId) (g : ProfileGeneration)
    (session : SessionGeneration) : Quiet (evictCachedSessionExact p g session : Op ρ Bool) := by
  refine .bind (takeCachedSessionExact_quiet p g session) fun removed => ?_
  cases removed with
  | none => exact .ok _
  | some handle => exact .bind (close_quiet handle) fun _ => .ok _

theorem retagCachedSessionExact_quiet (p : ProfileId) (expected : CachedSessionIdentity)
    (g : ProfileGeneration) (fingerprint : ConnectionFingerprint) :
    Quiet (retagCachedSessionExact p expected g fingerprint : Op ρ Bool) := by
  refine .step fun _ s => ?_
  dsimp only
  split
  · exact ⟨.refl s, _, rfl⟩
  · split <;> exact ⟨⟨rfl, rfl, rfl⟩, _, rfl⟩

theorem applySecret_quiet (p : ProfileId) (update : SessionSecretUpdate) :
    Quiet (applySecret p update : Op ρ Unit) :=
  .step fun _ _ => ⟨⟨rfl, rfl, rfl⟩, _, rfl⟩

theorem evictTargets_quiet (targets : List DeferredCleanupTarget) :
    Quiet (evictTargets targets : Op ρ Unit) := by
  induction targets with
  | nil => exact .ok _
  | cons target targets ih =>
    unfold evictTargets
    split
    · exact .bind (evictCachedSessionExact_quiet _ _ _) fun _ => ih
    · exact ih

theorem clearTargetSecrets_quiet (targets : List DeferredCleanupTarget) :
    Quiet (clearTargetSecrets targets : Op ρ Unit) := by
  induction targets with
  | nil => exact .ok _
  | cons target targets ih =>
    unfold clearTargetSecrets
    split
    · exact .bind (applySecret_quiet _ _) fun _ => ih
    · exact ih

theorem applySecretUpdates_quiet (updates : List (ProfileId × SessionSecretUpdate)) :
    Quiet (applySecretUpdates updates : Op ρ Unit) := by
  induction updates with
  | nil => exact .ok _
  | cons update updates ih => exact .bind (applySecret_quiet _ _) fun _ => ih

theorem applyDeferredCleanup_quiet (cleanup : DeferredRuntimeCleanup) :
    Quiet (applyDeferredCleanup cleanup : Op ρ Unit) := by
  refine .bind (evictTargets_quiet _) fun _ => .bind (clearTargetSecrets_quiet _) fun _ => ?_
  split
  · exact .step fun _ _ => ⟨⟨rfl, rfl, rfl⟩, _, rfl⟩
  · split
    · exact .bind (.step fun _ _ => ⟨⟨rfl, rfl, rfl⟩, _, rfl⟩) fun _ => applySecretUpdates_quiet _
    · exact applySecretUpdates_quiet _

theorem resolveDeferredSession_quiet (fence : DeferredSessionFence) (allowRetag : Bool) :
    Quiet (resolveDeferredSession fence allowRetag : Op ρ Bool) := by
  unfold resolveDeferredSession
  split
  · exact retagCachedSessionExact_quiet _ _ _ _
  · exact .bind (evictCachedSessionExact_quiet _ _ _) fun _ => .ok _

theorem settleCleanup_quiet (deferCleanup : Bool) (cleanup : DeferredRuntimeCleanup) :
    Quiet (settleCleanup deferCleanup cleanup : Mutation ρ DeferredRuntimeCleanup) := by
  unfold settleCleanup
  split
  · exact .ok _
  · exact .bind ((applyDeferredCleanup_quiet cleanup).mapError _) fun _ => .ok _

theorem settleUpdate_quiet (policy : UpdateSessionPolicy) (fence : Option DeferredSessionFence)
    (cleanup : DeferredRuntimeCleanup) :
    Quiet (settleUpdate policy fence cleanup :
      Mutation ρ (Option DeferredSessionFence × DeferredRuntimeCleanup)) := by
  have happly : Quiet (lift (applyDeferredCleanup cleanup) : Mutation ρ Unit) :=
    (applyDeferredCleanup_quiet cleanup).mapError _
  cases policy with
  | defer => exact .ok _
  | legacy =>
    cases fence with
    | none => exact .bind happly fun _ => .ok _
    | some fence =>
      exact .bind ((resolveDeferredSession_quiet fence true).mapError _) fun _ =>
        .bind happly fun _ => .ok _

/-! ## Turns of the calls -/

/-- A turn of the ledger of a service. -/
abbrev Turns (forced : ProfileId → Bool) (s s' : ApplicationService) : Prop :=
  Turn forced s.observed s.nextGeneration s'.observed s'.nextGeneration

/-- What a mutation that runs alone does to the ledger: nothing where it is refused, the
fence, or one turn. -/
inductive MutationTurn {ε : Type} (forced : α → ProfileId → Bool) (s s' : ApplicationService) :
    Except ε α → Prop
  | refused (e : ε) (h : Untouched s s') : MutationTurn forced s s' (.error e)
  | fenced (e : ε) (hcertain : s.configUncertain = false) (h : Turns (fun _ => true) s s')
      (huncertain : s'.configUncertain = true) : MutationTurn forced s s' (.error e)
  | done (a : α) (hcertain : s.configUncertain = false) (h : Turns (forced a) s s')
      (hcertain' : s'.configUncertain = false) : MutationTurn forced s s' (.ok a)

theorem Turn.untouched {forced : ProfileId → Bool} {a b c : ApplicationService}
    (h : Turns forced a b) (hbc : Untouched b c) : Turns forced a c := by
  unfold Turns
  rw [hbc.observed, hbc.nextGeneration]
  exact h

/-- What follows a mutation without touching the ledger. -/
theorem MutationTurn.untouched {ε ε' β : Type} {forced : α → ProfileId → Bool}
    {forced' : β → ProfileId → Bool} {a b c : ApplicationService} {r : Except ε α}
    {r' : Except ε' β} (h : MutationTurn forced a b r) (hbc : Untouched b c)
    (hok : ∀ x, r = .ok x → ∃ y, r' = .ok y ∧ forced' y = forced x)
    (herror : ∀ e, r = .error e → ∃ e', r' = .error e') : MutationTurn forced' a c r' := by
  cases h with
  | refused e h =>
    obtain ⟨e', rfl⟩ := herror e rfl
    exact .refused e' (h.trans hbc)
  | fenced e hcertain h huncertain =>
    obtain ⟨e', rfl⟩ := herror e rfl
    exact .fenced e' hcertain (Turn.untouched h hbc) (hbc.configUncertain.trans huncertain)
  | done x hcertain h hcertain' =>
    obtain ⟨y, rfl, hforced⟩ := hok x rfl
    refine .done y hcertain ?_ (hbc.configUncertain.trans hcertain')
    rw [hforced]
    exact Turn.untouched h hbc

theorem enterConfigUncertainDeferred_ends (s : ApplicationService) :
    (enterConfigUncertainDeferred : Op ρ DeferredRuntimeCleanup).Ends s fun s' r =>
      (∃ cleanup, r = .ok cleanup) ∧ Turns (fun _ => true) s s' ∧ s'.configUncertain = true := by
  intro _ _
  exact ⟨⟨_, rfl⟩, Turn.fence s.observed s.nextGeneration, rfl⟩

/-- A mutation that puts up the fence and then fails. Numbers may have been taken from the
counter before. -/
theorem fence_ends (forced : α → ProfileId → Bool) {s t : ApplicationService}
    (hs : s.configUncertain = false) (hobserved : t.observed = s.observed)
    (hnext : s.nextGeneration ≤ t.nextGeneration)
    (failure : DeferredRuntimeCleanup → RuntimeMutationFailure) :
    (lift enterConfigUncertainDeferred >>= fun cleanup => .fail (failure cleanup) :
      Mutation ρ α).Ends t (MutationTurn forced s) := by
  refine Task.ends_bind.2 (Task.ends_mapError.2
    ((enterConfigUncertainDeferred_ends t).mono ?_))
  rintro s' r ⟨⟨cleanup, rfl⟩, hturn, huncertain⟩
  refine .fenced _ hs ?_ huncertain
  unfold Turns at hturn
  rw [hobserved] at hturn
  exact hturn.after hnext

theorem runtimeMutationFailure_ends (forced : α → ProfileId → Bool) {s t : ApplicationService}
    (hs : s.configUncertain = false) (hobserved : t.observed = s.observed)
    (hnext : s.nextGeneration ≤ t.nextGeneration) (error : ServiceError) :
    (runtimeMutationFailure error : Mutation ρ α).Ends t (MutationTurn forced s) :=
  fence_ends forced hs hobserved hnext fun cleanup => { error, cleanup }

/-- A write that succeeds leaves the ledger to the reconciliation. -/
theorem writeConfig_ends {β : Type} (forced : β → ProfileId → Bool) {s : ApplicationService}
    (hs : s.configUncertain = false) (mutation : ConfigMutation) (consent : MigrationConsent) :
    (writeConfig mutation consent : Mutation ρ ObservedMutationOutcome).Ends s fun s' r =>
      match r with
      | .ok _ => s' = s
      | .error e => MutationTurn forced s s' (.error e : Except RuntimeMutationFailure β) := by
  refine Task.Ends.bind (Q := fun s' _ => s' = s) (Task.ends_mapError.2 fun _ => rfl) ?_ ?_
  · rintro s' outcome rfl
    split
    · rfl
    · exact Task.ends_bind.2 (Task.ends_mapError.2 ((enterConfigUncertainDeferred_ends _).mono
        fun t r ⟨⟨cleanup, hr⟩, hturn, huncertain⟩ => hr ▸ .fenced _ hs hturn huncertain))
  · rintro s' e rfl
    exact .refused e (.refl _)

/-! ### Reloading and reconciling -/

def ApplicationService.snapshot (s : ApplicationService) : Snapshot :=
  ⟨profileMap s.observed.config.profiles, s.observed.generations, s.observed.tombstones,
    s.sessions⟩

theorem Snapshot.changed_iff {s : ApplicationService} {o : ObservedState} {p : ProfileId} :
    s.snapshot.changed (profileMap o.config.profiles) p = true ↔ ¬ s.observed.Unchanged o p := by
  rw [Snapshot.changed, bne, Bool.not_eq_true']
  exact (Bool.not_eq_true _).symm.to_iff

/-- The generations and tombstones of a reload, with the counter after it. -/
def Snapshot.reloaded (snapshot : Snapshot) (config : Config) (next : Nat) :
    ProfileMap ProfileGeneration × Numbering ProfileId :=
  let r := assignGenerations snapshot
    (fun profile => !snapshot.changed (profileMap config.profiles) profile.id) config.profiles next
  (r.1, buryMissing snapshot.tombstones (snapshot.profiles.keys.filter fun p =>
    ((profileMap config.profiles).lookup p).isNone) r.2)

def Snapshot.reloadTargets (snapshot : Snapshot) (config : Config) : List DeferredCleanupTarget :=
  (snapshot.profiles.keys.filter (snapshot.changed (profileMap config.profiles))).filterMap
    fun p => (snapshot.generations.lookup p).map fun previousGeneration =>
      ⟨p, previousGeneration, snapshot.session p, true⟩

/-- The generations and tombstones of a reconciliation, with the counter after it. -/
def Snapshot.reconciled (snapshot : Snapshot) (config : Config) (identity : MutationIdentity)
    (next : Nat) : ProfileMap ProfileGeneration × Numbering ProfileId :=
  let r := assignGenerations snapshot
    (fun profile => !(profile.id == identity.profileId && !identity.isDelete) &&
      snapshot.profiles.lookup profile.id == some profile) config.profiles next
  (r.1, buryMissing snapshot.tombstones
    (if identity.isDelete then [identity.profileId] else []) r.2)

variable {s : ApplicationService}

/-- `replace_loaded_config`, run alone. -/
theorem replaceLoadedConfig_ends {loaded : LoadedConfig}
    {Q : ApplicationService → Except ServiceError DeferredRuntimeCleanup → Prop}
    (h : Q { s with
        observed := ⟨loaded.config, loaded.sourceVersion,
          (s.snapshot.reloaded loaded.config s.nextGeneration).1,
          (s.snapshot.reloaded loaded.config s.nextGeneration).2.1⟩
        nextGeneration := (s.snapshot.reloaded loaded.config s.nextGeneration).2.2 }
      (.ok { targets := s.snapshot.reloadTargets loaded.config
             retainSecretProfiles := some (profileMap loaded.config.profiles).keys })) :
    (replaceLoadedConfig loaded : Op ρ DeferredRuntimeCleanup).Ends s Q := by
  intro _ _ _
  exact h

theorem reconcileTargets_error {snapshot : Snapshot} {identity : MutationIdentity}
    {generations : ProfileMap ProfileGeneration} {next : ProfileMap ConnectionProfile}
    {ids : List ProfileId} {e : ServiceError}
    (h : reconcileTargets snapshot identity generations next ids = .error e) :
    e = .configUncertain := by
  induction ids with
  | nil => cases h
  | cons p ids ih =>
    simp only [reconcileTargets] at h
    split at h
    · exact ih h
    split at h
    · cases h
      rfl
    · cases hrest : reconcileTargets snapshot identity generations next ids with
      | error e' =>
        rw [hrest] at h
        cases h
        exact ih hrest
      | ok rest =>
        rw [hrest] at h
        cases h

/-- The generation that a reconciliation reports. -/
def Snapshot.affected (snapshot : Snapshot) (config : Config) (identity : MutationIdentity)
    (next : Nat) : Option ProfileGeneration :=
  if identity.isDelete then (snapshot.reconciled config identity next).2.1.lookup identity.profileId
  else (snapshot.reconciled config identity next).1.lookup identity.profileId

/-- The cleanup that a reconciliation computes. -/
def Snapshot.reconcileTargets (snapshot : Snapshot) (config : Config)
    (identity : MutationIdentity) (next : Nat) :
    Except ServiceError (Option DeferredSessionFence × List DeferredCleanupTarget) :=
  Service.reconcileTargets snapshot identity (snapshot.reconciled config identity next).1
    (profileMap config.profiles) snapshot.profiles.keys

/-- `reconcile_after_mutation`, run alone: the ledger is replaced where every changed profile
and the target have a generation. -/
theorem reconcileAfterMutation_ends {config : Config} {identity : MutationIdentity}
    {Q : ApplicationService → Except ServiceError ReconcileMutationOutcome → Prop}
    (hok : ∀ fence targets g,
      s.snapshot.reconcileTargets config identity s.nextGeneration = .ok (fence, targets) →
      s.snapshot.affected config identity s.nextGeneration = some g →
      Q { s with
          observed := ⟨config, .v2, (s.snapshot.reconciled config identity s.nextGeneration).1,
            (s.snapshot.reconciled config identity s.nextGeneration).2.1⟩
          nextGeneration := (s.snapshot.reconciled config identity s.nextGeneration).2.2 }
        (.ok ⟨g, fence, { targets, retainSecretProfiles := some (profileMap config.profiles).keys }⟩))
    (herror : (∀ result, s.snapshot.reconcileTargets config identity s.nextGeneration = .ok result →
        s.snapshot.affected config identity s.nextGeneration = none) →
      Q { s with nextGeneration := (s.snapshot.reconciled config identity s.nextGeneration).2.2 }
        (.error .configUncertain)) :
    (reconcileAfterMutation config identity : Op ρ ReconcileMutationOutcome).Ends s Q := by
  intro _ _
  refine (Task.ends_bind (t := Task.ofExcept
    (s.snapshot.reconcileTargets config identity s.nextGeneration))).2 ?_
  rw [Task.ends_ofExcept]
  cases htargets : s.snapshot.reconcileTargets config identity s.nextGeneration with
  | error e =>
    cases reconcileTargets_error htargets
    exact herror fun result hresult => by simp [htargets] at hresult
  | ok result =>
    obtain ⟨fence, targets⟩ := result
    dsimp only
    split
    next hnone => exact herror fun _ _ => hnone
    next g hg => exact fun _ => hok fence targets g htargets hg

theorem Turn.reloaded (s : ApplicationService) (config : Config) (version : ConfigSourceVersion) :
    Turn (fun _ => false) s.observed s.nextGeneration
      ⟨config, version, (s.snapshot.reloaded config s.nextGeneration).1,
        (s.snapshot.reloaded config s.nextGeneration).2.1⟩
      (s.snapshot.reloaded config s.nextGeneration).2.2 := by
  refine Turn.rebuild _ _ _ _ _ rfl fun p profile hlatest => ?_
  obtain rfl := latest_key hlatest
  have hnext : (profileMap config.profiles).lookup profile.id = some profile :=
    (content_eq_latest ⟨config, version, ∅, ∅⟩ profile.id).trans hlatest
  simp only [Snapshot.changed, hnext, bne, Bool.not_not, Bool.not_false, Bool.true_and]
  exact BEq.comm

theorem Turn.reconciled (s : ApplicationService) (config : Config)
    (identity : MutationIdentity) :
    Turn (fun p => p == identity.profileId && !identity.isDelete) s.observed s.nextGeneration
      ⟨config, .v2, (s.snapshot.reconciled config identity s.nextGeneration).1,
        (s.snapshot.reconciled config identity s.nextGeneration).2.1⟩
      (s.snapshot.reconciled config identity s.nextGeneration).2.2 := by
  refine Turn.rebuild _ _ _ _ _ rfl fun p profile hlatest => ?_
  obtain rfl := latest_key hlatest
  rfl

theorem reconcile_ends (hs : s.configUncertain = false) (config : Config)
    (identity : MutationIdentity) :
    (reconcile config identity : Mutation ρ ReconcileMutationOutcome).Ends s
      (MutationTurn (fun _ p => p == identity.profileId && !identity.isDelete) s) := by
  have hturn := Turn.reconciled s config identity
  refine Task.ends_bind.2 (Task.ends_attempt.2 (reconcileAfterMutation_ends ?_ ?_))
  · intro fence targets g _ _
    exact .done _ hs hturn hs
  · intro _
    refine runtimeMutationFailure_ends _ hs ?_ ?_ _
    · rfl
    · exact hturn.next_le

/-! ### Creating, updating and deleting -/

/-- A step that reads the state only, in front of the rest of a mutation. -/
theorem ends_bind_read {ε β : Type} {t : Task ApplicationService (Answer ρ) Event ε α}
    {f : α → Task ApplicationService (Answer ρ) Event ε β} {forced : β → ProfileId → Bool}
    (ht : t.Ends s fun s' _ => s' = s) (hf : ∀ a, (f a).Ends s (MutationTurn forced s)) :
    (t >>= f).Ends s (MutationTurn forced s) := by
  refine ht.bind ?_ ?_
  · rintro s' a rfl
    exact hf a
  · rintro s' e rfl
    exact .refused e (.refl _)

/-- The check of the flag: what follows runs while the configuration is certain. -/
theorem ends_bind_certain {β : Type} {f : Unit → Mutation ρ β} {forced : β → ProfileId → Bool}
    (hf : s.configUncertain = false → (f ()).Ends s (MutationTurn forced s)) :
    (lift ensureConfigCertain >>= f).Ends s (MutationTurn forced s) := by
  rw [Task.bind_eq, Task.ends_bind, lift, Task.ends_mapError, ensureConfigCertain, Task.ends_step]
  intro _
  cases hs : s.configUncertain with
  | true => exact .refused _ (.refl s)
  | false => exact hf hs

theorem ends_withLane {ε : Type} {body : Task ApplicationService (Answer ρ) Event ε α}
    {forced : α → ProfileId → Bool} (h : body.Ends s (MutationTurn forced s)) :
    (withLane body).Ends s (MutationTurn forced s) := by
  refine Task.ends_bind.2 (Task.ends_lane.2 (Task.ends_bind.2 (Task.ends_attempt.2 (h.mono ?_))))
  intro s' r hturn
  exact hturn

/-- The write of a mutation, in front of what becomes of its outcome. -/
theorem ends_bind_write {β : Type} (hs : s.configUncertain = false) {mutation : ConfigMutation}
    {consent : MigrationConsent} {g : RuntimeMutationFailure → RuntimeMutationFailure}
    {f : ObservedMutationOutcome → Mutation ρ β} {forced : β → ProfileId → Bool}
    (hf : ∀ outcome, (f outcome).Ends s (MutationTurn forced s)) :
    ((writeConfig mutation consent).mapError g >>= f).Ends s (MutationTurn forced s) := by
  refine Task.ends_bind.2 (Task.ends_mapError.2
    ((writeConfig_ends forced hs mutation consent).mono ?_))
  rintro s' (e | outcome) h
  · exact h.untouched (.refl s') (fun _ h => by cases h) fun _ _ => ⟨g e, rfl⟩
  · obtain rfl : s' = s := h
    exact hf outcome

/-- What follows a reconciliation without touching the ledger. -/
theorem ends_bind_settle {β γ : Type} {t : Mutation ρ β} {f : β → Mutation ρ γ}
    {forced : β → ProfileId → Bool} {forced' : γ → ProfileId → Bool}
    (ht : t.Ends s (MutationTurn forced s))
    (hf : ∀ b s', (f b).Ends s' fun s'' r => Untouched s' s'' ∧ ∃ c, r = .ok c ∧
      forced' c = forced b) : (t >>= f).Ends s (MutationTurn forced' s) := by
  refine ht.bind ?_ ?_
  · intro s' b hturn
    refine (hf b s').mono ?_
    rintro s'' r ⟨hquiet, c, rfl, hforced⟩
    exact hturn.untouched hquiet (fun x hx => ⟨c, rfl, by cases hx; exact hforced⟩)
      fun e he => by cases he
  · intro s' e hturn
    exact hturn.untouched (.refl s') (fun _ h => by cases h) fun _ _ => ⟨e, rfl⟩

theorem createMutation_read (request : CreateProfileRequest) :
    (createMutation request : Mutation ρ (ConfigMutation × ConnectionProfile)).Ends s
      fun s' _ => s' = s := by
  unfold createMutation
  split
  · exact Task.Ends.bind (Q := fun s' _ => s' = s) rfl (fun _ _ h => h) fun _ _ h => h
  · rfl

theorem createProfileInner_ends (request : CreateProfileRequest) (deferCleanup : Bool)
    (s : ApplicationService) :
    (createProfileInner request deferCleanup : Mutation ρ RuntimeMutationOutcome).Ends s
      (MutationTurn (fun outcome p => p == outcome.mutation.profileId) s) := by
  refine ends_bind_certain fun hs => ends_bind_read (fun _ => rfl) fun _ =>
    ends_bind_read rfl fun _ => ends_withLane (ends_bind_certain fun _ =>
      ends_bind_read (createMutation_read request) fun mutation => ends_bind_write hs fun outcome => ?_)
  split
  · exact .refused _ (.refl s)
  next profileId _ =>
    split
    · exact runtimeMutationFailure_ends _ hs rfl le_rfl _
    split
    · exact runtimeMutationFailure_ends _ hs rfl le_rfl _
    · refine ends_bind_settle (reconcile_ends hs _ (.create profileId)) fun reconciled s' => ?_
      refine (settleCleanup_quiet deferCleanup _ s').bind ?_ ?_
      · rintro s'' cleanup ⟨h, -⟩
        refine ⟨h, _, rfl, ?_⟩
        funext p
        exact (Bool.and_true _).symm
      · rintro s'' e ⟨-, a, h⟩
        cases h

theorem updateProfileInner_ends (request : UpdateProfileRequest) (policy : UpdateSessionPolicy)
    (s : ApplicationService) :
    (updateProfileInner request policy : Mutation ρ RuntimeMutationOutcome).Ends s
      (MutationTurn (fun outcome p => p == outcome.mutation.profileId) s) := by
  refine ends_bind_certain fun hs => ends_bind_read (fun _ => rfl) fun _ =>
    ends_withLane (ends_bind_certain fun _ => ends_bind_read (fun _ => rfl) fun _ =>
      ends_bind_read (fun _ => rfl) fun expected => ends_bind_read (fun _ => rfl) fun hasCurrent =>
      ends_bind_read rfl fun _ => ends_bind_write hs fun outcome => ?_)
  split
  · exact runtimeMutationFailure_ends _ hs rfl le_rfl _
  · refine ends_bind_settle (reconcile_ends hs _ (.update request.profileId _))
      fun reconciled s' => ?_
    refine (settleUpdate_quiet policy _ _ s').bind ?_ ?_
    · rintro s'' settled ⟨h, -⟩
      refine ⟨h, _, rfl, ?_⟩
      funext p
      exact (Bool.and_true _).symm
    · rintro s'' e ⟨-, a, h⟩
      cases h

theorem deleteProfileInner_ends (request : DeleteProfileRequest) (deferCleanup : Bool)
    (s : ApplicationService) :
    (deleteProfileInner request deferCleanup : Mutation ρ RuntimeMutationOutcome).Ends s
      (MutationTurn (fun _ _ => false) s) := by
  refine ends_bind_certain fun hs => ends_withLane (ends_bind_certain fun _ =>
    ends_bind_read (fun _ => rfl) fun _ => ends_bind_read (fun _ => rfl) fun expected =>
      ends_bind_write hs fun outcome => ?_)
  split
  · exact runtimeMutationFailure_ends _ hs rfl le_rfl _
  · refine ends_bind_settle (reconcile_ends hs _ (.delete request.profileId))
      fun reconciled s' => ?_
    refine (settleCleanup_quiet deferCleanup _ s').bind ?_ ?_
    · rintro s'' cleanup ⟨h, -⟩
      refine ⟨h, _, rfl, ?_⟩
      funext p
      exact (Bool.and_false _).symm
    · rintro s'' e ⟨-, a, h⟩
      cases h

theorem settleFailure_ends {inner : Mutation ρ RuntimeMutationOutcome}
    (forced : ProfileMutationOutcome → ProfileId → Bool)
    (h : inner.Ends s (MutationTurn (fun outcome => forced outcome.mutation) s)) :
    (settleFailure inner).Ends s (MutationTurn forced s) := by
  refine Task.ends_bind.2 (Task.ends_attempt.2 (h.mono ?_))
  rintro s' (failure | outcome) hturn
  · refine (applyDeferredCleanup_quiet failure.cleanup s').bind ?_ ?_
    · rintro s'' _ ⟨hquiet, -⟩
      exact hturn.untouched hquiet (fun _ h => by cases h) fun _ _ => ⟨_, rfl⟩
    · rintro s'' e ⟨-, a, he⟩
      cases he
  · exact hturn.untouched (.refl s') (fun x hx => ⟨_, rfl, by cases hx; rfl⟩) fun e he => by
      cases he

/-! ### Reloading -/

/-- What a reload that runs alone does to the ledger. -/
inductive ReloadTurn (s s' : ApplicationService) : Prop
  | fenced (h : Turns (fun _ => true) s s') (huncertain : s'.configUncertain = true)
  | done (h : Turns (fun _ => false) s s') (hcertain : s'.configUncertain = false)

theorem ReloadTurn.untouched {a b c : ApplicationService} (h : ReloadTurn a b)
    (hbc : Untouched b c) : ReloadTurn a c := by
  cases h with
  | fenced h huncertain =>
    exact .fenced (Turn.untouched h hbc) (hbc.configUncertain.trans huncertain)
  | done h hcertain => exact .done (Turn.untouched h hbc) (hbc.configUncertain.trans hcertain)

theorem reloadConfigurationForRuntime_ends (s : ApplicationService) :
    (reloadConfigurationForRuntime : Op ρ RuntimeReloadOutcome).Ends s fun s' r =>
      ReloadTurn s s' ∧ ∃ outcome, r = .ok outcome := by
  refine Task.ends_bind.2 (Task.ends_lane.2 (Task.ends_bind.2 (Task.ends_attempt.2
    (Task.ends_bind.2 fun answer => ?_))))
  simp only [Task.ends_done]
  split
  · refine Task.ends_bind.2 ((enterConfigUncertainDeferred_ends s).mono ?_)
    rintro s' r ⟨⟨cleanup, rfl⟩, hturn, huncertain⟩
    exact ⟨.fenced hturn huncertain, _, rfl⟩
  next loaded _ =>
    refine Task.ends_bind.2 (replaceLoadedConfig_ends fun _ => ?_)
    exact ⟨.done (Turn.reloaded s loaded.config loaded.sourceVersion) rfl, _, rfl⟩

theorem reloadConfiguration_ends (s : ApplicationService) :
    (reloadConfiguration : Op ρ Unit).Ends s fun s' _ => ReloadTurn s s' := by
  refine (reloadConfigurationForRuntime_ends s).bind ?_ ?_
  · rintro s' outcome ⟨hturn, -⟩
    refine (applyDeferredCleanup_quiet outcome.cleanup s').bind ?_ ?_
    · rintro s'' _ ⟨hquiet, -⟩
      split <;> exact hturn.untouched hquiet
    · rintro s'' e ⟨-, a, h⟩
      cases h
  · rintro s' e ⟨-, a, h⟩
    cases h

end Dbotter.Service
