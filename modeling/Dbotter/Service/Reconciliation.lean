import Dbotter.Service.GenerationRuns

/-!
Two ways to take over a configuration.

A reload and the reconciliation after a local mutation both compare the observed
configuration with a new one. They decide alike about every profile other than the target of
the mutation, with one exception: an id that has disappeared is buried by the reload only.
-/

namespace Dbotter.Service
open Dbotter.Utf8 Dbotter.Configuration Dbotter.Program
open ObservedState

variable {ρ : Type}

/-- The tombstone of `p` is a new one. -/
def NewlyBuried (s s' : ApplicationService) (p : ProfileId) : Prop :=
  ∃ t, s'.observed.tombstone p = some t ∧ s.observed.tombstone p ≠ some t

/-- Two services that took over from `s` have decided alike about `p`. -/
structure SameOutcome (s s₁ s₂ : ApplicationService) (cleanup₁ cleanup₂ : DeferredRuntimeCleanup)
    (p : ProfileId) : Prop where
  listed : (s₁.observed.live p).isSome = (s₂.observed.live p).isSome
  preserved : s₁.observed.live p = s.observed.live p ↔ s₂.observed.live p = s.observed.live p
  buried : NewlyBuried s s₁ p ↔ NewlyBuried s s₂ p
  targets : cleanup₁.targets.filter (·.profileId = p) = cleanup₂.targets.filter (·.profileId = p)

/-! ## Generations -/

/-- Whether a profile keeps its generation depends on its content alone. -/
theorem Turn.preserved_iff {forced : ProfileId → Bool} {o o' : ObservedState} {next next' : Nat}
    (h : Turn forced o next o' next') (hs : o.Sound next) {p : ProfileId}
    (hp : forced p = false) : o'.live p = o.live p ↔ o.Unchanged o' p := by
  refine ⟨fun hlive => ?_, h.kept hs p hp⟩
  by_contra hcontent
  cases hg : o'.live p with
  | some g =>
    have hge := h.fresh p g (.inr hcontent) hg
    have hlt := hs.live_lt p g (hlive.symm.trans hg)
    exact absurd hlt (not_lt.2 hge)
  | none =>
    -- Neither is listed, so neither has a content.
    have hbefore := hs.listed p
    have hafter := (h.sound hs).listed p
    rw [← hlive, hg] at hbefore
    rw [hg] at hafter
    simp only [Option.isSome_none, Bool.false_eq, Option.isSome_eq_false_iff,
      Option.isNone_iff_eq_none] at hbefore hafter
    exact hcontent (by rw [ObservedState.Unchanged, hafter, hbefore]; exact BEq.rfl)

/-! ## Tombstones -/

theorem buryMissing_lookup_of_notMem {m : ProfileMap ProfileGeneration} {missing : List ProfileId}
    {n : Nat} {p : ProfileId} (h : p ∉ missing) :
    (buryMissing m missing n).1.lookup p = m.lookup p :=
  (assigned_keys missing m n).other p (latest_id_none h)

theorem buryMissing_lookup_of_mem {m : ProfileMap ProfileGeneration} {missing : List ProfileId}
    {n : Nat} {p : ProfileId} (h : p ∈ missing) :
    ∃ t, (buryMissing m missing n).1.lookup p = some t ∧ n ≤ t := by
  obtain ⟨t, ht, hge, -⟩ := (assigned_keys missing m n).fresh p p (latest_id h) rfl
  exact ⟨t, ht, hge⟩

/-! ## Cleanup targets -/

/-- The reconciliation finds a generation for every profile it looks at. -/
theorem reconcileTargets_ok {snapshot : Snapshot} {identity : MutationIdentity}
    {generations : ProfileMap ProfileGeneration} {next : ProfileMap ConnectionProfile}
    {ids : List ProfileId} (h : ∀ p ∈ ids, (snapshot.generations.lookup p).isSome) :
    ∃ result, reconcileTargets snapshot identity generations next ids = .ok result := by
  induction ids with
  | nil => exact ⟨_, rfl⟩
  | cons p ids ih =>
    obtain ⟨rest, hrest⟩ := ih fun q hq => h q (List.mem_cons_of_mem p hq)
    obtain ⟨g, hg⟩ := Option.isSome_iff_exists.1 (h p (List.mem_cons_self ..))
    simp only [reconcileTargets, hg, hrest]
    split
    · exact ⟨_, rfl⟩
    · exact ⟨_, rfl⟩

/-- The cleanup loop taken apart: a previous profile is passed over or adds one target. -/
theorem reconcileTargets_cons {snapshot : Snapshot} {identity : MutationIdentity}
    {generations : ProfileMap ProfileGeneration} {next : ProfileMap ConnectionProfile}
    {q : ProfileId} {ids : List ProfileId} {fence : Option DeferredSessionFence}
    {targets : List DeferredCleanupTarget}
    (h : reconcileTargets snapshot identity generations next (q :: ids) = .ok (fence, targets)) :
    ∃ fence' rest, reconcileTargets snapshot identity generations next ids = .ok (fence', rest) ∧
      (snapshot.changed next q = false ∧ targets = rest ∨
        (snapshot.changed next q = true ∨ q = identity.profileId) ∧
          ∃ g, snapshot.generations.lookup q = some g ∧
            targets = (reconcileTarget snapshot identity generations next q g).2 :: rest) := by
  simp only [reconcileTargets] at h
  split at h
  next hunchanged =>
    simp only [Bool.not_eq_true', Bool.or_eq_false_iff] at hunchanged
    exact ⟨fence, targets, h, .inl ⟨hunchanged.1, rfl⟩⟩
  next hchanged =>
    simp only [Bool.not_eq_true', Bool.not_eq_false, Bool.or_eq_true, Bool.and_eq_true,
      beq_iff_eq] at hchanged
    cases hg : snapshot.generations.lookup q with
    | none =>
      rw [hg] at h
      cases h
    | some g =>
      rw [hg] at h
      cases hrest : reconcileTargets snapshot identity generations next ids with
      | error e =>
        rw [hrest] at h
        cases h
      | ok rest =>
        rw [hrest] at h
        cases h
        exact ⟨rest.1, rest.2, rfl, .inr ⟨hchanged.imp_right And.left, g, rfl, rfl⟩⟩

theorem reconcileTarget_profileId (snapshot : Snapshot) (identity : MutationIdentity)
    (generations : ProfileMap ProfileGeneration) (next : ProfileMap ConnectionProfile)
    (q : ProfileId) (g : ProfileGeneration) :
    (reconcileTarget snapshot identity generations next q g).2.profileId = q := by
  simp only [reconcileTarget]
  split
  · rfl
  · split <;> rfl

theorem reconcileTarget_of_ne (snapshot : Snapshot) {identity : MutationIdentity}
    (generations : ProfileMap ProfileGeneration) (next : ProfileMap ConnectionProfile)
    {q : ProfileId} (hq : q ≠ identity.profileId) (g : ProfileGeneration) :
    (reconcileTarget snapshot identity generations next q g).2 =
      ⟨q, g, snapshot.session q, true⟩ := by
  have hlocal : (q == identity.profileId) = false := by simpa using hq
  simp [reconcileTarget, hlocal]

/-- The cleanup of a reload for a list of previous profiles. -/
def reloadTargetsOf (snapshot : Snapshot) (next : ProfileMap ConnectionProfile)
    (ids : List ProfileId) : List DeferredCleanupTarget :=
  (ids.filter (snapshot.changed next)).filterMap fun q =>
    (snapshot.generations.lookup q).map fun previousGeneration =>
      ⟨q, previousGeneration, snapshot.session q, true⟩

/-- A profile adds to the cleanup under its own id only. -/
theorem reloadTargetsOf_cons_of_ne (snapshot : Snapshot) (next : ProfileMap ConnectionProfile)
    {p q : ProfileId} (hq : q ≠ p) (ids : List ProfileId) :
    (reloadTargetsOf snapshot next (q :: ids)).filter (·.profileId = p) =
      (reloadTargetsOf snapshot next ids).filter (·.profileId = p) := by
  unfold reloadTargetsOf
  cases hchanged : snapshot.changed next q with
  | false => rw [List.filter_cons_of_neg (by simp [hchanged])]
  | true =>
    rw [List.filter_cons_of_pos hchanged, List.filterMap_cons]
    cases snapshot.generations.lookup q with
    | none => rfl
    | some g => rw [Option.map_some, List.filter_cons_of_neg (by simpa using hq)]

/-- Apart from the target of the mutation, a reconciliation cleans up what a reload does. -/
theorem reconcileTargets_filter {snapshot : Snapshot} {identity : MutationIdentity}
    {generations : ProfileMap ProfileGeneration} {next : ProfileMap ConnectionProfile}
    {p : ProfileId} (hp : p ≠ identity.profileId) {ids : List ProfileId}
    {fence : Option DeferredSessionFence} {targets : List DeferredCleanupTarget}
    (h : reconcileTargets snapshot identity generations next ids = .ok (fence, targets)) :
    targets.filter (·.profileId = p) =
      (reloadTargetsOf snapshot next ids).filter (·.profileId = p) := by
  induction ids generalizing fence targets with
  | nil =>
    cases h
    rfl
  | cons q ids ih =>
    obtain ⟨fence', rest, hrest, h⟩ := reconcileTargets_cons h
    have ih := ih hrest
    by_cases hq : q = p
    · subst hq
      rcases h with ⟨hchanged, rfl⟩ | ⟨hchanged, g, hg, rfl⟩
      · rw [ih, reloadTargetsOf, reloadTargetsOf, List.filter_cons_of_neg (by simp [hchanged])]
      · have hchanged := hchanged.resolve_right hp
        rw [reconcileTarget_of_ne snapshot generations next hp g, List.filter_cons_of_pos (by simp),
          ih, reloadTargetsOf, reloadTargetsOf, List.filter_cons_of_pos hchanged,
          List.filterMap_cons, hg, Option.map_some, List.filter_cons_of_pos (by simp)]
    · rw [reloadTargetsOf_cons_of_ne snapshot next hq ids, ← ih]
      rcases h with ⟨-, rfl⟩ | ⟨-, g, -, rfl⟩
      · rfl
      · rw [List.filter_cons_of_neg (by simp [reconcileTarget_profileId, hq])]

/-! ## Both ways from one state -/

section
variable {s : ApplicationService} {identity : MutationIdentity} {config : Config}

theorem affected_isSome
    (hs : s.observed.Sound s.nextGeneration)
    (htarget : identity.isDelete = true ∨
      ∃ profile ∈ config.profiles, profile.id = identity.profileId) :
    ∃ g, s.snapshot.affected config identity s.nextGeneration = some g := by
  have hturn := Turn.reconciled s config identity
  unfold Snapshot.affected
  cases hdelete : identity.isDelete with
  | true =>
    obtain ⟨t, ht, -⟩ := buryMissing_lookup_of_mem (m := s.observed.tombstones)
      (n := (assignGenerations s.snapshot _ config.profiles s.nextGeneration).2)
      (List.mem_singleton_self identity.profileId)
    simp only [Snapshot.reconciled, hdelete, ↓reduceIte]
    exact ⟨t, ht⟩
  | false =>
    have hlisted := (hturn.sound hs).listed identity.profileId
    rw [content_eq_latest] at hlisted
    have hsome := latest_isSome.2 (htarget.resolve_left (by simp [hdelete]))
    rw [hsome] at hlisted
    exact Option.isSome_iff_exists.1 hlisted

theorem reconcileTargets_isOk (config : Config) (identity : MutationIdentity)
    (hs : s.observed.Sound s.nextGeneration) :
    ∃ result, s.snapshot.reconcileTargets config identity s.nextGeneration = .ok result := by
  refine reconcileTargets_ok fun p hp => ?_
  have hlisted := hs.listed p
  rw [show (s.observed.content p).isSome = true from AList.lookup_isSome.2 hp] at hlisted
  exact hlisted

/-- Only a reload buries what has disappeared. -/
theorem newlyBuried_reconciled {p : ProfileId} (hp : p ≠ identity.profileId) :
    (s.snapshot.reconciled config identity s.nextGeneration).2.1.lookup p =
      s.observed.tombstone p := by
  refine buryMissing_lookup_of_notMem ?_
  split
  · simpa using hp
  · simp

theorem newlyBuried_reloaded (config : Config) (hs : s.observed.Sound s.nextGeneration)
    (p : ProfileId) :
    (∃ t, (s.snapshot.reloaded config s.nextGeneration).2.1.lookup p = some t ∧
        s.observed.tombstone p ≠ some t) ↔
      (∃ profile ∈ s.observed.config.profiles, profile.id = p) ∧
        ¬∃ profile ∈ config.profiles, profile.id = p := by
  have hmissing : p ∈ s.snapshot.profiles.keys.filter (fun p =>
      ((profileMap config.profiles).lookup p).isNone) ↔
      (∃ profile ∈ s.observed.config.profiles, profile.id = p) ∧
        ¬∃ profile ∈ config.profiles, profile.id = p := by
    have hbefore : p ∈ s.snapshot.profiles.keys ↔
        ∃ profile ∈ s.observed.config.profiles, profile.id = p := by
      rw [← AList.mem_keys, ← AList.lookup_isSome,
        show (s.snapshot.profiles.lookup p) = s.observed.content p from rfl, content_eq_latest,
        latest_isSome]
    have hafter : ((profileMap config.profiles).lookup p).isNone = true ↔
        ¬∃ profile ∈ config.profiles, profile.id = p := by
      rw [show (profileMap config.profiles).lookup p = latest ConnectionProfile.id config.profiles p
        from content_eq_latest ⟨config, .v2, ∅, ∅⟩ p, ← latest_isSome]
      simp
    rw [List.mem_filter, hbefore, hafter]
  rw [← hmissing]
  constructor
  · rintro ⟨t, ht, hne⟩
    by_contra hnot
    exact hne (by rw [← ht]; exact (buryMissing_lookup_of_notMem hnot).symm)
  · intro hmem
    obtain ⟨t, ht, hge⟩ := buryMissing_lookup_of_mem (m := s.observed.tombstones)
      (n := (assignGenerations s.snapshot _ config.profiles s.nextGeneration).2) hmem
    refine ⟨t, ht, fun hold => ?_⟩
    have hle := (assignGenerations_assigned s.snapshot
      (fun profile => !s.snapshot.changed (profileMap config.profiles) profile.id)
      config.profiles s.nextGeneration).le
    exact absurd (hs.tombstone_lt p t hold) (not_lt.2 (le_trans hle hge))

end

section
variable (s : ApplicationService) (answers : Nat → Answer ρ)

/-- The reconciliation after a mutation of `identity`. -/
def reconciliation (config : Config) (identity : MutationIdentity) :
    ApplicationService × Except ServiceError ReconcileMutationOutcome :=
  (reconcileAfterMutation config identity : Op ρ _).solo answers s

/-- The reload of a configuration. -/
def replacement (next : LoadedConfig) :
    ApplicationService × Except ServiceError DeferredRuntimeCleanup :=
  (replaceLoadedConfig next : Op ρ _).solo answers s

/-- **Reload and reconciliation.** From every state with a sound ledger, whatever sessions are
cached, and for every configuration that holds the target of the mutation unless that is deleted,
both succeed and decide alike about a profile other than the target exactly where the profile has
not disappeared. -/
theorem reconciliation_same_iff (next : LoadedConfig) (identity : MutationIdentity)
    (hs : s.observed.Sound s.nextGeneration)
    (htarget : identity.isDelete = true ∨
      ∃ profile ∈ next.config.profiles, profile.id = identity.profileId) :
    ∃ outcome cleanup,
      (reconciliation s answers next.config identity).2 = .ok outcome ∧
      (replacement s answers next).2 = .ok cleanup ∧
      outcome.cleanup.retainSecretProfiles = cleanup.retainSecretProfiles ∧
      ∀ p ≠ identity.profileId,
        SameOutcome s (reconciliation s answers next.config identity).1
            (replacement s answers next).1 outcome.cleanup cleanup p ↔
          ((∃ profile ∈ s.observed.config.profiles, profile.id = p) →
            ∃ profile ∈ next.config.profiles, profile.id = p) := by
  unfold reconciliation replacement
  obtain ⟨g, hg⟩ := affected_isSome hs htarget
  obtain ⟨⟨fence, targets⟩, htargets⟩ := reconcileTargets_isOk next.config identity hs
  have hreconciled : (reconcileAfterMutation next.config identity : Op ρ _).solo answers s =
      ({ s with
          observed := ⟨next.config, .v2,
            (s.snapshot.reconciled next.config identity s.nextGeneration).1,
            (s.snapshot.reconciled next.config identity s.nextGeneration).2.1⟩
          nextGeneration := (s.snapshot.reconciled next.config identity s.nextGeneration).2.2 },
        .ok ⟨g, fence, { targets, retainSecretProfiles := some (profileMap next.config.profiles).keys }⟩) := by
    refine Task.Ends.solo (Q := fun s' r => (s', r) = _) (reconcileAfterMutation_ends ?_ ?_) answers
    · intro fence' targets' g' htargets' hg'
      cases htargets.symm.trans htargets'
      cases hg.symm.trans hg'
      rfl
    · intro hnone
      rw [hnone _ htargets] at hg
      cases hg
  have hreplaced : (replaceLoadedConfig next : Op ρ _).solo answers s = _ :=
    Task.Ends.solo (Q := fun s' r => (s', r) = _) (replaceLoadedConfig_ends rfl) answers
  rw [hreconciled, hreplaced]
  refine ⟨_, _, rfl, rfl, rfl, fun p hp => ?_⟩
  have hturn := Turn.reconciled s next.config identity
  have hturn' := Turn.reloaded s next.config next.sourceVersion
  have hforced : (p == identity.profileId && !identity.isDelete) = false := by simp [hp]
  have hburied : ¬NewlyBuried s { s with
      observed := ⟨next.config, .v2,
        (s.snapshot.reconciled next.config identity s.nextGeneration).1,
        (s.snapshot.reconciled next.config identity s.nextGeneration).2.1⟩
      nextGeneration := (s.snapshot.reconciled next.config identity s.nextGeneration).2.2 } p := by
    rintro ⟨t, ht, hne⟩
    exact hne ((newlyBuried_reconciled hp).symm.trans ht)
  have hburied' := newlyBuried_reloaded next.config hs p
  constructor
  · intro hsame hbefore
    by_contra hgone
    exact hburied (hsame.buried.2 (hburied'.2 ⟨hbefore, hgone⟩))
  · intro hstays
    refine ⟨?_, ?_, ?_, ?_⟩
    · exact ((hturn.sound hs).listed p).trans ((hturn'.sound hs).listed p).symm
    · exact (Turn.preserved_iff hturn hs hforced).trans (Turn.preserved_iff hturn' hs rfl).symm
    · refine ⟨fun h => absurd h hburied, fun h => ?_⟩
      obtain ⟨hbefore, hgone⟩ := hburied'.1 h
      exact absurd (hstays hbefore) hgone
    · exact reconcileTargets_filter hp htargets

end

/-! ## Two profiles, of which the first is updated -/

def plainProfile (id : String) (port : Nat) : ConnectionProfile :=
  ⟨⟨id.toList, .mySql, "host".toList, port, none, none, .disabled, .none, none, ⟨none⟩⟩, id.toList⟩

def plainConfig (profiles : List ConnectionProfile) : LoadedConfig :=
  ⟨⟨2, profiles⟩, .v2, false, none, none⟩

def silence : Nat → Answer Unit :=
  fun _ => ⟨.error .mySql, .error .mySql, fun _ => .ok (), true, fun _ => .ok [], true, none,
    fun _ _ => none⟩

/-- Both profiles are observed, and the second one has a cached session. -/
def twoProfiles : ApplicationService :=
  let cached : CachedSession := ⟨⟨2, 1, .from (plainProfile "b" 3306)⟩,
    ⟨1, plainProfile "b" 3306, none, 2⟩⟩
  { ApplicationService.initial (plainConfig [plainProfile "a" 3306, plainProfile "b" 3306]) with
    sessions := (∅ : ProfileMap CachedSession).insert "b".toList cached }

/-- Somebody else changes the second profile: both ways give it a new generation and evict its
session. -/
theorem reconciliation_same_two :
    ∃ outcome cleanup : DeferredRuntimeCleanup,
      SameOutcome twoProfiles
        (reconciliation twoProfiles silence
          (plainConfig [plainProfile "a" 3307, plainProfile "b" 3307]).config
          (.update "a".toList (.defer true))).1
        (replacement twoProfiles silence
          (plainConfig [plainProfile "a" 3307, plainProfile "b" 3307])).1
        outcome cleanup "b".toList ∧
      cleanup.targets.any fun target => target.profileId == "b".toList && target.session.isSome := by
  obtain ⟨outcome, cleanup, -, hcleanup, -, h⟩ := reconciliation_same_iff twoProfiles silence
    (plainConfig [plainProfile "a" 3307, plainProfile "b" 3307])
    (.update "a".toList (.defer true)) (initial_sound _)
    (.inr ⟨plainProfile "a" 3307, List.mem_cons_self, rfl⟩)
  refine ⟨outcome.cleanup, cleanup,
    (h "b".toList (by decide)).2 fun _ => ⟨plainProfile "b" 3307, by simp [plainConfig], rfl⟩, ?_⟩
  have hevicts : ((replacement twoProfiles silence
      (plainConfig [plainProfile "a" 3307, plainProfile "b" 3307])).2.toOption.any fun cleanup =>
        cleanup.targets.any fun target =>
          target.profileId == "b".toList && target.session.isSome) = true := by
    decide +kernel
  rwa [hcleanup] at hevicts

/-- The second profile was removed by somebody else: the reload buries it, the reconciliation
of the update does not. -/
theorem reconciliation_forgets_removed :
    (reconciliation twoProfiles silence
        (plainConfig [plainProfile "a" 3307]).config (.update "a".toList (.defer true))).2.isOk ∧
      (replacement twoProfiles silence (plainConfig [plainProfile "a" 3307])).2.isOk ∧
      ∀ outcome cleanup, ¬SameOutcome twoProfiles
        (reconciliation twoProfiles silence
          (plainConfig [plainProfile "a" 3307]).config (.update "a".toList (.defer true))).1
        (replacement twoProfiles silence (plainConfig [plainProfile "a" 3307])).1
        outcome cleanup "b".toList := by
  refine ⟨by decide +kernel, by decide +kernel, fun outcome cleanup h => ?_⟩
  obtain ⟨t, ht, -⟩ := h.buried.2 ⟨4, by decide +kernel, by decide +kernel⟩
  have hnone : (reconciliation twoProfiles silence (plainConfig [plainProfile "a" 3307]).config
      (.update "a".toList (.defer true))).1.observed.tombstone "b".toList = none := by
    decide +kernel
  rw [hnone] at ht
  cases ht

end Dbotter.Service
