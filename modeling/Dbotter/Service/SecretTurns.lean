import Dbotter.Config.Updates
import Dbotter.Service.Secrets

/-!
What one call does to the secrets, its cleanup included.

A call that changes the configuration leaves a cleanup, at once applied or handed to the caller.
The secret of a profile is then the one that the call supplied, or the one before where the
profile was left alone.
-/

namespace Dbotter.Service
open Dbotter.Utf8 Dbotter.Configuration Dbotter.Program
open ObservedState

variable {ρ α : Type}

/-- The writer reports only configurations that it has identified. -/
def Answer.Observes (answer : Answer ρ) : Prop :=
  ∀ mutation consent outcome loaded,
    answer.mutatePath mutation consent = some (.ok outcome) →
    outcome.observation = .observed loaded → Identified loaded.config.profiles

/-- The writer's answers are such, whatever it finds in the file. -/
theorem Answer.observes_of_writer {answer : Answer ρ}
    (h : ∀ mutation consent, answer.mutatePath mutation consent = none ∨
      ∃ env w, answer.mutatePath mutation consent =
        some (Configuration.mutatePath env mutation consent w).1) :
    answer.Observes := by
  intro mutation consent outcome loaded hanswer hobservation
  rcases h mutation consent with hnone | ⟨env, w, hwriter⟩
  · rw [hnone] at hanswer
    cases hanswer
  · rw [hwriter] at hanswer
    exact mutatePath_observes env mutation consent w trivial outcome loaded
      (Option.some.inj hanswer) hobservation

/-- A session secret is stored only for an observed profile that takes one. -/
structure Matched (s : ApplicationService) : Prop where
  sound : s.observed.Sound s.nextGeneration
  identified : Identified s.observed.config.profiles
  session : ∀ p secret, s.secret p = some secret →
    ∃ profile, s.observed.content p = some profile ∧ profile.credentialMode = .session

theorem observedProfile_eq_latest {profiles : List ConnectionProfile} (h : Identified profiles)
    (p : ProfileId) :
    profiles.find? (fun profile => profile.id == p) = latest ConnectionProfile.id profiles p := by
  cases hlatest : latest ConnectionProfile.id profiles p with
  | none =>
    rw [latest_eq_none] at hlatest
    simpa [List.find?_eq_none] using hlatest
  | some profile =>
    have hid := latest_key hlatest
    have hmem := latest_mem hlatest
    have hsome : (profiles.find? fun profile => profile.id == p).isSome := by
      rw [List.find?_isSome]
      exact ⟨profile, hmem, by simpa using hid⟩
    obtain ⟨found, hfound⟩ := Option.isSome_iff_exists.1 hsome
    have hfoundId : found.id = p := by simpa using List.find?_some hfound
    have hsame : found = profile :=
      List.inj_on_of_nodup_map h.unique (List.mem_of_find?_eq_some hfound) hmem
        (hfoundId.trans hid.symm)
    rw [hfound, hsame]

theorem content_eq_observedProfile {o : ObservedState} (h : Identified o.config.profiles)
    (p : ProfileId) : o.content p = observedProfile o.config p := by
  rw [content_eq_latest]
  exact (observedProfile_eq_latest h p).symm

/-- What is stored for a profile after a call, by what the call supplied for it. -/
def expectedSecret (s s' : ApplicationService) (supplied : Option SessionSecretUpdate)
    (p : ProfileId) : Option SessionSecret :=
  match supplied with
  | some update => update.after (s.secret p)
  | none => if s.observed.Unchanged s'.observed p then s.secret p else none

/-! ## Targets -/

theorem clearsSecret_filter (targets : List DeferredCleanupTarget) (p : ProfileId) :
    clearsSecret targets p = (targets.filter (·.profileId = p)).any (·.clearSecret) := by
  induction targets with
  | nil => rfl
  | cons target targets ih =>
    unfold clearsSecret at ih ⊢
    by_cases hp : target.profileId = p
    · simp [hp, ih]
    · simp [hp, ih]

theorem clearsSecret_reloadTargetsOf (snapshot : Snapshot) (next : ProfileMap ConnectionProfile)
    (ids : List ProfileId) (p : ProfileId) :
    clearsSecret (reloadTargetsOf snapshot next ids) p = true ↔
      p ∈ ids ∧ snapshot.changed next p = true ∧ (snapshot.generations.lookup p).isSome := by
  simp only [clearsSecret, reloadTargetsOf, List.any_eq_true, List.mem_filterMap, List.mem_filter,
    Option.map_eq_some_iff, Bool.and_eq_true, beq_iff_eq]
  constructor
  · rintro ⟨target, ⟨q, ⟨hmem, hchanged⟩, g, hg, rfl⟩, -, rfl⟩
    exact ⟨hmem, hchanged, by simp [hg]⟩
  · rintro ⟨hmem, hchanged, hsome⟩
    obtain ⟨g, hg⟩ := Option.isSome_iff_exists.1 hsome
    exact ⟨_, ⟨p, ⟨hmem, hchanged⟩, g, hg, rfl⟩, rfl, rfl⟩

/-- The target of a creation or an update keeps its secret until the update of the secret. -/
theorem clearsSecret_local {snapshot : Snapshot} {identity : MutationIdentity}
    {generations : ProfileMap ProfileGeneration} {next : ProfileMap ConnectionProfile}
    (hidentity : identity.isDelete = false) {ids : List ProfileId}
    {fence : Option DeferredSessionFence} {targets : List DeferredCleanupTarget}
    (h : reconcileTargets snapshot identity generations next ids = .ok (fence, targets)) :
    clearsSecret targets identity.profileId = false := by
  induction ids generalizing fence targets with
  | nil =>
    cases h
    rfl
  | cons q ids ih =>
    obtain ⟨fence', rest, hrest, h⟩ := reconcileTargets_cons h
    have ih := ih hrest
    rcases h with ⟨-, rfl⟩ | ⟨-, g, -, rfl⟩
    · exact ih
    · unfold clearsSecret at ih ⊢
      rw [List.any_cons, ih, Bool.or_false, reconcileTarget_profileId]
      by_cases hq : q = identity.profileId
      · have hclear : (reconcileTarget snapshot identity generations next q g).2.clearSecret =
            false := by
          simp only [reconcileTarget, hq, hidentity, BEq.rfl, Bool.not_true, Bool.or_false]
          split
          · rfl
          · split <;> rfl
        rw [hclear]
        rfl
      · simp [hq]

/-- The cleanup that a reload or a reconciliation computes leaves the secret of a profile that
did not change, and no other. -/
theorem retained_secret {s s' : ApplicationService} (hs : Matched s)
    {targets : List DeferredCleanupTarget} {p : ProfileId}
    (htargets : clearsSecret targets p = clearsSecret
      (s.snapshot.reloadTargets s'.observed.config) p) :
    (if p ∈ (profileMap s'.observed.config.profiles).keys then
      (if clearsSecret targets p then none else s.secret p) else none) =
      expectedSecret s s' none p := by
  have hnext : (p ∈ (profileMap s'.observed.config.profiles).keys) =
      ((s'.observed.content p).isSome = true) := propext AList.lookup_isSome.symm
  simp only [expectedSecret, hnext]
  cases hsecret : s.secret p with
  | none => simp
  | some secret =>
    obtain ⟨profile, hcontent, -⟩ := hs.session p secret hsecret
    have hlive : (s.observed.live p).isSome = true := by
      rw [hs.sound.listed p, hcontent]
      rfl
    have hmem : p ∈ s.snapshot.profiles.keys :=
      AList.lookup_isSome.1 (show (s.observed.content p).isSome = true by rw [hcontent]; rfl)
    have hclears := clearsSecret_reloadTargetsOf s.snapshot
      (profileMap s'.observed.config.profiles) s.snapshot.profiles.keys p
    have hchanged : s.snapshot.changed (profileMap s'.observed.config.profiles) p = true ↔
        ¬ s.observed.Unchanged s'.observed p := Snapshot.changed_iff
    rw [htargets]
    by_cases hsame : s.observed.Unchanged s'.observed p
    · have hkept : clearsSecret (s.snapshot.reloadTargets s'.observed.config) p = false := by
        refine Bool.eq_false_iff.2 fun h => ?_
        exact hchanged.1 (hclears.1 h).2.1 hsame
      have hlisted : (s'.observed.content p).isSome = true := by
        rw [isSome_eq_of_beq hsame, hcontent]
        rfl
      simp [hsame, hlisted, hkept]
    · have hcleared : clearsSecret (s.snapshot.reloadTargets s'.observed.config) p = true :=
        hclears.2 ⟨hmem, hchanged.2 hsame, hlive⟩
      simp [hsame, hcleared]

/-! ## A new configuration -/

/-- After the cleanup the secrets are as a call supplied them, and what it supplied to keep it has
supplied for a profile that takes a session secret. -/
structure Supplies (supplied : ProfileId → Option SessionSecretUpdate)
    (cleanup : DeferredRuntimeCleanup) (s s' : ApplicationService) : Prop where
  identified : Identified s'.observed.config.profiles
  secret : ∀ p, cleanup.secretAfter p (s'.secret p) = expectedSecret s s' (supplied p) p
  session : ∀ p update, supplied p = some update → update ≠ .clear →
    ∃ profile, s'.observed.content p = some profile ∧ profile.credentialMode = .session

section
variable {s s' : ApplicationService} {targets : List DeferredCleanupTarget}

/-- A call that supplies no secret. -/
theorem Supplies.nothing (targets : List DeferredCleanupTarget) (hs : Matched s)
    {config : Config} (hconfig : s'.observed.config = config)
    (hsecrets : s'.sessionSecrets = s.sessionSecrets) (hidentified : Identified config.profiles)
    (htargets : ∀ p, (latest ConnectionProfile.id config.profiles p).isSome →
      clearsSecret targets p = clearsSecret (s.snapshot.reloadTargets config) p) :
    Supplies (fun _ => none)
      { targets, retainSecretProfiles := some (profileMap config.profiles).keys } s s' := by
  subst hconfig
  refine ⟨hidentified, fun p => ?_, fun p update h => by cases h⟩
  have hsecret : s'.secret p = s.secret p := by
    unfold ApplicationService.secret
    rw [hsecrets]
  rw [hsecret]
  simp only [DeferredRuntimeCleanup.secretAfter, Bool.false_eq_true, if_false, updatesAfter,
    List.foldl_nil]
  have hlatest := content_eq_latest s'.observed p
  by_cases hlisted : (s'.observed.content p).isSome = true
  · exact retained_secret hs (htargets p (hlatest ▸ hlisted))
  · have hnext : p ∉ (profileMap s'.observed.config.profiles).keys :=
      fun hmem => hlisted (AList.lookup_isSome.2 hmem)
    rw [if_neg hnext]
    have hnone : s'.observed.content p = none := by simpa using hlisted
    simp only [expectedSecret]
    split
    next hcontent =>
      -- an id that was not observed before has no secret
      cases hstored : s.secret p with
      | none => rfl
      | some secret =>
        obtain ⟨profile, hprofile, -⟩ := hs.session p secret hstored
        rw [ObservedState.Unchanged, hnone, hprofile] at hcontent
        cases hcontent
    · rfl

/-- A call that supplies a secret for the profile that it has written. -/
theorem Supplies.written (hs : Matched s) {config : Config} (hconfig : s'.observed.config = config)
    (hsecrets : s'.sessionSecrets = s.sessionSecrets) (hidentified : Identified config.profiles)
    {q : ProfileId} {written : ConnectionProfile}
    (hwritten : observedProfile config q = some written) {update : SessionSecretUpdate}
    (hsession : update ≠ .clear → written.credentialMode = .session)
    (hlocal : clearsSecret targets q = false)
    (htargets : ∀ p, p ≠ q →
      clearsSecret targets p = clearsSecret (s.snapshot.reloadTargets config) p) :
    Supplies (fun p => if p = q then some update else none)
      { targets
        retainSecretProfiles := some (profileMap config.profiles).keys
        secretUpdates := [(q, update)] } s s' := by
  subst hconfig
  have hcontent : s'.observed.content q = some written :=
    (content_eq_observedProfile hidentified q).trans hwritten
  refine ⟨hidentified, fun p => ?_, fun p supplied h hkeep => ?_⟩
  · have hsecret : s'.secret p = s.secret p := by
      unfold ApplicationService.secret
      rw [hsecrets]
    rw [hsecret]
    simp only [DeferredRuntimeCleanup.secretAfter, Bool.false_eq_true, if_false, updatesAfter,
      List.foldl_cons, List.foldl_nil]
    by_cases hp : p = q
    · subst hp
      have hnext : p ∈ (profileMap s'.observed.config.profiles).keys :=
        AList.lookup_isSome.1 (show (s'.observed.content p).isSome = true by rw [hcontent]; rfl)
      simp [expectedSecret, hnext, hlocal]
    · rw [if_neg (Ne.symm hp), if_neg hp]
      exact retained_secret hs (htargets p hp)
  · by_cases hp : p = q
    · subst hp
      rw [if_pos rfl] at h
      cases h
      exact ⟨written, hcontent, hsession hkeep⟩
    · rw [if_neg hp] at h
      cases h

end

/-- What a call that changes the configuration does to the secrets: nothing where it is refused,
all are given up where it puts up the fence, or it supplies some. -/
inductive SecretTurn (supplied : α → ProfileId → Option SessionSecretUpdate)
    (cleanup : α → DeferredRuntimeCleanup) (s s' : ApplicationService) :
    Except RuntimeMutationFailure α → Prop
  | refused {failure : RuntimeMutationFailure} (h : Untouched s s')
      (hsecrets : s'.sessionSecrets = s.sessionSecrets) (hcleanup : failure.cleanup = {}) :
      SecretTurn supplied cleanup s s' (.error failure)
  | fenced {failure : RuntimeMutationFailure} (hcertain : s.configUncertain = false)
      (huncertain : s'.configUncertain = true) (hconfig : s'.observed.config = s.observed.config)
      (hclear : failure.cleanup.clearAllSecrets = true) :
      SecretTurn supplied cleanup s s' (.error failure)
  | done {a : α} (hcertain : s'.configUncertain = false)
      (h : Supplies (supplied a) (cleanup a) s s') : SecretTurn supplied cleanup s s' (.ok a)

/-! ## Mutations that run alone -/

/-- The state is read, and a refusal leaves nothing to clean up. -/
def Reads (s : ApplicationService) (P : α → Prop) (s' : ApplicationService) :
    Except RuntimeMutationFailure α → Prop
  | .ok a => s' = s ∧ P a
  | .error failure => s' = s ∧ failure.cleanup = {}

section
variable {β : Type} {s : ApplicationService}
  {supplied : β → ProfileId → Option SessionSecretUpdate} {cleanup : β → DeferredRuntimeCleanup}

/-- A step that reads the state only, in front of the rest of a mutation. -/
theorem secretTurn_read {t : Mutation ρ α} {f : α → Mutation ρ β} {P : α → Prop}
    (ht : t.EndsOn Answer.Observes s (Reads s P))
    (hf : ∀ a, P a → (f a).EndsOn Answer.Observes s (SecretTurn supplied cleanup s)) :
    (t >>= f).EndsOn Answer.Observes s (SecretTurn supplied cleanup s) := by
  refine ht.bind ?_ ?_
  · rintro s' a ⟨rfl, ha⟩
    exact hf a ha
  · rintro s' failure ⟨rfl, hcleanup⟩
    exact .refused (.refl _) rfl hcleanup

theorem secretTurn_certain {f : Unit → Mutation ρ β}
    (hf : s.configUncertain = false →
      (f ()).EndsOn Answer.Observes s (SecretTurn supplied cleanup s)) :
    (lift ensureConfigCertain >>= f).EndsOn Answer.Observes s (SecretTurn supplied cleanup s) := by
  refine secretTurn_read (P := fun _ => s.configUncertain = false) ?_ fun _ h => hf h
  refine Task.endsOn_mapError.2 fun _ _ => ?_
  cases hs : s.configUncertain with
  | true => simp [Task.EndsOn, Except.mapError, Reads, hs]
  | false => simp [Task.EndsOn, Except.mapError, Reads, hs]

/-- A check without an effect. -/
theorem secretTurn_check {r : Except ServiceError α} {f : α → Mutation ρ β}
    (hf : ∀ a, r = .ok a → (f a).EndsOn Answer.Observes s (SecretTurn supplied cleanup s)) :
    (lift (.ofExcept r) >>= f).EndsOn Answer.Observes s (SecretTurn supplied cleanup s) := by
  refine secretTurn_read (P := fun a => r = .ok a) ?_ hf
  refine Task.endsOn_mapError.2 ?_
  cases r with
  | error error => exact ⟨rfl, rfl⟩
  | ok a => exact ⟨rfl, rfl⟩

theorem secretTurn_withLane {body : Mutation ρ β}
    (h : body.EndsOn Answer.Observes s (SecretTurn supplied cleanup s)) :
    (withLane body).EndsOn Answer.Observes s (SecretTurn supplied cleanup s) := by
  refine Task.endsOn_bind.2 ?_
  refine Task.endsOn_bind.2 (Task.endsOn_attempt.2 (h.mono ?_))
  intro s' r hturn
  exact hturn

/-- The fence that a mutation puts up before it fails. -/
theorem secretTurn_fence {s' : ApplicationService} (hcertain : s.configUncertain = false)
    (hconfig : s'.observed.config = s.observed.config) (error : ServiceError) :
    (runtimeMutationFailure error : Mutation ρ β).EndsOn Answer.Observes s'
      (SecretTurn supplied cleanup s) := by
  intro _ _ _ _
  exact .fenced hcertain rfl hconfig rfl

/-- What the callers make of a failed write: the failure of the observation stays as it is. -/
def KeepsFence (g : RuntimeMutationFailure → RuntimeMutationFailure) : Prop :=
  (∀ failure, failure.cleanup = {} → (g failure).cleanup = {}) ∧
    ∀ commitState source cleanup, g { error := .postCommitObservation commitState source, cleanup } =
      { error := .postCommitObservation commitState source, cleanup }

theorem createWriteFailure_keepsFence (request : CreateProfileRequest) :
    KeepsFence (createWriteFailure request) := by
  refine ⟨fun failure h => ?_, fun _ _ _ => rfl⟩
  unfold createWriteFailure
  split
  · split
    · rfl
    · exact h
  · exact h

theorem checkedWriteFailure_keepsFence (p : ProfileId) (o : OperationId) :
    KeepsFence (checkedWriteFailure p o) := by
  refine ⟨fun failure h => ?_, fun _ _ _ => rfl⟩
  unfold checkedWriteFailure
  split
  · rfl
  · rfl
  · exact h

/-- A write reports an identified configuration, is refused, or puts up the fence. -/
theorem writeConfig_endsOn (mutation : ConfigMutation) (consent : MigrationConsent) :
    (writeConfig mutation consent : Mutation ρ ObservedMutationOutcome).EndsOn Answer.Observes s
      fun s' r =>
        match r with
        | .ok outcome => s' = s ∧ Identified outcome.loaded.config.profiles
        | .error failure => (s' = s ∧ failure.cleanup = {}) ∨
            ∃ commitState source cleanup,
              failure = { error := .postCommitObservation commitState source, cleanup } ∧
              cleanup.clearAllSecrets = true ∧ s'.configUncertain = true ∧
              s'.observed.config = s.observed.config := by
  refine Task.EndsOn.bind (Q := fun s' r => s' = s ∧
    match r with
    | .ok outcome => ∀ loaded, outcome.observation = .observed loaded →
        Identified loaded.config.profiles
    | .error failure => failure.cleanup = {})
    (Task.endsOn_mapError.2 fun answer hanswer => ⟨rfl, ?_⟩) ?_ ?_
  · simp only
    cases hwrite : answer.mutatePath mutation consent with
    | none => rfl
    | some result =>
      cases result with
      | error error => rfl
      | ok outcome => exact fun loaded => hanswer _ _ _ _ hwrite
  · rintro s' outcome ⟨rfl, hidentified⟩
    cases hobservation : outcome.observation with
    | observed loaded => exact ⟨rfl, hidentified loaded hobservation⟩
    | failed commitState source =>
      intro _ _ _ _
      exact .inr ⟨commitState, source, _, rfl, rfl, rfl, rfl⟩
  · rintro s' failure ⟨rfl, hcleanup⟩
    exact .inl ⟨rfl, hcleanup⟩

/-- The write of a mutation, in front of what becomes of its outcome. -/
theorem secretTurn_write (hcertain : s.configUncertain = false) {mutation : ConfigMutation}
    {consent : MigrationConsent} {g : RuntimeMutationFailure → RuntimeMutationFailure}
    (hg : KeepsFence g) {f : ObservedMutationOutcome → Mutation ρ β}
    (hf : ∀ outcome, Identified outcome.loaded.config.profiles →
      (f outcome).EndsOn Answer.Observes s (SecretTurn supplied cleanup s)) :
    ((writeConfig mutation consent).mapError g >>= f).EndsOn Answer.Observes s
      (SecretTurn supplied cleanup s) := by
  refine Task.endsOn_bind.2 (Task.endsOn_mapError.2 ((writeConfig_endsOn mutation consent).mono ?_))
  rintro s' (failure | outcome) h
  · rcases h with ⟨rfl, hcleanup⟩ | ⟨commitState, source, cleanup, rfl, hclear, huncertain, hconfig⟩
    · exact .refused (.refl _) rfl (hg.1 failure hcleanup)
    · refine .fenced hcertain huncertain hconfig ?_
      rw [hg.2]
      exact hclear
  · obtain ⟨rfl, hidentified⟩ := h
    exact hf outcome hidentified

end

/-! ### Reconciling and cleaning up -/

section
variable {s : ApplicationService}

theorem clearsSecret_reconciled {config : Config} {identity : MutationIdentity}
    {fence : Option DeferredSessionFence} {targets : List DeferredCleanupTarget}
    (h : s.snapshot.reconcileTargets config identity s.nextGeneration = .ok (fence, targets))
    {p : ProfileId} (hp : p ≠ identity.profileId) :
    clearsSecret targets p = clearsSecret (s.snapshot.reloadTargets config) p := by
  rw [clearsSecret_filter, clearsSecret_filter, reconcileTargets_filter hp h]
  rfl

/-- The reconciliation after a creation or an update, with the secret that goes with it. -/
theorem reconcile_written (hs : Matched s) (hcertain : s.configUncertain = false)
    {config : Config} (hidentified : Identified config.profiles) {identity : MutationIdentity}
    (hidentity : identity.isDelete = false) {written : ConnectionProfile}
    (hwritten : observedProfile config identity.profileId = some written)
    {update : SessionSecretUpdate}
    (hsession : update ≠ .clear → written.credentialMode = .session) :
    (reconcile config identity : Mutation ρ ReconcileMutationOutcome).EndsOn Answer.Observes s
      (SecretTurn (fun _ p => if p = identity.profileId then some update else none)
        (fun outcome => { outcome.cleanup with
          secretUpdates := outcome.cleanup.secretUpdates ++ [(identity.profileId, update)] }) s) := by
  refine Task.Ends.on (Task.ends_bind.2 (Task.ends_attempt.2 (reconcileAfterMutation_ends ?_ ?_)))
  · intro fence targets g htargets _
    have hsupplies {s' : ApplicationService} (hconfig : s'.observed.config = config)
        (hsecrets : s'.sessionSecrets = s.sessionSecrets) :=
      Supplies.written hs hconfig hsecrets hidentified hwritten hsession
        (clearsSecret_local hidentity htargets) fun p hp => clearsSecret_reconciled htargets hp
    exact .done hcertain (hsupplies rfl rfl)
  · intro _ _ _
    exact .fenced hcertain rfl rfl rfl

/-- The reconciliation after a deletion. -/
theorem reconcile_deleted (hs : Matched s) (hcertain : s.configUncertain = false)
    {config : Config} (hidentified : Identified config.profiles) {p : ProfileId}
    (hdeleted : observedProfile config p = none) :
    (reconcile config (.delete p) : Mutation ρ ReconcileMutationOutcome).EndsOn Answer.Observes s
      (SecretTurn (fun _ _ => none) (fun outcome => outcome.cleanup) s) := by
  refine Task.Ends.on (Task.ends_bind.2 (Task.ends_attempt.2 (reconcileAfterMutation_ends ?_ ?_)))
  · intro fence targets g htargets _
    refine .done hcertain (Supplies.nothing _ hs rfl rfl hidentified fun q hlisted => ?_)
    refine clearsSecret_reconciled htargets fun hq => ?_
    rw [← observedProfile_eq_latest hidentified, show q = p from hq,
      show config.profiles.find? _ = none from hdeleted] at hlisted
    cases hlisted
  · intro _ _ _
    exact .fenced hcertain rfl rfl rfl

/-- A cleanup that is settled leaves the secrets that it would leave later. -/
structure Settled (cleanup cleanup' : DeferredRuntimeCleanup) (s s' : ApplicationService) : Prop where
  untouched : Untouched s s'
  secret : ∀ p, cleanup'.secretAfter p (s'.secret p) = cleanup.secretAfter p (s.secret p)

/-- The cleanup that a mutation leaves to its caller. -/
def leftCleanup (deferred : Bool) (cleanup : DeferredRuntimeCleanup) : DeferredRuntimeCleanup :=
  if deferred then cleanup else {}

theorem settleCleanup_settles (deferCleanup : Bool) (cleanup : DeferredRuntimeCleanup) :
    (settleCleanup deferCleanup cleanup : Mutation ρ DeferredRuntimeCleanup).Ends s
      fun s' r => ∃ cleanup', r = .ok cleanup' ∧
        Settled cleanup (leftCleanup deferCleanup cleanup') s s' := by
  cases deferCleanup with
  | true => exact ⟨cleanup, rfl, .refl s, fun _ => rfl⟩
  | false =>
    refine ((applyDeferredCleanup_stores cleanup).mapError _ s).bind ?_ ?_
    · rintro s' _ ⟨hquiet, -, hsecret⟩
      exact ⟨{}, rfl, hquiet, hsecret⟩
    · rintro s' e ⟨-, ⟨a, h⟩, -⟩
      cases h

/-- The end of a creation or a deletion. -/
theorem settleCleanup_bind {supplied : ProfileId → Option SessionSecretUpdate}
    {supplied' : RuntimeMutationOutcome → ProfileId → Option SessionSecretUpdate}
    (deferCleanup : Bool) {cleanup : DeferredRuntimeCleanup}
    {finish : DeferredRuntimeCleanup → RuntimeMutationOutcome}
    (h : ∀ cleanup, supplied' (finish cleanup) = supplied ∧ (finish cleanup).cleanup = cleanup) :
    (settleCleanup deferCleanup cleanup >>= fun cleanup => pure (finish cleanup) :
      Mutation ρ RuntimeMutationOutcome).Ends s fun s' r =>
        ∃ outcome, r = .ok outcome ∧ supplied' outcome = supplied ∧
          Settled cleanup (leftCleanup deferCleanup outcome.cleanup) s s' := by
  refine (settleCleanup_settles deferCleanup cleanup).bind ?_ ?_
  · rintro s' settled ⟨cleanup', hcleanup, hsettled⟩
    cases hcleanup
    refine ⟨_, rfl, (h settled).1, ?_⟩
    rw [(h settled).2]
    exact hsettled
  · rintro s' e ⟨cleanup', h, -⟩
    cases h

theorem settleUpdate_settles (policy : UpdateSessionPolicy) (fence : Option DeferredSessionFence)
    (cleanup : DeferredRuntimeCleanup) :
    (settleUpdate policy fence cleanup :
      Mutation ρ (Option DeferredSessionFence × DeferredRuntimeCleanup)).Ends s
      fun s' r => ∃ settled, r = .ok settled ∧
        Settled cleanup (leftCleanup (policy == .defer) settled.2) s s' := by
  have hfinish (s : ApplicationService) :
      (lift (applyDeferredCleanup cleanup) >>= fun _ => pure (none, {}) :
        Mutation ρ (Option DeferredSessionFence × DeferredRuntimeCleanup)).Ends s
        fun s' r => ∃ settled, r = .ok settled ∧ Settled cleanup {} s s' := by
    refine ((applyDeferredCleanup_stores cleanup).mapError _ s).bind ?_ ?_
    · rintro s' _ ⟨hquiet, -, hsecret⟩
      exact ⟨(none, {}), rfl, hquiet, hsecret⟩
    · rintro s' e ⟨-, ⟨a, h⟩, -⟩
      cases h
  cases policy with
  | defer => exact ⟨(fence, cleanup), rfl, .refl s, fun _ => rfl⟩
  | legacy =>
    cases fence with
    | none => exact hfinish s
    | some fence =>
      refine ((resolveDeferredSession_stores fence true).mapError _ s).bind ?_ ?_
      · rintro s' _ ⟨hquiet, -, hsecret⟩
        refine (hfinish s').mono ?_
        rintro s'' r ⟨settled, hr, hsettled⟩
        refine ⟨settled, hr, hquiet.trans hsettled.untouched, fun p => ?_⟩
        exact (hsettled.secret p).trans (by rw [hsecret p])
      · rintro s' e ⟨-, ⟨a, h⟩, -⟩
        cases h

theorem Supplies.settled {supplied : ProfileId → Option SessionSecretUpdate}
    {cleanup cleanup' : DeferredRuntimeCleanup} {s' s'' : ApplicationService}
    (h : Supplies supplied cleanup s s') (hsettled : Settled cleanup cleanup' s' s'') :
    Supplies supplied cleanup' s s'' := by
  have hobserved := hsettled.untouched.observed
  refine ⟨by rw [hobserved]; exact h.identified, fun p => ?_, ?_⟩
  · rw [hsettled.secret p, h.secret p]
    unfold expectedSecret
    rw [hobserved]
  · rw [hobserved]
    exact h.session

/-- What follows a mutation settles its cleanup. -/
theorem secretTurn_settle {β : Type} {t : Mutation ρ α} {f : α → Mutation ρ β}
    {supplied : α → ProfileId → Option SessionSecretUpdate} {cleanup : α → DeferredRuntimeCleanup}
    {supplied' : β → ProfileId → Option SessionSecretUpdate}
    {cleanup' : β → DeferredRuntimeCleanup}
    (ht : t.EndsOn Answer.Observes s (SecretTurn supplied cleanup s))
    (hf : ∀ a s', (f a).Ends s' fun s'' r =>
      ∃ b, r = .ok b ∧ supplied' b = supplied a ∧ Settled (cleanup a) (cleanup' b) s' s'') :
    (t >>= f).EndsOn Answer.Observes s (SecretTurn supplied' cleanup' s) := by
  refine Task.endsOn_bind.2 (ht.mono ?_)
  intro s' r hturn
  cases hturn with
  | refused h hsecrets hcleanup => exact .refused h hsecrets hcleanup
  | fenced hcertain huncertain hconfig hclear => exact .fenced hcertain huncertain hconfig hclear
  | done hcertain h =>
    refine Task.Ends.on ((hf _ s').mono ?_)
    rintro s'' r ⟨b, rfl, hsupplied, hsettled⟩
    refine .done (hsettled.untouched.configUncertain.trans hcertain) ?_
    rw [hsupplied]
    exact h.settled hsettled

/-! ### Creating, updating and deleting -/

theorem createMutation_endsOn (request : CreateProfileRequest) :
    (createMutation request : Mutation ρ (ConfigMutation × ConnectionProfile)).EndsOn
      Answer.Observes s (Reads s fun created => created.2.toConnectionDraft = request.draft) := by
  unfold createMutation
  split
  next profileId _ =>
    refine Task.endsOn_bind.2 (Task.endsOn_mapError.2 ?_)
    cases validateProfileId profileId with
    | error error => exact ⟨rfl, rfl⟩
    | ok => exact ⟨rfl, rfl⟩
  · exact ⟨rfl, rfl⟩

theorem validateCreateSecretUpdate_session {mode : CredentialMode} {update : SessionSecretUpdate}
    (h : validateCreateSecretUpdate mode update = .ok ()) (hkeep : update ≠ .clear) :
    mode = .session := by
  cases mode <;> cases update <;> first | rfl | exact absurd rfl hkeep | cases h

theorem validateUpdateSecret_session {persisted : ConnectionProfile} {mode : CredentialMode}
    {update : SessionSecretUpdate} {hasCurrent : Bool}
    (h : validateUpdateSecret persisted mode update hasCurrent = .ok ())
    (hkeep : update ≠ .clear) : mode = .session := by
  cases mode <;> cases update <;> first | rfl | exact absurd rfl hkeep | cases h

/-- The secret that a mutation supplies for the profile that it has written. -/
def suppliedBy (update : SessionSecretUpdate) (outcome : RuntimeMutationOutcome) (p : ProfileId) :
    Option SessionSecretUpdate :=
  if p = outcome.mutation.profileId then some update else none

/-- The check of a draft, in front of the rest of a mutation. -/
theorem secretTurn_checkDraft {β : Type} {supplied : β → ProfileId → Option SessionSecretUpdate}
    {cleanup : β → DeferredRuntimeCleanup} {draft : ConnectionDraft} {f : Unit → Mutation ρ β}
    (hf : (f ()).EndsOn Answer.Observes s (SecretTurn supplied cleanup s)) :
    (lift (checkDraft draft) >>= f).EndsOn Answer.Observes s (SecretTurn supplied cleanup s) := by
  refine secretTurn_read (P := fun _ => True) ?_ fun _ _ => hf
  refine Task.endsOn_mapError.2 fun answer _ => ?_
  simp only
  cases validateConnectionDraft answer.validateCaFile draft with
  | error error => exact ⟨rfl, rfl⟩
  | ok => exact ⟨rfl, trivial⟩

theorem ok_of_mapError {ε ε' : Type} {r : Except ε α} {f : ε → ε'} {a : α}
    (h : r.mapError f = .ok a) : r = .ok a := by
  cases r with
  | ok => exact congrArg Except.ok (Except.ok.inj h)
  | error => cases h

theorem createProfileInner_secrets (request : CreateProfileRequest) (deferCleanup : Bool)
    (hs : Matched s) :
    (createProfileInner request deferCleanup : Mutation ρ RuntimeMutationOutcome).EndsOn
      Answer.Observes s (SecretTurn (suppliedBy request.secretUpdate)
        (fun outcome => leftCleanup deferCleanup outcome.cleanup) s) := by
  refine secretTurn_certain fun hcertain => ?_
  refine secretTurn_checkDraft ?_
  refine secretTurn_check fun _ hsecret => ?_
  refine secretTurn_withLane (secretTurn_certain fun _ => ?_)
  refine secretTurn_read (createMutation_endsOn request) fun created hcreated => ?_
  refine secretTurn_write hcertain (createWriteFailure_keepsFence request) fun outcome hidentified => ?_
  split
  · exact .refused (.refl s) rfl rfl
  next profileId _ =>
    split
    · exact secretTurn_fence hcertain rfl _
    split
    · exact secretTurn_fence hcertain rfl _
    next hobserved =>
      obtain ⟨written, hwritten, hsame⟩ : ∃ written,
          observedProfile outcome.loaded.config profileId = some written ∧
            written == { created.2 with id := profileId } :=
        exists_of_beq_some (by simpa [bne] using hobserved)
      have hsession : request.secretUpdate ≠ .clear → written.credentialMode = .session := by
        intro hkeep
        have hdraft := validateCreateSecretUpdate_session (ok_of_mapError hsecret) hkeep
        rw [← hcreated] at hdraft
        exact (ConnectionProfile.credentialMode_eq hsame).trans hdraft
      have hreconcile := reconcile_written (ρ := ρ) hs hcertain hidentified
        (show (MutationIdentity.create profileId).isDelete = false from rfl) hwritten hsession
      refine secretTurn_settle hreconcile fun reconciled s' => ?_
      exact settleCleanup_bind deferCleanup fun cleanup => ⟨rfl, rfl⟩

/-- A lock section that reads, and fails with an error of the service. -/
theorem readStep_endsOn {f : ApplicationService → Except ServiceError α} {P : α → Prop}
    (h : ∀ a, f s = .ok a → P a) :
    (lift (.step fun _ s => ⟨s, f s, none⟩) : Mutation ρ α).EndsOn Answer.Observes s
      (Reads s P) := by
  refine Task.endsOn_mapError.2 fun _ _ => ?_
  simp only
  cases hf : f s with
  | error error => exact ⟨rfl, rfl⟩
  | ok a => exact ⟨rfl, h a hf⟩

theorem updateProfileInner_secrets (request : UpdateProfileRequest) (policy : UpdateSessionPolicy)
    (hs : Matched s) :
    (updateProfileInner request policy : Mutation ρ RuntimeMutationOutcome).EndsOn
      Answer.Observes s (SecretTurn (suppliedBy request.secretUpdate)
        (fun outcome => leftCleanup (policy == .defer) outcome.cleanup) s) := by
  refine secretTurn_certain fun hcertain => ?_
  refine secretTurn_checkDraft ?_
  refine secretTurn_withLane (secretTurn_certain fun _ => ?_)
  refine secretTurn_read (P := fun _ => True) (readStep_endsOn fun _ _ => trivial) fun _ _ => ?_
  refine secretTurn_read (P := fun _ => True) (readStep_endsOn fun _ _ => trivial)
    fun expected _ => ?_
  refine secretTurn_read (P := fun _ => True) (readStep_endsOn fun _ _ => trivial)
    fun hasCurrent _ => ?_
  refine secretTurn_check fun _ hsecret => ?_
  refine secretTurn_write hcertain (checkedWriteFailure_keepsFence _ _) fun outcome hidentified => ?_
  split
  · exact secretTurn_fence hcertain rfl _
  next hobserved =>
    obtain ⟨written, hwritten, hsame⟩ : ∃ written,
        observedProfile outcome.loaded.config request.profileId = some written ∧
          written == ⟨request.draft, request.profileId⟩ := by
      rw [Bool.or_eq_true, not_or] at hobserved
      exact exists_of_beq_some (by simpa [bne] using hobserved.2)
    have hsession : request.secretUpdate ≠ .clear → written.credentialMode = .session :=
      fun hkeep => (ConnectionProfile.credentialMode_eq hsame).trans
        (validateUpdateSecret_session (ok_of_mapError hsecret) hkeep)
    have hreconcile (policy : LocalSessionPolicy) :=
      reconcile_written (ρ := ρ) hs hcertain hidentified
        (show (MutationIdentity.update request.profileId policy).isDelete = false from rfl)
        hwritten hsession
    refine secretTurn_settle (hreconcile _) fun reconciled s' => ?_
    refine (settleUpdate_settles policy _ _).bind ?_ ?_
    · rintro s'' settled ⟨settled', h, hsettled⟩
      cases h
      exact ⟨_, rfl, rfl, hsettled⟩
    · rintro s'' e ⟨settled', h, -⟩
      cases h

theorem deleteProfileInner_secrets (request : DeleteProfileRequest) (deferCleanup : Bool)
    (hs : Matched s) :
    (deleteProfileInner request deferCleanup : Mutation ρ RuntimeMutationOutcome).EndsOn
      Answer.Observes s (SecretTurn (fun _ _ => none)
        (fun outcome => leftCleanup deferCleanup outcome.cleanup) s) := by
  refine secretTurn_certain fun hcertain => ?_
  refine secretTurn_withLane (secretTurn_certain fun _ => ?_)
  refine secretTurn_read (P := fun _ => True) (readStep_endsOn fun _ _ => trivial) fun _ _ => ?_
  refine secretTurn_read (P := fun _ => True) (readStep_endsOn fun _ _ => trivial)
    fun expected _ => ?_
  refine secretTurn_write hcertain (checkedWriteFailure_keepsFence _ _) fun outcome hidentified => ?_
  split
  · exact secretTurn_fence hcertain rfl _
  next hobserved =>
    have hdeleted : observedProfile outcome.loaded.config request.profileId = none := by
      simp only [Bool.or_eq_true, not_or, Bool.not_eq_true, Option.isSome_eq_false_iff,
        Option.isNone_iff_eq_none] at hobserved
      exact hobserved.2
    refine secretTurn_settle (reconcile_deleted hs hcertain hidentified hdeleted)
      fun reconciled s' => ?_
    exact settleCleanup_bind deferCleanup fun cleanup => ⟨rfl, rfl⟩

end

end Dbotter.Service
