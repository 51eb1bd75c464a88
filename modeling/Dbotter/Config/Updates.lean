import Dbotter.Config.Writer

/-!
What one mutation does to the list of profiles, and what a reader finds in the file that the
writer prints.
-/

namespace Dbotter.Configuration
open Dbotter.Utf8 Dbotter.Program

variable {profiles profiles' : List ConnectionProfile} {mutation : ConfigMutation}

/-! ## Profile ids -/

/-- The ids are unique and valid. -/
structure Identified (profiles : List ConnectionProfile) : Prop where
  valid : ∀ profile ∈ profiles, validateProfileId profile.id = .ok ()
  unique : (profiles.map fun profile => profile.id).Nodup

theorem validateIdentities_ok_iff (seen : List Text) (profiles : List ConnectionProfile) :
    validateIdentities seen profiles = .ok () ↔
      Identified profiles ∧ ∀ profile ∈ profiles, profile.id ∉ seen := by
  induction profiles generalizing seen with
  | nil => exact ⟨fun _ => ⟨⟨by simp, by simp⟩, by simp⟩, fun _ => rfl⟩
  | cons profile profiles ih =>
    simp only [validateIdentities, bind, Except.bind]
    cases hvalid : validateProfileId profile.id with
    | error e =>
      refine iff_of_false (fun h => nomatch h) fun h => ?_
      have hok := h.1.valid profile (by simp)
      rw [hvalid] at hok
      cases hok
    | ok u =>
      by_cases hseen : profile.id ∈ seen
      · simp only [List.contains_iff_mem, hseen, if_true]
        refine iff_of_false (fun h => nomatch h) fun h => ?_
        exact h.2 profile (by simp) hseen
      · simp only [List.contains_iff_mem, hseen, if_false, ih]
        constructor
        · rintro ⟨h, hnot⟩
          refine ⟨⟨?_, ?_⟩, ?_⟩
          · simpa [hvalid] using h.valid
          · simp only [List.map_cons, List.nodup_cons, List.mem_map]
            refine ⟨?_, h.unique⟩
            rintro ⟨other, hmem, hid⟩
            exact hnot other hmem (by simp [hid])
          · intro other hmem
            rcases List.mem_cons.mp hmem with rfl | hmem
            · exact hseen
            · exact fun h' => hnot other hmem (List.mem_cons_of_mem _ h')
        · rintro ⟨h, hnot⟩
          have hnodup := h.unique
          simp only [List.map_cons, List.nodup_cons, List.mem_map] at hnodup
          refine ⟨⟨fun other hmem => h.valid other (by simp [hmem]), hnodup.2⟩, ?_⟩
          intro other hmem hid
          rcases List.mem_cons.mp hid with hid | hid
          · exact hnodup.1 ⟨other, hmem, hid⟩
          · exact hnot other (by simp [hmem]) hid

theorem validateConfigIdentity_ok_iff (config : Config) :
    validateConfigIdentity config = .ok () ↔ Identified config.profiles := by
  rw [validateConfigIdentity, validateIdentities_ok_iff]
  simp

/-! ## The mutations -/

/-- The mutation and nothing else: one profile is appended, replaced or removed, the others
keep their content and their order, and what is replaced or removed equals what the caller
expected. -/
def OnlyTarget (profiles profiles' : List ConnectionProfile) : ConfigMutation → Prop
  | .create profile =>
      (∀ other ∈ profiles, other.id ≠ profile.id) ∧ profiles' = profiles ++ [profile]
  | .createAuto _ profile =>
      ∃ id, profiles' = profiles ++ [{ profile with id }]
  | .updateChecked profileId expected profile =>
      expected.id = profileId ∧ profile.id = profileId ∧
        ∃ before existing after, existing == expected ∧
          profiles = before ++ existing :: after ∧ profiles' = before ++ profile :: after
  | .deleteChecked profileId expected =>
      expected.id = profileId ∧ ∃ before existing after, existing == expected ∧
        profiles = before ++ existing :: after ∧ profiles' = before ++ after

theorem replaceProfile_eq {profile existing : ConnectionProfile} (hid : existing.id = profile.id)
    {before after : List ConnectionProfile} (hbefore : ∀ other ∈ before, other.id ≠ profile.id) :
    replaceProfile profile (before ++ existing :: after) = before ++ profile :: after := by
  induction before with
  | nil => simp [replaceProfile, hid]
  | cons other before ih =>
    have hother : other.id ≠ profile.id := hbefore other (by simp)
    have hrest := ih fun other' hmem => hbefore other' (by simp [hmem])
    simp [replaceProfile, hother, hrest]

theorem eraseProfile_eq {profileId : Text} {existing : ConnectionProfile}
    (hid : existing.id = profileId) {before after : List ConnectionProfile}
    (hbefore : ∀ other ∈ before, other.id ≠ profileId) :
    (before ++ existing :: after).eraseP (fun candidate => candidate.id == profileId) =
      before ++ after := by
  induction before with
  | nil => simp [hid]
  | cons other before ih =>
    have hother : other.id ≠ profileId := hbefore other (by simp)
    have hrest := ih fun other' hmem => hbefore other' (by simp [hmem])
    simp [hother, hrest]

/-- The first profile with an id, and what stands around it. -/
theorem find_profile {profileId : Text} {existing : ConnectionProfile}
    (h : (profiles.find? fun candidate => candidate.id == profileId) = some existing) :
    existing.id = profileId ∧ ∃ before after, profiles = before ++ existing :: after ∧
      ∀ other ∈ before, other.id ≠ profileId := by
  obtain ⟨hid, before, after, heq, hbefore⟩ := List.find?_eq_some_iff_append.mp h
  exact ⟨beq_iff_eq.mp hid, before, after, heq, fun other hmem => by simpa using hbefore other hmem⟩

theorem applyMutation_onlyTarget {config config' : Config} {affected : Option Text}
    (h : applyMutation config mutation = .ok (config', affected)) :
    OnlyTarget config.profiles config'.profiles mutation := by
  cases mutation with
  | create profile =>
    simp only [applyMutation] at h
    split at h
    · cases h
    · next hfree =>
      cases h
      exact ⟨by simpa using hfree, rfl⟩
  | createAuto baseId profile =>
    cases h
    exact ⟨_, rfl⟩
  | updateChecked profileId expected profile =>
    simp only [applyMutation] at h
    split at h
    · cases h
    · next hids =>
      have hids' : profile.id = profileId ∧ expected.id = profileId := by simpa using hids
      split at h
      · cases h
      · next existing hfind =>
        split at h
        · cases h
        · next hsame =>
          cases h
          have hexpected : existing == expected := by simpa [bne] using hsame
          obtain ⟨hid, before, after, heq, hbefore⟩ := find_profile hfind
          refine ⟨hids'.2, hids'.1, before, existing, after, hexpected, heq, ?_⟩
          rw [heq]
          exact replaceProfile_eq (hid.trans hids'.1.symm) (hids'.1 ▸ hbefore)
  | deleteChecked profileId expected =>
    simp only [applyMutation] at h
    split at h
    · cases h
    · next existing hfind =>
      split at h
      · cases h
      · next hsame =>
        cases h
        have hexpected : existing == expected := by simpa [bne] using hsame
        obtain ⟨hid, before, after, heq, hbefore⟩ := find_profile hfind
        refine ⟨ConnectionProfile.id_eq hexpected ▸ hid, before, existing, after, hexpected,
          heq, ?_⟩
        rw [heq]
        exact eraseProfile_eq hid hbefore

/-! ## Reading what was written -/

/-- What the writer prints is read back as the configuration that was printed. -/
def Toml.ReadsBack (toml : Toml) : Prop :=
  ∀ config raw, config.version = currentConfigVersion → toml.print config = some raw →
    toml.header (raw ++ ['\n']) = some currentConfigVersion ∧
      toml.v2 (raw ++ ['\n']) = some config

theorem loadBytes_encoded {toml : Toml} (hreads : toml.ReadsBack) {config : Config}
    (hversion : config.version = currentConfigVersion) {encoded : Bytes}
    (h : encodeConfig toml config = .ok encoded) :
    loadBytes toml (some encoded) = .ok ⟨config, .v2, false, some encoded, some encoded⟩ := by
  unfold encodeConfig at h
  split at h
  · cases h
  · next raw hraw =>
    cases h
    obtain ⟨hheader, hv2⟩ := hreads config raw hversion hraw
    simp only [loadBytes, decodeUtf8_bytes, hheader, currentConfigVersion, hv2]

theorem loadBytes_fingerprint {toml : Toml} {content : Option Bytes} {loaded : LoadedConfig}
    (h : loadBytes toml content = .ok loaded) : loaded.fingerprint = content := by
  unfold loadBytes at h
  split at h
  · cases h
    rfl
  · split at h
    · cases h
    · split at h
      · cases h
      · split at h
        · cases h
        · cases h
          rfl
      · split at h
        · cases h
        · cases h
          rfl
      · cases h

/-! ## What the writer observes -/

/-- The observation reports only configurations with unique and valid ids. -/
theorem observeMain_identified (env : Environment) :
    Ensures (fun _ => True) (observeMain env) fun r _ =>
      ∀ loaded, r = .ok loaded → Identified loaded.config.profiles := by
  unfold observeMain
  refine Ensures.ite (fun _ => Ensures.fail fun _ _ loaded h => by cases h) fun _ => ?_
  refine Ensures.keep_bind (fun _ _ => trivial) (fun e _ _ loaded h => by cases h) fun loaded => ?_
  refine Ensures.bind (fun _ _ => Identified loaded.config.profiles) (Ensures.ofExcept fun _ _ => ?_)
    fun _ => ?_
  · cases hvalid : validateConfigIdentity loaded.config with
    | ok => exact (validateConfigIdentity_ok_iff _).1 hvalid
    | error e => exact fun loaded h => by cases h
  · refine Ensures.ite (fun _ => Ensures.fail fun _ _ loaded h => by cases h) fun _ => ?_
    refine Ensures.pure fun _ hidentified loaded' h => ?_
    cases h
    exact hidentified

theorem mutatePath_observes (env : Environment) (mutation : ConfigMutation)
    (consent : MigrationConsent) :
    Ensures (fun _ => True) (mutatePath env mutation consent) fun r _ =>
      ∀ outcome loaded, r = .ok outcome → outcome.observation = .observed loaded →
        Identified loaded.config.profiles := by
  unfold mutatePath
  refine Ensures.ite (fun _ => Ensures.fail fun _ _ outcome loaded h => by cases h) fun _ => ?_
  refine Ensures.keep_bind (fun _ _ => trivial) (fun e _ _ outcome loaded h => by cases h)
    fun loaded => ?_
  refine Ensures.keep_bind (fun _ _ => trivial) (fun e _ _ outcome loaded h => by cases h)
    fun _ => ?_
  refine Ensures.keep_bind (fun _ _ => trivial) (fun e _ _ outcome loaded h => by cases h)
    fun _ => ?_
  refine Ensures.keep_bind (fun _ _ => trivial) (fun e _ _ outcome loaded h => by cases h)
    fun _ => ?_
  refine Ensures.keep_bind (fun _ _ => trivial) (fun e _ _ outcome loaded h => by cases h)
    fun written => ?_
  refine Ensures.keep_bind (fun _ _ => trivial) (fun e _ _ outcome loaded h => by cases h)
    fun state => ?_
  refine Ensures.bind (fun r _ => ∀ loaded, r = .ok loaded → Identified loaded.config.profiles)
    (Ensures.attempt (observeMain_identified env)) fun observation => ?_
  cases observation with
  | ok observed =>
    refine Ensures.pure fun _ hidentified outcome loaded h hobservation => ?_
    cases h
    cases hobservation
    exact hidentified observed rfl
  | error source =>
    refine Ensures.pure fun _ hidentified outcome loaded h hobservation => ?_
    cases h
    cases hobservation

end Dbotter.Configuration
