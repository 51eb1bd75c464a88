import Dbotter.Service.Reconciliation

/-!
What the cleanup of a call does to the secrets of the profiles.

A cleanup clears its targets, clears everything or all but the listed profiles, and then applies
updates. Seen from one profile it is a function of the secret that was stored for it.
-/

namespace Dbotter.Service
open Dbotter.Utf8 Dbotter.Configuration Dbotter.Program
open ObservedState

variable {ρ α : Type}

def ApplicationService.secret (s : ApplicationService) (p : ProfileId) : Option SessionSecret :=
  s.sessionSecrets.lookup p

/-- What is stored for a profile after an update of its secret. -/
def SessionSecretUpdate.after (secret : Option SessionSecret) :
    SessionSecretUpdate → Option SessionSecret
  | .keep => secret
  | .replace secret => some secret
  | .clear => none

theorem SessionSecretUpdate.apply_lookup (q p : ProfileId) (secrets : ProfileMap SessionSecret)
    (update : SessionSecretUpdate) :
    (update.apply q secrets).lookup p =
      if q = p then update.after (secrets.lookup p) else secrets.lookup p := by
  by_cases hq : q = p
  · subst hq
    rw [if_pos rfl]
    cases update with
    | keep => rfl
    | replace secret => exact AList.lookup_insert secrets
    | clear => exact AList.lookup_erase q secrets
  · rw [if_neg hq]
    cases update with
    | keep => rfl
    | replace secret => exact AList.lookup_insert_ne (Ne.symm hq)
    | clear => exact AList.lookup_erase_ne (Ne.symm hq)

theorem eraseAll_lookup (keys : List ProfileId) (secrets : ProfileMap SessionSecret)
    (p : ProfileId) :
    (eraseAll secrets keys).lookup p = if p ∈ keys then none else secrets.lookup p := by
  induction keys generalizing secrets with
  | nil => simp [eraseAll]
  | cons key keys ih =>
    have hstep := ih (secrets.erase key)
    have herase := SessionSecretUpdate.apply_lookup key p secrets .clear
    simp only [SessionSecretUpdate.apply, SessionSecretUpdate.after] at herase
    simp only [eraseAll, List.foldl_cons] at hstep ⊢
    rw [hstep, herase]
    by_cases hkey : key = p
    · simp [hkey]
    · simp [hkey, Ne.symm hkey]

/-! ## Tasks that change the secrets -/

/-- Every run of the task alone succeeds, leaves the ledger, and takes the secret of each profile
through `f`. -/
def Stores {ε : Type} (f : ProfileId → Option SessionSecret → Option SessionSecret)
    (t : Task ApplicationService (Answer ρ) Event ε α) : Prop :=
  ∀ s, t.Ends s fun s' r => Untouched s s' ∧ (∃ a, r = .ok a) ∧
    ∀ p, s'.secret p = f p (s.secret p)

namespace Stores
variable {ε ε' β : Type} {f g : ProfileId → Option SessionSecret → Option SessionSecret}
  {t : Task ApplicationService (Answer ρ) Event ε α}

theorem ok (a : α) :
    Stores (fun _ x => x) (.done (.ok a) : Task ApplicationService (Answer ρ) Event ε α) :=
  fun s => ⟨.refl s, ⟨a, rfl⟩, fun _ => rfl⟩

theorem bind {u : α → Task ApplicationService (Answer ρ) Event ε β} (ht : Stores f t)
    (hu : ∀ a, Stores g (u a)) : Stores (fun p x => g p (f p x)) (t >>= u) := by
  intro s
  refine (ht s).bind ?_ ?_
  · rintro s' a ⟨hquiet, -, hsecret⟩
    refine (hu a s').mono ?_
    rintro s'' r ⟨hquiet', hok, hsecret'⟩
    refine ⟨hquiet.trans hquiet', hok, fun p => ?_⟩
    rw [hsecret' p, hsecret p]
  · rintro s' e ⟨-, ⟨a, h⟩, -⟩
    cases h

theorem mapError (ht : Stores f t) (h : ε → ε') : Stores f (t.mapError h) := by
  intro s
  refine Task.ends_mapError.2 ((ht s).mono ?_)
  rintro s' r ⟨hquiet, ⟨a, rfl⟩, hsecret⟩
  exact ⟨hquiet, ⟨a, rfl⟩, hsecret⟩

end Stores

theorem close_stores (handle : Handle) : Stores (fun _ x => x) (close handle : Op ρ Unit) :=
  fun _ _ => ⟨⟨rfl, rfl, rfl⟩, ⟨(), rfl⟩, fun _ => rfl⟩

theorem evictCachedSessionExact_stores (p : ProfileId) (g : ProfileGeneration)
    (session : SessionGeneration) :
    Stores (fun _ x => x) (evictCachedSessionExact p g session : Op ρ Bool) := by
  have htake : Stores (fun _ x => x)
      (takeCachedSessionExact p g session : Op ρ (Option Handle)) := by
    intro s _
    simp only
    split
    · split <;> exact ⟨⟨rfl, rfl, rfl⟩, ⟨_, rfl⟩, fun _ => rfl⟩
    · exact ⟨.refl s, ⟨_, rfl⟩, fun _ => rfl⟩
  refine .bind htake fun removed => ?_
  cases removed with
  | none => exact .ok _
  | some handle => exact .bind (close_stores handle) fun _ => .ok _

theorem retagCachedSessionExact_stores (p : ProfileId) (expected : CachedSessionIdentity)
    (g : ProfileGeneration) (fingerprint : ConnectionFingerprint) :
    Stores (fun _ x => x) (retagCachedSessionExact p expected g fingerprint : Op ρ Bool) := by
  intro s _
  dsimp only
  split
  · exact ⟨.refl s, ⟨_, rfl⟩, fun _ => rfl⟩
  · split <;> exact ⟨⟨rfl, rfl, rfl⟩, ⟨_, rfl⟩, fun _ => rfl⟩

theorem resolveDeferredSession_stores (fence : DeferredSessionFence) (allowRetag : Bool) :
    Stores (fun _ x => x) (resolveDeferredSession fence allowRetag : Op ρ Bool) := by
  unfold resolveDeferredSession
  split
  · exact retagCachedSessionExact_stores _ _ _ _
  · exact .bind (evictCachedSessionExact_stores _ _ _) fun _ => .ok _

theorem evictTargets_stores (targets : List DeferredCleanupTarget) :
    Stores (fun _ x => x) (evictTargets targets : Op ρ Unit) := by
  induction targets with
  | nil => exact .ok _
  | cons target targets ih =>
    unfold evictTargets
    split
    · exact .bind (evictCachedSessionExact_stores _ _ _) fun _ => ih
    · exact ih

theorem applySecret_stores (q : ProfileId) (update : SessionSecretUpdate) :
    Stores (fun p x => if q = p then update.after x else x) (applySecret q update : Op ρ Unit) :=
  fun s _ => ⟨⟨rfl, rfl, rfl⟩, ⟨(), rfl⟩, fun p =>
    SessionSecretUpdate.apply_lookup q p s.sessionSecrets update⟩

/-! ## The cleanup, seen from one profile -/

def clearsSecret (targets : List DeferredCleanupTarget) (p : ProfileId) : Bool :=
  targets.any fun target => target.clearSecret && target.profileId == p

theorem clearTargetSecrets_stores (targets : List DeferredCleanupTarget) :
    Stores (fun p x => if clearsSecret targets p then none else x)
      (clearTargetSecrets targets : Op ρ Unit) := by
  induction targets with
  | nil => exact .ok _
  | cons target targets ih =>
    unfold clearTargetSecrets
    cases hclear : target.clearSecret with
    | false =>
      simp only [clearsSecret, List.any_cons, hclear, Bool.false_and, Bool.false_or,
        Bool.false_eq_true, if_false]
      exact ih
    | true =>
      simp only [if_true]
      intro s
      refine ((Stores.bind (applySecret_stores target.profileId .clear) fun _ => ih) s).mono ?_
      rintro s' r ⟨hquiet, hok, hsecret⟩
      refine ⟨hquiet, hok, fun p => ?_⟩
      rw [hsecret p]
      by_cases hp : target.profileId = p
      · simp [clearsSecret, hclear, hp, SessionSecretUpdate.after]
      · simp [clearsSecret, hp]

/-- The updates of a cleanup, one after the other. -/
def updatesAfter (p : ProfileId) (updates : List (ProfileId × SessionSecretUpdate))
    (secret : Option SessionSecret) : Option SessionSecret :=
  updates.foldl (fun x update => if update.1 = p then update.2.after x else x) secret

theorem applySecretUpdates_stores (updates : List (ProfileId × SessionSecretUpdate)) :
    Stores (fun p => updatesAfter p updates) (applySecretUpdates updates : Op ρ Unit) := by
  induction updates with
  | nil => exact .ok _
  | cons update updates ih =>
    exact Stores.bind (g := fun p => updatesAfter p updates)
      (applySecret_stores update.1 update.2) fun _ => ih

theorem retainSecrets_stores (profileIds : List ProfileId) :
    Stores (fun p x => if p ∈ profileIds then x else none)
      (retainSecrets profileIds : Op ρ Unit) := by
  intro s _
  refine ⟨⟨rfl, rfl, rfl⟩, ⟨(), rfl⟩, fun p => ?_⟩
  simp only [ApplicationService.secret]
  rw [eraseAll_lookup]
  by_cases hp : p ∈ profileIds
  · simp [hp]
  · rw [if_neg hp]
    split
    · rfl
    next hkey =>
      refine AList.lookup_eq_none.2 fun hmem => hkey ?_
      exact List.mem_filter.2 ⟨hmem, by simpa using hp⟩

namespace DeferredRuntimeCleanup

/-- What a cleanup leaves of the secret of a profile. -/
def secretAfter (cleanup : DeferredRuntimeCleanup) (p : ProfileId)
    (secret : Option SessionSecret) : Option SessionSecret :=
  if cleanup.clearAllSecrets then none
  else
    let kept := if clearsSecret cleanup.targets p then none else secret
    match cleanup.retainSecretProfiles with
    | some profileIds =>
        updatesAfter p cleanup.secretUpdates (if p ∈ profileIds then kept else none)
    | none => updatesAfter p cleanup.secretUpdates kept

@[simp] theorem secretAfter_empty (p : ProfileId) (secret : Option SessionSecret) :
    ({} : DeferredRuntimeCleanup).secretAfter p secret = secret := rfl

end DeferredRuntimeCleanup

theorem clearAllSecrets_stores :
    Stores (fun _ _ => none) (clearAllSecrets : Op ρ Unit) :=
  fun _ _ => ⟨⟨rfl, rfl, rfl⟩, ⟨(), rfl⟩, fun _ => rfl⟩

theorem applyDeferredCleanup_stores (cleanup : DeferredRuntimeCleanup) :
    Stores cleanup.secretAfter (applyDeferredCleanup cleanup : Op ρ Unit) := by
  obtain ⟨targets, secretUpdates, clearAll, retain⟩ := cleanup
  have hfront {g : ProfileId → Option SessionSecret → Option SessionSecret} {rest : Op ρ Unit}
      (hrest : Stores g rest) :
      Stores (fun p x => g p (if clearsSecret targets p then none else x)) (do
        evictTargets targets
        clearTargetSecrets targets
        rest) :=
    Stores.bind (f := fun _ x => x) (evictTargets_stores targets) fun _ =>
      Stores.bind (clearTargetSecrets_stores targets) fun _ => hrest
  cases clearAll with
  | true => exact hfront clearAllSecrets_stores
  | false =>
    cases retain with
    | none => exact hfront (applySecretUpdates_stores secretUpdates)
    | some profileIds =>
      exact hfront (.bind (retainSecrets_stores profileIds) fun _ =>
        applySecretUpdates_stores secretUpdates)

end Dbotter.Service
