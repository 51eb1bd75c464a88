import Dbotter.Service.SecretCalls

/-!
Whether the secret that a creation or an update has stored is kept.

The calls take their turns at the ledger in the lane, but a reload and a failed mutation drop
secrets after their turn is over. A secret that is stored in the meantime is dropped with them.
-/

namespace Dbotter.Service
open Dbotter.Utf8 Dbotter.Execution Dbotter.Configuration Dbotter.Program
open ObservedState

variable {ρ : Type}

abbrev Log := List (Entry ApplicationService Event)

/-- The call has published a ledger or put up the fence. -/
def TookTurn (log : Log) (j : Nat) : Prop :=
  ∃ x ∈ log, x.call = j ∧ (x.event = some .published ∨ x.event = some .fenced)

/-- The call has changed the secret of the profile as its request says. -/
def HasStored (i : Nat) (p : ProfileId) (log : Log) : Prop :=
  ∃ x ∈ log, x.call = i ∧ ∃ update, x.event = some (.stored p update)

/-- No other call that has its turn after `i` fences, changes the profile or deals with its
secret. -/
def Undisturbed (before after : Log) (i : Nat) (p : ProfileId) : Prop :=
  ∀ x ∈ after, x.call ≠ i → x.event ≠ some .fenced ∧
    x.before.observed.Unchanged x.after.observed p ∧
    (¬TookTurn before x.call → ∀ update, x.event = some (.stored p update) → update = .keep)

/-- No call that had its turn before `i` changes the secret after `i` has stored it. -/
def Spared (before after : Log) (i : Nat) (p : ProfileId) : Prop :=
  ∀ earlier x later, after = earlier ++ x :: later → TookTurn before x.call →
    HasStored i p earlier → x.after.secret p = x.before.secret p

section
variable {before after : Log} {i : Nat} {p : ProfileId} {x : Entry ApplicationService Event}

theorem tookTurn_snoc {log : Log} {j : Nat} : TookTurn (log ++ [x]) j ↔
    TookTurn log j ∨ x.call = j ∧ (x.event = some .published ∨ x.event = some .fenced) := by
  simp only [TookTurn, List.mem_append, List.mem_singleton]
  constructor
  · rintro ⟨y, hy | rfl, h⟩
    · exact .inl ⟨y, hy, h⟩
    · exact .inr h
  · rintro (⟨y, hy, h⟩ | h)
    · exact ⟨y, .inl hy, h⟩
    · exact ⟨x, .inr rfl, h⟩

theorem hasStored_snoc {log : Log} : HasStored i p (log ++ [x]) ↔
    HasStored i p log ∨ x.call = i ∧ ∃ update, x.event = some (.stored p update) := by
  simp only [HasStored, List.mem_append, List.mem_singleton]
  constructor
  · rintro ⟨y, hy | rfl, h⟩
    · exact .inl ⟨y, hy, h⟩
    · exact .inr h
  · rintro (⟨y, hy, h⟩ | h)
    · exact ⟨y, .inl hy, h⟩
    · exact ⟨x, .inr rfl, h⟩

theorem undisturbed_snoc (h : Undisturbed before (after ++ [x]) i p) :
    Undisturbed before after i p :=
  fun y hy => h y (List.mem_append_left _ hy)

theorem spared_snoc : Spared before (after ++ [x]) i p ↔ Spared before after i p ∧
    (TookTurn before x.call → HasStored i p after → x.after.secret p = x.before.secret p) := by
  constructor
  · intro h
    refine ⟨fun earlier y later heq => h earlier y (later ++ [x]) (by simp [heq]), ?_⟩
    exact h after x [] rfl
  · rintro ⟨h, hlast⟩ earlier y later heq
    rcases List.eq_nil_or_concat later with rfl | ⟨later', last, rfl⟩
    · obtain ⟨rfl, hy⟩ := List.append_inj' heq rfl
      cases hy
      exact hlast
    · rw [List.concat_eq_append, ← List.cons_append, ← List.append_assoc] at heq
      obtain ⟨heq, -⟩ := List.append_inj' heq rfl
      exact h earlier y later' heq

/-- Nothing can be changed before it is stored. -/
theorem spared_of_not_stored (h : ¬HasStored i p after) : Spared before after i p := by
  intro earlier y later heq _ hstored
  refine absurd ?_ h
  obtain ⟨z, hz, hrest⟩ := hstored
  exact ⟨z, by simp [heq, hz], hrest⟩

end

/-! ## One publication -/

/-- The call `i` has published a ledger between the two parts of the log, and is to store, or has
stored, `update` for `p`. -/
structure Watched (before after : Log) (i : Nat) (p : ProfileId) (update : SessionSecretUpdate)
    (ghost : Nat → Journal) (s : ApplicationService) : Prop where
  listed : (s.observed.content p).isSome
  sweep : ∀ j, (ghost j).sweep p → TookTurn before j ∧ j ≠ i
  spent : (ghost i).spent = true
  turned : ∀ j, j ≠ i → TookTurn before j → (ghost j).spent = true ∧ (ghost j).pending = none
  phase : (ghost i).pending = some (p, update) ∧ (ghost i).stored = none ∧ ¬HasStored i p after ∨
    (ghost i).pending = none ∧ (ghost i).stored = some (p, update) ∧ HasStored i p after
  secret : HasStored i p after → ∀ v, update = .replace v →
    (s.secret p = some v ∨ s.secret p = none) ∧
      (s.secret p = some v ↔ Spared before after i p)

section
variable {before after : Log} {i : Nat} {p : ProfileId} {update : SessionSecretUpdate}
  {ghost : Nat → Journal} {x : Entry ApplicationService Event} {γ' : Journal}

/-- A step that leaves the secret of the profile alone. -/
theorem Watched.keep (h : Watched before after i p update ghost x.before)
    (hcontent : x.before.observed.Unchanged x.after.observed p)
    (hsecret : x.after.secret p = x.before.secret p)
    (hevent : x.call = i → ∀ update, x.event ≠ some (.stored p update))
    (hsweep : γ'.sweep p → (ghost x.call).sweep p)
    (hself : x.call = i → γ'.spent = (ghost i).spent ∧ γ'.pending = (ghost i).pending ∧
      γ'.stored = (ghost i).stored)
    (hother : x.call ≠ i → TookTurn before x.call → γ'.spent = true ∧ γ'.pending = none) :
    Watched before (after ++ [x]) i p update (Function.update ghost x.call γ') x.after := by
  have hstored : HasStored i p (after ++ [x]) ↔ HasStored i p after := by
    rw [hasStored_snoc, or_iff_left]
    rintro ⟨hcall, update, hupdate⟩
    exact hevent hcall update hupdate
  have hghost : (Function.update ghost x.call γ' i).spent = (ghost i).spent ∧
      (Function.update ghost x.call γ' i).pending = (ghost i).pending ∧
      (Function.update ghost x.call γ' i).stored = (ghost i).stored := by
    by_cases hcall : x.call = i
    · rw [hcall, Function.update_self]
      exact hself hcall
    · rw [Function.update_of_ne (Ne.symm hcall)]
      exact ⟨rfl, rfl, rfl⟩
  refine ⟨?_, ?_, ?_, ?_, ?_, ?_⟩
  · rw [isSome_eq_of_beq hcontent]
    exact h.listed
  · intro j hj
    by_cases hcall : j = x.call
    · rw [hcall, Function.update_self] at hj
      rw [hcall]
      exact h.sweep x.call (hsweep hj)
    · rw [Function.update_of_ne hcall] at hj
      exact h.sweep j hj
  · rw [hghost.1]
    exact h.spent
  · intro j hj hturn
    by_cases hcall : j = x.call
    · rw [hcall, Function.update_self]
      exact hother (hcall ▸ hj) (hcall ▸ hturn)
    · rw [Function.update_of_ne hcall]
      exact h.turned j hj hturn
  · rw [hghost.2.1, hghost.2.2, hstored]
    exact h.phase
  · rw [hstored, hsecret, spared_snoc]
    intro hs v hv
    obtain ⟨hcases, hspared⟩ := h.secret hs v hv
    exact ⟨hcases, hspared.trans ⟨fun h => ⟨h, fun _ _ => hsecret⟩, And.left⟩⟩

/-- The call stores the secret of its request. -/
theorem Watched.store (h : Watched before after i p update ghost x.before)
    (hcall : x.call = i) (hevent : x.event = some (.stored p update))
    (hpending : (ghost i).pending = some (p, update))
    (hcontent : x.before.observed.Unchanged x.after.observed p)
    (hsecret : x.after.secret p = update.after (x.before.secret p)) :
    Watched before (after ++ [x]) i p update
      (Function.update ghost x.call ((ghost i).store p update)) x.after := by
  have hnot : ¬HasStored i p after := by
    rcases h.phase with ⟨-, -, hnot⟩ | ⟨hnone, -⟩
    · exact hnot
    · rw [hpending] at hnone
      cases hnone
  have hstored : HasStored i p (after ++ [x]) := hasStored_snoc.2 (.inr ⟨hcall, _, hevent⟩)
  rw [hcall]
  refine ⟨?_, ?_, ?_, ?_, .inr ?_, ?_⟩
  · rw [isSome_eq_of_beq hcontent]
    exact h.listed
  · intro j hj
    by_cases hij : j = i
    · rw [hij, Function.update_self] at hj
      rw [hij]
      exact h.sweep i hj
    · rw [Function.update_of_ne hij] at hj
      exact h.sweep j hj
  · rw [Function.update_self]
    exact h.spent
  · intro j hj hturn
    rw [Function.update_of_ne hj]
    exact h.turned j hj hturn
  · rw [Function.update_self]
    exact ⟨rfl, rfl, hstored⟩
  · rintro _ v rfl
    have hnew : x.after.secret p = some v := hsecret
    refine ⟨.inl hnew, fun _ => ?_, fun _ => hnew⟩
    rw [spared_snoc]
    exact ⟨spared_of_not_stored hnot, fun _ hs => absurd hs hnot⟩

/-- A call that had its turn before drops the secret. -/
theorem Watched.drop (h : Watched before after i p update ghost x.before)
    (hsweep : (ghost x.call).sweep p)
    (hcontent : x.before.observed.Unchanged x.after.observed p)
    (hsecret : x.after.secret p = none) :
    Watched before (after ++ [x]) i p update (Function.update ghost x.call (ghost x.call))
      x.after := by
  obtain ⟨hturn, hcall⟩ := h.sweep x.call hsweep
  have hstored : HasStored i p (after ++ [x]) ↔ HasStored i p after := by
    rw [hasStored_snoc, or_iff_left]
    exact fun heq => hcall heq.1
  rw [Function.update_eq_self]
  refine ⟨?_, h.sweep, h.spent, h.turned, ?_, ?_⟩
  · rw [isSome_eq_of_beq hcontent]
    exact h.listed
  · rw [hstored]
    exact h.phase
  · rw [hstored, hsecret, spared_snoc]
    intro hs v hv
    obtain ⟨hcases, hspared⟩ := h.secret hs v hv
    refine ⟨.inr rfl, fun heq => (nomatch heq), fun ⟨hearlier, hlast⟩ => ?_⟩
    -- it was there, so the drop is what was not to happen
    have hsame := hlast hturn hs
    rw [hspared.2 hearlier, hsecret] at hsame
    exact hsame

/-- A step that leaves the secret of the profile and what its call is to do. -/
theorem Watched.untouched (h : Watched before after i p update ghost x.before)
    (hcontent : x.before.observed.Unchanged x.after.observed p)
    (hsecret : x.after.secret p = x.before.secret p)
    (hevent : x.call = i → ∀ update, x.event ≠ some (.stored p update))
    (hsweep : γ'.sweep p → (ghost x.call).sweep p) (hspent : γ'.spent = (ghost x.call).spent)
    (hpending : γ'.pending = (ghost x.call).pending)
    (hstored : γ'.stored = (ghost x.call).stored) :
    Watched before (after ++ [x]) i p update (Function.update ghost x.call γ') x.after := by
  refine h.keep hcontent hsecret hevent hsweep ?_ ?_
  · intro hcall
    rw [← hcall]
    exact ⟨hspent, hpending, hstored⟩
  · intro hcall hturn
    rw [hspent, hpending]
    exact h.turned x.call hcall hturn

/-- Another call publishes a ledger that leaves the profile alone. -/
theorem Watched.other_published (h : Watched before after i p update ghost x.before)
    (hcall : x.call ≠ i) (hspent : (ghost x.call).spent = false)
    (hcontent : x.before.observed.Unchanged x.after.observed p)
    (hsecret : x.after.secret p = x.before.secret p)
    (hsweep : γ'.sweep p → ¬ x.before.observed.Unchanged x.after.observed p ∨
      x.after.observed.content p = none) :
    Watched before (after ++ [x]) i p update (Function.update ghost x.call γ') x.after := by
  refine h.keep hcontent hsecret ?_ (fun hp => ?_) (fun hk => absurd hk hcall) fun _ hearly => ?_
  · intro hk
    exact absurd hk hcall
  · rcases hsweep hp with hne | hnone
    · exact absurd hcontent hne
    · have hlisted := h.listed
      rw [← isSome_eq_of_beq hcontent, hnone] at hlisted
      cases hlisted
  · rw [(h.turned x.call hcall hearly).1] at hspent
    cases hspent

/-- A call stores what it has pending, for this profile or for another one. -/
theorem Watched.stores {q : ProfileId} {stored : SessionSecretUpdate}
    (h : Watched before after i p update ghost x.before)
    (hevent : x.event = some (.stored q stored))
    (hpending : (ghost x.call).pending = some (q, stored))
    (hcontent : x.before.observed.Unchanged x.after.observed p)
    (hsecret : x.after.secret p =
      if q = p then stored.after (x.before.secret p) else x.before.secret p)
    (hquiet : x.call ≠ i → ¬TookTurn before x.call → q = p → stored = .keep) :
    Watched before (after ++ [x]) i p update
      (Function.update ghost x.call ((ghost x.call).store q stored)) x.after := by
  by_cases hcall : x.call = i
  · rw [hcall] at hpending ⊢
    rcases h.phase with ⟨hown, -, -⟩ | ⟨hnone, -⟩
    · cases hpending.symm.trans hown
      rw [if_pos rfl] at hsecret
      have hstore := h.store hcall hevent hown hcontent hsecret
      rwa [hcall] at hstore
    · rw [hpending] at hnone
      cases hnone
  · have hlate : ¬TookTurn before x.call := by
      intro hearly
      have hnone := (h.turned x.call hcall hearly).2
      rw [hpending] at hnone
      cases hnone
    refine h.keep hcontent ?_ (fun hk => absurd hk hcall) id (fun hk => absurd hk hcall)
      fun _ hearly => absurd hearly hlate
    refine hsecret.trans ?_
    by_cases hq : q = p
    · rw [if_pos hq, hquiet hcall hlate hq]
      rfl
    · rw [if_neg hq]

theorem content_of_ledger {s s' : ApplicationService} (h : ledger s' = ledger s) (p : ProfileId) :
    s.observed.Unchanged s'.observed p := by
  rw [show s'.observed = s.observed from congrArg Prod.fst h]
  exact unchanged_refl s.observed p

theorem secret_of_sessionSecrets {s s' : ApplicationService}
    (h : s'.sessionSecrets = s.sessionSecrets) (p : ProfileId) : s'.secret p = s.secret p := by
  unfold ApplicationService.secret
  rw [h]

/-- Every step of every call, as long as no later call disturbs the profile. -/
theorem Watched.step (h : Watched before after i p update ghost x.before)
    (hquiet : Undisturbed before (after ++ [x]) i p)
    (hstep : SecretStep (ghost x.call) x.before x.event x.after γ') :
    Watched before (after ++ [x]) i p update (Function.update ghost x.call γ') x.after := by
  obtain ⟨k, s, e, s'⟩ := x
  dsimp only at h hquiet hstep ⊢
  have hlast := hquiet ⟨k, s, e, s'⟩ (by simp)
  dsimp only at hlast
  -- the call itself takes no second turn
  have hother (hspent : (ghost k).spent = false) : k ≠ i := by
    rintro rfl
    rw [h.spent] at hspent
    cases hspent
  cases hstep with
  | still he hsame hsec =>
    refine h.untouched (x := ⟨k, s, e, s'⟩) (content_of_ledger hsame p)
      (secret_of_sessionSecrets hsec p) (fun _ update heq => ?_) id rfl rfl rfl
    rw [show e = some (.stored p update) from heq] at he
    cases he
  | read profile generation hlive =>
    exact h.untouched (x := ⟨k, s, none, s⟩) (unchanged_refl s.observed p) rfl
      (fun _ _ heq => nomatch heq) id rfl rfl rfl
  | @resolve profile generation secret hread hsecret =>
    exact h.untouched (x := ⟨k, s, some (.resolved profile.id), s⟩) (unchanged_refl s.observed p) rfl
      (fun _ _ heq => nomatch heq) id rfl rfl rfl
  | refuse q =>
    exact h.untouched (x := ⟨k, s, some (.resolved q), s⟩) (unchanged_refl s.observed p) rfl
      (fun _ _ heq => nomatch heq) id rfl rfl rfl
  | dial hread hresolved hsame hsec =>
    exact h.untouched (x := ⟨k, s, _, s'⟩) (content_of_ledger hsame p)
      (secret_of_sessionSecrets hsec p) (fun _ _ heq => nomatch heq) id rfl rfl rfl
  | reserve hspent hobserved hnext hsec =>
    refine h.untouched (x := ⟨k, s, none, s'⟩) ?_ (secret_of_sessionSecrets hsec p)
      (fun _ _ heq => nomatch heq) id rfl rfl rfl
    rw [show s'.observed = s.observed from hobserved]
    exact unchanged_refl s.observed p
  | publish sweep pending hreserved hspent hturn hnext hsec hsweep hpending htarget =>
    exact h.other_published (x := ⟨k, s, some .published, s'⟩) (hother hspent) hspent
      (hlast (hother hspent)).2.1 (secret_of_sessionSecrets hsec p) (hsweep p)
  | fence hspent hturn hconfig hsec => exact absurd rfl (hlast (hother hspent)).1
  | sweep he hsame hsec =>
    rcases hsec p with hsecret | ⟨hsecret, hdropped⟩
    · refine h.untouched (x := ⟨k, s, e, s'⟩) (content_of_ledger hsame p) hsecret
        (fun hk update heq => ?_) id rfl rfl rfl
      rcases he with he | ⟨q, he, hq, -⟩
      · rw [show e = some (.stored p update) from heq] at he
        cases he
      · rw [show e = some (.stored p update) from heq] at he
        cases he
        exact (h.sweep k hq).2 hk
    · exact h.drop (x := ⟨k, s, e, s'⟩) hdropped (content_of_ledger hsame p) hsecret
  | @store _ q stored hpending hsame hsec =>
    refine h.stores (x := ⟨k, s, some (.stored q stored), s'⟩) rfl hpending
      (content_of_ledger hsame p) ?_ fun hk hlate hq => ?_
    · show s'.secret p = if q = p then stored.after (s.secret p) else s.secret p
      unfold ApplicationService.secret
      rw [hsec]
      exact SessionSecretUpdate.apply_lookup q p s.sessionSecrets stored
    · subst hq
      exact (hlast hk).2.2 hlate stored rfl

/-- What the call publishes is watched from then on. -/
theorem Watched.publish (hspent : γ'.spent = true) (hpending : γ'.pending = some (p, update))
    (hstored : γ'.stored = none) (hsweep : ¬γ'.sweep p) (hlisted : (x.after.observed.content p).isSome)
    (hothers : ∀ j, j ≠ x.call → (ghost j).pending = none)
    (hturned : ∀ j, TookTurn before j → (ghost j).spent = true)
    (hswept : ∀ j q, (ghost j).sweep q → TookTurn before j) :
    Watched before [] x.call p update (Function.update ghost x.call γ') x.after := by
  have hnot : ¬HasStored x.call p [] := by
    rintro ⟨y, hy, -⟩
    cases hy
  refine ⟨hlisted, ?_, ?_, ?_, .inl ?_, fun hs => absurd hs hnot⟩
  · intro j hj
    by_cases hcall : j = x.call
    · rw [hcall, Function.update_self] at hj
      exact absurd hj hsweep
    · rw [Function.update_of_ne hcall] at hj
      exact ⟨hswept j p hj, hcall⟩
  · rw [Function.update_self]
    exact hspent
  · intro j hj hturn
    rw [Function.update_of_ne hj]
    exact ⟨hturned j hturn, hothers j hj⟩
  · rw [Function.update_self]
    exact ⟨hpending, hstored, hnot⟩

/-- Ghost values that say no more and agree about the call itself. -/
theorem Watched.congr {ghost' : Nat → Journal} {s : ApplicationService}
    (h : Watched before after i p update ghost s)
    (hsweep : ∀ j, (ghost' j).sweep p → (ghost j).sweep p)
    (hspent : (ghost' i).spent = (ghost i).spent)
    (hturned : ∀ j, j ≠ i → TookTurn before j →
      (ghost j).spent = true ∧ (ghost j).pending = none →
        (ghost' j).spent = true ∧ (ghost' j).pending = none)
    (hpending : (ghost' i).pending = (ghost i).pending)
    (hstored : (ghost' i).stored = (ghost i).stored) :
    Watched before after i p update ghost' s := by
  refine ⟨h.listed, fun j hj => h.sweep j (hsweep j hj), ?_, ?_, ?_, h.secret⟩
  · rw [hspent]
    exact h.spent
  · exact fun j hj hturn => hturned j hj hturn (h.turned j hj hturn)
  · rw [hpending, hstored]
    exact h.phase

end

/-! ## Runs -/

/-- The call is to store, or has stored, the update for the profile. -/
def Journal.Supplies (γ : Journal) (p : ProfileId) (update : SessionSecretUpdate) : Prop :=
  γ.pending = some (p, update) ∨ γ.stored = some (p, update)

/-- What holds of the ghost values, the log and the state, with an eye on the call `i`. -/
structure Accounted (i : Nat) (ghost : Nat → Journal) (n : Nat) (log : Log)
    (s : ApplicationService) : Prop where
  bounded : ∀ x ∈ log, x.call < n
  fresh : ∀ j, (ghost j).spent = false → (ghost j).pending = none ∧ (ghost j).stored = none
  turned : ∀ j, TookTurn log j → (ghost j).spent = true
  swept : ∀ j q, (ghost j).sweep q → TookTurn log j
  published : ∀ p update, (ghost i).Supplies p update →
    ∃ e ∈ log, e.call = i ∧ e.event = some .published
  watched : ∀ before e after, log = before ++ e :: after → e.call = i →
    e.event = some .published → ∀ p update, (ghost i).Supplies p update →
    Undisturbed before after i p → Watched before after i p update ghost s

section
variable {i n : Nat} {ghost : Nat → Journal} {log : Log} {s s' : ApplicationService}

theorem Accounted.start (h : Accounted i ghost n log s) (c : Command) :
    Accounted i (Function.update ghost n (Journal.begin c)) (n + 1) log s := by
  have hnew : ¬TookTurn log n := by
    rintro ⟨x, hx, hcall, -⟩
    have hlt := h.bounded x hx
    omega
  refine ⟨fun x hx => ?_, ?_, ?_, ?_, ?_, ?_⟩
  · have hlt := h.bounded x hx
    omega
  · intro j
    by_cases hj : j = n
    · rw [hj, Function.update_self]
      exact fun _ => ⟨rfl, rfl⟩
    · rw [Function.update_of_ne hj]
      exact h.fresh j
  · intro j hturn
    by_cases hj : j = n
    · exact absurd (hj ▸ hturn) hnew
    · rw [Function.update_of_ne hj]
      exact h.turned j hturn
  · intro j q
    by_cases hj : j = n
    · rw [hj, Function.update_self]
      exact False.elim
    · rw [Function.update_of_ne hj]
      exact h.swept j q
  · intro p update
    by_cases hi : i = n
    · rw [hi, Function.update_self]
      rintro (heq | heq) <;> cases heq
    · rw [Function.update_of_ne hi]
      exact h.published p update
  · intro before e after hlog hcall hevent p update
    by_cases hi : i = n
    · rw [hi, Function.update_self]
      rintro (heq | heq) <;> cases heq
    · rw [Function.update_of_ne hi]
      intro hsupplies hquiet
      refine (h.watched before e after hlog hcall hevent p update hsupplies hquiet).congr
        (fun j => ?_) ?_ (fun j _ hturn => ?_) ?_ ?_
      · by_cases hj : j = n
        · rw [hj, Function.update_self]
          exact False.elim
        · rw [Function.update_of_ne hj]
          exact id
      · rw [Function.update_of_ne hi]
      · have hj : j ≠ n := by
          rintro rfl
          obtain ⟨x, hx, hrest⟩ := hturn
          exact hnew ⟨x, by simp [hlog, hx], hrest⟩
        rw [Function.update_of_ne hj]
        exact id
      · rw [Function.update_of_ne hi]
      · rw [Function.update_of_ne hi]

/-- A call that is dropped has nothing in hand any more. -/
def Journal.rest (γ : Journal) : Journal := { γ with reserved := none, pending := none }

theorem Accounted.drop (h : Accounted i ghost n log s) (k : Nat) :
    Accounted i (Function.update ghost k (ghost k).rest) n log s := by
  have hghost (j : Nat) : (Function.update ghost k (ghost k).rest j).spent = (ghost j).spent ∧
      (Function.update ghost k (ghost k).rest j).sweep = (ghost j).sweep ∧
      (Function.update ghost k (ghost k).rest j).stored = (ghost j).stored := by
    by_cases hj : j = k
    · rw [hj, Function.update_self]
      exact ⟨rfl, rfl, rfl⟩
    · rw [Function.update_of_ne hj]
      exact ⟨rfl, rfl, rfl⟩
  have hpending (j : Nat) : (Function.update ghost k (ghost k).rest j).pending = none ∨
      (Function.update ghost k (ghost k).rest j).pending = (ghost j).pending := by
    by_cases hj : j = k
    · rw [hj, Function.update_self]
      exact .inl rfl
    · rw [Function.update_of_ne hj]
      exact .inr rfl
  have hsupplies {p : ProfileId} {update : SessionSecretUpdate}
      (hs : (Function.update ghost k (ghost k).rest i).Supplies p update) :
      (ghost i).Supplies p update := by
    rcases hs with hs | hs
    · rcases hpending i with hnone | hsame
      · rw [hnone] at hs
        cases hs
      · exact .inl (hsame ▸ hs)
    · exact .inr ((hghost i).2.2 ▸ hs)
  refine ⟨h.bounded, ?_, ?_, ?_, fun p update hs => h.published p update (hsupplies hs), ?_⟩
  · intro j hspent
    rw [(hghost j).1] at hspent
    obtain ⟨hnone, hstored⟩ := h.fresh j hspent
    refine ⟨?_, (hghost j).2.2.trans hstored⟩
    rcases hpending j with heq | heq
    · exact heq
    · exact heq.trans hnone
  · intro j hturn
    rw [(hghost j).1]
    exact h.turned j hturn
  · intro j q
    rw [(hghost j).2.1]
    exact h.swept j q
  · intro before e after hlog hcall hevent p update hs hquiet
    have hw := h.watched before e after hlog hcall hevent p update (hsupplies hs) hquiet
    refine hw.congr (fun j => ?_) (hghost i).1 (fun j _ _ hold => ?_) ?_ (hghost i).2.2
    · rw [(hghost j).2.1]
      exact id
    · refine ⟨(hghost j).1.trans hold.1, ?_⟩
      rcases hpending j with heq | heq
      · exact heq
      · exact heq.trans hold.2
    · rcases hpending i with hnone | hsame
      · rw [hnone]
        rcases hw.phase with ⟨-, hstored, -⟩ | ⟨hnone', -⟩
        · -- it was still to be stored, and is given up
          rcases hs with hs | hs
          · rw [hnone] at hs
            cases hs
          · rw [(hghost i).2.2, hstored] at hs
            cases hs
        · exact hnone'.symm
      · exact hsame

/-! ### Steps -/

theorem SecretStep.spent {γ γ' : Journal} {e : Option Event} (h : SecretStep γ s e s' γ')
    (hspent : γ.spent = true) : γ'.spent = true := by
  cases h with
  | publish => rfl
  | fence => rfl
  | _ => exact hspent

theorem SecretStep.fresh {γ γ' : Journal} {e : Option Event} (h : SecretStep γ s e s' γ')
    (hfresh : γ.spent = false → γ.pending = none ∧ γ.stored = none) :
    γ'.spent = false → γ'.pending = none ∧ γ'.stored = none := by
  cases h with
  | publish => exact fun hspent => (nomatch hspent)
  | fence => exact fun hspent => (nomatch hspent)
  | store hpending _ _ =>
    intro hspent
    have hnone := (hfresh hspent).1
    rw [hpending] at hnone
    cases hnone
  | _ => exact hfresh

/-- A turn is taken once. -/
theorem SecretStep.turn {γ γ' : Journal} {e : Option Event} (h : SecretStep γ s e s' γ')
    (he : e = some .published ∨ e = some .fenced) : γ.spent = false ∧ γ'.spent = true := by
  rcases he with rfl | rfl
  · cases h with
    | still hplain => cases hplain
    | publish _ _ _ hspent => exact ⟨hspent, rfl⟩
    | sweep hevent => simp at hevent
  · cases h with
    | still hplain => cases hplain
    | fence hspent => exact ⟨hspent, rfl⟩
    | sweep hevent => simp at hevent

theorem SecretStep.swept {γ γ' : Journal} {e : Option Event} (h : SecretStep γ s e s' γ')
    {q : ProfileId} (hq : γ'.sweep q) :
    γ.sweep q ∨ e = some .published ∨ e = some .fenced := by
  cases h with
  | publish => exact .inr (.inl rfl)
  | fence => exact .inr (.inr rfl)
  | _ => exact .inl hq

theorem SecretStep.supplies {γ γ' : Journal} {e : Option Event} (h : SecretStep γ s e s' γ')
    {p : ProfileId} {update : SessionSecretUpdate} (hs : γ'.Supplies p update) :
    γ.Supplies p update ∨ e = some .published := by
  cases h with
  | publish => exact .inr rfl
  | store hpending _ _ =>
    rcases hs with hs | hs
    · cases hs
    · exact .inl (.inl (hpending.trans hs))
  | _ => exact .inl hs

/-- The step that publishes a ledger is where the watch begins. -/
theorem Accounted.watch (h : Accounted i ghost n log s) {γ' : Journal} {p : ProfileId}
    {update : SessionSecretUpdate} (hstep : SecretStep (ghost i) s (some .published) s' γ')
    (hapart : System.Apart ledger Journal.Idle ghost i s s') (hs : γ'.Supplies p update) :
    Watched log [] i p update (Function.update ghost i γ') s' := by
  cases hstep with
  | still hplain => cases hplain
  | sweep he _ _ => simp at he
  | publish sweep pending hreserved hspent hturn hnext hsecrets hsweep hpending htarget =>
    have hstored := (h.fresh i hspent).2
    have hown : pending = some (p, update) := by
      rcases hs with hs | hs
      · exact hs
      · rw [show (Journal.publish (ghost i) sweep pending).stored = (ghost i).stored from rfl,
          hstored] at hs
        cases hs
    obtain ⟨-, hlisted, hspared⟩ := hpending p update hown
    -- the call has the lane, so every other call has nothing to store
    have hothers (j : Nat) (hj : j ≠ i) : (ghost j).pending = none := by
      rcases hapart with ⟨hidle, -⟩ | hidle
      · rw [hidle.reserved] at hreserved
        cases hreserved
      · exact (hidle j hj).pending
    exact Watched.publish (x := ⟨i, s, some .published, s'⟩) rfl hown hstored hspared hlisted
      hothers h.turned h.swept

/-- A call that has taken its turn supplies nothing new. -/
theorem Accounted.supplied (h : Accounted i ghost n log s) {k : Nat} {e : Option Event}
    {γ' : Journal} {p : ProfileId} {update : SessionSecretUpdate} (hearlier : TookTurn log i)
    (hstep : SecretStep (ghost k) s e s' γ')
    (hs : (Function.update ghost k γ' i).Supplies p update) : (ghost i).Supplies p update := by
  by_cases hi : i = k
  · subst hi
    rw [Function.update_self] at hs
    rcases hstep.supplies hs with hold | hagain
    · exact hold
    · have hspent := (hstep.turn (.inl hagain)).1
      rw [h.turned i hearlier] at hspent
      cases hspent
  · rwa [Function.update_of_ne hi] at hs

theorem Accounted.step (h : Accounted i ghost n log s) {k : Nat} {e : Option Event} {γ' : Journal}
    (hk : k < n) (hstep : SecretStep (ghost k) s e s' γ')
    (hapart : System.Apart ledger Journal.Idle ghost k s s') :
    Accounted i (Function.update ghost k γ') n (log ++ [⟨k, s, e, s'⟩]) s' := by
  refine ⟨?_, ?_, ?_, ?_, ?_, ?_⟩
  · intro x hx
    rcases List.mem_append.1 hx with hx | hx
    · exact h.bounded x hx
    · cases List.mem_singleton.1 hx
      exact hk
  · intro j
    by_cases hj : j = k
    · subst hj
      rw [Function.update_self]
      exact hstep.fresh (h.fresh j)
    · rw [Function.update_of_ne hj]
      exact h.fresh j
  · intro j hturn
    by_cases hj : j = k
    · subst hj
      rw [Function.update_self]
      rcases tookTurn_snoc.1 hturn with hold | ⟨-, hevent⟩
      · exact hstep.spent (h.turned j hold)
      · exact (hstep.turn hevent).2
    · rw [Function.update_of_ne hj]
      rcases tookTurn_snoc.1 hturn with hold | ⟨hcall, -⟩
      · exact h.turned j hold
      · exact absurd hcall.symm hj
  · intro j q hq
    rw [tookTurn_snoc]
    by_cases hj : j = k
    · subst hj
      rw [Function.update_self] at hq
      rcases hstep.swept hq with hold | hevent
      · exact .inl (h.swept j q hold)
      · exact .inr ⟨rfl, hevent⟩
    · rw [Function.update_of_ne hj] at hq
      exact .inl (h.swept j q hq)
  · intro p update hs
    by_cases hi : i = k
    · subst hi
      rw [Function.update_self] at hs
      rcases hstep.supplies hs with hold | hevent
      · obtain ⟨x, hx, hrest⟩ := h.published p update hold
        exact ⟨x, List.mem_append_left _ hx, hrest⟩
      · exact ⟨⟨i, s, e, s'⟩, by simp, rfl, hevent⟩
    · rw [Function.update_of_ne hi] at hs
      obtain ⟨x, hx, hrest⟩ := h.published p update hs
      exact ⟨x, List.mem_append_left _ hx, hrest⟩
  · intro before x after hlog hcall hevent p update hs hquiet
    rcases List.eq_nil_or_concat after with rfl | ⟨after', last, rfl⟩
    · obtain ⟨rfl, hx⟩ := List.append_inj' hlog rfl
      cases hx
      obtain rfl : k = i := hcall
      obtain rfl : e = some .published := hevent
      rw [Function.update_self] at hs
      exact h.watch hstep hapart hs
    · rw [List.concat_eq_append] at hlog hquiet ⊢
      rw [← List.cons_append, ← List.append_assoc] at hlog
      obtain ⟨hbefore, hlast⟩ := List.append_inj' hlog rfl
      cases hlast
      have hold := h.supplied ⟨x, by simp [hbefore], hcall, .inl hevent⟩ hstep hs
      have hw := h.watched before x after' hbefore hcall hevent p update hold (undisturbed_snoc hquiet)
      exact Watched.step (x := ⟨k, s, e, s'⟩) hw hquiet hstep

end

/-! ## The claim -/

theorem runService_accounted (split : Text → Option (List Text)) (loaded : LoadedConfig)
    (actions : List (Action (Answer ρ) Command))
    (hpublic : ∀ command, .start command ∈ actions → command.isPublic = true) (i : Nat) :
    ∃ ghost, System.Guards ledger Journal.Idle SecretStep Accomplished ghost
        (runService split loaded actions) ∧
      Accounted i ghost (runService split loaded actions).calls.length
        (runService split loaded actions).trace (runService split loaded actions).shared := by
  have hinitial : Accounted i (fun _ => {}) 0 [] (ApplicationService.initial loaded) := by
    refine ⟨fun x hx => (nomatch hx), fun _ _ => ⟨rfl, rfl⟩, ?_, fun _ _ hs => hs.elim, ?_, ?_⟩
    · rintro j ⟨x, hx, -⟩
      cases hx
    · rintro p update (hs | hs) <;> cases hs
    · intro before e after hlog
      simp at hlog
  obtain ⟨ghost, hguards, haccounted, -⟩ := System.run_traced Journal.begin Journal.rest (fun _ => {})
    (fun command => command.isPublic = true) (K := fun _ _ => True) (J := Accounted i)
    (fun command hcommand => begin_careful split hcommand)
    (fun command _ => (Journal.begin_fresh command).toIdle) (fun _ => ⟨rfl, rfl⟩)
    ⟨fun _ => trivial, fun _ _ _ => trivial, fun _ _ _ _ _ _ _ _ => trivial⟩
    (fun ghost n log s c h => h.start c) (fun ghost n log s k h => h.drop k)
    (fun ghost n log s k e s' γ' h hk hstep hapart => h.step hk hstep hapart)
    (fun _ => ⟨rfl, rfl⟩) hinitial actions hpublic
  exact ⟨ghost, hguards, haccounted⟩

/-- **No lost session secret.** A creation or an update that succeeds has published its profile
once, and where no later call disturbs it the secret of its request is stored from then on exactly
if no earlier call drops it. -/
theorem replaced_secret_kept_iff (split : Text → Option (List Text)) (loaded : LoadedConfig)
    (actions : List (Action (Answer ρ) Command))
    (hpublic : ∀ command, .start command ∈ actions → command.isPublic = true) (i : Nat)
    (command : Command) (outcome : ProfileMutationOutcome) (v : SessionSecret)
    (hcall : (runService split loaded actions).calls[i]? =
      some ⟨command, .finished (.ok (.mutation outcome))⟩)
    (hreplace : command.secretUpdate = some (.replace v)) :
    (∃ e ∈ (runService split loaded actions).trace, e.call = i ∧ e.event = some .published) ∧
      ∀ before e after, (runService split loaded actions).trace = before ++ e :: after →
        e.call = i → e.event = some .published →
        Undisturbed before after i outcome.profileId →
        ((runService split loaded actions).shared.secret outcome.profileId = some v ↔
          Spared before after i outcome.profileId) := by
  obtain ⟨ghost, hguards, haccounted⟩ := runService_accounted split loaded actions hpublic i
  have hstored : (ghost i).stored = some (outcome.profileId, .replace v) :=
    hguards.finished i command _ hcall outcome _ rfl hreplace
  refine ⟨haccounted.published _ _ (.inr hstored), fun before e after hlog hecall hevent hquiet => ?_⟩
  have hw := haccounted.watched before e after hlog hecall hevent _ _ (.inr hstored) hquiet
  have hhas : HasStored i outcome.profileId after := by
    rcases hw.phase with ⟨-, hnone, -⟩ | ⟨-, -, hhas⟩
    · rw [hstored] at hnone
      cases hnone
    · exact hhas
  exact (hw.secret hhas v rfl).2

/-! ### A reload that has had its turn -/

def sessionProfile (id : String) : ConnectionProfile :=
  { plainProfile id 3306 with credentialMode := .session }

/-- The file holds the profiles when it is loaded and after it is written. -/
def holding (profiles : List ConnectionProfile) (affected : Option Text) : Answer Unit :=
  { silence 0 with
    loadPath := some (plainConfig profiles)
    mutatePath := fun _ _ =>
      some (.ok ⟨.committed, .observed (plainConfig profiles), none, affected⟩) }

def creation : CreateProfileRequest :=
  ⟨1, 1, some "b".toList, (sessionProfile "b").toConnectionDraft, .replace "secret".toList, .confirmed⟩

/-- A reload ends its turn, and a creation runs from its beginning to its end. -/
def reloadThenCreate : List (Action (Answer Unit) Command) :=
  .start .reload :: List.replicate 7 (.advance 0 (holding [sessionProfile "a"] none)) ++
    .start (.create creation) :: List.replicate 12
      (.advance 1 (holding [sessionProfile "a", sessionProfile "b"] (some "b".toList)))

/-- The reload goes on, with what it is to retain. -/
def reloadAround : List (Action (Answer Unit) Command) :=
  reloadThenCreate ++ List.replicate 2 (.advance 0 (holding [sessionProfile "a"] none))

/-- The mutation that has succeeded, by its secret and its profile. -/
def succeeded : Option (Call ApplicationService (Answer ρ) Event Failure (Outcome ρ) Command) →
    Option (Option SessionSecretUpdate × ProfileId)
  | some ⟨command, .finished (.ok (.mutation outcome))⟩ =>
      some (command.secretUpdate, outcome.profileId)
  | _ => none

theorem of_succeeded
    {c : Option (Call ApplicationService (Answer ρ) Event Failure (Outcome ρ) Command)}
    {u : Option SessionSecretUpdate} {p : ProfileId} (h : succeeded c = some (u, p)) :
    ∃ command outcome, c = some ⟨command, .finished (.ok (.mutation outcome))⟩ ∧
      command.secretUpdate = u ∧ outcome.profileId = p := by
  unfold succeeded at h
  split at h
  · cases h
    exact ⟨_, _, rfl, rfl, rfl⟩
  · cases h

theorem entry_at {β : Type} (log : Log) {k : Nat} {f : Entry ApplicationService Event → β} {b : β}
    (h : log[k]?.map f = some b) : ∃ e, log = log.take k ++ e :: log.drop (k + 1) ∧ f e = b := by
  obtain ⟨e, he, heq⟩ := Option.map_eq_some_iff.1 h
  obtain ⟨hlength, hget⟩ := List.getElem?_eq_some_iff.1 he
  have hsplit := List.drop_eq_getElem_cons hlength
  refine ⟨e, ?_, heq⟩
  rw [← hget, ← hsplit, List.take_append_drop]

/-- The other calls do nothing that is recorded, and leave the profile. -/
theorem undisturbed_of_silent {before after : Log} {i : Nat} {p : ProfileId}
    (h : (after.all fun x => x.call == i || x.event == none &&
      x.before.observed.Unchanged x.after.observed p) = true) :
    Undisturbed before after i p := by
  intro x hx hcall
  have hall := List.all_eq_true.1 h x hx
  simp only [Bool.or_eq_true, beq_iff_eq, hcall, Bool.and_eq_true, false_or, decide_eq_true_eq]
    at hall
  refine ⟨?_, hall.2, fun _ update heq => ?_⟩
  · rw [hall.1]
    exact fun heq => nomatch heq
  · rw [hall.1] at heq
    cases heq

theorem replaced_secret_kept_iff_created :
    (runService (fun _ => none) (plainConfig [sessionProfile "a"]) reloadThenCreate).shared.secret
        "b".toList = some "secret".toList ↔
      Spared ((runService (fun _ => none) (plainConfig [sessionProfile "a"])
          reloadThenCreate).trace.take 11)
        ((runService (fun _ => none) (plainConfig [sessionProfile "a"])
          reloadThenCreate).trace.drop 12) 1 "b".toList := by
  obtain ⟨command, outcome, hcall, hreplace, hp⟩ := of_succeeded (c := (runService (fun _ => none)
    (plainConfig [sessionProfile "a"]) reloadThenCreate).calls[1]?)
    (u := some (.replace "secret".toList)) (p := "b".toList) (by decide +kernel)
  obtain ⟨e, hlog, he⟩ := entry_at (runService (fun _ => none)
    (plainConfig [sessionProfile "a"]) reloadThenCreate).trace (k := 11)
    (f := fun e => (e.call, e.event)) (b := (1, some .published)) (by decide +kernel)
  obtain ⟨hecall, hevent⟩ := Prod.mk.inj he
  have h := (replaced_secret_kept_iff (fun _ => none) (plainConfig [sessionProfile "a"])
    reloadThenCreate (by simp [reloadThenCreate, Command.isPublic]) 1 command outcome
    "secret".toList hcall hreplace).2 _ e _ hlog hecall hevent
  rw [hp] at h
  exact h (undisturbed_of_silent (by decide +kernel))

/-- A creation that succeeds loses its secret to a reload that had its turn before. -/
theorem created_secret_lost :
    ¬∀ (actions : List (Action (Answer Unit) Command)) (i : Nat) (command : Command)
      (outcome : ProfileMutationOutcome) (v : SessionSecret) (before : Log)
      (e : Entry ApplicationService Event) (after : Log),
      (∀ command, .start command ∈ actions → command.isPublic = true) →
      (runService (fun _ => none) (plainConfig [sessionProfile "a"]) actions).calls[i]? =
        some ⟨command, .finished (.ok (.mutation outcome))⟩ →
      command.secretUpdate = some (.replace v) →
      (runService (fun _ => none) (plainConfig [sessionProfile "a"]) actions).trace =
        before ++ e :: after →
      e.call = i → e.event = some .published → Undisturbed before after i outcome.profileId →
      (runService (fun _ => none) (plainConfig [sessionProfile "a"]) actions).shared.secret
        outcome.profileId = some v := by
  intro h
  obtain ⟨command, outcome, hcall, hreplace, hp⟩ := of_succeeded (c := (runService (fun _ => none)
    (plainConfig [sessionProfile "a"]) reloadAround).calls[1]?)
    (u := some (.replace "secret".toList)) (p := "b".toList) (by decide +kernel)
  obtain ⟨e, hlog, he⟩ := entry_at (runService (fun _ => none)
    (plainConfig [sessionProfile "a"]) reloadAround).trace (k := 11)
    (f := fun e => (e.call, e.event)) (b := (1, some .published)) (by decide +kernel)
  obtain ⟨hecall, hevent⟩ := Prod.mk.inj he
  have hkept := h reloadAround 1 command outcome "secret".toList _ e _
    (by simp [reloadAround, reloadThenCreate, Command.isPublic]) hcall hreplace hlog hecall hevent
  rw [hp] at hkept
  have hlost : (runService (fun _ => none) (plainConfig [sessionProfile "a"])
      reloadAround).shared.secret "b".toList = none := by decide +kernel
  rw [hlost] at hkept
  cases hkept (undisturbed_of_silent (by decide +kernel))

end Dbotter.Service
