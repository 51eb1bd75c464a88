import Dbotter.Service.KeptSecrets

/-!
Whether the old secret of a profile reaches a connection to its new content.

An update publishes the new content under a new generation, and then stores or clears the secret.
A call that looks the profile up in between connects to the new content with the old secret.
-/

namespace Dbotter.Service
open Dbotter.Utf8 Dbotter.Execution Dbotter.Configuration Dbotter.Program
open ObservedState

variable {ρ : Type}

/-- The secret of the profile has been stored or cleared. -/
def Renewed (log : Log) (p : ProfileId) : Prop :=
  ∃ x ∈ log, ∃ update, x.event = some (.stored p update) ∧ update ≠ .keep

/-- The call has read the secret of the profile after it was renewed. -/
def ReadRenewed (log : Log) (j : Nat) (p : ProfileId) : Prop :=
  ∃ earlier x later, log = earlier ++ x :: later ∧ x.call = j ∧ x.event = some (.resolved p) ∧
    Renewed earlier p

/-- An attempt to connect to the profile under the generation, with a session secret. -/
def Attempts (x : Entry ApplicationService Event) (p : ProfileId) (g : ProfileGeneration)
    (secret : Option SessionSecret) : Prop :=
  ∃ profile, x.event = some (.dialled profile secret g) ∧ profile.id = p ∧
    profile.credentialMode = .session

section
variable {log : Log} {x : Entry ApplicationService Event} {p : ProfileId}

theorem renewed_snoc : Renewed (log ++ [x]) p ↔
    Renewed log p ∨ ∃ update, x.event = some (.stored p update) ∧ update ≠ .keep := by
  simp only [Renewed, List.mem_append, List.mem_singleton]
  constructor
  · rintro ⟨y, hy | rfl, h⟩
    · exact .inl ⟨y, hy, h⟩
    · exact .inr h
  · rintro (⟨y, hy, h⟩ | h)
    · exact ⟨y, .inl hy, h⟩
    · exact ⟨x, .inr rfl, h⟩

theorem readRenewed_snoc {j : Nat} : ReadRenewed (log ++ [x]) j p ↔
    ReadRenewed log j p ∨ x.call = j ∧ x.event = some (.resolved p) ∧ Renewed log p := by
  constructor
  · rintro ⟨earlier, y, later, heq, hcall, hevent, hrenewed⟩
    rcases List.eq_nil_or_concat later with rfl | ⟨later', last, rfl⟩
    · obtain ⟨rfl, hy⟩ := List.append_inj' heq rfl
      cases hy
      exact .inr ⟨hcall, hevent, hrenewed⟩
    · rw [List.concat_eq_append, ← List.cons_append, ← List.append_assoc] at heq
      obtain ⟨rfl, -⟩ := List.append_inj' heq rfl
      exact .inl ⟨earlier, y, later', rfl, hcall, hevent, hrenewed⟩
  · rintro (⟨earlier, y, later, rfl, h⟩ | ⟨hcall, hevent, hrenewed⟩)
    · exact ⟨earlier, y, later ++ [x], by simp, h⟩
    · exact ⟨log, x, [], rfl, hcall, hevent, hrenewed⟩

theorem ReadRenewed.renewed {j : Nat} (h : ReadRenewed log j p) : Renewed log p := by
  obtain ⟨earlier, y, later, rfl, -, -, z, hz, hrest⟩ := h
  exact ⟨z, by simp [hz], hrest⟩

end

/-! ## What a step does to the secret of one profile -/

section
variable {γ γ' : Journal} {s s' : ApplicationService} {e : Option Event}

inductive SecretMove (p : ProfileId) (s : ApplicationService) (e : Option Event)
    (s' : ApplicationService) : Prop
  | kept (he : ∀ update, e = some (.stored p update) → update = .keep)
      (h : s'.secret p = s.secret p ∨ s'.secret p = none)
  | cleared (he : e = some (.stored p .clear)) (h : s'.secret p = none)
  | replaced (secret : SessionSecret) (he : e = some (.stored p (.replace secret)))
      (h : s'.secret p = some secret)

theorem SecretStep.change (h : SecretStep γ s e s' γ') (p : ProfileId) : SecretMove p s e s' := by
  have hsame {s₁ s₂ : ApplicationService} (heq : s₂.sessionSecrets = s₁.sessionSecrets) :
      s₂.secret p = s₁.secret p := by
    unfold ApplicationService.secret
    rw [heq]
  cases h with
  | still he _ hsecrets =>
    refine .kept (fun update heq => ?_) (.inl (hsame hsecrets))
    rw [heq] at he
    cases he
  | sweep he _ hsecrets =>
    rcases he with rfl | ⟨q, rfl, -, hnone⟩
    · exact .kept (fun update heq => (nomatch heq)) ((hsecrets p).imp_right And.left)
    · by_cases hq : q = p
      · subst hq
        exact .cleared rfl hnone
      · refine .kept (fun update heq => ?_) ((hsecrets p).imp_right And.left)
        cases heq
        exact absurd rfl hq
  | @store _ q update _ _ hsecrets =>
    have hlookup : s'.secret p = if q = p then update.after (s.secret p) else s.secret p := by
      unfold ApplicationService.secret
      rw [hsecrets]
      exact SessionSecretUpdate.apply_lookup q p s.sessionSecrets update
    by_cases hq : q = p
    · subst hq
      rw [if_pos rfl] at hlookup
      cases update with
      | keep =>
        refine .kept (fun update heq => ?_) (.inl hlookup)
        cases heq
        rfl
      | replace secret => exact .replaced secret rfl hlookup
      | clear => exact .cleared rfl hlookup
    · rw [if_neg hq] at hlookup
      refine .kept (fun update heq => ?_) (.inl hlookup)
      cases heq
      exact absurd rfl hq
  | read | resolve | refuse => exact .kept (fun update heq => (nomatch heq)) (.inl rfl)
  | dial _ _ _ hsecrets => exact .kept (fun update heq => (nomatch heq)) (.inl (hsame hsecrets))
  | reserve _ _ _ hsecrets => exact .kept (fun update heq => (nomatch heq)) (.inl (hsame hsecrets))
  | publish _ _ _ _ _ _ hsecrets =>
    exact .kept (fun update heq => (nomatch heq)) (.inl (hsame hsecrets))
  | fence _ _ _ hsecrets => exact .kept (fun update heq => (nomatch heq)) (.inl (hsame hsecrets))

/-- What a step does to the connection that a call prepares. -/
inductive ReadChange (γ : Journal) (s : ApplicationService) (e : Option Event) (γ' : Journal) : Prop
  | kept (hread : γ'.read = γ.read) (hresolved : γ'.resolved = γ.resolved)
      (he : ∀ p, e ≠ some (.resolved p))
  | dropped (hresolved : γ'.resolved = none)
  | resolved (profile : ConnectionProfile) (g : ProfileGeneration) (secret : Option SessionSecret)
      (hread : γ'.read = some (profile, g)) (hresolved : γ'.resolved = some secret)
      (he : e = some (.resolved profile.id))
      (hsecret : profile.credentialMode = .session →
        secret = s.secret profile.id ∧ secret.isSome)

theorem SecretStep.readChange (h : SecretStep γ s e s' γ') : ReadChange γ s e γ' := by
  cases h with
  | still he =>
    refine .kept rfl rfl fun p heq => ?_
    rw [heq] at he
    cases he
  | read => exact .dropped rfl
  | refuse => exact .dropped rfl
  | resolve secret hread hsecret => exact .resolved _ _ secret hread rfl rfl hsecret
  | sweep he =>
    refine .kept rfl rfl fun p heq => ?_
    rcases he with he | ⟨q, he, -⟩
    · rw [heq] at he
      cases he
    · rw [heq] at he
      cases he
  | _ => exact .kept rfl rfl fun p heq => (nomatch heq)

theorem SecretStep.dialled {profile : ConnectionProfile} {secret : Option SessionSecret}
    {g : ProfileGeneration} (h : SecretStep γ s (some (.dialled profile secret g)) s' γ') :
    γ.read = some (profile, g) ∧ γ.resolved = some secret := by
  cases h with
  | still he => cases he
  | dial hread hresolved => exact ⟨hread, hresolved⟩
  | sweep he => simp at he

end

/-! ## After one publication -/

/-- Since the publication: the old secret is there until it is renewed or dropped, and a call that
prepares a connection to the profile has the old secret exactly if it read it before. -/
structure Outdated (after : Log) (p : ProfileId) (g : ProfileGeneration) (old : SessionSecret)
    (ghost : Nat → Journal) (s : ApplicationService) : Prop where
  renewed : Renewed after p → s.secret p ≠ some old
  waiting : ¬Renewed after p → s.secret p = some old ∨ s.secret p = none
  prepared : ∀ j profile secret, (ghost j).read = some (profile, g) → profile.id = p →
    profile.credentialMode = .session → (ghost j).resolved = some secret →
    (secret ≠ some old ↔ ReadRenewed after j p)
  dialled : ∀ earlier x later, after = earlier ++ x :: later → ∀ secret, Attempts x p g secret →
    (secret ≠ some old ↔ ReadRenewed earlier x.call p)

section
variable {after : Log} {p : ProfileId} {g : ProfileGeneration} {old : SessionSecret}
  {ghost : Nat → Journal} {x : Entry ApplicationService Event} {γ' : Journal}

theorem Outdated.step_renewed (h : Outdated after p g old ghost x.before)
    (hnew : x.event ≠ some (.stored p (.replace old)))
    (hstep : SecretStep (ghost x.call) x.before x.event x.after γ') :
    Renewed (after ++ [x]) p → x.after.secret p ≠ some old := by
  rw [renewed_snoc]
  cases hstep.change p with
  | kept he hsecret =>
    rintro (hold | ⟨update, hevent, hkeep⟩)
    · rcases hsecret with hsame | hnone
      · rw [hsame]
        exact h.renewed hold
      · rw [hnone]
        exact fun heq => nomatch heq
    · exact absurd (he update hevent) hkeep
  | cleared he hnone =>
    rw [hnone]
    exact fun _ heq => nomatch heq
  | replaced secret he hsecret =>
    rw [hsecret]
    rintro - heq
    rw [Option.some.inj heq] at he
    exact hnew he

theorem Outdated.step_waiting (h : Outdated after p g old ghost x.before)
    (hstep : SecretStep (ghost x.call) x.before x.event x.after γ') :
    ¬Renewed (after ++ [x]) p → x.after.secret p = some old ∨ x.after.secret p = none := by
  rw [renewed_snoc]
  intro hnot
  cases hstep.change p with
  | kept he hsecret =>
    rcases hsecret with hsame | hnone
    · rw [hsame]
      exact h.waiting fun hold => hnot (.inl hold)
    · exact .inr hnone
  | cleared he hnone => exact .inr hnone
  | replaced secret he hsecret => exact absurd (.inr ⟨_, he, fun heq => nomatch heq⟩) hnot

/-- What the call of the step has in hand. -/
theorem Outdated.step_own (h : Outdated after p g old ghost x.before)
    (hstep : SecretStep (ghost x.call) x.before x.event x.after γ') {profile : ConnectionProfile}
    {secret : Option SessionSecret} (hread : γ'.read = some (profile, g)) (hid : profile.id = p)
    (hmode : profile.credentialMode = .session) (hresolved : γ'.resolved = some secret) :
    secret ≠ some old ↔ ReadRenewed (after ++ [x]) x.call p := by
  rw [readRenewed_snoc]
  cases hstep.readChange with
  | kept hread' hresolved' he =>
    rw [hread'] at hread
    rw [hresolved'] at hresolved
    rw [or_iff_left fun hnow => he p hnow.2.1]
    exact h.prepared x.call profile secret hread hid hmode hresolved
  | dropped hnone =>
    rw [hnone] at hresolved
    cases hresolved
  | resolved profile' g' secret' hread' hresolved' he hsecret =>
    cases hread'.symm.trans hread
    cases hresolved'.symm.trans hresolved
    subst hid
    obtain ⟨hlookup, hsome⟩ := hsecret hmode
    -- the call reads what is stored now
    constructor
    · intro hne
      refine .inr ⟨rfl, he, ?_⟩
      by_contra hnot
      rcases h.waiting hnot with hold | hnone
      · exact hne (hlookup.trans hold)
      · rw [hlookup, hnone] at hsome
        cases hsome
    · intro hread
      rw [hlookup]
      rcases hread with hread | ⟨-, -, hrenewed⟩
      · exact h.renewed hread.renewed
      · exact h.renewed hrenewed

theorem Outdated.step_dialled (h : Outdated after p g old ghost x.before)
    (hstep : SecretStep (ghost x.call) x.before x.event x.after γ') {earlier later : Log}
    {y : Entry ApplicationService Event} (heq : after ++ [x] = earlier ++ y :: later)
    {secret : Option SessionSecret} (hattempts : Attempts y p g secret) :
    secret ≠ some old ↔ ReadRenewed earlier y.call p := by
  rcases List.eq_nil_or_concat later with rfl | ⟨later', last, rfl⟩
  · obtain ⟨rfl, hy⟩ := List.append_inj' heq rfl
    cases hy
    obtain ⟨profile, hevent, hid, hmode⟩ := hattempts
    rw [hevent] at hstep
    obtain ⟨hread, hresolved⟩ := hstep.dialled
    exact h.prepared x.call profile secret hread hid hmode hresolved
  · rw [List.concat_eq_append, ← List.cons_append, ← List.append_assoc] at heq
    obtain ⟨heq, -⟩ := List.append_inj' heq rfl
    exact h.dialled earlier y later' heq secret hattempts

theorem Outdated.step (h : Outdated after p g old ghost x.before)
    (hnew : x.event ≠ some (.stored p (.replace old)))
    (hstep : SecretStep (ghost x.call) x.before x.event x.after γ') :
    Outdated (after ++ [x]) p g old (Function.update ghost x.call γ') x.after := by
  refine ⟨h.step_renewed hnew hstep, h.step_waiting hstep, ?_, ?_⟩
  · intro j profile secret hread hid hmode hresolved
    by_cases hj : j = x.call
    · subst hj
      rw [Function.update_self] at hread hresolved
      exact h.step_own hstep hread hid hmode hresolved
    · rw [Function.update_of_ne hj] at hread hresolved
      rw [readRenewed_snoc, or_iff_left fun hnow => hj hnow.1.symm]
      exact h.prepared j profile secret hread hid hmode hresolved
  · intro earlier y later heq secret hattempts
    exact h.step_dialled hstep heq hattempts

/-- A new generation is in nobody's hands. -/
theorem Outdated.publish {s : ApplicationService} (hsecret : s.secret p = some old)
    (hnew : ∀ j profile, (ghost j).read ≠ some (profile, g)) : Outdated [] p g old ghost s := by
  refine ⟨?_, fun _ => .inl hsecret, ?_, ?_⟩
  · rintro ⟨x, hx, -⟩
    cases hx
  · intro j profile secret hread
    exact absurd hread (hnew j profile)
  · intro earlier x later heq
    simp at heq

end

/-! ## Runs -/

/-- Every generation that a call has in hand comes from the counter, and what is published is
outdated from then on. -/
structure Numbered (ghost : Nat → Journal) (n : Nat) (log : Log) (s : ApplicationService) : Prop where
  bounded : ∀ x ∈ log, x.call < n
  sound : s.observed.Sound s.nextGeneration
  read_lt : ∀ j profile g, (ghost j).read = some (profile, g) → g < s.nextGeneration
  reserved : ∀ j next, (ghost j).reserved = some next → next ≤ s.nextGeneration ∧
    s.observed.Sound next ∧ ∀ k profile g, (ghost k).read = some (profile, g) → g < next
  outdated : ∀ before e after, log = before ++ e :: after → e.event = some .published →
    ∀ p update, (ghost e.call).target = some (p, update) → ∀ g old,
    e.after.observed.live p = some g → e.before.secret p = some old →
    (∀ x ∈ after, x.event ≠ some (.stored p (.replace old))) → Outdated after p g old ghost s

theorem Outdated.congr {after : Log} {p : ProfileId} {g : ProfileGeneration} {old : SessionSecret}
    {ghost ghost' : Nat → Journal} {s : ApplicationService} (h : Outdated after p g old ghost s)
    (hghost : ∀ j profile, (ghost' j).read = some (profile, g) →
      (ghost j).read = some (profile, g) ∧ (ghost' j).resolved = (ghost j).resolved) :
    Outdated after p g old ghost' s := by
  refine ⟨h.renewed, h.waiting, ?_, h.dialled⟩
  intro j profile secret hread hid hmode hresolved
  obtain ⟨hread', hsame⟩ := hghost j profile hread
  exact h.prepared j profile secret hread' hid hmode (hsame ▸ hresolved)

section
variable {n : Nat} {ghost : Nat → Journal} {log : Log} {s s' : ApplicationService}

theorem Numbered.start (h : Numbered ghost n log s) (c : Command) :
    Numbered (Function.update ghost n (Journal.begin c)) (n + 1) log s := by
  have hread {j : Nat} {profile : ConnectionProfile} {g : ProfileGeneration}
      (hj : (Function.update ghost n (Journal.begin c) j).read = some (profile, g)) :
      (ghost j).read = some (profile, g) ∧
        (Function.update ghost n (Journal.begin c) j).resolved = (ghost j).resolved := by
    by_cases hn : j = n
    · rw [hn, Function.update_self] at hj
      cases hj
    · rw [Function.update_of_ne hn] at hj ⊢
      exact ⟨hj, rfl⟩
  refine ⟨fun x hx => ?_, h.sound, fun j profile g hj => h.read_lt j profile g (hread hj).1, ?_, ?_⟩
  · have hlt := h.bounded x hx
    omega
  · intro j next hreserved
    by_cases hn : j = n
    · rw [hn, Function.update_self] at hreserved
      cases hreserved
    · rw [Function.update_of_ne hn] at hreserved
      obtain ⟨hle, hsound, hlt⟩ := h.reserved j next hreserved
      exact ⟨hle, hsound, fun k profile g hk => hlt k profile g (hread hk).1⟩
  · intro before e after hlog hevent p update htarget g old hlive hsecret hnew
    have hlt := h.bounded e (by simp [hlog])
    rw [Function.update_of_ne (by omega)] at htarget
    exact (h.outdated before e after hlog hevent p update htarget g old hlive hsecret hnew).congr
      fun j profile hj => hread hj

theorem Numbered.drop (h : Numbered ghost n log s) (k : Nat) :
    Numbered (Function.update ghost k (ghost k).rest) n log s := by
  have hghost (j : Nat) : (Function.update ghost k (ghost k).rest j).read = (ghost j).read ∧
      (Function.update ghost k (ghost k).rest j).resolved = (ghost j).resolved ∧
      (Function.update ghost k (ghost k).rest j).target = (ghost j).target := by
    by_cases hj : j = k
    · rw [hj, Function.update_self]
      exact ⟨rfl, rfl, rfl⟩
    · rw [Function.update_of_ne hj]
      exact ⟨rfl, rfl, rfl⟩
  refine ⟨h.bounded, h.sound, ?_, ?_, ?_⟩
  · intro j profile g hj
    rw [(hghost j).1] at hj
    exact h.read_lt j profile g hj
  · intro j next hreserved
    by_cases hj : j = k
    · rw [hj, Function.update_self] at hreserved
      cases hreserved
    · rw [Function.update_of_ne hj] at hreserved
      obtain ⟨hle, hsound, hlt⟩ := h.reserved j next hreserved
      refine ⟨hle, hsound, fun m profile g hm => hlt m profile g ?_⟩
      rw [(hghost m).1] at hm
      exact hm
  · intro before e after hlog hevent p update htarget g old hlive hsecret hnew
    rw [(hghost e.call).2.2] at htarget
    refine (h.outdated before e after hlog hevent p update htarget g old hlive hsecret hnew).congr ?_
    intro j profile hj
    rw [(hghost j).1] at hj
    exact ⟨hj, (hghost j).2.1⟩

/-- What a step does to the ledger. -/
inductive LedgerChange (γ : Journal) (s : ApplicationService) (e : Option Event)
    (s' : ApplicationService) (γ' : Journal) : Prop
  | kept (he : e ≠ some .published) (hledger : ledger s' = ledger s)
      (hreserved : γ'.reserved = γ.reserved)
      (hread : γ'.read = γ.read ∨ γ'.read = none ∨ ∃ profile g, γ'.read = some (profile, g) ∧
        s.observed.live profile.id = some g)
  | reserved (he : e ≠ some .published) (hobserved : s'.observed = s.observed)
      (hnext : s.nextGeneration ≤ s'.nextGeneration)
      (hreserved : γ'.reserved = some s.nextGeneration) (hread : γ'.read = γ.read)
  | published (next : Nat) (forced : ProfileId → Bool) (hreserved : γ.reserved = some next)
      (hturn : Turn forced s.observed next s'.observed s'.nextGeneration)
      (hnext : s'.nextGeneration = s.nextGeneration) (hreserved' : γ'.reserved = none)
      (hread : γ'.read = γ.read) (hsecret : s'.sessionSecrets = s.sessionSecrets)
      (hforced : ∀ p update, γ.target = some (p, update) → forced p = true)
  | fenced (he : e ≠ some .published)
      (hturn : Turn (fun _ => true) s.observed s.nextGeneration s'.observed s'.nextGeneration)
      (hreserved : γ'.reserved = none) (hread : γ'.read = γ.read)

theorem SecretStep.ledgerChange {γ γ' : Journal} {e : Option Event} (h : SecretStep γ s e s' γ') :
    LedgerChange γ s e s' γ' := by
  cases h with
  | still he hledger =>
    refine .kept (fun heq => ?_) hledger rfl (.inl rfl)
    rw [heq] at he
    cases he
  | read profile g hlive =>
    exact .kept (fun heq => nomatch heq) rfl rfl (.inr (.inr ⟨profile, g, rfl, hlive⟩))
  | resolve => exact .kept (fun heq => nomatch heq) rfl rfl (.inl rfl)
  | refuse => exact .kept (fun heq => nomatch heq) rfl rfl (.inr (.inl rfl))
  | dial _ _ hledger => exact .kept (fun heq => nomatch heq) hledger rfl (.inl rfl)
  | reserve _ hobserved hnext => exact .reserved (fun heq => nomatch heq) hobserved hnext rfl rfl
  | publish sweep pending hreserved _ hturn hnext hsecrets _ hpending htarget =>
    refine .published _ _ hreserved hturn hnext rfl rfl hsecrets fun p update heq => ?_
    exact (hpending p update (htarget _ heq)).1
  | fence _ hturn => exact .fenced (fun heq => nomatch heq) hturn rfl rfl
  | sweep he hledger =>
    refine .kept (fun heq => ?_) hledger rfl (.inl rfl)
    rcases he with he | ⟨q, he, -⟩
    · rw [heq] at he
      cases he
    · rw [heq] at he
      cases he
  | store _ hledger => exact .kept (fun heq => nomatch heq) hledger rfl (.inl rfl)

theorem SecretStep.target {γ γ' : Journal} {e : Option Event} (h : SecretStep γ s e s' γ') :
    γ'.target = γ.target := by
  cases h <;> rfl

/-! ### Steps -/

/-- What the calls have in hand of the ledger comes from its counter. -/
structure InHand (ghost : Nat → Journal) (s : ApplicationService) : Prop where
  sound : s.observed.Sound s.nextGeneration
  read_lt : ∀ j profile g, (ghost j).read = some (profile, g) → g < s.nextGeneration
  reserved : ∀ j next, (ghost j).reserved = some next → next ≤ s.nextGeneration ∧
    s.observed.Sound next ∧ ∀ k profile g, (ghost k).read = some (profile, g) → g < next

/-- What the others have in hand stays below every bound that was there before. -/
theorem reads_below {k : Nat} {γ' : Journal} {next : Nat}
    (hown : ∀ profile g, γ'.read = some (profile, g) → g < next)
    (hothers : ∀ j profile g, (ghost j).read = some (profile, g) → g < next) :
    ∀ j profile g, (Function.update ghost k γ' j).read = some (profile, g) → g < next := by
  intro j profile g hj
  by_cases hjk : j = k
  · rw [hjk, Function.update_self] at hj
    exact hown profile g hj
  · rw [Function.update_of_ne hjk] at hj
    exact hothers j profile g hj

namespace InHand
variable {k : Nat} {γ' : Journal}

/-- The ledger stays; the call may have read an entry of it. -/
theorem kept (h : InHand ghost s) (hledger : ledger s' = ledger s)
    (hreserved : γ'.reserved = (ghost k).reserved)
    (hread : γ'.read = (ghost k).read ∨ γ'.read = none ∨ ∃ profile g,
      γ'.read = some (profile, g) ∧ s.observed.live profile.id = some g) :
    InHand (Function.update ghost k γ') s' := by
  have hobserved : s'.observed = s.observed := congrArg Prod.fst hledger
  have hnext : s'.nextGeneration = s.nextGeneration := congrArg Prod.snd hledger
  have hown {next : Nat} (hsound : s.observed.Sound next)
      (hlt : ∀ j profile g, (ghost j).read = some (profile, g) → g < next)
      (profile : ConnectionProfile) (g : ProfileGeneration)
      (hg : γ'.read = some (profile, g)) : g < next := by
    rcases hread with hsame | hnone | ⟨profile', g', hnew, hlive⟩
    · exact hlt k profile g (hsame ▸ hg)
    · rw [hnone] at hg
      cases hg
    · cases hnew.symm.trans hg
      exact hsound.live_lt _ g hlive
  constructor
  · rw [hobserved, hnext]
    exact h.sound
  · rw [hnext]
    exact reads_below (hown h.sound h.read_lt) h.read_lt
  · intro j next hj
    have hbefore : (ghost j).reserved = some next := by
      by_cases hjk : j = k
      · rw [hjk, Function.update_self, hreserved] at hj
        rw [hjk]
        exact hj
      · rwa [Function.update_of_ne hjk] at hj
    obtain ⟨hle, hsound, hlt⟩ := h.reserved j next hbefore
    rw [hobserved, hnext]
    exact ⟨hle, hsound, reads_below (hown hsound hlt) hlt⟩

/-- The call takes numbers from the counter. -/
theorem reserves (h : InHand ghost s) (hobserved : s'.observed = s.observed)
    (hnext : s.nextGeneration ≤ s'.nextGeneration)
    (hreserved : γ'.reserved = some s.nextGeneration) (hread : γ'.read = (ghost k).read) :
    InHand (Function.update ghost k γ') s' := by
  have hlt : ∀ profile g, γ'.read = some (profile, g) → g < s.nextGeneration :=
    fun profile g hg => h.read_lt k profile g (hread ▸ hg)
  constructor
  · rw [hobserved]
    exact h.sound.mono hnext
  · refine reads_below (fun profile g hg => lt_of_lt_of_le (hlt profile g hg) hnext) ?_
    exact fun j profile g hg => lt_of_lt_of_le (h.read_lt j profile g hg) hnext
  · intro j next hj
    rw [hobserved]
    by_cases hjk : j = k
    · rw [hjk, Function.update_self, hreserved] at hj
      cases hj
      exact ⟨hnext, h.sound, reads_below hlt h.read_lt⟩
    · rw [Function.update_of_ne hjk] at hj
      obtain ⟨hle, hsound, hbelow⟩ := h.reserved j next hj
      refine ⟨le_trans hle hnext, hsound, reads_below (fun profile g hg => ?_) hbelow⟩
      exact hbelow k profile g (hread ▸ hg)

/-- The call enters the numbers it has taken; the others have taken none. -/
theorem published (h : InHand ghost s) (hapart : System.Apart ledger Journal.Idle ghost k s s')
    {next : Nat} {forced : ProfileId → Bool} (hreserved : (ghost k).reserved = some next)
    (hturn : Turn forced s.observed next s'.observed s'.nextGeneration)
    (hnext : s'.nextGeneration = s.nextGeneration) (hreserved' : γ'.reserved = none)
    (hread : γ'.read = (ghost k).read) : InHand (Function.update ghost k γ') s' := by
  obtain ⟨-, hsound, -⟩ := h.reserved k next hreserved
  refine ⟨hturn.sound hsound, ?_, fun j next' hj => ?_⟩
  · rw [hnext]
    exact reads_below (fun profile g hg => h.read_lt k profile g (hread ▸ hg)) h.read_lt
  · by_cases hjk : j = k
    · rw [hjk, Function.update_self, hreserved'] at hj
      cases hj
    · rw [Function.update_of_ne hjk] at hj
      rcases hapart with ⟨hidle, -⟩ | hidle
      · rw [hidle.reserved] at hreserved
        cases hreserved
      · rw [(hidle j hjk).reserved] at hj
        cases hj

/-- The fence gives every profile a new generation. -/
theorem fenced (h : InHand ghost s) (hapart : System.Apart ledger Journal.Idle ghost k s s')
    (hturn : Turn (fun _ => true) s.observed s.nextGeneration s'.observed s'.nextGeneration)
    (hreserved : γ'.reserved = none) (hread : γ'.read = (ghost k).read) :
    InHand (Function.update ghost k γ') s' := by
  have hle := hturn.next_le
  have hlt : ∀ profile g, γ'.read = some (profile, g) → g < s.nextGeneration :=
    fun profile g hg => h.read_lt k profile g (hread ▸ hg)
  refine ⟨hturn.sound h.sound, ?_, fun j next hj => ?_⟩
  · refine reads_below (fun profile g hg => lt_of_lt_of_le (hlt profile g hg) hle) ?_
    exact fun j profile g hg => lt_of_lt_of_le (h.read_lt j profile g hg) hle
  · by_cases hjk : j = k
    · rw [hjk, Function.update_self, hreserved] at hj
      cases hj
    · rw [Function.update_of_ne hjk] at hj
      rcases hapart with ⟨-, hledger⟩ | hidle
      · -- a fence outside the lane leaves the ledger
        have hobserved : s'.observed = s.observed := congrArg Prod.fst hledger
        obtain ⟨hle', hsound, hbelow⟩ := h.reserved j next hj
        rw [hobserved]
        refine ⟨le_trans hle' hle, hsound, reads_below (fun profile g hg => ?_) hbelow⟩
        exact hbelow k profile g (hread ▸ hg)
      · rw [(hidle j hjk).reserved] at hj
        cases hj

end InHand

/-- The ledger, the counter and what the calls have in hand of it, after a step. -/
theorem Numbered.step_ledger (h : Numbered ghost n log s) {k : Nat} {e : Option Event}
    {γ' : Journal} (hstep : SecretStep (ghost k) s e s' γ')
    (hapart : System.Apart ledger Journal.Idle ghost k s s') :
    InHand (Function.update ghost k γ') s' := by
  have hhand : InHand ghost s := ⟨h.sound, h.read_lt, h.reserved⟩
  cases hstep.ledgerChange with
  | kept _ hledger hreserved hread => exact hhand.kept hledger hreserved hread
  | reserved _ hobserved hnext hreserved hread =>
    exact hhand.reserves hobserved hnext hreserved hread
  | published next forced hreserved hturn hnext hreserved' hread _ _ =>
    exact hhand.published hapart hreserved hturn hnext hreserved' hread
  | fenced _ hturn hreserved hread => exact hhand.fenced hapart hturn hreserved hread

theorem Numbered.step (h : Numbered ghost n log s) {k : Nat} {e : Option Event} {γ' : Journal}
    (hk : k < n) (hstep : SecretStep (ghost k) s e s' γ')
    (hapart : System.Apart ledger Journal.Idle ghost k s s') :
    Numbered (Function.update ghost k γ') n (log ++ [⟨k, s, e, s'⟩]) s' := by
  obtain ⟨hsound, hread, hreserved⟩ := h.step_ledger hstep hapart
  have htargets (j : Nat) : (Function.update ghost k γ' j).target = (ghost j).target := by
    by_cases hj : j = k
    · rw [hj, Function.update_self]
      exact hstep.target
    · rw [Function.update_of_ne hj]
  refine ⟨?_, hsound, hread, hreserved, ?_⟩
  · intro x hx
    rcases List.mem_append.1 hx with hx | hx
    · exact h.bounded x hx
    · cases List.mem_singleton.1 hx
      exact hk
  · intro before x after hlog hevent p update htarget g old hlive hsecret hnew
    rw [htargets] at htarget
    rcases List.eq_nil_or_concat after with rfl | ⟨after', last, rfl⟩
    · obtain ⟨rfl, hx⟩ := List.append_inj' hlog rfl
      cases hx
      cases hstep.ledgerChange with
      | published next forced hreserved hturn _ _ hread' hsecrets hforced =>
        -- the generation is one that the call took, above all that were in anyone's hands
        have hfresh : next ≤ g := hturn.fresh p g (.inl (hforced p update htarget)) hlive
        have hbelow := (h.reserved k next hreserved).2.2
        refine Outdated.publish ?_ fun j profile hj => ?_
        · unfold ApplicationService.secret at hsecret ⊢
          rw [hsecrets]
          exact hsecret
        · have hbefore : (ghost j).read = some (profile, g) := by
            by_cases hjk : j = k
            · rw [hjk, Function.update_self, hread'] at hj
              rw [hjk]
              exact hj
            · rwa [Function.update_of_ne hjk] at hj
          have hlt := hbelow j profile g hbefore
          exact absurd hlt (not_lt.2 hfresh)
      | kept he => exact absurd hevent he
      | reserved he => exact absurd hevent he
      | fenced he => exact absurd hevent he
    · rw [List.concat_eq_append] at hlog hnew ⊢
      rw [← List.cons_append, ← List.append_assoc] at hlog
      obtain ⟨hbefore, hlast⟩ := List.append_inj' hlog rfl
      cases hlast
      have hold := h.outdated before x after' hbefore hevent p update htarget g old hlive hsecret
        fun y hy => hnew y (List.mem_append_left _ hy)
      exact Outdated.step (x := ⟨k, s, e, s'⟩) hold (hnew ⟨k, s, e, s'⟩ (by simp)) hstep

end

/-! ## The claim -/

/-- **Old secrets and new content.** After an update has published its profile under the generation
`g`, and as long as the old secret is not stored again, an attempt to connect under `g` has another
secret than the old one exactly if it read the secret after it was renewed. -/
theorem old_secret_dialled_iff (split : Text → Option (List Text)) (loaded : LoadedConfig)
    (actions : List (Action (Answer ρ) Command))
    (hpublic : ∀ command, .start command ∈ actions → command.isPublic = true)
    (before after : Log) (e : Entry ApplicationService Event) (request : UpdateProfileRequest)
    (progress : Progress ApplicationService (Answer ρ) Event Failure (Outcome ρ))
    (g : ProfileGeneration) (old : SessionSecret)
    (hlog : (runService split loaded actions).trace = before ++ e :: after)
    (hcall : (runService split loaded actions).calls[e.call]? = some ⟨.update request, progress⟩)
    (hevent : e.event = some .published)
    (hlive : e.after.observed.live request.profileId = some g)
    (hold : e.before.secret request.profileId = some old)
    (hnew : ∀ x ∈ after, x.event ≠ some (.stored request.profileId (.replace old)))
    (earlier later : Log) (x : Entry ApplicationService Event) (secret : Option SessionSecret)
    (hafter : after = earlier ++ x :: later) (hattempts : Attempts x request.profileId g secret) :
    secret ≠ some old ↔ ReadRenewed earlier x.call request.profileId := by
  have hinitial : Numbered (fun _ => {}) 0 [] (ApplicationService.initial loaded) := by
    refine ⟨fun x hx => (nomatch hx), initial_sound loaded, fun _ _ _ h => (nomatch h),
      fun _ _ h => (nomatch h), ?_⟩
    intro before e after heq
    simp at heq
  obtain ⟨ghost, -, hnumbered, htargets⟩ := System.run_traced Journal.begin Journal.rest (fun _ => {})
    (fun command => command.isPublic = true) (K := fun c γ => γ.target = c.target) (J := Numbered)
    (fun command hcommand => begin_careful split hcommand)
    (fun command _ => (Journal.begin_fresh command).toIdle) (fun _ => ⟨rfl, rfl⟩)
    ⟨fun _ => rfl, fun _ _ h => h, fun _ _ _ _ _ _ h hstep => hstep.target.trans h⟩
    (fun ghost n log s c h => h.start c) (fun ghost n log s k h => h.drop k)
    (fun ghost n log s k e s' γ' h hk hstep hapart => h.step hk hstep hapart)
    (fun _ => ⟨rfl, rfl⟩) hinitial actions hpublic
  have htarget := htargets e.call _ progress hcall
  exact (hnumbered.outdated before e after hlog hevent request.profileId request.secretUpdate htarget
    g old hlive hold hnew).dialled earlier x later hafter secret hattempts

/-! ### An acquisition between the publication and the secret -/

def sessionProfileAt (port : Nat) : ConnectionProfile := { sessionProfile "a" with port }

def replacing (port : Nat) (g : ProfileGeneration) (secret : String) : UpdateProfileRequest :=
  ⟨"a".toList, g, 1, (sessionProfileAt port).toConnectionDraft, .replace secret.toList, .confirmed⟩

/-- A secret is stored; then the profile is updated with another one, and a session is acquired
after `k` steps of this update. -/
def acquireAfter (k : Nat) : List (Action (Answer Unit) Command) :=
  let answer : Answer Unit :=
    { holding [sessionProfileAt 3307] (some "a".toList) with connect := .ok () }
  .start (.update (replacing 3306 1 "old")) ::
      List.replicate 15 (.advance 0 (holding [sessionProfileAt 3306] (some "a".toList))) ++
    .start (.update (replacing 3307 2 "new")) :: List.replicate k (.advance 1 answer) ++
    .start (.acquire ⟨"a".toList, 3, 1⟩) :: List.replicate 10 (.advance 2 answer) ++
    List.replicate (15 - k) (.advance 1 answer)

def acquiring (k : Nat) : ServiceSystem Unit :=
  runService (fun _ => none) (plainConfig [sessionProfileAt 3306]) (acquireAfter k)

theorem acquireAfter_public (k : Nat) (command : Command)
    (h : .start command ∈ acquireAfter k) : command.isPublic = true := by
  simp only [acquireAfter, List.mem_append, List.mem_cons, List.mem_replicate, reduceCtorEq,
    and_false, or_false, Action.start.injEq] at h
  rcases h with (rfl | rfl) | rfl <;> rfl

theorem of_target
    {c : Option (Call ApplicationService (Answer ρ) Event Failure (Outcome ρ) Command)}
    {p : ProfileId} {update : SessionSecretUpdate}
    (h : (c.bind fun call => call.command.target) = some (p, update)) :
    ∃ request progress, c = some ⟨.update request, progress⟩ ∧ request.profileId = p ∧
      request.secretUpdate = update := by
  obtain ⟨⟨command, progress⟩, rfl, h⟩ := Option.bind_eq_some_iff.1 h
  cases command with
  | update request =>
    cases h
    exact ⟨request, progress, rfl, rfl, rfl⟩
  | _ => cases h

/-- What the runs have in common: the update has published the generation 3. -/
theorem acquiring_published {k : Nat}
    (hcall : (((acquiring k).calls[1]?).bind fun call => call.command.target) =
      some ("a".toList, .replace "new".toList))
    (hentry : ((acquiring k).trace[21]?.map fun e => (e.call, e.event,
      e.after.observed.live "a".toList, e.before.secret "a".toList)) =
        some (1, some .published, some 3, some "old".toList)) :
    ∃ request progress, ∃ e : Entry ApplicationService Event, (acquiring k).trace =
        (acquiring k).trace.take 21 ++ e :: (acquiring k).trace.drop 22 ∧
      (acquiring k).calls[e.call]? = some ⟨.update request, progress⟩ ∧
      request.profileId = "a".toList ∧ request.secretUpdate = .replace "new".toList ∧
      e.event = some .published ∧ e.after.observed.live "a".toList = some 3 ∧
      e.before.secret "a".toList = some "old".toList := by
  obtain ⟨request, progress, hrequest, hp, hupdate⟩ := of_target hcall
  obtain ⟨e, hlog, he⟩ := entry_at _ hentry
  simp only [Prod.mk.injEq] at he
  obtain ⟨hecall, hevent, hlive, hsecret⟩ := he
  refine ⟨request, progress, e, hlog, ?_, hp, hupdate, hevent, hlive, hsecret⟩
  rw [hecall]
  exact hrequest

def isAttempt (p : ProfileId) (g : ProfileGeneration) (secret : Option SessionSecret)
    (x : Entry ApplicationService Event) : Bool :=
  match x.event with
  | some (.dialled profile secret' g') =>
      profile.id == p && profile.credentialMode == .session && secret' == secret && g' == g
  | _ => false

theorem attempt_at (log : Log) {k : Nat} {p : ProfileId} {g : ProfileGeneration}
    {v : Option SessionSecret} (h : log[k]?.map (isAttempt p g v) = some true) :
    ∃ x, log = log.take k ++ x :: log.drop (k + 1) ∧ Attempts x p g v := by
  obtain ⟨x, hlog, hx⟩ := entry_at log h
  refine ⟨x, hlog, ?_⟩
  unfold isAttempt at hx
  split at hx
  next profile secret' g' hevent =>
    simp only [Bool.and_eq_true, beq_iff_eq] at hx
    obtain ⟨⟨⟨hid, hmode⟩, rfl⟩, rfl⟩ := hx
    exact ⟨profile, hevent, hid, hmode⟩
  · cases hx

/-- The attempt after the update has read the new secret. -/
theorem old_secret_dialled_iff_after :
    ∃ x, some "new".toList ≠ some "old".toList ↔
      ReadRenewed (((acquiring 15).trace.drop 22).take 9) x "a".toList := by
  obtain ⟨request, progress, e, hlog, hcall, hp, -, hevent, hlive, hsecret⟩ :=
    acquiring_published (k := 15) (by decide +kernel) (by decide +kernel)
  obtain ⟨x, hafter, hattempts⟩ := attempt_at ((acquiring 15).trace.drop 22) (k := 9)
    (g := 3) (p := "a".toList) (v := some "new".toList) (by decide +kernel)
  have hnew : ((acquiring 15).trace.drop 22).all (fun x =>
      x.event != some (.stored "a".toList (.replace "old".toList))) = true := by decide +kernel
  rw [← hp] at hlive hsecret hattempts
  refine ⟨x.call, ?_⟩
  rw [← hp]
  refine old_secret_dialled_iff (fun _ => none) (plainConfig [sessionProfileAt 3306])
    (acquireAfter 15) (acquireAfter_public 15) _ _ e request progress 3 "old".toList hlog hcall
    hevent hlive hsecret (fun y hy => ?_) _ _ x _ hafter hattempts
  have hy' := List.all_eq_true.1 hnew y hy
  rw [hp]
  simpa using hy'

/-- The attempt before the secret is stored connects to the new content with the old secret. -/
theorem old_secret_dialled :
    ¬∀ (actions : List (Action (Answer Unit) Command)) (before after : Log)
      (e x : Entry ApplicationService Event) (request : UpdateProfileRequest)
      (progress : Progress ApplicationService (Answer Unit) Event Failure (Outcome Unit))
      (g : ProfileGeneration) (old : SessionSecret) (secret : Option SessionSecret),
      (∀ command, .start command ∈ actions → command.isPublic = true) →
      (runService (fun _ => none) (plainConfig [sessionProfileAt 3306]) actions).trace =
        before ++ e :: after →
      (runService (fun _ => none) (plainConfig [sessionProfileAt 3306]) actions).calls[e.call]? =
        some ⟨.update request, progress⟩ →
      request.secretUpdate ≠ .keep → e.event = some .published →
      e.after.observed.live request.profileId = some g →
      e.before.secret request.profileId = some old →
      (∀ x ∈ after, x.event ≠ some (.stored request.profileId (.replace old))) →
      x ∈ after → Attempts x request.profileId g secret → secret ≠ some old := by
  intro h
  obtain ⟨request, progress, e, hlog, hcall, hp, hupdate, hevent, hlive, hsecret⟩ :=
    acquiring_published (k := 11) (by decide +kernel) (by decide +kernel)
  obtain ⟨x, hafter, hattempts⟩ := attempt_at ((acquiring 11).trace.drop 22) (k := 7)
    (g := 3) (p := "a".toList) (v := some "old".toList) (by decide +kernel)
  have hnew : ((acquiring 11).trace.drop 22).all (fun x =>
      x.event != some (.stored "a".toList (.replace "old".toList))) = true := by decide +kernel
  rw [← hp] at hlive hsecret hattempts
  refine h (acquireAfter 11) _ _ e x request progress 3 "old".toList _ (acquireAfter_public 11)
    hlog hcall ?_ hevent hlive hsecret (fun y hy => ?_) ?_ hattempts rfl
  · rw [hupdate]
    exact fun heq => nomatch heq
  · have hy' := List.all_eq_true.1 hnew y hy
    rw [hp]
    simpa using hy'
  · rw [hafter]
    simp

end Dbotter.Service
