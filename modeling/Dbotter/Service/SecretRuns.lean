import Dbotter.Service.SecretTurns

/-!
Sequences of calls that change the configuration or the secrets, and which secrets they leave.

As in the sequences of the generations a call runs alone, whatever the file and the world answer.
The work that a call defers is done before the next call begins.
-/

namespace Dbotter.Service
open Dbotter.Utf8 Dbotter.Configuration Dbotter.Program
open ObservedState

variable {ρ : Type}

/-- The commands that create, update, delete or reload, or store a credential. -/
def Command.handlesSecrets : Command → Bool
  | .create _ | .createForRuntime _ | .update _ | .updateForRuntime _ | .delete _
  | .deleteForRuntime _ | .reload | .reloadForRuntime | .storeCredential _ _ => true
  | _ => false

structure SecretCall (ρ : Type) where
  command : Command
  handlesSecrets : command.handlesSecrets = true
  answers : Nat → Answer ρ
  observes : ∀ i, (answers i).Observes
  allowRetag : Bool
  settling : Nat → Answer ρ

/-- What a call leaves to its caller: a session to resolve and a cleanup to apply. -/
def deferredWork : Except Failure (Outcome ρ) → Option DeferredSessionFence × DeferredRuntimeCleanup
  | .ok (.runtimeMutation outcome) => (outcome.deferredSession, outcome.cleanup)
  | .ok (.runtimeReload outcome) => (none, outcome.cleanup)
  | .error (.mutation failure) => (none, failure.cleanup)
  | _ => (none, {})

/-- The end of a task of the runtime, as in `finish_task_output`. -/
def settleWork (work : Option DeferredSessionFence × DeferredRuntimeCleanup) (allowRetag : Bool) :
    Op ρ Unit :=
  match work.1 with
  | some fence => do
      let _ ← resolveDeferredSession fence allowRetag
      applyDeferredCleanup work.2
  | none => applyDeferredCleanup work.2

namespace SecretCall

def run (split : Text → Option (List Text)) (call : SecretCall ρ) (s : ApplicationService) :
    ApplicationService × Except Failure (Outcome ρ) :=
  let (s', result) := (begin split call.command).solo call.answers s
  (((settleWork (deferredWork result) call.allowRetag).solo call.settling s').1, result)

/-- The update of a secret that a call has made: that of a request which succeeds. -/
def supplied (call : SecretCall ρ) (result : Except Failure (Outcome ρ)) (p : ProfileId) :
    Option SessionSecretUpdate :=
  match call.command, result with
  | .create request, .ok (.mutation outcome) =>
      if p = outcome.profileId then some request.secretUpdate else none
  | .update request, .ok (.mutation outcome) =>
      if p = outcome.profileId then some request.secretUpdate else none
  | .createForRuntime request, .ok (.runtimeMutation outcome) =>
      suppliedBy request.secretUpdate outcome p
  | .updateForRuntime request, .ok (.runtimeMutation outcome) =>
      suppliedBy request.secretUpdate outcome p
  | .storeCredential identity secret, .ok _ =>
      if p = identity.profileId then some (.replace secret) else none
  | _, _ => none

/-- As for the generations: the call leaves the configuration uncertain, and either found it
certain or tried to reload it. -/
def fences (call : SecretCall ρ) (s s' : ApplicationService) : Bool :=
  s'.configUncertain && (!s.configUncertain || call.command.reloads)

end SecretCall

/-! ## One call -/

/-- What a call does to the secrets before the work that it defers. -/
inductive SecretEffect (supplied : ProfileId → Option SessionSecretUpdate)
    (cleanup : DeferredRuntimeCleanup) (fences : Bool) (s s' : ApplicationService) : Prop
  | fenced (hfences : fences = true) (hconfig : s'.observed.config = s.observed.config)
      (hsecret : ∀ p, cleanup.secretAfter p (s'.secret p) = none)
  | done (hfences : fences = false) (h : Supplies supplied cleanup s s')

section
variable {s s' : ApplicationService}

theorem Supplies.untouched (hs : Matched s) (h : Untouched s s')
    (hsecrets : s'.sessionSecrets = s.sessionSecrets) : Supplies (fun _ => none) {} s s' := by
  refine ⟨by rw [h.observed]; exact hs.identified, fun p => ?_, fun p update h => by cases h⟩
  simp [expectedSecret, h.observed, ApplicationService.secret, hsecrets]

theorem secretAfter_of_clear {cleanup : DeferredRuntimeCleanup}
    (h : cleanup.clearAllSecrets = true) (p : ProfileId) (secret : Option SessionSecret) :
    cleanup.secretAfter p secret = none := by
  simp [DeferredRuntimeCleanup.secretAfter, h]

/-- The fence of a call that is no reload. -/
def risesUncertain (s s' : ApplicationService) : Bool := s'.configUncertain && !s.configUncertain

theorem SecretTurn.effect_ok {α : Type} {supplied : α → ProfileId → Option SessionSecretUpdate}
    {cleanup : α → DeferredRuntimeCleanup} {a : α}
    (h : SecretTurn supplied cleanup s s' (.ok a)) :
    SecretEffect (supplied a) (cleanup a) (risesUncertain s s') s s' := by
  cases h with
  | done hcertain h => exact .done (by simp [risesUncertain, hcertain]) h

theorem SecretTurn.effect_error {α : Type} {supplied : α → ProfileId → Option SessionSecretUpdate}
    {cleanup : α → DeferredRuntimeCleanup} {failure : RuntimeMutationFailure} (hs : Matched s)
    (h : SecretTurn supplied cleanup s s' (.error failure)) :
    SecretEffect (fun _ => none) failure.cleanup (risesUncertain s s') s s' := by
  cases h with
  | refused h hsecrets hcleanup =>
    refine .done (by simp [risesUncertain, h.configUncertain]) ?_
    rw [hcleanup]
    exact Supplies.untouched hs h hsecrets
  | fenced hcertain huncertain hconfig hclear =>
    exact .fenced (by simp [risesUncertain, hcertain, huncertain]) hconfig
      fun p => secretAfter_of_clear hclear p _

theorem SecretEffect.settled {supplied : ProfileId → Option SessionSecretUpdate}
    {cleanup cleanup' : DeferredRuntimeCleanup} {fences : Bool} {s'' : ApplicationService}
    (h : SecretEffect supplied cleanup fences s s') (hsettled : Settled cleanup cleanup' s' s'') :
    SecretEffect supplied cleanup' fences s s'' := by
  cases h with
  | fenced hfences hconfig hsecret =>
    refine .fenced hfences (by rw [hsettled.untouched.observed]; exact hconfig) fun p => ?_
    rw [hsettled.secret p]
    exact hsecret p
  | done hfences h => exact .done hfences (h.settled hsettled)

theorem applyDeferredCleanup_settled (cleanup : DeferredRuntimeCleanup) (s : ApplicationService) :
    (applyDeferredCleanup cleanup : Op ρ Unit).Ends s fun s' r =>
      r = .ok () ∧ Settled cleanup {} s s' := by
  refine (applyDeferredCleanup_stores cleanup s).mono ?_
  rintro s' r ⟨hquiet, ⟨⟨⟩, rfl⟩, hsecret⟩
  exact ⟨rfl, hquiet, hsecret⟩

/-- A public mutation settles its cleanup itself, also where it fails. -/
theorem settleFailure_effect (hs : Matched s)
    {supplied : RuntimeMutationOutcome → ProfileId → Option SessionSecretUpdate}
    {inner : Mutation ρ RuntimeMutationOutcome} {Q : ApplicationService →
      Except ServiceError ProfileMutationOutcome → Prop}
    (h : inner.EndsOn Answer.Observes s
      (SecretTurn supplied (fun outcome => leftCleanup false outcome.cleanup) s))
    (hok : ∀ s' outcome, SecretEffect (supplied outcome) {} (risesUncertain s s') s s' →
      Q s' (.ok outcome.mutation))
    (herror : ∀ s' e, SecretEffect (fun _ => none) {} (risesUncertain s s') s s' →
      Q s' (.error e)) :
    (settleFailure inner).EndsOn Answer.Observes s Q := by
  refine Task.endsOn_bind.2 (Task.endsOn_attempt.2 (h.mono ?_))
  rintro s' (failure | outcome) hturn
  · refine Task.Ends.on (Task.ends_bind.2 ((applyDeferredCleanup_settled failure.cleanup s').mono ?_))
    rintro s'' r ⟨rfl, hsettled⟩
    refine herror s'' failure.error ?_
    have heffect := (hturn.effect_error hs).settled hsettled
    rwa [show risesUncertain s s' = risesUncertain s s'' by
      simp [risesUncertain, hsettled.untouched.configUncertain]] at heffect
  · exact hok s' outcome hturn.effect_ok

/-! ### Reloading and storing -/

theorem validateConfigIdentity_identified {config : Config}
    (h : (validateConfigIdentity config).isOk = true) : Identified config.profiles := by
  rw [← validateConfigIdentity_ok_iff]
  cases hvalid : validateConfigIdentity config with
  | ok => rfl
  | error error =>
    rw [hvalid] at h
    cases h

theorem reloadConfigurationForRuntime_effect (hs : Matched s) :
    (reloadConfigurationForRuntime : Op ρ RuntimeReloadOutcome).Ends s fun s' r =>
      ∃ outcome, r = .ok outcome ∧
        SecretEffect (fun _ => none) outcome.cleanup s'.configUncertain s s' := by
  refine Task.ends_bind.2 (Task.ends_bind.2 (Task.ends_attempt.2 (Task.ends_bind.2 fun answer => ?_)))
  simp only [Task.ends_done]
  split
  · intro _ _
    exact ⟨_, rfl, .fenced rfl rfl fun p => secretAfter_of_clear rfl p _⟩
  next loaded hloaded =>
    have hidentified : Identified loaded.config.profiles := by
      refine validateConfigIdentity_identified ?_
      exact (Option.filter_eq_some_iff.1 hloaded).2
    refine Task.ends_bind.2 (replaceLoadedConfig_ends fun _ => ?_)
    refine ⟨_, rfl, .done rfl ?_⟩
    have hsupplies {s' : ApplicationService} (hconfig : s'.observed.config = loaded.config)
        (hsecrets : s'.sessionSecrets = s.sessionSecrets) :=
      Supplies.nothing (s.snapshot.reloadTargets loaded.config) hs hconfig hsecrets
        hidentified fun _ _ => rfl
    exact hsupplies rfl rfl

theorem storeSessionCredentialExact_effect (hs : Matched s) (operationId : OperationId)
    (p : ProfileId) (g : ProfileGeneration) (secret : SessionSecret) :
    (storeSessionCredentialExact operationId p g secret : Op ρ Unit).Ends s fun s' r =>
      Untouched s s' ∧
        Supplies (match r with
          | .ok _ => fun q => if q = p then some (.replace secret) else none
          | .error _ => fun _ => none) {} s s' := by
  have hrefused : Untouched s s ∧ Supplies (fun _ => none) {} s s :=
    ⟨.refl s, Supplies.untouched hs (.refl s) rfl⟩
  -- the checks read the state, and a failure of one is a refusal
  refine Task.Ends.bind (Q := fun s' _ => s' = s) (fun _ => rfl) ?_ ?_
  case refine_2 =>
    rintro s' e rfl
    exact hrefused
  rintro s' _ rfl
  refine Task.ends_bind.2 (Task.ends_bind.2 (Task.ends_attempt.2 ?_))
  refine Task.Ends.bind (Q := fun s'' _ => s'' = s') (fun _ => rfl) ?_ ?_
  case refine_2 =>
    rintro s'' e rfl
    exact hrefused
  rintro s'' _ rfl
  refine Task.Ends.bind (Q := fun s' _ => s' = s'') (fun _ => rfl) ?_ ?_
  case refine_2 =>
    rintro s' e rfl
    exact hrefused
  rintro s' _ rfl
  refine Task.Ends.bind (Q := fun s'' r => s'' = s' ∧ ∀ profile, r = .ok profile →
    observedProfile s'.observed.config p = some profile) (fun _ => ⟨rfl, ?_⟩) ?_ ?_
  · intro profile hprofile
    cases hobserved : observedProfile s'.observed.config p with
    | none => simp [hobserved] at hprofile
    | some found =>
      simp only [hobserved, Except.ok.injEq] at hprofile
      rw [hprofile]
  case refine_3 =>
    rintro s'' e ⟨rfl, -⟩
    exact hrefused
  rintro s'' profile ⟨rfl, hprofile⟩
  split
  · exact hrefused
  next hmode =>
    intro _
    refine ⟨⟨rfl, rfl, rfl⟩, hs.identified, fun q => ?_, fun q update h hkeep => ?_⟩
    · have hlookup := SessionSecretUpdate.apply_lookup p q s''.sessionSecrets (.replace secret)
      simp only [DeferredRuntimeCleanup.secretAfter_empty, ApplicationService.secret]
      rw [hlookup]
      by_cases hq : q = p
      · simp [hq, expectedSecret, SessionSecretUpdate.after]
      · simp [hq, Ne.symm hq, expectedSecret, ApplicationService.secret]
    · by_cases hq : q = p
      · subst hq
        refine ⟨profile, ?_, by simpa using hmode⟩
        exact (content_eq_observedProfile hs.identified q).trans (hprofile profile rfl)
      · simp [hq] at h

theorem finishMutation_effect (hs : Matched s) {inner : Mutation ρ RuntimeMutationOutcome}
    {supplied : RuntimeMutationOutcome → ProfileId → Option SessionSecretUpdate}
    {Q : ApplicationService → Except Failure (Outcome ρ) → Prop}
    (h : inner.EndsOn Answer.Observes s
      (SecretTurn supplied (fun outcome => leftCleanup true outcome.cleanup) s))
    (hok : ∀ s' outcome,
      SecretEffect (supplied outcome) outcome.cleanup (risesUncertain s s') s s' →
      Q s' (.ok (.runtimeMutation outcome)))
    (herror : ∀ s' failure,
      SecretEffect (fun _ => none) failure.cleanup (risesUncertain s s') s s' →
      Q s' (.error (.mutation failure))) :
    (finishMutation inner).EndsOn Answer.Observes s Q := by
  refine Task.endsOn_mapError.2 (Task.endsOn_bind.2 (h.mono ?_))
  rintro s' (failure | outcome) hturn
  · exact herror s' failure (hturn.effect_error hs)
  · exact hok s' outcome hturn.effect_ok

theorem finishWith_endsOn {α : Type} {wrap : α → Outcome ρ} {op : Op ρ α}
    {Q : ApplicationService → Except Failure (Outcome ρ) → Prop}
    (h : op.EndsOn Answer.Observes s fun s' r => Q s' ((r.map wrap).mapError .service)) :
    (finishWith wrap op).EndsOn Answer.Observes s Q := by
  refine Task.endsOn_mapError.2 (Task.endsOn_bind.2 (h.mono ?_))
  rintro s' (e | a) hQ
  · exact hQ
  · exact hQ

/-- What a call does before the work that it defers. -/
theorem SecretCall.effect (split : Text → Option (List Text)) (call : SecretCall ρ)
    (hs : Matched s) :
    SecretEffect (call.supplied ((begin split call.command).solo call.answers s).2)
      (deferredWork ((begin split call.command).solo call.answers s).2).2
      (call.fences s ((begin split call.command).solo call.answers s).1) s
      ((begin split call.command).solo call.answers s).1 := by
  obtain ⟨command, hhandles, answers, observes, allowRetag, settling⟩ := call
  refine Task.EndsOn.solo (Q := fun s' r => SecretEffect
    (SecretCall.supplied ⟨command, hhandles, answers, observes, allowRetag, settling⟩ r)
    (deferredWork r).2
    (SecretCall.fences ⟨command, hhandles, answers, observes, allowRetag, settling⟩ s s') s s')
    ?_ observes
  have hrises (s' : ApplicationService) :
      (s'.configUncertain && (!s.configUncertain || false)) = risesUncertain s s' := by
    rw [Bool.or_false]
    rfl
  have hraised (s' : ApplicationService) :
      (s'.configUncertain && (!s.configUncertain || true)) = s'.configUncertain := by simp
  cases command with
  | create request =>
    simp only [SecretCall.fences, Command.reloads, hrises]
    exact finishWith_endsOn (settleFailure_effect hs (createProfileInner_secrets request false hs)
      (fun _ _ h => h) fun _ _ h => h)
  | update request =>
    simp only [SecretCall.fences, Command.reloads, hrises]
    exact finishWith_endsOn (settleFailure_effect hs (updateProfileInner_secrets request .legacy hs)
      (fun _ _ h => h) fun _ _ h => h)
  | delete request =>
    simp only [SecretCall.fences, Command.reloads, hrises]
    exact finishWith_endsOn (settleFailure_effect hs (deleteProfileInner_secrets request false hs)
      (fun _ _ h => h) fun _ _ h => h)
  | createForRuntime request =>
    simp only [SecretCall.fences, Command.reloads, hrises]
    exact finishMutation_effect hs (createProfileInner_secrets request true hs)
      (fun _ _ h => h) fun _ _ h => h
  | updateForRuntime request =>
    simp only [SecretCall.fences, Command.reloads, hrises]
    exact finishMutation_effect hs (updateProfileInner_secrets request .defer hs)
      (fun _ _ h => h) fun _ _ h => h
  | deleteForRuntime request =>
    simp only [SecretCall.fences, Command.reloads, hrises]
    exact finishMutation_effect hs (deleteProfileInner_secrets request true hs)
      (fun _ _ h => h) fun _ _ h => h
  | reload =>
    simp only [SecretCall.fences, Command.reloads, hraised]
    refine finishWith_endsOn (Task.Ends.on ((reloadConfigurationForRuntime_effect hs).bind ?_ ?_))
    · rintro s' outcome ⟨outcome', houtcome, heffect⟩
      cases houtcome
      refine Task.ends_bind.2 ((applyDeferredCleanup_settled outcome.cleanup s').mono ?_)
      rintro s'' r ⟨rfl, hsettled⟩
      have heffect' := heffect.settled hsettled
      rw [← hsettled.untouched.configUncertain] at heffect'
      show Task.Ends (if outcome.configUncertain = true then _ else _) _ _
      split
      · exact heffect'
      · exact heffect'
    · rintro s' e ⟨outcome, h, -⟩
      cases h
  | reloadForRuntime =>
    simp only [SecretCall.fences, Command.reloads, hraised]
    refine finishWith_endsOn (Task.Ends.on ((reloadConfigurationForRuntime_effect hs).mono ?_))
    rintro s' r ⟨outcome, rfl, heffect⟩
    exact heffect
  | storeCredential identity secret =>
    simp only [SecretCall.fences, Command.reloads, hrises]
    refine finishWith_endsOn (Task.Ends.on ((storeSessionCredentialExact_effect hs _ _ _ _).mono ?_))
    rintro s' (e | a) ⟨hquiet, hsupplies⟩
    · exact .done (by simp [risesUncertain, hquiet.configUncertain]) hsupplies
    · exact .done (by simp [risesUncertain, hquiet.configUncertain]) hsupplies
  | _ => cases hhandles

theorem settleWork_settled (work : Option DeferredSessionFence × DeferredRuntimeCleanup)
    (allowRetag : Bool) (s : ApplicationService) :
    (settleWork work allowRetag : Op ρ Unit).Ends s fun s' _ => Settled work.2 {} s s' := by
  obtain ⟨fence, cleanup⟩ := work
  cases fence with
  | none => exact (applyDeferredCleanup_settled cleanup s).mono fun _ _ h => h.2
  | some fence =>
    refine (resolveDeferredSession_stores fence allowRetag s).bind ?_ ?_
    · rintro s' _ ⟨hquiet, -, hsecret⟩
      refine (applyDeferredCleanup_settled cleanup s').mono ?_
      rintro s'' r ⟨-, hsettled⟩
      refine ⟨hquiet.trans hsettled.untouched, fun p => ?_⟩
      rw [hsettled.secret p, hsecret p]
    · rintro s' e ⟨-, ⟨a, h⟩, -⟩
      cases h

/-- A call with the work that it defers. -/
theorem SecretCall.run_effect (split : Text → Option (List Text)) (call : SecretCall ρ)
    (hs : Matched s) :
    SecretEffect (call.supplied (call.run split s).2) {} (call.fences s (call.run split s).1) s
      (call.run split s).1 := by
  have heffect := call.effect split hs
  have hsettled := (settleWork_settled
    (deferredWork ((begin split call.command).solo call.answers s).2) call.allowRetag
    ((begin split call.command).solo call.answers s).1).solo call.settling
  have hfences : call.fences s ((begin split call.command).solo call.answers s).1 =
      call.fences s (call.run split s).1 := by
    unfold SecretCall.fences
    rw [← hsettled.untouched.configUncertain]
    rfl
  rw [hfences] at heffect
  exact heffect.settled hsettled

theorem Command.reconfigures_of_handlesSecrets {command : Command}
    (h : command.handlesSecrets = true) :
    command.reconfigures = true ∨ ∃ identity secret, command = .storeCredential identity secret := by
  cases command with
  | storeCredential identity secret => exact .inr ⟨identity, secret, rfl⟩
  | create | createForRuntime | update | updateForRuntime | delete | deleteForRuntime | reload
  | reloadForRuntime => exact .inl rfl
  | _ => cases h

theorem SecretCall.run_sound (split : Text → Option (List Text)) (call : SecretCall ρ)
    (hs : Matched s) :
    (call.run split s).1.observed.Sound (call.run split s).1.nextGeneration := by
  have hsettled := (settleWork_settled
    (deferredWork ((begin split call.command).solo call.answers s).2) call.allowRetag
    ((begin split call.command).solo call.answers s).1).solo call.settling
  have hbegin : ((begin split call.command).solo call.answers s).1.observed.Sound
      ((begin split call.command).solo call.answers s).1.nextGeneration := by
    rcases Command.reconfigures_of_handlesSecrets call.handlesSecrets with
      hreconfigures | ⟨identity, secret, hstore⟩
    · exact (ConfigCall.turns split ⟨call.command, hreconfigures, call.answers⟩ s).sound hs.sound
    · have hends : (begin (ρ := ρ) split call.command).Ends s fun s' _ => Untouched s s' := by
        rw [hstore]
        exact finishWith_ends ((storeSessionCredentialExact_effect hs _ _ _ _).mono fun _ _ h => h.1)
      have hquiet := hends.solo call.answers
      rw [hquiet.observed, hquiet.nextGeneration]
      exact hs.sound
  have hquiet := hsettled.untouched
  rw [show (call.run split s).1.observed = _ from hquiet.observed,
    show (call.run split s).1.nextGeneration = _ from hquiet.nextGeneration]
  exact hbegin

theorem SecretCall.run_matched (split : Text → Option (List Text)) (call : SecretCall ρ)
    (hs : Matched s) : Matched (call.run split s).1 := by
  have hsound := call.run_sound split hs
  cases call.run_effect split hs with
  | fenced hfences hconfig hsecret =>
    refine ⟨hsound, by rw [hconfig]; exact hs.identified, fun p secret h => ?_⟩
    have hnone := hsecret p
    rw [DeferredRuntimeCleanup.secretAfter_empty, h] at hnone
    cases hnone
  | done hfences h =>
    refine ⟨hsound, h.identified, fun p secret hstored => ?_⟩
    have hexpected := h.secret p
    rw [DeferredRuntimeCleanup.secretAfter_empty, hstored] at hexpected
    cases hsupplied : call.supplied (call.run split s).2 p with
    | some update =>
      refine h.session p update hsupplied fun hclear => ?_
      rw [hsupplied, hclear] at hexpected
      cases hexpected
    | none =>
      rw [hsupplied] at hexpected
      simp only [expectedSecret] at hexpected
      split at hexpected
      next hcontent =>
        obtain ⟨profile, hprofile, hmode⟩ := hs.session p secret hexpected.symm
        rw [ObservedState.Unchanged, hprofile] at hcontent
        obtain ⟨written, hwritten, hsame⟩ := exists_of_beq_some hcontent
        exact ⟨written, hwritten, (ConnectionProfile.credentialMode_eq hsame).trans hmode⟩
      · cases hexpected

end

/-! ## Sequences of calls -/

/-- What a call does to the secret of a profile: a call that succeeds supplies, clears or keeps it
for the profile it is about; a profile that is gone or changed otherwise loses it; and so do all
profiles where the configuration becomes uncertain. -/
inductive SecretChange
  | supplied (secret : SessionSecret)
  | cleared
  | left
  deriving DecidableEq

def SecretCall.change (call : SecretCall ρ) (s s' : ApplicationService)
    (result : Except Failure (Outcome ρ)) (p : ProfileId) : SecretChange :=
  if call.fences s s' then .cleared
  else
    match call.supplied result p with
    | some (.replace secret) => .supplied secret
    | some .clear => .cleared
    | some .keep => .left
    | none => if s.observed.Unchanged s'.observed p then .left else .cleared

theorem SecretCall.secret_run (split : Text → Option (List Text)) (call : SecretCall ρ)
    {s : ApplicationService} (hs : Matched s) (p : ProfileId) :
    (call.run split s).1.secret p =
      match call.change s (call.run split s).1 (call.run split s).2 p with
      | .supplied secret => some secret
      | .cleared => none
      | .left => s.secret p := by
  unfold SecretCall.change
  cases call.run_effect split hs with
  | fenced hfences hconfig hsecret =>
    rw [hfences]
    exact hsecret p
  | done hfences h =>
    rw [hfences]
    have hexpected := h.secret p
    rw [DeferredRuntimeCleanup.secretAfter_empty] at hexpected
    rw [hexpected]
    unfold expectedSecret
    cases call.supplied (call.run split s).2 p with
    | some update => cases update <;> rfl
    | none =>
      simp only [Bool.false_eq_true, if_false]
      split <;> rfl

section
variable (split : Text → Option (List Text)) (loaded : LoadedConfig)

def afterSecretCalls (calls : List (SecretCall ρ)) : ApplicationService :=
  calls.foldl (fun s call => (call.run split s).1) (ApplicationService.initial loaded)

theorem afterSecretCalls_snoc (calls : List (SecretCall ρ)) (call : SecretCall ρ) :
    afterSecretCalls split loaded (calls ++ [call]) =
      (call.run split (afterSecretCalls split loaded calls)).1 := by
  simp [afterSecretCalls]

/-- What the next call after `calls` does to the secret of a profile. -/
def changeAfter (calls : List (SecretCall ρ)) (call : SecretCall ρ) (p : ProfileId) : SecretChange :=
  call.change (afterSecretCalls split loaded calls)
    (call.run split (afterSecretCalls split loaded calls)).1
    (call.run split (afterSecretCalls split loaded calls)).2 p

/-- The secret is the one that was supplied most recently for the profile, and it has not been
cleared since. -/
def LastSupplied (calls : List (SecretCall ρ)) (p : ProfileId) (secret : SessionSecret) : Prop :=
  ∃ earlier call later, calls = earlier ++ call :: later ∧
    changeAfter split loaded earlier call p = .supplied secret ∧
    ∀ before next after, later = before ++ next :: after →
      changeAfter split loaded (earlier ++ call :: before) next p = .left

theorem afterSecretCalls_matched (hloaded : (validateConfigIdentity loaded.config).isOk)
    (calls : List (SecretCall ρ)) : Matched (afterSecretCalls split loaded calls) := by
  induction calls using List.reverseRecOn with
  | nil =>
    exact ⟨initial_sound loaded, validateConfigIdentity_identified hloaded,
      fun p secret h => by cases h⟩
  | append_singleton calls call ih =>
    rw [afterSecretCalls_snoc]
    exact call.run_matched split ih

theorem LastSupplied.snoc_supplied (calls : List (SecretCall ρ)) {call : SecretCall ρ}
    {p : ProfileId} {secret : SessionSecret}
    (h : changeAfter split loaded calls call p = .supplied secret) :
    LastSupplied split loaded (calls ++ [call]) p secret := by
  refine ⟨calls, call, [], rfl, h, fun before next after heq => ?_⟩
  have hlength := congrArg List.length heq
  simp at hlength

theorem LastSupplied.snoc_left {calls : List (SecretCall ρ)} {call : SecretCall ρ}
    {p : ProfileId} {secret : SessionSecret} (h : LastSupplied split loaded calls p secret)
    (hleft : changeAfter split loaded calls call p = .left) :
    LastSupplied split loaded (calls ++ [call]) p secret := by
  obtain ⟨earlier, first, later, rfl, hfirst, hlater⟩ := h
  refine ⟨earlier, first, later ++ [call], by simp, hfirst, fun before next after heq => ?_⟩
  rcases List.eq_nil_or_concat after with rfl | ⟨rest, last, rfl⟩
  · obtain ⟨rfl, hnext⟩ := List.append_inj' heq rfl
    cases hnext
    exact hleft
  · rw [List.concat_eq_append, ← List.cons_append, ← List.append_assoc] at heq
    obtain ⟨hlater', -⟩ := List.append_inj' heq rfl
    exact hlater before next rest hlater'

/-- A secret that is stored was supplied last. -/
theorem lastSupplied_of_secret (hloaded : (validateConfigIdentity loaded.config).isOk)
    (calls : List (SecretCall ρ)) (p : ProfileId) (secret : SessionSecret)
    (h : (afterSecretCalls split loaded calls).secret p = some secret) :
    LastSupplied split loaded calls p secret := by
  induction calls using List.reverseRecOn with
  | nil => cases h
  | append_singleton calls call ih =>
    have hs := afterSecretCalls_matched split loaded hloaded calls
    have hrun := call.secret_run split hs p
    rw [afterSecretCalls_snoc, hrun] at h
    cases hchange : changeAfter split loaded calls call p with
    | supplied latest =>
      have hchange' : call.change _ _ _ p = _ := hchange
      rw [hchange'] at h
      cases h
      exact .snoc_supplied split loaded calls hchange
    | cleared =>
      have hchange' : call.change _ _ _ p = _ := hchange
      rw [hchange'] at h
      cases h
    | left =>
      have hchange' : call.change _ _ _ p = _ := hchange
      rw [hchange'] at h
      exact (ih h).snoc_left split loaded hchange

/-- An update of a profile that keeps its secret. -/
def SecretCall.keeps (call : SecretCall ρ) : Prop :=
  ∃ request, (call.command = .update request ∨ call.command = .updateForRuntime request) ∧
    request.secretUpdate = .keep

theorem SecretCall.change_of_keeps {call : SecretCall ρ} (h : call.keeps)
    (s s' : ApplicationService) (result : Except Failure (Outcome ρ)) (p : ProfileId)
    (secret : SessionSecret) : call.change s s' result p ≠ .supplied secret := by
  obtain ⟨request, hcommand, hkeep⟩ := h
  have hsupplied : call.supplied result p = some .keep ∨ call.supplied result p = none := by
    unfold SecretCall.supplied
    rcases hcommand with hcommand | hcommand
    · rw [hcommand]
      cases result with
      | error e => exact .inr rfl
      | ok outcome =>
        cases outcome with
        | mutation mutation =>
          simp only [hkeep]
          split
          · exact .inl rfl
          · exact .inr rfl
        | _ => exact .inr rfl
    · rw [hcommand]
      cases result with
      | error e => exact .inr rfl
      | ok outcome =>
        cases outcome with
        | runtimeMutation mutation =>
          simp only [hkeep, suppliedBy]
          split
          · exact .inl rfl
          · exact .inr rfl
        | _ => exact .inr rfl
  intro hchange
  unfold SecretCall.change at hchange
  split at hchange
  · cases hchange
  · rcases hsupplied with hsupplied | hsupplied
    · rw [hsupplied] at hchange
      cases hchange
    · rw [hsupplied] at hchange
      simp only at hchange
      split at hchange
      · cases hchange
      · cases hchange

/-- The store of the secrets is accounted for by the calls so far. -/
structure SecretsAccounted (calls : List (SecretCall ρ)) : Prop where
  observed : ∀ p secret, (afterSecretCalls split loaded calls).secret p = some secret →
    ∃ profile, observedProfile (afterSecretCalls split loaded calls).observed.config p =
      some profile ∧ profile.credentialMode = .session
  latest : ∀ p secret, (afterSecretCalls split loaded calls).secret p = some secret →
    LastSupplied split loaded calls p secret
  kept : ∀ (call : SecretCall ρ) (p : ProfileId), call.keeps →
    (afterSecretCalls split loaded calls).secret p = none →
    (afterSecretCalls split loaded (calls ++ [call])).secret p = none

/-- **Secrets match the configuration.** They do after every sequence of calls. -/
theorem secrets_accounted (hloaded : (validateConfigIdentity loaded.config).isOk)
    (calls : List (SecretCall ρ)) : SecretsAccounted split loaded calls := by
  have hs := afterSecretCalls_matched split loaded hloaded calls
  refine ⟨fun p secret h => ?_, lastSupplied_of_secret split loaded hloaded calls, ?_⟩
  · obtain ⟨profile, hcontent, hmode⟩ := hs.session p secret h
    exact ⟨profile, (content_eq_observedProfile hs.identified p).symm.trans hcontent, hmode⟩
  · intro call p hkeeps hnone
    rw [afterSecretCalls_snoc, call.secret_run split hs p]
    cases hchange : call.change (afterSecretCalls split loaded calls)
      (call.run split (afterSecretCalls split loaded calls)).1
      (call.run split (afterSecretCalls split loaded calls)).2 p with
    | supplied secret => exact absurd hchange (SecretCall.change_of_keeps hkeeps _ _ _ p secret)
    | cleared => rfl
    | left => exact hnone

end

/-! ## One profile that takes a session secret -/

def sessionConfig : LoadedConfig :=
  ⟨⟨2, [{ plainProfile "a" 3306 with credentialMode := .session }]⟩, .v2, false, none, none⟩

/-- The credential of the profile is stored. -/
def storing : SecretCall Unit where
  command := .storeCredential ⟨"a".toList, 1, 1⟩ "secret".toList
  handlesSecrets := rfl
  answers := silence
  observes _ _ _ _ _ h _ := by cases h
  allowRetag := false
  settling := silence

theorem secrets_accounted_storing :
    (afterSecretCalls (fun _ => none) sessionConfig [storing]).secret "a".toList =
        some "secret".toList ∧
      SecretsAccounted (fun _ => none) sessionConfig [storing] :=
  ⟨by decide +kernel, secrets_accounted (fun _ => none) sessionConfig (by decide) [storing]⟩

end Dbotter.Service
