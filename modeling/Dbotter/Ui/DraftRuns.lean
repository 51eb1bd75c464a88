import Dbotter.Program.Selected
import Dbotter.Service.BookCalls
import Dbotter.Service.DraftTests
import Dbotter.Service.OldSecrets
import Dbotter.Ui.SessionWork

/-!
Draft tests among all other calls of the service.

The credential of a test is the one that its intent asks for. One of the environment is what the
environment answered for the name of the draft; a current one was read in the lane, from the live
generation that the form was opened with, for a draft that connects as the saved profile does. A
test leaves the service as it was but for one connection, which it closes itself.
-/

namespace Dbotter.Ui
open Dbotter.Utf8 Dbotter.Execution Dbotter.Configuration Dbotter.Service Dbotter.Program
open Dbotter.Program.System

variable {ρ α ε : Type}

/-! ## The task of a test -/

inductive DraftTestIntent
  | secretless (draftId : DraftId) (operationId : OperationId) (draft : ConnectionDraft)
  | sessionReplace (draftId : DraftId) (operationId : OperationId) (draft : ConnectionDraft)
      (secret : SessionSecret)
  | sessionKeep (profileId : ProfileId) (profileGeneration : ProfileGeneration)
      (draftId : DraftId) (operationId : OperationId) (draft : ConnectionDraft)
  | environment (draftId : DraftId) (operationId : OperationId) (draft : ConnectionDraft)
  deriving DecidableEq

namespace DraftTestIntent

def draftId : DraftTestIntent → DraftId
  | .secretless draftId _ _ | .sessionReplace draftId _ _ _ | .sessionKeep _ _ draftId _ _
  | .environment draftId _ _ => draftId

def operationId : DraftTestIntent → OperationId
  | .secretless _ operationId _ | .sessionReplace _ operationId _ _
  | .sessionKeep _ _ _ operationId _ | .environment _ operationId _ => operationId

def draft : DraftTestIntent → ConnectionDraft
  | .secretless _ _ draft | .sessionReplace _ _ draft _ | .sessionKeep _ _ _ _ draft
  | .environment _ _ draft => draft

end DraftTestIntent

def prepareDraftTestIntent : DraftTestIntent → Op ρ TestDraftRequest
  | .secretless draftId operationId draft => prepareSecretlessDraftTest draftId operationId draft
  | .sessionReplace draftId operationId draft secret =>
    prepareReplacementSecretDraftTest draftId operationId draft secret
  | .sessionKeep profileId profileGeneration draftId operationId draft =>
    prepareKeepCurrentDraftTest profileId profileGeneration draftId operationId draft
  | .environment draftId operationId draft => prepareEnvironmentDraftTest draftId operationId draft

/-- The ping of the draft. A driver that panics gives no answer. -/
def pingDraft (_lease : DraftSessionLease) :
    Work ρ (Option (Except Interruption (Except DriverError Unit))) :=
  .step fun awaited s =>
    ⟨s, .ok (match awaited.stop with
      | some stop => some (.error stop)
      | none =>
        if awaited.lost then none
        else some (.ok (awaited.answer.reply.map fun _ => ()))), none⟩

def closeDraft (lease : DraftSessionLease) : Work ρ (Except DriverError Unit) :=
  .step fun awaited s =>
    ⟨{ s with closed := lease.handle :: s.closed },
      .ok (awaited.answer.reply.map fun _ => ()), none⟩

/-- `run_draft_work`: the connection is closed however the ping ends, and a panic goes on after
that. -/
def draftWork (request : TestDraftRequest) : Work ρ UiEvent := do
  match ← selecting (acquireDraftSession request) with
  | .error stop => return runDraftWork request.operationId request.draftId (.interrupted stop)
  | .ok (.error error) =>
    return runDraftWork request.operationId request.draftId (.refused error)
  | .ok (.ok lease) =>
    let attempt ← pingDraft lease
    let close ← closeDraft lease
    match attempt with
    | none => .fail .panicked
    | some attempt =>
      let uncertain ← awaiting isConfigUncertain
      return runDraftWork lease.operationId lease.draftId (.ran attempt close uncertain)

def draftTest (intent : DraftTestIntent) : Work ρ UiEvent := do
  match ← (awaiting (prepareDraftTestIntent intent)).attempt with
  | .ok request => draftWork request
  | .error error => return runDraftWork intent.operationId intent.draftId (.refused error)

/-! ## The pool -/

inductive DraftCommand
  | call (command : Command)
  | test (intent : DraftTestIntent)

inductive DraftOutcome (ρ : Type)
  | call (outcome : Outcome ρ)
  | tested (event : UiEvent)

def draftCommand (split : Text → Option (List Text)) :
    DraftCommand → Task ApplicationService (Awaited ρ) Event Failure (DraftOutcome ρ)
  | .call command => do
    let outcome ← (begin split command).answering Awaited.answer
    return .call outcome
  | .test intent => do
    let event ← (draftTest intent).mapError .service
    return .tested event

abbrev DraftSystem (ρ : Type) :=
  System ApplicationService (Awaited ρ) Event Failure (DraftOutcome ρ) DraftCommand

/-- The tests and the calls of a freshly loaded service, in the order of a schedule. -/
def runDrafts (split : Text → Option (List Text)) (loaded : LoadedConfig)
    (actions : List (Action (Awaited ρ) DraftCommand)) : DraftSystem ρ :=
  run (draftCommand split) ⟨ApplicationService.initial loaded, none, [], []⟩ actions

/-! ## Credentials -/

/-- The current secret of a profile is read for a draft that connects as the profile does. -/
structure ReadsCurrent (p : ProfileId) (g : ProfileGeneration) (draft : ConnectionDraft)
    (secret : SessionSecret) (s : ApplicationService) (e : Option Event) : Prop where
  event : e = some (.resolved p)
  certain : s.configUncertain = false
  live : s.observed.live p = some g
  current : s.sessionSecrets.lookup p = some secret
  persisted : ∃ persisted, observedProfile s.observed.config p = some persisted ∧
    persisted.credentialMode = .session ∧ sameKeepTestConnection persisted draft = true

/-- A step that draws the secret of an intent that comes without one. -/
def Draws (intent : DraftTestIntent) (secret : SessionSecret) (s : ApplicationService)
    (e : Option Event) : Prop :=
  match intent with
  | .secretless _ _ _ | .sessionReplace _ _ _ _ => False
  | .sessionKeep p g _ _ draft => ReadsCurrent p g draft secret s e
  | .environment _ _ draft =>
    ∃ name, draft.secretEnv = some name ∧ e = some (.answered name (.ok secret))

theorem Draws.not_dialled {intent : DraftTestIntent} {secret : SessionSecret}
    {s : ApplicationService} {profile : ConnectionProfile} {found : Option SessionSecret}
    {n : ProfileGeneration} : ¬ Draws intent secret s (some (.dialled profile found n)) := by
  intro h
  cases intent with
  | secretless d o draft => exact h
  | sessionReplace d o draft typed => exact h
  | sessionKeep p g d o draft => cases h.event
  | environment d o draft =>
    obtain ⟨name, -, hevent⟩ := h
    cases hevent

/-- What a test may dial, once it has drawn what it has drawn. -/
def Dials (intent : DraftTestIntent) (drawn : SessionSecret → Prop) (profile : ConnectionProfile)
    (secret : Option SessionSecret) : Prop :=
  profile.toConnectionDraft = intent.draft ∧
    match intent with
    | .secretless _ _ draft => draft.credentialMode = .none ∧ secret = none
    | .sessionReplace _ _ draft typed => draft.credentialMode = .session ∧ secret = some typed
    | .sessionKeep _ _ _ _ draft =>
      draft.credentialMode = .session ∧ ∃ current, secret = some current ∧ drawn current
    | .environment _ _ draft =>
      draft.credentialMode = .environment ∧ ∃ found, secret = some found ∧ drawn found

/-- A test with the secret that it has drawn. -/
structure Tester where
  intent : DraftTestIntent
  drawn : Option SessionSecret := none

inductive TestStep : Tester → ApplicationService → Option Event → ApplicationService → Tester → Prop
  | look {τ : Tester} {s s' : ApplicationService} (hbooks : books s' = books s) :
      TestStep τ s none s' τ
  | blank {τ : Tester} {s : ApplicationService} {e : Option Event}
      (hevent : ∀ profile secret n, e ≠ some (.dialled profile secret n)) : TestStep τ s e s τ
  | draw {τ : Tester} {s : ApplicationService} {e : Option Event} {secret : SessionSecret}
      (hdraws : Draws τ.intent secret s e) : TestStep τ s e s { τ with drawn := some secret }
  | dial {τ : Tester} {s s' : ApplicationService} {profile : ConnectionProfile}
      {secret : Option SessionSecret} {n : ProfileGeneration}
      (hdials : Dials τ.intent (fun current => τ.drawn = some current) profile secret)
      (hbooks : books s' = books s) :
      TestStep τ s (some (.dialled profile secret n)) s' τ

theorem TestStep.intent_eq {τ τ' : Tester} {s s' : ApplicationService} {e : Option Event}
    (h : TestStep τ s e s' τ') : τ'.intent = τ.intent := by
  cases h <;> rfl

/-- The request of a test has the credential that the test has drawn. -/
def Prepared (τ : Tester) (request : TestDraftRequest) : Prop :=
  request.draft = τ.intent.draft ∧
    match τ.intent with
    | .secretless _ _ _ => request.credentialSource = none
    | .sessionReplace _ _ _ typed => request.credentialSource = some (.sessionReplace typed)
    | .sessionKeep _ _ _ _ _ =>
      ∃ current, request.credentialSource = some (.sessionKeep current) ∧ τ.drawn = some current
    | .environment _ _ _ =>
      ∃ found, request.credentialSource = some (.environmentResolved found) ∧ τ.drawn = some found

theorem Prepared.dials {τ : Tester} {request : TestDraftRequest} {secret : Option SessionSecret}
    (h : Prepared τ request) (hsecret : request.secret = .ok secret) :
    Dials τ.intent (fun current => τ.drawn = some current) request.profile secret := by
  obtain ⟨intent, drawn⟩ := τ
  obtain ⟨hdraft, hsource⟩ := h
  refine ⟨hdraft, ?_⟩
  have hof := TestDraftRequest.of_secret hsecret
  rw [hdraft] at hof
  cases intent with
  | secretless d o draft =>
    replace hsource : request.credentialSource = none := hsource
    obtain ⟨hmode, -, rfl⟩ | ⟨-, current, hcurrent, -⟩ | ⟨-, found, hfound, -⟩ := hof
    · exact ⟨hmode, rfl⟩
    · simp [hsource] at hcurrent
    · simp [hsource] at hfound
  | sessionReplace d o draft typed =>
    replace hsource : request.credentialSource = some (.sessionReplace typed) := hsource
    obtain ⟨-, hnone, -⟩ | ⟨hmode, current, hcurrent, rfl⟩ | ⟨-, found, hfound, -⟩ := hof
    · simp [hsource] at hnone
    · obtain rfl : typed = current := by simpa [hsource] using hcurrent
      exact ⟨hmode, rfl⟩
    · simp [hsource] at hfound
  | sessionKeep p g d o draft =>
    obtain ⟨kept, hsource, hdrawn⟩ := hsource
    obtain ⟨-, hnone, -⟩ | ⟨hmode, current, hcurrent, rfl⟩ | ⟨-, found, hfound, -⟩ := hof
    · simp [hsource] at hnone
    · obtain rfl : kept = current := by simpa [hsource] using hcurrent
      exact ⟨hmode, kept, rfl, hdrawn⟩
    · simp [hsource] at hfound
  | environment d o draft =>
    obtain ⟨resolved, hsource, hdrawn⟩ := hsource
    obtain ⟨-, hnone, -⟩ | ⟨-, current, hcurrent, -⟩ | ⟨hmode, found, hfound, rfl⟩ := hof
    · simp [hsource] at hnone
    · simp [hsource] at hcurrent
    · obtain rfl : resolved = found := by simpa [hsource] using hfound
      exact ⟨hmode, resolved, rfl, hdrawn⟩

/-! ## One test -/

/-- A task of a test, in the lane and out of it. -/
abbrev Testing {ι : Type} (Q : Option ((ObservedState × Nat) × Bool) → Tester → Except ε α → Prop)
    (t : Task ApplicationService ι Event ε α) (held : Option ((ObservedState × Nat) × Bool))
    (τ : Tester) : Prop :=
  t.Guarded books (fun _ => True) TestStep Q held τ

/-- Steps that draw nothing. -/
abbrev Looks {ι : Type} (τ : Tester) (R : Except ε α → Prop)
    (t : Task ApplicationService ι Event ε α) : Prop :=
  t.Steps (fun s e s' => TestStep τ s e s' τ ∧ books s' = books s) R

section
variable {τ : Tester} {held : Option ((ObservedState × Nat) × Bool)}

theorem looks_step {ι : Type} {R : Except ε α → Prop}
    {f : ι → ApplicationService → Effect ApplicationService Event (Except ε α)}
    (h : ∀ i s, (f i s).event = none ∧ books (f i s).state = books s ∧ R (f i s).value) :
    Looks τ R (Task.step f) := by
  apply Task.Steps.step
  intro i s
  obtain ⟨hevent, hbooks, hR⟩ := h i s
  rw [hevent]
  exact ⟨⟨.look hbooks, hbooks⟩, hR⟩

theorem looks_certain : Looks τ (fun _ => True) (ensureConfigCertain : Op ρ Unit) :=
  looks_step fun _ _ => ⟨rfl, rfl, trivial⟩

theorem looks_checkDraft (draft : ConnectionDraft) :
    Looks τ (fun _ => True) (checkDraft draft : Op ρ Unit) :=
  looks_step fun _ _ => ⟨rfl, rfl, trivial⟩

theorem Testing.of_looks {ι : Type} {R : Except ε α → Prop}
    {Q : Option ((ObservedState × Nat) × Bool) → Tester → Except ε α → Prop}
    {t : Task ApplicationService ι Event ε α} (h : Looks τ R t) (hQ : ∀ r, R r → Q held τ r) :
    Testing Q t held τ :=
  Task.Guarded.of_steps h (fun _ => trivial) hQ

/-- A section that looks at the books in the lane. -/
theorem testing_look {w : (ObservedState × Nat) × Bool}
    {f : ApplicationService → Except ServiceError α} :
    Testing (fun held τ' r => held = some w ∧ τ' = τ ∧ ∃ s, books s = w ∧ r = f s)
      (.step fun _ s => ⟨s, f s, none⟩ : Op ρ α) (some w) τ := by
  apply Task.Guarded.step_in
  intro _ s hs
  exact ⟨τ, .look rfl, congrArg some hs, rfl, s, hs, rfl⟩

/-- The part of the service that a section in the lane reads is that of its books. -/
theorem books_parts {s s' : ApplicationService} (h : books s' = books s) :
    s'.observed = s.observed ∧ s'.configUncertain = s.configUncertain := by
  simp only [books, ledger, Prod.mk.injEq] at h
  exact ⟨h.1.1, h.2⟩

theorem withLane_testing {body : Op ρ α} {Q : Tester → Except ServiceError α → Prop}
    (h : ∀ w, Testing (fun _ τ' r => Q τ' r) body (some w) τ) :
    Testing (fun held τ' r => held = none ∧ Q τ' r) (withLane body) none τ := by
  have hlane : Testing (fun held τ' r => (∃ w, held = some w) ∧ τ' = τ ∧ r = .ok ())
      (.lane : Op ρ Unit) none τ := Task.Guarded.lane fun w => ⟨⟨w, rfl⟩, rfl, rfl⟩
  apply Task.Guarded.bind hlane
  case herror =>
    rintro held τ' e ⟨-, -, hr⟩
    cases hr
  rintro held τ _ ⟨⟨w, rfl⟩, rfl, -⟩
  apply Task.Guarded.bind (Task.Guarded.attempt (h w) (R := fun _ τ' r =>
    ∃ a, r = .ok a ∧ Q τ' a) fun _ _ r hr => ⟨r, rfl, hr⟩)
  case herror =>
    rintro held τ' e ⟨a, hr, -⟩
    cases hr
  rintro held τ r ⟨a, ⟨⟩, hr⟩
  have hunlane : Testing (fun held τ' r => held = none ∧ τ' = τ ∧ r = .ok ())
      (.unlane : Op ρ Unit) held τ := Task.Guarded.unlane trivial ⟨rfl, rfl, rfl⟩
  apply Task.Guarded.bind hunlane
  · rintro held τ' _ ⟨rfl, rfl, -⟩
    exact ⟨rfl, hr⟩
  · rintro held τ' e ⟨-, -, hr⟩
    cases hr

/-- Reading the current secret, where everything else has been found so. -/
theorem cloneForProfile_testing {w : (ObservedState × Nat) × Bool} {p : ProfileId}
    {g : ProfileGeneration} {d : DraftId} {o : OperationId} {draft : ConnectionDraft}
    (hintent : τ.intent = .sessionKeep p g d o draft)
    (hdraws : ∀ s secret, books s = w → s.sessionSecrets.lookup p = some secret →
      ReadsCurrent p g draft secret s (some (.resolved p))) :
    Testing (fun _ τ' r => τ'.intent = τ.intent ∧ ∃ found, r = .ok found ∧
        ∀ secret, found = some secret → τ'.drawn = some secret)
      (cloneForProfile p : Op ρ (Option SessionSecret)) (some w) τ := by
  apply Task.Guarded.step_in
  intro _ s hs
  cases hsecret : s.sessionSecrets.lookup p with
  | none =>
    refine ⟨τ, .blank ?_, rfl, none, rfl, ?_⟩
    · intro profile secret n h
      cases h
    · intro secret h
      cases h
  | some secret =>
    have hdraw : Draws τ.intent secret s (some (.resolved p)) := by
      rw [hintent]
      exact hdraws s secret hs hsecret
    refine ⟨{ τ with drawn := some secret }, .draw hdraw, rfl, some secret, rfl, ?_⟩
    rintro _ ⟨⟩
    rfl

/-- In the lane the checks of the section still hold where the secret is read. -/
theorem drawCurrentSecret_testing {w : (ObservedState × Nat) × Bool} {p : ProfileId}
    {g : ProfileGeneration} {d : DraftId} {o : OperationId} {draft : ConnectionDraft}
    (hintent : τ.intent = .sessionKeep p g d o draft) :
    Testing (fun _ τ' r => τ'.intent = τ.intent ∧
        ∀ request, r = .ok request → Prepared τ' request)
      (drawCurrentSecret p g d o draft : Op ρ TestDraftRequest) (some w) τ := by
  apply Task.Guarded.bind testing_look
  case herror =>
    rintro _ τ e ⟨-, rfl, -⟩
    exact ⟨rfl, fun _ h => (nomatch h)⟩
  rintro _ τ _ ⟨rfl, rfl, s₁, rfl, hcertain⟩
  apply Task.Guarded.bind testing_look
  case herror =>
    rintro _ τ e ⟨-, rfl, -⟩
    exact ⟨rfl, fun _ h => (nomatch h)⟩
  rintro _ τ _ ⟨rfl, rfl, s₂, hs₂, hlive⟩
  apply Task.Guarded.bind testing_look
  case herror =>
    rintro _ τ e ⟨-, rfl, -⟩
    exact ⟨rfl, fun _ h => (nomatch h)⟩
  rintro _ τ persisted ⟨rfl, rfl, s₃, hs₃, hprofile⟩
  split
  · exact ⟨rfl, fun _ h => (nomatch h)⟩
  next hmodes =>
    split
    · exact ⟨rfl, fun _ h => (nomatch h)⟩
    next hsame =>
      simp only [not_or, ne_eq, not_not] at hmodes
      simp only [Bool.not_eq_true', Bool.not_eq_false] at hsame
      have hdraws : ∀ s secret, books s = books s₁ → s.sessionSecrets.lookup p = some secret →
          ReadsCurrent p g draft secret s (some (.resolved p)) := by
        intro s secret hs hsecret
        obtain ⟨hobserved₂, -⟩ := books_parts (hs₂.trans hs.symm)
        obtain ⟨hobserved₃, -⟩ := books_parts (hs₃.trans hs.symm)
        obtain ⟨-, hflag⟩ := books_parts hs
        refine ⟨rfl, ?_, ?_, hsecret, persisted, ?_, hmodes.1, hsame⟩
        · rw [hflag]
          simpa using hcertain
        · rw [← hobserved₂]
          show s₂.observed.generations.lookup p = some g
          simpa [ApplicationService.generationIs] using hlive
        · rw [← hobserved₃]
          cases hfound : observedProfile s₃.observed.config p with
          | none => simp [hfound] at hprofile
          | some found => simpa [hfound] using hprofile.symm
      apply Task.Guarded.bind (cloneForProfile_testing hintent hdraws)
      case herror =>
        rintro _ τ' e ⟨-, found, h, -⟩
        cases h
      rintro _ τ' found ⟨hsame, _, ⟨⟩, hdrawn⟩
      cases found with
      | none => exact ⟨hsame, fun _ h => (nomatch h)⟩
      | some secret =>
        refine ⟨hsame, ?_⟩
        rintro _ ⟨⟩
        rw [Prepared, hsame, hintent]
        exact ⟨rfl, secret, rfl, hdrawn secret rfl⟩

/-- Asking the environment for the name of the draft. -/
theorem resolveEnvironment_testing {name : Text} {d : DraftId} {o : OperationId}
    {draft : ConnectionDraft} (hintent : τ.intent = .environment d o draft)
    (hname : draft.secretEnv = some name) :
    Testing (fun held τ' r => held = none ∧ τ'.intent = τ.intent ∧ ∃ found, r = .ok found ∧
        ∀ secret, found = .ok secret → τ'.drawn = some secret)
      (resolveEnvironment name : Op ρ (Except SecretError SessionSecret)) none τ := by
  apply Task.Guarded.step_out
  intro answer s
  show ∃ τ', TestStep τ s (some (.answered name (answer.resolveEnvironment name))) s τ' ∧ _
  cases answer.resolveEnvironment name with
  | error e =>
    refine ⟨τ, .blank ?_, rfl, trivial, rfl, rfl, .error e, rfl, ?_⟩
    · intro profile secret n h
      cases h
    · intro secret h
      cases h
  | ok secret =>
    have hdraw : Draws τ.intent secret s (some (.answered name (.ok secret))) := by
      rw [hintent]
      exact ⟨name, hname, rfl⟩
    refine ⟨{ τ with drawn := some secret }, .draw hdraw, rfl, trivial, rfl, rfl, .ok secret,
      rfl, ?_⟩
    rintro _ ⟨⟩
    rfl

/-- A preparation that only looks. -/
theorem prepare_testing {intent : DraftTestIntent} {t : Op ρ TestDraftRequest}
    (h : Looks { intent } (fun r => ∀ request, r = .ok request → Prepared { intent } request) t) :
    Testing (fun held τ' r => held = none ∧ τ'.intent = intent ∧
      ∀ request, r = .ok request → Prepared τ' request) t none { intent } :=
  Testing.of_looks h fun _ hr => ⟨rfl, rfl, hr⟩

theorem prepareDraftTestIntent_testing (intent : DraftTestIntent) :
    Testing (fun held τ' r => held = none ∧ τ'.intent = intent ∧
      ∀ request, r = .ok request → Prepared τ' request)
      (prepareDraftTestIntent intent : Op ρ TestDraftRequest) none { intent } := by
  cases intent with
  | secretless d o draft =>
    apply prepare_testing
    apply looks_certain.bind
    · rintro _ - request ⟨⟩
      exact ⟨rfl, rfl⟩
    · exact fun _ _ _ h => (nomatch h)
  | sessionReplace d o draft secret =>
    apply prepare_testing
    apply looks_certain.bind
    · intro _ _
      apply (looks_checkDraft draft).bind
      · intro _ _
        split
        · exact fun _ h => (nomatch h)
        · rintro request ⟨⟩
          exact ⟨rfl, rfl⟩
      · exact fun _ _ _ h => (nomatch h)
    · exact fun _ _ _ h => (nomatch h)
  | sessionKeep p g d o draft =>
    apply Task.Guarded.bind (Testing.of_looks looks_certain fun _ _ => ⟨rfl, rfl⟩ :
      Testing (fun held τ' _ => held = none ∧ τ' = { intent := .sessionKeep p g d o draft })
        (ensureConfigCertain : Op ρ Unit) none { intent := .sessionKeep p g d o draft })
    · rintro _ _ _ ⟨rfl, rfl⟩
      exact withLane_testing fun w => drawCurrentSecret_testing rfl
    · rintro _ _ e ⟨rfl, rfl⟩
      exact ⟨rfl, rfl, fun _ h => (nomatch h)⟩
  | environment d o draft =>
    have hlook (t : Op ρ Unit) (ht : Looks { intent := .environment d o draft } (fun _ => True) t) :
        Testing (fun held τ' _ => held = none ∧ τ' = { intent := .environment d o draft }) t none
          { intent := .environment d o draft } :=
      Testing.of_looks ht fun _ _ => ⟨rfl, rfl⟩
    apply Task.Guarded.bind (hlook _ looks_certain)
    case herror =>
      rintro _ _ e ⟨rfl, rfl⟩
      exact ⟨rfl, rfl, fun _ h => (nomatch h)⟩
    rintro _ _ _ ⟨rfl, rfl⟩
    apply Task.Guarded.bind (hlook _ (looks_checkDraft draft))
    case herror =>
      rintro _ _ e ⟨rfl, rfl⟩
      exact ⟨rfl, rfl, fun _ h => (nomatch h)⟩
    rintro _ _ _ ⟨rfl, rfl⟩
    split
    · exact ⟨rfl, rfl, fun _ h => (nomatch h)⟩
    split
    · exact ⟨rfl, rfl, fun _ h => (nomatch h)⟩
    next name hname =>
      apply Task.Guarded.bind (resolveEnvironment_testing rfl hname)
      case herror =>
        rintro _ τ' e ⟨-, -, found, h, -⟩
        cases h
      rintro _ τ' found ⟨rfl, hsame, _, ⟨⟩, hdrawn⟩
      cases found with
      | error e => exact ⟨rfl, hsame, fun _ h => (nomatch h)⟩
      | ok secret =>
        refine ⟨rfl, hsame, ?_⟩
        rintro _ ⟨⟩
        rw [Prepared, hsame]
        exact ⟨rfl, secret, rfl, hdrawn secret rfl⟩

theorem acquireDraftSession_looks {request : TestDraftRequest} (h : Prepared τ request) :
    Looks τ (fun _ => True) (acquireDraftSession request : Op ρ DraftSessionLease) := by
  apply looks_certain.bind _ fun _ _ => trivial
  intro _ _
  apply (looks_checkDraft _).bind _ fun _ _ => trivial
  intro _ _
  cases hsecret : request.secret with
  | error e => trivial
  | ok secret =>
    have hcheck : Looks τ (fun _ => True) (checkConnector request.profile : Op ρ Unit) :=
      looks_step fun _ _ => ⟨rfl, rfl, trivial⟩
    apply hcheck.bind _ fun _ _ => trivial
    intro _ _
    have hconnect : Looks τ (fun _ => True)
        (connect request.profile secret 0 : Op ρ (Except DriverError Handle)) := by
      apply Task.Steps.step
      intro answer s
      cases answer.connect with
      | error e => exact ⟨⟨.dial (h.dials hsecret) rfl, rfl⟩, trivial⟩
      | ok _ => exact ⟨⟨.dial (h.dials hsecret) rfl, rfl⟩, trivial⟩
    apply hconnect.bind _ fun _ _ => trivial
    intro dialled _
    cases dialled with
    | error e => trivial
    | ok handle => trivial

theorem draftWork_looks {request : TestDraftRequest} (h : Prepared τ request) :
    Looks τ (fun _ => True) (draftWork request : Work ρ UiEvent) := by
  have hacquire : Looks τ (fun _ => True) (selecting (acquireDraftSession request) :
      Work ρ (Except Interruption (Except ServiceError DraftSessionLease))) :=
    (acquireDraftSession_looks h).answering.select (fun s => ⟨.look rfl, rfl⟩)
      (fun _ _ => trivial) fun _ => trivial
  apply hacquire.bind _ fun _ _ => trivial
  intro acquired _
  cases acquired with
  | error stop => trivial
  | ok result =>
    cases result with
    | error error => trivial
    | ok lease =>
      have hping : Looks τ (fun _ => True) (pingDraft lease : Work ρ _) :=
        looks_step fun _ _ => ⟨rfl, rfl, trivial⟩
      apply hping.bind _ fun _ _ => trivial
      intro attempt _
      have hclose : Looks τ (fun _ => True) (closeDraft lease : Work ρ _) :=
        looks_step fun _ _ => ⟨rfl, rfl, trivial⟩
      apply hclose.bind _ fun _ _ => trivial
      intro close _
      cases attempt with
      | none => trivial
      | some attempt => exact fun _ _ => ⟨⟨.look rfl, rfl⟩, trivial⟩

theorem draftTest_testing (intent : DraftTestIntent) :
    Testing (fun held τ' _ => held = none ∧ τ'.intent = intent)
      (draftTest intent : Work ρ UiEvent) none { intent } := by
  have hprepare : Testing (fun held τ' r => held = none ∧ τ'.intent = intent ∧
      ∃ a, r = .ok a ∧ ∀ request, a = .ok request → Prepared τ' request)
      ((awaiting (prepareDraftTestIntent intent)).attempt :
        Work ρ (Except ServiceError TestDraftRequest)) none { intent } := by
    apply (prepareDraftTestIntent_testing intent).answering.attempt
    rintro _ τ' r ⟨rfl, hintent, hr⟩
    exact ⟨rfl, hintent, r, rfl, hr⟩
  apply Task.Guarded.bind hprepare
  · rintro _ τ' result ⟨rfl, hintent, _, ⟨⟩, hprepared⟩
    cases result with
    | error e => exact ⟨rfl, hintent⟩
    | ok request =>
      exact Testing.of_looks (draftWork_looks (hprepared request rfl)) fun _ _ => ⟨rfl, hintent⟩
  · rintro _ τ' e ⟨-, -, a, h, -⟩
    cases h

end

/-! ## Runs with tests -/

/-- The guarantee of a call of the pool. -/
inductive PoolStep : Clerk ⊕ Tester → ApplicationService → Option Event → ApplicationService →
    Clerk ⊕ Tester → Prop
  | call {γ γ' : Clerk} {s s' : ApplicationService} {e : Option Event}
      (h : BookStep γ s e s' γ') : PoolStep (.inl γ) s e s' (.inl γ')
  | test {τ τ' : Tester} {s s' : ApplicationService} {e : Option Event}
      (h : TestStep τ s e s' τ') : PoolStep (.inr τ) s e s' (.inr τ')

def DraftCommand.first : DraftCommand → Clerk ⊕ Tester
  | .call command => .inl { command }
  | .test intent => .inr { intent }

/-- Whether the ghost value is one of the command. -/
def DraftCommand.Is : DraftCommand → Clerk ⊕ Tester → Prop
  | .call _, γ => ∃ clerk, γ = .inl clerk
  | .test intent, γ => ∃ τ, γ = .inr τ ∧ τ.intent = intent

theorem DraftCommand.Is.step {command : DraftCommand} {γ γ' : Clerk ⊕ Tester}
    {s s' : ApplicationService} {e : Option Event} (h : command.Is γ)
    (hstep : PoolStep γ s e s' γ') : command.Is γ' := by
  cases command with
  | call command =>
    obtain ⟨clerk, rfl⟩ := h
    cases hstep
    exact ⟨_, rfl⟩
  | test intent =>
    obtain ⟨τ, rfl, rfl⟩ := h
    cases hstep with
    | test htest => exact ⟨_, rfl, htest.intent_eq⟩

/-- A task of the pool in the lane and out of it. -/
abbrev Pooled (Q : Option ((ObservedState × Nat) × Bool) → Clerk ⊕ Tester → Except ε α → Prop)
    (t : Task ApplicationService (Awaited ρ) Event ε α) (γ : Clerk ⊕ Tester) : Prop :=
  t.Guarded books (Sum.elim Clerk.Idle fun _ => True) PoolStep Q none γ

theorem draftCommand_guarded (split : Text → Option (List Text)) (command : DraftCommand) :
    Pooled (fun held _ _ => held = none ∧ True)
      (draftCommand split command :
        Task ApplicationService (Awaited ρ) Event Failure (DraftOutcome ρ)) command.first := by
  cases command with
  | call command =>
    have hcall : Pooled (fun held _ _ => held = none)
        ((begin split command).answering Awaited.answer :
          Task ApplicationService (Awaited ρ) Event Failure (Outcome ρ)) (.inl { command }) := by
      apply (begin_leaves split command).answering.image (Sum.inl : Clerk → Clerk ⊕ Tester)
      · exact fun _ _ _ _ _ h => .call h
      · exact fun _ h => h
      · exact fun _ _ _ h => h.1
    apply hcall.bind
    · rintro _ γ outcome rfl
      exact ⟨rfl, trivial⟩
    · rintro _ γ failure rfl
      exact ⟨rfl, trivial⟩
  | test intent =>
    have htest : Testing (fun held _ _ => held = none)
        ((draftTest intent).mapError .service :
          Task ApplicationService (Awaited ρ) Event Failure UiEvent) none { intent } :=
      (draftTest_testing intent).mapError fun _ _ _ h => h.1
    have hpooled : Pooled (fun held _ _ => held = none)
        ((draftTest intent).mapError .service :
          Task ApplicationService (Awaited ρ) Event Failure UiEvent) (.inr { intent }) := by
      apply htest.image (Sum.inr : Tester → Clerk ⊕ Tester)
      · exact fun _ _ _ _ _ h => .test h
      · exact fun _ h => h
      · exact fun _ _ _ h => h
    apply hpooled.bind
    · rintro _ γ event rfl
      exact ⟨rfl, trivial⟩
    · rintro _ γ failure rfl
      exact ⟨rfl, trivial⟩

/-- The call has drawn the secret for its intent. -/
def DrawnBy (log : Log) (call : Nat) (intent : DraftTestIntent) (secret : SessionSecret) : Prop :=
  ∃ x ∈ log, x.call = call ∧ Draws intent secret x.before x.event

theorem DrawnBy.mono {log : Log} {call : Nat} {intent : DraftTestIntent} {secret : SessionSecret}
    (h : DrawnBy log call intent secret) (later : Log) :
    DrawnBy (log ++ later) call intent secret := by
  obtain ⟨x, hx, hdraws⟩ := h
  exact ⟨x, List.mem_append_left _ hx, hdraws⟩

theorem Dials.imp {intent : DraftTestIntent} {drawn drawn' : SessionSecret → Prop}
    {profile : ConnectionProfile} {secret : Option SessionSecret}
    (h : Dials intent drawn profile secret) (himp : ∀ current, drawn current → drawn' current) :
    Dials intent drawn' profile secret := by
  refine ⟨h.1, ?_⟩
  cases intent with
  | sessionKeep p g d o draft =>
    obtain ⟨hmode, current, rfl, hdrawn⟩ := h.2
    exact ⟨hmode, current, rfl, himp current hdrawn⟩
  | environment d o draft =>
    obtain ⟨hmode, found, rfl, hdrawn⟩ := h.2
    exact ⟨hmode, found, rfl, himp found hdrawn⟩
  | secretless d o draft => exact h.2
  | sessionReplace d o draft typed => exact h.2

/-- What the tests of a run have drawn, and what they have dialled with it. -/
structure Accounted (ghost : Nat → Clerk ⊕ Tester) (n : Nat) (log : Log) : Prop where
  calls : ∀ x ∈ log, x.call < n
  drawn : ∀ (i : Nat) τ secret, ghost i = .inr τ → τ.drawn = some secret →
    DrawnBy log i τ.intent secret
  dialled : ∀ before x after, log = before ++ x :: after → ∀ τ, ghost x.call = .inr τ →
    ∀ profile secret g, x.event = some (.dialled profile secret g) →
      Dials τ.intent (DrawnBy before x.call τ.intent) profile secret

section
variable {ghost : Nat → Clerk ⊕ Tester} {n : Nat} {log : Log}

/-- Calls that hold nothing they did not hold. -/
theorem Accounted.fewer {ghost' : Nat → Clerk ⊕ Tester} {n' : Nat} (h : Accounted ghost n log)
    (hn : n ≤ n') (hghost : ∀ (i : Nat) τ, ghost' i = .inr τ → ghost i = .inr τ ∨
      n ≤ i ∧ τ.drawn = none) : Accounted ghost' n' log := by
  refine ⟨fun x hx => Nat.lt_of_lt_of_le (h.calls x hx) hn, ?_, ?_⟩
  · intro i τ secret hi hdrawn
    rcases hghost i τ hi with hold | ⟨-, hnone⟩
    · exact h.drawn i τ secret hold hdrawn
    · rw [hnone] at hdrawn
      cases hdrawn
  · intro before x after heq τ hx profile secret g hevent
    have hlt := h.calls x (by rw [heq]; simp)
    rcases hghost x.call τ hx with hold | ⟨hge, -⟩
    · exact h.dialled before x after heq τ hold profile secret g hevent
    · omega

theorem Accounted.step {i : Nat} {s s' : ApplicationService} {e : Option Event}
    {γ' : Clerk ⊕ Tester} (h : Accounted ghost n log) (hi : i < n)
    (hstep : PoolStep (ghost i) s e s' γ') :
    Accounted (Function.update ghost i γ') n (log ++ [⟨i, s, e, s'⟩]) := by
  have hintent (τ : Tester) (hτ : γ' = .inr τ) : ∃ τ₀, ghost i = .inr τ₀ ∧
      TestStep τ₀ s e s' τ := by
    subst hτ
    generalize ghost i = γ at hstep
    cases hstep with
    | test htest => exact ⟨_, rfl, htest⟩
  refine ⟨?_, ?_, ?_⟩
  · intro x hx
    rcases List.mem_append.1 hx with hx | hx
    · exact h.calls x hx
    · rw [List.mem_singleton.1 hx]
      exact hi
  · intro j τ secret hj hdrawn
    by_cases hij : j = i
    · subst hij
      rw [Function.update_self] at hj
      obtain ⟨τ₀, hτ₀, htest⟩ := hintent τ hj
      cases htest with
      | look hbooks => exact (h.drawn j _ secret hτ₀ hdrawn).mono _
      | blank => exact (h.drawn j _ secret hτ₀ hdrawn).mono _
      | dial hdials hbooks => exact (h.drawn j _ secret hτ₀ hdrawn).mono _
      | draw hdraws =>
        cases hdrawn
        exact ⟨⟨j, s, e, s⟩, by simp, rfl, hdraws⟩
    · rw [Function.update_of_ne hij] at hj
      exact (h.drawn j τ secret hj hdrawn).mono _
  · intro before x after heq τ hx profile secret g hevent
    rcases List.eq_nil_or_concat after with rfl | ⟨after, last, rfl⟩
    · -- the step itself
      obtain ⟨rfl, hlast⟩ := List.append_inj' heq rfl
      cases hlast
      rw [Function.update_self] at hx
      obtain ⟨τ₀, hτ₀, htest⟩ := hintent τ hx
      cases hevent
      cases htest with
      | dial hdials hbooks => exact hdials.imp fun current => h.drawn i τ current hτ₀
      | blank hnot => exact absurd rfl (hnot profile secret g)
      | draw hdraws => exact absurd hdraws Draws.not_dialled
    · rw [List.concat_eq_append, ← List.cons_append, ← List.append_assoc] at heq
      obtain ⟨rfl, -⟩ := List.append_inj' heq rfl
      by_cases hxi : x.call = i
      · rw [hxi, Function.update_self] at hx
        obtain ⟨τ₀, hτ₀, htest⟩ := hintent τ hx
        rw [htest.intent_eq]
        exact h.dialled before x after rfl τ₀ (hxi ▸ hτ₀) profile secret g hevent
      · rw [Function.update_of_ne hxi] at hx
        exact h.dialled before x after rfl τ hx profile secret g hevent

end

theorem runDrafts_accounted (split : Text → Option (List Text)) (loaded : LoadedConfig)
    (actions : List (Action (Awaited ρ) DraftCommand)) :
    ∃ ghost, Accounted ghost (runDrafts split loaded actions).calls.length
        (runDrafts split loaded actions).trace ∧
      ∀ (i : Nat) command progress,
        (runDrafts split loaded actions).calls[i]? = some ⟨command, progress⟩ →
          command.Is (ghost i) := by
  have hrun := System.run_traced (s := .initial loaded) DraftCommand.first
    (Sum.map Clerk.put id) (fun _ => .inl ⟨.shutdown, none⟩) (fun _ => True)
    (K := DraftCommand.Is) (J := fun ghost n log _ => Accounted ghost n log)
    (Q := fun _ _ _ => True) (fun command _ => draftCommand_guarded split command)
    (by rintro (command | intent) - <;> trivial)
    (by rintro (clerk | τ) <;> trivial) ?_ ?_ ?_ ?_ (fun _ => rfl) ?_ actions fun _ _ => trivial
  · obtain ⟨ghost, -, haccounted, hcommands⟩ := hrun
    exact ⟨ghost, haccounted, hcommands⟩
  · refine ⟨?_, ?_, fun _ _ _ _ _ _ h hstep => h.step hstep⟩
    · rintro (command | intent)
      · exact ⟨_, rfl⟩
      · exact ⟨_, rfl, rfl⟩
    · rintro (command | intent) γ h
      · obtain ⟨clerk, rfl⟩ := h
        exact ⟨_, rfl⟩
      · obtain ⟨τ, rfl, rfl⟩ := h
        exact ⟨τ, rfl, rfl⟩
  · intro ghost n log _ command h
    apply h.fewer (Nat.le_succ n)
    intro i τ hi
    by_cases hin : i = n
    · subst hin
      rw [Function.update_self] at hi
      cases command with
      | call command => cases hi
      | test intent =>
        cases hi
        exact .inr ⟨Nat.le_refl _, rfl⟩
    · rw [Function.update_of_ne hin] at hi
      exact .inl hi
  · intro ghost n log _ i h
    apply h.fewer (Nat.le_refl n)
    intro j τ hj
    by_cases hij : j = i
    · subst hij
      rw [Function.update_self] at hj
      cases hghost : ghost j with
      | inl clerk =>
        rw [hghost] at hj
        cases hj
      | inr τ₀ =>
        rw [hghost] at hj
        exact .inl hj
    · rw [Function.update_of_ne hij] at hj
      exact .inl hj
  · intro ghost n log s i e s' γ' h hi hstep _
    exact h.step hi hstep
  · exact ⟨fun x hx => (nomatch hx), fun i τ secret hi => (nomatch hi),
      fun before x after heq => by simp at heq⟩

/-- **Credentials of draft tests.** Whatever else runs, a test dials its own draft with the
credential that its intent asks for: none, the one that was typed, what the environment has
answered this test for the name of the draft, or the current one of a saved profile. The last the
test has read before, at a moment when the configuration was certain, the generation of its form
was the live one, and the saved profile connected as the draft does. -/
theorem draft_credentials_entitled (split : Text → Option (List Text)) (loaded : LoadedConfig)
    (actions : List (Action (Awaited ρ) DraftCommand)) {before after : Log}
    {x : Entry ApplicationService Event} {intent : DraftTestIntent}
    {progress : Dbotter.Program.Progress ApplicationService (Awaited ρ) Event Failure
      (DraftOutcome ρ)}
    {profile : ConnectionProfile} {secret : Option SessionSecret} {g : ProfileGeneration}
    (hlog : (runDrafts split loaded actions).trace = before ++ x :: after)
    (hcall : (runDrafts split loaded actions).calls[x.call]? = some ⟨.test intent, progress⟩)
    (hdial : x.event = some (.dialled profile secret g)) :
    Dials intent (DrawnBy before x.call intent) profile secret := by
  obtain ⟨ghost, haccounted, hcommands⟩ := runDrafts_accounted split loaded actions
  obtain ⟨τ, hτ, rfl⟩ := hcommands x.call _ _ hcall
  exact haccounted.dialled before x after hlog τ hτ profile secret g hdial

/-! ### A test with the credential of a saved profile -/

def keeping (port : Nat) : DraftTestIntent :=
  .sessionKeep "a".toList 1 7 2 (sessionProfileAt port).toConnectionDraft

/-- A secret is stored for a profile, and then a draft of it is tested. -/
def storeThenTest (port : Nat) : List (Action (Awaited Unit) DraftCommand) :=
  let answer : Answer Unit :=
    { holding [sessionProfileAt 3306] (some "a".toList) with connect := .ok (), reply := .ok () }
  .start (.call (.storeCredential ⟨"a".toList, 1, 1⟩ "secret".toList)) ::
      List.replicate 12 (.advance 0 { answer }) ++
    .start (.test (keeping port)) :: List.replicate 14 (.advance 1 { answer })

abbrev storedThenTested (port : Nat) : DraftSystem Unit :=
  runDrafts (fun _ => none) (plainConfig [sessionProfileAt 3306]) (storeThenTest port)

theorem of_intent {c : Option (Call ApplicationService (Awaited ρ) Event Failure (DraftOutcome ρ)
      DraftCommand)} {intent : DraftTestIntent}
    (h : (c.bind fun call => match call.command with
      | .test intent => some intent
      | .call _ => none) = some intent) : ∃ progress, c = some ⟨.test intent, progress⟩ := by
  obtain ⟨⟨command, progress⟩, rfl, h⟩ := Option.bind_eq_some_iff.1 h
  cases command with
  | call command => cases h
  | test intent =>
    cases h
    exact ⟨progress, rfl⟩

theorem draft_credentials_entitled_stored :
    Dials (keeping 3306) (DrawnBy ((storedThenTested 3306).trace.take 13) 1 (keeping 3306))
      ⟨(sessionProfileAt 3306).toConnectionDraft, "draft-7".toList⟩ (some "secret".toList) := by
  obtain ⟨x, hlog, hx⟩ := entry_at (storedThenTested 3306).trace (k := 13)
    (f := fun x => (x.call, x.event))
    (b := (1, some (.dialled ⟨(sessionProfileAt 3306).toConnectionDraft, "draft-7".toList⟩
      (some "secret".toList) 0))) (by decide +kernel)
  rw [Prod.mk.injEq] at hx
  obtain ⟨progress, hcall⟩ :=
    @of_intent Unit (storedThenTested 3306).calls[1]? (keeping 3306) (by decide +kernel)
  rw [← hx.1] at hcall ⊢
  exact draft_credentials_entitled (fun _ => none) (plainConfig [sessionProfileAt 3306])
    (storeThenTest 3306) hlog hcall hx.2

/-- Nothing is read for a draft that connects elsewhere. -/
example : (storedThenTested 3307).trace.all (fun x => x.event != some (.resolved "a".toList)) := by
  decide +kernel

end Dbotter.Ui
