import Dbotter.Service.SessionSafety
import Dbotter.Ui.DraftRuns

/-!
The connections of draft tests: a test opens at most one, closes that one itself, and leaves
everything else in the service as it finds it.
-/

namespace Dbotter.Ui
open Dbotter.Utf8 Dbotter.Execution Dbotter.Configuration Dbotter.Service Dbotter.Program
open Dbotter.Program.System

variable {ρ α ε : Type}

/-! ## The connection of a test -/

/-- How far a test is with its connection. -/
inductive Use
  | unused
  | holds (handle : Handle)
  | spent

inductive UseStep : Use → ApplicationService → Option Event → ApplicationService → Use → Prop
  | still {u : Use} {s : ApplicationService} {e : Option Event} : UseStep u s e s u
  | opens {s : ApplicationService} {e : Option Event} (handle : Handle) :
      UseStep .unused s e { s with connections := handle :: s.connections } (.holds handle)
  | closes {s : ApplicationService} {e : Option Event} {handle : Handle} :
      UseStep (.holds handle) s e { s with closed := handle :: s.closed } .spent

def Use.Free (u : Use) : Prop := ∀ handle, u ≠ .holds handle

theorem still_steady {ι : Type}
    {f : ι → ApplicationService → Effect ApplicationService Event (Except ε α)}
    (h : ∀ i s, (f i s).state = s) : (Task.step f).Steady UseStep := by
  apply Task.Steady.step
  intro u i s
  rw [h i s]
  exact .still

theorem certain_steady : (ensureConfigCertain : Op ρ Unit).Steady UseStep :=
  still_steady fun _ _ => rfl

theorem checkDraft_still (draft : ConnectionDraft) :
    (checkDraft draft : Op ρ Unit).Steady UseStep :=
  still_steady fun _ _ => rfl

theorem drawCurrentSecret_steady (p : ProfileId) (g : ProfileGeneration) (d : DraftId)
    (o : OperationId) (draft : ConnectionDraft) :
    (drawCurrentSecret p g d o draft : Op ρ TestDraftRequest).Steady UseStep := by
  apply Task.Steady.bind certain_steady
  intro _
  apply Task.Steady.bind (still_steady fun _ _ => rfl)
  intro _
  apply Task.Steady.bind (still_steady fun _ _ => rfl)
  intro persisted
  split
  · exact .done _
  split
  · exact .done _
  apply Task.Steady.bind (still_steady fun _ _ => rfl)
  intro found
  cases found with
  | none => exact .done _
  | some secret => exact .done _

theorem prepareDraftTestIntent_steady (intent : DraftTestIntent) :
    (prepareDraftTestIntent intent : Op ρ TestDraftRequest).Steady UseStep := by
  cases intent with
  | secretless d o draft => exact .bind certain_steady fun _ => .done _
  | sessionReplace d o draft secret =>
    apply Task.Steady.bind certain_steady
    intro _
    apply Task.Steady.bind (checkDraft_still draft)
    intro _
    split
    · exact .done _
    · exact .done _
  | sessionKeep p g d o draft =>
    exact .bind certain_steady fun _ => withLane_steady (drawCurrentSecret_steady p g d o draft)
  | environment d o draft =>
    apply Task.Steady.bind certain_steady
    intro _
    apply Task.Steady.bind (checkDraft_still draft)
    intro _
    split
    · exact .done _
    split
    · exact .done _
    apply Task.Steady.bind (still_steady fun _ _ => rfl)
    intro found
    cases found with
    | error e => exact .done _
    | ok secret => exact .done _

/-- What an acquisition leaves the test with. -/
def Acquired (u : Use) : Except ServiceError DraftSessionLease → Prop
  | .ok lease => u = .holds lease.handle
  | .error _ => u = .unused

/-- The steps of an acquisition begin with no connection in hand. -/
abbrev Acquiring (Q : Use → Except ε α → Prop) (t : Task ApplicationService (Answer ρ) Event ε α) :
    Prop :=
  t.Sat (fun u s e s' u' => u = .unused ∧ UseStep u s e s' u') Q .unused

theorem acquiring_bind {β : Type}
    {f : Answer ρ → ApplicationService → Effect ApplicationService Event (Except ε α)}
    {g : α → Task ApplicationService (Answer ρ) Event ε β} {Q : Use → Except ε β → Prop}
    (h : ∀ i s, (f i s).state = s) (hg : ∀ a, Acquiring Q (g a))
    (herror : ∀ e, Q .unused (.error e)) : Acquiring Q (Task.step f >>= g) := by
  intro i s
  have hstate := h i s
  refine ⟨.unused, ⟨rfl, ?_⟩, ?_⟩
  · show UseStep .unused s _ (f i s).state .unused
    rw [hstate]
    exact .still
  · show (Program.Task.bind (.done (f i s).value) g).Sat _ Q .unused
    cases (f i s).value with
    | ok a => exact hg a
    | error e => exact herror e

theorem acquireDraftSession_use (request : TestDraftRequest) :
    Acquiring Acquired (acquireDraftSession request : Op ρ DraftSessionLease) := by
  apply acquiring_bind (fun _ _ => rfl) _ fun _ => rfl
  intro _
  apply acquiring_bind (fun _ _ => rfl) _ fun _ => rfl
  intro _
  cases request.secret with
  | error e => exact rfl
  | ok secret =>
    apply acquiring_bind (fun _ _ => rfl) _ fun _ => rfl
    intro _
    have hconnect : Acquiring (fun u r => ∃ dialled, r = .ok dialled ∧
          ((∃ handle, dialled = .ok handle ∧ u = .holds handle) ∨
            (∃ error, dialled = .error error) ∧ u = .unused))
        (connect request.profile secret 0 : Op ρ (Except DriverError Handle)) := by
      apply Task.Sat.step
      intro answer s
      cases answer.connect with
      | error e => exact ⟨.unused, ⟨rfl, .still⟩, _, rfl, .inr ⟨⟨e, rfl⟩, rfl⟩⟩
      | ok _ => exact ⟨_, ⟨rfl, .opens _⟩, _, rfl, .inl ⟨_, rfl, rfl⟩⟩
    apply hconnect.bind
    · rintro u dialled ⟨_, ⟨⟩, ⟨handle, rfl, rfl⟩ | ⟨⟨error, rfl⟩, rfl⟩⟩
      · exact rfl
      · exact rfl
    · rintro u e ⟨dialled, h, -⟩
      cases h

theorem free_unused : Use.unused.Free := fun _ h => nomatch h

/-- However the test goes on, it gives its connection back. -/
theorem draftWork_use (request : TestDraftRequest) :
    (draftWork request : Work ρ UiEvent).Sat UseStep (fun u _ => u.Free) .unused := by
  have hselected : (selecting (acquireDraftSession request) :
      Work ρ (Except Interruption (Except ServiceError DraftSessionLease))).Sat UseStep
        (fun u r => ∃ x, r = .ok x ∧ ((∃ why, x = .error why) ∧ u = .unused ∨
          ∃ y, x = .ok y ∧ Acquired u y)) .unused := by
    apply (acquireDraftSession_use request).answering.select_at fun _ _ => .still
    · rintro u r hr
      exact ⟨_, rfl, .inr ⟨r, rfl, hr⟩⟩
    · rintro u why rfl
      exact ⟨_, rfl, .inl ⟨⟨why, rfl⟩, rfl⟩⟩
  apply hselected.bind
  · rintro u acquired ⟨_, ⟨⟩, ⟨⟨why, rfl⟩, rfl⟩ | ⟨result, rfl, hacquired⟩⟩
    · exact free_unused
    · cases result with
      | error error =>
        obtain rfl : u = .unused := hacquired
        exact free_unused
      | ok lease =>
        obtain rfl : u = .holds lease.handle := hacquired
        -- the ping, whatever comes of it, and the closing
        have hping : (pingDraft lease : Work ρ _).Sat UseStep
            (fun u r => u = .holds lease.handle ∧ ∃ attempt, r = .ok attempt)
              (.holds lease.handle) := fun _ _ => ⟨_, .still, rfl, _, rfl⟩
        have hclose : (closeDraft lease : Work ρ _).Sat UseStep
            (fun u r => u = .spent ∧ ∃ close, r = .ok close) (.holds lease.handle) :=
          fun _ _ => ⟨_, .closes, rfl, _, rfl⟩
        have hspent : Use.spent.Free := fun _ h => nomatch h
        apply hping.bind
        · rintro _ attempt ⟨rfl, -⟩
          apply hclose.bind
          · rintro _ close ⟨rfl, -⟩
            cases attempt with
            | none => exact hspent
            | some attempt => exact fun _ _ => ⟨.spent, .still, hspent⟩
          · rintro _ e ⟨-, close, h⟩
            cases h
        · rintro _ e ⟨-, attempt, h⟩
          cases h
  · rintro u e ⟨x, h, -⟩
    cases h

theorem draftTest_use (intent : DraftTestIntent) :
    (draftTest intent : Work ρ UiEvent).Sat UseStep (fun u _ => u.Free) .unused := by
  have hprepare : ((awaiting (prepareDraftTestIntent intent)).attempt :
      Work ρ (Except ServiceError TestDraftRequest)).Sat UseStep
        (fun u r => u = .unused ∧ ∃ result, r = .ok result) .unused := by
    apply (prepareDraftTestIntent_steady intent .unused).answering.attempt
    rintro u r rfl
    exact ⟨rfl, r, rfl⟩
  apply hprepare.bind
  · rintro u result ⟨rfl, -⟩
    cases result with
    | error error => exact free_unused
    | ok request => exact draftWork_use request
  · rintro u e ⟨-, result, h⟩
    cases h

/-! ## Runs -/

/-- What a call of the pool keeps of its connection, where it is a test. -/
def DraftCommand.Keeps : DraftCommand → Use → ApplicationService → Option Event →
    ApplicationService → Use → Prop
  | .call _, _, _, _, _, _ => True
  | .test _, u, s, e, s', u' => UseStep u s e s' u'

def DraftCommand.Ends : DraftCommand → Use → Prop
  | .call _, _ => True
  | .test _, u => u.Free

theorem draftCommand_use (split : Text → Option (List Text)) (command : DraftCommand) :
    (draftCommand split command :
      Program.Task ApplicationService (Awaited ρ) Event Failure (DraftOutcome ρ)).Sat command.Keeps
        (fun u _ => command.Ends u) .unused := by
  cases command with
  | call command => exact Task.Sat.trivial _ _
  | test intent =>
    have htest : ((draftTest intent).mapError .service : Program.Task ApplicationService (Awaited ρ)
        Event Failure UiEvent).Sat UseStep (fun u _ => u.Free) .unused :=
      (draftTest_use intent).mapError fun _ _ h => h
    exact htest.bind (fun _ _ h => h) fun _ _ h => h

/-- The custody of a test. -/
def Use.custody : Use → Custody Handle
  | .holds handle => ⟨{handle}, ∅⟩
  | .unused | .spent => .none

theorem UseStep.keeps {u u' : Use} {s s' : ApplicationService} {e : Option Event}
    (h : UseStep u s e s' u') :
    Custody.Keeps Opened Cached Closed u.custody s s' u'.custody := by
  cases h with
  | still => exact .refl (fun _ => .rfl) (fun _ => .rfl) fun _ => .rfl
  | opens handle =>
    refine ⟨?_, fun h hmem => hmem.elim, fun _ hc => .inl hc, fun _ hmem => hmem.elim,
      fun _ hc => hc⟩
    intro h hopened
    rcases List.mem_cons.1 hopened with rfl | hopened
    · exact .inr rfl
    · exact .inl hopened
  | closes =>
    refine ⟨fun _ ho => .inl ho, ?_, fun _ hc => .inl hc, fun _ hmem => hmem.elim,
      fun _ hc => List.mem_cons_of_mem _ hc⟩
    rintro h rfl
    exact .inr (.inl List.mem_cons_self)

/-- A call of the pool ends with everything that it opened in other hands. -/
theorem draftCommand_settles (split : Text → Option (List Text)) (command : DraftCommand) :
    Settles Opened Cached Closed (draftCommand split command :
      Program.Task ApplicationService (Awaited ρ) Event Failure (DraftOutcome ρ)) := by
  cases command with
  | call command =>
    have hcall : Settles Opened Cached Closed ((begin split command).answering Awaited.answer :
        Program.Task ApplicationService (Awaited ρ) Event Failure (Outcome ρ)) :=
      (begin_settles split command).answering
    exact hcall.bind (fun _ _ h => h) fun _ _ h => h
  | test intent =>
    have htest : Settles Opened Cached Closed ((draftTest intent).mapError .service :
        Program.Task ApplicationService (Awaited ρ) Event Failure UiEvent) := by
      have huse : ((draftTest intent).mapError .service : Program.Task ApplicationService (Awaited ρ)
          Event Failure UiEvent).Sat UseStep (fun u _ => u.Free) .unused :=
        (draftTest_use intent).mapError fun _ _ h => h
      apply huse.image Use.custody
      · exact fun _ _ _ _ _ h => h.keeps
      · intro u r hfree
        cases u with
        | unused => rfl
        | holds handle => exact absurd rfl (hfree handle)
        | spent => rfl
    exact htest.bind (fun _ _ h => h) fun _ _ h => h

/-- The connections that the steps have added to a list of the service. -/
def gained (list : ApplicationService → List Handle) (steps : History ApplicationService Event) :
    List Handle :=
  steps.flatMap fun (s, _, s') => (list s').take ((list s').length - (list s).length)

abbrev opened (steps : History ApplicationService Event) : List Handle :=
  gained ApplicationService.connections steps

abbrev returned (steps : History ApplicationService Event) : List Handle :=
  gained ApplicationService.closed steps

@[simp] theorem gained_snoc (list : ApplicationService → List Handle)
    (steps : History ApplicationService Event) (s s' : ApplicationService) (e : Option Event) :
    gained list (steps ++ [(s, e, s')]) =
      gained list steps ++ (list s').take ((list s').length - (list s).length) := by
  simp [gained]

/-- The steps of a test, by how far it is. -/
structure Tidy (steps : History ApplicationService Event) (u : Use) : Prop where
  frame : ∀ x ∈ steps, x.2.2 =
    { x.1 with connections := x.2.2.connections, closed := x.2.2.closed }
  lists : match u with
    | .unused => opened steps = [] ∧ returned steps = []
    | .holds handle => opened steps = [handle] ∧ returned steps = []
    | .spent => ∃ handle, opened steps = [handle] ∧ returned steps = [handle]

theorem Told.tidy {steps : History ApplicationService Event} {u : Use}
    (h : Told UseStep .unused steps u) : Tidy steps u := by
  induction h with
  | nil => exact ⟨fun x hx => (nomatch hx), rfl, rfl⟩
  | @snoc steps u u' s s' e h hstep ih =>
    constructor
    · intro x hx
      rcases List.mem_append.1 hx with hx | hx
      · exact ih.frame x hx
      · rw [List.mem_singleton.1 hx]
        cases hstep <;> rfl
    · have hlists := ih.lists
      cases hstep with
      | still => cases u <;> simpa using hlists
      | opens handle => simpa using hlists
      | closes =>
        rename_i handle
        exact ⟨handle, by simpa using hlists.1, by simpa using hlists.2⟩

/-- What the tests of a run do with connections. -/
structure TestsTidy (sys : DraftSystem ρ) : Prop where
  /-- A step of a test changes the lists of connections at most. -/
  frame : ∀ (i : Nat) intent progress, sys.calls[i]? = some ⟨.test intent, progress⟩ →
    ∀ x ∈ sys.trace, x.call = i →
      x.after = { x.before with connections := x.after.connections, closed := x.after.closed }
  /-- It opens one connection at most, -/
  once : ∀ (i : Nat) intent progress, sys.calls[i]? = some ⟨.test intent, progress⟩ →
    (opened (history i sys.trace)).length ≤ 1
  /-- closes nothing else, and has closed it once it ends. -/
  closes : ∀ (i : Nat) intent progress, sys.calls[i]? = some ⟨.test intent, progress⟩ →
    returned (history i sys.trace) <+: opened (history i sys.trace) ∧
      ∀ r, progress = .finished r → returned (history i sys.trace) = opened (history i sys.trace)
  /-- With all calls and tests at their end, what is open is in the cache. -/
  settled : (∀ c ∈ sys.calls, ∃ r, c.progress = .finished r) →
    ∀ h, Opened sys.shared h → Closed sys.shared h ∨ Cached sys.shared h

/-- **Draft tests leave nothing behind.** -/
theorem draft_tests_tidy (split : Text → Option (List Text)) (loaded : LoadedConfig)
    (actions : List (Action (Awaited ρ) DraftCommand)) :
    TestsTidy (runDrafts split loaded actions) := by
  have hnonempty : Nonempty Use := ⟨.unused⟩
  obtain ⟨ghost, hfollows, htelling⟩ := System.run_told (draftCommand_use split)
    (ApplicationService.initial loaded) actions
  have htidy (i : Nat) intent progress (hcall : (runDrafts split loaded actions).calls[i]? =
      some ⟨.test intent, progress⟩) :
      Tidy (history i (runDrafts split loaded actions).trace) (ghost i) :=
    Told.tidy (htelling.told i _ hcall)
  refine ⟨?_, ?_, ?_, fun hall h hopened => run_all_settled (draftCommand_settles split)
    (initial_opened loaded) actions rfl hall hopened⟩
  · intro i intent progress hcall x hx hxi
    apply (htidy i intent progress hcall).frame (x.before, x.event, x.after)
    simp only [history, List.mem_map, List.mem_filter, beq_iff_eq]
    exact ⟨x, ⟨hx, hxi⟩, rfl⟩
  · intro i intent progress hcall
    have hlists := (htidy i intent progress hcall).lists
    cases hghost : ghost i with
    | unused => simp_all
    | holds handle => simp_all
    | spent =>
      rw [hghost] at hlists
      obtain ⟨handle, hopened, -⟩ := hlists
      simp [hopened]
  · intro i intent progress hcall
    have hlists := (htidy i intent progress hcall).lists
    have hends (r) (hr : progress = .finished r) : (ghost i).Free := by
      subst hr
      exact hfollows i _ hcall
    cases hghost : ghost i with
    | unused =>
      rw [hghost] at hlists
      rw [hlists.1, hlists.2]
      exact ⟨List.prefix_refl _, fun _ _ => rfl⟩
    | holds handle =>
      rw [hghost] at hlists hends
      rw [hlists.1, hlists.2]
      exact ⟨List.nil_prefix, fun r hr => absurd rfl (hends r hr handle)⟩
    | spent =>
      rw [hghost] at hlists
      obtain ⟨handle, hopened, hreturned⟩ := hlists
      rw [hopened, hreturned]
      exact ⟨List.prefix_refl _, fun _ _ => rfl⟩

end Dbotter.Ui
