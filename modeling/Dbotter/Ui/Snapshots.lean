import Dbotter.Ui.Runs

/-!
What the desktop knows of the configuration.

The answers to a load and the reports of an uncertain configuration are ordered by their
operations: one that is not newer than the last is discarded. A save publishes the generation of
a profile, and its snapshot comes with the load that follows.
-/

namespace Dbotter.Ui
open Dbotter.Utf8 Dbotter.Configuration Dbotter.Service Dbotter.Drivers

/-- Every active generation has its snapshot. -/
def Listed (profiles : List ProfileSnapshot) (generations : Table ProfileId ProfileGeneration) :
    Prop :=
  ∀ p g, generations p = some g → ∃ profile ∈ profiles, profile.id = p ∧ profile.generation = g

/-- The events that the model orders by their operations. -/
def UiEvent.isOrdered : UiEvent → Bool
  | .profilesLoaded _ _ _ | .profilesFailed _ _ _ | .configUncertain _ => true
  | _ => false

namespace UiModel

/-- What an event says of the configuration. -/
inductive Tells (model : UiModel) (event : UiEvent) (model' : UiModel) : Prop
  | loaded (o : OperationId) (profiles : List ProfileSnapshot) (config : ConfigPresentation)
      (hevent : event = .profilesLoaded o profiles config)
      (hnewer : model.profilesOperationIsNewer o = true)
      (hcertain : model'.configUncertain = false)
      (hlast : model'.lastProfilesOperation = some o)
      (hprofiles : model'.profiles = (model.foldProfiles profiles).profiles)
      (hgenerations : model'.activeGenerations = (model.foldProfiles profiles).activeGenerations)
  | failed (o : OperationId) (summary : PublicSummary) (error : PublicOperationError)
      (hevent : event = .profilesFailed o summary error)
      (hnewer : model.profilesOperationIsNewer o = true)
      (huncertain : model'.configUncertain = model.configUncertain)
      (hlast : model'.lastProfilesOperation = some o)
  | uncertain (o : OperationId) (hevent : event = .configUncertain o)
      (hnewer : model.profilesOperationIsNewer o = true)
      (huncertain : model'.configUncertain = true)
      (hlast : model'.lastProfilesOperation = some o)
  | saved (o : OperationId) (p : ProfileId) (previous : Option ProfileGeneration)
      (g : ProfileGeneration) (retained : Bool) (warning : Option PublicSummary)
      (hevent : event = .profileSaved o p previous g retained warning)
      (hcurrent : model.saveIsCurrent p previous g = true)
      (huncertain : model'.configUncertain = model.configUncertain)
      (hlast : model'.lastProfilesOperation = model.lastProfilesOperation)
      (hprofiles : model'.profiles = model.profiles)
      (hgenerations : model'.activeGenerations =
        Function.update model.activeGenerations p (some g))
  | nothing (hstale : event.isOrdered = true →
        model.profilesOperationIsNewer event.operationId = false)
      (huncertain : model'.configUncertain = model.configUncertain)
      (hlast : model'.lastProfilesOperation = model.lastProfilesOperation)
      (hlisted : Listed model.profiles model.activeGenerations →
        Listed model'.profiles model'.activeGenerations)

theorem fold_tells (model : UiModel) (event : UiEvent) : Tells model event (model.fold event) := by
  have honly : ∀ event, tellsOfProfiles event = false → (event.isOrdered = true → False) →
      Tells model event (model.fold event) := by
    intro event htells hordered
    rw [(fold_onlyConnections model event htells).frame]
    exact .nothing (fun h => absurd h hordered) rfl rfl id
  cases event with
  | profilesLoaded o profiles config =>
    simp only [fold]
    split
    · next hnewer => exact .loaded o profiles config rfl hnewer rfl rfl rfl rfl
    · next hnewer =>
      rw [Bool.not_eq_true] at hnewer
      exact .nothing (fun _ => hnewer) rfl rfl id
  | profilesFailed o summary error =>
    simp only [fold]
    split
    · next hnewer => exact .failed o summary error rfl hnewer rfl rfl
    · next hnewer =>
      rw [Bool.not_eq_true] at hnewer
      exact .nothing (fun _ => hnewer) rfl rfl id
  | configUncertain o =>
    simp only [fold]
    split
    · next hnewer => exact .uncertain o rfl hnewer rfl rfl
    · next hnewer =>
      rw [Bool.not_eq_true] at hnewer
      exact .nothing (fun _ => hnewer) rfl rfl id
  | profileSaved o p previous g retained warning =>
    simp only [fold, foldSaved]
    split
    · exact .nothing (fun h => by cases h) rfl rfl id
    · next hcurrent =>
      rw [Bool.not_eq_true', Bool.not_eq_false] at hcurrent
      cases retained <;> cases previous <;>
        exact .saved o p _ g _ warning rfl hcurrent rfl rfl rfl rfl
  | credentialsStored identity =>
    have hlisted : Listed model.profiles model.activeGenerations →
        Listed (model.profiles.modify (model.profiles.findIdx (·.id = identity.profileId))
          ({ · with hasCurrentSessionSecret := true })) model.activeGenerations := by
      intro h p g hg
      obtain ⟨profile, hmem, hid, hgeneration⟩ := h p g hg
      obtain ⟨i, hi, rfl⟩ := List.getElem_of_mem hmem
      refine ⟨_, List.getElem_mem (n := i) (by simpa using hi), ?_, ?_⟩
      · rw [List.getElem_modify]
        split <;> exact hid
      · rw [List.getElem_modify]
        split <;> exact hgeneration
    simp only [fold]
    split
    · split
      · exact .nothing (fun h => by cases h) rfl rfl hlisted
      · exact .nothing (fun h => by cases h) rfl rfl hlisted
    · exact .nothing (fun h => by cases h) rfl rfl id
  | profileDeleted identity unknown =>
    simp only [fold, foldDeleted]
    split
    · exact .nothing (fun h => by cases h) rfl rfl id
    · refine .nothing (fun h => by cases h) rfl rfl fun h p g hg => ?_
      by_cases hp : p = identity.profileId
      · subst hp
        simp at hg
      · simp only [Function.update_of_ne hp] at hg
        obtain ⟨profile, hmem, hid, hgeneration⟩ := h p g hg
        exact ⟨profile, List.mem_filter.2 ⟨hmem, by simpa [hid] using hp⟩, hid, hgeneration⟩
  | runtimeShutdown o => exact .nothing (fun h => by cases h) rfl rfl id
  | _ => exact honly _ rfl fun h => by cases h

theorem foldProfiles_listed (model : UiModel) (loaded : List ProfileSnapshot) :
    Listed (model.foldProfiles loaded).profiles (model.foldProfiles loaded).activeGenerations :=
  fun _ _ hg => generationsOf_mem hg

/-- Only the parts that concern the configuration matter. -/
theorem Tells.congr {model model' model'' : UiModel} {event : UiEvent}
    (h : Tells model event model') (huncertain : model''.configUncertain = model'.configUncertain)
    (hlast : model''.lastProfilesOperation = model'.lastProfilesOperation)
    (hprofiles : model''.profiles = model'.profiles)
    (hgenerations : model''.activeGenerations = model'.activeGenerations) :
    Tells model event model'' := by
  cases h with
  | loaded o profiles config hevent hnewer h₁ h₂ h₃ h₄ =>
    exact .loaded o profiles config hevent hnewer (huncertain.trans h₁) (hlast.trans h₂)
      (hprofiles.trans h₃) (hgenerations.trans h₄)
  | failed o summary error hevent hnewer h₁ h₂ =>
    exact .failed o summary error hevent hnewer (huncertain.trans h₁) (hlast.trans h₂)
  | uncertain o hevent hnewer h₁ h₂ =>
    exact .uncertain o hevent hnewer (huncertain.trans h₁) (hlast.trans h₂)
  | saved o p previous g retained warning hevent hcurrent h₁ h₂ h₃ h₄ =>
    exact .saved o p previous g retained warning hevent hcurrent (huncertain.trans h₁)
      (hlast.trans h₂) (hprofiles.trans h₃) (hgenerations.trans h₄)
  | nothing hstale h₁ h₂ h₃ =>
    refine .nothing hstale (huncertain.trans h₁) (hlast.trans h₂) fun h => ?_
    rw [hprofiles, hgenerations]
    exact h₃ h

end UiModel

namespace Board
open DbotterApp UiModel

/-! ## One event -/

theorem isOrdered_tellsOfProfiles {event : UiEvent} (h : tellsOfProfiles event = false) :
    event.isOrdered = false := by
  cases event <;> first | rfl | cases h

/-- The application folds what an event tells of the configuration. -/
theorem consumeEvent_tells (app : DbotterApp) (event : UiEvent) :
    Tells app.model event (app.consumeEvent event).model := by
  have hnothing : tellsOfProfiles event = false → Tells app.model event app.model := by
    intro h
    have := isOrdered_tellsOfProfiles h
    exact .nothing (by simp [this]) rfl rfl id
  have hredis : app.redisResourceEventDisposition event ≠ .notRedis →
      tellsOfProfiles event = false := by
    intro h
    cases event <;> first | rfl | exact absurd rfl h
  obtain ⟨hignore, heq⟩ | ⟨⟨o, hstale⟩, heq⟩ | ⟨-, hreaches⟩ := consumeEvent_board app event
  · have h := hnothing (hredis (by simp [hignore]))
    exact h.congr (congrArg Board.configUncertain heq) (congrArg Board.lastProfilesOperation heq)
      (congrArg Board.profiles heq) (congrArg Board.activeGenerations heq)
  · rw [onlyOperations_board (app.finishActiveOperation_only event)] at heq
    have h := hnothing (hredis (by simp [hstale]))
    exact h.congr (congrArg Board.configUncertain heq) (congrArg Board.lastProfilesOperation heq)
      (congrArg Board.profiles heq) (congrArg Board.activeGenerations heq)
  · have hfold : Tells app.model event (app.model.fold (app.attachRetryRecipe event)) := by
      cases htells : tellsOfProfiles event with
      | false =>
        have hattached : tellsOfProfiles (app.attachRetryRecipe event) = false := by
          rw [← htells]
          cases event <;> simp only [attachRetryRecipe] <;> split <;> rfl
        rw [(fold_onlyConnections app.model _ hattached).frame]
        exact (hnothing htells).congr rfl rfl rfl rfl
      | true =>
        have hattached : app.attachRetryRecipe event = event := by
          cases event <;> first | rfl | cases htells
        rw [hattached]
        exact fold_tells app.model event
    have hsame := (Reaches.frame hreaches).1
    have hmodel := app.settled_model (app.attachRetryRecipe event)
    exact hfold.congr
      (hsame.configUncertain.trans (congrArg UiModel.configUncertain hmodel))
      (hsame.lastProfilesOperation.trans (congrArg UiModel.lastProfilesOperation hmodel))
      (hsame.profiles.trans (congrArg UiModel.profiles hmodel))
      (hsame.activeGenerations.trans (congrArg UiModel.activeGenerations hmodel))

/-! ## The order of the operations -/

/-- The last operation is the largest one among the ordered events. -/
structure Ranked (b : Board) (heard : List UiEvent) : Prop where
  le_last : ∀ event ∈ heard, event.isOrdered = true →
    ∃ last, b.lastProfilesOperation = some last ∧ event.operationId ≤ last
  mem_last : ∀ last, b.lastProfilesOperation = some last →
    ∃ event ∈ heard, event.isOrdered = true ∧ event.operationId = last

/-- A newer operation is one above those of all ordered events so far. -/
theorem Ranked.newer_iff {app : DbotterApp} {heard : List UiEvent} (h : Ranked app.board heard)
    (o : OperationId) : app.model.profilesOperationIsNewer o = true ↔
      ∀ event ∈ heard, event.isOrdered = true → event.operationId < o := by
  simp only [profilesOperationIsNewer, Option.all_eq_true, decide_eq_true_eq]
  constructor
  · intro hnewer event hevent hordered
    obtain ⟨last, hlast, hle⟩ := h.le_last event hevent hordered
    exact lt_of_le_of_lt hle (hnewer last hlast)
  · intro hall last hlast
    obtain ⟨event, hevent, hordered, rfl⟩ := h.mem_last last hlast
    exact hall event hevent hordered

/-- An ordered event that is taken becomes the last. -/
theorem Ranked.take {app : DbotterApp} {b' : Board} {heard : List UiEvent} {event : UiEvent}
    (h : Ranked app.board heard) (hordered : event.isOrdered = true)
    (hnewer : app.model.profilesOperationIsNewer event.operationId = true)
    (hlast : b'.lastProfilesOperation = some event.operationId) :
    Ranked b' (heard ++ [event]) := by
  refine ⟨fun event' hevent' hordered' => ⟨_, hlast, ?_⟩, fun last hlast' => ?_⟩
  · obtain hevent' | hevent' := List.mem_append.1 hevent'
    · exact le_of_lt ((h.newer_iff _).1 hnewer event' hevent' hordered')
    · rw [List.mem_singleton.1 hevent']
  · rw [hlast] at hlast'
    cases hlast'
    exact ⟨event, by simp, hordered, rfl⟩

/-- An event that is not ordered, or is discarded, leaves the last as it was. -/
theorem Ranked.skip {app : DbotterApp} {b' : Board} {heard : List UiEvent} {event : UiEvent}
    (h : Ranked app.board heard)
    (hstale : event.isOrdered = true →
      app.model.profilesOperationIsNewer event.operationId = false)
    (hlast : b'.lastProfilesOperation = app.model.lastProfilesOperation) :
    Ranked b' (heard ++ [event]) := by
  refine ⟨fun event' hevent' hordered => ?_, fun last hlast' => ?_⟩
  · rw [hlast]
    obtain hevent' | hevent' := List.mem_append.1 hevent'
    · exact h.le_last event' hevent' hordered
    · rw [List.mem_singleton.1 hevent'] at hordered ⊢
      have hold := hstale hordered
      unfold profilesOperationIsNewer at hold
      cases hlast : app.model.lastProfilesOperation with
      | none => simp [hlast] at hold
      | some last => exact ⟨last, rfl, by simpa [hlast] using hold⟩
  · rw [hlast] at hlast'
    obtain ⟨event', hevent', hordered, ho⟩ := h.mem_last last hlast'
    exact ⟨event', List.mem_append_left _ hevent', hordered, ho⟩

theorem ranked_kept : Keeps (fun _ => True) Ranked where
  start := ⟨fun _ h => absurd h List.not_mem_nil, fun _ h => (nomatch h)⟩
  step _ hstep h := by
    have hlast := hstep.sameConfig.lastProfilesOperation
    exact ⟨by rw [hlast]; exact h.le_last, by rw [hlast]; exact h.mem_last⟩
  consume {app event heard} _ _ _ h := by
    cases consumeEvent_tells app event with
    | loaded o profiles config hevent hnewer _ hlast =>
      subst hevent
      exact h.take rfl hnewer hlast
    | failed o summary error hevent hnewer _ hlast =>
      subst hevent
      exact h.take rfl hnewer hlast
    | uncertain o hevent hnewer _ hlast =>
      subst hevent
      exact h.take rfl hnewer hlast
    | saved o p previous g retained warning hevent _ _ hlast =>
      subst hevent
      exact h.skip nofun hlast
    | nothing hstale _ hlast => exact h.skip hstale hlast
  prune h := by
    rw [prune_board]
    exact ⟨h.le_last, h.mem_last⟩
  events _ h := ⟨h.le_last, h.mem_last⟩

/-! ## The verdict -/

/-- The events that say whether the configuration is certain. -/
def isVerdict : UiEvent → Bool
  | .profilesLoaded _ _ _ | .configUncertain _ => true
  | _ => false

/-- Whether the configuration is certain was settled by the last verdict. -/
structure Followed (b : Board) (moments : List Moment) : Prop where
  start : (∀ m ∈ moments, isVerdict m.event = false) → b.configUncertain = false
  last : ∀ earlier m later, moments = earlier ++ m :: later → isVerdict m.event = true →
    (∀ m' ∈ later, isVerdict m'.event = false) →
    b.configUncertain = (m.app.consumeEvent m.event).model.configUncertain

theorem consumeEvent_configUncertain {app : DbotterApp} {event : UiEvent}
    (h : isVerdict event = false) :
    (app.consumeEvent event).model.configUncertain = app.model.configUncertain := by
  cases consumeEvent_tells app event with
  | loaded o profiles config hevent | uncertain o hevent =>
    subst hevent
    cases h
  | failed _ _ _ _ _ huncertain => exact huncertain
  | saved _ _ _ _ _ _ _ _ huncertain => exact huncertain
  | nothing _ huncertain => exact huncertain

theorem followed_kept : Kept Followed where
  start := ⟨fun _ => rfl, fun earlier m later heq => by simp at heq⟩
  step _ hstep h := by
    have huncertain := hstep.sameConfig.configUncertain
    exact ⟨by rw [huncertain]; exact h.start, by rw [huncertain]; exact h.last⟩
  consume {app event moments} _ _ h := by
    refine ⟨fun hnone => ?_, fun earlier m later heq hverdict hlater => ?_⟩
    · have hevent : isVerdict event = false := hnone ⟨app, event⟩ (by simp)
      refine (consumeEvent_configUncertain hevent).trans (h.start fun m hm => ?_)
      exact hnone m (List.mem_append_left _ hm)
    · obtain rfl | ⟨later, last, rfl⟩ := later.eq_nil_or_concat'
      · obtain ⟨-, hm⟩ := List.append_inj' heq rfl
        obtain rfl := List.singleton_inj.1 hm
        rfl
      · rw [← List.cons_append, ← List.append_assoc] at heq
        obtain ⟨rfl, hlast⟩ := List.append_inj' heq rfl
        obtain rfl := List.singleton_inj.1 hlast
        have hevent : isVerdict event = false := hlater ⟨app, event⟩ (by simp)
        refine (consumeEvent_configUncertain hevent).trans (h.last earlier m later rfl hverdict ?_)
        exact fun m' hm' => hlater m' (List.mem_append_left _ hm')
  prune h := by
    rw [prune_board]
    exact ⟨h.start, h.last⟩
  events _ h := ⟨h.start, h.last⟩

end Board

namespace Desktop
open Board DbotterApp

/-- **The last verdict.** Before the first verdict the configuration is certain. Afterwards the
desktop follows the last verdict wherever this one carries an operation above those of all
ordered events before it, or reports an uncertain configuration that was uncertain already. -/
theorem run_follows_verdict (moves : List Move) :
    ((∀ m ∈ (run moves).consumed, isVerdict m.event = false) →
        (run moves).app.model.configUncertain = false) ∧
      ∀ earlier m later, (run moves).consumed = earlier ++ m :: later →
        isVerdict m.event = true → (∀ m' ∈ later, isVerdict m'.event = false) →
        ((∀ m' ∈ earlier, m'.event.isOrdered = true →
            m'.event.operationId < m.event.operationId) ∨
          m.app.model.configUncertain = true ∧ ∃ o, m.event = .configUncertain o) →
        ((run moves).app.model.configUncertain = true ↔ ∃ o, m.event = .configUncertain o) ∧
          ∀ o profiles config, m.event = .profilesLoaded o profiles config →
            (m.app.consumeEvent m.event).model.profiles =
                (m.app.model.foldProfiles profiles).profiles ∧
              (m.app.consumeEvent m.event).model.activeGenerations =
                (m.app.model.foldProfiles profiles).activeGenerations := by
  have hfollowed := (run_sound followed_kept moves).holds
  refine ⟨hfollowed.start, fun earlier m later hsplit hverdict hlater hnewest => ?_⟩
  have hnow : (run moves).app.model.configUncertain =
      (m.app.consumeEvent m.event).model.configUncertain :=
    hfollowed.last earlier m later hsplit hverdict hlater
  have hranked : Ranked m.app.board (earlier.map (·.event)) :=
    (run_moment ranked_kept.kept hsplit).1 fun _ _ => trivial
  have hnewer : (∀ m' ∈ earlier, m'.event.isOrdered = true →
      m'.event.operationId < m.event.operationId) →
      m.app.model.profilesOperationIsNewer m.event.operationId = true := by
    intro hall
    refine (hranked.newer_iff _).2 fun event hevent hordered => ?_
    obtain ⟨m', hm', rfl⟩ := List.mem_map.1 hevent
    exact hall m' hm' hordered
  rw [hnow]
  cases consumeEvent_tells m.app m.event with
  | loaded o profiles config hevent _ hcertain _ hprofiles hgenerations =>
    rw [hevent] at hcertain hprofiles hgenerations ⊢
    refine ⟨by simp [hcertain], ?_⟩
    rintro _ _ _ ⟨⟩
    exact ⟨hprofiles, hgenerations⟩
  | uncertain o hevent _ huncertain =>
    rw [huncertain, hevent]
    exact ⟨by simp, nofun⟩
  | failed o summary error hevent => rw [hevent] at hverdict; cases hverdict
  | saved o p previous g retained warning hevent => rw [hevent] at hverdict; cases hverdict
  | nothing hstale huncertain _ _ =>
    have hordered : m.event.isOrdered = true := by
      cases hevent : m.event <;> rw [hevent] at hverdict <;> first | rfl | cases hverdict
    obtain hall | ⟨hbefore, o, hevent⟩ := hnewest
    · rw [hstale hordered] at hnewer
      cases hnewer hall
    · rw [huncertain, hbefore, hevent]
      exact ⟨by simp, nofun⟩

/-- A save, a load and a connection are submitted before any of them is answered. -/
def saveLoadConnect : List Move :=
  firstLoad .mySql ++ [.act (.editProfile "p".toList), .act (.save (some
    ⟨none, (firstProfile .mySql).persisted.toConnectionDraft, .keep, .cancelled⟩) false),
    .act .refresh, .act (.connect "p".toList)]

/-- The load is answered in the order of the operations. -/
theorem run_follows_verdict_reloaded :
    (run (saveLoadConnect ++ hears (.configUncertain 2) ++
      hears (.profilesLoaded 3 [firstProfile .mySql] {}))).app.model.configUncertain = false := by
  have hconsumed : ∃ earlier m, (run (saveLoadConnect ++ hears (.configUncertain 2) ++
      hears (.profilesLoaded 3 [firstProfile .mySql] {}))).consumed = earlier ++ m :: [] ∧
      m.event = .profilesLoaded 3 [firstProfile .mySql] {} ∧
      ∀ m' ∈ earlier, m'.event.isOrdered = true → m'.event.operationId < 3 := by
    refine ⟨(run (saveLoadConnect ++ hears (.configUncertain 2))).consumed, _, rfl, rfl, ?_⟩
    decide +kernel
  obtain ⟨earlier, m, hsplit, hevent, hall⟩ := hconsumed
  have h := ((run_follows_verdict _).2 earlier m [] hsplit (by rw [hevent]; rfl) (by simp)
    (.inl (by rw [hevent]; exact hall))).1
  rw [hevent] at h
  simpa using h

/-- The connection is refused before the load has succeeded: the load is answered last, and
discarded. -/
theorem uncertain_after_reload :
    (run (saveLoadConnect ++ hears (.configUncertain 2) ++ hears (.configUncertain 4) ++
      hears (.profilesLoaded 3 [firstProfile .mySql] {}))).heard =
        [.profilesLoaded 1 [firstProfile .mySql] {}, .configUncertain 2, .configUncertain 4,
          .profilesLoaded 3 [firstProfile .mySql] {}] ∧
    (run (saveLoadConnect ++ hears (.configUncertain 2) ++ hears (.configUncertain 4) ++
      hears (.profilesLoaded 3 [firstProfile .mySql] {}))).app.model.configUncertain = true ∧
    (run (saveLoadConnect ++ hears (.configUncertain 2) ++ hears (.configUncertain 4) ++
      hears (.profilesLoaded 3 [firstProfile .mySql] {}))).app.port.events = [] := by
  decide +kernel

end Desktop

end Dbotter.Ui
