import Mathlib.Data.Option.Basic
import Dbotter.Ui.Model

/-!
What the folding of events keeps out.

A tombstone holds off every generation up to its own, and an event of an operation holds only
for the generation that is active while the configuration is certain. Both are facts about
one event; the run lemma carries the tombstones over every sequence of events.
-/

namespace Dbotter.Ui
open Dbotter.Configuration Dbotter.Service Dbotter.Drivers

/-- The request of an event that reports on an operation of one profile. -/
def UiEvent.operation : UiEvent → Option RequestIdentity
  | .connectionReady identity _ | .connectionClosed identity _ | .queryFinished identity _ _
  | .executeUnavailable identity _ | .credentialsStored identity
  | .credentialsStoreFailed identity _ _ | .operationFailed identity _ _ _ _ _ _ => some identity
  | .catalogPageLoaded page _ _ => some page.identity
  | .catalogPageFailed request _ _ _ _ => some request.identity
  | .redisKeysLoaded page _ _ => some page.identity
  | .redisKeysFailed request _ _ _ _ => some request.identity
  | .redisKeyInspected preview _ _ => some preview.identity
  | .redisKeyInspectFailed request _ _ _ _ => some request.identity
  | _ => none

namespace UiModel

/-- Every tombstone of `tombstones` is at most the one of `tombstones'`. -/
def Buried (tombstones tombstones' : Table ProfileId ProfileGeneration) : Prop :=
  ∀ p t, tombstones p = some t → ∃ t', tombstones' p = some t' ∧ t ≤ t'

/-- Every active generation is above the tombstone of its profile. -/
def AboveTombstones (model : UiModel) : Prop :=
  ∀ p g, model.activeGenerations p = some g → model.aboveTombstone p g = true

theorem Buried.refl (tombstones : Table ProfileId ProfileGeneration) :
    Buried tombstones tombstones :=
  fun _ t h => ⟨t, h, le_rfl⟩

theorem Buried.trans {a b c : Table ProfileId ProfileGeneration} (hab : Buried a b)
    (hbc : Buried b c) : Buried a c := by
  intro p t ht
  obtain ⟨t', ht', hle⟩ := hab p t ht
  obtain ⟨t'', ht'', hle'⟩ := hbc p t' ht'
  exact ⟨t'', ht'', le_trans hle hle'⟩

theorem le_buryAt {t : ProfileGeneration} (g : ProfileGeneration) : t ≤ buryAt (some t) g := by
  simp only [buryAt, Option.elim_some]
  split
  next h => exact le_of_lt h
  next => exact le_rfl

/-- Burying one more generation of `p` only raises the tombstones. -/
theorem Buried.bury (tombstones : Table ProfileId ProfileGeneration) (p : ProfileId)
    (g : ProfileGeneration) :
    Buried tombstones (Function.update tombstones p (some (buryAt (tombstones p) g))) := by
  intro q t ht
  by_cases hq : q = p
  · subst hq
    rw [ht]
    exact ⟨_, Function.update_self .., le_buryAt g⟩
  · exact ⟨t, by rwa [Function.update_of_ne hq], le_rfl⟩

theorem aboveTombstone_iff (model : UiModel) (p : ProfileId) (g : ProfileGeneration) :
    model.aboveTombstone p g = true ↔ ∀ t, model.tombstones p = some t → t < g := by
  simp [aboveTombstone, Option.all_eq_true]

theorem AboveTombstones.congr {model model' : UiModel} (h : model.AboveTombstones)
    (hactive : model'.activeGenerations = model.activeGenerations)
    (htombstones : model'.tombstones = model.tombstones) : model'.AboveTombstones := by
  intro p g hg
  rw [hactive] at hg
  rw [aboveTombstone, htombstones]
  exact h p g hg

/-! ## Loading, saving and deleting -/

theorem tombstonesAfter_buried (model : UiModel) (loaded : List ProfileSnapshot) :
    Buried model.tombstones (model.tombstonesAfter loaded) := by
  intro p t ht
  unfold tombstonesAfter
  split
  · split
    · rw [ht]
      exact ⟨_, rfl, le_buryAt _⟩
    · exact ⟨t, ht, le_rfl⟩
  · exact ⟨t, ht, le_rfl⟩

theorem generationsOf_mem {profiles : List ProfileSnapshot} {p : ProfileId}
    {g : ProfileGeneration} (h : generationsOf profiles p = some g) :
    ∃ profile ∈ profiles, profile.id = p ∧ profile.generation = g := by
  obtain ⟨profile, hfind, rfl⟩ := Option.map_eq_some_iff.1 h
  refine ⟨profile, ?_, by simpa using List.find?_some hfind, rfl⟩
  exact List.mem_reverse.1 (List.mem_of_find?_eq_some hfind)

theorem foldProfiles_aboveTombstones (model : UiModel) (loaded : List ProfileSnapshot) :
    (model.foldProfiles loaded).AboveTombstones := by
  intro p g hg
  obtain ⟨profile, hmem, rfl, rfl⟩ := generationsOf_mem hg
  exact (List.mem_filter.1 hmem).2

/-- A profile whose loaded generations are all buried is loaded as though it were not there. -/
theorem foldProfiles_of_buried {model : UiModel} {loaded : List ProfileSnapshot} {p : ProfileId}
    {t : ProfileGeneration} (ht : model.tombstones p = some t)
    (hburied : ∀ profile ∈ loaded, profile.id = p → profile.generation ≤ t) :
    (model.foldProfiles loaded).activeGenerations p = none ∧
      ∀ profile ∈ (model.foldProfiles loaded).profiles, profile.id ≠ p := by
  have habsent : ∀ profile ∈ (model.foldProfiles loaded).profiles, profile.id ≠ p := by
    rintro profile hmem rfl
    obtain ⟨hloaded, habove⟩ := List.mem_filter.1 hmem
    obtain ⟨t', ht', hle⟩ := tombstonesAfter_buried model loaded profile.id t ht
    rw [ht', Option.all_some, decide_eq_true_eq] at habove
    exact absurd (lt_of_le_of_lt hle habove) (not_lt.2 (hburied profile hloaded rfl))
  refine ⟨?_, habsent⟩
  cases hactive : (model.foldProfiles loaded).activeGenerations p with
  | none => rfl
  | some g =>
    obtain ⟨profile, hmem, hid, -⟩ := generationsOf_mem hactive
    exact absurd hid (habsent profile hmem)

theorem foldSaved_tombstones (model : UiModel) (p : ProfileId)
    (previous : Option ProfileGeneration) (g : ProfileGeneration) (retained : Bool) :
    (model.foldSaved p previous g retained).tombstones = model.tombstones := by
  unfold foldSaved
  split
  · rfl
  · dsimp only
    split <;> rfl

theorem foldSaved_aboveTombstones {model : UiModel} (h : model.AboveTombstones) (p : ProfileId)
    (previous : Option ProfileGeneration) (g : ProfileGeneration) (retained : Bool) :
    (model.foldSaved p previous g retained).AboveTombstones := by
  intro q g' hg'
  rw [aboveTombstone, foldSaved_tombstones]
  unfold foldSaved at hg'
  split at hg'
  · exact h q g' hg'
  next hcurrent =>
    by_cases hq : q = p
    · subst hq
      simp only [Function.update_self, Option.some.injEq] at hg'
      subst hg'
      simp only [Bool.not_eq_true', Bool.not_eq_false] at hcurrent
      exact (Bool.and_eq_true_iff.1 hcurrent).1
    · simp only [Function.update_of_ne hq] at hg'
      exact h q g' hg'

theorem foldDeleted_buried (model : UiModel) (p : ProfileId) (g : ProfileGeneration) :
    Buried model.tombstones (model.foldDeleted p g).tombstones := by
  unfold foldDeleted
  split
  · exact Buried.refl _
  · exact Buried.bury model.tombstones p g

theorem foldDeleted_aboveTombstones {model : UiModel} (h : model.AboveTombstones)
    (p : ProfileId) (g : ProfileGeneration) : (model.foldDeleted p g).AboveTombstones := by
  unfold foldDeleted
  split
  · exact h
  · intro q g' hg'
    by_cases hq : q = p
    · subst hq
      simp at hg'
    · simp only [Function.update_of_ne hq] at hg'
      simp only [aboveTombstone, Function.update_of_ne hq]
      exact h q g' hg'

/-! ## One event -/

/-- The two models differ in the workspaces and in the connection states alone, and no profile
has begun to wait. -/
structure OnlyConnections (model model' : UiModel) : Prop where
  frame : model' = { model with
    connectionStates := model'.connectionStates
    workspaces := model'.workspaces }
  settles : ∀ p state, model'.connectionStates p = some state → state.waits →
    model.connectionStates p = some state

theorem OnlyConnections.refl (model : UiModel) : OnlyConnections model model :=
  ⟨rfl, fun _ _ h _ => h⟩

theorem OnlyConnections.setConnection {model model' : UiModel} (h : OnlyConnections model model')
    (p : ProfileId) {state : ConnectionState} (hstate : state.waits = false) :
    OnlyConnections model (model'.setConnection p state) := by
  refine ⟨?_, fun p' state' hstate' hwaits => ?_⟩
  · rw [h.frame]
    rfl
  · simp only [UiModel.setConnection] at hstate'
    by_cases hp : p' = p
    · subst hp
      simp only [Function.update_self, Option.some_inj] at hstate'
      rw [← hstate', hstate] at hwaits
      cases hwaits
    · rw [Function.update_of_ne hp] at hstate'
      exact h.settles p' state' hstate' hwaits

theorem OnlyConnections.workspaceMut {model model' : UiModel} (h : OnlyConnections model model')
    (key : WorkspaceKey) (change : ProfileWorkspace → ProfileWorkspace) :
    OnlyConnections model (model'.workspaceMut key change) := by
  refine ⟨?_, h.settles⟩
  rw [h.frame]
  rfl

theorem OnlyConnections.foldCatalogSession {model model' : UiModel}
    (h : OnlyConnections model model') (p : ProfileId) (session : Option SessionGeneration)
    (disposition : Option SessionDisposition) :
    OnlyConnections model (model'.foldCatalogSession p session disposition) := by
  unfold UiModel.foldCatalogSession
  split
  · extract_lets isProtected
    split
    · exact h
    · exact h.setConnection p (by split <;> rfl)
  · exact h

theorem OnlyConnections.applyConnectionOutcome {model model' : UiModel}
    (h : OnlyConnections model model') (p : ProfileId) (outcome : ConnectionFailureOutcome) :
    OnlyConnections model (model'.applyConnectionOutcome p outcome) := by
  cases outcome with
  | preserve => exact h
  | disconnected | unknown | needsCredential => exact h.setConnection p rfl

theorem OnlyConnections.applyRedisSessionTruth {model model' : UiModel}
    (h : OnlyConnections model model') (p : ProfileId) (session : Option SessionGeneration)
    (disposition : Option SessionDisposition) (outcome : ConnectionFailureOutcome) :
    OnlyConnections model (model'.applyRedisSessionTruth p session disposition outcome) := by
  unfold UiModel.applyRedisSessionTruth
  split
  · exact h.setConnection p rfl
  · exact h.setConnection p rfl
  · exact h.applyConnectionOutcome ..

theorem OnlyConnections.foldOperationFailed (model : UiModel) (identity : RequestIdentity)
    (kind : OperationKind) (error : PublicOperationError) (outcome : ConnectionFailureOutcome) :
    OnlyConnections model (model.foldOperationFailed identity kind error outcome) := by
  simp only [UiModel.foldOperationFailed]
  have hrefl := OnlyConnections.refl model
  have hfinish : ∀ (correlated : Bool) (settled : UiModel), OnlyConnections model settled →
      OnlyConnections model (if correlated then
        settled.applyConnectionOutcome identity.profileId outcome else settled) := by
    intro correlated settled h
    split
    · exact h.applyConnectionOutcome ..
    · exact h
  split
  · exact hrefl
  split
  · split
    · exact hrefl.setConnection _ (by split <;> rfl)
    · exact hrefl
  · split
    · exact hrefl.setConnection _ (by split <;> rfl)
    · exact hrefl
  · apply hfinish
    split
    · exact hrefl.setConnection _ rfl
    · exact hrefl
  · exact hfinish _ _ (hrefl.workspaceMut ..)
  · exact hfinish _ _ (hrefl.workspaceMut ..)
  · exact hfinish _ _ hrefl

theorem OnlyConnections.foldRedisFailure (model : UiModel) (identity : RequestIdentity)
    (session : Option SessionGeneration) (disposition : Option SessionDisposition)
    (outcome : ConnectionFailureOutcome) (change : ProfileWorkspace → ProfileWorkspace) :
    OnlyConnections model
      (model.foldRedisFailure identity session disposition outcome change) := by
  have hrefl := OnlyConnections.refl model
  unfold UiModel.foldRedisFailure
  split
  · exact (hrefl.workspaceMut ..).applyRedisSessionTruth ..
  · exact hrefl

/-- The events that tell of the set of profiles, of their credentials or of the end of the
runtime. -/
def tellsOfProfiles : UiEvent → Bool
  | .profilesLoaded _ _ _ | .profilesFailed _ _ _ | .profileSaved _ _ _ _ _ _
  | .credentialsStored _ | .profileDeleted _ _ | .configUncertain _ | .runtimeShutdown _ => true
  | _ => false

/-- Any other event is one of an operation. -/
theorem fold_onlyConnections (model : UiModel) (event : UiEvent)
    (h : tellsOfProfiles event = false) : OnlyConnections model (model.fold event) := by
  have hrefl := OnlyConnections.refl model
  cases event with
  | profilesLoaded | profilesFailed | profileSaved | credentialsStored | profileDeleted
  | configUncertain | runtimeShutdown => cases h
  | operationFailed identity _ kind _ error _ outcome =>
    exact OnlyConnections.foldOperationFailed model identity kind error outcome
  | redisKeysFailed request error session disposition outcome =>
    exact OnlyConnections.foldRedisFailure ..
  | redisKeyInspectFailed request error session disposition outcome =>
    exact OnlyConnections.foldRedisFailure ..
  | catalogPageLoaded page session disposition =>
    simp only [fold]
    split
    · exact (hrefl.foldCatalogSession ..).workspaceMut ..
    · exact hrefl
  | catalogPageFailed request summary error session disposition =>
    simp only [fold]
    split
    · exact (hrefl.foldCatalogSession ..).workspaceMut ..
    · exact hrefl
  | redisKeysLoaded page session disposition =>
    simp only [fold]
    split
    · exact (hrefl.workspaceMut ..).applyRedisSessionTruth ..
    · exact hrefl
  | redisKeyInspected preview session disposition =>
    simp only [fold]
    split
    · exact (hrefl.workspaceMut ..).applyRedisSessionTruth ..
    · exact hrefl
  | queryFinished identity session result =>
    simp only [fold]
    split
    · split
      · exact (hrefl.workspaceMut ..).setConnection _ rfl
      · exact hrefl.workspaceMut ..
    · exact hrefl
  | connectionReady identity session =>
    simp only [fold]
    split
    · exact hrefl.setConnection _ rfl
    · exact hrefl
  | connectionClosed identity postClose =>
    simp only [fold]
    split
    · exact hrefl.setConnection _ (by split <;> rfl)
    · exact hrefl
  | executeUnavailable identity summary =>
    simp only [fold]
    split
    · exact hrefl.workspaceMut ..
    · exact hrefl
  | profileCreateFailed o draftId summary error | profileUpdateFailed identity summary error
  | credentialsStoreFailed identity summary error | draftConnectionReady o draftId
  | draftOperationFailed o draftId summary error | resultExported o resultId
  | resultExportFailed o resultId error => exact hrefl

/-- The two models know the same profiles and have buried the same. -/
structure SameProfiles (model model' : UiModel) : Prop where
  activeGenerations : model'.activeGenerations = model.activeGenerations
  tombstones : model'.tombstones = model.tombstones

theorem OnlyConnections.sameProfiles {model model' : UiModel} (h : OnlyConnections model model') :
    SameProfiles model model' := by
  rw [h.frame]
  exact ⟨rfl, rfl⟩

/-- An event of an operation, like one that says nothing of the set of profiles, leaves the
active generations and the tombstones alone. -/
theorem fold_sameProfiles (model : UiModel) (event : UiEvent)
    (hloaded : ∀ o profiles config, event ≠ .profilesLoaded o profiles config)
    (hsaved : ∀ o p previous g retained warning,
      event ≠ .profileSaved o p previous g retained warning)
    (hdeleted : ∀ identity unknown, event ≠ .profileDeleted identity unknown) :
    SameProfiles model (model.fold event) := by
  cases event with
  | profilesLoaded o profiles config => exact absurd rfl (hloaded o profiles config)
  | profileSaved o p previous g retained warning =>
    exact absurd rfl (hsaved o p previous g retained warning)
  | profileDeleted identity unknown => exact absurd rfl (hdeleted identity unknown)
  | credentialsStored identity =>
    simp only [fold]
    split
    · split <;> exact ⟨rfl, rfl⟩
    · exact ⟨rfl, rfl⟩
  | profilesFailed o summary error | configUncertain o =>
    simp only [fold]
    split <;> exact ⟨rfl, rfl⟩
  | runtimeShutdown o => exact ⟨rfl, rfl⟩
  | _ => exact (fold_onlyConnections model _ rfl).sameProfiles

theorem fold_nextOperationId (model : UiModel) (event : UiEvent) :
    (model.fold event).nextOperationId = model.nextOperationId := by
  cases event with
  | profilesLoaded o profiles config =>
    simp only [fold]
    split <;> rfl
  | profileSaved o p previous g retained warning =>
    simp only [fold, foldSaved]
    split
    · rfl
    · cases retained <;> cases previous <;> rfl
  | profileDeleted identity unknown =>
    simp only [fold, foldDeleted]
    split <;> rfl
  | credentialsStored identity =>
    simp only [fold]
    split
    · split <;> rfl
    · rfl
  | profilesFailed o summary error | configUncertain o =>
    simp only [fold]
    split <;> rfl
  | runtimeShutdown o => rfl
  | _ => rw [(fold_onlyConnections model _ rfl).frame]

theorem fold_buried (model : UiModel) (event : UiEvent) :
    Buried model.tombstones (model.fold event).tombstones := by
  by_cases hloaded : ∃ o profiles config, event = .profilesLoaded o profiles config
  · obtain ⟨o, profiles, config, rfl⟩ := hloaded
    simp only [fold]
    split
    · exact tombstonesAfter_buried _ profiles
    · exact Buried.refl _
  by_cases hsaved : ∃ o p previous g retained warning,
      event = .profileSaved o p previous g retained warning
  · obtain ⟨o, p, previous, g, retained, warning, rfl⟩ := hsaved
    simp only [fold, foldSaved_tombstones]
    exact Buried.refl _
  by_cases hdeleted : ∃ identity unknown, event = .profileDeleted identity unknown
  · obtain ⟨identity, unknown, rfl⟩ := hdeleted
    exact foldDeleted_buried model identity.profileId identity.profileGeneration
  · push Not at hloaded hsaved hdeleted
    rw [(fold_sameProfiles model event hloaded hsaved hdeleted).tombstones]
    exact Buried.refl _

theorem fold_aboveTombstones {model : UiModel} (h : model.AboveTombstones) (event : UiEvent) :
    (model.fold event).AboveTombstones := by
  by_cases hloaded : ∃ o profiles config, event = .profilesLoaded o profiles config
  · obtain ⟨o, profiles, config, rfl⟩ := hloaded
    simp only [fold]
    split
    · exact foldProfiles_aboveTombstones _ profiles
    · exact h
  by_cases hsaved : ∃ o p previous g retained warning,
      event = .profileSaved o p previous g retained warning
  · obtain ⟨o, p, previous, g, retained, warning, rfl⟩ := hsaved
    exact foldSaved_aboveTombstones h p previous g retained
  by_cases hdeleted : ∃ identity unknown, event = .profileDeleted identity unknown
  · obtain ⟨identity, unknown, rfl⟩ := hdeleted
    exact foldDeleted_aboveTombstones h identity.profileId identity.profileGeneration
  · push Not at hloaded hsaved hdeleted
    have hsame := fold_sameProfiles model event hloaded hsaved hdeleted
    exact h.congr hsame.activeGenerations hsame.tombstones

/-- An event of an operation that is not current changes nothing at all. -/
theorem fold_of_not_current {model : UiModel} {event : UiEvent} {identity : RequestIdentity}
    (hoperation : event.operation = some identity)
    (h : model.configUncertain = true ∨
      model.activeGenerations identity.profileId ≠ some identity.profileGeneration) :
    model.fold event = model := by
  have hcurrent : model.eventIsCurrent identity.profileId identity.profileGeneration = false := by
    rcases h with h | h
    · simp [eventIsCurrent, h]
    · simp [eventIsCurrent, h]
  cases event with
  | profilesLoaded | profilesFailed | profileSaved | profileCreateFailed | profileUpdateFailed
  | draftConnectionReady | draftOperationFailed | resultExported | resultExportFailed
  | profileDeleted | configUncertain | runtimeShutdown => cases hoperation
  | _ =>
    cases hoperation
    simp [fold, foldOperationFailed, foldRedisFailure, redisEventIsCurrent, workspaceKey, hcurrent]

/-- A query result is stored where its operation is the pending one of its workspace. -/
theorem fold_queryFinished_result {model : UiModel} {identity : RequestIdentity}
    {session : SessionGeneration} {result : ResultSnapshot} {key : WorkspaceKey}
    (h : ((model.fold (.queryFinished identity session result)).workspaces key).bind (·.result) ≠
      (model.workspaces key).bind (·.result)) :
    key = workspaceKey identity ∧
      (model.workspaces key).bind (·.pendingExecute) = some identity.operationId := by
  simp only [fold] at h
  split at h
  · split at h
    next hpending =>
      by_cases hkey : key = workspaceKey identity
      · subst hkey
        refine ⟨rfl, ?_⟩
        cases hworkspace : model.workspaces (workspaceKey identity) <;>
          simp_all
      · simp [setConnection, workspaceMut, Function.update_of_ne hkey] at h
    next =>
      by_cases hkey : key = workspaceKey identity
      · subst hkey
        cases hworkspace : model.workspaces (workspaceKey identity) <;>
          simp [workspaceMut, hworkspace] at h
      · simp [workspaceMut, Function.update_of_ne hkey] at h
  · exact absurd rfl h

/-- The end of a connection operation is taken where the state waits for that operation. -/
theorem fold_connection_pending {model : UiModel} {identity : RequestIdentity}
    {event : UiEvent}
    (hevent : (∃ session, event = .connectionReady identity session) ∨
      ∃ postClose, event = .connectionClosed identity postClose)
    (h : (model.fold event).connectionStates ≠ model.connectionStates) :
    model.connectionStates identity.profileId = some (.pending identity.operationId) := by
  rcases hevent with ⟨session, rfl⟩ | ⟨postClose, rfl⟩
  all_goals
    simp only [fold] at h
    split at h
    next hcond => simpa using (Bool.and_eq_true_iff.1 hcond).2
    next => exact absurd rfl h

/-- A save that reports a buried generation is ignored. -/
theorem foldSaved_of_buried {model : UiModel} {p : ProfileId} {t g : ProfileGeneration}
    (ht : model.tombstones p = some t) (hg : g ≤ t) (previous : Option ProfileGeneration)
    (retained : Bool) : model.foldSaved p previous g retained = model := by
  have habove : model.aboveTombstone p g = false := by
    simp [aboveTombstone, ht, hg]
  simp [foldSaved, saveIsCurrent, habove]

/-! ## Runs -/

/-- What one more event may do to a model. -/
structure Fenced (model : UiModel) (event : UiEvent) : Prop where
  tombstones : Buried model.tombstones (model.fold event).tombstones
  active : ∀ p g t, (model.fold event).activeGenerations p = some g →
    (model.fold event).tombstones p = some t → t < g
  saved : ∀ o p previous g retained warning t,
    event = .profileSaved o p previous g retained warning → model.tombstones p = some t →
      g ≤ t → model.fold event = model
  loaded : ∀ o profiles config p t, event = .profilesLoaded o profiles config →
    model.tombstones p = some t →
      (∀ g ≤ t, (model.fold event).activeGenerations p ≠ some g) ∧
        ((∀ profile ∈ profiles, profile.id = p → profile.generation ≤ t) →
          model.fold event = model ∨ (model.fold event).activeGenerations p = none ∧
            ∀ profile ∈ (model.fold event).profiles, profile.id ≠ p)
  operation : ∀ identity, event.operation = some identity →
    (model.configUncertain = true ∨
      model.activeGenerations identity.profileId ≠ some identity.profileGeneration) →
    (model.fold event).connectionStates = model.connectionStates ∧
      (model.fold event).workspaces = model.workspaces
  result : ∀ identity session result key, event = .queryFinished identity session result →
    ((model.fold event).workspaces key).bind (·.result) ≠
      (model.workspaces key).bind (·.result) →
    key = workspaceKey identity ∧
      (model.workspaces key).bind (·.pendingExecute) = some identity.operationId
  connection : ∀ identity, ((∃ session, event = .connectionReady identity session) ∨
      ∃ postClose, event = .connectionClosed identity postClose) →
    (model.fold event).connectionStates ≠ model.connectionStates →
    model.connectionStates identity.profileId = some (.pending identity.operationId)

theorem foldl_aboveTombstones {model : UiModel} (h : model.AboveTombstones)
    (events : List UiEvent) : (events.foldl fold model).AboveTombstones := by
  induction events generalizing model with
  | nil => exact h
  | cons event events ih => exact ih (fold_aboveTombstones h event)

theorem foldl_buried (model : UiModel) (events : List UiEvent) :
    Buried model.tombstones (events.foldl fold model).tombstones := by
  induction events generalizing model with
  | nil => exact Buried.refl _
  | cons event events ih => exact (fold_buried model event).trans (ih (model.fold event))

/-- No event brings a buried generation back. -/
theorem foldl_active_of_buried {model : UiModel} (h : model.AboveTombstones)
    (events : List UiEvent) {p : ProfileId} {t g : ProfileGeneration}
    (ht : model.tombstones p = some t) (hg : g ≤ t) :
    (events.foldl fold model).activeGenerations p ≠ some g := by
  intro hactive
  obtain ⟨t', ht', hle⟩ := foldl_buried model events p t ht
  have hlt : t' < g :=
    (aboveTombstone_iff _ p g).1 (foldl_aboveTombstones h events p g hactive) t' ht'
  exact absurd (lt_of_lt_of_le hlt (le_trans hg hle)) (lt_irrefl t')

theorem fenced {model : UiModel} (h : model.AboveTombstones) (event : UiEvent) :
    Fenced model event where
  tombstones := fold_buried model event
  active p g t hg ht := (aboveTombstone_iff _ p g).1 (fold_aboveTombstones h event p g hg) t ht
  saved := by
    rintro o p previous g retained warning t rfl ht hg
    exact foldSaved_of_buried ht hg previous retained
  loaded := by
    rintro o profiles config p t rfl ht
    refine ⟨fun g hg => foldl_active_of_buried h [.profilesLoaded o profiles config] ht hg,
      fun hburied => ?_⟩
    simp only [fold]
    split
    · exact .inr (foldProfiles_of_buried ht hburied)
    · exact .inl rfl
  operation := by
    intro identity hoperation hstale
    rw [fold_of_not_current hoperation hstale]
    exact ⟨rfl, rfl⟩
  result := by
    rintro identity session result key rfl hresult
    exact fold_queryFinished_result hresult
  connection _ hevent hstate := fold_connection_pending hevent hstate

/-- **Fencing.** After every sequence of events from the start the active generations are
above the tombstones, one more event is fenced, and no later events bring a generation back
that is buried by then. -/
theorem foldl_fenced (events : List UiEvent) :
    (events.foldl fold {}).AboveTombstones ∧
      (∀ event, Fenced (events.foldl fold {}) event) ∧
      ∀ later p t g, (events.foldl fold {}).tombstones p = some t → g ≤ t →
        ((events ++ later).foldl fold {}).activeGenerations p ≠ some g := by
  have hinitial : ({} : UiModel).AboveTombstones := by
    intro p g hg
    cases hg
  have habove := foldl_aboveTombstones hinitial events
  refine ⟨habove, fun event => fenced habove event, fun later p t g ht hg => ?_⟩
  rw [List.foldl_append]
  exact foldl_active_of_buried habove later ht hg

end UiModel

end Dbotter.Ui
