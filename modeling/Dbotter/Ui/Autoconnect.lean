import Dbotter.Ui.ActiveOperations
import Dbotter.Ui.Awaiting

/-!
The answers of Redis to the operation that a profile shows as active.

A scan or an inspection connects by itself, so that its answer carries a session. It is shown
where the profile is already connected to this session; from every other state the gate calls
the answer stale and drops it, and the profile goes on as not connected.
-/

namespace Dbotter.Ui
open Dbotter.Utf8 Dbotter.Configuration Dbotter.Service Dbotter.Drivers

namespace Board
open DbotterApp

/-- Every Redis explorer stands under its own workspace. -/
def Homed (b : Board) : Prop :=
  ∀ key explorer, b.redisExplorers key = some explorer → explorer.profile = some key

theorem Homed.of_profile {b b' : Board} (h : Homed b)
    (hprofile : ∀ key explorer', b'.redisExplorers key = some explorer' →
      explorer'.profile = ((b.redisExplorers key).getD { profile := some key }).profile) :
    Homed b' := by
  intro key explorer' hexplorer'
  rw [hprofile key explorer' hexplorer']
  cases hexplorer : b.redisExplorers key with
  | none => rfl
  | some explorer => exact h key explorer hexplorer

theorem Homed.step {b b' : Board} (h : Homed b) (hstep : Step b b') : Homed b' := by
  cases hstep with
  | tidyRedis explorers hnarrow =>
    exact h.of_profile fun key explorer' hexplorer' => (hnarrow key explorer' hexplorer').1
  | start command ho marks => exact h.of_profile marks.awaits.profile
  | merge command ho hlane marks => exact h.of_profile marks.awaits.profile
  | _ => exact h

theorem homed_keeps : Keeps (fun _ => True) fun b _ => Homed b where
  start _ _ h := nomatch h
  step _ hstep h := h.step hstep
  consume {app event heard} hb hexpected _ h := by
    obtain ⟨-, heq⟩ | ⟨-, heq⟩ | ⟨-, hreaches⟩ := consumeEvent_board app event
    · rw [heq]
      exact h
    · rw [heq, onlyOperations_board (app.finishActiveOperation_only event)]
      exact h
    · refine Reaches.keeps (I := Homed) (fun _ _ hstep h => h.step hstep) hreaches ?_
      intro key explorer' hexplorer'
      obtain ⟨-, explorer, hexplorer, rfl⟩ := settled_redis hexplorer'
      split
      · rw [(handleEvent_narrows explorer _).1]
        exact h key explorer hexplorer
      · exact h key explorer hexplorer
  prune {app heard} h := by
    rw [prune_board]
    intro key explorer hexplorer
    simp only [Option.ite_none_right_eq_some] at hexplorer
    exact h key explorer hexplorer.2
  events _ h := h

end Board

/-- The state may become connected to the session of an answer: nothing is under way, and no
other session is shown. -/
def ConnectionState.admits (state : ConnectionState) (s : SessionGeneration) : Bool :=
  match state with
  | .pending _ | .closing => false
  | .connected current => current == s
  | .disconnected | .needsCredential | .failed _ => true

namespace DbotterApp

/-- The answer to this request with session `s` arrives while the request is the active
operation of its profile. -/
structure Arrives (app : DbotterApp) (identity : RequestIdentity) (kind : OperationKind)
    (s : SessionGeneration) : Prop where
  certain : app.model.configUncertain = false
  current : app.model.activeGenerations identity.profileId = some identity.profileGeneration
  active : app.activeOperations identity.profileId =
    some ⟨identity.operationId, identity.profileGeneration, kind⟩
  admits : (app.model.connectionState identity.profileId).admits s = true

/-- The page has been taken by the scan of its explorer, its workspace shows it, and the profile
is connected. -/
def ShowsPage (app app' : DbotterApp) (page : RedisKeyPage) (s : SessionGeneration) : Prop :=
  (∃ explorer pending, app.redisExplorers (workspaceKey page.identity) = some explorer ∧
      explorer.pendingScan = some pending ∧ pending.operationId = page.identity.operationId ∧
      app'.redisExplorers (workspaceKey page.identity) = some (explorer.takePage pending page)) ∧
    (app'.model.workspaces (workspaceKey page.identity)).bind (·.redisKeyPage) = some page ∧
    app'.model.connectionStates page.identity.profileId = some (.connected s)

/-- The preview has been taken by the inspection of its explorer, its workspace shows it, and
the profile is connected. -/
def ShowsPreview (app app' : DbotterApp) (preview : RedisValuePreview) (s : SessionGeneration) :
    Prop :=
  (∃ explorer pending, app.redisExplorers (workspaceKey preview.identity) = some explorer ∧
      explorer.pendingInspect = some pending ∧
      pending.operationId = preview.identity.operationId ∧ pending.key = preview.key.id ∧
      app'.redisExplorers (workspaceKey preview.identity) = some (explorer.takePreview preview)) ∧
    (app'.model.workspaces (workspaceKey preview.identity)).bind (·.redisValuePreview) =
      some preview ∧
    app'.model.connectionStates preview.identity.profileId = some (.connected s)

variable {app : DbotterApp} {event : UiEvent} {identity : RequestIdentity} {kind : OperationKind}
  {s : SessionGeneration}

/-- What the gate makes of the answer to the active operation. -/
theorem Arrives.disposition (h : Arrives app identity kind s)
    (hidentity : redisResourceEventIdentity event = some (identity, kind, some s)) :
    app.redisResourceEventDisposition event =
      if app.model.connectionState identity.profileId = .connected s then .apply
      else .staleTerminal identity.operationId := by
  have hadmits := h.admits
  simp only [redisResourceEventDisposition, hidentity, h.certain, h.current, h.active,
    Bool.false_or, bne_self_eq_false, Bool.false_eq_true, ↓reduceIte]
  cases hstate : app.model.connectionState identity.profileId <;>
    simp_all [ConnectionState.acceptsRedisEventSession, ConnectionState.admits]

/-- A stale answer leaves the connection state as it is. -/
theorem Arrives.stale (h : Arrives app identity kind s)
    (hidentity : redisResourceEventIdentity event = some (identity, kind, some s))
    (hstate : app.model.connectionState identity.profileId ≠ .connected s) :
    (app.consumeEvent event).model.connectionStates identity.profileId ≠ some (.connected s) := by
  have hdisposition := h.disposition hidentity
  rw [if_neg hstate] at hdisposition
  obtain ⟨active, deletes, recipes, hfinished⟩ := app.finishActiveOperation_only event
  have hmodel : (app.consumeEvent event).model = app.model := by
    simp only [consumeEvent, hdisposition, removeRecipe, hfinished]
  rw [hmodel]
  intro hconnected
  exact hstate (by simp [UiModel.connectionState, hconnected])

/-- An answer that passes the gate reaches the explorer of its workspace and the model. -/
theorem Arrives.applied (h : Arrives app identity kind s)
    (hidentity : redisResourceEventIdentity event = some (identity, kind, some s))
    (hstate : app.model.connectionState identity.profileId = .connected s)
    (hattach : app.attachRetryRecipe event = event) :
    (app.consumeEvent event).redisExplorers (workspaceKey identity) =
        (app.redisExplorers (workspaceKey identity)).map (·.handleEvent event) ∧
      (app.consumeEvent event).model = app.model.fold event := by
  have hdisposition := h.disposition hidentity
  rw [if_pos hstate] at hdisposition
  have happly : app.applyEvent event = app.settled (app.attachRetryRecipe event) := by
    apply app.applyEvent_eq_settled <;> rw [hattach]
    · rintro _ rfl
      cases hidentity
    · intro editor
      cases event <;> first | rfl | cases hidentity
    · intro app'
      unfold connectFollowUp
      cases app'.pendingConnectAfterRefresh <;> cases event <;> first | rfl | cases hidentity
  have hconsume : app.consumeEvent event = app.settled event := by
    simp only [consumeEvent, hdisposition, happly, hattach]
  rw [hconsume]
  refine ⟨?_, app.settled_model event⟩
  obtain ⟨before, hboard, -, -, hsettled⟩ := app.settled_stages event
  obtain ⟨active, deletes, recipes, hfinished⟩ :=
    (before.foldRedisExplorerEvent event).finishActiveOperation_only event
  obtain ⟨mysql, hmysql⟩ :=
    ((before.foldRedisExplorerEvent event).finishActiveOperation event).foldMysqlExplorerEvent_eq
      event
  have hexplorers : before.redisExplorers = app.redisExplorers :=
    congrArg Board.redisExplorers hboard
  rw [hsettled, hmysql, hfinished]
  simp only [foldRedisExplorerEvent, hidentity, Function.update_self, hexplorers]

/-- The answer to the active operation is current for the model that it reaches. -/
theorem Arrives.redisEventIsCurrent (h : Arrives app identity kind s)
    (hstate : app.model.connectionState identity.profileId = .connected s)
    (habove : ∀ p g, app.model.activeGenerations p = some g → (app.model.tombstones p).all (· < g)) :
    app.model.redisEventIsCurrent (workspaceKey identity) (some s) = true := by
  have htombstone : app.model.aboveTombstone identity.profileId identity.profileGeneration = true :=
    habove _ _ h.current
  simp [UiModel.redisEventIsCurrent, UiModel.eventIsCurrent, workspaceKey, h.certain, h.current,
    htombstone, hstate, ConnectionState.acceptsRedisEventSession]

/-- The explorer of the workspace waits for the answer. -/
def explorerAwaits (app : DbotterApp) : UiEvent → Bool
  | .redisKeysLoaded page _ _ =>
    (app.redisExplorers (workspaceKey page.identity)).any fun explorer =>
      explorer.pendingScan.any (·.operationId == page.identity.operationId)
  | .redisKeyInspected preview _ _ =>
    (app.redisExplorers (workspaceKey preview.identity)).any fun explorer =>
      explorer.pendingInspect.any fun pending =>
        pending.operationId == preview.identity.operationId && pending.key == preview.key.id
  | _ => false

theorem Arrives.showsPage_iff {page : RedisKeyPage} (h : Arrives app page.identity .browseRedis s)
    (habove : ∀ p g, app.model.activeGenerations p = some g → (app.model.tombstones p).all (· < g))
    (hhome : ∀ explorer, app.redisExplorers (workspaceKey page.identity) = some explorer →
      explorer.profile = some (workspaceKey page.identity)) :
    ShowsPage app (app.consumeEvent (.redisKeysLoaded page s .keep)) page s ↔
      app.model.connectionState page.identity.profileId = .connected s ∧
        app.explorerAwaits (.redisKeysLoaded page s .keep) = true := by
  by_cases hstate : app.model.connectionState page.identity.profileId = .connected s
  · have happlied : (app.consumeEvent (.redisKeysLoaded page s .keep)).redisExplorers
          (workspaceKey page.identity) = (app.redisExplorers (workspaceKey page.identity)).map
            (·.handleEvent (.redisKeysLoaded page s .keep)) ∧
        (app.consumeEvent (.redisKeysLoaded page s .keep)).model =
          app.model.fold (.redisKeysLoaded page s .keep) := h.applied rfl hstate rfl
    obtain ⟨hexplorers, hmodel⟩ := happlied
    have hcurrent := h.redisEventIsCurrent hstate habove
    refine ⟨fun ⟨⟨explorer, pending, hexplorer, hpending, ho, _⟩, _⟩ => ⟨hstate, ?_⟩,
      fun ⟨_, hawaits⟩ => ?_⟩
    · simp [explorerAwaits, hexplorer, hpending, ho]
    · obtain ⟨explorer, hexplorer, hscan⟩ := (Option.any_eq_true _ _).1 hawaits
      obtain ⟨pending, hpending, ho⟩ := (Option.any_eq_true _ _).1 hscan
      rw [beq_iff_eq] at ho
      refine ⟨⟨explorer, pending, hexplorer, hpending, ho, ?_⟩, ?_, ?_⟩
      · rw [hexplorers, hexplorer]
        simp [RedisExplorer.handleEvent, hpending, ho, hhome explorer hexplorer]
      · rw [hmodel]
        simp [UiModel.fold, hcurrent, UiModel.applyRedisSessionTruth, UiModel.setConnection,
          UiModel.workspaceMut]
      · rw [hmodel]
        simp [UiModel.fold, hcurrent, UiModel.applyRedisSessionTruth, UiModel.setConnection]
  · have hstale : (app.consumeEvent (.redisKeysLoaded page s .keep)).model.connectionStates
        page.identity.profileId ≠ some (.connected s) := h.stale rfl hstate
    exact ⟨fun hshows => absurd hshows.2.2 hstale, fun hboth => absurd hboth.1 hstate⟩

theorem Arrives.showsPreview_iff {preview : RedisValuePreview}
    (h : Arrives app preview.identity .inspectRedis s)
    (habove : ∀ p g, app.model.activeGenerations p = some g → (app.model.tombstones p).all (· < g))
    (hhome : ∀ explorer, app.redisExplorers (workspaceKey preview.identity) = some explorer →
      explorer.profile = some (workspaceKey preview.identity)) :
    ShowsPreview app (app.consumeEvent (.redisKeyInspected preview s .keep)) preview s ↔
      app.model.connectionState preview.identity.profileId = .connected s ∧
        app.explorerAwaits (.redisKeyInspected preview s .keep) = true := by
  by_cases hstate : app.model.connectionState preview.identity.profileId = .connected s
  · have happlied : (app.consumeEvent (.redisKeyInspected preview s .keep)).redisExplorers
          (workspaceKey preview.identity) =
            (app.redisExplorers (workspaceKey preview.identity)).map
              (·.handleEvent (.redisKeyInspected preview s .keep)) ∧
        (app.consumeEvent (.redisKeyInspected preview s .keep)).model =
          app.model.fold (.redisKeyInspected preview s .keep) := h.applied rfl hstate rfl
    obtain ⟨hexplorers, hmodel⟩ := happlied
    have hcurrent := h.redisEventIsCurrent hstate habove
    refine ⟨fun ⟨⟨explorer, pending, hexplorer, hpending, ho, hkey, _⟩, _⟩ => ⟨hstate, ?_⟩,
      fun ⟨_, hawaits⟩ => ?_⟩
    · simp [explorerAwaits, hexplorer, hpending, ho, hkey]
    · obtain ⟨explorer, hexplorer, hinspect⟩ := (Option.any_eq_true _ _).1 hawaits
      obtain ⟨pending, hpending, hmatch⟩ := (Option.any_eq_true _ _).1 hinspect
      simp only [Bool.and_eq_true, beq_iff_eq] at hmatch
      obtain ⟨ho, hkey⟩ := hmatch
      refine ⟨⟨explorer, pending, hexplorer, hpending, ho, hkey, ?_⟩, ?_, ?_⟩
      · rw [hexplorers, hexplorer]
        simp [RedisExplorer.handleEvent, hpending, ho, hkey, hhome explorer hexplorer]
      · rw [hmodel]
        simp [UiModel.fold, hcurrent, UiModel.applyRedisSessionTruth, UiModel.setConnection,
          UiModel.workspaceMut]
      · rw [hmodel]
        simp [UiModel.fold, hcurrent, UiModel.applyRedisSessionTruth, UiModel.setConnection]
  · have hstale : (app.consumeEvent (.redisKeyInspected preview s .keep)).model.connectionStates
        preview.identity.profileId ≠ some (.connected s) := h.stale rfl hstate
    exact ⟨fun hshows => absurd hshows.2.2 hstale, fun hboth => absurd hboth.1 hstate⟩

end DbotterApp

namespace Desktop
open Board DbotterApp

/-- The answers of Redis that carry a session keep it. -/
theorem keep_of_expected {sent : List UiCommand} {event : UiEvent} (h : Expected sent event) :
    (∀ page s disposition, event = .redisKeysLoaded page s disposition → disposition = .keep) ∧
      ∀ preview s disposition, event = .redisKeyInspected preview s disposition →
        disposition = .keep := by
  obtain ⟨command, -, hends⟩ | ⟨o, rfl⟩ | ⟨o, summary, error, rfl⟩ := h
  · constructor
    · rintro page s disposition rfl
      cases command <;> simp [UiCommand.endedBy, UiEvent.isRefusalOf, UiEvent.isFailureOf] at hends
      exact hends.2
    · rintro preview s disposition rfl
      cases command <;> simp [UiCommand.endedBy, UiEvent.isRefusalOf, UiEvent.isFailureOf] at hends
      exact hends.2
  · exact ⟨fun _ _ _ h => (by cases h), fun _ _ _ h => (by cases h)⟩
  · exact ⟨fun _ _ _ h => (by cases h), fun _ _ _ h => (by cases h)⟩

/-- **Auto-connection.** At every moment of every run, the answer to the active scan or
inspection of a profile is shown if and only if the profile is connected to the session of the
answer and the explorer waits for it. -/
theorem run_redis_shown {moves : List Move} {earlier later : List Moment} {m : Moment}
    (hsplit : (run moves).consumed = earlier ++ m :: later) :
    (∀ page s disposition, m.event = .redisKeysLoaded page s disposition →
        Arrives m.app page.identity .browseRedis s →
        (ShowsPage m.app (m.app.consumeEvent m.event) page s ↔
          m.app.model.connectionState page.identity.profileId = .connected s ∧
            m.app.explorerAwaits m.event = true)) ∧
      ∀ preview s disposition, m.event = .redisKeyInspected preview s disposition →
        Arrives m.app preview.identity .inspectRedis s →
        (ShowsPreview m.app (m.app.consumeEvent m.event) preview s ↔
          m.app.model.connectionState preview.identity.profileId = .connected s ∧
            m.app.explorerAwaits m.event = true) := by
  obtain ⟨hhomed, hbased, hexpected⟩ := run_moment homed_keeps.kept hsplit
  have hhome := hhomed fun _ _ => trivial
  obtain ⟨hpage, hpreview⟩ := keep_of_expected hexpected
  constructor
  · intro page s disposition hevent harrives
    obtain rfl := hpage page s disposition hevent
    rw [hevent]
    exact harrives.showsPage_iff hbased.aboveTombstones (hhome _)
  · intro preview s disposition hevent harrives
    obtain rfl := hpreview preview s disposition hevent
    rw [hevent]
    exact harrives.showsPreview_iff hbased.aboveTombstones (hhome _)

def keyPage (o : OperationId) : RedisKeyPage := ⟨⟨"p".toList, 1, o⟩, 0, [], 0, 0, 0, false, false⟩

/-- The keys are asked for over a session that is there already. -/
def scanConnected : List Move :=
  firstLoad .redis ++ [.act (.connect "p".toList)] ++
    hears (.connectionReady ⟨"p".toList, 1, 2⟩ 1) ++
    [.act .showExplorer, .act (.browseRedis (.scan (.literalPrefix []) 0 true))]

theorem run_redis_shown_connected :
    ∃ earlier m, (run (scanConnected ++ hears (keysLoaded 3))).consumed = earlier ++ m :: [] ∧
      Arrives m.app ⟨"p".toList, 1, 3⟩ .browseRedis 1 ∧
      ShowsPage m.app (m.app.consumeEvent m.event) (keyPage 3) 1 := by
  have hlast : ∃ earlier m,
      (run (scanConnected ++ hears (keysLoaded 3))).consumed = earlier ++ m :: [] ∧
        m.event = .redisKeysLoaded (keyPage 3) 1 .keep ∧
        Arrives m.app ⟨"p".toList, 1, 3⟩ .browseRedis 1 ∧
        m.app.model.connectionState "p".toList = .connected 1 ∧
        m.app.explorerAwaits (.redisKeysLoaded (keyPage 3) 1 .keep) = true := by
    refine ⟨(run scanConnected).consumed, _, rfl, rfl, ⟨?_, ?_, ?_, ?_⟩, ?_, ?_⟩ <;>
      decide +kernel
  obtain ⟨earlier, m, hsplit, hevent, harrives, hstate, hawaits⟩ := hlast
  refine ⟨earlier, m, hsplit, harrives, ?_⟩
  exact ((run_redis_shown hsplit).1 (keyPage 3) 1 .keep hevent harrives).2
    ⟨hstate, by rw [hevent]; exact hawaits⟩

/-- The keys are asked for without a connection, and their first page is dropped. -/
def scanDisconnected : List Move :=
  firstLoad .redis ++
    [.act .showExplorer, .act (.browseRedis (.scan (.literalPrefix []) 0 true))]

theorem redis_page_dropped :
    ∃ earlier m, (run (scanDisconnected ++ hears (keysLoaded 2))).consumed = earlier ++ m :: [] ∧
      m.event = .redisKeysLoaded (keyPage 2) 1 .keep ∧
      Arrives m.app ⟨"p".toList, 1, 2⟩ .browseRedis 1 ∧
      m.app.model.connectionState "p".toList = .disconnected ∧
      m.app.explorerAwaits m.event = true ∧
      ¬ShowsPage m.app (m.app.consumeEvent m.event) (keyPage 2) 1 := by
  refine ⟨(run scanDisconnected).consumed, _, rfl, rfl, ⟨?_, ?_, ?_, ?_⟩, ?_, ?_,
    fun hshows => absurd hshows.2.2 ?_⟩ <;> decide +kernel

end Desktop

end Dbotter.Ui
