import Dbotter.Ui.Runs

/-!
The requests that the explorers wait for.

An explorer remembers the request it has submitted until it is told of the answer. Along every
run it waits for requests that were put on a lane, and as long as every answer is one that the
explorer is told of, it waits only for requests that have not been answered.
-/

namespace Dbotter.Ui
open Dbotter.Utf8 Dbotter.Configuration Dbotter.Service Dbotter.Drivers

namespace Board
open DbotterApp

/-! ## The invariant -/

structure Waiting (b : Board) (heard : List UiEvent) : Prop where
  mysql : ∀ key explorer, b.mysqlExplorers key = some explorer → ∀ o, explorer.Awaits o →
    ∃ request, Open b heard (.browseCatalog request) ∧ workspaceKey request.identity = key ∧
      request.identity.operationId = o
  profile : ∀ key explorer, b.redisExplorers key = some explorer → explorer.profile = some key
  scan : ∀ key explorer, b.redisExplorers key = some explorer →
    ∀ pending, explorer.pendingScan = some pending → ∃ request,
      Open b heard (.scanRedisKeys request) ∧ workspaceKey request.identity = key ∧
      request.identity.operationId = pending.operationId ∧ request.cursor = pending.cursor
  inspect : ∀ key explorer, b.redisExplorers key = some explorer →
    ∀ pending, explorer.pendingInspect = some pending → ∃ request,
      Open b heard (.inspectRedisKey request) ∧ workspaceKey request.identity = key ∧
      request.identity.operationId = pending.operationId ∧ request.key = pending.key

/-- Explorers that wait for no more than those of another board, while no command they wait for
has been answered. -/
theorem Waiting.of_narrower {b b' : Board} {heard heard' : List UiEvent} (h : Waiting b heard)
    (hmysql : ∀ key explorer', b'.mysqlExplorers key = some explorer' → ∀ o, explorer'.Awaits o →
      (∃ explorer, b.mysqlExplorers key = some explorer ∧ explorer.Awaits o) ∧
        ∀ request, Open b heard (.browseCatalog request) → workspaceKey request.identity = key →
          request.identity.operationId = o → Open b' heard' (.browseCatalog request))
    (hredis : ∀ key explorer', b'.redisExplorers key = some explorer' →
      Narrows ((b.redisExplorers key).getD { profile := some key }) explorer' ∧
        (∀ pending, explorer'.pendingScan = some pending → ∀ request,
          Open b heard (.scanRedisKeys request) → workspaceKey request.identity = key →
          request.identity.operationId = pending.operationId → request.cursor = pending.cursor →
          Open b' heard' (.scanRedisKeys request)) ∧
        ∀ pending, explorer'.pendingInspect = some pending → ∀ request,
          Open b heard (.inspectRedisKey request) → workspaceKey request.identity = key →
          request.identity.operationId = pending.operationId → request.key = pending.key →
          Open b' heard' (.inspectRedisKey request)) :
    Waiting b' heard' := by
  refine ⟨fun key explorer' hexplorer' o ho => ?_, fun key explorer' hexplorer' => ?_,
    fun key explorer' hexplorer' pending' hpending' => ?_,
    fun key explorer' hexplorer' pending' hpending' => ?_⟩
  · obtain ⟨⟨explorer, hexplorer, hawaits⟩, hopen⟩ := hmysql key explorer' hexplorer' o ho
    obtain ⟨request, hrequest, hkey, hid⟩ := h.mysql key explorer hexplorer o hawaits
    exact ⟨request, hopen request hrequest hkey hid, hkey, hid⟩
  · obtain ⟨⟨hprofile, -, -⟩, -, -⟩ := hredis key explorer' hexplorer'
    rw [hprofile]
    cases hexplorer : b.redisExplorers key with
    | none => rfl
    | some explorer => exact h.profile key explorer hexplorer
  · obtain ⟨⟨-, hscan, -⟩, hopen, -⟩ := hredis key explorer' hexplorer'
    obtain ⟨pending, hpending, ho, hcursor⟩ := hscan pending' hpending'
    cases hexplorer : b.redisExplorers key with
    | none =>
      rw [hexplorer] at hpending
      cases hpending
    | some explorer =>
      rw [hexplorer] at hpending
      obtain ⟨request, hrequest, hkey, hid, hcursor'⟩ :=
        h.scan key explorer hexplorer pending hpending
      rw [← ho] at hid
      rw [← hcursor] at hcursor'
      exact ⟨request, hopen pending' hpending' request hrequest hkey hid hcursor', hkey, hid,
        hcursor'⟩
  · obtain ⟨⟨-, -, hinspect⟩, -, hopen⟩ := hredis key explorer' hexplorer'
    obtain ⟨pending, hpending, ho, hcursor⟩ := hinspect pending' hpending'
    cases hexplorer : b.redisExplorers key with
    | none =>
      rw [hexplorer] at hpending
      cases hpending
    | some explorer =>
      rw [hexplorer] at hpending
      obtain ⟨request, hrequest, hkey, hid, hcursor'⟩ :=
        h.inspect key explorer hexplorer pending hpending
      rw [← ho] at hid
      rw [← hcursor] at hcursor'
      exact ⟨request, hopen pending' hpending' request hrequest hkey hid hcursor', hkey, hid,
        hcursor'⟩

/-! ## One step -/

/-- What the explorers wait for after a command was accepted. -/
structure AwaitsAfter (command : UiCommand) (b b' : Board) : Prop where
  mysql : ∀ key explorer', b'.mysqlExplorers key = some explorer' → ∀ o, explorer'.Awaits o →
    (∃ explorer, b.mysqlExplorers key = some explorer ∧ explorer.Awaits o) ∨
      ∃ request, command = .browseCatalog request ∧ workspaceKey request.identity = key ∧
        request.identity.operationId = o
  profile : ∀ key explorer', b'.redisExplorers key = some explorer' →
    explorer'.profile = ((b.redisExplorers key).getD { profile := some key }).profile
  scan : ∀ key explorer', b'.redisExplorers key = some explorer' →
    ∀ pending, explorer'.pendingScan = some pending →
      ((b.redisExplorers key).getD { profile := some key }).pendingScan = some pending ∨
        ∃ request, command = .scanRedisKeys request ∧ workspaceKey request.identity = key ∧
          request.identity.operationId = pending.operationId ∧ request.cursor = pending.cursor
  inspect : ∀ key explorer', b'.redisExplorers key = some explorer' →
    ∀ pending, explorer'.pendingInspect = some pending →
      ((b.redisExplorers key).getD { profile := some key }).pendingInspect = some pending ∨
        ∃ request, command = .inspectRedisKey request ∧ workspaceKey request.identity = key ∧
          request.identity.operationId = pending.operationId ∧ request.key = pending.key

theorem AwaitsAfter.of_same {command : UiCommand} {b b' : Board}
    (hmysql : b'.mysqlExplorers = b.mysqlExplorers)
    (hredis : b'.redisExplorers = b.redisExplorers) : AwaitsAfter command b b' := by
  refine ⟨fun key explorer' h o ho => .inl ⟨explorer', hmysql ▸ h, ho⟩, fun key explorer' h => ?_,
    fun key explorer' h pending hpending => .inl ?_, fun key explorer' h pending hpending => .inl ?_⟩
  all_goals
    rw [hredis] at h
    rw [h]
  · rfl
  · exact hpending
  · exact hpending

/-- The explorers after one of them has begun a request. -/
theorem AwaitsAfter.of_update {command : UiCommand} {b b' : Board} {key : WorkspaceKey}
    {explorer : RedisExplorer} (hmysql : b'.mysqlExplorers = b.mysqlExplorers)
    (hredis : b'.redisExplorers = Function.update b.redisExplorers key (some explorer))
    (hprofile : explorer.profile =
      ((b.redisExplorers key).getD { profile := some key }).profile)
    (hscan : ∀ pending, explorer.pendingScan = some pending →
      ((b.redisExplorers key).getD { profile := some key }).pendingScan = some pending ∨
        ∃ request, command = .scanRedisKeys request ∧ workspaceKey request.identity = key ∧
          request.identity.operationId = pending.operationId ∧ request.cursor = pending.cursor)
    (hinspect : ∀ pending, explorer.pendingInspect = some pending →
      ((b.redisExplorers key).getD { profile := some key }).pendingInspect = some pending ∨
        ∃ request, command = .inspectRedisKey request ∧ workspaceKey request.identity = key ∧
          request.identity.operationId = pending.operationId ∧ request.key = pending.key) :
    AwaitsAfter command b b' := by
  have hsame : AwaitsAfter command b b := .of_same rfl rfl
  have hcases : ∀ key' explorer', b'.redisExplorers key' = some explorer' →
      key' = key ∧ explorer' = explorer ∨ b.redisExplorers key' = some explorer' := by
    intro key' explorer' h
    rw [hredis] at h
    by_cases hkey : key' = key
    · subst hkey
      rw [Function.update_self, Option.some_inj] at h
      exact .inl ⟨rfl, h.symm⟩
    · rw [Function.update_of_ne hkey] at h
      exact .inr h
  refine ⟨fun key explorer' h o ho => .inl ⟨explorer', hmysql ▸ h, ho⟩,
    fun key' explorer' h => ?_, fun key' explorer' h => ?_, fun key' explorer' h => ?_⟩
  · obtain ⟨rfl, rfl⟩ | h := hcases key' explorer' h
    · exact hprofile
    · exact hsame.profile key' explorer' h
  · obtain ⟨rfl, rfl⟩ | h := hcases key' explorer' h
    · exact hscan
    · exact hsame.scan key' explorer' h
  · obtain ⟨rfl, rfl⟩ | h := hcases key' explorer' h
    · exact hinspect
    · exact hsame.inspect key' explorer' h

theorem Marks.awaits {command : UiCommand} {b b' : Board} (h : Marks command b b') :
    AwaitsAfter command b b' := by
  cases h with
  | browse _ request =>
    have hsame : AwaitsAfter (.browseCatalog request) b b := .of_same rfl rfl
    refine ⟨fun key explorer' h o ho => ?_, hsame.profile, hsame.scan, hsame.inspect⟩
    simp only [activate] at h
    by_cases hkey : key = workspaceKey request.identity
    · subst hkey
      rw [Function.update_self, Option.some_inj] at h
      subst h
      by_cases hid : o = request.identity.operationId
      · exact .inr ⟨request, rfl, rfl, hid.symm⟩
      · simp only [MySqlExplorerState.Awaits, MySqlExplorerState.markSubmitted,
          Function.update_of_ne hid] at ho
        cases hexplorer : b.mysqlExplorers (workspaceKey request.identity) with
        | none =>
          rw [hexplorer] at ho
          cases ho
        | some explorer =>
          rw [hexplorer] at ho
          exact .inl ⟨explorer, rfl, ho⟩
    · rw [Function.update_of_ne hkey] at h
      exact .inl ⟨explorer', h, ho⟩
  | scan _ request restart =>
    refine .of_update rfl rfl rfl (fun pending hpending => ?_) fun pending hpending => .inl hpending
    simp only [RedisExplorer.beginScan, Option.some_inj] at hpending
    subst hpending
    exact .inr ⟨request, rfl, rfl, rfl, rfl⟩
  | inspect _ request =>
    refine .of_update rfl rfl rfl (fun pending hpending => .inl hpending) fun pending hpending => ?_
    simp only [RedisExplorer.beginInspect, Option.some_inj] at hpending
    subst hpending
    exact .inr ⟨request, rfl, rfl, rfl, rfl⟩
  | _ => exact .of_same rfl rfl

/-- A command that was accepted on a lane is open, and the older ones stay open. -/
theorem Waiting.after {b b' : Board} {heard : List UiEvent} {command : UiCommand}
    (h : Waiting b heard) (hawaits : AwaitsAfter command b b')
    (hnew : (∃ request, command = .browseCatalog request) ∨
      (∃ request, command = .scanRedisKeys request) ∨
      (∃ request, command = .inspectRedisKey request) → Open b' heard command)
    (hopen : ∀ command : UiCommand, command.isCancel = false → Open b heard command →
      Open b' heard command) : Waiting b' heard := by
  refine ⟨fun key explorer' hexplorer' o ho => ?_, fun key explorer' hexplorer' => ?_,
    fun key explorer' hexplorer' pending hpending => ?_,
    fun key explorer' hexplorer' pending hpending => ?_⟩
  · obtain ⟨explorer, hexplorer, ho⟩ | ⟨request, rfl, hrest⟩ :=
      hawaits.mysql key explorer' hexplorer' o ho
    · obtain ⟨request, hrequest, hrest⟩ := h.mysql key explorer hexplorer o ho
      exact ⟨request, hopen _ rfl hrequest, hrest⟩
    · exact ⟨request, hnew (.inl ⟨request, rfl⟩), hrest⟩
  · rw [hawaits.profile key explorer' hexplorer']
    cases hexplorer : b.redisExplorers key with
    | none => rfl
    | some explorer => exact h.profile key explorer hexplorer
  · obtain hpending | ⟨request, rfl, hrest⟩ := hawaits.scan key explorer' hexplorer' pending hpending
    · cases hexplorer : b.redisExplorers key with
      | none =>
        rw [hexplorer] at hpending
        cases hpending
      | some explorer =>
        rw [hexplorer] at hpending
        obtain ⟨request, hrequest, hrest⟩ := h.scan key explorer hexplorer pending hpending
        exact ⟨request, hopen _ rfl hrequest, hrest⟩
    · exact ⟨request, hnew (.inr (.inl ⟨request, rfl⟩)), hrest⟩
  · obtain hpending | ⟨request, rfl, hrest⟩ :=
      hawaits.inspect key explorer' hexplorer' pending hpending
    · cases hexplorer : b.redisExplorers key with
      | none =>
        rw [hexplorer] at hpending
        cases hpending
      | some explorer =>
        rw [hexplorer] at hpending
        obtain ⟨request, hrequest, hrest⟩ := h.inspect key explorer hexplorer pending hpending
        exact ⟨request, hopen _ rfl hrequest, hrest⟩
    · exact ⟨request, hnew (.inr (.inr ⟨request, rfl⟩)), hrest⟩

theorem Waiting.step {b b' : Board} {heard : List UiEvent} (h : Waiting b heard)
    (hb : Based b heard) (hstep : Step b b') : Waiting b' heard := by
  have hopen : ∀ command : UiCommand, command.isCancel = false → Open b heard command →
      Open b' heard command := fun _ hcancel hopen => hopen.step hcancel hb hstep
  have hsame (hmysql : b'.mysqlExplorers = b.mysqlExplorers)
      (hredis : b'.redisExplorers = b.redisExplorers) : Waiting b' heard := by
    have hawaits : AwaitsAfter (.cancelOperation 0) b b' := .of_same hmysql hredis
    exact h.after hawaits (by simp) hopen
  cases hstep with
  | tidyMysql explorers hnarrow =>
    refine h.of_narrower (fun key explorer' hexplorer' o ho => ?_)
      fun key explorer' hexplorer' => ?_
    · exact ⟨hnarrow key explorer' hexplorer' o ho, fun request hrequest _ _ =>
        hopen _ rfl hrequest⟩
    · have : b.redisExplorers key = some explorer' := hexplorer'
      rw [this]
      exact ⟨.refl _, fun _ _ request hrequest _ _ _ => hopen _ rfl hrequest,
        fun _ _ request hrequest _ _ _ => hopen _ rfl hrequest⟩
  | tidyRedis explorers hnarrow =>
    refine h.of_narrower (fun key explorer' hexplorer' o ho => ?_)
      fun key explorer' hexplorer' => ?_
    · exact ⟨⟨explorer', hexplorer', ho⟩, fun request hrequest _ _ => hopen _ rfl hrequest⟩
    · exact ⟨hnarrow key explorer' hexplorer', fun _ _ request hrequest _ _ _ =>
        hopen _ rfl hrequest, fun _ _ request hrequest _ _ _ => hopen _ rfl hrequest⟩
  | start command ho marks =>
    have hawaits := marks.awaits
    exact h.after ⟨hawaits.mysql, hawaits.profile, hawaits.scan, hawaits.inspect⟩
      (fun _ => marks.opens hb ho) hopen
  | merge command ho hlane marks =>
    have hawaits := marks.awaits
    refine h.after ⟨hawaits.mysql, hawaits.profile, hawaits.scan, hawaits.inspect⟩ ?_ hopen
    rintro (⟨request, rfl⟩ | ⟨request, rfl⟩ | ⟨request, rfl⟩) <;> cases hlane
  | _ => exact hsame rfl rfl

/-! ## One event -/

/-- An explorer waits for this command and is not told of the event: the explorer of a catalog
is told of pages only, and that of a keyspace of the pages and previews that pass the gate, of
an uncertain configuration and of the end of the runtime. -/
def leftWaiting (app : DbotterApp) (event : UiEvent) : UiCommand → Bool
  | .browseCatalog request =>
    (catalogAnswer event).isNone &&
      (app.mysqlExplorers (workspaceKey request.identity)).any fun explorer =>
        explorer.Awaits request.identity.operationId
  | .scanRedisKeys request =>
    app.redisResourceEventDisposition event != .apply && !clearsOperations event &&
      (app.redisExplorers (workspaceKey request.identity)).any fun explorer =>
        explorer.pendingScan.any (·.operationId == request.identity.operationId)
  | .inspectRedisKey request =>
    app.redisResourceEventDisposition event != .apply && !clearsOperations event &&
      (app.redisExplorers (workspaceKey request.identity)).any fun explorer =>
        explorer.pendingInspect.any (·.operationId == request.identity.operationId)
  | _ => false

/-- The event answers a request, and leaves an explorer waiting for it. -/
def strands (m : Moment) : Bool :=
  m.app.port.sent.any fun command =>
    command.endedBy m.event && leftWaiting m.app m.event command

theorem narrows_of_sub {explorer explorer' : RedisExplorer}
    (hprofile : explorer'.profile = explorer.profile)
    (hscan : explorer'.pendingScan = explorer.pendingScan ∨ explorer'.pendingScan = none)
    (hinspect : explorer'.pendingInspect = explorer.pendingInspect ∨
      explorer'.pendingInspect = none) : Narrows explorer explorer' := by
  refine ⟨hprofile, fun pending hpending => ?_, fun pending hpending => ?_⟩
  · obtain hscan | hscan := hscan <;> rw [hscan] at hpending
    · exact ⟨pending, hpending, rfl, rfl⟩
    · cases hpending
  · obtain hinspect | hinspect := hinspect <;> rw [hinspect] at hpending
    · exact ⟨pending, hpending, rfl, rfl⟩
    · cases hpending

/-- An explorer that is told of an event waits for no more than before. -/
theorem handleEvent_narrows (explorer : RedisExplorer) (event : UiEvent) :
    Narrows explorer (explorer.handleEvent event) := by
  cases event with
  | redisKeysLoaded page session disposition =>
    simp only [RedisExplorer.handleEvent]
    split
    · next pending _ =>
      split
      · cases hrestart : pending.restart <;>
          exact narrows_of_sub (by simp [RedisExplorer.takePage, hrestart])
            (.inr (by simp [RedisExplorer.takePage, hrestart]))
            (by simp [RedisExplorer.takePage, hrestart])
      · exact .refl explorer
    · exact .refl explorer
  | redisKeysFailed request error session disposition outcome =>
    simp only [RedisExplorer.handleEvent]
    split
    · split
      · exact narrows_of_sub rfl (.inr rfl) (.inl rfl)
      · exact .refl explorer
    · exact .refl explorer
  | redisKeyInspected preview session disposition =>
    simp only [RedisExplorer.handleEvent]
    split
    · split
      · exact narrows_of_sub rfl (.inl rfl) (.inr rfl)
      · exact .refl explorer
    · exact .refl explorer
  | redisKeyInspectFailed request error session disposition outcome =>
    simp only [RedisExplorer.handleEvent]
    split
    · split
      · exact narrows_of_sub rfl (.inl rfl) (.inr rfl)
      · exact .refl explorer
    · exact .refl explorer
  | configUncertain o | runtimeShutdown o => exact narrows_of_sub rfl (.inr rfl) (.inr rfl)
  | _ => exact .refl explorer

/-- The answer to a scan that passes the gate takes the scan off its explorer. -/
theorem handleEvent_scan (app : DbotterApp) {explorer : RedisExplorer} {event : UiEvent}
    {request : RedisScanRequest} {pending : PendingScan}
    (hends : (UiCommand.scanRedisKeys request).endedBy event)
    (hredis : (redisResourceEventIdentity event).isSome)
    (hprofile : explorer.profile = some (workspaceKey request.identity))
    (hpending : explorer.pendingScan = some pending)
    (ho : request.identity.operationId = pending.operationId)
    (hcursor : request.cursor = pending.cursor) :
    (redisResourceEventIdentity event).any (workspaceKey ·.1 = workspaceKey request.identity) ∧
      (explorer.handleEvent (app.attachRetryRecipe event)).pendingScan = none := by
  cases event with
  | redisKeysLoaded page session disposition =>
    simp only [UiCommand.endedBy, UiEvent.isRefusalOf, UiEvent.isFailureOf, Bool.false_or,
      Bool.and_eq_true, beq_iff_eq] at hends
    simp only [attachRetryRecipe, RedisExplorer.handleEvent, hpending, hprofile, hends.1,
      redisResourceEventIdentity, Option.any_some, decide_true, true_and, ho.symm, ↓reduceIte]
    cases hrestart : pending.restart <;> simp [RedisExplorer.takePage, hrestart]
  | redisKeysFailed failed error session disposition outcome =>
    simp only [UiCommand.endedBy, UiEvent.isRefusalOf, UiEvent.isFailureOf, Bool.false_or,
      beq_iff_eq] at hends
    subst hends
    simp only [attachRetryRecipe]
    split <;> simp [RedisExplorer.handleEvent, hpending, hprofile, ho, hcursor,
      redisResourceEventIdentity]
  | _ => simp [UiCommand.endedBy, UiEvent.isRefusalOf, UiEvent.isFailureOf,
      redisResourceEventIdentity] at hends hredis

/-- The answer to an inspection that passes the gate takes it off its explorer. -/
theorem handleEvent_inspect (app : DbotterApp) {explorer : RedisExplorer} {event : UiEvent}
    {request : RedisKeyInspectRequest} {pending : PendingInspect}
    (hends : (UiCommand.inspectRedisKey request).endedBy event)
    (hredis : (redisResourceEventIdentity event).isSome)
    (hprofile : explorer.profile = some (workspaceKey request.identity))
    (hpending : explorer.pendingInspect = some pending)
    (ho : request.identity.operationId = pending.operationId)
    (hkey : request.key = pending.key) :
    (redisResourceEventIdentity event).any (workspaceKey ·.1 = workspaceKey request.identity) ∧
      (explorer.handleEvent (app.attachRetryRecipe event)).pendingInspect = none := by
  cases event with
  | redisKeyInspected preview session disposition =>
    simp only [UiCommand.endedBy, UiEvent.isRefusalOf, UiEvent.isFailureOf, Bool.false_or,
      Bool.and_eq_true, beq_iff_eq] at hends
    simp [attachRetryRecipe, RedisExplorer.handleEvent, hpending, hprofile, hends.1.1, hends.1.2,
      redisResourceEventIdentity, ho, hkey, RedisExplorer.takePreview]
  | redisKeyInspectFailed failed error session disposition outcome =>
    simp only [UiCommand.endedBy, UiEvent.isRefusalOf, UiEvent.isFailureOf, Bool.false_or,
      beq_iff_eq] at hends
    subst hends
    simp only [attachRetryRecipe]
    split <;> simp [RedisExplorer.handleEvent, hpending, hprofile, ho, hkey,
      redisResourceEventIdentity]
  | _ => simp [UiCommand.endedBy, UiEvent.isRefusalOf, UiEvent.isFailureOf,
      redisResourceEventIdentity] at hends hredis

section
variable {app : DbotterApp} {event : UiEvent}

theorem told_of_strands {command : UiCommand} (htold : strands ⟨app, event⟩ = false)
    (hmem : command ∈ app.port.sent) (hends : command.endedBy event) :
    leftWaiting app event command = false := by
  simp only [strands, List.any_eq_false, Bool.and_eq_true, not_and, Bool.not_eq_true] at htold
  exact htold command hmem hends

theorem told_of_browse {request : CatalogRequest} {explorer : MySqlExplorerState}
    (htold : strands ⟨app, event⟩ = false) (hmem : .browseCatalog request ∈ app.port.sent)
    (hexplorer : app.mysqlExplorers (workspaceKey request.identity) = some explorer)
    (ho : explorer.Awaits request.identity.operationId)
    (hends : (UiCommand.browseCatalog request).endedBy event) : (catalogAnswer event).isSome := by
  have h := told_of_strands htold hmem hends
  simpa [leftWaiting, hexplorer, ho, Option.isSome_iff_ne_none] using h

theorem told_of_scan {request : RedisScanRequest} {explorer : RedisExplorer}
    {pending : PendingScan} (htold : strands ⟨app, event⟩ = false)
    (hmem : .scanRedisKeys request ∈ app.port.sent)
    (hexplorer : app.redisExplorers (workspaceKey request.identity) = some explorer)
    (hpending : explorer.pendingScan = some pending)
    (ho : request.identity.operationId = pending.operationId)
    (hends : (UiCommand.scanRedisKeys request).endedBy event) :
    app.redisResourceEventDisposition event = .apply ∨ clearsOperations event = true := by
  have h := told_of_strands htold hmem hends
  simp only [leftWaiting, hexplorer, hpending, ho, Option.any_some, beq_self_eq_true,
    Bool.and_true, Bool.and_eq_false_iff, bne_eq_false_iff_eq, Bool.not_eq_false'] at h
  exact h

theorem told_of_inspect {request : RedisKeyInspectRequest} {explorer : RedisExplorer}
    {pending : PendingInspect} (htold : strands ⟨app, event⟩ = false)
    (hmem : .inspectRedisKey request ∈ app.port.sent)
    (hexplorer : app.redisExplorers (workspaceKey request.identity) = some explorer)
    (hpending : explorer.pendingInspect = some pending)
    (ho : request.identity.operationId = pending.operationId)
    (hends : (UiCommand.inspectRedisKey request).endedBy event) :
    app.redisResourceEventDisposition event = .apply ∨ clearsOperations event = true := by
  have h := told_of_strands htold hmem hends
  simp only [leftWaiting, hexplorer, hpending, ho, Option.any_some, beq_self_eq_true,
    Bool.and_true, Bool.and_eq_false_iff, bne_eq_false_iff_eq, Bool.not_eq_false'] at h
  exact h

/-- An event that the gate drops leaves the explorers as they are, and answers none of them. -/
theorem Waiting.dropped {b' : Board} {heard : List UiEvent} (h : Waiting app.board heard)
    (hb : Based app.board heard) (htold : strands ⟨app, event⟩ = false)
    (hnotRedis : app.redisResourceEventDisposition event ≠ .notRedis)
    (happly : app.redisResourceEventDisposition event ≠ .apply)
    (hsent : b'.sent = app.port.sent) (hmysql : b'.mysqlExplorers = app.mysqlExplorers)
    (hredis : b'.redisExplorers = app.redisExplorers) : Waiting b' (heard ++ [event]) := by
  have hclears : clearsOperations event = false := by
    cases event with
    | configUncertain | runtimeShutdown => exact absurd rfl hnotRedis
    | _ => rfl
  have hcatalog : (catalogAnswer event).isSome = false := by
    cases event with
    | catalogPageLoaded | catalogPageFailed => exact absurd rfl hnotRedis
    | _ => rfl
  refine h.of_narrower (fun key explorer' hexplorer' o ho => ?_) fun key explorer' hexplorer' => ?_
  · rw [hmysql] at hexplorer'
    refine ⟨⟨explorer', hexplorer', ho⟩, ?_⟩
    rintro request hopen rfl rfl
    refine hopen.hear rfl hb hsent (Bool.eq_false_iff.2 fun hends => ?_)
    have := told_of_browse htold hopen.sent hexplorer' ho hends
    rw [hcatalog] at this
    cases this
  · rw [hredis] at hexplorer'
    have hexplorer : app.board.redisExplorers key = some explorer' := hexplorer'
    rw [hexplorer]
    refine ⟨.refl _, ?_, ?_⟩
    · rintro pending hpending request hopen rfl ho -
      refine hopen.hear rfl hb hsent (Bool.eq_false_iff.2 fun hends => ?_)
      obtain h | h := told_of_scan htold hopen.sent hexplorer' hpending ho hends
      · exact happly h
      · rw [hclears] at h
        cases h
    · rintro pending hpending request hopen rfl ho -
      refine hopen.hear rfl hb hsent (Bool.eq_false_iff.2 fun hends => ?_)
      obtain h | h := told_of_inspect htold hopen.sent hexplorer' hpending ho hends
      · exact happly h
      · rw [hclears] at h
        cases h

theorem catalogAnswer_of_endedBy {request : CatalogRequest}
    (hends : (UiCommand.browseCatalog request).endedBy event)
    (hanswer : (catalogAnswer event).isSome) :
    catalogAnswer (app.attachRetryRecipe event) = some request.identity := by
  cases event with
  | catalogPageLoaded page session disposition =>
    simp only [UiCommand.endedBy, UiEvent.isRefusalOf, UiEvent.isFailureOf, Bool.false_or,
      beq_iff_eq] at hends
    rw [← hends]
    rfl
  | catalogPageFailed failed summary error session disposition =>
    simp only [UiCommand.endedBy, UiEvent.isRefusalOf, UiEvent.isFailureOf, Bool.false_or,
      beq_iff_eq] at hends
    subst hends
    simp only [attachRetryRecipe]
    split <;> rfl
  | _ => cases hanswer

theorem Waiting.settled {heard : List UiEvent} (h : Waiting app.board heard)
    (hb : Based app.board heard) (htold : strands ⟨app, event⟩ = false) :
    Waiting (app.settled (app.attachRetryRecipe event)).board (heard ++ [event]) := by
  have hsent : (app.settled (app.attachRetryRecipe event)).board.sent = app.port.sent :=
    congrArg UiPort.sent (app.settled_port _)
  have hidentity : redisResourceEventIdentity (app.attachRetryRecipe event) =
      redisResourceEventIdentity event := by
    cases event <;> simp only [attachRetryRecipe] <;> split <;> rfl
  have hclears : clearsOperations (app.attachRetryRecipe event) = clearsOperations event := by
    cases event <;> simp only [attachRetryRecipe] <;> split <;> rfl
  have hgate : app.redisResourceEventDisposition event = .apply →
      (redisResourceEventIdentity event).isSome := by
    intro happly
    unfold redisResourceEventDisposition at happly
    split at happly
    · cases happly
    · next heq => rw [heq]; rfl
  refine h.of_narrower (fun key explorer' hexplorer' o ho => ?_) fun key explorer' hexplorer' => ?_
  · obtain ⟨⟨explorer, hexplorer, hawaits⟩, hother⟩ := settled_mysql hexplorer' ho
    refine ⟨⟨explorer, hexplorer, hawaits⟩, ?_⟩
    rintro request hopen rfl rfl
    refine hopen.hear rfl hb hsent (Bool.eq_false_iff.2 fun hends => ?_)
    have hanswer := told_of_browse htold hopen.sent hexplorer hawaits hends
    exact hother _ (catalogAnswer_of_endedBy hends hanswer) rfl rfl
  · obtain ⟨hclear, explorer, hexplorer, heq⟩ := settled_redis hexplorer'
    have hboard : app.board.redisExplorers key = some explorer := hexplorer
    have hprofile := h.profile key explorer hboard
    rw [hclears] at hclear
    rw [hidentity] at heq
    rw [hboard]
    have hnarrows : Narrows explorer explorer' := by
      rw [heq]
      split
      · exact handleEvent_narrows _ _
      · exact .refl explorer
    refine ⟨hnarrows, ?_, ?_⟩
    · rintro pending' hpending' request hopen rfl ho hcursor
      refine hopen.hear rfl hb hsent (Bool.eq_false_iff.2 fun hends => ?_)
      obtain ⟨pending, hpending, ho', hcursor'⟩ := hnarrows.2.1 pending' hpending'
      obtain happly | h := told_of_scan htold hopen.sent hexplorer hpending (ho.trans ho') hends
      · obtain ⟨hkey, hnone⟩ := handleEvent_scan app hends (hgate happly) hprofile hpending
          (ho.trans ho') (hcursor.trans hcursor')
        rw [heq, if_pos hkey, hnone] at hpending'
        cases hpending'
      · rw [hclear] at h
        cases h
    · rintro pending' hpending' request hopen rfl ho hkey'
      refine hopen.hear rfl hb hsent (Bool.eq_false_iff.2 fun hends => ?_)
      obtain ⟨pending, hpending, ho', hkey''⟩ := hnarrows.2.2 pending' hpending'
      obtain happly | h := told_of_inspect htold hopen.sent hexplorer hpending (ho.trans ho') hends
      · obtain ⟨hkey, hnone⟩ := handleEvent_inspect app hends (hgate happly) hprofile
          hpending (ho.trans ho') (hkey'.trans hkey'')
        rw [heq, if_pos hkey, hnone] at hpending'
        cases hpending'
      · rw [hclear] at h
        cases h

theorem Waiting.consume {heard : List UiEvent} (h : Waiting app.board heard)
    (hb : Based app.board heard) (hexpected : Expected app.port.sent event)
    (htold : strands ⟨app, event⟩ = false) :
    Waiting (app.consumeEvent event).board (heard ++ [event]) := by
  obtain ⟨hignore, heq⟩ | ⟨⟨o, hstale⟩, heq⟩ | ⟨-, hreaches⟩ := consumeEvent_board app event
  · rw [heq]
    exact h.dropped hb htold (by simp [hignore]) (by simp [hignore]) rfl rfl rfl
  · rw [heq, onlyOperations_board (app.finishActiveOperation_only event)]
    exact h.dropped hb htold (by simp [hstale]) (by simp [hstale]) rfl rfl rfl
  · exact (hb.settled hexpected).keeps (fun hb hstep h => h.step hb hstep) hreaches
      (h.settled hb htold)

end

theorem waiting_keeps : Keeps (strands · = false) Waiting where
  start := ⟨fun _ _ h => (nomatch h), fun _ _ h => (nomatch h), fun _ _ h => (nomatch h),
    fun _ _ h => (nomatch h)⟩
  step hb hstep h := h.step hb hstep
  consume hb hexpected htold h := h.consume hb hexpected htold
  prune := by
    intro app heard h
    rw [prune_board]
    refine h.of_narrower (fun key explorer' hexplorer' o ho => ?_)
      fun key explorer' hexplorer' => ?_
    · simp only [Option.ite_none_right_eq_some] at hexplorer'
      exact ⟨⟨explorer', hexplorer'.2, ho⟩, fun request hrequest _ _ => hrequest.congr rfl⟩
    · simp only [Option.ite_none_right_eq_some] at hexplorer'
      have hexplorer : app.board.redisExplorers key = some explorer' := hexplorer'.2
      rw [hexplorer]
      exact ⟨.refl _, fun _ _ request hrequest _ _ _ => hrequest.congr rfl,
        fun _ _ request hrequest _ _ _ => hrequest.congr rfl⟩
  events := by
    intro b heard events h
    have hawaits : AwaitsAfter (.cancelOperation 0) b { b with events } := .of_same rfl rfl
    exact h.after hawaits (by simp) fun command _ hopen => hopen.congr rfl

end Board

namespace Desktop
open Board DbotterApp

/-- **Explorers.** As long as every answer reaches the explorer that waits for it, an explorer
waits only for commands that are on a lane and have not been answered. -/
theorem run_awaits_open (moves : List Move)
    (htold : ∀ m ∈ (run moves).consumed, strands m = false) :
    (∀ key explorer, (run moves).app.mysqlExplorers key = some explorer →
        ∀ o, explorer.Awaits o → (∃ command ∈ (run moves).app.port.sent, command.operationId = o) ∧
          ¬Ended (run moves).app.port.sent (run moves).heard o) ∧
      ∀ key explorer, (run moves).app.redisExplorers key = some explorer →
        ∀ o, explorer.Awaits o → (∃ command ∈ (run moves).app.port.sent, command.operationId = o) ∧
          ¬Ended (run moves).app.port.sent (run moves).heard o := by
  have h := (run_sound waiting_keeps.kept moves).holds htold
  have hopen : ∀ {command : UiCommand} {o : OperationId},
      Open (run moves).app.board (run moves).heard command → command.operationId = o →
      (∃ command ∈ (run moves).app.port.sent, command.operationId = o) ∧
        ¬Ended (run moves).app.port.sent (run moves).heard o := by
    rintro command _ hopen rfl
    exact ⟨⟨command, hopen.sent, rfl⟩, hopen.not_ended⟩
  constructor
  · intro key explorer hexplorer o ho
    obtain ⟨request, hrequest, -, hid⟩ := h.mysql key explorer hexplorer o ho
    exact hopen hrequest hid
  · rintro key explorer hexplorer o (⟨pending, hpending, rfl⟩ | ⟨pending, hpending, rfl⟩)
    · obtain ⟨request, hrequest, -, hid, -⟩ := h.scan key explorer hexplorer pending hpending
      exact hopen hrequest hid
    · obtain ⟨request, hrequest, -, hid, -⟩ := h.inspect key explorer hexplorer pending hpending
      exact hopen hrequest hid

/-- The schemas of the first profile are asked for. -/
def browseSchemas : List Move :=
  firstLoad .mySql ++ [.act .showExplorer, .act (.browse (.refreshSchemas none))]

theorem run_awaits_open_schemas :
    ((run browseSchemas).app.mysqlExplorers ⟨"p".toList, 1⟩).any (fun explorer =>
        explorer.Awaits 2) ∧
      ¬Ended (run browseSchemas).app.port.sent (run browseSchemas).heard 2 := by
  have hawaits : ((run browseSchemas).app.mysqlExplorers ⟨"p".toList, 1⟩).any (fun explorer =>
      explorer.Awaits 2) := by decide +kernel
  have htold : ∀ m ∈ (run browseSchemas).consumed, strands m = false := by decide +kernel
  obtain ⟨explorer, hexplorer, ho⟩ := (Option.any_eq_true _ _).1 hawaits
  exact ⟨hawaits, ((run_awaits_open browseSchemas htold).1 _ explorer hexplorer 2
    (of_decide_eq_true ho)).2⟩

/-- The request is refused for want of a permit, and the explorer waits on. -/
theorem awaits_after_refusal :
    ((run (browseSchemas ++ hears (failedProfileEvent ⟨"p".toList, 1, 2⟩ .browseMySql
        .resourceBusy))).app.mysqlExplorers ⟨"p".toList, 1⟩).any (fun explorer =>
          explorer.Awaits 2) ∧
      Ended (run (browseSchemas ++ hears (failedProfileEvent ⟨"p".toList, 1, 2⟩ .browseMySql
          .resourceBusy))).app.port.sent
        (run (browseSchemas ++ hears (failedProfileEvent ⟨"p".toList, 1, 2⟩ .browseMySql
          .resourceBusy))).heard 2 := by
  decide +kernel

end Desktop

end Dbotter.Ui
