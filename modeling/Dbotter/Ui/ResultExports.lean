import Dbotter.Ui.App
import Dbotter.Results.Encoding

/-!
The exports of results as the application keeps track of them, from `src/ui/app.rs` and
`src/ui/result_view.rs`.

An export is kept with its destination until its terminal event comes. A destination that was
committed can be revealed for as long as its result is shown, and the view of a result shows the
export that runs. Results come and go meanwhile. The selection of rows and the texts of the status
line are left out.
-/

namespace Dbotter.Ui
open Dbotter.Utf8 Dbotter.Service

/-! ## The view of a result -/

structure ResultViewState where
  resultId : Option ResultId := none
  pendingExport : Option OperationId := none
  deriving DecidableEq, Repr

namespace ResultViewState

def resetFor (resultId : ResultId) : ResultViewState where
  resultId := some resultId

def synchronize (view : ResultViewState) (resultId : ResultId) : ResultViewState :=
  if view.resultId = some resultId then view else resetFor resultId

/-- `begin_export`, where `none` is the refusal. -/
def beginExport (view : ResultViewState) (resultId : ResultId) (operationId : OperationId) :
    Option ResultViewState :=
  if view.resultId ≠ some resultId ∨ view.pendingExport.isSome then none
  else some { view with pendingExport := some operationId }

def finishExport (view : ResultViewState) (resultId : ResultId) (operationId : OperationId) :
    ResultViewState :=
  if view.resultId ≠ some resultId ∨ view.pendingExport ≠ some operationId then view
  else { view with pendingExport := none }

end ResultViewState

/-- A workspace with the result that it shows and the view of it. -/
structure ResultWorkspace where
  key : WorkspaceKey
  result : Option ResultId := none
  resultView : ResultViewState := {}
  deriving DecidableEq

/-! ## The exports -/

structure PendingExportDestination where
  resultId : ResultId
  format : Results.ExportFormat
  path : PathBuf
  deriving DecidableEq

/-- What `symlink_metadata` finds at the chosen path, and whether its replacement can be
confirmed. -/
inductive DestinationState
  | present (confirmed : Bool)
  | notFound
  | unreadable
  deriving DecidableEq, Repr

def DestinationState.usable : DestinationState → Bool
  | .present confirmed => confirmed
  | .notFound => true
  | .unreadable => false

/-- The events that `handle_export_terminal` acts on. -/
inductive ExportTerminal
  | resultExported (operationId : OperationId) (resultId : ResultId)
      (format : Results.ExportFormat)
  | resultExportFailed (operationId : OperationId) (resultId : ResultId)
      (format : Results.ExportFormat) (destinationCommitted : Bool)
  | runtimeShutdown
  deriving DecidableEq

/-- The export that a terminal ends, and whether its destination was committed. -/
structure ExportOutcome where
  operationId : OperationId
  resultId : ResultId
  format : Results.ExportFormat
  destinationCommitted : Bool
  deriving DecidableEq

def ExportTerminal.outcome : ExportTerminal → Option ExportOutcome
  | .resultExported operationId resultId format => some ⟨operationId, resultId, format, true⟩
  | .resultExportFailed operationId resultId format destinationCommitted =>
    some ⟨operationId, resultId, format, destinationCommitted⟩
  | .runtimeShutdown => none

/-- An export under the operation that carries it out. -/
abbrev PendingExport := OperationId × PendingExportDestination

/-- The fields of the application that exports use, with what was submitted and heard so far.
The maps of workspaces and of pending exports are lists here. -/
structure ResultExports where
  workspaces : List ResultWorkspace := []
  pending : List PendingExport := []
  committed : Table ResultId PathBuf := fun _ => none
  formats : Table ResultId Results.ExportFormat := fun _ => none
  nextOperation : OperationId := 1
  submitted : List PendingExport := []
  heard : List ExportTerminal := []

namespace ResultExports

/-- The first workspace that shows the result shows the export from now on. A view that is at
another export is reset first. -/
def beginResultExportState (resultId : ResultId) (operationId : OperationId) :
    List ResultWorkspace → List ResultWorkspace
  | [] => []
  | workspace :: workspaces =>
    if workspace.result = some resultId then
      let reset := ResultViewState.resetFor resultId
      let resultView :=
        (workspace.resultView.beginExport resultId operationId <|>
          reset.beginExport resultId operationId).getD reset
      { workspace with resultView } :: workspaces
    else workspace :: beginResultExportState resultId operationId workspaces

def finishResultExportState (resultId : ResultId) (operationId : OperationId)
    (workspaces : List ResultWorkspace) : List ResultWorkspace :=
  workspaces.map fun workspace =>
    { workspace with resultView := workspace.resultView.finishExport resultId operationId }

/-- `submit_result_export_to`, with what the file system and the port answer. The operation is
spent also where the destination cannot be used or the port is full. -/
def submitResultExportTo (s : ResultExports) (destination : PendingExportDestination)
    (found : DestinationState) (accepted : Bool) : ResultExports :=
  if s.pending.any (·.2.resultId = destination.resultId) then s
  else
    let operationId := s.nextOperation
    let s := { s with nextOperation := operationId + 1 }
    if found.usable && accepted then
      { s with
        workspaces := beginResultExportState destination.resultId operationId s.workspaces
        pending := (operationId, destination) :: s.pending
        formats := Function.update s.formats destination.resultId (some destination.format)
        submitted := (operationId, destination) :: s.submitted }
    else s

def handleExportTerminal (s : ResultExports) (event : ExportTerminal) : ResultExports :=
  let s := { s with heard := event :: s.heard }
  match event.outcome with
  | none => { s with pending := [] }
  | some ⟨operationId, resultId, format, destinationCommitted⟩ =>
    let s :=
      { s with
        workspaces := finishResultExportState resultId operationId s.workspaces
        formats := Function.update s.formats resultId (some format) }
    let matching := (s.pending.find? (·.1 = operationId)).filter fun pending =>
      pending.2.resultId = resultId ∧ pending.2.format = format
    match matching with
    | none => s
    | some pending =>
      { s with
        pending := s.pending.filter (·.1 ≠ operationId)
        committed :=
          if destinationCommitted then
            Function.update s.committed resultId (some pending.2.path)
          else s.committed }

/-- The results that are shown or exported. -/
def currentResults (s : ResultExports) : List ResultId :=
  s.workspaces.filterMap (·.result) ++ s.pending.map (·.2.resultId)

def pruneResultExportState (s : ResultExports) : ResultExports :=
  { s with
    committed := fun resultId =>
      if resultId ∈ s.currentResults then s.committed resultId else none
    formats := fun resultId =>
      if resultId ∈ s.currentResults then s.formats resultId else none }

end ResultExports

/-! ## Runs -/

/-- What moves the exports. The map of workspaces has no order of its own: `rehash` puts them in
any other. -/
inductive ExportMove
  | openWorkspace (key : WorkspaceKey)
  | closeWorkspace (key : WorkspaceKey)
  | rehash (workspaces : List ResultWorkspace)
  | queryFinished (key : WorkspaceKey) (resultId : ResultId)
  | show (key : WorkspaceKey)
  | otherOperation
  | submit (destination : PendingExportDestination) (found : DestinationState) (accepted : Bool)
  | hear (event : ExportTerminal)
  | prune

namespace ResultExports

def atWorkspace (s : ResultExports) (key : WorkspaceKey)
    (change : ResultWorkspace → ResultWorkspace) : ResultExports :=
  { s with
    workspaces := s.workspaces.map fun workspace =>
      if workspace.key = key then change workspace else workspace }

def step (s : ResultExports) : ExportMove → ResultExports
  | .openWorkspace key =>
    if s.workspaces.any (·.key = key) then s
    else { s with workspaces := s.workspaces ++ [{ key }] }
  | .closeWorkspace key => { s with workspaces := s.workspaces.filter (·.key ≠ key) }
  | .rehash workspaces => if workspaces.isPerm s.workspaces then { s with workspaces } else s
  | .queryFinished key resultId =>
    s.atWorkspace key fun workspace =>
      { workspace with result := some resultId, resultView := .resetFor resultId }
  | .show key =>
    s.atWorkspace key fun workspace =>
      match workspace.result with
      | some resultId =>
        { workspace with resultView := workspace.resultView.synchronize resultId }
      | none => workspace
  | .otherOperation => { s with nextOperation := s.nextOperation + 1 }
  | .submit destination found accepted => s.submitResultExportTo destination found accepted
  | .hear event => s.handleExportTerminal event
  | .prune => s.pruneResultExportState

def run (moves : List ExportMove) : ResultExports := moves.foldl step {}

/-! ## What is kept of an export -/

/-- The export was ended by an event that names its result and its format. -/
def Answered (s : ResultExports) (e : PendingExport) : Prop :=
  ∃ event ∈ s.heard, ∃ committed,
    event.outcome = some ⟨e.1, e.2.resultId, e.2.format, committed⟩

/-- The export was ended by an event that says that its destination was committed. -/
def CommittedTo (s : ResultExports) (e : PendingExport) : Prop :=
  ∃ event ∈ s.heard, event.outcome = some ⟨e.1, e.2.resultId, e.2.format, true⟩

/-- The view is that of the result of its workspace, and the export it shows is a pending one of
this result. -/
structure Viewed (s : ResultExports) (w : ResultWorkspace) : Prop where
  resultId : w.resultView.resultId = w.result
  pending : .runtimeShutdown ∉ s.heard → ∀ o, w.resultView.pendingExport = some o →
    ∃ e ∈ s.pending, e.1 = o ∧ w.result = some e.2.resultId

/-- What holds of the exports after any moves. -/
structure Tracked (s : ResultExports) : Prop where
  issued : ∀ e ∈ s.submitted, e.1 < s.nextOperation
  submitted : ∀ e ∈ s.pending, e ∈ s.submitted
  operation : ∀ d ∈ s.pending, ∀ e ∈ s.pending, d.1 = e.1 → d = e
  result : ∀ d ∈ s.pending, ∀ e ∈ s.pending, d.2.resultId = e.2.resultId → d = e
  kept : .runtimeShutdown ∉ s.heard → ∀ e ∈ s.submitted, ¬ s.Answered e → e ∈ s.pending
  committed : ∀ r path, s.committed r = some path →
    ∃ e ∈ s.submitted, e.2.resultId = r ∧ e.2.path = path ∧ s.CommittedTo e
  viewed : ∀ w ∈ s.workspaces, s.Viewed w

section
variable {s s' : ResultExports} {w : ResultWorkspace} {d e : PendingExport}

theorem Answered.mono (hh : s.heard ⊆ s'.heard) (h : s.Answered e) : s'.Answered e := by
  obtain ⟨event, hevent, ended⟩ := h
  exact ⟨event, hh hevent, ended⟩

theorem CommittedTo.mono (hh : s.heard ⊆ s'.heard) (h : s.CommittedTo e) : s'.CommittedTo e := by
  obtain ⟨event, hevent, ended⟩ := h
  exact ⟨event, hh hevent, ended⟩

theorem Viewed.mono (hh : s.heard ⊆ s'.heard) (hp : s.pending ⊆ s'.pending) (h : s.Viewed w) :
    s'.Viewed w := by
  refine ⟨h.resultId, fun hs o ho => ?_⟩
  obtain ⟨e, he, hop, hresult⟩ := h.pending (fun hm => hs (hh hm)) o ho
  exact ⟨e, hp he, hop, hresult⟩

/-- A view at no export shows nothing that could be missing. -/
theorem Viewed.idle (hr : w.resultView.resultId = w.result)
    (ho : w.resultView.pendingExport = none) : s.Viewed w := by
  refine ⟨hr, fun _ o h => ?_⟩
  rw [ho] at h
  cases h

/-- Moves that leave the exports alone, whatever they do to the workspaces. -/
theorem Tracked.follow (h : s.Tracked) (hp : s'.pending = s.pending)
    (hs : s'.submitted = s.submitted) (hh : s'.heard = s.heard)
    (hn : s.nextOperation ≤ s'.nextOperation)
    (hc : ∀ r path, s'.committed r = some path → s.committed r = some path)
    (hv : ∀ w ∈ s'.workspaces, s.Viewed w) : s'.Tracked where
  issued e he := by
    rw [hs] at he
    exact Nat.lt_of_lt_of_le (h.issued e he) hn
  submitted := by
    rw [hp, hs]
    exact h.submitted
  operation := by
    rw [hp]
    exact h.operation
  result := by
    rw [hp]
    exact h.result
  kept hd e he ha := by
    rw [hh] at hd
    rw [hs] at he
    rw [hp]
    exact h.kept hd e he fun hans => ha (hans.mono (hh ▸ List.Subset.refl _))
  committed r path hr := by
    obtain ⟨e, he, hresult, hpath, hcom⟩ := h.committed r path (hc r path hr)
    exact ⟨e, hs ▸ he, hresult, hpath, hcom.mono (hh ▸ List.Subset.refl _)⟩
  viewed w hw := (hv w hw).mono (hh ▸ List.Subset.refl _) (hp ▸ List.Subset.refl _)

/-- Other workspaces, each with a view that fits the exports. -/
theorem Tracked.shows (h : s.Tracked) {workspaces : List ResultWorkspace}
    (hv : ∀ w ∈ workspaces, s.Viewed w) : Tracked { s with workspaces } :=
  h.follow rfl rfl rfl le_rfl (fun _ _ hr => hr) hv

theorem Tracked.atWorkspace (h : s.Tracked) (key : WorkspaceKey)
    {change : ResultWorkspace → ResultWorkspace}
    (hc : ∀ w, s.Viewed w → s.Viewed (change w)) : (s.atWorkspace key change).Tracked := by
  refine h.shows fun w hw => ?_
  obtain ⟨w', hw', rfl⟩ := List.mem_map.mp hw
  have hv := h.viewed w' hw'
  split
  · exact hc w' hv
  · exact hv

/-- Showing a result again never loses the export that its view shows. -/
theorem Viewed.synchronize {r : ResultId} (h : s.Viewed w) (hr : w.result = some r) :
    w.resultView.synchronize r = w.resultView := by
  simp [ResultViewState.synchronize, h.resultId, hr]

/-! ### Submitting -/

theorem mem_beginResultExportState {r : ResultId} {o : OperationId} :
    ∀ {ws : List ResultWorkspace}, w ∈ beginResultExportState r o ws →
      w ∈ ws ∨ w.result = some r ∧ w.resultView = ⟨some r, some o⟩
  | [], hw => .inl hw
  | v :: vs, hw => by
    rw [beginResultExportState] at hw
    split at hw
    case isTrue hv =>
      rcases List.mem_cons.mp hw with rfl | hw
      · right
        refine ⟨hv, ?_⟩
        by_cases hid : v.resultView.resultId = some r <;>
          by_cases hpe : v.resultView.pendingExport.isSome <;>
          simp_all [ResultViewState.beginExport, ResultViewState.resetFor]
      · exact .inl (List.mem_cons_of_mem _ hw)
    case isFalse =>
      rcases List.mem_cons.mp hw with rfl | hw
      · exact .inl List.mem_cons_self
      · exact (mem_beginResultExportState hw).imp_left (List.mem_cons_of_mem _)

/-- The new operation is not one of a pending export, and the result is not exported yet: the
export joins the others without a clash. -/
theorem Tracked.joins (h : s.Tracked) (destination : PendingExportDestination)
    (formats : Table ResultId Results.ExportFormat)
    (hfree : ∀ e ∈ s.pending, e.2.resultId ≠ destination.resultId) :
    Tracked { s with
      nextOperation := s.nextOperation + 1
      workspaces := beginResultExportState destination.resultId s.nextOperation s.workspaces
      pending := (s.nextOperation, destination) :: s.pending
      formats
      submitted := (s.nextOperation, destination) :: s.submitted } where
  issued e he := by
    rcases List.mem_cons.mp he with rfl | he
    · exact Nat.lt_succ_self _
    · exact Nat.lt_succ_of_lt (h.issued e he)
  submitted := List.cons_subset_cons _ h.submitted
  operation d hd e he hop := by
    have old : ∀ e ∈ s.pending, e.1 ≠ s.nextOperation := fun e he =>
      Nat.ne_of_lt (h.issued e (h.submitted e he))
    rcases List.mem_cons.mp hd with rfl | hd <;> rcases List.mem_cons.mp he with rfl | he
    · rfl
    · exact absurd hop.symm (old e he)
    · exact absurd hop (old d hd)
    · exact h.operation d hd e he hop
  result d hd e he hresult := by
    rcases List.mem_cons.mp hd with rfl | hd <;> rcases List.mem_cons.mp he with rfl | he
    · rfl
    · exact absurd hresult.symm (hfree e he)
    · exact absurd hresult (hfree d hd)
    · exact h.result d hd e he hresult
  kept hd e he ha := by
    rcases List.mem_cons.mp he with rfl | he
    · exact List.mem_cons_self
    · exact List.mem_cons_of_mem _ (h.kept hd e he ha)
  committed r path hr := by
    obtain ⟨e, he, found⟩ := h.committed r path hr
    exact ⟨e, List.mem_cons_of_mem _ he, found⟩
  viewed w hw := by
    rcases mem_beginResultExportState hw with hw | ⟨hresult, hview⟩
    · exact Viewed.mono (s := s) (List.Subset.refl _) (List.subset_cons_self _ _) (h.viewed w hw)
    · refine ⟨by rw [hview, hresult], fun _ o ho => ?_⟩
      rw [hview] at ho
      cases ho
      exact ⟨_, List.mem_cons_self, rfl, hresult⟩

theorem Tracked.submitResultExportTo (h : s.Tracked) (destination : PendingExportDestination)
    (found : DestinationState) (accepted : Bool) :
    (s.submitResultExportTo destination found accepted).Tracked := by
  unfold ResultExports.submitResultExportTo
  split
  case isTrue => exact h
  case isFalse hfree =>
    dsimp only
    split
    · exact h.joins destination _ (by simpa using hfree)
    · exact h.follow rfl rfl rfl (Nat.le_succ _) (fun _ _ hr => hr) h.viewed

/-- Until the runtime shuts down, no view has to be reset before an export of its result
begins: a view that is at an export is at a pending one. -/
theorem Tracked.begins (h : s.Tracked) (hd : .runtimeShutdown ∉ s.heard) (hw : w ∈ s.workspaces)
    {r : ResultId} (hr : w.result = some r) (hfree : ∀ e ∈ s.pending, e.2.resultId ≠ r)
    (o : OperationId) :
    w.resultView.beginExport r o = some { w.resultView with pendingExport := some o } := by
  have hview : w.resultView.resultId = some r := (h.viewed w hw).resultId.trans hr
  have hidle : w.resultView.pendingExport = none := by
    cases hpe : w.resultView.pendingExport with
    | none => rfl
    | some o' =>
      obtain ⟨e, he, -, hresult⟩ := (h.viewed w hw).pending hd o' hpe
      rw [hr] at hresult
      exact absurd (Option.some.inj hresult).symm (hfree e he)
  simp [ResultViewState.beginExport, hview, hidle]

/-! ### Hearing -/

theorem Tracked.hears (h : s.Tracked) (event : ExportTerminal) :
    Tracked { s with heard := event :: s.heard } where
  issued := h.issued
  submitted := h.submitted
  operation := h.operation
  result := h.result
  kept hd e he ha :=
    h.kept (fun hm => hd (List.mem_cons_of_mem _ hm)) e he fun hans =>
      ha (hans.mono (List.subset_cons_self _ _))
  committed r path hr := by
    obtain ⟨e, he, hresult, hpath, hcom⟩ := h.committed r path hr
    exact ⟨e, he, hresult, hpath, hcom.mono (List.subset_cons_self _ _)⟩
  viewed w hw := (h.viewed w hw).mono (List.subset_cons_self _ _) (List.Subset.refl _)

theorem Tracked.shutsDown (h : s.Tracked) (hd : .runtimeShutdown ∈ s.heard) :
    Tracked { s with pending := [] } where
  issued := h.issued
  submitted := by simp
  operation := by simp
  result := by simp
  kept hn := absurd hd hn
  committed := h.committed
  viewed w hw := ⟨(h.viewed w hw).resultId, fun hn => absurd hd hn⟩

theorem Viewed.finishExport (h : s.Viewed w) (r : ResultId) (o : OperationId) :
    s.Viewed { w with resultView := w.resultView.finishExport r o } := by
  unfold ResultViewState.finishExport
  split
  · exact h
  · exact .idle h.resultId rfl

theorem finishExport_finished {view : ResultViewState} {r : ResultId} {o : OperationId}
    (h : (view.finishExport r o).pendingExport = some o) :
    (view.finishExport r o).resultId ≠ some r := by
  unfold ResultViewState.finishExport at h ⊢
  split at h
  case isTrue hother =>
    rw [if_pos hother]
    exact hother.resolve_right (not_not_intro h)
  case isFalse => cases h

/-- The answered export leaves, and no view that shows a result shows it any more: the views were
finished before. -/
theorem Tracked.leaves {event : ExportTerminal} {committed : Bool} (h : s.Tracked)
    (he : e ∈ s.pending) (hevent : event ∈ s.heard)
    (houtcome : event.outcome = some ⟨e.1, e.2.resultId, e.2.format, committed⟩)
    (hfinished : ∀ w ∈ s.workspaces, w.resultView.pendingExport = some e.1 →
      w.resultView.resultId ≠ some e.2.resultId) :
    Tracked { s with
      pending := s.pending.filter (·.1 ≠ e.1)
      committed :=
        if committed then Function.update s.committed e.2.resultId (some e.2.path)
        else s.committed } where
  issued := h.issued
  submitted d hd := h.submitted d (List.mem_of_mem_filter hd)
  operation d hd d' hd' := h.operation d (List.mem_of_mem_filter hd) d' (List.mem_of_mem_filter hd')
  result d hd d' hd' := h.result d (List.mem_of_mem_filter hd) d' (List.mem_of_mem_filter hd')
  kept hn d hd ha := by
    have hpending : d ∈ s.pending := h.kept hn d hd ha
    have hother : d.1 ≠ e.1 := by
      intro hop
      have hde : d = e := h.operation d hpending e he hop
      exact ha ⟨event, hevent, committed, hde ▸ houtcome⟩
    simpa using ⟨hpending, hother⟩
  committed r path hr := by
    cases committed with
    | false => exact h.committed r path hr
    | true =>
      by_cases hre : r = e.2.resultId
      · subst hre
        simp only [if_true, Function.update_self, Option.some.injEq] at hr
        exact ⟨e, h.submitted e he, rfl, hr, event, hevent, houtcome⟩
      · simp only [if_true, Function.update_of_ne hre] at hr
        exact h.committed r path hr
  viewed w hw := by
    refine ⟨(h.viewed w hw).resultId, fun hn o ho => ?_⟩
    obtain ⟨d, hd, rfl, hresult⟩ := (h.viewed w hw).pending hn o ho
    have hother : d.1 ≠ e.1 := by
      intro hop
      have hde : d = e := h.operation d hd e he hop
      subst hde
      exact hfinished w hw ho ((h.viewed w hw).resultId.trans hresult)
    exact ⟨d, by simpa using ⟨hd, hother⟩, rfl, hresult⟩

theorem Tracked.handleExportTerminal (h : s.Tracked) (event : ExportTerminal) :
    (s.handleExportTerminal event).Tracked := by
  have heard := h.hears event
  unfold ResultExports.handleExportTerminal
  dsimp only
  split
  case h_1 hnone =>
    refine heard.shutsDown ?_
    cases event with
    | runtimeShutdown => exact List.mem_cons_self
    | resultExported => cases hnone
    | resultExportFailed => cases hnone
  case h_2 operationId resultId format committed houtcome =>
    have finished : Tracked
        { s with
          workspaces := finishResultExportState resultId operationId s.workspaces
          formats := Function.update s.formats resultId (some format)
          heard := event :: s.heard } := by
      refine heard.follow rfl rfl rfl le_rfl (fun _ _ hr => hr) fun w hw => ?_
      obtain ⟨w', hw', rfl⟩ := List.mem_map.mp hw
      exact (heard.viewed w' hw').finishExport resultId operationId
    split
    case h_1 => exact finished
    case h_2 e hmatching =>
      obtain ⟨hfind, hsame⟩ := Option.filter_eq_some_iff.mp hmatching
      obtain ⟨rfl, rfl⟩ : e.2.resultId = resultId ∧ e.2.format = format := by simpa using hsame
      have hop : e.1 = operationId := by simpa using List.find?_some hfind
      subst hop
      refine finished.leaves (List.mem_of_find?_eq_some hfind) List.mem_cons_self houtcome ?_
      intro w hw ho
      obtain ⟨w', -, rfl⟩ := List.mem_map.mp hw
      exact finishExport_finished ho

/-! ### Every move -/

theorem Tracked.step (h : s.Tracked) (move : ExportMove) : (s.step move).Tracked := by
  have idle : ∀ key result, s.Viewed ⟨key, result, ⟨result, none⟩⟩ := fun _ _ => .idle rfl rfl
  cases move with
  | openWorkspace key =>
    simp only [ResultExports.step]
    split
    · exact h
    · refine h.shows fun w hw => ?_
      rcases List.mem_append.mp hw with hw | hw
      · exact h.viewed w hw
      · obtain rfl := List.mem_singleton.mp hw
        exact idle key none
  | closeWorkspace key => exact h.shows fun w hw => h.viewed w (List.mem_of_mem_filter hw)
  | rehash workspaces =>
    simp only [ResultExports.step]
    split
    case isTrue hperm =>
      exact h.shows fun w hw => h.viewed w ((List.isPerm_iff.mp hperm).mem_iff.mp hw)
    case isFalse => exact h
  | queryFinished key resultId =>
    exact h.atWorkspace key fun w _ => idle w.key (some resultId)
  | «show» key =>
    refine h.atWorkspace key fun w hw => ?_
    split
    case h_1 resultId hr =>
      rw [hw.synchronize hr]
      exact hw
    case h_2 => exact hw
  | otherOperation => exact h.follow rfl rfl rfl (Nat.le_succ _) (fun _ _ hr => hr) h.viewed
  | submit destination found accepted => exact h.submitResultExportTo destination found accepted
  | hear event => exact h.handleExportTerminal event
  | prune =>
    refine h.follow rfl rfl rfl le_rfl (fun r path hr => ?_) h.viewed
    simp only [ResultExports.step, pruneResultExportState] at hr
    split at hr
    · exact hr
    · cases hr

end

theorem tracked_run (moves : List ExportMove) : (run moves).Tracked := by
  have none_yet : Tracked {} := by constructor <;> simp
  exact List.foldlRecOn moves step none_yet fun _ h move _ => h.step move

/-- No move takes back a destination that was committed for a result that is shown or exported:
the file can still be revealed. -/
theorem committed_stays {s : ResultExports} {r : ResultId} (hr : r ∈ s.currentResults)
    (hc : s.committed r ≠ none) (move : ExportMove) : (s.step move).committed r ≠ none := by
  cases move with
  | openWorkspace | rehash =>
    simp only [step]
    split <;> exact hc
  | closeWorkspace | queryFinished | «show» | otherOperation => exact hc
  | submit destination found accepted =>
    simp only [step, submitResultExportTo]
    split
    · exact hc
    · split <;> exact hc
  | hear event =>
    simp only [step, handleExportTerminal]
    split
    · exact hc
    · split
      · exact hc
      · -- Only the result of the event gets another destination, and it gets one.
        split
        · simp only [Function.update_apply]
          split
          · exact Option.some_ne_none _
          · exact hc
        · exact hc
  | prune =>
    simp only [step, pruneResultExportState, if_pos hr]
    exact hc

/-- Whatever moves there were: an export that was accepted is kept until it is answered or the
runtime shuts down, and no two pending exports are of one result. A destination that can be
revealed is the one that was chosen for an export of its very result, which a terminal of this
export committed, and it stays while the result is shown or exported. An export that a view shows
is a pending one, of the result that its workspace shows; and a view whose result is not exported
begins an export as it is. -/
theorem exports_tracked (moves : List ExportMove) :
    (.runtimeShutdown ∉ (run moves).heard → ∀ e ∈ (run moves).submitted,
        ¬ (run moves).Answered e → e ∈ (run moves).pending) ∧
      (∀ d ∈ (run moves).pending, ∀ e ∈ (run moves).pending,
        d.2.resultId = e.2.resultId → d = e) ∧
      (∀ r path, (run moves).committed r = some path →
        (∃ e ∈ (run moves).submitted, e.2.resultId = r ∧ e.2.path = path ∧
          (run moves).CommittedTo e) ∧
        (r ∈ (run moves).currentResults → ∀ move, ((run moves).step move).committed r ≠ none)) ∧
      (.runtimeShutdown ∉ (run moves).heard → ∀ w ∈ (run moves).workspaces, ∀ o,
        w.resultView.pendingExport = some o →
          ∃ e ∈ (run moves).pending, e.1 = o ∧ w.result = some e.2.resultId) ∧
      (.runtimeShutdown ∉ (run moves).heard → ∀ w ∈ (run moves).workspaces, ∀ r,
        w.result = some r → (∀ e ∈ (run moves).pending, e.2.resultId ≠ r) → ∀ o,
          w.resultView.beginExport r o =
            some { w.resultView with pendingExport := some o }) := by
  have h : (run moves).Tracked := tracked_run moves
  refine ⟨h.kept, h.result, fun r path hpath => ⟨h.committed r path hpath, fun hr move => ?_⟩,
    fun hd w hw => (h.viewed w hw).pending hd, fun hd w hw r hr hfree o => ?_⟩
  · exact committed_stays hr (by rw [hpath]; exact Option.some_ne_none _) move
  · exact h.begins hd hw hr hfree o

/-- The second export of a result runs while the file of the first one can be revealed. -/
example :
    let key : WorkspaceKey := ⟨"p".toList, 1⟩
    let s := run [.openWorkspace key, .queryFinished key 7,
      .submit ⟨7, .json, ⟨"r.json".toList⟩⟩ .notFound true, .hear (.resultExported 1 7 .json),
      .submit ⟨7, .csv, ⟨"r.csv".toList⟩⟩ (.present true) true, .prune]
    s.committed 7 = some ⟨"r.json".toList⟩ ∧ s.pending.map (·.1) = [2] ∧
      s.workspaces.map (·.resultView.pendingExport) = [some 2] := by
  decide

end ResultExports

end Dbotter.Ui
