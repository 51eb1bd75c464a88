import Dbotter.Results.ExportFile

/-!
An export file is committed whole or not at all.

Until the rename the destination is what the others made of it; the rename replaces what the
policy allows by the whole encoding, and later the others have met that file only.
-/

namespace Dbotter.Results
open Dbotter.Utf8 Dbotter.Configuration Dbotter.Program

variable {φ ν : Type} {env : Environment} {initial : Option Entry} {content : Bytes}

/-! ## The contract -/

/-- The error is one of a file that is in place. -/
def ExportFileError.committed : ExportFileError → Bool
  | .committedDurabilityUnknown _ => true
  | _ => false

/-- The export has not touched the destination. -/
structure LeftAlone (env : Environment) (initial : Option Entry) (w : World) : Prop where
  commits : w.commits = []
  destination : w.destination = env.moved 0 w.clock initial

/-- The temporary file is removed, unless the system refused that: the removal is the last call of
an export. -/
def TempGone (env : Environment) (w : World) : Prop :=
  w.temp = none ∨ ∃ k, w.clock = k + 1 ∧ env.removeFails k = true

/-- What a policy lets an export replace. -/
def Replaceable (request : ExportResult φ ν) (confirmation : Option ConfirmedDestination)
    (replaced : Option Entry) : Prop :=
  match request.overwritePolicy with
  | .denyOverwrite => replaced = none
  | .replaceConfirmed => ∃ confirmed content, confirmation = some confirmed ∧
      confirmed.path == request.destination ∧ replaced = some (.regular confirmed.identity content)

/-- The one commit of an export, seen from a later world. -/
structure Published (env : Environment) (crates : Crates φ ν) (request : ExportResult φ ν)
    (confirmation : Option ConfirmedDestination) (initial : Option Entry) (c : Commit)
    (w : World) : Prop where
  commits : w.commits = [c]
  clock : c.clock ≤ w.clock
  replaced : c.replaced = env.moved 0 c.clock initial
  allowed : Replaceable request confirmation c.replaced
  complete : writeExport crates request.snapshot request.format = .ok c.content
  destination : w.destination =
    env.moved c.clock (w.clock - c.clock) (some (.regular c.identity c.content))

def ExportContract (env : Environment) (crates : Crates φ ν) (request : ExportResult φ ν)
    (confirmation : Option ConfirmedDestination) (initial : Option Entry)
    (result : Except ExportFileError ExportFileOutcome) (w : World) : Prop :=
  match result with
  | .ok outcome => ∃ c, Published env crates request confirmation initial c w ∧
      outcome = ⟨request.format, request.overwritePolicy, request.snapshot.rows.length,
        c.content.length⟩
  | .error e =>
      if e.committed then ∃ c, Published env crates request confirmation initial c w
      else LeftAlone env initial w ∧ TempGone env w

/-! ## Time -/

theorem Environment.moved_pass (env : Environment) {start now : Nat} (h : start ≤ now)
    (entry : Option Entry) : env.moved start (now + 1 - start) entry =
      env.competitor now (env.moved start (now - start) entry) := by
  have hsucc : now + 1 - start = (now - start) + 1 := by omega
  have hnow : start + (now - start) = now := by omega
  rw [hsucc, Environment.moved, hnow]

theorem LeftAlone.pass {w : World} (h : LeftAlone env initial w) :
    LeftAlone env initial (env.pass w) := by
  refine ⟨h.commits, ?_⟩
  have hmoved := env.moved_pass (Nat.zero_le w.clock) initial
  rw [Nat.sub_zero, Nat.sub_zero, ← h.destination] at hmoved
  exact hmoved.symm

theorem Published.pass {crates : Crates φ ν} {request : ExportResult φ ν}
    {confirmation : Option ConfirmedDestination} {c : Commit} {w : World}
    (h : Published env crates request confirmation initial c w) :
    Published env crates request confirmation initial c (env.pass w) := by
  refine ⟨h.commits, Nat.le_succ_of_le h.clock, h.replaced, h.allowed, h.complete, ?_⟩
  have hmoved := env.moved_pass h.clock (some (.regular c.identity c.content))
  rw [← h.destination] at hmoved
  exact hmoved.symm

/-- Nothing is done yet. -/
def Untouched (env : Environment) (initial : Option Entry) (w : World) : Prop :=
  LeftAlone env initial w ∧ w.temp = none

/-- The temporary file holds `content`. -/
def Holds (env : Environment) (initial : Option Entry) (content : Bytes) (w : World) : Prop :=
  LeftAlone env initial w ∧ w.temp = some content

theorem Untouched.pass {w : World} (h : Untouched env initial w) :
    Untouched env initial (env.pass w) := ⟨h.1.pass, h.2⟩

theorem Holds.pass {w : World} (h : Holds env initial content w) :
    Holds env initial content (env.pass w) := ⟨h.1.pass, h.2⟩

section
variable {ε α : Type} {P : World → Prop} {Q : Except ε α → World → Prop}

/-- A step that only asks for an answer keeps what time keeps. -/
theorem tick_bind {f : Nat → Prog World ε α} (hP : ∀ w, P w → P (env.pass w))
    (hf : ∀ now, Ensures P (f now) Q) : Ensures P (tick env >>= f) Q :=
  fun w hw => hf w.clock _ (hP w hw)

theorem osCall_ensures {e : ε} {Q : Except ε Unit → World → Prop}
    (hP : ∀ w, P w → P (env.pass w)) (he : ∀ w, P w → Q (.error e) w)
    (hok : ∀ w, P w → Q (.ok ()) w) : Ensures P (osCall env e) Q :=
  tick_bind hP fun _ => .ite (fun _ => .fail he) fun _ => .pure hok

theorem poll_bind {f : Bool → Prog World ε α} (hP : ∀ w, P w → P (env.pass w))
    (hf : ∀ cancelled, Ensures P (f cancelled) Q) : Ensures P (poll env >>= f) Q :=
  .bind (fun _ => P) (tick_bind hP fun _ => .pure fun _ h => h) hf

end

/-! ## Filling the temporary file -/

/-- What a step of the encoder leaves when it fails: the others' destination. -/
def Fills (env : Environment) (initial : Option Entry) (content : Bytes) :
    Except ExportEncodeError Unit → World → Prop
  | .ok _ => Holds env initial content
  | .error _ => LeftAlone env initial

theorem streamingWrite_fills (buffer : Bytes) (interruptions : Nat) :
    Ensures (Holds env initial content) (streamingWrite env buffer interruptions) fun
      | .ok written => Holds env initial (content ++ buffer.take written)
      | .error _ => LeftAlone env initial := by
  have hcancel : Ensures (Holds env initial content)
      (.fail .cancelled : Prog World ExportEncodeError Nat) fun
      | .ok written => Holds env initial (content ++ buffer.take written)
      | .error _ => LeftAlone env initial := .fail fun _ h => h.1
  induction interruptions with
  | zero =>
      refine poll_bind (fun _ h => h.pass) fun cancelled => .ite (fun _ => hcancel) fun _ => ?_
      refine tick_bind (fun _ h => h.pass) fun now => ?_
      cases env.write now with
      | failed => exact .fail fun _ h => h.1
      | wrote count =>
          refine .bind (fun _ => Holds env initial (content ++
            buffer.take (min count (min buffer.length (4 * 1024))))) (.modify ?_) fun _ =>
              .pure fun _ h => h
          rintro w ⟨halone, htemp⟩
          exact ⟨⟨halone.commits, halone.destination⟩, by rw [htemp]; rfl⟩
  | succ interruptions ih =>
      exact poll_bind (fun _ h => h.pass) fun cancelled => .ite (fun _ => hcancel) fun _ => ih

theorem writeAllTo_fills (buffer content : Bytes) :
    Ensures (Holds env initial content) (writeAllTo env buffer)
      (Fills env initial (content ++ buffer)) := by
  induction hlen : buffer.length using Nat.strong_induction_on generalizing buffer content with
  | _ length ih =>
      rw [writeAllTo]
      by_cases hne : buffer = []
      · rw [dif_pos hne, hne, List.append_nil]
        exact .pure fun _ h => h
      · rw [dif_neg hne]
        refine .get fun w hw => ?_
        refine .bind (fun written => Holds env initial (content ++ buffer.take written))
          (((streamingWrite_fills buffer _).strengthen fun _ h => h ▸ hw).weaken ?_) fun written => ?_
        · rintro (e | written) w h
          · exact h
          · exact h
        · by_cases hzero : written = 0
          · rw [dif_pos hzero]
            exact .fail fun _ h => h.1
          · rw [dif_neg hzero]
            have hpos := List.length_pos_iff.mpr hne
            have hrest := ih (buffer.drop written).length (by rw [List.length_drop]; omega)
              (buffer.drop written) (content ++ buffer.take written) rfl
            rwa [List.append_assoc, List.take_append_drop] at hrest

theorem writePieces_fills (pieces : List Text) (content : Bytes) :
    Ensures (Holds env initial content) (writePieces env pieces)
      (Fills env initial (content ++ bytes pieces.flatten)) := by
  induction pieces generalizing content with
  | nil =>
      rw [List.flatten_nil, bytes_nil, List.append_nil]
      exact .pure fun _ h => h
  | cons piece pieces ih =>
      refine .bind (fun _ => Holds env initial (content ++ bytes piece))
        ((writeAllTo_fills (bytes piece) content).weaken ?_) fun _ => ?_
      · rintro (e | _) w h
        · exact h
        · exact h
      · have hrest := ih (content ++ bytes piece)
        rwa [List.append_assoc, ← bytes_append, ← List.flatten_cons] at hrest

/-- The encoder leaves the whole encoding in the file, or fails. -/
theorem writeExportWithCancel_fills (crates : Crates φ ν) (request : ExportResult φ ν) :
    Ensures (Holds env initial [])
      (writeExportWithCancel env (encoded crates request.snapshot request.format)) fun
      | .ok _ => fun w => ∃ content, Holds env initial content w ∧
          writeExport crates request.snapshot request.format = .ok content
      | .error _ => LeftAlone env initial := by
  let encoder := encoded crates request.snapshot request.format
  refine .bind (fun _ => Holds env initial (bytes encoder.pieces.flatten))
    ((writePieces_fills encoder.pieces []).weaken ?_) fun _ => .ofExcept fun w hw => ?_
  · rintro (e | _) w h
    · exact h
    · exact h
  · cases hresult : encoder.result with
    | error e => exact hw.1
    | ok _ =>
        refine ⟨_, hw, ?_⟩
        rw [writeExport]
        rw [hresult]

/-! ## The commit -/

/-- A step before the commit: `Q` when it succeeds and `E` when it fails. -/
def OrRejects {α : Type} (E : World → Prop) (Q : α → World → Prop) :
    Except ExportFileError α → World → Prop
  | .ok a => Q a
  | .error e => fun w => e.committed = false ∧ E w

section
variable {crates : Crates φ ν} {request : ExportResult φ ν}
  {confirmation : Option ConfirmedDestination} {α β : Type} {P E : World → Prop}

theorem OrRejects.bind {m : ExportM α} {f : α → ExportM β} {R : α → World → Prop}
    {Q : β → World → Prop} (hm : Ensures P m (OrRejects E R))
    (hf : ∀ a, Ensures (R a) (f a) (OrRejects E Q)) :
    Ensures P (m >>= f) (OrRejects E Q) := by
  refine .bind R (hm.weaken ?_) hf
  rintro (e | a) w h
  · exact h
  · exact h

theorem OrRejects.weaken {m : ExportM α} {Q Q' : α → World → Prop}
    (hm : Ensures P m (OrRejects E Q)) (hQ : ∀ a w, Q a w → Q' a w) :
    Ensures P m (OrRejects E Q') := by
  refine Ensures.weaken hm ?_
  rintro (e | a) w h
  · exact h
  · exact hQ a w h

theorem OrRejects.fail {e : ExportFileError} {Q : α → World → Prop} (he : e.committed = false)
    (hP : ∀ w, P w → E w) :
    Ensures P (.fail e) (OrRejects E Q) :=
  .fail fun w hw => ⟨he, hP w hw⟩

/-- A look at the destination. -/
theorem symlinkMetadata_bind {f : Metadata → ExportM α} {Q : α → World → Prop}
    (hP : ∀ w, P w → P (env.pass w))
    (hf : ∀ metadata, Ensures
      (fun w => P w ∧ (metadata = .failed ∨ metadata = lookAt w.destination)) (f metadata)
      (OrRejects E Q)) :
    Ensures P (symlinkMetadata env >>= f) (OrRejects E Q) := by
  have hlook : Ensures P (symlinkMetadata env) (OrRejects E fun metadata w =>
      P w ∧ (metadata = .failed ∨ metadata = lookAt w.destination)) := by
    refine tick_bind hP fun now => .ite (fun _ => .pure fun w h => ⟨h, .inl rfl⟩) fun _ => ?_
    refine .get fun w hw => .pure ?_
    rintro _ rfl
    exact ⟨hw, .inr rfl⟩
  exact OrRejects.bind hlook hf

/-- `content` is in place. -/
def Committed (env : Environment) (crates : Crates φ ν) (request : ExportResult φ ν)
    (confirmation : Option ConfirmedDestination) (initial : Option Entry) (content : Bytes)
    (w : World) : Prop :=
  ∃ c, Published env crates request confirmation initial c w ∧ c.content = content

/-- The rename publishes the temporary file over an entry that may be replaced. -/
theorem rename_publishes
    (hcomplete : writeExport crates request.snapshot request.format = .ok content) :
    Ensures (fun w => Holds env initial content w ∧
      Replaceable request confirmation w.destination) (rename env)
      (OrRejects (LeftAlone env initial) fun _ =>
        Committed env crates request confirmation initial content) := by
  refine .get fun w hw => ?_
  obtain ⟨⟨halone, htemp⟩, hallowed⟩ := hw
  rw [htemp]
  refine .ite (fun _ => .fail ?_) fun _ => .modify ?_
  · rintro _ rfl
    exact ⟨rfl, halone⟩
  · rintro w rfl
    refine ⟨⟨w.clock, w.destination, env.tempIdentity content, content⟩, ⟨?_, le_rfl,
      halone.destination, hallowed, hcomplete, ?_⟩, rfl⟩
    · show w.commits ++ _ = _
      rw [halone.commits, List.nil_append]
    · show _ = env.moved w.clock (w.clock - w.clock) _
      rw [Nat.sub_self]
      rfl

theorem renameNoReplace_publishes (hpolicy : request.overwritePolicy = .denyOverwrite)
    (hcomplete : writeExport crates request.snapshot request.format = .ok content) :
    Ensures (Holds env initial content) (renameNoReplace env)
      (OrRejects (LeftAlone env initial) fun _ =>
        Committed env crates request confirmation initial content) := by
  refine tick_bind (fun _ h => h.pass) fun _ => .get fun w hw => .ite (fun _ => .fail ?_) ?_
  · rintro _ rfl
    exact ⟨rfl, hw.1⟩
  · intro hnone
    refine (rename_publishes hcomplete).strengthen ?_
    rintro _ rfl
    refine ⟨hw, ?_⟩
    rw [Replaceable, hpolicy]
    simpa using hnone

/-- A confirmed destination stays as it was checked: the rename comes at once. -/
theorem verifyConfirmedDestination_allows {confirmed : ConfirmedDestination}
    (hpolicy : request.overwritePolicy = .replaceConfirmed) :
    Ensures (Holds env initial content)
      (verifyConfirmedDestination env request.destination confirmed)
      (OrRejects (LeftAlone env initial) fun _ w => Holds env initial content w ∧
        Replaceable request (some confirmed) w.destination) := by
  refine .ite (fun _ => OrRejects.fail rfl fun _ h => h.1) fun hpath => ?_
  refine symlinkMetadata_bind (fun _ h => h.pass) fun metadata => ?_
  have hchanged : Ensures (fun w => Holds env initial content w ∧
      (metadata = .failed ∨ metadata = lookAt w.destination))
      (.fail .destinationChanged : ExportM Unit) (OrRejects (LeftAlone env initial) fun _ w =>
        Holds env initial content w ∧ Replaceable request (some confirmed) w.destination) :=
    OrRejects.fail rfl fun _ h => h.1.1
  cases metadata with
  | found entry =>
      cases entry with
      | regular identity old =>
          refine .ite (fun hidentity => .pure ?_) fun _ => hchanged
          rintro w ⟨hholds, hlook⟩
          have hentry : w.destination = some (.regular identity old) := by
            cases hdestination : w.destination with
            | none => simp [hdestination, lookAt] at hlook
            | some entry => simpa [hdestination, lookAt, eq_comm] using hlook
          refine ⟨hholds, ?_⟩
          rw [Replaceable, hpolicy]
          exact ⟨confirmed, old, rfl, by simpa [bne] using hpath, hidentity ▸ hentry⟩
      | other identity => exact hchanged
  | notFound => exact hchanged
  | failed => exact hchanged

theorem commitDestination_publishes
    (hcomplete : writeExport crates request.snapshot request.format = .ok content) :
    Ensures (Holds env initial content) (commitDestination env request confirmation)
      (OrRejects (LeftAlone env initial) fun _ =>
        Committed env crates request confirmation initial content) := by
  unfold commitDestination
  cases hpolicy : request.overwritePolicy with
  | denyOverwrite =>
      refine .bind (fun renamed => OrRejects (LeftAlone env initial) (fun _ =>
        Committed env crates request confirmation initial content) renamed)
        (.attempt (renameNoReplace_publishes hpolicy hcomplete)) fun renamed => ?_
      cases renamed with
      | ok _ => exact .pure fun _ h => h
      | error source =>
          refine symlinkMetadata_bind (fun _ h => ⟨h.1, h.2.pass⟩) fun metadata => ?_
          rcases metadata with (⟨_, _⟩ | _) | _ | _
          all_goals exact OrRejects.fail rfl fun w h => h.1.2
  | replaceConfirmed =>
      cases confirmation with
      | none => exact OrRejects.fail rfl fun _ h => h.1
      | some confirmed =>
          exact OrRejects.bind (verifyConfirmedDestination_allows hpolicy) fun _ =>
            rename_publishes hcomplete

/-! ## The whole export -/

theorem precommitFault_keeps {stage : ExportFileStage} (hP : ∀ w, P w → P (env.pass w))
    (hE : ∀ w, P w → E w) : Ensures P (precommitFault env stage) (OrRejects E fun _ => P) :=
  tick_bind hP fun _ => .ite (fun _ => OrRejects.fail rfl hE) fun _ => .pure fun _ h => h

theorem osCall_orRejects {e : ExportFileError} (he : e.committed = false)
    (hP : ∀ w, P w → P (env.pass w)) (hE : ∀ w, P w → E w) :
    Ensures P (osCall env e) (OrRejects E fun _ => P) :=
  tick_bind hP fun _ => .ite (fun _ => OrRejects.fail he hE) fun _ => .pure fun _ h => h

/-- The destination is left alone and the temporary file is gone. -/
def Withdrawn (env : Environment) (initial : Option Entry) (w : World) : Prop :=
  LeftAlone env initial w ∧ TempGone env w

theorem Untouched.withdrawn {w : World} (h : Untouched env initial w) :
    Withdrawn env initial w := ⟨h.1, .inl h.2⟩

theorem removeTemp_withdraws {e : ExportFileError} (he : e.committed = false)
    {Q : α → World → Prop} : Ensures (LeftAlone env initial)
      (do removeTemp env; .fail e : ExportM α) (OrRejects (Withdrawn env initial) Q) := by
  refine .bind (fun _ => Withdrawn env initial) ?_ fun _ => OrRejects.fail he fun _ h => h
  intro w hw
  by_cases hfails : env.removeFails w.clock = true
  · have hrun : removeTemp env w = (.ok (), env.pass w) := by
      simp [removeTemp, bind, Prog.bind, tick, hfails, pure, Prog.pure]
    rw [hrun]
    exact ⟨hw.pass, .inr ⟨w.clock, rfl, hfails⟩⟩
  · have hrun : removeTemp env w = (.ok (), { env.pass w with temp := none }) := by
      simp [removeTemp, bind, Prog.bind, tick, hfails, Prog.modify]
    rw [hrun]
    exact ⟨⟨hw.pass.commits, hw.pass.destination⟩, .inl rfl⟩

theorem validateCommitPolicy_keeps :
    Ensures (Untouched env initial) (validateCommitPolicy env request confirmation)
      (OrRejects (Withdrawn env initial) fun _ => Untouched env initial) := by
  unfold validateCommitPolicy
  cases request.overwritePolicy with
  | denyOverwrite =>
      refine .ite (fun _ => OrRejects.fail rfl fun _ h => h.withdrawn) fun _ => ?_
      refine symlinkMetadata_bind (fun _ h => h.pass) fun metadata => ?_
      rcases metadata with (⟨_, _⟩ | _) | _ | _
      case notFound => exact .pure fun _ h => h.1
      all_goals exact OrRejects.fail rfl fun _ h => h.1.withdrawn
  | replaceConfirmed =>
      cases confirmation with
      | none => exact OrRejects.fail rfl fun _ h => h.withdrawn
      | some confirmed =>
          exact .ite (fun _ => .pure fun _ h => h) fun _ =>
            OrRejects.fail rfl fun _ h => h.withdrawn

theorem createPrivateTemp_holds (rounds : Nat) :
    Ensures (Untouched env initial) (createPrivateTemp env rounds)
      (OrRejects (Withdrawn env initial) fun _ => Holds env initial []) := by
  induction rounds with
  | zero => exact OrRejects.fail rfl fun _ h => h.withdrawn
  | succ rounds ih =>
      have hcall : Ensures (Untouched env initial) (osCall env (.notCommitted .tempCreated))
          (OrRejects (Withdrawn env initial) fun _ => Untouched env initial) :=
        osCall_orRejects rfl (fun _ h => h.pass) fun _ h => h.withdrawn
      refine OrRejects.bind hcall fun _ => tick_bind (fun _ h => h.pass) fun now =>
        .ite (fun _ => ih) fun _ => OrRejects.bind hcall fun _ => ?_
      refine .bind (fun _ => Holds env initial []) (.modify fun w h =>
        ⟨⟨h.1.commits, h.1.destination⟩, rfl⟩) fun _ => ?_
      refine .bind (fun permissions => OrRejects (LeftAlone env initial)
        (fun _ => Holds env initial []) permissions) (.attempt (osCall_orRejects rfl
          (fun _ h => h.pass) fun _ h => h.1)) fun permissions => ?_
      cases permissions with
      | ok _ => exact .pure fun _ h => h
      | error source =>
          intro w hw
          exact removeTemp_withdraws hw.1 w hw.2

theorem fillAndCommit_commits :
    Ensures (Holds env initial []) (fillAndCommit env crates request confirmation)
      (OrRejects (LeftAlone env initial) fun bytesWritten w => ∃ content,
        Committed env crates request confirmation initial content w ∧
          bytesWritten = content.length) := by
  have hfault : ∀ content stage, Ensures (Holds env initial content) (precommitFault env stage)
      (OrRejects (LeftAlone env initial) fun _ => Holds env initial content) :=
    fun _ _ => precommitFault_keeps (fun _ h => h.pass) fun _ h => h.1
  have hcall : ∀ content stage, Ensures (Holds env initial content)
      (osCall env (.notCommitted stage))
      (OrRejects (LeftAlone env initial) fun _ => Holds env initial content) :=
    fun _ _ => osCall_orRejects rfl (fun _ h => h.pass) fun _ h => h.1
  refine OrRejects.bind (hfault [] _) fun _ => ?_
  have hencode : Ensures (Holds env initial [])
      ((writeExportWithCancel env (encoded crates request.snapshot request.format)).mapError
        encodeFailure) (OrRejects (LeftAlone env initial) fun _ w => ∃ content,
          Holds env initial content w ∧
            writeExport crates request.snapshot request.format = .ok content) := by
    refine .mapError ((writeExportWithCancel_fills crates request).weaken ?_)
    rintro (e | _) w h
    · cases e <;> exact ⟨rfl, h⟩
    · exact h
  refine OrRejects.bind hencode fun _ w ⟨content, hholds, hcomplete⟩ => ?_
  refine (?_ : Ensures (Holds env initial content) _ (OrRejects (LeftAlone env initial) _)) w hholds
  refine OrRejects.bind (hfault content _) fun _ => OrRejects.bind (hcall content _) fun _ => ?_
  refine OrRejects.bind (hfault content _) fun _ => OrRejects.bind (hcall content _) fun _ => ?_
  refine OrRejects.bind (hfault content _) fun _ => OrRejects.bind (hcall content _) fun _ => ?_
  refine .get fun w' hw' => ?_
  have hlength : (w'.temp.getD []).length = content.length := by rw [hw'.2, Option.getD_some]
  rw [hlength]
  refine (?_ : Ensures (Holds env initial content) _ _).strengthen fun _ h => h ▸ hw'
  refine poll_bind (fun _ h => h.pass) fun cancelled => .ite (fun _ => ?_) fun _ => ?_
  · exact OrRejects.fail rfl fun _ h => h.1
  · refine OrRejects.bind (hfault content _) fun _ => ?_
    refine OrRejects.bind (commitDestination_publishes hcomplete) fun _ => .pure ?_
    exact fun _ h => ⟨content, h, rfl⟩

theorem withTempCleanup_withdraws {body : ExportM α} {Q : α → World → Prop}
    (hbody : Ensures P body (OrRejects (LeftAlone env initial) Q)) :
    Ensures P (withTempCleanup env body) (OrRejects (Withdrawn env initial) Q) := by
  refine .bind (fun result => OrRejects (LeftAlone env initial) Q result) (.attempt hbody)
    fun result => ?_
  cases result with
  | ok a => exact .pure fun _ h => h
  | error source =>
      intro w hw
      exact removeTemp_withdraws hw.1 w hw.2

/-- A step behind the commit: its error says that the file is in place. -/
def OrReports (P : World → Prop) : Except ExportFileError Unit → World → Prop
  | .ok _ => P
  | .error e => fun w => e.committed = true ∧ P w

theorem OrReports.bind {m : ExportM Unit} {f : Unit → ExportM Unit}
    (hm : Ensures P m (OrReports P)) (hf : Ensures P (f ()) (OrReports P)) :
    Ensures P (m >>= f) (OrReports P) := by
  refine .bind (fun _ => P) (hm.weaken ?_) fun _ => hf
  rintro (e | _) w h
  · exact h
  · exact h

theorem syncDirectory_reports (hP : ∀ w, P w → P (env.pass w)) :
    Ensures P (syncDirectory env) (OrReports P) := by
  have hfault : ∀ stage, Ensures P (postcommitFault env stage) (OrReports P) := fun stage =>
    tick_bind hP fun _ => .ite (fun _ => .fail fun w h => ⟨rfl, h⟩) fun _ => .pure fun w h => h
  have hcall : Ensures P
      (osCall env (.committedDurabilityUnknown .beforeDirectorySync)) (OrReports P) :=
    osCall_ensures hP (fun _ h => ⟨rfl, h⟩) fun _ h => h
  exact OrReports.bind (hfault _) (OrReports.bind (hfault _) (OrReports.bind hcall (hfault _)))

end

theorem LeftAlone.start (env : Environment) (initial : Option Entry) :
    Untouched env initial { destination := initial } := ⟨⟨rfl, rfl⟩, rfl⟩

theorem export_commits (env : Environment) (crates : Crates φ ν) (request : ExportResult φ ν)
    (confirmation : Option ConfirmedDestination) (initial : Option Entry) :
    let run := exportResultToFileWithFaults env crates request confirmation
      { destination := initial }
    ExportContract env crates request confirmation initial run.1 run.2 := by
  have hbind : ∀ {α : Type} {m : ExportM α} {f : α → ExportM ExportFileOutcome}
      {P : World → Prop} {R : α → World → Prop},
      Ensures P m (OrRejects (Withdrawn env initial) R) →
      (∀ a, Ensures (R a) (f a) (ExportContract env crates request confirmation initial)) →
      Ensures P (m >>= f) (ExportContract env crates request confirmation initial) := by
    intro α m f P R hm hf
    refine .bind R (hm.weaken ?_) hf
    rintro (e | a) w h
    · exact (if_neg (by simp [h.1])).mpr h.2
    · exact h
  refine (?_ : Ensures (Untouched env initial) _ (ExportContract env crates request confirmation
    initial)) _ (LeftAlone.start env initial)
  refine .ite (fun _ => .fail fun w h => ?_) fun _ => ?_
  · exact h.withdrawn
  refine hbind validateCommitPolicy_keeps fun _ => hbind (createPrivateTemp_holds 32) fun _ => ?_
  refine hbind (withTempCleanup_withdraws fillAndCommit_commits) fun bytesWritten => ?_
  refine fun w ⟨content, hcommitted, hlength⟩ => ?_
  refine (?_ : Ensures (Committed env crates request confirmation initial content) _ _) w hcommitted
  have hpass : ∀ w, Committed env crates request confirmation initial content w →
      Committed env crates request confirmation initial content (env.pass w) :=
    fun w ⟨c, hc, hcontent⟩ => ⟨c, hc.pass, hcontent⟩
  refine .bind (fun _ => Committed env crates request confirmation initial content)
    ((syncDirectory_reports hpass).weaken ?_) fun _ => .pure ?_
  · rintro (e | _) w h
    · obtain ⟨he, c, hc, -⟩ := h
      exact (if_pos he).mpr ⟨c, hc⟩
    · exact h
  · rintro w ⟨c, hc, rfl⟩
    exact ⟨c, hc, by rw [hlength]⟩

/-! ## The destination at the return -/

/-- The contract of a file system that is at rest when the export returns. -/
def ExportHolds (env : Environment) (crates : Crates φ ν) (request : ExportResult φ ν)
    (initial : Option Entry) (result : Except ExportFileError ExportFileOutcome) (w : World) :
    Prop :=
  let complete := ∃ identity content,
    writeExport crates request.snapshot request.format = .ok content ∧
      w.destination = some (.regular identity content)
  match result with
  | .ok _ => complete
  | .error e => if e.committed then complete else LeftAlone env initial w ∧ w.temp = none

/-- Nothing fails, and the others remove the destination whenever they can. -/
def sabotage : Environment where
  competitor := fun _ _ => none
  isCancelled := fun _ => false
  faults := fun _ => false
  osFails := fun _ => false
  nameTaken := fun _ => false
  interruptions := fun _ => 0
  write := fun _ => .wrote 4096
  renameFails := false
  removeFails := fun _ => true
  tempIdentity := fun content => ⟨1, 1, content.length, 0, 0⟩

def oneColumnExport : ExportResult Empty Empty where
  resultId := oneColumnResult.provenance.resultId
  snapshot := oneColumnResult
  format := .tsv
  destination := ⟨"out".toList⟩
  overwritePolicy := .denyOverwrite

/-- The others may remove an exported file before the export returns, and the system may keep
the temporary file of a cancelled one. -/
theorem export_destination_lost :
    let cancelling := { sabotage with isCancelled := fun _ => true }
    let run := exportResultToFileWithFaults sabotage bareCrates oneColumnExport none
      { destination := none }
    let cancelled := exportResultToFileWithFaults cancelling bareCrates oneColumnExport none
      { destination := none }
    ¬ ExportHolds sabotage bareCrates oneColumnExport none run.1 run.2 ∧
      ¬ ExportHolds cancelling bareCrates oneColumnExport none cancelled.1 cancelled.2 := by
  intro cancelling run cancelled
  have hrun : run.1 = .ok ⟨.tsv, .denyOverwrite, 2, 17⟩ ∧ run.2.destination = none := by
    decide +kernel
  have hcancelled : cancelled.1 = .error .cancelled ∧ cancelled.2.temp = some [] := by
    decide +kernel
  constructor
  · simp only [ExportHolds, hrun.1]
    rintro ⟨identity, content, -, hdestination⟩
    rw [hrun.2] at hdestination
    cases hdestination
  · simp only [ExportHolds, hcancelled.1]
    rintro ⟨-, htemp⟩
    rw [hcancelled.2] at htemp
    cases htemp

end Dbotter.Results
