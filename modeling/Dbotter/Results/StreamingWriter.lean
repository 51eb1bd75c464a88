import Dbotter.Results.Tabular

/-!
The writer behind an export, from `src/export.rs`.

Before every write it asks whether the export is cancelled, and it hands on at most 4 KiB at a
time. What the inner writer has accepted is at every moment a prefix of the encoding.
-/

namespace Dbotter.Results.Streaming
open Dbotter.Utf8

/-! ## The writer -/

/-- What the inner writer makes of one write. -/
inductive IoAnswer
  | accepts (count : Nat)
  | interrupted
  | fails
  deriving DecidableEq, Repr

/-- What one `StreamingWriter::write` meets: the answer of `is_cancelled`, and the answer of the
inner writer if the write gets so far. -/
structure Turn where
  isCancelled : Bool
  answer : IoAnswer
  deriving DecidableEq, Repr

/-- The kinds of `io::Error` that are told apart. -/
inductive IoError
  | interrupted
  | writeZero
  | other
  deriving DecidableEq, Repr

/-- Why a program over the writer stops: by an error, or because it still waits for an answer. -/
inductive Stop
  | waiting
  | io (error : IoError)
  deriving DecidableEq, Repr

structure StreamingWriter where
  /-- The answers to come. -/
  schedule : List Turn
  /-- The bytes that the inner writer has accepted. -/
  accepted : List UInt8 := []
  /-- How many bytes each inner write was handed. -/
  offered : List Nat := []
  /-- The answers of `is_cancelled` so far. -/
  polls : List Bool := []
  cancelled : Bool := false
  deriving DecidableEq, Repr

def streamChunkBytes : Nat := 4 * 1024

namespace StreamingWriter

/-- The poll before a write. -/
def polled (writer : StreamingWriter) (schedule : List Turn) (answer : Bool) : StreamingWriter :=
  { writer with schedule, polls := writer.polls ++ [answer] }

def write (writer : StreamingWriter) (buffer : List UInt8) :
    Except Stop Nat × StreamingWriter :=
  match writer.schedule with
  | [] => (.error .waiting, writer)
  | turn :: schedule =>
      let writer := writer.polled schedule turn.isCancelled
      if turn.isCancelled then (.error (.io .other), { writer with cancelled := true })
      else
        let chunkLen := min buffer.length streamChunkBytes
        let writer := { writer with offered := writer.offered ++ [chunkLen] }
        match turn.answer with
        | .accepts count =>
            let accepted := min count chunkLen
            (.ok accepted, { writer with accepted := writer.accepted ++ buffer.take accepted })
        | .interrupted => (.error (.io .interrupted), writer)
        | .fails => (.error (.io .other), writer)

theorem length_schedule_write (writer : StreamingWriter) (buffer : List UInt8) :
    (writer.write buffer).1 = .error .waiting ∨
      (writer.write buffer).2.schedule.length < writer.schedule.length := by
  unfold write
  cases writer.schedule with
  | nil => exact .inl rfl
  | cons turn schedule =>
    refine .inr ?_
    dsimp only
    split
    · exact Nat.lt_succ_self _
    · split <;> exact Nat.lt_succ_self _

/-- `write_all`: it goes on after an interruption and gives up on a write of no bytes. -/
def writeAll (writer : StreamingWriter) (buffer : List UInt8) : Except Stop Unit × StreamingWriter :=
  if buffer.isEmpty then (.ok (), writer)
  else
    match _hwrite : writer.write buffer with
    | (.ok 0, after) => (.error (.io .writeZero), after)
    | (.ok (count + 1), after) => writeAll after (buffer.drop (count + 1))
    | (.error (.io .interrupted), after) => writeAll after buffer
    | (.error stop, after) => (.error stop, after)
termination_by writer.schedule.length
decreasing_by
  all_goals
    have hless := length_schedule_write writer buffer
    rw [_hwrite] at hless
    simpa using hless

/-- The pieces of an encoder, one `write_all` after another. -/
def writePieces (writer : StreamingWriter) : List Text → Except Stop Unit × StreamingWriter
  | [] => (.ok (), writer)
  | piece :: pieces =>
      match writer.writeAll (bytes piece) with
      | (.ok (), writer) => writer.writePieces pieces
      | (.error stop, writer) => (.error stop, writer)

end StreamingWriter

section
variable {φ ν : Type} (crates : Crates φ ν)

/-- What becomes of a run over the pieces: the flag of the writer comes before everything else.
There is no result while the writer waits. -/
def exportResult (encoder : Except ExportEncodeError Unit) (cancelled : Bool) :
    Except Stop Unit → Option (Except ExportEncodeError Unit)
  | .ok () => some (if cancelled then .error .cancelled else encoder)
  | .error (.io _) => some (if cancelled then .error .cancelled else .error .io)
  | .error .waiting => none

/-- `write_export_with_cancel` over a new writer. -/
def writeExportWithCancel (snapshot : ResultSnapshot φ ν) (format : ExportFormat)
    (schedule : List Turn) : Option (Except ExportEncodeError Unit) × StreamingWriter :=
  let encoder := encoded crates snapshot format
  let (written, writer) := StreamingWriter.writePieces { schedule } encoder.pieces
  (exportResult encoder.result writer.cancelled written, writer)

end

/-! ## One write -/

/-- The turn ends the write for good: the inner writer is not interrupted. -/
def Turn.settles (turn : Turn) : Bool := turn.isCancelled || turn.answer != .interrupted

/-- How many turns of the schedule are no interruptions. -/
def settling (schedule : List Turn) : Nat := schedule.countP Turn.settles

/-- The flag tells what the polls have answered, and no chunk was too long. -/
structure Sound (writer : StreamingWriter) : Prop where
  cancelled_iff : writer.cancelled = true ↔ true ∈ writer.polls
  offered : ∀ length ∈ writer.offered, length ≤ streamChunkBytes

theorem Sound.start (schedule : List Turn) : Sound { schedule } := ⟨by simp, by simp⟩

/-- What one write does, by its result. -/
def Wrote (before : StreamingWriter) (buffer : List UInt8) :
    Except Stop Nat → StreamingWriter → Prop
  | .ok count, after =>
      count ≤ buffer.length ∧ after.accepted = before.accepted ++ buffer.take count ∧
        after.cancelled = false ∧ settling before.schedule ≤ settling after.schedule + 1
  | .error .waiting, after => after = before ∧ before.schedule = []
  | .error (.io .interrupted), after =>
      after.accepted = before.accepted ∧ after.cancelled = false ∧
        settling before.schedule ≤ settling after.schedule
  | .error (.io _), after => after.accepted = before.accepted

section
variable {writer : StreamingWriter}

theorem Sound.polled (h : Sound writer) (hrunning : writer.cancelled = false) (schedule : List Turn) :
    Sound (writer.polled schedule false) where
  cancelled_iff := by
    have hnone : true ∉ writer.polls := fun hmem => by
      rw [h.cancelled_iff.mpr hmem] at hrunning
      cases hrunning
    simp [StreamingWriter.polled, hrunning, hnone]
  offered := h.offered

theorem write_wrote (h : Sound writer) (hrunning : writer.cancelled = false) (buffer : List UInt8) :
    Wrote writer buffer (writer.write buffer).1 (writer.write buffer).2 ∧
      Sound (writer.write buffer).2 := by
  unfold StreamingWriter.write
  cases hschedule : writer.schedule with
  | nil => exact ⟨⟨rfl, hschedule⟩, h⟩
  | cons turn schedule =>
    dsimp only
    cases hcancel : turn.isCancelled with
    | true =>
      refine ⟨rfl, ⟨?_, h.offered⟩⟩
      simp [StreamingWriter.polled]
    | false =>
      rw [if_neg Bool.false_ne_true]
      have hpolled := h.polled hrunning schedule
      have hchunk : ∀ length ∈ writer.offered ++ [min buffer.length streamChunkBytes],
          length ≤ streamChunkBytes := by
        intro length hlength
        rcases List.mem_append.mp hlength with hlength | hlength
        · exact h.offered length hlength
        · rw [List.mem_singleton.mp hlength]
          exact min_le_right _ _
      cases hanswer : turn.answer with
      | accepts count =>
        refine ⟨⟨by omega, rfl, hrunning, ?_⟩, ⟨hpolled.cancelled_iff, hchunk⟩⟩
        rw [hschedule, settling, List.countP_cons]
        show _ ≤ settling schedule + 1
        unfold settling
        split <;> omega
      | interrupted =>
        refine ⟨⟨rfl, hrunning, ?_⟩, ⟨hpolled.cancelled_iff, hchunk⟩⟩
        have hunsettled : turn.settles = false := by simp [Turn.settles, hcancel, hanswer]
        rw [hschedule, settling, List.countP_cons, hunsettled]
        exact le_rfl
      | fails => exact ⟨rfl, ⟨hpolled.cancelled_iff, hchunk⟩⟩

end

/-! ## Whole runs -/

/-- What a program over the writer that has this content to write leaves behind. -/
structure Sends (before : StreamingWriter) (content : List UInt8) (result : Except Stop Unit)
    (after : StreamingWriter) : Prop where
  sound : Sound after
  accepted : ∃ sent, sent <+: content ∧ after.accepted = before.accepted ++ sent ∧
    (result = .ok () ↔ sent = content)
  running : result = .ok () ∨ result = .error .waiting → after.cancelled = false ∧
    settling before.schedule + before.accepted.length ≤
      settling after.schedule + after.accepted.length
  waiting : result = .error .waiting → after.schedule = []

namespace Sends

variable {before middle after : StreamingWriter} {content content' : List UInt8}
  {result : Except Stop Unit}

theorem done (h : Sound before) (hrunning : before.cancelled = false) :
    Sends before [] (.ok ()) before where
  sound := h
  accepted := ⟨[], List.nil_prefix, (List.append_nil _).symm, by simp⟩
  running _ := ⟨hrunning, le_rfl⟩
  waiting := nofun

/-- Nothing of a content that is not empty is sent. -/
theorem stopped (hcontent : content ≠ []) (h : Sound after)
    (haccepted : after.accepted = before.accepted) {error : IoError} :
    Sends before content (.error (.io error)) after where
  sound := h
  accepted := ⟨[], List.nil_prefix, by rw [haccepted, List.append_nil], by simpa using hcontent.symm⟩
  running := nofun
  waiting := nofun

/-- A part that is sent, and a run for the rest. -/
theorem andThen (hpart : middle.accepted = before.accepted ++ content)
    (hsettling : settling before.schedule + before.accepted.length ≤
      settling middle.schedule + middle.accepted.length)
    (h : Sends middle content' result after) : Sends before (content ++ content') result after where
  sound := h.sound
  accepted := by
    obtain ⟨sent, hsent, haccepted, hresult⟩ := h.accepted
    refine ⟨content ++ sent, (List.prefix_append_right_inj content).mpr hsent, ?_, ?_⟩
    · rw [haccepted, hpart, List.append_assoc]
    · rw [hresult, List.append_cancel_left_eq]
  running hr := ⟨(h.running hr).1, hsettling.trans (h.running hr).2⟩
  waiting := h.waiting

/-- What stops short of a part stops short of the whole. -/
theorem cut (h : Sends before content result after) (hresult : result ≠ .ok ())
    (content' : List UInt8) : Sends before (content ++ content') result after where
  sound := h.sound
  accepted := by
    obtain ⟨sent, hsent, haccepted, hiff⟩ := h.accepted
    refine ⟨sent, hsent.trans (List.prefix_append _ _), haccepted, ?_⟩
    refine iff_of_false hresult fun hwhole => hresult (hiff.mpr ?_)
    subst hwhole
    exact hsent.eq_of_length_le (by simp)
  running := h.running
  waiting := h.waiting

end Sends

theorem writeAll_sends {writer : StreamingWriter} (h : Sound writer)
    (hrunning : writer.cancelled = false) (buffer : List UInt8) :
    Sends writer buffer (writer.writeAll buffer).1 (writer.writeAll buffer).2 := by
  fun_induction StreamingWriter.writeAll writer buffer with
  | case1 writer buffer hempty =>
    rw [List.isEmpty_iff.mp hempty]
    exact .done h hrunning
  | case2 writer buffer hne after hwrite =>
    obtain ⟨hwrote, hsound⟩ := write_wrote h hrunning buffer
    rw [hwrite] at hwrote hsound
    refine .stopped (by simpa using hne) hsound ?_
    rw [hwrote.2.1, List.take_zero, List.append_nil]
  | case3 writer buffer hne count after hwrite ih =>
    obtain ⟨hwrote, hsound⟩ := write_wrote h hrunning buffer
    rw [hwrite] at hwrote hsound
    obtain ⟨hle, haccepted, hrunning', hsettling⟩ := hwrote
    have hrest := ih hsound hrunning'
    have hwhole := Sends.andThen haccepted (by
      rw [haccepted, List.length_append, List.length_take, Nat.min_eq_left hle]
      omega) hrest
    rwa [List.take_append_drop] at hwhole
  | case4 writer buffer hne after hwrite ih =>
    obtain ⟨hwrote, hsound⟩ := write_wrote h hrunning buffer
    rw [hwrite] at hwrote hsound
    obtain ⟨haccepted, hrunning', hsettling⟩ := hwrote
    have hnothing : after.accepted = writer.accepted ++ [] :=
      Eq.trans haccepted (List.append_nil _).symm
    have hkept : settling writer.schedule + writer.accepted.length ≤
        settling after.schedule + after.accepted.length :=
      Nat.add_le_add hsettling (congrArg List.length haccepted).ge
    exact Sends.andThen hnothing hkept (ih hsound hrunning')
  | case5 writer buffer hne stop after hother hwrite =>
    obtain ⟨hwrote, hsound⟩ := write_wrote h hrunning buffer
    rw [hwrite] at hwrote hsound
    have hcontent : buffer ≠ [] := by simpa using hne
    match stop with
    | .waiting =>
      obtain ⟨rfl, hschedule⟩ := hwrote
      exact {
        sound := hsound
        accepted := ⟨[], List.nil_prefix, (List.append_nil _).symm, by simpa using hcontent.symm⟩
        running := fun _ => ⟨hrunning, le_rfl⟩
        waiting := fun _ => hschedule }
    | .io .interrupted => exact absurd rfl hother
    | .io .writeZero => exact .stopped hcontent hsound hwrote
    | .io .other => exact .stopped hcontent hsound hwrote

theorem writePieces_sends {writer : StreamingWriter} (h : Sound writer)
    (hrunning : writer.cancelled = false) (pieces : List Text) :
    Sends writer (bytes pieces.flatten) (writer.writePieces pieces).1
      (writer.writePieces pieces).2 := by
  induction pieces generalizing writer with
  | nil => exact .done h hrunning
  | cons piece pieces ih =>
    have hpiece := writeAll_sends h hrunning (bytes piece)
    rw [List.flatten_cons, bytes_append, StreamingWriter.writePieces]
    rcases hrun : writer.writeAll (bytes piece) with ⟨_ | stop, after⟩
    all_goals rw [hrun] at hpiece
    · exact hpiece.cut nofun _
    · obtain ⟨sent, -, haccepted, hwhole⟩ := hpiece.accepted
      obtain ⟨hrunning', hsettling⟩ := hpiece.running (.inl rfl)
      obtain rfl := hwhole.mp rfl
      exact .andThen haccepted hsettling (ih hpiece.sound hrunning')

/-! ## Writers that serve -/

/-- The turn brings the export on: nothing is cancelled, and the inner writer takes a byte at least
or asks for another call. -/
def Turn.serves (turn : Turn) : Bool :=
  !turn.isCancelled && match turn.answer with
    | .accepts count => count != 0
    | .interrupted => true
    | .fails => false

def Serving (writer : StreamingWriter) : Prop := ∀ turn ∈ writer.schedule, turn.serves = true

section
variable {writer : StreamingWriter}

theorem write_serving (h : Serving writer) (buffer : List UInt8) (hbuffer : buffer ≠ []) :
    Serving (writer.write buffer).2 ∧ ((∃ count, (writer.write buffer).1 = .ok (count + 1)) ∨
      (writer.write buffer).1 = .error (.io .interrupted) ∨
        (writer.write buffer).1 = .error .waiting) := by
  unfold StreamingWriter.write
  cases hschedule : writer.schedule with
  | nil => exact ⟨h, .inr (.inr rfl)⟩
  | cons turn schedule =>
    have hserves : turn.serves = true := h turn (by rw [hschedule]; exact List.mem_cons_self)
    have hrest : ∀ later ∈ schedule, later.serves = true := fun later hlater =>
      h later (by rw [hschedule]; exact List.mem_cons_of_mem turn hlater)
    unfold Turn.serves at hserves
    rw [Bool.and_eq_true, Bool.not_eq_true'] at hserves
    obtain ⟨hcancel, hanswer⟩ := hserves
    dsimp only
    rw [hcancel, if_neg Bool.false_ne_true]
    cases hcase : turn.answer with
    | accepts count =>
      rw [hcase] at hanswer
      have hcount : count ≠ 0 := by simpa using hanswer
      have hlength : buffer.length ≠ 0 := mt List.length_eq_zero_iff.mp hbuffer
      obtain ⟨taken, htaken⟩ :
          ∃ taken, min count (min buffer.length streamChunkBytes) = taken + 1 := by
        apply Nat.exists_eq_add_one.mpr
        unfold streamChunkBytes
        omega
      exact ⟨hrest, .inl ⟨taken, congrArg Except.ok htaken⟩⟩
    | interrupted => exact ⟨hrest, .inr (.inl rfl)⟩
    | fails =>
      rw [hcase] at hanswer
      cases hanswer

/-- A writer that serves is not given up. -/
theorem writeAll_serving (h : Serving writer) (buffer : List UInt8) :
    Serving (writer.writeAll buffer).2 ∧
      ((writer.writeAll buffer).1 = .ok () ∨ (writer.writeAll buffer).1 = .error .waiting) := by
  fun_induction StreamingWriter.writeAll writer buffer with
  | case1 writer buffer hempty => exact ⟨h, .inl rfl⟩
  | case2 writer buffer hne after hwrite =>
    have hserved := write_serving h buffer (by simpa using hne)
    rw [hwrite] at hserved
    obtain ⟨-, ⟨count, hcount⟩ | hother | hother⟩ := hserved
    · cases hcount
    · cases hother
    · cases hother
  | case3 writer buffer hne count after hwrite ih =>
    have hserved := write_serving h buffer (by simpa using hne)
    rw [hwrite] at hserved
    exact ih hserved.1
  | case4 writer buffer hne after hwrite ih =>
    have hserved := write_serving h buffer (by simpa using hne)
    rw [hwrite] at hserved
    exact ih hserved.1
  | case5 writer buffer hne stop after hother hwrite =>
    have hserved := write_serving h buffer (by simpa using hne)
    rw [hwrite] at hserved
    obtain ⟨hserving, ⟨count, hcount⟩ | hinterrupted | hwaiting⟩ := hserved
    · cases hcount
    · cases hinterrupted
      exact absurd rfl hother
    · cases hwaiting
      exact ⟨hserving, .inr rfl⟩

theorem writePieces_serving (h : Serving writer) (pieces : List Text) :
    (writer.writePieces pieces).1 = .ok () ∨ (writer.writePieces pieces).1 = .error .waiting := by
  induction pieces generalizing writer with
  | nil => exact .inl rfl
  | cons piece pieces ih =>
    obtain ⟨hserving, hpiece⟩ := writeAll_serving h (bytes piece)
    rw [StreamingWriter.writePieces]
    rcases hrun : writer.writeAll (bytes piece) with ⟨result, after⟩
    rw [hrun] at hserving hpiece
    obtain rfl | rfl := hpiece
    · exact ih hserving
    · exact .inr rfl

end

/-! ## Encoders are not cancelled by themselves -/

/-- The encoder does not end in this way. -/
def Never (error : ExportEncodeError) {α : Type} (encoder : Encode α) : Prop :=
  encoder.result ≠ .error error

namespace Never

variable {error : ExportEncodeError} {α β : Type}

theorem pure (a : α) : Never error (Pure.pure a : Encode α) := nofun

theorem writeAll (piece : Text) : Never error (Encode.writeAll piece) := nofun

theorem fail {error' : ExportEncodeError} (h : error' ≠ error) :
    Never error (Encode.fail error' : Encode α) := fun heq => h (Except.error.inj heq)

theorem bind {m : Encode α} {f : α → Encode β} (hm : Never error m) (hf : ∀ a, Never error (f a)) :
    Never error (m >>= f) := by
  show Never error (Encode.bind m f)
  unfold Encode.bind
  cases hresult : m.result with
  | ok a => exact hf a
  | error error' =>
    rintro ⟨⟩
    exact hm hresult

theorem ofOption {error' : ExportEncodeError} (h : error' ≠ error) (o : Option α) :
    Never error (Encode.ofOption error' o) := by
  cases o with
  | none => exact fail h
  | some a => exact pure a

theorem separated {separator : Text} {write : Nat → β → Encode Unit} (index : Nat) (xs : List β)
    (h : ∀ i x, Never error (write i x)) :
    Never error (Encode.separated separator write index xs) := by
  induction xs generalizing index with
  | nil => exact pure ()
  | cons x xs ih =>
    rw [Encode.separated]
    split
    · exact .bind (writeAll separator) fun _ => .bind (h _ x) fun _ => ih _
    · exact .bind (h _ x) fun _ => ih _

theorem each {write : β → Encode Unit} (xs : List β) (h : ∀ x, Never error (write x)) :
    Never error (Encode.each write xs) := by
  induction xs with
  | nil => exact pure ()
  | cons x xs ih => exact .bind (h x) fun _ => ih

end Never

section
variable {φ ν : Type} (crates : Crates φ ν)

theorem writeDoubled_never (remainder : Text) : Never .cancelled (writeDoubled remainder) := by
  fun_induction writeDoubled remainder with
  | case1 remainder hrest => exact .writeAll _
  | case2 remainder quote rest hrest ih =>
    exact .bind (.writeAll _) fun _ => .bind (.writeAll _) fun _ => ih

theorem writeCsvField_never (field : Text) : Never .cancelled (writeCsvField field) := by
  unfold writeCsvField
  dsimp only
  split
  · exact .writeAll _
  · exact .bind (.writeAll _) fun _ => .bind (writeDoubled_never _) fun _ => .writeAll _

theorem requireTabular_never (snapshot : ResultSnapshot φ ν) :
    Never .cancelled (requireTabular snapshot) := by
  unfold requireTabular
  split
  · exact .fail nofun
  · exact .pure _

theorem requireRowWidth_never (snapshot : ResultSnapshot φ ν) (row : List (Cell φ ν)) :
    Never .cancelled (requireRowWidth snapshot row) := by
  unfold requireRowWidth
  split
  · exact .pure _
  · exact .fail nofun

theorem writeJsonCell_never (cell : Cell φ ν) : Never .cancelled (writeJsonCell crates cell) := by
  cases cell <;> exact nofun

theorem writeJsonRows_never (snapshot : ResultSnapshot φ ν) (rowIndex : Nat)
    (rows : List (List (Cell φ ν))) :
    Never .cancelled (writeJsonRows crates snapshot rowIndex rows) := by
  have hrow : ∀ row, Never .cancelled (writeJsonRow crates row) := fun row =>
    .bind (.writeAll _) fun _ =>
      .bind (.separated _ _ fun _ cell => writeJsonCell_never crates cell) fun _ => .writeAll _
  induction rows generalizing rowIndex with
  | nil => exact .pure _
  | cons row rows ih =>
    rw [writeJsonRows]
    refine .bind (requireRowWidth_never snapshot row) fun _ => ?_
    split
    · exact .bind (.writeAll _) fun _ => .bind (hrow row) fun _ => ih _
    · exact .bind (hrow row) fun _ => ih _

theorem encoded_never (snapshot : ResultSnapshot φ ν) (format : ExportFormat) :
    Never .cancelled (encoded crates snapshot format) := by
  cases format with
  | csv =>
    refine .bind (requireTabular_never snapshot) fun _ =>
      .bind (.separated _ _ fun _ _ => writeCsvField_never _) fun _ =>
      .bind (.writeAll _) fun _ => .each _ fun row => ?_
    exact .bind (requireRowWidth_never snapshot row) fun _ =>
      .bind (.separated _ _ fun _ _ => writeCsvField_never _) fun _ => .writeAll _
  | tsv =>
    refine .bind (requireTabular_never snapshot) fun _ =>
      .bind (.separated _ _ fun _ _ => .writeAll _) fun _ =>
      .bind (.writeAll _) fun _ => .each _ fun row => ?_
    exact .bind (requireRowWidth_never snapshot row) fun _ =>
      .bind (.separated _ _ fun _ _ => .writeAll _) fun _ => .writeAll _
  | json =>
    have hcolumn : ∀ index column, Never .cancelled (writeJsonColumn index column) := nofun
    have hlast : ∀ id, Never .cancelled (writeLastInsertId id) := fun id => by
      cases id <;> exact nofun
    refine .bind (.ofOption (by decide) _) fun completedAt => ?_
    iterate 13 refine .bind (.writeAll _) fun _ => ?_
    refine .bind (.separated _ _ hcolumn) fun _ => .bind (.writeAll _) fun _ =>
      .bind (writeJsonRows_never crates snapshot _ _) fun _ => ?_
    iterate 3 refine .bind (.writeAll _) fun _ => ?_
    refine .bind (hlast _) fun _ => ?_
    iterate 2 refine .bind (.writeAll _) fun _ => ?_
    exact .writeAll _

/-! ## The export -/

section
variable {encoder result : Except ExportEncodeError Unit} {written : Except Stop Unit}
  {cancelled : Bool}

/-- A run that is cancelled does not finish, so it is reported as cancelled. -/
theorem exportResult_cancelled (hencoder : encoder ≠ .error .cancelled)
    (h : exportResult encoder cancelled written = some result) :
    result = .error .cancelled ↔ cancelled = true := by
  rcases written with (_ | error) | ⟨⟩
  · cases h
  all_goals
    obtain rfl := Option.some.inj h
    cases cancelled <;> simp [hencoder]

theorem exportResult_ok (hrunning : written = .ok () → cancelled = false)
    (h : exportResult encoder cancelled written = some result) :
    result = .ok () ↔ written = .ok () ∧ encoder = .ok () := by
  rcases written with (_ | error) | ⟨⟩
  · cases h
  · obtain rfl := Option.some.inj h
    cases cancelled <;> simp
  · obtain rfl := Option.some.inj h
    simp [hrunning rfl]

end

theorem writeExport_ok_iff {snapshot : ResultSnapshot φ ν} {format : ExportFormat}
    {content : List UInt8} : writeExport crates snapshot format = .ok content ↔
      (encoded crates snapshot format).result = .ok () ∧
        content = bytes (encoded crates snapshot format).pieces.flatten := by
  unfold writeExport
  cases (encoded crates snapshot format).result with
  | ok _ => simp [eq_comm]
  | error e => simp

/-- The inner writer holds a prefix of the encoding at every moment. The result tells whether it
holds all of it and whether a poll was answered, no write is too long, and there is a result once
there are as many answers as bytes, which is that of the encoder where every answer serves. -/
theorem export_prefix_safe (snapshot : ResultSnapshot φ ν) (format : ExportFormat)
    (schedule : List Turn) :
    (writeExportWithCancel crates snapshot format schedule).2.accepted <+:
      bytes (encoded crates snapshot format).pieces.flatten ∧
    (∀ result, (writeExportWithCancel crates snapshot format schedule).1 = some result →
      (result = .ok () ↔ writeExport crates snapshot format =
        .ok (writeExportWithCancel crates snapshot format schedule).2.accepted) ∧
      (result = .error .cancelled ↔
        true ∈ (writeExportWithCancel crates snapshot format schedule).2.polls)) ∧
    (∀ length ∈ (writeExportWithCancel crates snapshot format schedule).2.offered,
      length ≤ 4 * 1024) ∧
    ((bytes (encoded crates snapshot format).pieces.flatten).length ≤ settling schedule →
      (writeExportWithCancel crates snapshot format schedule).1.isSome) ∧
    ((∀ turn ∈ schedule, turn.serves = true) → ∀ result,
      (writeExportWithCancel crates snapshot format schedule).1 = some result →
        result = (encoded crates snapshot format).result) := by
  have hsends := writePieces_sends (Sound.start schedule) rfl (encoded crates snapshot format).pieces
  have hnever := encoded_never crates snapshot format
  have hserving (hserves : ∀ turn ∈ schedule, turn.serves = true) :=
    @writePieces_serving { schedule } hserves (encoded crates snapshot format).pieces
  unfold writeExportWithCancel
  dsimp only
  rcases hrun : StreamingWriter.writePieces { schedule } (encoded crates snapshot format).pieces with
    ⟨written, writer⟩
  rw [hrun] at hsends hserving
  dsimp only at hsends hserving ⊢
  obtain ⟨sent, hsent, haccepted, hwhole⟩ := hsends.accepted
  obtain rfl : writer.accepted = sent := haccepted
  refine ⟨hsent, fun result hresult => ?_, hsends.sound.offered, fun henough => ?_,
    fun hserves result hresult => ?_⟩
  · refine ⟨?_, (exportResult_cancelled hnever hresult).trans hsends.sound.cancelled_iff⟩
    rw [exportResult_ok (fun hok => (hsends.running (.inl hok)).1) hresult, writeExport_ok_iff,
      hwhole, and_comm]
  · by_contra hnone
    have hwaiting : written = .error .waiting := by
      rcases written with (_ | error) | ⟨⟩
      · rfl
      · exact absurd rfl hnone
      · exact absurd rfl hnone
    -- Every answer has brought a byte, so as many answers as bytes would have finished the run.
    have hsettled := (hsends.running (.inr hwaiting)).2
    rw [hsends.waiting hwaiting] at hsettled
    have hshort : writer.accepted.length < (bytes (encoded crates snapshot format).pieces.flatten).length := by
      refine Nat.lt_of_le_of_ne hsent.length_le fun heq => ?_
      have hok := hwhole.mpr (hsent.eq_of_length heq)
      rw [hwaiting] at hok
      cases hok
    have hstart : settling schedule ≤ writer.accepted.length := by
      simpa [settling] using hsettled
    omega
  · obtain rfl | rfl := hserving hserves
    · rw [(hsends.running (.inl rfl)).1] at hresult
      exact (Option.some.inj hresult).symm
    · cases hresult

end

/-- A writer that takes one byte at a time gets the whole result. -/
theorem export_prefix_safe_bytewise :
    (writeExportWithCancel bareCrates oneColumnResult .tsv
        (List.replicate 40 ⟨false, .accepts 1⟩)).1 = some (.ok ()) ∧
      writeExport bareCrates oneColumnResult .tsv =
        .ok (writeExportWithCancel bareCrates oneColumnResult .tsv
          (List.replicate 40 ⟨false, .accepts 1⟩)).2.accepted := by
  obtain ⟨-, hresult, -, hreturns, hserves⟩ := export_prefix_safe bareCrates oneColumnResult .tsv
    (List.replicate 40 ⟨false, .accepts 1⟩)
  obtain ⟨result, hsome⟩ := Option.isSome_iff_exists.mp (hreturns (by decide))
  obtain rfl : result = .ok () := hserves (by decide) result hsome
  exact ⟨hsome, (hresult (.ok ()) hsome).1.mp rfl⟩

end Dbotter.Results.Streaming
