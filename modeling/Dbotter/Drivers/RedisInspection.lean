import Dbotter.Drivers.RedisKeyspace
import Dbotter.Drivers.RedisPreviewFlags

/-!
What an inspection says about a key that other clients may write at any time.

The place of a command in the dialogue is the moment at which the server answers it, and the key
may hold another value at every moment. A result is then read as what was true at which moment.
-/

namespace Dbotter.Drivers
open Dbotter.Utf8 Dbotter.Configuration Dbotter.Results Dbotter.Service
open Dbotter.Program (Dialogue)

variable {φ : Type}

/-! ## Errors -/

def RedisFailure.isWrongType : RedisFailure → Bool
  | .timedOut => false
  | .redis _ code => code == some "WRONGTYPE".toList

/-- What an error says of the moments: `held n` is what the key holds at moment `n`. -/
inductive Explained (answer : Nat → (command : RedisCommand) → RedisAnswer φ command)
    (held : Nat → Option (StoredValue φ)) (request : RedisKeyInspectRequest) :
    List RedisCommand → DriverError → Prop
  | invalid (h : request.validate ≠ .ok ()) :
      Explained answer held request [] (.invalidConfig .redis)
  | missing {sent : List RedisCommand} {n : Nat} (hlt : n < sent.length) (h : held n = none) :
      Explained answer held request sent .redisKeyMissing
  | changed {sent : List RedisCommand} {n : Nat} {first value : StoredValue φ}
      (hlt : n < sent.length) (hfirst : held 0 = some first) (hvalue : held n = some value)
      (hne : value.data.typeName ≠ first.data.typeName) :
      Explained answer held request sent .redisKeyTypeChanged
  | failed {sent : List RedisCommand} {command : RedisCommand} {failure : RedisFailure}
      (h : answer sent.length command = .error failure) (hcode : failure.isWrongType = false) :
      Explained answer held request (sent ++ [command]) (queryError failure)

/-- A good result, or an error with its reason. -/
def Honest (answer : Nat → (command : RedisCommand) → RedisAnswer φ command)
    (held : Nat → Option (StoredValue φ)) (request : RedisKeyInspectRequest) {α : Type}
    (Good : List RedisCommand → α → Prop) : List RedisCommand → Except DriverError α → Prop
  | sent, .ok a => Good sent a
  | sent, .error e => Explained answer held request sent e

section
variable {answer : Nat → (command : RedisCommand) → RedisAnswer φ command}
  {held : Nat → Option (StoredValue φ)} {request : RedisKeyInspectRequest} {α β : Type}
  {sent : List RedisCommand}

theorem honest_bind {d : Conversation φ α} {f : α → Conversation φ β}
    {Good : List RedisCommand → α → Prop} {Good' : List RedisCommand → β → Prop}
    (h : d.Meets answer (Honest answer held request Good) sent)
    (hnext : ∀ sent a, Good sent a → (f a).Meets answer (Honest answer held request Good') sent) :
    (d.bind f).Meets answer (Honest answer held request Good') sent :=
  h.bind hnext fun _ _ h => h

/-! ## One command -/

variable (hdoc : ∀ n, Documented request.key (answer n) (held n))
include hdoc

/-- The type that a command is about is that of the first moment. -/
theorem keyQuery_honest {command : RedisCommand} (hkey : command.key? = some request.key)
    (htype : ∀ type ∈ command.type?, ∃ first, held 0 = some first ∧ first.data.type = type) :
    (keyQuery command).Meets answer (Honest answer held request fun sent' reply =>
      sent' = sent ++ [command] ∧ command.Fits (held sent.length) ∧
        command.Documents (held sent.length) reply) sent := by
  unfold keyQuery
  rw [Dialogue.meets_ask]
  cases hanswer : answer sent.length command with
  | ok reply => exact ⟨rfl, (hdoc _).fits _ _ hkey hanswer, (hdoc _).replies _ _ hkey hanswer⟩
  | error failure =>
    show Explained answer held request (sent ++ [command]) (keyQueryError failure)
    cases failure with
    | timedOut => exact .failed hanswer rfl
    | redis kind code =>
      by_cases hcode : code = some "WRONGTYPE".toList
      · subst hcode
        have hunfit := (hdoc _).wrongType _ _ hkey hanswer
        simp only [RedisCommand.Fits, not_forall] at hunfit
        obtain ⟨type, hmem, value, hvalue, hne⟩ := hunfit
        obtain ⟨first, hfirst, rfl⟩ := htype type hmem
        rw [keyQueryError, if_pos rfl]
        apply Explained.changed (n := sent.length) _ hfirst hvalue
        · intro hname
          apply hne
          rw [← value.data.valueType_typeName, ← first.data.valueType_typeName, hname]
        · simp
      · rw [keyQueryError, if_neg hcode]
        exact .failed hanswer (by simpa [RedisFailure.isWrongType] using hcode)

theorem keyType_honest :
    (keyType request.key).Meets answer (Honest answer held request fun sent' name =>
      sent' = sent ++ [.type request.key] ∧ name = StoredValue.typeName (held sent.length))
      sent := by
  apply honest_bind (keyQuery_honest hdoc rfl fun _ h => by cases h)
  rintro _ reply ⟨rfl, -, hreply⟩
  exact ⟨rfl, hreply⟩

theorem readTtl_honest :
    (readTtl request.key).Meets answer (Honest answer held request fun sent' ttl =>
      sent' = sent ++ [.pttl request.key] ∧
        ∃ value, held sent.length = some value ∧ ttl = value.ttl) sent := by
  apply honest_bind (keyQuery_honest hdoc rfl fun _ h => by cases h)
  rintro _ pttl ⟨rfl, -, hreply⟩
  obtain rfl : pttl = StoredValue.pttl (held sent.length) := hreply
  rcases hheld : held sent.length with _ | ⟨data, _ | milliseconds⟩
  · show Explained answer held request (sent ++ [.pttl request.key]) .redisKeyMissing
    exact .missing (n := sent.length) (by simp) hheld
  · exact ⟨rfl, _, rfl, rfl⟩
  · have hpttl : StoredValue.pttl (some ⟨data, some milliseconds⟩ : Option (StoredValue φ)) =
        (milliseconds : Int) := rfl
    have hmissing : ¬ (milliseconds : Int) = -2 := by omega
    have hpersistent : ¬ (milliseconds : Int) = -1 := by omega
    have hexpires : (milliseconds : Int) ≥ 0 := by omega
    rw [hpttl, if_neg hmissing, if_neg hpersistent, if_pos hexpires]
    exact ⟨rfl, _, rfl, rfl⟩

/-! ## The value -/

/-- What is done to the preview is, but for the flag, to show the contents. -/
def Shows (calls contents : List (PreviewCall φ)) : Prop :=
  (∀ c ∈ calls, c = .more false ∨ c ∈ contents) ∧ ∀ c ∈ contents, c ∈ calls

/-- The value has the type, and while no call flags that there is more, all of it is shown, if it
is not larger than its size was before. -/
def Reads (type : RedisValueType) (size : Nat) (calls : List (PreviewCall φ))
    (held : Option (StoredValue φ)) : Prop :=
  ∀ value ∈ held, value.data.type = type ∧
    (.more true ∉ calls → value.data.size ≤ size → Shows calls value.data.contents)

omit hdoc in
theorem measured_honest {sizeCommand partCommand : RedisCommand} {type : RedisValueType}
    {size : Conversation φ Nat} {part : Conversation φ α}
    {calls : Nat → α → Except DriverError (List (PreviewCall φ))} {F : Prop} {Told : α → Prop}
    (hsize : size.Meets answer (Honest answer held request fun sent' n =>
      sent' = sent ++ [sizeCommand] ∧ F ∧ n = StoredValue.size (held sent.length)) sent)
    (hpart : part.Meets answer (Honest answer held request fun sent' a =>
      sent' = sent ++ [sizeCommand] ++ [partCommand] ∧
        partCommand.Fits (held (sent ++ [sizeCommand]).length) ∧ Told a) (sent ++ [sizeCommand]))
    (hcalls : ∀ n a, Told a → ∃ cs, calls n a = .ok cs ∧
      (partCommand.Fits (held (sent ++ [sizeCommand]).length) →
        Reads type n cs (held (sent ++ [sizeCommand]).length))) :
    (measured size part calls).Meets answer (Honest answer held request fun sent' r =>
      sent' = sent ++ [sizeCommand, partCommand] ∧
        r.1 = some (StoredValue.size (held sent.length)) ∧
        Reads type (StoredValue.size (held sent.length)) r.2 (held (sent.length + 1))) sent := by
  rw [List.length_append] at hcalls hpart
  apply honest_bind hsize
  rintro _ _ ⟨rfl, -, rfl⟩
  apply honest_bind hpart
  rintro _ a ⟨rfl, hfits, htold⟩
  obtain ⟨cs, hcs, hreads⟩ := hcalls (StoredValue.size (held sent.length)) a htold
  rw [hcs]
  exact ⟨List.append_assoc .., rfl, hreads hfits⟩

omit hdoc in
theorem reads_more {command : RedisCommand} {type : RedisValueType} {n : Nat} {more : Bool}
    {cs : List (PreviewCall φ)} {held : Option (StoredValue φ)} (hfits : command.Fits held)
    (htype : command.type? = some type)
    (h : more = false → ∀ value ∈ held, value.data.type = type → value.data.size ≤ n →
      ∀ c, c ∈ cs ↔ c ∈ value.data.contents) : Reads type n (.more more :: cs) held := by
  intro value hvalue
  have hkind := hfits type htype value hvalue
  refine ⟨hkind, fun hmore hsize => ?_⟩
  have hflag : more = false := by
    cases more with
    | false => rfl
    | true => exact absurd List.mem_cons_self hmore
  have hmem := h hflag value hvalue hkind hsize
  constructor
  · intro c hc
    rcases List.mem_cons.1 hc with rfl | hc
    · exact .inl (by rw [hflag])
    · exact .inr ((hmem c).1 hc)
  · intro c hc
    exact List.mem_cons_of_mem _ ((hmem c).2 hc)

omit hdoc in
/-- The first values are all values, if they are not fewer than those that were counted. -/
theorem take_whole {γ : Type} {values : List γ} {n k : Nat} (hsize : values.length ≤ n)
    (hmore : decide (n > ((values.drop 0).take k).length) = false) :
    (values.drop 0).take k = values := by
  simp only [List.drop_zero, List.length_take, gt_iff_lt, decide_eq_false_iff_not, not_lt] at hmore ⊢
  apply List.take_of_length_le
  omega

def valueCommands (key : List UInt8) : RedisValueType → List RedisCommand
  | .string => [.strlen key, .getrange key 0 65535]
  | .hash => [.hlen key, .hscan key 0 100]
  | .list => [.llen key, .lrange key 0 99]
  | .set => [.scard key, .sscan key 0 100]
  | .sortedSet => [.zcard key, .zrangeWithScores key 0 99]
  | .stream => [.xlen key, .xrange key "-".toList "+".toList 100]
  | .moduleOrUnknown => []

theorem inspectValue_honest {first : StoredValue φ} (hfirst : held 0 = some first)
    {type : RedisValueType} (hdata : first.data.type = type) (hbuiltin : type ≠ .moduleOrUnknown) :
    (inspectValue request.key type : Conversation φ _).Meets answer
      (Honest answer held request fun sent' r =>
        sent' = sent ++ valueCommands request.key type ∧
          r.1 = some (StoredValue.size (held sent.length)) ∧
          Reads type (StoredValue.size (held sent.length)) r.2 (held (sent.length + 1))) sent := by
  have hask (command : RedisCommand) (hkey : command.key? = some request.key)
      (htype : command.type? = some type) (sent : List RedisCommand) :=
    @keyQuery_honest φ answer held request sent hdoc command hkey fun t ht =>
      ⟨first, hfirst, by rw [hdata]; exact Option.some.inj (htype.symm.trans ht)⟩
  cases type with
  | string =>
    apply measured_honest (hask (.strlen request.key) rfl rfl sent)
      (hask (.getrange request.key 0 65535) rfl rfl _)
    rintro n _ ⟨v, rfl, hheld⟩
    refine ⟨_, rfl, fun hfits => reads_more hfits rfl fun hmore value hvalue _ hsize c => ?_⟩
    rw [hheld value hvalue] at hsize ⊢
    rw [take_whole hsize hmore]
    rfl
  | hash =>
    apply measured_honest (hask (.hlen request.key) rfl rfl sent)
      (hask (.hscan request.key 0 100) rfl rfl _)
    rintro n ⟨nextCursor, entries⟩ hheld
    refine ⟨_, rfl, fun hfits => reads_more hfits rfl fun hmore value hvalue htype _ c => ?_⟩
    rcases value with ⟨data, expires⟩
    cases data with
    | hash fields =>
      obtain ⟨hsub, hwhole⟩ := hheld _ hvalue fields rfl
      have hnext : nextCursor = 0 := by
        rw [Bool.or_eq_false_iff, bne_eq_false_iff_eq] at hmore
        exact hmore.1
      have hmem (x) : x ∈ entries ↔ x ∈ fields :=
        ⟨fun h => hsub h, fun h => hwhole rfl hnext h⟩
      simp only [RedisData.contents, List.mem_map, hmem]
    | _ => cases htype
  | list =>
    apply measured_honest (hask (.llen request.key) rfl rfl sent)
      (hask (.lrange request.key 0 99) rfl rfl _)
    rintro n values hheld
    refine ⟨_, rfl, fun hfits => reads_more hfits rfl fun hmore value hvalue htype hsize c => ?_⟩
    rcases value with ⟨data, expires⟩
    cases data with
    | list all =>
      obtain rfl := hheld _ hvalue all rfl
      rw [take_whole hsize hmore]
      rfl
    | _ => cases htype
  | set =>
    apply measured_honest (hask (.scard request.key) rfl rfl sent)
      (hask (.sscan request.key 0 100) rfl rfl _)
    rintro n ⟨nextCursor, reply⟩ hheld
    refine ⟨_, rfl, fun hfits => reads_more hfits rfl fun hmore value hvalue htype _ c => ?_⟩
    rcases value with ⟨data, expires⟩
    cases data with
    | set members =>
      obtain ⟨hsub, hwhole⟩ := hheld _ hvalue members rfl
      have hnext : nextCursor = 0 := by
        rw [Bool.or_eq_false_iff, bne_eq_false_iff_eq] at hmore
        exact hmore.1
      have hmem (x) : x ∈ reply ↔ x ∈ members :=
        ⟨fun h => hsub h, fun h => hwhole rfl hnext h⟩
      simp only [RedisData.contents, List.mem_map, hmem]
    | _ => cases htype
  | sortedSet =>
    apply measured_honest (hask (.zcard request.key) rfl rfl sent)
      (hask (.zrangeWithScores request.key 0 99) rfl rfl _)
    rintro n values hheld
    refine ⟨_, rfl, fun hfits => reads_more hfits rfl fun hmore value hvalue htype hsize c => ?_⟩
    rcases value with ⟨data, expires⟩
    cases data with
    | sortedSet members =>
      obtain rfl := hheld _ hvalue members rfl
      rw [take_whole hsize hmore]
      rfl
    | _ => cases htype
  | stream =>
    apply measured_honest (hask (.xlen request.key) rfl rfl sent)
      (hask (.xrange request.key "-".toList "+".toList 100) rfl rfl _)
    rintro n reply hheld
    obtain ⟨entries, rfl, hentries⟩ := hheld rfl rfl
    refine ⟨_, rfl, fun hfits => reads_more hfits rfl fun hmore value hvalue _ hsize c => ?_⟩
    rw [hentries value hvalue] at hsize ⊢
    rw [show entries.take 100 = entries from take_whole hsize hmore]
    rfl
  | moduleOrUnknown => exact absurd rfl hbuiltin

end

/-! ## The preview -/

section
variable (floats : Floats φ) (cellSize : Nat) {preview preview' : PreviewRetention φ}

theorem more_flagged {cs : List (PreviewCall φ)} (h : WithinCaps floats cellSize preview)
    (hcalls : preview.calls floats cellSize cs = some preview')
    (hclean : preview'.truncated = false) : .more true ∉ cs := by
  induction cs generalizing preview with
  | nil => exact List.not_mem_nil
  | cons c cs ih =>
    obtain ⟨middle, hcall, hcalled⟩ := call_called floats cellSize h c
    have hrest : middle.calls floats cellSize cs = some preview' := by
      rw [PreviewRetention.calls, List.foldlM_cons, hcall] at hcalls
      exact hcalls
    intro hmem
    rcases List.mem_cons.1 hmem with rfl | hmem
    · obtain ⟨last, hlast, hcalled'⟩ := calls_called floats cellSize hcalled.capped cs
      cases hrest.symm.trans hlast
      have hflag : middle.truncated = true := by
        cases hcall
        exact Bool.or_true _
      rw [hcalled'.before hclean] at hflag
      cases hflag
    · exact ih hcalled.capped hrest hmem

/-- The items have a part for each call. -/
theorem part_of_mem {cs : List (PreviewCall φ)} {items : List (Cell φ (Number φ))}
    (h : ShowsCalls floats cs items) {c : PreviewCall φ} (hc : c ∈ cs) :
    ∃ part, ShowsCall floats c part ∧ part ⊆ items := by
  obtain ⟨parts, rfl, hparts⟩ := h
  induction hparts with
  | nil => cases hc
  | cons hpart _ ih =>
    rename_i part rest
    rcases List.mem_cons.1 hc with rfl | hc
    · exact ⟨_, hpart, List.subset_append_left _ _⟩
    · obtain ⟨part, hshows, hsub⟩ := ih hc
      exact ⟨part, hshows, fun _ h => List.mem_append_right _ (hsub h)⟩

def inspectCommands (key : List UInt8) (type : RedisValueType) : List RedisCommand :=
  [.type key, .pttl key] ++ valueCommands key type ++ [.type key]

theorem inspectCommands_names (key : List UInt8) (type : RedisValueType) :
    (inspectCommands key type).map (·.name) = inspectCommandNames type := by
  cases type <;> rfl

/-- What a preview says of the moments. -/
structure Inspected (held : Nat → Option (StoredValue φ)) (request : RedisKeyInspectRequest)
    (sent : List RedisCommand) (preview : InspectedPreview φ) : Prop where
  identity : preview.identity = request.identity ∧ preview.key = ⟨request.key⟩
  commands : sent = inspectCommands request.key preview.valueType
  names : sent.map (·.name) = inspectCommandNames preview.valueType
  /-- The type was there at the first moment and at the last. -/
  type : ∃ first last, held 0 = some first ∧ held (sent.length - 1) = some last ∧
    last.data.typeName = first.data.typeName ∧ first.data.type = preview.valueType
  ttl : ∃ value, held 1 = some value ∧ preview.ttl = value.ttl
  size : preview.size = if preview.valueType = .moduleOrUnknown then none
    else some (StoredValue.size (held 2))
  items : preview.retainedItems = preview.items.length ∧
    preview.items.length ≤ maxRedisPreviewItems
  bytes : preview.retainedBytes =
      (preview.items.map (cellMaterializedBytes floats cellSize)).sum ∧
    preview.retainedBytes ≤ maxRedisPreviewBytes
  cells : ∀ cell ∈ preview.items, cellMaterializedBytes floats cellSize cell ≤ maxRedisCellBytes
  notices : .cellPreviewTruncated ∈ preview.notices ↔ preview.truncated = true
  /-- What was under the key when it was read is of the type, and is shown if nothing is flagged
  and it has not grown since it was measured. -/
  value : preview.valueType ≠ .moduleOrUnknown → ∀ value, held 3 = some value →
    value.data.type = preview.valueType ∧
      (preview.truncated = false → value.data.size ≤ StoredValue.size (held 2) →
        (∀ c ∈ value.data.contents, KeepsFlag floats c) →
          ∀ c ∈ value.data.contents, ∃ part, ShowsCall floats c part ∧ part ⊆ preview.items)

theorem cellPreviewTruncated_mem_notices (preview : PreviewRetention φ) :
    .cellPreviewTruncated ∈ preview.notices ↔ preview.truncated = true := by
  unfold PreviewRetention.notices
  cases preview.truncated <;> cases preview.depthTruncated <;> simp

variable {answer : Nat → (command : RedisCommand) → RedisAnswer φ command}
  {held : Nat → Option (StoredValue φ)} {request : RedisKeyInspectRequest}

/-- The part of an inspection that is behind the type and the time to live. -/
theorem inspectValue_told (hdoc : ∀ n, Documented request.key (answer n) (held n))
    {first : StoredValue φ} (hfirst : held 0 = some first) :
    (inspectValue request.key first.data.type : Conversation φ _).Meets answer
      (Honest answer held request fun sent r =>
        sent = [.type request.key, .pttl request.key] ++
            valueCommands request.key first.data.type ∧
          r.1 = (if first.data.type = .moduleOrUnknown then none
            else some (StoredValue.size (held 2))) ∧
          (first.data.type ≠ .moduleOrUnknown →
            Reads first.data.type (StoredValue.size (held 2)) r.2 (held 3)))
      [.type request.key, .pttl request.key] := by
  by_cases hmodule : first.data.type = .moduleOrUnknown
  · rw [hmodule]
    exact ⟨rfl, rfl, fun h => absurd rfl h⟩
  · apply (inspectValue_honest hdoc hfirst rfl hmodule).weaken
    intro sent r h
    cases r with
    | error e => exact h
    | ok r =>
      obtain ⟨hsent, hsize, hreads⟩ := h
      exact ⟨hsent, by rw [if_neg hmodule]; exact hsize, fun _ => hreads⟩

theorem inspectKey_honest (hdoc : ∀ n, Documented request.key (answer n) (held n)) :
    (inspectKey floats cellSize request).Meets answer
      (Honest answer held request fun sent r => ∃ preview, r = some preview ∧
        Inspected floats cellSize held request sent preview) [] := by
  unfold inspectKey
  rw [Dialogue.bind_eq, Dialogue.meets_ofExcept_bind]
  constructor
  · intro _ _
    apply honest_bind (keyType_honest hdoc)
    rintro _ name ⟨rfl, rfl⟩
    rw [List.length_nil, List.nil_append]
    cases hfirst : held 0 with
    | none =>
      show Explained answer held request [.type request.key] .redisKeyMissing
      exact .missing (n := 0) (by simp) hfirst
    | some first =>
      rw [StoredValue.typeName, if_neg first.data.typeName_ne_none,
        first.data.valueType_typeName]
      apply honest_bind (readTtl_honest hdoc)
      rintro _ ttl ⟨rfl, httl⟩
      apply honest_bind (inspectValue_told hdoc hfirst)
      rintro _ ⟨size, calls⟩ ⟨rfl, rfl, hreads⟩
      obtain ⟨preview, hcalls, hcalled⟩ := calls_called floats cellSize
        (empty_capped floats cellSize) calls
      simp only [hcalls]
      apply honest_bind (keyType_honest hdoc)
      rintro _ name ⟨rfl, rfl⟩
      cases hlast : held ([RedisCommand.type request.key, .pttl request.key] ++
          valueCommands request.key first.data.type).length with
      | none =>
        rw [StoredValue.typeName, if_pos rfl]
        show Explained answer held request (_ ++ [.type request.key]) .redisKeyMissing
        exact .missing (by simp) hlast
      | some last =>
        rw [StoredValue.typeName, if_neg last.data.typeName_ne_none]
        by_cases hname : last.data.typeName = first.data.typeName
        · rw [if_neg (not_not_intro hname)]
          have hend : (inspectCommands request.key first.data.type).length - 1 =
              ([RedisCommand.type request.key, .pttl request.key] ++
                valueCommands request.key first.data.type).length := by
            rw [inspectCommands, List.length_append]
            rfl
          refine ⟨_, rfl, ?_⟩
          exact {
            identity := ⟨rfl, rfl⟩
            commands := rfl
            names := inspectCommands_names _ _
            type := ⟨first, last, hfirst, (congrArg held hend).trans hlast, hname, rfl⟩
            ttl := httl
            size := rfl
            items := ⟨rfl, hcalled.capped.items⟩
            bytes := ⟨hcalled.capped.bytes, hcalled.capped.fits⟩
            cells := hcalled.capped.cells
            notices := cellPreviewTruncated_mem_notices preview
            value := fun hbuiltin value hvalue => by
              obtain ⟨htype, hshows⟩ := hreads hbuiltin value hvalue
              refine ⟨htype, fun hclean hsize hkeeps c hc => ?_⟩
              have hmore := more_flagged floats cellSize (empty_capped floats cellSize) hcalls hclean
              obtain ⟨hsub, hall⟩ := hshows hmore hsize
              have hright : ∀ c ∈ calls, KeepsFlag floats c := by
                intro c hc
                rcases hsub c hc with rfl | hc
                · trivial
                · exact hkeeps c hc
              obtain ⟨part, hitems, hpart⟩ := hcalled.shown hright hclean
              obtain ⟨own, hown, hmem⟩ := part_of_mem floats hpart (hall c hc)
              exact ⟨own, hown, by rw [hitems]; exact hmem⟩ }
        · rw [if_pos hname]
          show Explained answer held request (_ ++ [.type request.key]) .redisKeyTypeChanged
          exact .changed (by simp) hfirst hlast hname
  · intro e he
    have hinvalid : e = .invalidConfig .redis ∧ request.validate ≠ .ok () := by
      cases hvalid : request.validate with
      | ok _ =>
        rw [hvalid] at he
        cases he
      | error _ =>
        rw [hvalid] at he
        cases he
        exact ⟨rfl, nofun⟩
    rw [hinvalid.1]
    exact .invalid hinvalid.2

/-- **An inspection is honest.** Whatever the other clients write between its commands, a preview
says what was true at its moments, and an error what was not. -/
theorem inspection_honest (hdoc : ∀ n, Documented request.key (answer n) (held n)) :
    match (inspectKey floats cellSize request).run answer [] with
    | (_, .ok none) => False
    | (sent, .ok (some preview)) => Inspected floats cellSize held request sent preview
    | (sent, .error e) => Explained answer held request sent e := by
  have hhonest := inspectKey_honest floats cellSize hdoc
  unfold Dialogue.Meets at hhonest
  revert hhonest
  rcases (inspectKey floats cellSize request).run answer [] with ⟨sent, _ | _ | preview⟩
  all_goals intro hhonest
  · exact hhonest
  · obtain ⟨_, h, -⟩ := hhonest
    cases h
  · obtain ⟨_, h, hinspected⟩ := hhonest
    cases h
    exact hinspected

/-- A list that gets a second value after it was measured. -/
def grownList (n : Nat) : Option (StoredValue Empty) :=
  if n < 3 then some ⟨.list [[104]], none⟩ else some ⟨.list [[104], [105]], some 60000⟩

def listRequest : RedisKeyInspectRequest :=
  ⟨⟨"p".toList, 1, 1⟩, [107], seconds 5⟩

theorem inspection_honest_grown :
    match (inspectKey noFloats 32 listRequest).run (fun n => referenceAnswer (grownList n)) [] with
    | (_, .ok none) => False
    | (sent, .ok (some preview)) => Inspected noFloats 32 grownList listRequest sent preview
    | (sent, .error e) => Explained (fun n => referenceAnswer (grownList n)) grownList listRequest
        sent e :=
  @inspection_honest Empty noFloats 32 (fun n => referenceAnswer (grownList n)) grownList
    listRequest fun n => referenceAnswer_documented _ (grownList n)

/-- The second value is shown, but not counted. -/
example : (match ((inspectKey noFloats 32 listRequest).run
      (fun n => referenceAnswer (grownList n)) []).2 with
    | .ok (some preview) => (preview.size, preview.retainedItems, preview.truncated)
    | _ => (none, 0, true)) = (some 1, 2, false) := by decide +kernel

/-- **A quiet key is told as it is.** -/
theorem quiet_inspection_exact (hdoc : ∀ n, Documented request.key (answer n) (held n))
    (hvalid : request.validate = .ok ()) {data : Option (RedisData φ)}
    (hquiet : ∀ n, (held n).map (·.data) = data)
    (hanswers : ∀ n command failure, answer n command = .error failure →
      failure.isWrongType = true) :
    match data with
    | none => ((inspectKey floats cellSize request).run answer []).2 = .error .redisKeyMissing
    | some data => ∃ preview,
        ((inspectKey floats cellSize request).run answer []).2 = .ok (some preview) ∧
          preview.key = ⟨request.key⟩ ∧ preview.valueType = data.type ∧
          (data.type ≠ .moduleOrUnknown → preview.size = some data.size ∧
            (preview.truncated = false → (∀ c ∈ data.contents, KeepsFlag floats c) →
              ∀ c ∈ data.contents, ∃ part, ShowsCall floats c part ∧ part ⊆ preview.items)) := by
  have hhonest := inspection_honest floats cellSize hdoc
  have hdata (n : Nat) {value : StoredValue φ} (h : held n = some value) :
      data = some value.data := by
    rw [← hquiet n, h, Option.map_some]
  rcases hrun : (inspectKey floats cellSize request).run answer [] with ⟨sent, e | _ | preview⟩
  all_goals rw [hrun] at hhonest
  · cases hhonest with
    | invalid h => exact absurd hvalid h
    | @missing _ n _ h =>
      obtain rfl : none = data := by rw [← hquiet n, h, Option.map_none]
      rfl
    | @changed _ n first value _ hfirst hvalue hne =>
      have hsame := Option.some.inj ((hdata 0 hfirst).symm.trans (hdata n hvalue))
      exact absurd (congrArg _ hsame.symm) hne
    | failed h hcode =>
      rw [hanswers _ _ _ h] at hcode
      cases hcode
  · exact hhonest.elim
  · obtain ⟨first, last, hfirst, -, -, htype⟩ := hhonest.type
    obtain rfl := hdata 0 hfirst
    refine ⟨preview, rfl, hhonest.identity.2, htype.symm, fun hbuiltin => ?_⟩
    have hsize : StoredValue.size (held 2) = first.data.size := by
      cases hheld : held 2 with
      | none =>
        have h := hquiet 2
        rw [hheld] at h
        cases h
      | some value =>
        rw [Option.some.inj (hdata 2 hheld)]
        rfl
    refine ⟨?_, fun hclean hkeeps c hc => ?_⟩
    · rw [hhonest.size, if_neg (htype ▸ hbuiltin), hsize]
    · cases hheld : held 3 with
      | none =>
        have h := hquiet 3
        rw [hheld] at h
        cases h
      | some value =>
        have hvalue := Option.some.inj (hdata 3 hheld)
        rw [hvalue] at hsize hkeeps hc
        exact ((hhonest.value (htype ▸ hbuiltin) value hheld).2 hclean (by rw [hsize]) hkeeps) c hc

theorem quiet_inspection_exact_list :
    ∃ preview, ((inspectKey noFloats 32 listRequest).run
        (fun _ => referenceAnswer (grownList 0)) []).2 = .ok (some preview) ∧
      preview.key = ⟨[107]⟩ ∧ preview.valueType = .list ∧
      (RedisValueType.list ≠ .moduleOrUnknown → preview.size = some 1 ∧
        (preview.truncated = false → (∀ c ∈ [PreviewCall.binary [104]], KeepsFlag noFloats c) →
          ∀ c ∈ [PreviewCall.binary [104]], ∃ part,
            ShowsCall noFloats c part ∧ part ⊆ preview.items)) :=
  @quiet_inspection_exact Empty noFloats 32 (fun _ => referenceAnswer (grownList 0))
    (fun _ => grownList 0) listRequest (fun _ => referenceAnswer_documented _ (grownList 0)) rfl
    (some (.list [[104]])) (fun _ => rfl)
    fun _ command failure h => by
      unfold referenceAnswer at h
      split at h
      · cases h
      · cases h
        rfl

end

end Dbotter.Drivers
