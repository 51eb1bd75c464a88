import Dbotter.Config.CrashSafety
import Dbotter.Config.Races
import Dbotter.Config.Updates

/-!
No profile update is lost.

Any number of calls of the writer and of replacements of the file by somebody else run in any
order of their steps. Every step of a call leaves the file alone, except the rename, which
finds the bytes that the call has loaded. The temporary file that is renamed is followed
through the steps of the other calls: a file belongs to the call that created it.
-/

namespace Dbotter.Configuration
open Dbotter.Utf8 Dbotter.Program
open Dbotter.Program.System

variable {toml : Toml} {mutation : ConfigMutation} {consent : MigrationConsent} {α : Type}

/-! ## Calls and runs -/

inductive FileCommand
  | mutate (mutation : ConfigMutation) (consent : MigrationConsent)
  | replace (content : Option Bytes)

/-- Somebody else replaces the file. -/
def replaceFile (content : Option Bytes) : ConfigTask Unit :=
  .step fun _ w =>
    ⟨{ w with directory := { w.directory with main := content } }, .ok (), some (.replaced content)⟩

def beginFile (toml : Toml) : FileCommand → ConfigTask (Option MutationOutcome)
  | .mutate mutation consent => do
      let outcome ← mutatePathTask toml mutation consent
      return some outcome
  | .replace content => do
      replaceFile content
      return none

abbrev FileSystem :=
  System World Conditions FileEvent ConfigError (Option MutationOutcome) FileCommand

def runFile (toml : Toml) (w : World) (actions : List (Action Conditions FileCommand)) :
    FileSystem :=
  System.run (beginFile toml) ⟨w, none, [], []⟩ actions

/-! ## What a step does to the file -/

/-- `after` is the printed mutation of the configuration in `before`. -/
def Commits (toml : Toml) (mutation : ConfigMutation) (before after : Option Bytes) : Prop :=
  ∃ loaded config affected encoded, loadBytes toml before = .ok loaded ∧
    applyMutation loaded.config mutation = .ok (config, affected) ∧
    validateConfigIdentity { config with version := currentConfigVersion } = .ok () ∧
    encodeConfig toml { config with version := currentConfigVersion } = .ok encoded ∧
    after = some encoded

def FileStep (toml : Toml) (w : World) (event : Option FileEvent) (w' : World) : Prop :=
  match event with
  | none => w'.directory.main = w.directory.main
  | some (.committed mutation) => Commits toml mutation w.directory.main w'.directory.main
  | some (.replaced content) => w'.directory.main = content

/-- The temporary file of a call: its number, and its content while it exists. -/
abbrev Own := Option (Nat × Option Bytes)

def Holds (own : Own) (w : World) : Prop :=
  ∀ n content, own = some (n, content) → w.directory.temp? n = content ∧ n < w.sequence

/-- The guarantee of a step: it is a step of the file as long as the call has its temporary
file, it leaves the temporary files of the others alone, and what it creates is new. -/
structure FileGuarantee (toml : Toml) (own : Own) (w : World) (event : Option FileEvent)
    (w' : World) (own' : Own) : Prop where
  step : Holds own w → FileStep toml w event w' ∧ Holds own' w'
  sequence : w.sequence ≤ w'.sequence
  others : ∀ n < w.sequence, (∀ content, own ≠ some (n, content)) →
    w'.directory.temp? n = w.directory.temp? n
  fresh : ∀ n content, own' = some (n, content) →
    (∃ content', own = some (n, content')) ∨ w.sequence ≤ n

/-- The file and all temporary files that are there are left alone. -/
structure Leaves (w w' : World) : Prop where
  main : w'.directory.main = w.directory.main
  sequence : w.sequence ≤ w'.sequence
  temps : ∀ n < w.sequence, w'.directory.temp? n = w.directory.temp? n

theorem Leaves.refl (w : World) : Leaves w w := ⟨rfl, le_rfl, fun _ _ => rfl⟩

theorem Leaves.guarantee {own : Own} {w w' : World} (h : Leaves w w') :
    FileGuarantee toml own w none w' own where
  step hown := ⟨h.main, fun n content heq => by
    obtain ⟨htemp, hlt⟩ := hown n content heq
    exact ⟨(h.temps n hlt).trans htemp, hlt.trans_le h.sequence⟩⟩
  sequence := h.sequence
  others n hlt _ := h.temps n hlt
  fresh n content heq := .inl ⟨content, heq⟩

/-- Everything is left alone but the temporary file `n`. -/
structure Touches (n : Nat) (w w' : World) : Prop where
  main : w'.directory.main = w.directory.main
  sequence : w'.sequence = w.sequence
  temps : ∀ k, k ≠ n → w'.directory.temp? k = w.directory.temp? k

theorem Touches.refl (n : Nat) (w : World) : Touches n w w := ⟨rfl, rfl, fun _ _ => rfl⟩

theorem Touches.guarantee {n : Nat} {before after : Option Bytes} {w w' : World}
    (h : Touches n w w')
    (hafter : w.directory.temp? n = before → w'.directory.temp? n = after) :
    FileGuarantee toml (some (n, before)) w none w' (some (n, after)) where
  step hown := ⟨h.main, by
    rintro k content ⟨⟩
    obtain ⟨htemp, hlt⟩ := hown n before rfl
    exact ⟨hafter htemp, h.sequence ▸ hlt⟩⟩
  sequence := h.sequence.ge
  others k _ hne := h.temps k fun hk => hne before (by rw [hk])
  fresh := by
    rintro k content ⟨⟩
    exact .inl ⟨before, rfl⟩

/-! ## Temporary files of others -/

namespace Directory
variable {d : Directory} {n k : Nat} {content : Bytes}

theorem temp?_append_ne (h : k ≠ n) :
    ({ d with temps := d.temps ++ [⟨n, content⟩] } : Directory).temp? k = d.temp? k := by
  have hnone : ([⟨n, content⟩] : List TempFile).find? (fun t => t.sequence == k) = none := by
    simp [Ne.symm h]
  simp [temp?, List.find?_append, hnone]

theorem temp?_append_self (h : d.temps.any (fun t => t.sequence == n) = false) :
    ({ d with temps := d.temps ++ [⟨n, content⟩] } : Directory).temp? n = some content := by
  have hnone : d.temps.find? (fun t => t.sequence == n) = none := by
    rw [List.find?_eq_none]
    intro t ht
    rw [List.any_eq_false] at h
    exact h t ht
  simp [temp?, List.find?_append, hnone]

theorem temp?_writeTemp (d : Directory) (n k : Nat) (content : Bytes) :
    (d.writeTemp n content).temp? k = if k = n then (d.temp? n).map fun _ => content
      else d.temp? k := by
  have hsequence : ((fun t : TempFile => t.sequence == k) ∘
      fun t => if t.sequence = n then ⟨n, content⟩ else t) = fun t => t.sequence == k := by
    funext t
    by_cases h : t.sequence = n
    · simp [h]
    · simp [h]
  simp only [writeTemp, temp?, List.find?_map, hsequence]
  by_cases hkn : k = n
  · subst hkn
    rw [if_pos rfl]
    cases hfind : d.temps.find? fun t => t.sequence == k with
    | none => rfl
    | some t =>
      have hk : t.sequence = k := by simpa using List.find?_some hfind
      simp [hk]
  · rw [if_neg hkn]
    cases hfind : d.temps.find? fun t => t.sequence == k with
    | none => rfl
    | some t =>
      have hk : t.sequence = k := by simpa using List.find?_some hfind
      simp [hk, hkn]

theorem temp?_removeTemp_ne (h : k ≠ n) : (d.removeTemp n).temp? k = d.temp? k := by
  have hsame : (fun t : TempFile => decide ((t.sequence != n) = true ∧ (t.sequence == k) = true)) =
      fun t => t.sequence == k := by
    funext t
    by_cases hk : t.sequence = k
    · simp [hk, h]
    · simp [hk]
  rw [removeTemp, temp?, temp?, List.find?_filter, hsame]

end Directory

/-- From `w₀` on, everything that was there is left alone. -/
def LeavesFrom (w₀ : World) (m : WriterM α) : Prop :=
  Ensures (Leaves w₀) m fun _ => Leaves w₀

namespace LeavesFrom
variable {env : Environment} {w₀ : World} {β : Type}

theorem leaves {m : WriterM α} (h : ∀ w, LeavesFrom w m) (w : World) : Leaves w (m w).2 :=
  h w w (.refl w)

theorem pure (a : α) : LeavesFrom w₀ (Pure.pure a : WriterM α) := fun _ h => h

theorem fail (e : ConfigError) : LeavesFrom w₀ (.fail e : WriterM α) := fun _ h => h

theorem ofExcept (r : Except ConfigError α) : LeavesFrom w₀ (.ofExcept r) := fun _ h => h

theorem bind {m : WriterM α} {f : α → WriterM β} (hm : LeavesFrom w₀ m)
    (hf : ∀ a, LeavesFrom w₀ (f a)) : LeavesFrom w₀ (m >>= f) :=
  .keep_bind hm (fun _ _ h => h) hf

/-- A program that begins with a look at the world. -/
theorem get {f : World → WriterM β} (hf : ∀ w, LeavesFrom w₀ (f w)) :
    LeavesFrom w₀ (Prog.get >>= f) :=
  Ensures.get fun w hw => (hf w).strengthen fun w' (h : w' = w) => h ▸ hw

theorem ite {c : Prop} [Decidable c] {m m' : WriterM α} (h : LeavesFrom w₀ m)
    (h' : LeavesFrom w₀ m') : LeavesFrom w₀ (if c then m else m') :=
  Ensures.ite (fun _ => h) fun _ => h'

theorem modify {f : World → World} (h : ∀ w, Leaves w₀ w → Leaves w₀ (f w)) :
    LeavesFrom w₀ (.modify f) := h

theorem cleanup {m : WriterM α} {f : World → World} (hm : LeavesFrom w₀ m)
    (h : ∀ w, Leaves w₀ w → Leaves w₀ (f w)) : LeavesFrom w₀ (m.cleanup f) :=
  Ensures.cleanup (hm.weaken fun _ w hw => h w hw)

theorem osCall (e : ConfigError) : LeavesFrom w₀ (osCall env e) :=
  osCall_keeps (fun _ _ h => ⟨h.main, h.sequence, h.temps⟩) e

theorem check (point : MutationFailpoint) : LeavesFrom w₀ (check env point) := check_keeps _ point

theorem ensureParent : LeavesFrom w₀ (ensureParent env) := osCall _

theorem setDirectory {f : Directory → Directory} (hmain : ∀ d, (f d).main = d.main)
    (htemps : ∀ d, ∀ n < w₀.sequence, (f d).temp? n = d.temp? n) :
    LeavesFrom w₀ (setDirectory f) :=
  modify fun _ h => ⟨(hmain _).trans h.main, h.sequence,
    fun n hn => (htemps _ n hn).trans (h.temps n hn)⟩

theorem readMain : LeavesFrom w₀ (readMain env) := bind (osCall _) fun _ => get fun _ => pure _

theorem syncDirectory (stage : MutationFailpoint) : LeavesFrom w₀ (syncDirectory env stage) :=
  bind (osCall _) fun _ => modify fun _ h => ⟨h.main, h.sequence, h.temps⟩

theorem readExistingBackup : LeavesFrom w₀ (readExistingBackup env) := by
  refine bind (osCall _) fun _ => get fun _ => ?_
  split
  · exact pure _
  · refine ite (fail _) ?_
    exact bind (osCall _) fun _ => bind (osCall _) fun _ => bind (osCall _) fun _ => pure _

theorem syncBackup : LeavesFrom w₀ (syncBackup env) := bind (check _) fun _ => syncDirectory _

theorem dropped {n : Nat} (hn : w₀.sequence ≤ n) (w : World) (h : Leaves w₀ w) :
    Leaves w₀ (dropCleanup n w) := by
  unfold dropCleanup
  split
  · refine ⟨h.main, h.sequence, fun k hk => ?_⟩
    exact (Directory.temp?_removeTemp_ne (Nat.ne_of_lt (hk.trans_le hn))).trans (h.temps k hk)
  · exact h

/-- A new temporary file has a new name. -/
theorem createTemp : Ensures (Leaves w₀) (createTemp env) fun r w =>
    Leaves w₀ w ∧ ∀ n, r = .ok n →
      w₀.sequence ≤ n ∧ n < w.sequence ∧ w.directory.temp? n = some [] := by
  refine .get fun w hw => ?_
  refine .bind (fun _ w' => Leaves w₀ w' ∧ w'.sequence = w.sequence + 1 ∧
    w'.directory = w.directory) (.modify ?_) fun _ => ?_
  · rintro _ rfl
    exact ⟨⟨hw.main, hw.sequence.trans (Nat.le_succ _), hw.temps⟩, rfl, rfl⟩
  refine .keep_bind (osCall_keeps ?_ _) (fun e w' h => ⟨h.1, nofun⟩) fun _ => ?_
  · exact fun w' k h => ⟨⟨h.1.main, h.1.sequence, h.1.temps⟩, h.2⟩
  refine .ite (fun _ => .fail fun w' h => ⟨h.1, nofun⟩) fun hfresh => ?_
  refine .bind (fun _ w' => Leaves w₀ w' ∧ w'.sequence = w.sequence + 1 ∧
    w'.directory.temp? w.sequence = some []) (.modify ?_) fun _ => .pure ?_
  · rintro w' ⟨h, hsequence, hdirectory⟩
    refine ⟨⟨h.main, h.sequence, fun n hn => ?_⟩, hsequence, ?_⟩
    · have hne : n ≠ w.sequence := Nat.ne_of_lt (hn.trans_le hw.sequence)
      exact (Directory.temp?_append_ne hne).trans (h.temps n hn)
    · refine Directory.temp?_append_self ?_
      rw [hdirectory]
      simpa using hfresh
  · rintro w' ⟨h, hsequence, htemp⟩
    refine ⟨h, ?_⟩
    rintro n ⟨⟩
    exact ⟨hw.sequence, by omega, htemp⟩

theorem fillTemp {n : Nat} (hn : w₀.sequence ≤ n) (content : Bytes)
    (write fileSync : MutationFailpoint) :
    LeavesFrom w₀ (fillTemp env n content write fileSync) := by
  refine bind (check _) fun _ => bind (osCall _) fun _ => bind (setDirectory (fun _ => rfl) ?_)
    fun _ => bind (osCall _) fun _ => bind (check _) fun _ => osCall _
  intro d k hk
  rw [Directory.temp?_writeTemp, if_neg (Nat.ne_of_lt (hk.trans_le hn))]

theorem withTemp {body : Nat → WriterM α} (h : ∀ n, w₀.sequence ≤ n → LeavesFrom w₀ (body n)) :
    LeavesFrom w₀ (withTemp env body) := by
  refine Ensures.bind (fun n w => Leaves w₀ w ∧ w₀.sequence ≤ n) (createTemp.weaken ?_) fun n => ?_
  · intro r w hw
    cases r with
    | ok n => exact ⟨hw.1, (hw.2 n rfl).1⟩
    | error e => exact hw.1
  · rintro w ⟨hw, hn⟩
    have hbody : LeavesFrom w₀ ((body n).cleanup (dropCleanup n)) := cleanup (h n hn) (dropped hn)
    have harm : LeavesFrom w₀ (.modify fun w => { w with armed := true }) :=
      modify fun _ h => ⟨h.main, h.sequence, h.temps⟩
    exact bind harm (fun _ => hbody) w hw

theorem publishBackup (original : Bytes) : LeavesFrom w₀ (publishBackup env original) := by
  refine bind (osCall _) fun _ => bind (check _) fun _ => withTemp fun n hn => ?_
  refine bind (fillTemp hn _ _ _) fun _ => bind (check _) fun _ => bind ?_ fun renamed => ?_
  · refine bind (osCall _) fun _ => get fun w => ?_
    split
    · exact fail _
    · refine ite (pure _) (bind (setDirectory (fun _ => rfl) ?_) fun _ => pure _)
      intro d k hk
      exact Directory.temp?_removeTemp_ne (Nat.ne_of_lt (hk.trans_le hn))
  · refine ite (bind (modify fun _ h => ⟨h.main, h.sequence, h.temps⟩) fun _ => syncBackup) ?_
    refine bind readExistingBackup fun existing => ?_
    exact ite syncBackup (bind (fail _) fun _ => syncBackup)

theorem prepareMigration (loaded : LoadedConfig) (consent : MigrationConsent) :
    LeavesFrom w₀ (prepareMigration env loaded consent) := by
  refine ite (pure _) (ite (fail _) (bind (bind readExistingBackup fun existing => ?_)
    fun _ => pure _))
  split
  · exact ite (bind (osCall _) fun _ => syncBackup) (fail _)
  · exact publishBackup _

theorem loadPath : LeavesFrom w₀ (loadPath env) := bind readMain fun _ => ofExcept _

theorem observeMain : LeavesFrom w₀ (observeMain env) := by
  refine ite (fail _) (bind loadPath fun loaded => bind (ofExcept _) fun _ => ?_)
  exact ite (fail _) (pure _)

theorem syncMain : LeavesFrom w₀ (syncMain env) := by
  refine ite (pure _) (ite (pure _) (bind ?_ fun result => ?_))
  · exact Ensures.attempt (syncDirectory _)
  · cases result with
    | ok u => exact pure _
    | error e => exact pure _

end LeavesFrom

/-! ## The sections of one call -/

section
variable {own : Own}

theorem inSection_sat {m : Environment → WriterM α} {Q : Own → Except ConfigError α → Prop}
    (h : ∀ conditions w, ∃ own',
      FileGuarantee toml own w none (m (Conditions.environment toml conditions) w).2 own' ∧
        Q own' (m (conditions.environment toml) w).1) :
    (inSection toml m).Sat (FileGuarantee toml) Q own :=
  Task.Sat.step h

/-- A section that leaves everything alone. -/
theorem inSection_keeps {m : Environment → WriterM α} (h : ∀ env w, LeavesFrom w (m env)) :
    (inSection toml m).Sat (FileGuarantee toml) (fun own' _ => own' = own) own :=
  inSection_sat fun _ w => ⟨own, (LeavesFrom.leaves (h _) w).guarantee, rfl⟩

/-- The same with what is known of its result. -/
theorem inSection_returns {m : Environment → WriterM α} {R : Except ConfigError α → Prop}
    (h : ∀ env w, LeavesFrom w (m env))
    (hR : ∀ conditions w, R (m (Conditions.environment toml conditions) w).1) :
    (inSection toml m).Sat (FileGuarantee toml) (fun own' r => own' = own ∧ R r) own :=
  inSection_sat fun conditions w =>
    ⟨own, (LeavesFrom.leaves (h _) w).guarantee, rfl, hR conditions w⟩

theorem createTemp_sat : (inSection toml createTemp).Sat (FileGuarantee toml)
    (fun own r => ∀ n, r = .ok n → own = some (n, some [])) none := by
  refine inSection_sat fun conditions w => ?_
  have hspec := @LeavesFrom.createTemp (conditions.environment toml) w w (.refl w)
  cases hr : (createTemp (conditions.environment toml) w).1 with
  | error e => exact ⟨none, hspec.1.guarantee, fun n hn => nomatch hn⟩
  | ok n =>
    obtain ⟨hle, hlt, htemp⟩ := hspec.2 n hr
    refine ⟨some (n, some []), ⟨?_, hspec.1.sequence, fun k hk _ => hspec.1.temps k hk, ?_⟩, ?_⟩
    · refine fun _ => ⟨hspec.1.main, ?_⟩
      rintro k content ⟨⟩
      exact ⟨htemp, hlt⟩
    · rintro k content ⟨⟩
      exact .inr hle
    · rintro k ⟨⟩
      rfl

theorem fillTemp_touches {env : Environment} (w : World) (n : Nat) (content : Bytes)
    (write fileSync : MutationFailpoint) :
    Ensures (fun w' => Touches n w w' ∧ w'.directory.temp? n = w.directory.temp? n)
      (fillTemp env n content write fileSync) fun r w' => Touches n w w' ∧
        (w'.directory.temp? n = (w.directory.temp? n).map (fun _ => content) ∨
          (∃ e, r = .error e) ∧ w'.directory.temp? n = w.directory.temp? n) := by
  have htick : ∀ (P : Directory → Prop) e, Ensures (fun w' => Touches n w w' ∧ P w'.directory)
      (osCall env e) fun _ w' => Touches n w w' ∧ P w'.directory :=
    fun P e => osCall_keeps (fun _ _ h => ⟨⟨h.1.main, h.1.sequence, h.1.temps⟩, h.2⟩) e
  refine .keep_bind (check_keeps _ _) (fun e _ h => ⟨h.1, .inr ⟨⟨e, rfl⟩, h.2⟩⟩) fun _ => ?_
  refine .keep_bind (htick (fun d => d.temp? n = w.directory.temp? n) _)
    (fun e _ h => ⟨h.1, .inr ⟨⟨e, rfl⟩, h.2⟩⟩) fun _ => ?_
  refine .bind (fun _ w' => Touches n w w' ∧
    w'.directory.temp? n = (w.directory.temp? n).map fun _ => content) (.modify ?_) fun _ => ?_
  · rintro w' ⟨h, htemp⟩
    refine ⟨⟨h.main, h.sequence, fun k hk => ?_⟩, ?_⟩
    · show (w'.directory.writeTemp n content).temp? k = _
      rw [Directory.temp?_writeTemp, if_neg hk]
      exact h.temps k hk
    · show (w'.directory.writeTemp n content).temp? n = _
      rw [Directory.temp?_writeTemp, if_pos rfl, htemp]
  refine .keep_bind (htick (fun d => d.temp? n = (w.directory.temp? n).map fun _ => content) _)
    (fun e _ h => ⟨h.1, .inl h.2⟩) fun _ => ?_
  refine .keep_bind (check_keeps _ _) (fun e _ h => ⟨h.1, .inl h.2⟩) fun _ => ?_
  exact (htick (fun d => d.temp? n = (w.directory.temp? n).map fun _ => content) _).weaken
    fun _ _ h => ⟨h.1, .inl h.2⟩

theorem fillTempTask_sat (n : Nat) (content : Bytes) (write fileSync : MutationFailpoint) :
    (fillTempTask toml n content write fileSync).Sat (FileGuarantee toml)
      (fun own r => ∃ after, own = some (n, after) ∧ (r = .ok () → after = some content))
      (some (n, some [])) := by
  refine inSection_sat fun conditions w => ?_
  obtain ⟨htouches, htemp⟩ := @fillTemp_touches (conditions.environment toml) w n content
    write fileSync w ⟨.refl n w, rfl⟩
  rcases htemp with htemp | ⟨⟨e, he⟩, htemp⟩
  · refine ⟨_, htouches.guarantee ?_, some content, rfl, fun _ => rfl⟩
    intro hempty
    rw [htemp, hempty]
    rfl
  · refine ⟨_, htouches.guarantee ?_, some [], rfl, ?_⟩
    · intro hempty
      rw [htemp, hempty]
    · intro hok
      rw [he] at hok
      cases hok

theorem replaceMain_spec {env : Environment} (w : World) (n : Nat) (expected : Option Bytes) :
    Ensures (fun w' => w'.directory = w.directory ∧ w'.sequence = w.sequence)
      (replaceMain n expected env) fun
      | .ok _ => fun w' => w.directory.main = expected ∧ w'.sequence = w.sequence ∧
          ∃ content, w.directory.temp? n = some content ∧
            w'.directory = { w.directory.removeTemp n with main := some content }
      | .error _ => fun w' => w'.directory = w.directory ∧ w'.sequence = w.sequence := by
  refine .bind (fun fingerprint w' => (w'.directory = w.directory ∧ w'.sequence = w.sequence) ∧
    fingerprint = w.directory.main) ((readMain_spec _ (fun _ _ h => h)
      fun _ h => congrArg Directory.main h.1).weaken ?_) fun fingerprint => ?_
  · intro r w' h
    cases r with
    | ok fingerprint => exact ⟨h.1, h.2 fingerprint rfl⟩
    | error e => exact h.1
  refine .ite (fun _ => .fail fun w' h => h.1) fun hsame => ?_
  have hexpected : fingerprint = expected := by simpa using hsame
  refine .bind (fun _ w' => w.directory.main = expected ∧ w'.sequence = w.sequence ∧
    ∃ content, w.directory.temp? n = some content ∧
      w'.directory = { w.directory.removeTemp n with main := some content }) ?_
    fun _ => .modify fun _ h => h
  refine .keep_bind (osCall_keeps (fun _ _ h => h) _) (fun _ _ h => h.1) fun _ => ?_
  refine .get fun w' hw' => ?_
  rw [hw'.1.1]
  cases htemp : w.directory.temp? n with
  | none => exact .fail fun _ h => h ▸ hw'.1
  | some content =>
    refine .modify ?_
    rintro _ rfl
    exact ⟨hw'.2.symm.trans hexpected, hw'.1.2, content, rfl, by rw [hw'.1.1]⟩

/-- The rename finds what was loaded, and the temporary file is what was printed. -/
theorem commitMain_sat {loaded : LoadedConfig} {encoded : Bytes} {config : Config}
    {before : Option Bytes} {affected : Option Text} {n : Nat}
    (hload : loadBytes toml before = .ok loaded)
    (happly : applyMutation loaded.config mutation = .ok (config, affected))
    (hvalid : validateConfigIdentity { config with version := currentConfigVersion } = .ok ())
    (hencode : encodeConfig toml { config with version := currentConfigVersion } = .ok encoded) :
    (commitMain toml mutation n loaded.fingerprint).Sat (FileGuarantee toml)
      (fun own _ => ∃ after, own = some (n, after)) (some (n, some encoded)) := by
  refine Task.Sat.step fun conditions w => ?_
  have hspec := @replaceMain_spec (conditions.environment toml) w n loaded.fingerprint w
    ⟨rfl, rfl⟩
  cases hr : (replaceMain n loaded.fingerprint (conditions.environment toml) w).1 with
  | error e =>
    rw [hr] at hspec
    have hleaves : Leaves w (replaceMain n loaded.fingerprint (conditions.environment toml) w).2 :=
      ⟨congrArg Directory.main hspec.1, hspec.2.ge, fun k _ => by rw [hspec.1]⟩
    exact ⟨_, hleaves.guarantee, _, rfl⟩
  | ok u =>
    rw [hr] at hspec
    obtain ⟨hmain, hsequence, found, htemp, hdirectory⟩ := hspec
    generalize (replaceMain n loaded.fingerprint (conditions.environment toml) w).2 = w' at *
    have htemps : ∀ k, k ≠ n → w'.directory.temp? k = w.directory.temp? k := by
      intro k hk
      rw [hdirectory]
      exact Directory.temp?_removeTemp_ne hk
    refine ⟨some (n, w'.directory.temp? n), ⟨?_, hsequence.ge, ?_, ?_⟩, _, rfl⟩
    · intro hown
      obtain ⟨hencoded, hlt⟩ := hown n (some encoded) rfl
      have hfound : found = encoded := by
        rw [htemp] at hencoded
        exact Option.some.inj hencoded
      subst hfound
      constructor
      · refine ⟨loaded, config, affected, found, ?_, happly, hvalid, hencode, ?_⟩
        · rw [hmain, loadBytes_fingerprint hload]
          exact hload
        · rw [hdirectory]
      · rintro k after ⟨⟩
        exact ⟨rfl, hsequence ▸ hlt⟩
    · exact fun k _ hne => htemps k fun hk => hne (some encoded) (by rw [hk])
    · rintro k after ⟨⟩
      exact .inl ⟨_, rfl⟩

theorem syncMain_sat : (inSection toml syncMain).Sat (FileGuarantee toml)
    (fun own' _ => own' = own) own :=
  inSection_keeps fun _ _ => LeavesFrom.syncMain

/-- The guard of a temporary file: whatever the body does with its own file, the call ends
with a step on that file. -/
theorem withTempTask_sat {body : Nat → ConfigTask α}
    (h : ∀ n, (body n).Sat (FileGuarantee toml) (fun own _ => ∃ after, own = some (n, after))
      (some (n, some []))) :
    (withTempTask toml body).Sat (FileGuarantee toml) (fun _ _ => True) none := by
  refine createTemp_sat.bind (fun own n hn => ?_) fun _ _ _ => trivial
  have harm : (inSection toml fun _ => .modify fun w => { w with armed := true }).Sat
      (FileGuarantee toml) (fun own' _ => own' = own) own :=
    inSection_keeps fun _ _ => LeavesFrom.modify fun _ h => ⟨h.main, h.sequence, h.temps⟩
  refine harm.bind (fun own' _ hown => ?_) fun _ _ _ => trivial
  rw [hown, hn n rfl]
  have hbody := @Task.Sat.attempt _ _ _ _ ConfigError _ _ _ _ _ _
    (fun own _ => ∃ after, own = some (n, after)) (h n) fun _ _ hown => hown
  refine hbody.bind (fun own result hown => ?_) fun _ _ _ => trivial
  obtain ⟨after, rfl⟩ := hown
  refine Task.Sat.bind (Q := fun _ _ => True) (inSection_sat fun conditions w => ?_)
    (fun _ _ _ => trivial) fun _ _ _ => trivial
  have htouches : Touches n w (dropCleanup n w) := by
    unfold dropCleanup
    split
    · exact ⟨rfl, rfl, fun k hk => Directory.temp?_removeTemp_ne hk⟩
    · exact .refl n w
  exact ⟨some (n, (dropCleanup n w).directory.temp? n), htouches.guarantee fun _ => rfl, trivial⟩

theorem mutatedBytes_valid {env : Environment} {loaded : LoadedConfig} {encoded : Bytes}
    {affected : Option Text} (h : mutatedBytes env loaded mutation = .ok (encoded, affected)) :
    ∃ config, applyMutation loaded.config mutation = .ok (config, affected) ∧
      validateConfigIdentity { config with version := currentConfigVersion } = .ok () ∧
      encodeConfig env.toml { config with version := currentConfigVersion } = .ok encoded := by
  obtain ⟨config, happly, hencode⟩ := mutatedBytes_ok h
  refine ⟨config, happly, ?_, hencode⟩
  simp only [mutatedBytes, happly, bind, Except.bind, validated] at h
  cases hvalid : validateConfigIdentity { config with version := currentConfigVersion } with
  | ok u => rfl
  | error e =>
    rw [hvalid] at h
    cases h

theorem writeMainTask_sat {loaded : LoadedConfig} {encoded : Bytes} {config : Config}
    {before : Option Bytes} {affected : Option Text}
    (hload : loadBytes toml before = .ok loaded)
    (happly : applyMutation loaded.config mutation = .ok (config, affected))
    (hvalid : validateConfigIdentity { config with version := currentConfigVersion } = .ok ())
    (hencode : encodeConfig toml { config with version := currentConfigVersion } = .ok encoded) :
    (writeMainTask toml mutation encoded loaded.fingerprint).Sat (FileGuarantee toml)
      (fun _ _ => True) none := by
  apply (inSection_keeps (m := ensureParent) fun _ _ => LeavesFrom.ensureParent).bind ?_ fun _ _ _ => trivial
  rintro own _ rfl
  apply (inSection_keeps fun _ _ => LeavesFrom.check _).bind ?_ fun _ _ _ => trivial
  rintro own _ rfl
  refine withTempTask_sat fun n => ?_
  refine (fillTempTask_sat n encoded _ _).bind (fun own u hown => ?_) ?_
  · obtain ⟨after, rfl, hafter⟩ := hown
    rw [hafter rfl]
    refine (inSection_keeps fun _ _ => LeavesFrom.check _).bind (fun own _ hown => ?_)
      fun _ _ hown => ⟨_, hown⟩
    subst hown
    refine (commitMain_sat hload happly hvalid hencode).bind (fun own _ hown => ?_)
      fun _ _ hown => hown
    obtain ⟨after, rfl⟩ := hown
    exact syncMain_sat.weaken fun _ _ hown => ⟨after, hown⟩
  · rintro own e ⟨after, rfl, -⟩
    exact ⟨after, rfl⟩

theorem mutateLoaded_sat : (mutateLoaded toml mutation consent).Sat (FileGuarantee toml)
    (fun _ _ => True) none := by
  have hload : (inSection toml loadPath).Sat (FileGuarantee toml) (fun own r => own = none ∧
      ∀ loaded, r = .ok loaded → ∃ before, loadBytes toml before = .ok loaded) none := by
    refine inSection_returns (fun _ _ => LeavesFrom.loadPath) fun conditions w loaded hr => ?_
    have hspec := @loadPath_spec (conditions.environment toml)
      (fun w' => w'.directory = w.directory) (fun _ _ h => h) _ (fun _ h => congrArg _ h) w rfl
    exact ⟨_, hspec.2 loaded hr⟩
  apply hload.bind ?_ fun _ _ _ => trivial
  rintro own loaded ⟨rfl, hloaded⟩
  obtain ⟨before, hbefore⟩ := hloaded loaded rfl
  apply Task.Sat.bind (Q := fun own _ => own = none) (Task.Steady.done _ none) ?_
    fun _ _ _ => trivial
  rintro own _ rfl
  apply (inSection_keeps fun _ _ => LeavesFrom.ofExcept _).bind ?_ fun _ _ _ => trivial
  rintro own _ rfl
  apply (inSection_keeps fun _ _ => LeavesFrom.prepareMigration _ _).bind ?_ fun _ _ _ => trivial
  rintro own backup rfl
  have hbytes : (inSection toml fun env => .ofExcept (mutatedBytes env loaded mutation)).Sat
      (FileGuarantee toml) (fun own r => own = none ∧ ∀ bytes, r = .ok bytes →
        ∃ config, applyMutation loaded.config mutation = .ok (config, bytes.2) ∧
          validateConfigIdentity { config with version := currentConfigVersion } = .ok () ∧
          encodeConfig toml { config with version := currentConfigVersion } = .ok bytes.1) none :=
    inSection_returns (fun _ _ => LeavesFrom.ofExcept _) fun conditions w bytes hr =>
      @mutatedBytes_valid _ (conditions.environment toml) _ _ _ hr
  apply hbytes.bind ?_ fun _ _ _ => trivial
  rintro own ⟨encoded, affected⟩ ⟨rfl, hencoded⟩
  obtain ⟨config, happly, hvalid, hencode⟩ := hencoded _ rfl
  apply (writeMainTask_sat hbefore happly hvalid hencode).bind ?_ fun _ _ _ => trivial
  intro own state _
  have hobserve : (inSection toml observeMain).attempt.Sat (FileGuarantee toml)
      (fun (_ : Own) (_ : Except ConfigError (Except ConfigError LoadedConfig)) => True) own :=
    (inSection_keeps fun _ _ => LeavesFrom.observeMain).attempt fun _ _ _ => trivial
  apply hobserve.bind ?_ fun _ _ _ => trivial
  intro own observation _
  cases observation with
  | ok observed => trivial
  | error source => trivial

theorem mutatePathTask_sat : (mutatePathTask toml mutation consent).Sat (FileGuarantee toml)
    (fun _ _ => True) none := by
  have hbody : (do
      inSection toml fun env => if env.lockPoisoned then .fail .writerUnavailable else pure ()
      mutateLoaded toml mutation consent : ConfigTask MutationOutcome).Sat (FileGuarantee toml)
      (fun _ _ => True) none := by
    apply (inSection_keeps fun _ _ => LeavesFrom.ite (.fail _) (.pure _)).bind ?_
      fun _ _ _ => trivial
    rintro own _ rfl
    exact mutateLoaded_sat
  have hattempt := @Task.Sat.attempt _ _ _ _ ConfigError _ _ _ _ _ _ (fun _ _ => True) hbody
    fun _ _ h => h
  exact hattempt.bind (fun _ _ _ => trivial) fun _ _ _ => trivial

theorem beginFile_sat (command : FileCommand) :
    (beginFile toml command).Sat (FileGuarantee toml) (fun _ _ => True) none := by
  cases command with
  | mutate mutation consent =>
    exact mutatePathTask_sat.bind (fun _ _ _ => trivial) fun _ _ _ => trivial
  | replace content =>
    intro conditions w
    refine ⟨none, ⟨fun _ => ⟨rfl, fun _ _ h => nomatch h⟩, le_rfl, fun _ _ _ => rfl,
      fun _ _ h => nomatch h⟩, trivial⟩

end

/-! ## A successful call has written -/

abbrev FileSteps := History World FileEvent

def Committed (mutation : ConfigMutation) (steps : FileSteps) : Prop :=
  ∃ x ∈ steps, x.2.1 = some (.committed mutation)

theorem Committed.mono {past steps : FileSteps} (h : Committed mutation past)
    (hle : past <+: steps) : Committed mutation steps := by
  obtain ⟨x, hx, hevent⟩ := h
  exact ⟨x, hle.subset hx, hevent⟩

/-- A result of `t` comes with a commit of the mutation. -/
def Writes (mutation : ConfigMutation) (t : ConfigTask α) : Prop :=
  ∀ past, Along (fun steps r => r.isOk = true → Committed mutation steps) t past

namespace Writes
variable {β : Type}

theorem after {t : ConfigTask α} {f : α → ConfigTask β} (hf : ∀ a, Writes mutation (f a)) :
    Writes mutation (t >>= f) := by
  intro past
  apply Task.Sat.bind (Along.trivial t past)
  · exact fun steps a _ => hf a steps
  · exact fun steps e _ hok => nomatch hok

theorem before {t : ConfigTask α} {f : α → ConfigTask β} (ht : Writes mutation t) :
    Writes mutation (t >>= f) := by
  intro past
  apply Task.Sat.bind (ht past)
  · intro steps a hok
    exact Task.Sat.weaken (Along.grows (f a) steps) fun _ _ hle _ => (hok rfl).mono hle
  · exact fun steps e _ hok => nomatch hok

/-- The result of a body that is kept while something else is done. -/
theorem guarded {t : ConfigTask α} {u : ConfigTask Unit} (ht : Writes mutation t) :
    Writes mutation (do
      let result ← t.attempt
      u
      .ofExcept result) := by
  intro past
  have hattempt : Along (fun steps r => ∀ result, r = .ok result → result.isOk = true →
      Committed mutation steps) (t.attempt : ConfigTask (Except ConfigError α)) past := by
    refine Task.Sat.attempt (ht past) ?_
    rintro steps r h result ⟨⟩
    exact h
  apply Task.Sat.bind hattempt
  · intro steps result h
    apply Task.Sat.bind (Along.grows u steps)
    · intro steps' _ hle hok
      exact (h result rfl hok).mono hle
    · exact fun _ _ _ hok => nomatch hok
  · exact fun steps e _ hok => nomatch hok

theorem commitMain (n : Nat) (expected : Option Bytes) :
    Writes mutation (commitMain toml mutation n expected) := by
  intro past conditions w
  refine ⟨_, rfl, fun hok => ⟨_, List.mem_append_right _ (List.mem_singleton.mpr rfl), ?_⟩⟩
  have hok' : (replaceMain n expected (conditions.environment toml) w).1.isOk = true := hok
  simp only [hok', if_true]

theorem mutatePathTask : Writes mutation (mutatePathTask toml mutation consent) := by
  have hmain : ∀ encoded expected, Writes mutation (writeMainTask toml mutation encoded expected) := by
    intro encoded expected
    refine after fun _ => after fun _ => after fun n => after fun _ => guarded ?_
    exact after fun _ => after fun _ => (commitMain n expected).before
  refine after fun _ => guarded (after fun _ => after fun loaded => after fun _ => after fun _ => ?_)
  refine after fun backup => after fun bytes => (hmain bytes.1 loaded.fingerprint).before

end Writes

theorem beginFile_along (command : FileCommand) :
    Along (fun steps r => ∀ mutation consent, command = .mutate mutation consent →
      r.isOk = true → Committed mutation steps) (beginFile toml command) [] := by
  cases command with
  | mutate mutation consent =>
    refine Task.Sat.weaken (Writes.before (@Writes.mutatePathTask toml mutation consent) []) ?_
    rintro steps r h _ _ ⟨⟩
    exact h
  | replace content =>
    refine Task.Sat.weaken (Along.trivial _ _) ?_
    exact fun steps r _ _ _ h => nomatch h

/-! ## The result -/

/-- The profile ids of the configuration in the file, if there is one, are unique and valid. -/
def FileIdentified (toml : Toml) (content : Option Bytes) : Prop :=
  ∀ loaded, loadBytes toml content = .ok loaded → Identified loaded.config.profiles

/-- A write of the file: of the configuration that it replaces only the target of the mutation
is changed, and the ids are unique and valid. -/
structure Updates (toml : Toml) (mutation : ConfigMutation) (before after : Option Bytes)
    (old new : LoadedConfig) : Prop where
  found : loadBytes toml before = .ok old
  left : loadBytes toml after = .ok new
  onlyTarget : OnlyTarget old.config.profiles new.config.profiles mutation
  identified : Identified new.config.profiles

theorem Commits.updates (hreads : toml.ReadsBack) {before after : Option Bytes}
    (h : Commits toml mutation before after) :
    ∃ old new, Updates toml mutation before after old new := by
  obtain ⟨loaded, config, affected, encoded, hload, happly, hvalid, hencode, rfl⟩ := h
  have honly : OnlyTarget loaded.config.profiles config.profiles mutation :=
    applyMutation_onlyTarget happly
  exact ⟨loaded, _, hload, loadBytes_encoded hreads rfl hencode, honly,
    (validateConfigIdentity_ok_iff _).mp hvalid⟩

theorem Commits.identified (hreads : toml.ReadsBack) {before after : Option Bytes}
    (h : Commits toml mutation before after) : FileIdentified toml after := by
  obtain ⟨old, new, hupdates⟩ := h.updates hreads
  intro loaded hloaded
  rw [hupdates.left] at hloaded
  cases hloaded
  exact hupdates.identified

/-- What holds of the file after a run. -/
structure NoLostUpdate (toml : Toml) (w : World) (sys : FileSystem) : Prop where
  /-- A step that is neither a commit nor somebody else's leaves the file alone. -/
  kept : ∀ e ∈ sys.trace, e.event = none → e.after.directory.main = e.before.directory.main
  /-- A commit changes the target of the mutation, and nothing else, of what it replaces. -/
  updated : ∀ e ∈ sys.trace, ∀ mutation, e.event = some (.committed mutation) →
    ∃ old new, Updates toml mutation e.before.directory.main e.after.directory.main old new
  /-- A call that succeeds has made its commit. -/
  committed : ∀ i mutation consent outcome,
    sys.calls[i]? = some ⟨.mutate mutation consent, .finished (.ok outcome)⟩ →
      ∃ e ∈ sys.trace, e.call = i ∧ e.event = some (.committed mutation)
  /-- The ids stay unique and valid as long as nobody else brings in others. -/
  identified : FileIdentified toml w.directory.main →
    (∀ e ∈ sys.trace, ∀ content, e.event = some (.replaced content) →
      FileIdentified toml content) →
    FileIdentified toml sys.shared.directory.main

/-- The temporary files belong to the calls, and the steps were steps of the file. -/
structure Ordered (toml : Toml) (w₀ : World) (ghost : Nat → Own) (w : World)
    (trace : List (Entry World FileEvent)) : Prop where
  holds : ∀ i, Holds (ghost i) w
  apart : ∀ i j n x y, ghost i = some (n, x) → ghost j = some (n, y) → i = j
  steps : ∀ e ∈ trace, FileStep toml e.before e.event e.after
  identified : FileIdentified toml w₀.directory.main →
    (∀ e ∈ trace, ∀ content, e.event = some (.replaced content) → FileIdentified toml content) →
    FileIdentified toml w.directory.main

theorem Ordered.step (hreads : toml.ReadsBack) {w₀ w w' : World} {ghost : Nat → Own}
    {trace : List (Entry World FileEvent)} {i : Nat} {event : Option FileEvent} {own' : Own}
    (h : Ordered toml w₀ ghost w trace) (hstep : FileGuarantee toml (ghost i) w event w' own') :
    Ordered toml w₀ (Function.update ghost i own') w' (trace ++ [⟨i, w, event, w'⟩]) := by
  obtain ⟨hfile, hown'⟩ := hstep.step (h.holds i)
  constructor
  case holds =>
    intro j
    by_cases hij : j = i
    · subst hij
      rwa [Function.update_self]
    · rw [Function.update_of_ne hij]
      intro n content hghost
      obtain ⟨htemp, hlt⟩ := h.holds j n content hghost
      refine ⟨?_, hlt.trans_le hstep.sequence⟩
      rw [hstep.others n hlt fun x hx => hij (h.apart j i n _ _ hghost hx), htemp]
  case apart =>
    -- a number that the step has taken is either the call's own or new
    have key : ∀ j n x y, j ≠ i → own' = some (n, x) → ghost j = some (n, y) → False := by
      intro j n x y hji hx hy
      rcases hstep.fresh n x hx with ⟨x', hx'⟩ | hle
      · exact hji (h.apart j i n _ _ hy hx')
      · exact absurd (h.holds j n y hy).2 (not_lt.mpr hle)
    intro j k n x y hj hk
    by_cases hji : j = i
    · by_cases hki : k = i
      · rw [hji, hki]
      · rw [hji, Function.update_self] at hj
        rw [Function.update_of_ne hki] at hk
        exact (key k n x y hki hj hk).elim
    · rw [Function.update_of_ne hji] at hj
      by_cases hki : k = i
      · rw [hki, Function.update_self] at hk
        exact (key j n y x hji hk hj).elim
      · rw [Function.update_of_ne hki] at hk
        exact h.apart j k n x y hj hk
  case steps =>
    intro e he
    rcases List.mem_append.mp he with he | he
    · exact h.steps e he
    · rw [List.mem_singleton.mp he]
      exact hfile
  case identified =>
    intro hinit hreplaced
    have hbefore := h.identified hinit fun e he => hreplaced e (List.mem_append_left _ he)
    match event, hfile with
    | none, hsame => rwa [show w'.directory.main = w.directory.main from hsame]
    | some (.committed mutation), hcommits => exact Commits.identified hreads hcommits
    | some (.replaced content), hcontent =>
      rw [show w'.directory.main = content from hcontent]
      exact hreplaced _ (List.mem_append_right _ (List.mem_singleton.mpr rfl)) content rfl

/-- Whatever calls of the writer there are, and whoever else replaces the file at any time but
between the comparison and the rename, no update is lost. -/
theorem runFile_noLostUpdate (toml : Toml) (hreads : toml.ReadsBack) (w : World)
    (actions : List (Action Conditions FileCommand)) :
    NoLostUpdate toml w (runFile toml w actions) := by
  have hrun := run_tracked (s := w) (J := Ordered toml w) beginFile_sat
    (fun _ _ _ _ _ _ _ h hG => h.step hreads hG)
    ⟨fun _ _ _ h => (nomatch h), fun _ _ _ _ _ h => (nomatch h), fun _ h => (nomatch h),
      fun h _ => h⟩ actions
  obtain ⟨ghost, -, hordered⟩ := hrun
  constructor
  case kept =>
    intro e he hevent
    have hstep := hordered.steps e he
    rw [hevent] at hstep
    exact hstep
  case updated =>
    intro e he mutation hevent
    have hstep := hordered.steps e he
    rw [hevent] at hstep
    exact Commits.updates hreads hstep
  case committed =>
    intro i mutation consent outcome hc
    have hhistory := run_history beginFile_along w actions hc
    obtain ⟨x, hx, hevent⟩ := hhistory mutation consent rfl rfl
    obtain ⟨e, he, rfl⟩ := List.mem_map.mp hx
    obtain ⟨hmem, hcall⟩ := List.mem_filter.mp he
    exact ⟨e, hmem, beq_iff_eq.mp hcall, hevent⟩
  case identified => exact hordered.identified

/-! Two deletions of the one profile of a file race each other, and the file is written again
with the same bytes in between. -/

def racedProfile : ConnectionProfile :=
  ⟨⟨"a".toList, .mySql, "host".toList, 3306, none, none, .disabled, .none, none, {}⟩, "a".toList⟩

def racedToml : Toml where
  header _ := some 2
  v1 _ := none
  v2 raw := some (if raw = "a\n".toList then { profiles := [racedProfile] } else {})
  print config :=
    if config = { profiles := [racedProfile] } then some "a".toList
    else if config = {} then some "".toList else none

def calm : Conditions := ⟨fun _ => .ok (), false, fun _ => false, fun _ => false⟩

def racedWorld : World := { directory := ⟨some (bytes "a\n".toList), none, []⟩ }

def race : List (Action Conditions FileCommand) :=
  [.start (.mutate (.deleteChecked "a".toList racedProfile) .cancelled),
    .start (.mutate (.deleteChecked "a".toList racedProfile) .cancelled),
    .start (.replace (some (bytes "a\n".toList))),
    .advance 0 calm, .advance 1 calm, .advance 0 calm, .advance 2 calm] ++
  List.replicate 20 (.advance 0 calm) ++ List.replicate 20 (.advance 1 calm)

theorem racedToml_readsBack : racedToml.ReadsBack := by
  rintro config raw - hprint
  simp only [racedToml] at hprint
  split at hprint
  · next hconfig =>
    cases hprint
    subst hconfig
    exact ⟨rfl, by decide +kernel⟩
  · split at hprint
    · next hconfig =>
      cases hprint
      subst hconfig
      exact ⟨rfl, by decide +kernel⟩
    · cases hprint

/-- The first deletion is committed, the second one finds the profile gone. -/
theorem runFile_noLostUpdate_race :
    NoLostUpdate racedToml racedWorld (runFile racedToml racedWorld race) ∧
      ((runFile racedToml racedWorld race).calls.map fun c => match c.progress with
        | .finished (.ok _) => true
        | _ => false) = [true, false, false] ∧
      (runFile racedToml racedWorld race).shared.directory.main = some (bytes "\n".toList) :=
  ⟨runFile_noLostUpdate racedToml racedToml_readsBack racedWorld race, by decide +kernel,
    by decide +kernel⟩

end Dbotter.Configuration
