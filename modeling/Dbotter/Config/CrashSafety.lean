import Dbotter.Config.Writer

/-!
No failure leaves the configuration directory between two states.

A call is followed through three kinds of directory: at rest, with one temporary
file open, and after the rename. Until the rename every directory on the way has
the old configuration and either the old backup or a complete new one.
-/

namespace Dbotter.Configuration
open Dbotter.Utf8 Dbotter.Program

variable {env : Environment} {φ : Option Bytes → Option BackupFile → Prop}
  {temps : List TempFile} {main : Option Bytes} {backup : Option BackupFile} {n : Nat}
  {content : Bytes}

/-! ## Directories on the way -/

/-- No temporary file of this call exists; all earlier directories satisfy `φ`. -/
structure AtRest (φ : Option Bytes → Option BackupFile → Prop) (temps : List TempFile)
    (main : Option Bytes) (backup : Option BackupFile) (w : World) : Prop where
  history : ∀ d ∈ w.history, φ d.main d.backup
  main_eq : w.directory.main = main
  backup_eq : w.directory.backup = backup
  temps_eq : w.directory.temps = temps
  armed : w.armed = false

/-- The temporary file `n` of this call holds `content` and is guarded. -/
structure Filling (φ : Option Bytes → Option BackupFile → Prop) (temps : List TempFile)
    (main : Option Bytes) (backup : Option BackupFile) (n : Nat) (content : Bytes) (w : World) :
    Prop where
  history : ∀ d ∈ w.history, φ d.main d.backup
  main_eq : w.directory.main = main
  backup_eq : w.directory.backup = backup
  temps_eq : w.directory.temps = temps ++ [⟨n, content⟩]
  fresh : ∀ t ∈ temps, t.sequence ≠ n
  armed : w.armed = true

theorem AtRest.tick {w : World} (h : AtRest φ temps main backup w) (k : Nat) :
    AtRest φ temps main backup { w with clock := k } :=
  ⟨h.history, h.main_eq, h.backup_eq, h.temps_eq, h.armed⟩

theorem Filling.tick {w : World} (h : Filling φ temps main backup n content w) (k : Nat) :
    Filling φ temps main backup n content { w with clock := k } :=
  ⟨h.history, h.main_eq, h.backup_eq, h.temps_eq, h.fresh, h.armed⟩

theorem Filling.temp {w : World} (h : Filling φ temps main backup n content w) :
    w.directory.temp? n = some content := by
  have hnone : (temps.find? fun t => t.sequence == n) = none := by
    rw [List.find?_eq_none]
    intro t ht
    simpa using h.fresh t ht
  rw [Directory.temp?, h.temps_eq, List.find?_append, hnone]
  simp

theorem Filling.removeTemp {w : World} (h : Filling φ temps main backup n content w) :
    (w.directory.removeTemp n).temps = temps := by
  have hkeep : temps.filter (fun t => t.sequence != n) = temps := by
    rw [List.filter_eq_self]
    intro t ht
    simpa using h.fresh t ht
  simp only [Directory.removeTemp, h.temps_eq, List.filter_append, hkeep]
  simp

theorem Filling.writeTemp {w : World} (h : Filling φ temps main backup n content w)
    (content' : Bytes) : (w.directory.writeTemp n content').temps = temps ++ [⟨n, content'⟩] := by
  have hkeep : (temps.map fun t => if t.sequence = n then ⟨n, content'⟩ else t) = temps := by
    refine (List.map_congr_left (g := id) ?_).trans (List.map_id temps)
    intro t ht
    exact if_neg (h.fresh t ht)
  simp only [Directory.writeTemp, h.temps_eq, List.map_append, hkeep]
  simp

/-- A guarded file is gone after its guard is dropped. -/
theorem Filling.dropped {w : World} (h : Filling φ temps main backup n content w)
    (hφ : φ main backup) : AtRest φ temps main backup (dropCleanup n w) := by
  rw [dropCleanup, if_pos h.armed]
  refine ⟨?_, h.main_eq, h.backup_eq, h.removeTemp, rfl⟩
  intro d hd
  rcases List.mem_append.mp hd with hd | hd
  · exact h.history d hd
  · rw [List.mem_singleton.mp hd, h.main_eq, h.backup_eq]
    exact hφ

theorem AtRest.dropped {w : World} (h : AtRest φ temps main backup w) :
    AtRest φ temps main backup (dropCleanup n w) := by
  rw [dropCleanup, if_neg (by simp [h.armed])]
  exact h

/-! ## Calls that change nothing -/

theorem osCall_keeps {P : World → Prop} (hP : ∀ w k, P w → P { w with clock := k })
    (e : ConfigError) : Ensures P (osCall env e) fun _ => P := by
  intro w hw
  unfold osCall
  split <;> exact hP w _ hw

theorem check_keeps (P : World → Prop) (point : MutationFailpoint) :
    Ensures P (check env point) fun _ => P := by
  unfold check
  exact .ite (fun _ => .fail fun _ hw => hw) fun _ => .pure fun _ hw => hw

theorem readMain_spec (P : World → Prop) (hP : ∀ w k, P w → P { w with clock := k })
    {content : Option Bytes} (hmain : ∀ w, P w → w.directory.main = content) :
    Ensures P (readMain env) fun r w => P w ∧ ∀ c, r = .ok c → c = content := by
  refine .keep_bind (osCall_keeps hP _) (fun e w hw => ⟨hw, nofun⟩) fun _ => ?_
  refine .get fun w hw => .pure ?_
  intro w' hw'
  subst hw'
  refine ⟨hw, fun c hc => ?_⟩
  rw [← hmain w' hw]
  exact (Except.ok.inj hc).symm

/-! ## A temporary file and its guard -/

theorem createTemp_spec (hφ : φ main backup) :
    Ensures (AtRest φ temps main backup) (createTemp env) fun
      | .ok n => fun w => Filling φ temps main backup n [] { w with armed := true }
      | .error _ => AtRest φ temps main backup := by
  refine .get fun w hw => ?_
  refine .bind (fun _ => AtRest φ temps main backup) (.modify ?_) fun _ => ?_
  · rintro _ rfl
    exact ⟨hw.history, hw.main_eq, hw.backup_eq, hw.temps_eq, hw.armed⟩
  refine .keep_bind (osCall_keeps (fun _ k h => h.tick k) _) (fun _ _ h => h) fun _ => ?_
  refine .ite (fun _ => .fail fun _ h => h) fun hfresh => ?_
  have hfresh' : ∀ t ∈ temps, t.sequence ≠ w.sequence := by
    intro t ht heq
    apply hfresh
    rw [hw.temps_eq, List.any_eq_true]
    exact ⟨t, ht, beq_iff_eq.mpr heq⟩
  refine .bind (fun _ w' => Filling φ temps main backup w.sequence [] { w' with armed := true })
    (.modify ?_) fun _ => .pure fun _ h => h
  intro w' h'
  refine ⟨?_, h'.main_eq, h'.backup_eq, congrArg (· ++ [_]) h'.temps_eq, hfresh', rfl⟩
  intro d hd
  rcases List.mem_append.mp hd with hd | hd
  · exact h'.history d hd
  · rw [List.mem_singleton.mp hd, h'.main_eq, h'.backup_eq]
    exact hφ

/-- The rule for a guarded temporary file. -/
theorem withTemp_spec {α : Type} {body : Nat → WriterM α} {Q : Except ConfigError α → World → Prop}
    (hφ : φ main backup) (he : ∀ e w, AtRest φ temps main backup w → Q (.error e) w)
    (hbody : ∀ n, Ensures (Filling φ temps main backup n []) (body n)
      fun r w => Q r (dropCleanup n w)) :
    Ensures (AtRest φ temps main backup) (withTemp env body) Q := by
  refine .bind (fun n w => Filling φ temps main backup n [] { w with armed := true })
    ((createTemp_spec hφ).weaken ?_) fun n => ?_
  · intro r w h
    cases r with
    | ok n => exact h
    | error e => exact he e w h
  refine .bind (fun _ => Filling φ temps main backup n []) (.modify fun _ h => h) fun _ => ?_
  exact .cleanup (hbody n)

theorem fillTemp_spec (hφ : φ main backup) (n : Nat) (content : Bytes)
    (write fileSync : MutationFailpoint) :
    Ensures (Filling φ temps main backup n []) (fillTemp env n content write fileSync) fun
      | .ok _ => Filling φ temps main backup n content
      | .error _ => fun w => ∃ c, Filling φ temps main backup n c w := by
  have tick : ∀ {c : Bytes} (e : ConfigError), Ensures (Filling φ temps main backup n c)
      (osCall env e) fun _ => Filling φ temps main backup n c :=
    fun e => osCall_keeps (fun _ k h => h.tick k) e
  refine .keep_bind (check_keeps _ _) (fun _ _ h => ⟨_, h⟩) fun _ => ?_
  refine .keep_bind (tick _) (fun _ _ h => ⟨_, h⟩) fun _ => ?_
  refine .bind (fun _ => Filling φ temps main backup n content) (.modify ?_) fun _ => ?_
  · intro w h
    refine ⟨?_, h.main_eq, h.backup_eq, h.writeTemp content, h.fresh, h.armed⟩
    intro d hd
    rcases List.mem_append.mp hd with hd | hd
    · exact h.history d hd
    · rw [List.mem_singleton.mp hd, h.main_eq, h.backup_eq]
      exact hφ
  refine .keep_bind (tick _) (fun _ _ h => ⟨_, h⟩) fun _ => ?_
  refine .keep_bind (check_keeps _ _) (fun _ _ h => ⟨_, h⟩) fun _ => ?_
  refine (tick _).weaken ?_
  intro r w h
  cases r with
  | ok _ => exact h
  | error _ => exact ⟨_, h⟩

/-! ## The backup -/

theorem readExistingBackup_spec (P : World → Prop) (hP : ∀ w k, P w → P { w with clock := k })
    {backup : Option BackupFile} (hbackup : ∀ w, P w → w.directory.backup = backup) :
    Ensures P (readExistingBackup env) fun r w =>
      P w ∧ ∀ c, r = .ok c → c = backup.map BackupFile.content := by
  have tick : ∀ e, Ensures P (osCall env e) fun _ => P := fun e => osCall_keeps hP e
  refine .keep_bind (tick _) (fun _ _ h => ⟨h, nofun⟩) fun _ => .get fun w hw => ?_
  rw [hbackup w hw]
  have hP' : Ensures (fun w' => w' = w) (pure () : WriterM Unit) fun _ => P :=
    .pure fun w' hw' => hw' ▸ hw
  cases backup with
  | none =>
      refine .pure fun w' hw' => ⟨hw' ▸ hw, fun c hc => ?_⟩
      exact (Except.ok.inj hc).symm
  | some backup =>
      refine .ite (fun _ => .fail fun w' hw' => ⟨hw' ▸ hw, nofun⟩) fun _ => ?_
      refine .strengthen (P := P) ?_ fun w' hw' => hw' ▸ hw
      refine .keep_bind (tick _) (fun _ _ h => ⟨h, nofun⟩) fun _ => ?_
      refine .keep_bind (tick _) (fun _ _ h => ⟨h, nofun⟩) fun _ => ?_
      refine .keep_bind (tick _) (fun _ _ h => ⟨h, nofun⟩) fun _ => ?_
      exact .pure fun w' hw' => ⟨hw', fun c hc => (Except.ok.inj hc).symm⟩

/-- A backup of `original` is in place when the step succeeded, and the directory is
at rest in any case. -/
def Settled (φ : Option Bytes → Option BackupFile → Prop) (temps : List TempFile)
    (main : Option Bytes) (original : Bytes) (r : Except ConfigError Unit) (w : World) : Prop :=
  ∃ b, AtRest φ temps main b w ∧ φ main b ∧
    (r = .ok () → b.map BackupFile.content = some original)

theorem syncDirectory_keeps {P : World → Prop}
    (hP : ∀ w k ds, P w → P { w with clock := k, synced := ds }) (stage : MutationFailpoint) :
    Ensures P (syncDirectory env stage) fun _ => P := by
  refine .keep_bind (osCall_keeps (fun w k h => hP w k w.synced h) _) (fun _ _ h => h) fun _ => ?_
  exact .modify fun w h => hP w w.clock _ h

theorem syncBackup_keeps {P : World → Prop}
    (hP : ∀ w k ds, P w → P { w with clock := k, synced := ds }) :
    Ensures P (syncBackup env) fun _ => P :=
  .keep_bind (check_keeps P _) (fun _ _ h => h) fun _ => syncDirectory_keeps hP _

theorem AtRest.sync {w : World} (h : AtRest φ temps main backup w) (k : Nat)
    (ds : List Directory) : AtRest φ temps main backup { w with clock := k, synced := ds } :=
  ⟨h.history, h.main_eq, h.backup_eq, h.temps_eq, h.armed⟩

theorem Filling.sync {w : World} (h : Filling φ temps main backup n content w) (k : Nat)
    (ds : List Directory) :
    Filling φ temps main backup n content { w with clock := k, synced := ds } :=
  ⟨h.history, h.main_eq, h.backup_eq, h.temps_eq, h.fresh, h.armed⟩

/-- The renamed file is the complete backup; nothing else ever takes its place. -/
theorem renameNoReplace_spec (hφ : φ main backup) (n : Nat) (original : Bytes) :
    Ensures (Filling φ temps main backup n original) (renameNoReplace env n) fun
      | .ok true => fun w => backup = none ∧
          AtRest φ temps main (some ⟨original, true, true⟩) { w with armed := false }
      | .ok false => Filling φ temps main backup n original
      | .error _ => Filling φ temps main backup n original := by
  refine .keep_bind (osCall_keeps (fun _ k h => h.tick k) _) (fun _ _ h => h) fun _ => ?_
  refine .get fun w hw => ?_
  rw [hw.temp, hw.backup_eq]
  refine .ite (fun _ => .pure fun w' hw' => hw' ▸ hw) fun hnone => ?_
  refine .bind (fun _ w => backup = none ∧
    AtRest φ temps main (some ⟨original, true, true⟩) { w with armed := false }) (.modify ?_)
    fun _ => .pure fun _ h => h
  intro w' hw'
  subst hw'
  refine ⟨by simpa using hnone, ?_, hw.main_eq, rfl, hw.removeTemp, rfl⟩
  intro d hd
  rcases List.mem_append.mp hd with hd | hd
  · exact hw.history d hd
  · rw [List.mem_singleton.mp hd, hw.main_eq, hw.backup_eq]
    exact hφ

theorem publishBackup_spec (hφ : φ main backup) (original : Bytes)
    (hnew : backup = none → φ main (some ⟨original, true, true⟩)) :
    Ensures (AtRest φ temps main backup) (publishBackup env original)
      (Settled φ temps main original) := by
  have rest : ∀ e w, AtRest φ temps main backup w → Settled φ temps main original (.error e) w :=
    fun e w h => ⟨backup, h, hφ, nofun⟩
  refine .keep_bind (osCall_keeps (fun _ k h => h.tick k) _) rest fun _ => ?_
  refine .keep_bind (check_keeps _ _) rest fun _ => ?_
  refine withTemp_spec hφ rest fun n => ?_
  have dropped : ∀ e w, (∃ c, Filling φ temps main backup n c w) →
      Settled φ temps main original (.error e) (dropCleanup n w) := by
    rintro e w ⟨c, h⟩
    exact rest e _ (h.dropped hφ)
  refine .bind (fun _ => Filling φ temps main backup n original)
    ((fillTemp_spec hφ n original _ _).weaken ?_) fun _ => ?_
  · intro r w h
    cases r with
    | ok _ => exact h
    | error e => exact dropped e w h
  refine .keep_bind (check_keeps _ _) (fun e w h => dropped e w ⟨_, h⟩) fun _ => ?_
  refine .bind (fun renamed w => if renamed then backup = none ∧
      AtRest φ temps main (some ⟨original, true, true⟩) { w with armed := false }
    else Filling φ temps main backup n original w)
    ((renameNoReplace_spec hφ n original).weaken ?_) fun renamed => ?_
  · intro r w h
    match r with
    | .ok true => exact h
    | .ok false => exact h
    | .error e => exact dropped e w ⟨_, h⟩
  cases renamed with
  | true =>
      refine .strengthen (P := fun w => φ main (some ⟨original, true, true⟩) ∧
        AtRest φ temps main (some ⟨original, true, true⟩) { w with armed := false }) ?_
        fun w h => ⟨hnew h.1, h.2⟩
      refine .bind (fun _ w => φ main (some ⟨original, true, true⟩) ∧
        AtRest φ temps main (some ⟨original, true, true⟩) w) (.modify fun _ h => h) fun _ => ?_
      refine (syncBackup_keeps fun w k ds h => ⟨h.1, h.2.sync k ds⟩).weaken ?_
      intro r w h
      exact ⟨_, h.2.dropped, h.1, fun _ => rfl⟩
  | false =>
      refine .bind (fun existing w => Filling φ temps main backup n original w ∧
        existing = backup.map BackupFile.content)
        ((readExistingBackup_spec _ (fun _ k h => h.tick k) fun _ h => h.backup_eq).weaken ?_)
        fun existing => ?_
      · intro r w h
        cases r with
        | ok existing => exact ⟨h.1, h.2 existing rfl⟩
        | error e => exact dropped e w ⟨_, h.1⟩
      refine .ite (fun heq => ?_) fun _ => .bind (fun _ _ => False)
        (.fail fun w h => dropped _ w ⟨_, h.1⟩) fun _ _ h => h.elim
      refine (syncBackup_keeps fun w k ds h => ⟨h.1.sync k ds, h.2⟩).weaken ?_
      intro r w h
      exact ⟨backup, h.1.dropped hφ, hφ, fun _ => h.2 ▸ heq⟩

theorem writeBackup_spec (hφ : φ main backup) (original : Bytes)
    (hnew : backup = none → φ main (some ⟨original, true, true⟩)) :
    Ensures (AtRest φ temps main backup) (writeBackup env original)
      (Settled φ temps main original) := by
  have rest : ∀ e w, AtRest φ temps main backup w → Settled φ temps main original (.error e) w :=
    fun e w h => ⟨backup, h, hφ, nofun⟩
  refine .bind (fun existing w => AtRest φ temps main backup w ∧
    existing = backup.map BackupFile.content)
    ((readExistingBackup_spec _ (fun _ k h => h.tick k) fun _ h => h.backup_eq).weaken ?_)
    fun existing => ?_
  · intro r w h
    cases r with
    | ok existing => exact ⟨h.1, h.2 existing rfl⟩
    | error e => exact rest e w h.1
  cases existing with
  | none => exact (publishBackup_spec hφ original hnew).strengthen fun _ h => h.1
  | some content =>
      refine .ite (fun heq => ?_) fun _ => .fail fun w h => rest _ w h.1
      subst heq
      refine .keep_bind (osCall_keeps (fun _ k h => ⟨h.1.tick k, h.2⟩) _)
        (fun e w h => rest e w h.1) fun _ => ?_
      refine (syncBackup_keeps fun w k ds h => ⟨h.1.sync k ds, h.2⟩).weaken ?_
      intro r w h
      exact ⟨backup, h.1, hφ, fun _ => h.2.symm⟩

theorem prepareMigration_spec (hφ : φ main backup) (loaded : LoadedConfig)
    (consent : MigrationConsent)
    (hnew : loaded.migrationRequired = true → backup = none →
      φ main (some ⟨loaded.originalBytes.getD [], true, true⟩)) :
    Ensures (AtRest φ temps main backup) (prepareMigration env loaded consent) fun r w =>
      ∃ b, AtRest φ temps main b w ∧ φ main b ∧
        (∀ path, r = .ok path → loaded.migrationRequired = true →
          b.map BackupFile.content = some (loaded.originalBytes.getD [])) := by
  refine .ite (fun hmig => .pure fun w h => ⟨backup, h, hφ, ?_⟩) fun hmig => ?_
  · intro path _ hreq
    simp [hreq] at hmig
  have hreq : loaded.migrationRequired = true := by simpa using hmig
  refine .ite (fun _ => .fail fun w h => ⟨backup, h, hφ, nofun⟩) fun _ => ?_
  refine .bind (fun _ => Settled φ temps main (loaded.originalBytes.getD []) (.ok ()))
    ((writeBackup_spec hφ _ (hnew hreq)).weaken ?_) fun _ => .pure ?_
  · intro r w h
    cases r with
    | ok u => exact h
    | error e =>
        obtain ⟨b, hrest, hb, -⟩ := h
        exact ⟨b, hrest, hb, nofun⟩
  · rintro w ⟨b, hrest, hb, hcontent⟩
    exact ⟨b, hrest, hb, fun _ _ _ => hcontent rfl⟩

/-! ## The main file -/

/-- The rename has happened: the last directory before it had the old configuration
and the backup `backup`. -/
structure Replaced (φ : Option Bytes → Option BackupFile → Prop) (temps : List TempFile)
    (main : Option Bytes) (backup : Option BackupFile) (encoded : Bytes) (w : World) : Prop where
  history : ∀ d ∈ w.history, φ d.main d.backup
  before : ∃ earlier last, w.history = earlier ++ [last] ∧ last.main = main ∧ last.backup = backup
  main_eq : w.directory.main = some encoded
  backup_eq : w.directory.backup = backup
  temps_eq : w.directory.temps = temps
  armed : w.armed = false

theorem Replaced.sync {encoded : Bytes} {w : World} (h : Replaced φ temps main backup encoded w)
    (k : Nat) (ds : List Directory) :
    Replaced φ temps main backup encoded { w with clock := k, synced := ds } :=
  ⟨h.history, h.before, h.main_eq, h.backup_eq, h.temps_eq, h.armed⟩

theorem Replaced.dropped {encoded : Bytes} {w : World}
    (h : Replaced φ temps main backup encoded w) : dropCleanup n w = w := by
  rw [dropCleanup, if_neg (by simp [h.armed])]

theorem renameMain_spec (hφ : φ main backup) (n : Nat) (encoded : Bytes) :
    Ensures (Filling φ temps main backup n encoded) (renameMain env n) fun
      | .ok _ => fun w => Replaced φ temps main backup encoded { w with armed := false }
      | .error _ => Filling φ temps main backup n encoded := by
  refine .keep_bind (osCall_keeps (fun _ k h => h.tick k) _) (fun _ _ h => h) fun _ => ?_
  refine .get fun w hw => ?_
  rw [hw.temp]
  refine .modify fun w' hw' => ?_
  subst hw'
  refine ⟨?_, ⟨w'.history, w'.directory, rfl, hw.main_eq, hw.backup_eq⟩, rfl, hw.backup_eq,
    hw.removeTemp, rfl⟩
  intro d hd
  rcases List.mem_append.mp hd with hd | hd
  · exact hw.history d hd
  · rw [List.mem_singleton.mp hd, hw.main_eq, hw.backup_eq]
    exact hφ

/-- What `write_main` leaves behind: the old configuration on an error, and on success
the new one, synced if the state says so. -/
def Written (φ : Option Bytes → Option BackupFile → Prop) (temps : List TempFile)
    (main : Option Bytes) (backup : Option BackupFile) (encoded : Bytes) :
    Except ConfigError CommitState → World → Prop
  | .ok state => fun w => Replaced φ temps main backup encoded w ∧
      (state = .committed → w.directory ∈ w.synced)
  | .error _ => AtRest φ temps main backup

theorem syncMain_spec (encoded : Bytes) :
    Ensures (Replaced φ temps main backup encoded) (syncMain env)
      (Written φ temps main backup encoded) := by
  refine .ite (fun _ => .pure fun w h => ⟨h, nofun⟩) fun _ => ?_
  refine .ite (fun _ => .pure fun w h => ⟨h, nofun⟩) fun _ => ?_
  refine .bind (fun result w => Replaced φ temps main backup encoded w ∧
    (result = .ok () → w.directory ∈ w.synced)) (.attempt ?_) fun result => ?_
  · refine .keep_bind (osCall_keeps (fun w k h => h.sync k w.synced) _) (fun _ _ h => ⟨h, nofun⟩)
      fun _ => .modify fun w h => ⟨h.sync w.clock _, fun _ => ?_⟩
    exact List.mem_append_right _ (List.mem_singleton.mpr rfl)
  · cases result with
    | ok u => exact .pure fun w h => ⟨h.1, fun _ => h.2 rfl⟩
    | error e => exact .pure fun w h => ⟨h.1, nofun⟩

theorem writeMain_spec (hφ : φ main backup) (encoded : Bytes) (expected : Option Bytes) :
    Ensures (AtRest φ temps main backup) (writeMain env encoded expected)
      (Written φ temps main backup encoded) := by
  refine .keep_bind (osCall_keeps (fun _ k h => h.tick k) _) (fun _ _ h => h) fun _ => ?_
  refine .keep_bind (check_keeps _ _) (fun _ _ h => h) fun _ => ?_
  refine withTemp_spec hφ (fun _ _ h => h) fun n => ?_
  have dropped : ∀ e w, (∃ c, Filling φ temps main backup n c w) →
      Written φ temps main backup encoded (.error e) (dropCleanup n w) := by
    rintro e w ⟨c, h⟩
    exact h.dropped hφ
  refine .bind (fun _ => Filling φ temps main backup n encoded)
    ((fillTemp_spec hφ n encoded _ _).weaken ?_) fun _ => ?_
  · intro r w h
    cases r with
    | ok _ => exact h
    | error e => exact dropped e w h
  refine .keep_bind (check_keeps _ _) (fun e w h => dropped e w ⟨_, h⟩) fun _ => ?_
  refine .bind (fun _ => Filling φ temps main backup n encoded)
    ((readMain_spec _ (fun _ k h => h.tick k) fun _ h => h.main_eq).weaken ?_) fun found => ?_
  · intro r w h
    cases r with
    | ok _ => exact h.1
    | error e => exact dropped e w ⟨_, h.1⟩
  refine .ite (fun _ => .fail fun w h => dropped _ w ⟨_, h⟩) fun _ => ?_
  refine .bind (fun _ w => Replaced φ temps main backup encoded { w with armed := false })
    ((renameMain_spec hφ n encoded).weaken ?_) fun _ => ?_
  · intro r w h
    cases r with
    | ok _ => exact h
    | error e => exact dropped e w ⟨_, h⟩
  refine .bind (fun _ => Replaced φ temps main backup encoded) (.modify fun _ h => h) fun _ => ?_
  refine (syncMain_spec encoded).weaken ?_
  intro r w h
  cases r with
  | ok state =>
      show Written φ temps main backup encoded (.ok state) (dropCleanup n w)
      rw [h.1.dropped]
      exact h
  | error e => exact AtRest.dropped h

/-! ## The whole call -/

/-- The backup is the one found at the start, or there was none and it holds exactly
the bytes of the version 1 file. -/
def BackupKept (toml : Toml) (d₀ : Directory) (backup : Option BackupFile) : Prop :=
  backup = d₀.backup ∨
    d₀.backup = none ∧ ∃ loaded original, loadBytes toml d₀.main = .ok loaded ∧
      loaded.sourceVersion = .v1 ∧ d₀.main = some original ∧
      backup = some ⟨original, true, true⟩

/-- The directories before the rename. -/
def Unchanged (toml : Toml) (d₀ : Directory) (main : Option Bytes) (backup : Option BackupFile) :
    Prop :=
  main = d₀.main ∧ BackupKept toml d₀ backup

theorem loadPath_spec (P : World → Prop) (hP : ∀ w k, P w → P { w with clock := k })
    {content : Option Bytes} (hmain : ∀ w, P w → w.directory.main = content) :
    Ensures P (loadPath env) fun r w => P w ∧ ∀ l, r = .ok l → loadBytes env.toml content = .ok l := by
  refine .bind (fun c w => P w ∧ c = content) ((readMain_spec P hP hmain).weaken ?_)
    fun c => .ofExcept ?_
  · intro r w h
    cases r with
    | ok c => exact ⟨h.1, h.2 c rfl⟩
    | error e => exact ⟨h.1, nofun⟩
  · rintro w ⟨h, rfl⟩
    exact ⟨h, fun l hl => hl⟩

theorem loadBytes_v1 {toml : Toml} {main : Option Bytes} {loaded : LoadedConfig}
    (h : loadBytes toml main = .ok loaded) :
    (loaded.migrationRequired = true ↔ loaded.sourceVersion = .v1) ∧
      (loaded.sourceVersion = .v1 → main = some (loaded.originalBytes.getD [])) := by
  unfold loadBytes at h
  split at h
  · cases h
    simp
  · next bs =>
    split at h
    · cases h
    · next raw hraw =>
      split at h
      · cases h
      · split at h
        · cases h
        · cases h
          simp
      · split at h
        · cases h
        · cases h
          simp
      · cases h

theorem mutatedBytes_ok {loaded : LoadedConfig} {mutation : ConfigMutation} {encoded : Bytes}
    {affected : Option Text} (h : mutatedBytes env loaded mutation = .ok (encoded, affected)) :
    ∃ config, applyMutation loaded.config mutation = .ok (config, affected) ∧
      encodeConfig env.toml { config with version := currentConfigVersion } = .ok encoded := by
  unfold mutatedBytes at h
  cases happly : applyMutation loaded.config mutation with
  | error e => simp [happly, bind, Except.bind] at h
  | ok p =>
      obtain ⟨config, id⟩ := p
      simp only [happly, bind, Except.bind] at h
      split at h
      · cases h
      · split at h
        · cases h
        · next encoded' hencoded =>
          cases h
          exact ⟨config, rfl, hencoded⟩

/-- What the directory, and every directory before it, is after a call. -/
def CrashSafe (env : Environment) (mutation : ConfigMutation) (d₀ : Directory) :
    Except ConfigError MutationOutcome → World → Prop
  | .error _ => fun w =>
      (∀ d ∈ w.history, Unchanged env.toml d₀ d.main d.backup) ∧
      w.directory.main = d₀.main ∧ w.directory.temps = d₀.temps ∧
      BackupKept env.toml d₀ w.directory.backup
  | .ok outcome => fun w =>
      (∀ d ∈ w.history, Unchanged env.toml d₀ d.main d.backup) ∧
      (∃ loaded config encoded,
        loadBytes env.toml d₀.main = .ok loaded ∧
        applyMutation loaded.config mutation = .ok (config, outcome.affectedProfileId) ∧
        encodeConfig env.toml { config with version := currentConfigVersion } = .ok encoded ∧
        w.directory.main = some encoded ∧
        (loaded.sourceVersion = .v1 → ∃ earlier last, w.history = earlier ++ [last] ∧
          last.main = d₀.main ∧ last.backup.map BackupFile.content = d₀.main)) ∧
      w.directory.temps = d₀.temps ∧ BackupKept env.toml d₀ w.directory.backup ∧
      (outcome.state = .committed → w.directory ∈ w.synced)

theorem observeMain_keeps {P : World → Prop} (hP : ∀ w k, P w → P { w with clock := k }) :
    Ensures P (observeMain env) fun _ => P := by
  refine .ite (fun _ => .fail fun _ h => h) fun _ => ?_
  refine .keep_bind ?_ (fun _ _ h => h) fun loaded => ?_
  · refine .keep_bind ?_ (fun _ _ h => h) fun c => .ofExcept fun _ h => h
    exact .keep_bind (osCall_keeps hP _) (fun _ _ h => h) fun _ => .get fun w h =>
      .pure fun w' hw' => hw' ▸ h
  · refine .keep_bind (.ofExcept fun _ h => h) (fun _ _ h => h) fun _ => ?_
    exact .ite (fun _ => .fail fun _ h => h) fun _ => .pure fun _ h => h

/-- For every directory, mutation and consent, and whatever fails on the way, the
call leaves the old configuration or the complete new one, no temporary file, and a
backup that is the old one or complete; the last directory before a version 1 file
is replaced holds its backup. -/
theorem mutatePath_crashSafe (env : Environment) (mutation : ConfigMutation)
    (consent : MigrationConsent) (d₀ : Directory) (sequence clock : Nat) :
    CrashSafe env mutation d₀
      (mutatePath env mutation consent { directory := d₀, sequence := sequence, clock := clock }).1
      (mutatePath env mutation consent { directory := d₀, sequence := sequence, clock := clock }).2 := by
  let φ := Unchanged env.toml d₀
  have hφ : φ d₀.main d₀.backup := ⟨rfl, .inl rfl⟩
  suffices h : Ensures (AtRest φ d₀.temps d₀.main d₀.backup) (mutatePath env mutation consent)
      (CrashSafe env mutation d₀) from h _ ⟨nofun, rfl, rfl, rfl, rfl⟩
  have rest : ∀ b e w, AtRest φ d₀.temps d₀.main b w → φ d₀.main b →
      CrashSafe env mutation d₀ (.error e) w :=
    fun b e w h hb => ⟨h.history, h.main_eq, h.temps_eq, h.backup_eq ▸ hb.2⟩
  refine .ite (fun _ => .fail fun w h => rest _ _ w h hφ) fun _ => ?_
  -- reading and validating
  refine .bind (fun loaded w => AtRest φ d₀.temps d₀.main d₀.backup w ∧
      loadBytes env.toml d₀.main = .ok loaded)
    ((loadPath_spec _ (fun _ k h => h.tick k) fun _ h => h.main_eq).weaken ?_) fun loaded => ?_
  · intro r w h
    cases r with
    | ok loaded => exact ⟨h.1, h.2 loaded rfl⟩
    | error e => exact rest _ e w h.1 hφ
  refine .keep_bind (.ofExcept fun _ h => h) (fun e w h => rest _ e w h.1 hφ) fun _ => ?_
  refine .keep_bind (.ofExcept fun _ h => h) (fun e w h => rest _ e w h.1 hφ) fun _ => ?_
  by_cases hload : loadBytes env.toml d₀.main = .ok loaded
  swap
  · exact fun w h => absurd h.2 hload
  obtain ⟨hmigration, horiginal⟩ := loadBytes_v1 hload
  -- the backup
  refine .bind (fun _ w => ∃ b, AtRest φ d₀.temps d₀.main b w ∧ φ d₀.main b ∧
      (loaded.sourceVersion = .v1 → b.map BackupFile.content = d₀.main))
    (((prepareMigration_spec hφ loaded consent ?_).strengthen fun w h => h.1).weaken ?_)
    fun backup => ?_
  · intro hreq hnone
    have hv1 := hmigration.mp hreq
    exact ⟨rfl, .inr ⟨hnone, loaded, _, hload, hv1, horiginal hv1, rfl⟩⟩
  · rintro r w ⟨b, hb, hφb, hcontent⟩
    cases r with
    | ok path =>
        refine ⟨b, hb, hφb, fun hv1 => ?_⟩
        rw [hcontent path rfl (hmigration.mpr hv1), horiginal hv1]
    | error e => exact rest b e w hb hφb
  -- the new configuration
  cases hbytes : mutatedBytes env loaded mutation with
  | error e =>
      refine .bind (fun _ _ => False) (.ofExcept ?_) fun _ _ h => h.elim
      rintro w ⟨b, hb, hφb, -⟩
      exact rest b e w hb hφb
  | ok p =>
      obtain ⟨encoded, affected⟩ := p
      obtain ⟨config, happly, hencode⟩ := mutatedBytes_ok hbytes
      refine .bind (fun p w => p = (encoded, affected) ∧ ∃ b, AtRest φ d₀.temps d₀.main b w ∧
        φ d₀.main b ∧ (loaded.sourceVersion = .v1 → b.map BackupFile.content = d₀.main))
        (.ofExcept fun w h => ⟨rfl, h⟩) fun p => ?_
      rintro w ⟨rfl, b, hb, hφb, hcontent⟩
      refine Ensures.bind (fun state w => Written φ d₀.temps d₀.main b encoded (.ok state) w)
        ((writeMain_spec hφb encoded loaded.fingerprint).weaken ?_) (fun state => ?_) w hb
      · intro r w h
        cases r with
        | ok state => exact h
        | error e => exact rest b e w h hφb
      refine .bind (fun _ => Written φ d₀.temps d₀.main b encoded (.ok state))
        (.attempt (observeMain_keeps ?_)) fun observation => ?_
      · exact fun w k h => ⟨h.1.sync k w.synced, h.2⟩
      have done : ∀ w, Written φ d₀.temps d₀.main b encoded (.ok state) w → ∀ outcome,
          outcome.affectedProfileId = affected →
          (outcome.state = .committed → state = .committed) →
          CrashSafe env mutation d₀ (.ok outcome) w := by
        rintro w ⟨hreplaced, hsynced⟩ outcome haffected hstate
        refine ⟨hreplaced.history, ⟨loaded, config, encoded, hload, haffected ▸ happly, hencode,
          hreplaced.main_eq, fun hv1 => ?_⟩, hreplaced.temps_eq,
          hreplaced.backup_eq ▸ hφb.2, fun hcommitted => hsynced (hstate hcommitted)⟩
        obtain ⟨earlier, last, hhistory, hmain, hbackup⟩ := hreplaced.before
        exact ⟨earlier, last, hhistory, hmain, hbackup ▸ hcontent hv1⟩
      cases observation with
      | ok observed => exact .pure fun w h => done w h _ rfl id
      | error source => exact .pure fun w h => done w h _ rfl nofun

end Dbotter.Configuration
