import Dbotter.Drivers.TokenKeyFile

/-!
All callers get the same token key.

`KeyMoves` says what one step of a call may do to the directory. A call that has opened the
published file knows a prefix of its content, and one that has read to its end or has published
its own file knows the whole; the file at the path never changes once it is there.
-/

namespace Dbotter.Drivers
open Dbotter.Program

/-! ## What one step may do -/

/-- What a call has in hand: its temporary file with what it has written, the published file
that it has opened with what it has read, and the published content once it knows it. -/
structure Held where
  temp : Option (TempName × Nat × FileBytes) := none
  reading : Option (Nat × FileBytes) := none
  knows : Option FileBytes := none

inductive KeyMoves : Held → KeyDirectory → Option KeyEvent → KeyDirectory → Held → Prop
  | looks {γ s} : KeyMoves γ s none s γ
  | counts {γ s} (sequence : Nat → Nat) : KeyMoves γ s none { s with sequence } γ
  | opens {γ s file} (hentry : s.entry = some file) :
      KeyMoves γ s none s { γ with reading := some (file.inode, []) }
  | reads {γ s inode read byte} (hreading : γ.reading = some (inode, read))
      (hbyte : (s.content inode)[read.length]? = some byte) :
      KeyMoves γ s none s { γ with reading := some (inode, read ++ [byte]) }
  | learns {γ s inode read} (hreading : γ.reading = some (inode, read))
      (hend : (s.content inode)[read.length]? = none) :
      KeyMoves γ s none s { γ with knows := some read }
  | creates {γ s} {name : TempName} (mode : Nat) (hnone : γ.temp = none)
      (hfree : s.temps name = none) :
      KeyMoves γ s (some (.created s.nextInode))
        { s with
          temps := Function.update s.temps name (some ⟨s.nextInode, true, mode⟩)
          content := Function.update s.content s.nextInode []
          nextInode := s.nextInode + 1 }
        { γ with temp := some (name, s.nextInode, []) }
  | writes {γ s name inode written} (byte : UInt8) (htemp : γ.temp = some (name, inode, written)) :
      KeyMoves γ s none
        { s with content := Function.update s.content inode (s.content inode ++ [byte]) }
        { γ with temp := some (name, inode, written ++ [byte]) }
  | publishes {γ s name inode written file} (htemp : γ.temp = some (name, inode, written))
      (hentry : s.entry = none) (hfile : s.temps name = some file) :
      KeyMoves γ s none
        { s with entry := some file, temps := Function.update s.temps name none }
        { γ with temp := none, knows := some written }
  | removes {γ s name inode written} (htemp : γ.temp = some (name, inode, written)) :
      KeyMoves γ s none { s with temps := Function.update s.temps name none }
        { γ with temp := none }
  | refused {γ s name inode written} (htemp : γ.temp = some (name, inode, written)) :
      KeyMoves γ s (some (.removalRefused inode)) s { γ with temp := none }

/-! ## The steps of a call -/

theorem look_steady {α : Type} (f : KeyDirectory → Except KeyError α) :
    (look f).Steady KeyMoves :=
  .step fun _ _ _ => .looks

theorem checkTokenKeyFile_steady (file : DirEntry) :
    (checkTokenKeyFile file).Steady KeyMoves := by
  unfold checkTokenKeyFile
  split
  · exact .done _
  · exact .done _

theorem openTokenKeyNoFollow_sat (γ : Held) :
    openTokenKeyNoFollow.Sat KeyMoves (fun γ' r => γ'.temp = γ.temp ∧
      ∀ file, r = .ok file → γ'.reading = some (file.inode, [])) γ := by
  refine .step fun answer s => ?_
  cases answer.fails with
  | true => exact ⟨γ, .looks, rfl, nofun⟩
  | false =>
    cases hentry : s.entry with
    | none =>
      refine ⟨γ, .looks, rfl, fun file hr => ?_⟩
      simp [hentry] at hr
    | some file =>
      refine ⟨{ γ with reading := some (file.inode, []) }, .opens hentry, rfl, fun file' hr => ?_⟩
      simp only [hentry, Bool.false_eq_true, if_false, Option.elim_some,
        Except.ok.injEq] at hr
      rw [hr]

/-- The next byte of the open file, or its end. -/
theorem readByte_sat {γ : Held} {file : DirEntry} {read : FileBytes}
    (hreading : γ.reading = some (file.inode, read)) :
    (readByte file read.length).Sat KeyMoves (fun γ' r => γ'.temp = γ.temp ∧
      (∀ byte, r = .ok (some byte) → γ'.reading = some (file.inode, read ++ [byte])) ∧
      (r = .ok none → γ'.knows = some read)) γ := by
  refine .step fun answer s => ?_
  cases answer.fails with
  | true => exact ⟨γ, .looks, rfl, nofun, nofun⟩
  | false =>
    cases hbyte : (s.content file.inode)[read.length]? with
    | none =>
      refine ⟨{ γ with knows := some read }, .learns hreading hbyte, rfl, fun byte hr => ?_,
        fun _ => rfl⟩
      simp [hbyte] at hr
    | some byte =>
      refine ⟨{ γ with reading := some (file.inode, read ++ [byte]) }, .reads hreading hbyte, rfl,
        fun byte' hr => ?_, fun hr => ?_⟩
      · simp only [hbyte, Bool.false_eq_true, if_false, Except.ok.injEq,
          Option.some_inj] at hr
        rw [hr]
      · simp [hbyte] at hr

theorem readExact_sat {γ : Held} {file : DirEntry} {read : FileBytes} (remaining : Nat)
    (hreading : γ.reading = some (file.inode, read)) :
    (readExact file read remaining).Sat KeyMoves (fun γ' r => γ'.temp = γ.temp ∧
      ∀ key, r = .ok key → γ'.reading = some (file.inode, key) ∧
        key.length = read.length + remaining) γ := by
  induction remaining generalizing γ read with
  | zero =>
    refine ⟨rfl, ?_⟩
    rintro _ ⟨rfl⟩
    exact ⟨hreading, rfl⟩
  | succ remaining ih =>
    refine (readByte_sat hreading).bind ?_ ?_
    · rintro γ' (_ | byte) ⟨htemp, hbyte, -⟩
      · exact ⟨htemp, nofun⟩
      · refine (ih (hbyte byte rfl)).weaken ?_
        rintro γ'' r ⟨htemp', hkey⟩
        refine ⟨htemp'.trans htemp, fun key hr => ?_⟩
        obtain ⟨hread, hlength⟩ := hkey key hr
        refine ⟨hread, ?_⟩
        simp only [List.length_append, List.length_singleton] at hlength
        omega
    · rintro γ' e ⟨htemp, -⟩
      exact ⟨htemp, nofun⟩

/-- A key that is read is the published content. -/
def Learned (γ : Held) (key : CatalogTokenRootKey) : Prop :=
  γ.knows = some key ∧ key.length = tokenKeyBytes

theorem readTokenKey_sat (γ : Held) :
    readTokenKey.Sat KeyMoves (fun γ' r => γ'.temp = γ.temp ∧
      ∀ key, r = .ok (some key) → Learned γ' key) γ := by
  refine (look_steady _ γ).bind ?_ ?_
  · rintro γ₁ (_ | link) rfl
    · exact ⟨rfl, nofun⟩
    · refine (checkTokenKeyFile_steady link γ₁).bind ?_ ?_
      · rintro γ₂ _ rfl
        refine (openTokenKeyNoFollow_sat γ₂).bind ?_ ?_
        · rintro γ₃ file ⟨htemp, hopen⟩
          refine (look_steady _ γ₃).bind ?_ ?_
          · rintro γ₄ opened rfl
            refine (checkTokenKeyFile_steady opened γ₄).bind ?_ ?_
            · rintro γ₅ _ rfl
              refine (readExact_sat tokenKeyBytes (hopen file rfl)).bind ?_ ?_
              · rintro γ₆ key ⟨htemp', hkey⟩
                obtain ⟨hread, hlength⟩ := hkey key rfl
                refine (readByte_sat hread).bind ?_ ?_
                · rintro γ₇ (_ | byte) ⟨htemp'', -, hend⟩
                  · refine ⟨htemp''.trans (htemp'.trans htemp), ?_⟩
                    rintro _ ⟨rfl⟩
                    exact ⟨hend rfl, by simpa using hlength⟩
                  · exact ⟨htemp''.trans (htemp'.trans htemp), nofun⟩
                · rintro γ₇ e ⟨htemp'', -⟩
                  exact ⟨htemp''.trans (htemp'.trans htemp), nofun⟩
              · rintro γ₆ e ⟨htemp', -⟩
                exact ⟨htemp'.trans htemp, nofun⟩
            · rintro γ₅ e rfl
              exact ⟨htemp, nofun⟩
          · rintro γ₄ e rfl
            exact ⟨htemp, nofun⟩
        · rintro γ₃ e ⟨htemp, -⟩
          exact ⟨htemp, nofun⟩
      · rintro γ₂ e rfl
        exact ⟨rfl, nofun⟩
  · rintro γ₁ e rfl
    exact ⟨rfl, nofun⟩

theorem fetchAddSequence_steady (process : Nat) :
    (fetchAddSequence process).Steady KeyMoves :=
  .step fun _ _ _ => .counts _

theorem createNew_sat {γ : Held} (hnone : γ.temp = none) (name : TempName) :
    (createNew name).Sat KeyMoves (fun γ' r =>
      (∀ inode, r = .ok (some inode) → γ'.temp = some (name, inode, [])) ∧
        ((∀ inode, r ≠ .ok (some inode)) → γ'.temp = none)) γ := by
  refine .step fun answer s => ?_
  cases answer.fails with
  | true => exact ⟨γ, .looks, nofun, fun _ => hnone⟩
  | false =>
    cases hfree : s.temps name with
    | some file =>
      refine ⟨γ, ?_, fun inode hr => ?_, fun _ => hnone⟩
      · simpa [hfree] using KeyMoves.looks
      · simp at hr
    | none =>
      refine ⟨{ γ with temp := some (name, s.nextInode, []) }, ?_, fun inode hr => ?_, fun hr => ?_⟩
      · simpa [hfree] using KeyMoves.creates answer.mode hnone hfree
      · simp only [Bool.false_eq_true, if_false, Option.isSome_none, Except.ok.injEq,
          Option.some_inj] at hr
        rw [hr]
      · simp at hr

theorem createTokenKeyTemp_sat {γ : Held} (hnone : γ.temp = none) (process attempts : Nat) :
    (createTokenKeyTemp process attempts).Sat KeyMoves (fun γ' r =>
      (∀ name inode, r = .ok (name, inode) → γ'.temp = some (name, inode, [])) ∧
        ∀ e, r = .error e → γ'.temp = none) γ := by
  induction attempts generalizing γ with
  | zero => exact ⟨nofun, fun _ _ => hnone⟩
  | succ attempts ih =>
    refine (fetchAddSequence_steady process γ).bind ?_ ?_
    · rintro γ₁ sequence rfl
      refine (createNew_sat hnone ⟨process, sequence⟩).bind ?_ ?_
      · rintro γ₂ (_ | inode) ⟨hcreated, hfailed⟩
        · exact ih (hfailed nofun)
        · refine ⟨?_, nofun⟩
          rintro _ _ ⟨rfl, rfl⟩
          exact hcreated inode rfl
      · rintro γ₂ e ⟨-, hfailed⟩
        exact ⟨nofun, fun _ _ => hfailed nofun⟩
    · rintro γ₁ e rfl
      exact ⟨nofun, fun _ _ => hnone⟩

theorem writeByte_sat {γ : Held} {name : TempName} {inode : Nat} {written : FileBytes}
    (htemp : γ.temp = some (name, inode, written)) (byte : UInt8) :
    (writeByte inode byte).Sat KeyMoves (fun γ' r =>
      (r = .ok () → γ'.temp = some (name, inode, written ++ [byte])) ∧
        ∃ written', γ'.temp = some (name, inode, written')) γ := by
  refine .step fun answer s => ?_
  cases answer.fails with
  | true => exact ⟨γ, .looks, nofun, written, htemp⟩
  | false =>
    exact ⟨{ γ with temp := some (name, inode, written ++ [byte]) }, .writes byte htemp,
      fun _ => rfl, _, rfl⟩

theorem writeAll_sat {γ : Held} {name : TempName} {inode : Nat} {written : FileBytes}
    (htemp : γ.temp = some (name, inode, written)) (rest : FileBytes) :
    (writeAll inode rest).Sat KeyMoves (fun γ' r =>
      (r = .ok () → γ'.temp = some (name, inode, written ++ rest)) ∧
        ∃ written', γ'.temp = some (name, inode, written')) γ := by
  induction rest generalizing γ written with
  | nil => exact ⟨fun _ => by rw [List.append_nil]; exact htemp, written, htemp⟩
  | cons byte rest ih =>
    refine (writeByte_sat htemp byte).bind ?_ ?_
    · rintro γ₁ _ ⟨hwritten, -⟩
      refine (ih (hwritten rfl)).weaken ?_
      rintro γ₂ r ⟨hall, hsome⟩
      refine ⟨fun hr => ?_, hsome⟩
      rw [hall hr, List.append_assoc]
      rfl
    · rintro γ₁ e ⟨-, hsome⟩
      exact ⟨nofun, hsome⟩

theorem rename_sat {γ : Held} {name : TempName} {inode : Nat} {written : FileBytes}
    (htemp : γ.temp = some (name, inode, written)) :
    (renameTokenKeyNoReplace name).Sat KeyMoves (fun γ' r =>
      (r = .ok () → γ'.temp = none ∧ γ'.knows = some written) ∧
        (∀ e, r = .error e → γ'.temp = some (name, inode, written))) γ := by
  refine .step fun answer s => ?_
  cases answer.fails with
  | true => exact ⟨γ, .looks, nofun, fun _ _ => htemp⟩
  | false =>
    cases hentry : s.entry with
    | some file =>
      refine ⟨γ, ?_, fun hr => ?_, fun _ _ => htemp⟩
      · simpa [hentry] using KeyMoves.looks
      · simp at hr
    | none =>
      cases hfile : s.temps name with
      | none =>
        refine ⟨γ, ?_, fun hr => ?_, fun _ _ => htemp⟩
        · simpa [hentry, hfile] using KeyMoves.looks
        · simp at hr
      | some file =>
        refine ⟨{ γ with temp := none, knows := some written }, ?_, fun _ => ⟨rfl, rfl⟩,
          fun e hr => ?_⟩
        · simpa [hentry, hfile] using KeyMoves.publishes htemp hentry hfile
        · simp at hr

/-- An armed cleanup leaves the call without a temporary file, gone or refused. -/
theorem dropTempCleanup_sat {γ : Held} {name : TempName} {inode : Nat} {written : FileBytes}
    (htemp : γ.temp = some (name, inode, written)) :
    (dropTempCleanup name inode).Sat KeyMoves (fun γ' r => r = .ok () ∧
      γ' = { γ with temp := none }) γ := by
  refine .step fun answer s => ?_
  cases answer.fails with
  | true => exact ⟨{ γ with temp := none }, .refused htemp, rfl, rfl⟩
  | false => exact ⟨{ γ with temp := none }, .removes htemp, rfl, rfl⟩

theorem publishCandidate_sat {γ : Held} {name : TempName} {inode : Nat}
    (htemp : γ.temp = some (name, inode, [])) (candidate : CatalogTokenRootKey) :
    (publishCandidate name inode candidate).Sat KeyMoves (fun γ' r =>
      (r = .ok .published → γ'.temp = none ∧ γ'.knows = some candidate) ∧
        (r ≠ .ok .published → ∃ written, γ'.temp = some (name, inode, written))) γ := by
  refine (writeAll_sat htemp candidate).bind ?_ ?_
  · rintro γ₁ _ ⟨hwritten, -⟩
    refine (look_steady _ γ₁).bind ?_ ?_
    · rintro γ₂ _ rfl
      have hrename : (renameTokenKeyNoReplace name).attempt.Sat KeyMoves
          (fun γ' (r : Except KeyError (Except KeyError Unit)) => ∃ result, r = .ok result ∧
            (result = .ok () → γ'.temp = none ∧ γ'.knows = some candidate) ∧
              ∀ e, result = .error e → γ'.temp = some (name, inode, candidate)) γ₂ :=
        (rename_sat (hwritten rfl)).attempt fun _ result h => ⟨result, rfl, h⟩
      refine hrename.bind ?_ ?_
      · rintro γ₃ r ⟨_, ⟨rfl⟩, hok, herror⟩
        cases r with
        | ok _ =>
          obtain ⟨hnone, hknows⟩ := hok rfl
          exact ⟨fun _ => ⟨hnone, hknows⟩, fun hr => absurd rfl hr⟩
        | error e => cases e <;> exact ⟨nofun, fun _ => ⟨_, herror _ rfl⟩⟩
      · rintro γ₃ e ⟨_, hr, -⟩
        cases hr
    · rintro γ₂ e rfl
      exact ⟨nofun, fun _ => ⟨_, hwritten rfl⟩⟩
  · rintro γ₁ e ⟨-, hsome⟩
    exact ⟨nofun, fun _ => hsome⟩

theorem readPublished_sat (γ : Held) :
    readPublished.Sat KeyMoves (fun γ' r => γ'.temp = γ.temp ∧
      ∀ key, r = .ok key → Learned γ' key) γ := by
  refine (look_steady _ γ).bind ?_ ?_
  · rintro γ₁ _ rfl
    refine (readTokenKey_sat γ₁).bind ?_ ?_
    · rintro γ₂ (_ | key) ⟨htemp, hkey⟩
      · exact ⟨htemp, nofun⟩
      · refine ⟨htemp, ?_⟩
        rintro _ ⟨rfl⟩
        exact hkey key rfl
    · rintro γ₂ e ⟨htemp, -⟩
      exact ⟨htemp, nofun⟩
  · rintro γ₁ e rfl
    exact ⟨rfl, nofun⟩

/-- What a call leaves: no temporary file to answer for, and the published key. -/
def Returned (γ : Held) (r : Except KeyError CatalogTokenRootKey) : Prop :=
  γ.temp = none ∧ ∀ key, r = .ok key → Learned γ key

theorem finishTokenKey_sat {γ : Held} {name : TempName} {inode : Nat}
    {candidate : CatalogTokenRootKey} (hlength : candidate.length = tokenKeyBytes)
    (r : Except KeyError Publication)
    (hpublished : r = .ok .published → γ.temp = none ∧ γ.knows = some candidate)
    (hlost : r ≠ .ok .published → ∃ written, γ.temp = some (name, inode, written)) :
    (finishTokenKey name inode candidate r).Sat KeyMoves Returned γ := by
  match r with
  | .ok .published =>
    obtain ⟨hnone, hknows⟩ := hpublished rfl
    refine (look_steady _ γ).bind ?_ ?_
    · rintro γ₁ _ rfl
      refine ⟨hnone, ?_⟩
      rintro _ ⟨rfl⟩
      exact ⟨hknows, hlength⟩
    · rintro γ₁ e rfl
      exact ⟨hnone, nofun⟩
  | .ok .lost =>
    obtain ⟨written, htemp⟩ := hlost nofun
    have hread : readPublished.attempt.Sat KeyMoves
        (fun γ' (r : Except KeyError (Except KeyError CatalogTokenRootKey)) => ∃ result,
          r = .ok result ∧ γ'.temp = γ.temp ∧ ∀ key, result = .ok key → Learned γ' key) γ :=
      (readPublished_sat γ).attempt fun _ result h => ⟨result, rfl, h⟩
    refine hread.bind ?_ ?_
    · rintro γ₁ result ⟨_, ⟨rfl⟩, htemp', hkey⟩
      refine (dropTempCleanup_sat (htemp'.trans htemp)).bind ?_ ?_
      · rintro _ _ ⟨-, rfl⟩
        exact ⟨rfl, fun key hr => hkey key hr⟩
      · rintro _ e ⟨hr, -⟩
        cases hr
    · rintro γ₁ e ⟨_, hr, -⟩
      cases hr
  | .error error =>
    obtain ⟨written, htemp⟩ := hlost nofun
    refine (dropTempCleanup_sat htemp).bind ?_ ?_
    · rintro _ _ ⟨-, rfl⟩
      exact ⟨rfl, nofun⟩
    · rintro _ e ⟨hr, -⟩
      cases hr

theorem loadOrCreateTokenKey_sat (process : Nat) :
    (loadOrCreateTokenKey process).Sat KeyMoves Returned {} := by
  refine (readTokenKey_sat {}).bind ?_ ?_
  · rintro γ₁ (_ | key) ⟨hnone, hkey⟩
    · refine (look_steady _ γ₁).bind ?_ ?_
      · rintro γ₂ _ rfl
        have hgenerate : generate.Sat KeyMoves (fun γ' r => γ' = γ₂ ∧
            ∀ key, r = .ok key → key.length = tokenKeyBytes) γ₂ := by
          refine .step fun answer s => ⟨γ₂, .looks, rfl, fun key hr => ?_⟩
          cases hfails : answer.fails with
          | true => simp [hfails] at hr
          | false =>
            simp only [hfails, Bool.false_eq_true, if_false, Except.ok.injEq] at hr
            rw [← hr, List.length_ofFn]
        refine hgenerate.bind ?_ ?_
        · rintro _ candidate ⟨rfl, hlength⟩
          refine (createTokenKeyTemp_sat hnone process 16).bind ?_ ?_
          · rintro γ₄ ⟨name, inode⟩ ⟨hcreated, -⟩
            have hpublish : (publishCandidate name inode candidate).attempt.Sat KeyMoves
                (fun γ' (r : Except KeyError (Except KeyError Publication)) => ∃ result,
                  r = .ok result ∧
                    (result = .ok .published → γ'.temp = none ∧ γ'.knows = some candidate) ∧
                    (result ≠ .ok .published → ∃ written, γ'.temp = some (name, inode, written)))
                γ₄ :=
              (publishCandidate_sat (hcreated name inode rfl) candidate).attempt
                fun _ result h => ⟨result, rfl, h⟩
            refine hpublish.bind ?_ ?_
            · rintro γ₅ result ⟨_, ⟨rfl⟩, hpublished, hlost⟩
              exact finishTokenKey_sat (hlength _ rfl) result hpublished hlost
            · rintro γ₅ e ⟨_, hr, -⟩
              cases hr
          · rintro γ₄ e ⟨-, hfailed⟩
            exact ⟨hfailed e rfl, nofun⟩
        · rintro _ e ⟨rfl, -⟩
          exact ⟨hnone, nofun⟩
      · rintro γ₂ e rfl
        exact ⟨hnone, nofun⟩
    · refine ⟨hnone, ?_⟩
      rintro _ ⟨rfl⟩
      exact hkey key rfl
  · rintro γ₁ e ⟨hnone, -⟩
    exact ⟨hnone, nofun⟩

/-! ## The directory in a run -/

/-- Every file has its own inode, and no inode is given out twice. -/
structure KeyDirectory.Sound (s : KeyDirectory) : Prop where
  temps : ∀ name file, s.temps name = some file → file.inode < s.nextInode
  entry : ∀ file, s.entry = some file → file.inode < s.nextInode
  distinct : ∀ name name' file file', s.temps name = some file → s.temps name' = some file' →
    file.inode = file'.inode → name = name'
  apart : ∀ name file file', s.temps name = some file → s.entry = some file' →
    file.inode ≠ file'.inode

/-- What a call holds is true of the directory. -/
structure Held.Valid (γ : Held) (s : KeyDirectory) : Prop where
  temp : ∀ name inode written, γ.temp = some (name, inode, written) →
    (∃ file, s.temps name = some file ∧ file.inode = inode) ∧ s.content inode = written
  reading : ∀ inode read, γ.reading = some (inode, read) →
    (∃ file, s.entry = some file ∧ file.inode = inode) ∧ read <+: s.content inode
  knows : ∀ key, γ.knows = some key → s.published = some key

/-- The calls hold what is there, no two of them hold one temporary file, and what a call has
created is gone, held, or refused to go. -/
structure KeysInvariant (ghost : Nat → Held) (s : KeyDirectory)
    (tr : List (Entry KeyDirectory KeyEvent)) : Prop where
  sound : s.Sound
  valid : ∀ i, (ghost i).Valid s
  alone : ∀ i j name name' inode written written', (ghost i).temp = some (name, inode, written) →
    (ghost j).temp = some (name', inode, written') → i = j
  created : ∀ e ∈ tr, ∀ inode, e.event = some (.created inode) →
    inode < s.nextInode ∧ ((∀ name file, s.temps name = some file → file.inode ≠ inode) ∨
      (∃ name written, (ghost e.call).temp = some (name, inode, written)) ∨
      ∃ e' ∈ tr, e'.call = e.call ∧ e'.event = some (.removalRefused inode))

/-- The file at the path stays as it is. -/
structure KeyDirectory.Grows (s s' : KeyDirectory) : Prop where
  entry : ∀ file, s.entry = some file → s'.entry = some file ∧
    s'.content file.inode = s.content file.inode

theorem KeyDirectory.Grows.refl (s : KeyDirectory) : s.Grows s :=
  ⟨fun _ h => ⟨h, rfl⟩⟩

theorem KeyDirectory.Grows.published {s s' : KeyDirectory} (h : s.Grows s') {key : FileBytes}
    (hkey : s.published = some key) : s'.published = some key := by
  cases hentry : s.entry with
  | none => simp [KeyDirectory.published, hentry] at hkey
  | some file =>
    obtain ⟨hentry', hcontent⟩ := h.entry file hentry
    simp only [KeyDirectory.published, hentry, Option.map_some] at hkey
    simp only [KeyDirectory.published, hentry', Option.map_some, hcontent, hkey]

variable {γ γ' : Held} {s s' : KeyDirectory} {event : Option KeyEvent}

theorem KeyMoves.grows (hmove : KeyMoves γ s event s' γ') (hsound : s.Sound) (hvalid : γ.Valid s) :
    s.Grows s' := by
  cases hmove with
  | creates mode hnone hfree =>
    refine ⟨fun file hfile => ⟨hfile, ?_⟩⟩
    have hlt := hsound.entry file hfile
    exact Function.update_of_ne (by omega) _ _
  | writes byte htemp =>
    refine ⟨fun file hfile => ⟨hfile, ?_⟩⟩
    obtain ⟨⟨temp, hname, hinode⟩, -⟩ := hvalid.temp _ _ _ htemp
    have hapart := hsound.apart _ _ _ hname hfile
    exact Function.update_of_ne (by omega) _ _
  | publishes htemp hentry hfile =>
    refine ⟨fun file hpath => ?_⟩
    rw [hentry] at hpath
    cases hpath
  | _ => exact ⟨fun _ h => ⟨h, rfl⟩⟩

/-- A name that is taken away, by a rename or a removal. -/
theorem sound_of_less (hsound : s.Sound) (name : TempName) (entry : Option DirEntry)
    (hentry : ∀ file, entry = some file → s.entry = some file ∨ s.temps name = some file) :
    ({ s with entry, temps := Function.update s.temps name none } : KeyDirectory).Sound := by
  have hless : ∀ name' file, Function.update s.temps name none name' = some file →
      name' ≠ name ∧ s.temps name' = some file := by
    intro name' file hfile
    by_cases hname : name' = name
    · subst hname
      rw [Function.update_self] at hfile
      cases hfile
    · rw [Function.update_of_ne hname] at hfile
      exact ⟨hname, hfile⟩
  constructor
  · intro name' file hfile
    exact hsound.temps name' file (hless name' file hfile).2
  · intro file hfile
    rcases hentry file hfile with hold | htemp
    · exact hsound.entry file hold
    · exact hsound.temps name file htemp
  · intro n₁ n₂ f₁ f₂ h₁ h₂
    exact hsound.distinct n₁ n₂ f₁ f₂ (hless n₁ f₁ h₁).2 (hless n₂ f₂ h₂).2
  · intro name' file file' hfile hfile'
    obtain ⟨hname, hold⟩ := hless name' file hfile
    rcases hentry file' hfile' with hpath | htemp
    · exact hsound.apart name' file file' hold hpath
    · intro hinode
      exact hname (hsound.distinct name' name file file' hold htemp hinode)

theorem KeyMoves.sound (hmove : KeyMoves γ s event s' γ') (hsound : s.Sound) : s'.Sound := by
  cases hmove with
  | @creates name mode hnone hfree =>
    have hnew : ∀ name' file, Function.update s.temps name (some ⟨s.nextInode, true, mode⟩) name' =
        some file → (name' = name ∧ file.inode = s.nextInode) ∨
          (name' ≠ name ∧ s.temps name' = some file ∧ file.inode < s.nextInode) := by
      intro name' file hfile
      by_cases hname : name' = name
      · subst hname
        rw [Function.update_self, Option.some_inj] at hfile
        exact .inl ⟨rfl, by rw [← hfile]⟩
      · rw [Function.update_of_ne hname] at hfile
        exact .inr ⟨hname, hfile, hsound.temps name' file hfile⟩
    constructor
    · intro name' file hfile
      rcases hnew name' file hfile with ⟨-, hinode⟩ | ⟨-, -, hlt⟩
      · simp only [hinode]
        omega
      · simp only
        omega
    · intro file hfile
      have hlt := hsound.entry file hfile
      simp only
      omega
    · intro n₁ n₂ f₁ f₂ h₁ h₂ hinode
      rcases hnew n₁ f₁ h₁ with ⟨rfl, hi₁⟩ | ⟨hn₁, ho₁, hlt₁⟩ <;>
        rcases hnew n₂ f₂ h₂ with ⟨rfl, hi₂⟩ | ⟨hn₂, ho₂, hlt₂⟩
      · rfl
      · omega
      · omega
      · exact hsound.distinct n₁ n₂ f₁ f₂ ho₁ ho₂ hinode
    · intro name' file file' hfile hfile'
      have hlt' := hsound.entry file' hfile'
      rcases hnew name' file hfile with ⟨-, hinode⟩ | ⟨-, hold, -⟩
      · omega
      · exact hsound.apart name' file file' hold hfile'
  | @publishes name inode written file htemp hentry hfile =>
    refine sound_of_less hsound name (some file) fun file' hfile' => .inr ?_
    rw [hfile, hfile']
  | @removes name inode written htemp =>
    exact sound_of_less hsound name s.entry fun file' hfile' => .inl hfile'
  | _ => exact ⟨hsound.temps, hsound.entry, hsound.distinct, hsound.apart⟩

/-- What stays of a temporary file that another call holds. -/
theorem KeyMoves.keeps_temp (hmove : KeyMoves γ s event s' γ') (hsound : s.Sound)
    (hvalid : γ.Valid s) {name : TempName} {inode : Nat} {written : FileBytes}
    (hheld : (∃ file, s.temps name = some file ∧ file.inode = inode) ∧ s.content inode = written)
    (halone : ∀ name' written', γ.temp ≠ some (name', inode, written')) :
    (∃ file, s'.temps name = some file ∧ file.inode = inode) ∧ s'.content inode = written := by
  obtain ⟨⟨file, hfile, hinode⟩, hcontent⟩ := hheld
  have hother : ∀ name' inode' written', γ.temp = some (name', inode', written') →
      name ≠ name' ∧ inode ≠ inode' := by
    intro name' inode' written' htemp
    obtain ⟨⟨file', hfile', hinode'⟩, -⟩ := hvalid.temp _ _ _ htemp
    have hne : inode ≠ inode' := by
      rintro rfl
      exact halone name' written' htemp
    refine ⟨?_, hne⟩
    rintro rfl
    rw [hfile, Option.some_inj] at hfile'
    subst hfile'
    exact hne (hinode.symm.trans hinode')
  cases hmove with
  | @creates name' mode hnone hfree =>
    have hname : name ≠ name' := by
      rintro rfl
      rw [hfree] at hfile
      cases hfile
    have hlt := hsound.temps name file hfile
    refine ⟨⟨file, by simp only [Function.update_of_ne hname, hfile], hinode⟩, ?_⟩
    simp only
    rw [Function.update_of_ne (by omega), hcontent]
  | writes byte htemp =>
    refine ⟨⟨file, hfile, hinode⟩, ?_⟩
    simp only
    rw [Function.update_of_ne (hother _ _ _ htemp).2, hcontent]
  | publishes htemp hentry hpath =>
    exact ⟨⟨file, by simp only [Function.update_of_ne (hother _ _ _ htemp).1, hfile], hinode⟩,
      hcontent⟩
  | removes htemp =>
    exact ⟨⟨file, by simp only [Function.update_of_ne (hother _ _ _ htemp).1, hfile], hinode⟩,
      hcontent⟩
  | _ => exact ⟨⟨file, hfile, hinode⟩, hcontent⟩

/-- What another call holds stays true. -/
theorem KeyMoves.valid_other (hmove : KeyMoves γ s event s' γ') (hsound : s.Sound)
    (hvalid : γ.Valid s) {other : Held} (hother : other.Valid s)
    (halone : ∀ name name' inode written written', other.temp = some (name, inode, written) →
      γ.temp ≠ some (name', inode, written')) : other.Valid s' := by
  have hgrows := hmove.grows hsound hvalid
  constructor
  · intro name inode written htemp
    exact hmove.keeps_temp hsound hvalid (hother.temp name inode written htemp)
      fun name' written' => halone name name' inode written written' htemp
  · intro inode read hreading
    obtain ⟨⟨file, hfile, rfl⟩, hpre⟩ := hother.reading inode read hreading
    obtain ⟨hfile', hcontent⟩ := hgrows.entry file hfile
    exact ⟨⟨file, hfile', rfl⟩, by rw [hcontent]; exact hpre⟩
  · intro key hkey
    exact hgrows.published (hother.knows key hkey)

/-- What the call itself holds after its step is true. -/
theorem KeyMoves.valid_self (hmove : KeyMoves γ s event s' γ') (hsound : s.Sound)
    (hvalid : γ.Valid s) : γ'.Valid s' := by
  have hgrows := hmove.grows hsound hvalid
  have hreading : ∀ inode read, γ.reading = some (inode, read) →
      (∃ file, s'.entry = some file ∧ file.inode = inode) ∧ read <+: s'.content inode := by
    intro inode read h
    obtain ⟨⟨file, hfile, rfl⟩, hpre⟩ := hvalid.reading inode read h
    obtain ⟨hfile', hcontent⟩ := hgrows.entry file hfile
    exact ⟨⟨file, hfile', rfl⟩, by rw [hcontent]; exact hpre⟩
  have hknows : ∀ key, γ.knows = some key → s'.published = some key :=
    fun key hkey => hgrows.published (hvalid.knows key hkey)
  cases hmove with
  | looks => exact hvalid
  | counts sequence => exact ⟨hvalid.temp, hreading, hknows⟩
  | opens hentry =>
    refine ⟨hvalid.temp, ?_, hknows⟩
    rintro inode read ⟨rfl, rfl⟩
    exact ⟨⟨_, hentry, rfl⟩, List.nil_prefix⟩
  | @reads inode read byte hread hbyte =>
    refine ⟨hvalid.temp, ?_, hknows⟩
    rintro _ _ ⟨rfl, rfl⟩
    obtain ⟨hentry, rest, hrest⟩ := hreading inode read hread
    refine ⟨hentry, ?_⟩
    rw [← hrest, List.getElem?_append_right (Nat.le_refl _), Nat.sub_self] at hbyte
    cases rest with
    | nil => cases hbyte
    | cons next rest =>
      rw [List.getElem?_cons_zero, Option.some_inj] at hbyte
      subst hbyte
      exact ⟨rest, by rw [← hrest, List.append_assoc]; rfl⟩
  | @learns inode read hread hend =>
    refine ⟨hvalid.temp, hreading, ?_⟩
    rintro key ⟨rfl⟩
    obtain ⟨⟨file, hentry, rfl⟩, rest, hrest⟩ := hreading inode read hread
    rw [← hrest, List.getElem?_append_right (Nat.le_refl _), Nat.sub_self] at hend
    cases rest with
    | nil =>
      rw [List.append_nil] at hrest
      simp only [KeyDirectory.published, hentry, Option.map_some, hrest]
    | cons next rest => cases hend
  | @creates name mode hnone hfree =>
    refine ⟨?_, hreading, hknows⟩
    rintro _ _ _ ⟨rfl, rfl, rfl⟩
    exact ⟨⟨_, Function.update_self .., rfl⟩, Function.update_self ..⟩
  | @writes name inode written byte htemp =>
    refine ⟨?_, hreading, hknows⟩
    rintro _ _ _ ⟨rfl, rfl, rfl⟩
    obtain ⟨hfile, hcontent⟩ := hvalid.temp _ _ _ htemp
    refine ⟨hfile, ?_⟩
    simp only [Function.update_self, hcontent]
  | @publishes name inode written file htemp hentry hfile =>
    refine ⟨nofun, hreading, ?_⟩
    rintro key ⟨rfl⟩
    obtain ⟨⟨file', hfile', hinode⟩, hcontent⟩ := hvalid.temp _ _ _ htemp
    rw [hfile, Option.some_inj] at hfile'
    subst hfile'
    simp only [KeyDirectory.published, Option.map_some, hinode, hcontent]
  | removes htemp => exact ⟨nofun, hreading, hknows⟩
  | refused htemp => exact ⟨nofun, hreading, hknows⟩

/-- A file that a call holds after its step is the one it held before, or the one it has just
created. -/
theorem KeyMoves.temp_cases (hmove : KeyMoves γ s event s' γ') {name : TempName} {inode : Nat}
    {written : FileBytes} (htemp : γ'.temp = some (name, inode, written)) :
    (∃ written', γ.temp = some (name, inode, written')) ∨
      inode = s.nextInode ∧ event = some (.created inode) := by
  cases hmove with
  | creates mode hnone hfree =>
    obtain ⟨rfl, rfl, rfl⟩ := htemp
    exact .inr ⟨rfl, rfl⟩
  | writes byte hheld =>
    obtain ⟨rfl, rfl, rfl⟩ := htemp
    exact .inl ⟨_, hheld⟩
  | publishes | removes | refused => cases htemp
  | _ => exact .inl ⟨written, htemp⟩

/-- The file that a call held is still held, or has lost its name, or refused to go. -/
theorem KeyMoves.temp_after (hmove : KeyMoves γ s event s' γ') (hsound : s.Sound)
    (hvalid : γ.Valid s) {name : TempName} {inode : Nat} {written : FileBytes}
    (htemp : γ.temp = some (name, inode, written)) :
    (∃ written', γ'.temp = some (name, inode, written')) ∨
      (∀ name' file, s'.temps name' = some file → file.inode ≠ inode) ∨
        event = some (.removalRefused inode) := by
  obtain ⟨⟨file, hfile, hinode⟩, -⟩ := hvalid.temp _ _ _ htemp
  have hgone : ∀ name' file', Function.update s.temps name none name' = some file' →
      file'.inode ≠ inode := by
    intro name' file' hfile'
    by_cases hname : name' = name
    · subst hname
      rw [Function.update_self] at hfile'
      cases hfile'
    · rw [Function.update_of_ne hname] at hfile'
      rintro rfl
      exact hname (hsound.distinct name' name file' file hfile' hfile hinode.symm)
  cases hmove with
  | creates mode hnone hfree =>
    rw [hnone] at htemp
    cases htemp
  | writes byte hheld =>
    rw [hheld] at htemp
    obtain ⟨rfl, rfl, rfl⟩ := htemp
    exact .inl ⟨_, rfl⟩
  | publishes hheld hentry hpath =>
    rw [hheld] at htemp
    obtain ⟨rfl, rfl, rfl⟩ := htemp
    exact .inr (.inl hgone)
  | removes hheld =>
    rw [hheld] at htemp
    obtain ⟨rfl, rfl, rfl⟩ := htemp
    exact .inr (.inl hgone)
  | refused hheld =>
    rw [hheld] at htemp
    obtain ⟨rfl, rfl, rfl⟩ := htemp
    exact .inr (.inr rfl)
  | _ => exact .inl ⟨written, htemp⟩

/-- A file that has lost its name does not get one again. -/
theorem KeyMoves.gone (hmove : KeyMoves γ s event s' γ') {inode : Nat}
    (hlt : inode < s.nextInode)
    (hgone : ∀ name file, s.temps name = some file → file.inode ≠ inode) :
    inode < s'.nextInode ∧ ∀ name file, s'.temps name = some file → file.inode ≠ inode := by
  have hless : ∀ removed name file, Function.update s.temps removed none name = some file →
      file.inode ≠ inode := by
    intro removed name file hfile
    by_cases hname : name = removed
    · subst hname
      rw [Function.update_self] at hfile
      cases hfile
    · rw [Function.update_of_ne hname] at hfile
      exact hgone name file hfile
  cases hmove with
  | @creates created mode hnone hfree =>
    refine ⟨by simp only; omega, fun name file hfile => ?_⟩
    by_cases hname : name = created
    · subst hname
      simp only [Function.update_self, Option.some_inj] at hfile
      rw [← hfile]
      simp only
      omega
    · simp only [Function.update_of_ne hname] at hfile
      exact hgone name file hfile
  | publishes => exact ⟨hlt, hless _⟩
  | removes => exact ⟨hlt, hless _⟩
  | _ => exact ⟨hlt, hgone⟩

theorem KeyMoves.nextInode_le (hmove : KeyMoves γ s event s' γ') :
    s.nextInode ≤ s'.nextInode := by
  cases hmove with
  | creates => exact Nat.le_succ _
  | _ => exact Nat.le_refl _

theorem KeyMoves.created (hmove : KeyMoves γ s event s' γ') {inode : Nat}
    (hevent : event = some (.created inode)) :
    inode < s'.nextInode ∧ ∃ name written, γ'.temp = some (name, inode, written) := by
  cases hmove with
  | creates =>
    cases hevent
    exact ⟨Nat.lt_succ_self _, _, _, rfl⟩
  | _ => cases hevent

/-- One step of call `i` keeps the invariant. -/
theorem KeysInvariant.step {ghost : Nat → Held} {tr : List (Entry KeyDirectory KeyEvent)} {i : Nat}
    (h : KeysInvariant ghost s tr) (hmove : KeyMoves (ghost i) s event s' γ') :
    KeysInvariant (Function.update ghost i γ') s' (tr ++ [⟨i, s, event, s'⟩]) := by
  have hsound := h.sound
  have hvalid := h.valid i
  refine ⟨hmove.sound hsound, ?_, ?_, ?_⟩
  · intro j
    by_cases hij : j = i
    · subst hij
      rw [Function.update_self]
      exact hmove.valid_self hsound hvalid
    · rw [Function.update_of_ne hij]
      refine hmove.valid_other hsound hvalid (h.valid j) fun name name' inode written written' hj hi => ?_
      exact hij (h.alone j i name name' inode written written' hj hi)
  · have hone : ∀ j name name' inode written written', j ≠ i →
        γ'.temp = some (name, inode, written) → (ghost j).temp ≠ some (name', inode, written') := by
      intro j name name' inode written written' hij htemp hj
      rcases hmove.temp_cases htemp with ⟨before, hbefore⟩ | ⟨hnew, -⟩
      · exact hij (h.alone j i name' name inode written' before hj hbefore)
      · obtain ⟨⟨file, hfile, hinode⟩, -⟩ := (h.valid j).temp name' inode written' hj
        have hlt := hsound.temps name' file hfile
        omega
    intro j k name name' inode written written' hj hk
    by_cases hji : j = i <;> by_cases hki : k = i
    · rw [hji, hki]
    · subst hji
      rw [Function.update_self] at hj
      rw [Function.update_of_ne hki] at hk
      exact absurd hk (hone k name name' inode written written' hki hj)
    · subst hki
      rw [Function.update_self] at hk
      rw [Function.update_of_ne hji] at hj
      exact absurd hj (hone j name' name inode written' written hji hk)
    · rw [Function.update_of_ne hji] at hj
      rw [Function.update_of_ne hki] at hk
      exact h.alone j k name name' inode written written' hj hk
  · intro e he inode hevent
    rw [List.mem_append, List.mem_singleton] at he
    rcases he with he | rfl
    · obtain ⟨hlt, hgone | ⟨name, written, hheld⟩ | ⟨e', he', hcall, hrefused⟩⟩ :=
        h.created e he inode hevent
      · obtain ⟨hlt', hgone'⟩ := hmove.gone hlt hgone
        exact ⟨hlt', .inl hgone'⟩
      · refine ⟨hlt.trans_le hmove.nextInode_le, ?_⟩
        by_cases hcall : e.call = i
        · rw [hcall] at hheld ⊢
          rw [Function.update_self]
          rcases hmove.temp_after hsound hvalid hheld with ⟨written', hheld'⟩ | hgone | hrefused
          · exact .inr (.inl ⟨name, written', hheld'⟩)
          · exact .inl hgone
          · exact .inr (.inr ⟨_, List.mem_append_right _ (List.mem_singleton_self _), rfl, hrefused⟩)
        · rw [Function.update_of_ne hcall]
          exact .inr (.inl ⟨name, written, hheld⟩)
      · exact ⟨hlt.trans_le hmove.nextInode_le,
          .inr (.inr ⟨e', List.mem_append_left _ he', hcall, hrefused⟩)⟩
    · obtain ⟨hlt, name, written, htemp⟩ := hmove.created hevent
      exact ⟨hlt, .inr (.inl ⟨name, written, by rw [Function.update_self]; exact htemp⟩)⟩

/-! ## Runs -/

theorem invariant_start {s : KeyDirectory} (hsound : s.Sound) :
    KeysInvariant (fun _ => {}) s [] :=
  ⟨hsound, fun _ => ⟨nofun, nofun, nofun⟩, nofun, nofun⟩

/-- A run keeps the invariant, and the file at the path as it was at any earlier time. -/
theorem runTokenKey_from {sys : KeySystem} {ghost : Nat → Held}
    (ht : System.Tracked KeyMoves (fun _ => Returned) {} ghost sys)
    (hj : KeysInvariant ghost sys.shared sys.trace) (actions : List (Action KeyAnswer Nat)) :
    ∃ ghost', System.Tracked KeyMoves (fun _ => Returned) {} ghost'
        (System.run loadOrCreateTokenKey sys actions) ∧
      KeysInvariant ghost' (System.run loadOrCreateTokenKey sys actions).shared
        (System.run loadOrCreateTokenKey sys actions).trace ∧
      sys.shared.Grows (System.run loadOrCreateTokenKey sys actions).shared := by
  refine System.run_tracked_from
    (J := fun ghost s tr => KeysInvariant ghost s tr ∧ sys.shared.Grows s)
    loadOrCreateTokenKey_sat ?_ ht ?_ actions
  swap
  · exact ⟨hj, .refl _⟩
  rintro ghost s tr i e s' γ' ⟨hinv, hgrows⟩ hmove
  have hstep := hmove.grows hinv.sound (hinv.valid i)
  refine ⟨hinv.step hmove, ⟨fun file hfile => ?_⟩⟩
  obtain ⟨hentry, hcontent⟩ := hgrows.entry file hfile
  obtain ⟨hentry', hcontent'⟩ := hstep.entry file hentry
  exact ⟨hentry', hcontent'.trans hcontent⟩

/-- **Agreement.** Whatever calls there are, however they interleave and wherever they fail or
are killed: all that return a key return the published one, of 32 bytes; the file at the path
never changes; and the temporary files of a call that has returned are gone, unless the system
has refused to remove them. -/
theorem token_key_agreement (s : KeyDirectory) (hsound : s.Sound)
    (actions later : List (Action KeyAnswer Nat)) :
    (∀ (i : Nat) process key,
        (runTokenKey s actions).calls[i]? = some ⟨process, .finished (.ok key)⟩ →
          key.length = tokenKeyBytes ∧ (runTokenKey s actions).shared.published = some key) ∧
      (∀ file, (runTokenKey s actions).shared.entry = some file →
        (runTokenKey s (actions ++ later)).shared.entry = some file ∧
          (runTokenKey s (actions ++ later)).shared.content file.inode =
            (runTokenKey s actions).shared.content file.inode) ∧
      ∀ (i : Nat) process r, (runTokenKey s actions).calls[i]? = some ⟨process, .finished r⟩ →
        ∀ e ∈ (runTokenKey s actions).trace, e.call = i →
          ∀ inode, e.event = some (.created inode) →
            (∀ name file, (runTokenKey s actions).shared.temps name = some file →
                file.inode ≠ inode) ∨
              ∃ e' ∈ (runTokenKey s actions).trace,
                e'.call = i ∧ e'.event = some (.removalRefused inode) := by
  have hstart : System.Tracked KeyMoves (fun _ => Returned) {} (fun _ => {})
      ({ shared := s } : KeySystem) := ⟨fun i c hc => by simp at hc, fun _ _ => rfl⟩
  obtain ⟨ghost, htracked, hinv, -⟩ := runTokenKey_from hstart (invariant_start hsound) actions
  have hreturned : ∀ (i : Nat) process r,
      (runTokenKey s actions).calls[i]? = some ⟨process, .finished r⟩ → Returned (ghost i) r :=
    fun i process r hc => htracked.calls i _ hc
  refine ⟨?_, ?_, ?_⟩
  · intro i process key hc
    obtain ⟨hknows, hlength⟩ := (hreturned i process _ hc).2 key rfl
    exact ⟨hlength, (hinv.valid i).knows key hknows⟩
  · intro file hfile
    obtain ⟨-, -, -, hgrows⟩ := runTokenKey_from htracked hinv later
    have hrun : runTokenKey s (actions ++ later) =
        System.run loadOrCreateTokenKey (runTokenKey s actions) later := by
      rw [runTokenKey, System.run, List.foldl_append]
      rfl
    rw [hrun]
    exact hgrows.entry file hfile
  · rintro i process r hc e he rfl inode hevent
    obtain ⟨-, hgone | ⟨name, written, hheld⟩ | hrefused⟩ := hinv.created e he inode hevent
    · exact .inl hgone
    · rw [(hreturned _ process r hc).1] at hheld
      cases hheld
    · exact .inr hrefused

/-! ## Short runs -/

def emptyKeyDirectory : KeyDirectory where
  entry := none
  temps := fun _ => none
  content := fun _ => []
  nextInode := 0
  sequence := fun _ => 1

theorem emptyKeyDirectory_sound : emptyKeyDirectory.Sound :=
  ⟨nofun, nofun, nofun, nofun⟩

/-- Two processes look for the key before it is there; the first one publishes. -/
def twoCallers : List (Action KeyAnswer Nat) :=
  [.start 1, .start 2, .advance 0 {}, .advance 1 {}] ++
    List.replicate 40 (.advance 0 { entropy := fun _ => 7 }) ++
    List.replicate 80 (.advance 1 { entropy := fun _ => 9 })

set_option maxRecDepth 20000 in
theorem token_key_agreement_two :
    ∃ key, (runTokenKey emptyKeyDirectory twoCallers).calls[1]? =
        some ⟨2, .finished (.ok key)⟩ ∧
      (runTokenKey emptyKeyDirectory twoCallers).shared.published = some key ∧
      key = List.replicate 32 7 := by
  have hreturns : (runTokenKey emptyKeyDirectory twoCallers).calls[1]? =
      some ⟨2, .finished (.ok (List.replicate 32 7))⟩ := by rfl
  obtain ⟨-, hpublished⟩ := (token_key_agreement emptyKeyDirectory emptyKeyDirectory_sound
    twoCallers []).1 1 2 _ hreturns
  exact ⟨_, hreturns, hpublished, rfl⟩

/-- A write fails, and the removal of the temporary file is refused. -/
def removalRefused : List (Action KeyAnswer Nat) :=
  .start 1 :: List.replicate 5 (.advance 0 {}) ++
    List.replicate 2 (.advance 0 { fails := true }) ++ [.advance 0 {}]

/-- The call has returned, and its temporary file is there. -/
theorem token_key_temp_stays :
    let sys := runTokenKey emptyKeyDirectory removalRefused
    sys.calls[0]? = some ⟨1, .finished (.error .other)⟩ ∧
      (∃ e ∈ sys.trace, e.call = 0 ∧ e.event = some (.created 0)) ∧
      sys.shared.temps ⟨1, 1⟩ = some ⟨0, true, 0o600⟩ := by
  refine ⟨rfl, ?_, rfl⟩
  exact ⟨_, List.mem_of_getElem? (i := 4) rfl, rfl, rfl⟩

end Dbotter.Drivers
