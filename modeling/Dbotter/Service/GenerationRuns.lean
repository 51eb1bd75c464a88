import Dbotter.Service.Generations

/-!
Sequences of calls that change the configuration, and what they do to the generations.

A call runs alone, with whatever answers the file and the rest of the world give, so that the
file may have been edited by others in any way between two calls and within one.
-/

namespace Dbotter.Service
open Dbotter.Utf8 Dbotter.Configuration Dbotter.Program
open ObservedState

variable {ρ : Type}

/-- The commands that create, update, delete or reload, and what the desktop defers of them. -/
def Command.reconfigures : Command → Bool
  | .create _ | .createForRuntime _ | .update _ | .updateForRuntime _ | .delete _
  | .deleteForRuntime _ | .reload | .reloadForRuntime | .resolveDeferred _ _
  | .applyCleanup _ => true
  | _ => false

def Command.reloads : Command → Bool
  | .reload | .reloadForRuntime => true
  | _ => false

structure ConfigCall (ρ : Type) where
  command : Command
  reconfigures : command.reconfigures = true
  answers : Nat → Answer ρ

namespace ConfigCall

def run (split : Text → Option (List Text)) (call : ConfigCall ρ) (s : ApplicationService) :
    ApplicationService × Except Failure (Outcome ρ) :=
  (begin split call.command).solo call.answers s

/-- The profile that the call has created or updated. -/
def written (call : ConfigCall ρ) : Except Failure (Outcome ρ) → Option ProfileId
  | .ok (.mutation outcome) =>
      match call.command with
      | .create _ | .update _ => some outcome.profileId
      | _ => none
  | .ok (.runtimeMutation outcome) =>
      match call.command with
      | .createForRuntime _ | .updateForRuntime _ => some outcome.mutation.profileId
      | _ => none
  | _ => none

/-- The call has put up the fence: it leaves the configuration uncertain, and either found it
certain or tried to reload it. -/
def fences (call : ConfigCall ρ) (s s' : ApplicationService) : Bool :=
  s'.configUncertain && (!s.configUncertain || call.command.reloads)

end ConfigCall

def afterCalls (split : Text → Option (List Text)) (loaded : LoadedConfig)
    (calls : List (ConfigCall ρ)) : ApplicationService :=
  calls.foldl (fun s call => (call.run split s).1) (ApplicationService.initial loaded)

/-! ## One call -/

theorem Turns.of_untouched {s s' : ApplicationService} (h : Untouched s s') :
    Turns (fun _ => false) s s' :=
  Turn.untouched (Turn.waste le_rfl : Turns (fun _ => false) s s) h

theorem ConfigCall.fences_untouched {call : ConfigCall ρ} {s s' : ApplicationService}
    (h : Untouched s s') (hreloads : call.command.reloads = false) :
    call.fences s s' = false := by
  simp [fences, h.configUncertain, hreloads]

theorem Untouched.turns {s s' : ApplicationService} (h : Untouched s s') {call : ConfigCall ρ}
    (hreloads : call.command.reloads = false) {result : Except Failure (Outcome ρ)}
    (hwritten : call.written result = none) :
    Turns (fun p => call.fences s s' || call.written result == some p) s s' := by
  simp only [ConfigCall.fences_untouched h hreloads, hwritten]
  exact Turns.of_untouched h

/-- A mutation turns the ledger as its result says. -/
theorem MutationTurn.turns {α ε : Type} {forced : α → ProfileId → Bool}
    {s s' : ApplicationService} {r : Except ε α} (h : MutationTurn forced s s' r)
    {call : ConfigCall ρ} (hreloads : call.command.reloads = false)
    {result : Except Failure (Outcome ρ)}
    (herror : ∀ e, r = .error e → call.written result = none)
    (hok : ∀ a, r = .ok a → ∀ p, forced a p = (call.written result == some p)) :
    Turns (fun p => call.fences s s' || call.written result == some p) s s' := by
  cases h with
  | refused e h => exact h.turns hreloads (herror e rfl)
  | fenced e hcertain h huncertain =>
    have hfences : call.fences s s' = true := by
      simp [ConfigCall.fences, hcertain, huncertain]
    simp only [hfences, Bool.true_or]
    exact h
  | done a hcertain h hcertain' =>
    have hfences : call.fences s s' = false := by
      simp [ConfigCall.fences, hcertain']
    simp only [hfences, Bool.false_or]
    rwa [show forced a = _ from funext (hok a rfl)] at h

theorem ReloadTurn.turns {s s' : ApplicationService} (h : ReloadTurn s s') {call : ConfigCall ρ}
    (hreloads : call.command.reloads = true) {result : Except Failure (Outcome ρ)}
    (hwritten : call.written result = none) :
    Turns (fun p => call.fences s s' || call.written result == some p) s s' := by
  cases h with
  | fenced h huncertain =>
    have hfences : call.fences s s' = true := by
      simp [ConfigCall.fences, hreloads, huncertain]
    simp only [hfences, Bool.true_or]
    exact h
  | done h hcertain =>
    have hfences : call.fences s s' = false := by
      simp [ConfigCall.fences, hcertain]
    simp only [hfences, hwritten]
    exact h

theorem finishWith_ends {α : Type} {s : ApplicationService} {wrap : α → Outcome ρ} {op : Op ρ α}
    {Q : ApplicationService → Except Failure (Outcome ρ) → Prop}
    (h : op.Ends s fun s' r => Q s' ((r.map wrap).mapError .service)) :
    (finishWith wrap op).Ends s Q := by
  refine Task.ends_mapError.2 (Task.ends_bind.2 (h.mono ?_))
  rintro s' (e | a) hQ
  · exact hQ
  · exact hQ

theorem finishMutation_ends {s : ApplicationService} {inner : Mutation ρ RuntimeMutationOutcome}
    {Q : ApplicationService → Except Failure (Outcome ρ) → Prop}
    (h : inner.Ends s fun s' r => Q s' ((r.map .runtimeMutation).mapError .mutation)) :
    (finishMutation inner).Ends s Q := by
  refine Task.ends_mapError.2 (Task.ends_bind.2 (h.mono ?_))
  rintro s' (e | a) hQ
  · exact hQ
  · exact hQ

/-- The turn of one call: all profiles where the call has put up the fence, and the profile
that it has written, are given a new generation. -/
theorem ConfigCall.turns (split : Text → Option (List Text)) (call : ConfigCall ρ)
    (s : ApplicationService) :
    Turns (fun p => call.fences s (call.run split s).1 ||
      call.written (call.run split s).2 == some p) s (call.run split s).1 := by
  obtain ⟨command, hreconfigures, answers⟩ := call
  refine Task.Ends.solo (Q := fun s' r => Turns (fun p =>
    ConfigCall.fences ⟨command, hreconfigures, answers⟩ s s' ||
      ConfigCall.written ⟨command, hreconfigures, answers⟩ r == some p) s s') ?_ answers
  cases command with
  | create request =>
    refine finishWith_ends ((settleFailure_ends (fun outcome p => p == outcome.profileId)
      (createProfileInner_ends request false s)).mono fun s' r h => ?_)
    refine h.turns rfl ?_ ?_
    · rintro e rfl
      rfl
    · rintro outcome rfl p
      exact Bool.beq_comm
  | update request =>
    refine finishWith_ends ((settleFailure_ends (fun outcome p => p == outcome.profileId)
      (updateProfileInner_ends request .legacy s)).mono fun s' r h => ?_)
    refine h.turns rfl ?_ ?_
    · rintro e rfl
      rfl
    · rintro outcome rfl p
      exact Bool.beq_comm
  | delete request =>
    refine finishWith_ends ((settleFailure_ends (fun _ _ => false)
      (deleteProfileInner_ends request false s)).mono fun s' r h => ?_)
    refine h.turns rfl ?_ ?_
    · rintro e rfl
      rfl
    · rintro outcome rfl p
      rfl
  | createForRuntime request =>
    refine finishMutation_ends ((createProfileInner_ends request true s).mono fun s' r h => ?_)
    refine h.turns rfl ?_ ?_
    · rintro e rfl
      rfl
    · rintro outcome rfl p
      exact Bool.beq_comm
  | updateForRuntime request =>
    refine finishMutation_ends ((updateProfileInner_ends request .defer s).mono fun s' r h => ?_)
    refine h.turns rfl ?_ ?_
    · rintro e rfl
      rfl
    · rintro outcome rfl p
      exact Bool.beq_comm
  | deleteForRuntime request =>
    refine finishMutation_ends ((deleteProfileInner_ends request true s).mono fun s' r h => ?_)
    refine h.turns rfl ?_ ?_
    · rintro e rfl
      rfl
    · rintro outcome rfl p
      rfl
  | reload =>
    refine finishWith_ends ((reloadConfiguration_ends s).mono fun s' r h => ?_)
    refine h.turns rfl ?_
    cases r <;> rfl
  | reloadForRuntime =>
    refine finishWith_ends ((reloadConfigurationForRuntime_ends s).mono fun s' r h => ?_)
    refine h.1.turns rfl ?_
    cases r <;> rfl
  | resolveDeferred fence allowRetag =>
    refine finishWith_ends ((resolveDeferredSession_quiet fence allowRetag s).mono
      fun s' r h => ?_)
    obtain ⟨h, a, rfl⟩ := h
    exact h.turns rfl rfl
  | applyCleanup cleanup =>
    refine finishWith_ends ((applyDeferredCleanup_quiet cleanup s).mono fun s' r h => ?_)
    obtain ⟨h, a, rfl⟩ := h
    exact h.turns rfl rfl
  | _ => cases hreconfigures

/-! ## Sequences of calls -/

section
variable (split : Text → Option (List Text)) (loaded : LoadedConfig)

/-- `g` has been a generation of `p` at some time, live or as the tombstone. -/
def HandedOut (calls : List (ConfigCall ρ)) (p : ProfileId) (g : ProfileGeneration)
    (dead : Bool) : Prop :=
  ∃ earlier, earlier <+: calls ∧
    (if dead then (afterCalls split loaded earlier).observed.tombstone p
      else (afterCalls split loaded earlier).observed.live p) = some g

theorem afterCalls_snoc (calls : List (ConfigCall ρ)) (call : ConfigCall ρ) :
    afterCalls split loaded (calls ++ [call]) =
      (call.run split (afterCalls split loaded calls)).1 := by
  simp [afterCalls]

theorem afterCalls_sound (calls : List (ConfigCall ρ)) :
    (afterCalls split loaded calls).observed.Sound
      (afterCalls split loaded calls).nextGeneration := by
  induction calls using List.reverseRecOn with
  | nil => exact initial_sound loaded
  | append_singleton calls call ih =>
    rw [afterCalls_snoc]
    exact (call.turns split _).sound ih

/-- A generation that was handed out is below the counter, and if it is in the ledger still,
it stands where it stood. -/
theorem handedOut_ledger {calls : List (ConfigCall ρ)} {p : ProfileId} {g : ProfileGeneration}
    {dead : Bool} (h : HandedOut split loaded calls p g dead) :
    g < (afterCalls split loaded calls).nextGeneration ∧
      (∀ q, (afterCalls split loaded calls).observed.live q = some g → q = p ∧ dead = false) ∧
      ∀ q, (afterCalls split loaded calls).observed.tombstone q = some g → q = p ∧ dead = true := by
  obtain ⟨earlier, ⟨later, rfl⟩, h⟩ := h
  induction later using List.reverseRecOn with
  | nil =>
    rw [List.append_nil]
    have hs := afterCalls_sound split loaded earlier
    cases dead with
    | false =>
      refine ⟨hs.live_lt p g h, fun q hq => ⟨hs.live_inj q p g hq h, rfl⟩, fun q hq => ?_⟩
      exact absurd hq (hs.disjoint p q g h)
    | true =>
      refine ⟨hs.tombstone_lt p g h, fun q hq => absurd h (hs.disjoint q p g hq), fun q hq => ?_⟩
      exact ⟨hs.tombstone_inj q p g hq h, rfl⟩
  | append_singleton later call ih =>
    obtain ⟨hlt, hlive, htombstone⟩ := ih
    rw [← List.append_assoc, afterCalls_snoc]
    have hs := afterCalls_sound split loaded (earlier ++ later)
    have hturn := call.turns split (afterCalls split loaded (earlier ++ later))
    generalize afterCalls split loaded (earlier ++ later) = s at *
    generalize (call.run split s).1 = s' at *
    generalize (call.run split s).2 = r at *
    refine ⟨lt_of_lt_of_le hlt hturn.next_le, fun q hq => ?_, fun q hq => ?_⟩
    · by_cases hfresh : (call.fences s s' || call.written r == some q) = true ∨
          ¬ s.observed.Unchanged s'.observed q
      · exact absurd hlt (not_lt.2 (hturn.fresh q g hfresh hq))
      · push Not at hfresh
        rw [hturn.kept hs q (by simpa using hfresh.1) hfresh.2] at hq
        exact hlive q hq
    · obtain hq | hge := hturn.tombstone q g hq
      · exact htombstone q hq
      · exact absurd hlt (not_lt.2 hge)

theorem HandedOut.mono {calls : List (ConfigCall ρ)} {p : ProfileId} {g : ProfileGeneration}
    {dead : Bool} (h : HandedOut split loaded calls p g dead) (later : List (ConfigCall ρ)) :
    HandedOut split loaded (calls ++ later) p g dead := by
  obtain ⟨earlier, hearlier, h⟩ := h
  exact ⟨earlier, hearlier.trans (List.prefix_append calls later), h⟩

/-- The discipline of the generations after `calls`. -/
structure Discipline (calls : List (ConfigCall ρ)) : Prop where
  /-- A generation is handed out once, to one profile, live or as a tombstone. -/
  distinct : ∀ p q g dead dead', HandedOut split loaded calls p g dead →
    HandedOut split loaded calls q g dead' → p = q ∧ dead = dead'
  below : ∀ p g dead, HandedOut split loaded calls p g dead →
    g < (afterCalls split loaded calls).nextGeneration
  listed : ∀ p, ((afterCalls split loaded calls).observed.live p).isSome ↔
    ∃ profile ∈ (afterCalls split loaded calls).observed.config.profiles, profile.id = p
  /-- One more call raises the generations of what it changes, writes or fences. -/
  raised : ∀ (call : ConfigCall ρ) (p : ProfileId) (g g' : ProfileGeneration),
    (afterCalls split loaded calls).observed.live p = some g →
    (afterCalls split loaded (calls ++ [call])).observed.live p = some g' →
    (¬ (afterCalls split loaded calls).observed.Unchanged
        (afterCalls split loaded (calls ++ [call])).observed p ∨
      call.written (call.run split (afterCalls split loaded calls)).2 = some p ∨
      call.fences (afterCalls split loaded calls)
        (afterCalls split loaded (calls ++ [call])) = true) → g < g'
  kept : ∀ (call : ConfigCall ρ) (p : ProfileId),
    call.fences (afterCalls split loaded calls)
      (afterCalls split loaded (calls ++ [call])) = false →
    call.written (call.run split (afterCalls split loaded calls)).2 ≠ some p →
    (afterCalls split loaded calls).observed.Unchanged
      (afterCalls split loaded (calls ++ [call])).observed p →
    (afterCalls split loaded (calls ++ [call])).observed.live p =
      (afterCalls split loaded calls).observed.live p
  /-- An id that comes back is above all that it ever had. -/
  readded : ∀ (call : ConfigCall ρ) (p : ProfileId) (g g' : ProfileGeneration) (dead : Bool),
    (afterCalls split loaded calls).observed.live p = none →
    (afterCalls split loaded (calls ++ [call])).observed.live p = some g' →
    HandedOut split loaded calls p g dead → g < g'

theorem handedOut_distinct {calls : List (ConfigCall ρ)} {p q : ProfileId}
    {g : ProfileGeneration} {dead dead' : Bool} (hp : HandedOut split loaded calls p g dead)
    (hq : HandedOut split loaded calls q g dead') : p = q ∧ dead = dead' := by
  -- Of the two moments one is not after the other: what stands in the ledger at the later one
  -- stands where it stood at the earlier one.
  have key : ∀ {earlier later : List (ConfigCall ρ)} {p q : ProfileId} {dead dead' : Bool},
      earlier <+: later → HandedOut split loaded earlier p g dead →
      (if dead' then (afterCalls split loaded later).observed.tombstone q
        else (afterCalls split loaded later).observed.live q) = some g → q = p ∧ dead' = dead := by
    rintro earlier later p q dead dead' ⟨rest, rfl⟩ hp hq
    obtain ⟨-, hlive, htombstone⟩ := handedOut_ledger split loaded (hp.mono split loaded rest)
    cases dead' with
    | false =>
      obtain ⟨rfl, rfl⟩ := hlive q hq
      exact ⟨rfl, rfl⟩
    | true =>
      obtain ⟨rfl, rfl⟩ := htombstone q hq
      exact ⟨rfl, rfl⟩
  obtain ⟨earlier, hearlier, hp⟩ := hp
  obtain ⟨later, hlater, hq⟩ := hq
  rcases List.prefix_or_prefix_of_prefix hearlier hlater with hle | hle
  · obtain ⟨rfl, rfl⟩ := key hle ⟨earlier, List.prefix_refl _, hp⟩ hq
    exact ⟨rfl, rfl⟩
  · exact key hle ⟨later, List.prefix_refl _, hq⟩ hp

/-- **Generation discipline.** It holds after every sequence of calls. -/
theorem afterCalls_disciplined (calls : List (ConfigCall ρ)) :
    Discipline split loaded calls := by
  have hs := afterCalls_sound split loaded calls
  have hturn := fun call : ConfigCall ρ => call.turns split (afterCalls split loaded calls)
  refine ⟨fun p q g dead dead' hp hq => handedOut_distinct split loaded hp hq,
    fun p g dead h => (handedOut_ledger split loaded h).1, ?_, ?_, ?_, ?_⟩
  · intro p
    rw [hs.listed p, content_eq_latest, latest_isSome]
  · intro call p g g' hg hg' hcause
    rw [afterCalls_snoc] at hg' hcause
    refine lt_of_lt_of_le (hs.live_lt p g hg) ((hturn call).fresh p g' ?_ hg')
    rcases hcause with hcause | hcause | hcause
    · exact .inr hcause
    · simp [hcause]
    · simp [hcause]
  · intro call p hfences hwritten hcontent
    rw [afterCalls_snoc] at hfences hcontent ⊢
    exact (hturn call).kept hs p (by simp [hfences, hwritten]) hcontent
  · intro call p g g' dead hnone hg' hhanded
    rw [afterCalls_snoc] at hg'
    refine lt_of_lt_of_le (handedOut_ledger split loaded hhanded).1
      ((hturn call).fresh p g' ?_ hg')
    -- The id was not listed before, and it is now.
    right
    intro hcontent
    have hbefore := hs.listed p
    have hafter := ((hturn call).sound hs).listed p
    rw [hg', isSome_eq_of_beq hcontent, ← hbefore, hnone] at hafter
    cases hafter

end

end Dbotter.Service
