import Dbotter.Service.SessionSafety

/-!
An acquisition that installs its session where none was returns at once. So an acquisition that
waits for anything has left the cache as it was, or has put its session in the place of another.
-/

namespace Dbotter.Service
open Dbotter.Utf8 Dbotter.Execution Dbotter.Configuration Dbotter.Program
open Dbotter.Program.System

variable {ρ α β : Type}

/-- A lease is handed out for a profile that has a session. -/
def Displaces (s : ApplicationService) (e : Option Event) : Prop :=
  ∃ g lease, e = some (.leased g lease) ∧ (s.sessions.lookup lease.profileId).isSome = true

/-- The step leaves the cache as it is, or displaces a session. -/
def Gentle (x : ApplicationService × Option Event × ApplicationService) : Prop :=
  x.2.2.sessions = x.1.sessions ∨ Displaces x.1 x.2.1

/-- Every step is gentle but perhaps the last. -/
def GentleBefore (steps : Steps) : Prop :=
  ∀ before x after, steps = before ++ x :: after → after ≠ [] → Gentle x

theorem gentle_snoc {steps : Steps} {x : ApplicationService × Option Event × ApplicationService}
    (h : ∀ x ∈ steps, Gentle x) (hx : Gentle x) : ∀ y ∈ steps ++ [x], Gentle y := by
  intro y hy
  rcases List.mem_append.1 hy with hy | hy
  · exact h y hy
  · cases List.mem_singleton.1 hy
    exact hx

theorem GentleBefore.of_all {steps : Steps} (h : ∀ x ∈ steps, Gentle x) :
    GentleBefore steps := by
  rintro before x after rfl -
  exact h x (by simp)

theorem GentleBefore.of_snoc {steps : Steps}
    {x : ApplicationService × Option Event × ApplicationService} (h : ∀ x ∈ steps, Gentle x) :
    GentleBefore (steps ++ [x]) := by
  intro before y after heq hafter
  rcases List.eq_nil_or_concat after with rfl | ⟨after', last, rfl⟩
  · exact absurd rfl hafter
  · rw [List.concat_eq_append, ← List.cons_append, ← List.append_assoc] at heq
    obtain ⟨rfl, -⟩ := List.append_inj' heq rfl
    exact h y (by simp)

/-- A part of an acquisition all of whose steps are gentle. -/
def Calm (t : Op ρ α) : Prop :=
  ∀ past : Steps, (∀ x ∈ past, Gentle x) → Along (fun steps _ => ∀ x ∈ steps, Gentle x) t past

theorem Calm.done (r : Except ServiceError α) : Calm (.done r : Op ρ α) := fun _ h => h

theorem Calm.step {f : Answer ρ → ApplicationService →
      Effect ApplicationService Event (Except ServiceError α)}
    (h : ∀ i s, (f i s).state.sessions = s.sessions) : Calm (Task.step f : Op ρ α) :=
  fun _ hpast i s => ⟨_, rfl, gentle_snoc hpast (.inl (h i s))⟩

theorem Calm.bind {t : Op ρ α} {f : α → Op ρ β} (ht : Calm t) (hf : ∀ a, Calm (f a)) :
    Calm (t >>= f) := by
  intro past hpast
  apply Task.Sat.bind (ht past hpast)
  · intro steps a hsteps
    exact hf a steps hsteps
  · intro steps e hsteps
    exact hsteps

/-- A step of the task that is not gentle is its last one. -/
def Hasty (t : Op ρ α) : Prop :=
  ∀ past : Steps, (∀ x ∈ past, Gentle x) → Along (fun steps _ => GentleBefore steps) t past

theorem Calm.hasty {t : Op ρ α} (h : Calm t) : Hasty t :=
  fun past hpast => Task.Sat.weaken (h past hpast) fun _ _ hsteps => .of_all hsteps

theorem Calm.andThen {t : Op ρ α} {f : α → Op ρ β} (ht : Calm t) (hf : ∀ a, Hasty (f a)) :
    Hasty (t >>= f) := by
  intro past hpast
  apply Task.Sat.bind (ht past hpast)
  · intro steps a hsteps
    exact hf a steps hsteps
  · intro steps e hsteps
    exact .of_all hsteps

theorem close_calm (handle : Handle) : Calm (close handle : Op ρ Unit) := .step fun _ _ => rfl

theorem lookupSession_calm (profile : ConnectionProfile) (generation : ProfileGeneration)
    (o : OperationId) :
    Calm (lookupSession profile generation o : Op ρ (Option SessionLease)) := by
  apply Calm.step
  intro _ s
  by_cases huncertain : s.configUncertain = true
  · simp [huncertain]
  · by_cases hcurrent : s.isCurrent profile generation = true
    · cases hc : s.sessions.lookup profile.id with
      | none => simp [huncertain, hcurrent]
      | some c =>
          by_cases hserves : c.serves profile generation = true
          · simp [huncertain, hcurrent, hserves]
          · simp [huncertain, hcurrent, hserves]
    · simp [huncertain, hcurrent]

/-- What follows the write-locked section: nothing, where the section installed freely. -/
theorem installSession_hasty (profile : ConnectionProfile) (generation : ProfileGeneration)
    (n : SessionGeneration) (connected : Handle) {f : CacheInstall → Op ρ α}
    (hfree : ∀ lease, ∃ r, f (.installed none lease) = .done r)
    (hrest : ∀ install, (∀ lease, install ≠ .installed none lease) → Calm (f install)) :
    Hasty (installSession profile generation n connected >>= f) := by
  intro past hpast i s
  refine ⟨_, rfl, ?_⟩
  by_cases huncertain : s.configUncertain = true
  · simp only [huncertain, if_true]
    exact (hrest .uncertain (fun _ h => nomatch h)).hasty _ (gentle_snoc hpast (.inl rfl))
  · by_cases hcurrent : s.isCurrent profile generation = true
    · have hstale : ¬(!s.isCurrent profile generation) = true := by simp [hcurrent]
      simp only [if_neg huncertain, if_neg hstale]
      cases hc : s.sessions.lookup profile.id with
      | none =>
          simp only [Option.map_none]
          obtain ⟨r, hr⟩ := hfree
            ((⟨⟨generation, n, .from profile⟩, connected⟩ : CachedSession).lease profile)
          show Task.Sat _ _ (f _) _
          rw [hr]
          exact GentleBefore.of_snoc hpast
      | some c =>
          by_cases hserves : c.serves profile generation = true
          · simp only [hserves, if_true]
            exact (hrest (.existing _) (fun _ h => nomatch h)).hasty _
              (gentle_snoc hpast (.inl rfl))
          · simp only [hserves]
            refine (hrest (.installed (some c.handle) _) ?_).hasty _ (gentle_snoc hpast (.inr ?_))
            · intro lease h
              cases h
            · refine ⟨_, _, rfl, ?_⟩
              change (s.sessions.lookup profile.id).isSome = true
              rw [hc]
              rfl
    · simp only [huncertain, hcurrent]
      exact (hrest .stale (fun _ h => nomatch h)).hasty _ (gentle_snoc hpast (.inl rfl))

theorem sessionFor_hasty (profile : ConnectionProfile) (generation : ProfileGeneration)
    (o : OperationId) : Hasty (sessionFor profile generation o : Op ρ SessionLease) := by
  have hcertain : Calm (ensureConfigCertain : Op ρ Unit) := .step fun _ _ => rfl
  apply hcertain.andThen
  intro _
  apply (lookupSession_calm profile generation o).andThen
  intro cached
  cases cached with
  | some lease => exact (Calm.done _).hasty
  | none =>
      have hprepare : Calm (prepareConnection profile : Op ρ (Option SessionSecret)) :=
        .step fun _ _ => rfl
      apply hprepare.andThen
      intro secret
      have hallocate : Calm (allocateSessionGeneration : Op ρ SessionGeneration) :=
        .step fun _ _ => rfl
      apply hallocate.andThen
      intro n
      have hconnect : Calm (connect profile secret generation :
          Op ρ (Except DriverError Handle)) := by
        apply Calm.step
        intro answer s
        cases answer.connect with
        | ok _ => rfl
        | error _ => rfl
      apply hconnect.andThen
      intro dialled
      cases dialled with
      | error error =>
          have hobserve : Calm (ensureSessionObservation profile.id generation o : Op ρ Unit) :=
            .step fun _ _ => rfl
          exact (hobserve.bind fun _ => .done _).hasty
      | ok connected =>
          apply installSession_hasty
          · intro lease
            exact ⟨_, rfl⟩
          · intro install hinstall
            cases install with
            | installed displaced lease =>
                cases displaced with
                | none => exact absurd rfl (hinstall lease)
                | some displaced => exact (close_calm displaced).bind fun _ => .done _
            | existing lease => exact (close_calm connected).bind fun _ => .done _
            | stale => exact (close_calm connected).bind fun _ => .done _
            | uncertain => exact (close_calm connected).bind fun _ => .done _

theorem acquireSessionAt_hasty (o : OperationId) (p : ProfileId) (g : ProfileGeneration) :
    Hasty (acquireSessionAt o p g : Op ρ SessionLease) := by
  have hcertain : Calm (ensureConfigCertain : Op ρ Unit) := .step fun _ _ => rfl
  apply hcertain.andThen
  intro _
  have hprofile : Calm (profileWithGeneration p :
      Op ρ (ConnectionProfile × ProfileGeneration)) := .step fun _ _ => rfl
  apply hprofile.andThen
  rintro ⟨profile, generation⟩
  show Hasty (if _ then _ else _)
  split
  · exact (Calm.done _).hasty
  · have hcheck : Calm (checkProfileForNetwork profile : Op ρ Unit) :=
      .step fun _ _ => rfl
    apply hcheck.andThen
    intro _
    exact sessionFor_hasty profile generation o

/-- What the acquisitions of the pool keep to; nothing is said of the other calls. -/
def KeepsGentle (command : Command) (steps : Steps) (_ : Except Failure (Outcome ρ)) : Prop :=
  ∀ identity, command = .acquire identity → GentleBefore steps

theorem begin_hasty (split : Text → Option (List Text)) (command : Command) :
    Along (KeepsGentle command) (begin split command : CallTask ρ) [] := by
  cases command with
  | acquire identity =>
      have hwrap : Along (fun steps _ => GentleBefore steps) (do
          let value ← acquireSessionAt identity.operationId identity.profileId
            identity.profileGeneration
          return .lease value : Op ρ (Outcome ρ)) [] :=
        Task.Sat.bind (acquireSessionAt_hasty _ _ _ [] fun x hx => nomatch hx)
          (fun _ _ h => h) fun _ _ h => h
      exact Task.Sat.mapError hwrap fun _ _ h _ _ => h
  | _ => exact Task.Sat.weaken (Along.trivial _ []) fun _ _ _ _ h => nomatch h

/-- A call that acquires a session and waits for something has left the cache as it was, or has
displaced a session. -/
theorem waiting_gentle (split : Text → Option (List Text)) (loaded : LoadedConfig)
    (actions : List (Action (Answer ρ) Command)) {i : Nat} {identity : RequestIdentity}
    {act : Answer ρ → ApplicationService → ApplicationService}
    {emit : Answer ρ → ApplicationService → Option Event}
    {next : Answer ρ → ApplicationService → CallTask ρ} (answer : Answer ρ)
    (hcall : (runService split loaded actions).calls[i]? =
      some ⟨.acquire identity, .running (.atomic act emit next)⟩) :
    ∀ x ∈ history i (runService split loaded actions).trace, Gentle x := by
  have hpending := run_along (begin_hasty split) (ApplicationService.initial loaded) actions hcall
  intro x hx
  obtain ⟨before, after, hsplit⟩ := List.append_of_mem hx
  unfold runService at hsplit
  obtain ⟨_, rfl, hnext⟩ := hpending answer (ApplicationService.initial loaded)
  obtain ⟨steps, r, hlast, more, hsteps⟩ := Along.reaches answer
    (ApplicationService.initial loaded) hnext
  rw [hsplit, List.append_assoc, List.append_assoc, List.cons_append] at hsteps
  exact hlast identity rfl before x _ hsteps.symm (by simp)

end Dbotter.Service
