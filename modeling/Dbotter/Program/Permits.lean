import Mathlib.Data.List.Count
import Mathlib.Data.List.Nodup
import Mathlib.Logic.Function.Basic

/-!
Semaphores that are shared by pointers and found by a key.

A registry holds one pointer to the semaphore of each key that it knows, and makes a semaphore where
it knows none. It may forget a key again: it decides so by the number of pointers and of permits.
-/

namespace Dbotter.Program

variable {κ τ : Type}

/-- `key` is what the semaphore was made for. -/
structure Semaphore (κ : Type) where
  key : κ
  strongCount : Nat
  availablePermits : Nat

/-- A pointer in somebody's hands, alone or as a part of a permit. -/
structure Grip (κ τ : Type) where
  owner : τ
  key : κ
  semaphore : Nat
  permit : Bool
  deriving DecidableEq

/-- All semaphores that were ever made, the registry, and the pointers that it handed out. -/
structure Permits (κ τ : Type) where
  semaphores : List (Semaphore κ) := []
  slots : κ → Option Nat := fun _ => none
  grips : List (Grip κ τ) := []

namespace Permits

section
variable [DecidableEq κ] (limit : κ → Nat)

/-- A semaphore of its own for a key. -/
def make (p : Permits κ τ) (key : κ) : Permits κ τ :=
  { p with
    semaphores := p.semaphores ++ [⟨key, 1, limit key⟩]
    slots := Function.update p.slots key (some p.semaphores.length) }

/-- The semaphore of a key, which is made where there is none. -/
def slot (p : Permits κ τ) (key : κ) : Permits κ τ × Nat :=
  match p.slots key with
  | some id => (p, id)
  | none => (p.make limit key, p.semaphores.length)

/-- A clone of a pointer. -/
def share (p : Permits κ τ) (owner : τ) (key : κ) (id : Nat) : Permits κ τ :=
  { p with
    semaphores := p.semaphores.modify id fun s => { s with strongCount := s.strongCount + 1 }
    grips := ⟨owner, key, id, false⟩ :: p.grips }

def available (p : Permits κ τ) (id : Nat) : Nat :=
  (p.semaphores[id]?).elim 0 Semaphore.availablePermits

variable [DecidableEq τ]

/-- The owner of a pointer takes a permit, if there is one. Which of several owners takes it is
left open. -/
def acquire (p : Permits κ τ) (owner : τ) (key : κ) (id : Nat) : Permits κ τ × Bool :=
  if ⟨owner, key, id, false⟩ ∈ p.grips ∧ 0 < p.available id then
    ({ p with
        semaphores := p.semaphores.modify id fun s =>
          { s with availablePermits := s.availablePermits - 1 }
        grips := ⟨owner, key, id, true⟩ :: p.grips.erase ⟨owner, key, id, false⟩ }, true)
  else (p, false)

/-- A pointer goes, and the permit that it is part of goes back. -/
def dropGrip (p : Permits κ τ) (g : Grip κ τ) : Permits κ τ :=
  if g ∈ p.grips then
    { p with
      semaphores := p.semaphores.modify g.semaphore fun s =>
        { s with
          strongCount := s.strongCount - 1
          availablePermits := s.availablePermits + g.permit.toNat }
      grips := p.grips.erase g }
  else p

/-- A permit of the semaphore of a key, if there is one now. -/
def tryAcquire (p : Permits κ τ) (owner : τ) (key : κ) : Permits κ τ × Bool :=
  let found := p.slot limit key
  let acquired := (found.1.share owner key found.2).acquire owner key found.2
  if acquired.2 then acquired
  else (acquired.1.dropGrip ⟨owner, key, found.2, false⟩, false)

/-- Everything of a kind goes. -/
def dropWhere (p : Permits κ τ) (gone : Grip κ τ → Bool) : Permits κ τ :=
  (p.grips.filter gone).foldl dropGrip p

/-- A semaphore that others point to, or whose permits are out. -/
def inUse (p : Permits κ τ) (id : Nat) : Bool :=
  (p.semaphores[id]?).any fun s => decide (1 < s.strongCount) || s.availablePermits == 0

/-- Of the keys that are swept those are kept whose semaphore is in use. -/
def retain (p : Permits κ τ) (swept : κ → Bool) : Permits κ τ :=
  let kept (key : κ) (id : Nat) : Bool := !swept key || p.inUse id
  { p with
    semaphores := p.semaphores.mapIdx fun id s =>
      if p.slots s.key = some id ∧ kept s.key id = false then
        { s with strongCount := s.strongCount - 1 }
      else s
    slots := fun key => (p.slots key).filter (kept key) }

end

/-! ## What the counts say -/

def pointers (p : Permits κ τ) (id : Nat) : Nat := p.grips.countP fun g => g.semaphore == id

def permits (p : Permits κ τ) (id : Nat) : Nat :=
  p.grips.countP fun g => g.permit && g.semaphore == id

/-- The permits of a key that are out. -/
def holders [DecidableEq κ] (p : Permits κ τ) (key : κ) : List (Grip κ τ) :=
  p.grips.filter fun g => g.permit && g.key == key

/-- The registry knows each semaphore that somebody points to, and the counts of a semaphore are
those of the pointers and the permits that are out. -/
structure Sound (limit : κ → Nat) (p : Permits κ τ) : Prop where
  slotted : ∀ key id, p.slots key = some id → ∃ s, p.semaphores[id]? = some s ∧ s.key = key
  gripped : ∀ g ∈ p.grips, p.slots g.key = some g.semaphore
  counted : ∀ id s, p.semaphores[id]? = some s →
    s.strongCount = (if p.slots s.key = some id then 1 else 0) + p.pointers id
  balanced : ∀ id s, p.semaphores[id]? = some s →
    s.availablePermits + p.permits id = limit s.key

variable {limit : κ → Nat} {p : Permits κ τ}

section
variable [DecidableEq κ]

/-- What is missing of the permits of a key is in somebody's hands. -/
theorem Sound.available_add_holders (h : p.Sound limit) {key : κ} {id : Nat}
    (hslot : p.slots key = some id) : p.available id + (p.holders key).length = limit key := by
  obtain ⟨s, hs, rfl⟩ := h.slotted key id hslot
  have hpermits : (p.holders s.key).length = p.permits id := by
    rw [holders, ← List.countP_eq_length_filter]
    refine List.countP_congr fun g hg => ?_
    have hgripped := h.gripped g hg
    simp only [Bool.and_eq_true, beq_iff_eq]
    constructor
    · rintro ⟨hpermit, hkey⟩
      rw [hkey, hslot] at hgripped
      exact ⟨hpermit, (Option.some.inj hgripped).symm⟩
    · rintro ⟨hpermit, hsemaphore⟩
      obtain ⟨s', hs', hkey⟩ := h.slotted g.key g.semaphore hgripped
      rw [hsemaphore, hs] at hs'
      exact ⟨hpermit, by rw [← hkey, Option.some.inj hs']⟩
  have hbalanced := h.balanced id s hs
  simp only [available, hs, Option.elim_some]
  omega

/-- No more permits of a key are out than its semaphore has. -/
theorem Sound.holders_le (h : p.Sound limit) (key : κ) : (p.holders key).length ≤ limit key := by
  cases hslot : p.slots key with
  | none =>
    have hnone : p.holders key = [] := by
      refine List.filter_eq_nil_iff.2 fun g hg hkey => ?_
      have hgripped := h.gripped g hg
      simp only [Bool.and_eq_true, beq_iff_eq] at hkey
      rw [hkey.2, hslot] at hgripped
      cases hgripped
    simp [hnone]
  | some id =>
    have hbalanced := h.available_add_holders hslot
    omega

end

/-! ## Each operation keeps the counts -/

theorem sound_empty : Sound limit ({} : Permits κ τ) where
  slotted _ _ h := (nomatch h)
  gripped _ h := (nomatch h)
  counted _ _ h := (nomatch h)
  balanced _ _ h := (nomatch h)

/-- The counts after a change of one semaphore are those of the pointers that are out then. -/
theorem Sound.modify (h : p.Sound limit) {id : Nat} {f : Semaphore κ → Semaphore κ}
    {grips : List (Grip κ τ)} (hkey : ∀ s, (f s).key = s.key)
    (hgripped : ∀ g ∈ grips, p.slots g.key = some g.semaphore)
    (hother : ∀ j, j ≠ id → (grips.countP fun g => g.semaphore == j) = p.pointers j ∧
      (grips.countP fun g => g.permit && g.semaphore == j) = p.permits j)
    (hcounted : ∀ s, p.semaphores[id]? = some s →
      (f s).strongCount + p.pointers id =
        s.strongCount + grips.countP fun g => g.semaphore == id)
    (hbalanced : ∀ s, p.semaphores[id]? = some s →
      (f s).availablePermits + (grips.countP fun g => g.permit && g.semaphore == id) =
        s.availablePermits + p.permits id) :
    Sound limit { p with semaphores := p.semaphores.modify id f, grips } := by
  have hget : ∀ j, (p.semaphores.modify id f)[j]? =
      (p.semaphores[j]?).map fun s => if id = j then f s else s := by
    intro j
    rw [List.getElem?_modify]
    rfl
  refine ⟨?_, hgripped, ?_, ?_⟩
  · intro key j hslot
    obtain ⟨s, hs, rfl⟩ := h.slotted key j hslot
    refine ⟨if id = j then f s else s, by simp [hget, hs], ?_⟩
    split
    · exact hkey s
    · rfl
  · intro j s' hs'
    change (p.semaphores.modify id f)[j]? = some s' at hs'
    rw [hget, Option.map_eq_some_iff] at hs'
    obtain ⟨s, hs, rfl⟩ := hs'
    have hold := h.counted j s hs
    by_cases hj : id = j
    · subst hj
      have hnew := hcounted s hs
      simp only [if_true, hkey, pointers] at hold hnew ⊢
      omega
    · rw [if_neg hj]
      exact hold.trans (congrArg _ (hother j (Ne.symm hj)).1.symm)
  · intro j s' hs'
    change (p.semaphores.modify id f)[j]? = some s' at hs'
    rw [hget, Option.map_eq_some_iff] at hs'
    obtain ⟨s, hs, rfl⟩ := hs'
    have hold := h.balanced j s hs
    by_cases hj : id = j
    · subst hj
      have hnew := hbalanced s hs
      simp only [if_true, hkey, permits] at hold hnew ⊢
      omega
    · rw [if_neg hj]
      exact (congrArg _ (hother j (Ne.symm hj)).2).trans hold

/-- The semaphore that a pointer leads to is in use. -/
theorem Sound.inUse (h : p.Sound limit) {g : Grip κ τ} (hg : g ∈ p.grips) :
    p.inUse g.semaphore := by
  have hslot := h.gripped g hg
  obtain ⟨s, hs, hkey⟩ := h.slotted _ _ hslot
  have hcounted := h.counted _ s hs
  have hpointer : 0 < p.pointers g.semaphore :=
    List.countP_pos_iff.2 ⟨g, hg, by simp⟩
  rw [hkey, if_pos hslot] at hcounted
  have hshared : 1 < s.strongCount := by omega
  simp [Permits.inUse, hs, hshared]

/-- The registry keeps the semaphore of everybody who points to one. -/
theorem Sound.retain_slots (h : p.Sound limit) (swept : κ → Bool) {g : Grip κ τ}
    (hg : g ∈ p.grips) : (p.retain swept).slots g.key = some g.semaphore := by
  have hkept := h.inUse hg
  simp only [retain, h.gripped g hg, Option.filter_some, hkept, Bool.or_true, if_true]

theorem Sound.retain (h : p.Sound limit) (swept : κ → Bool) : (p.retain swept).Sound limit := by
  have hget : ∀ id s', (p.retain swept).semaphores[id]? = some s' → ∃ s,
      p.semaphores[id]? = some s ∧ s'.key = s.key ∧
        s'.availablePermits = s.availablePermits ∧
        s'.strongCount = s.strongCount -
          if p.slots s.key = some id ∧ (!swept s.key || p.inUse id) = false then 1 else 0 := by
    intro id s' hs'
    simp only [Permits.retain, List.getElem?_mapIdx, Option.map_eq_some_iff] at hs'
    obtain ⟨s, hs, rfl⟩ := hs'
    refine ⟨s, hs, ?_⟩
    split <;> simp
  refine ⟨?_, fun g hg => h.retain_slots swept hg, ?_, ?_⟩
  · intro key id hslot
    simp only [Permits.retain, Option.filter_eq_some_iff] at hslot
    obtain ⟨s, hs, hkey⟩ := h.slotted key id hslot.1
    obtain ⟨s', hs'⟩ : ∃ s', (p.retain swept).semaphores[id]? = some s' := by
      simp [Permits.retain, hs]
    obtain ⟨found, hfound, hkept, -⟩ := hget id s' hs'
    rw [hs] at hfound
    exact ⟨s', hs', hkept.trans ((Option.some.inj hfound) ▸ hkey)⟩
  · intro id s' hs'
    obtain ⟨s, hs, hkey, -, hcount⟩ := hget id s' hs'
    have hcounted := h.counted id s hs
    have hpointers : (p.retain swept).pointers id = p.pointers id := rfl
    rw [hcount, hkey, hpointers, hcounted]
    have hslots : (p.retain swept).slots s.key =
        (p.slots s.key).filter fun id => !swept s.key || p.inUse id := rfl
    rw [hslots]
    by_cases hslot : p.slots s.key = some id
    · cases hkept : !swept s.key || p.inUse id <;> simp [hslot, hkept]
    · simp [hslot, Option.filter_eq_some_iff]
  · intro id s' hs'
    obtain ⟨s, hs, hkey, havailable, -⟩ := hget id s' hs'
    rw [havailable, hkey]
    exact h.balanced id s hs

@[simp] theorem share_slots (owner : τ) (key : κ) (id : Nat) :
    (p.share owner key id).slots = p.slots := rfl

@[simp] theorem share_grips (owner : τ) (key : κ) (id : Nat) :
    (p.share owner key id).grips = ⟨owner, key, id, false⟩ :: p.grips := rfl

theorem Sound.share (h : p.Sound limit) (owner : τ) {key : κ} {id : Nat}
    (hslot : p.slots key = some id) : (p.share owner key id).Sound limit := by
  refine h.modify (fun _ => rfl) ?_ ?_ ?_ ?_
  · intro g hg
    rcases List.mem_cons.1 hg with rfl | hg
    · exact hslot
    · exact h.gripped g hg
  · intro j hj
    simp [pointers, permits, Ne.symm hj]
  · intro s hs
    simp only [List.countP_cons, pointers, beq_self_eq_true, if_true]
    omega
  · intro s hs
    simp [permits]

variable [DecidableEq κ]

theorem Sound.make (h : p.Sound limit) {key : κ} (hnone : p.slots key = none) :
    (p.make limit key).Sound limit := by
  have hfresh : ∀ g ∈ p.grips, g.key ≠ key ∧ g.semaphore < p.semaphores.length := by
    intro g hg
    have hgripped := h.gripped g hg
    obtain ⟨s, hs, -⟩ := h.slotted _ _ hgripped
    refine ⟨fun heq => ?_, (List.getElem?_eq_some_iff.1 hs).1⟩
    rw [heq, hnone] at hgripped
    cases hgripped
  have hcases : ∀ id s, (p.make limit key).semaphores[id]? = some s →
      p.semaphores[id]? = some s ∨ id = p.semaphores.length ∧ s = ⟨key, 1, limit key⟩ := by
    intro id s hs
    simp only [Permits.make, List.getElem?_append] at hs
    split at hs
    · exact .inl hs
    · simp only [List.getElem?_singleton, Option.ite_none_right_eq_some, Option.some.injEq] at hs
      exact .inr ⟨by omega, hs.2.symm⟩
  -- Nobody points to the new semaphore.
  have hnew : ∀ g ∈ p.grips, g.semaphore ≠ p.semaphores.length := fun g hg =>
    Nat.ne_of_lt (hfresh g hg).2
  refine ⟨?_, ?_, ?_, ?_⟩
  · intro other id hslot
    by_cases hother : other = key
    · subst hother
      simp only [Permits.make, Function.update_self, Option.some.injEq] at hslot
      subst hslot
      exact ⟨_, List.getElem?_concat_length, rfl⟩
    · simp only [Permits.make, Function.update_of_ne hother] at hslot
      obtain ⟨s, hs, hkey⟩ := h.slotted other id hslot
      have hlt : id < p.semaphores.length := (List.getElem?_eq_some_iff.1 hs).1
      exact ⟨s, by simpa [Permits.make, List.getElem?_append_left hlt] using hs, hkey⟩
  · intro g hg
    have hgripped := h.gripped g hg
    simpa only [Permits.make, Function.update_of_ne (hfresh g hg).1] using hgripped
  · intro id s hs
    rw [show (p.make limit key).pointers id = p.pointers id from rfl]
    rcases hcases id s hs with hs | ⟨rfl, rfl⟩
    · have hold := h.counted id s hs
      have hlt : id < p.semaphores.length := (List.getElem?_eq_some_iff.1 hs).1
      by_cases hkey : s.key = key
      · rw [hkey, hnone, if_neg (by simp)] at hold
        rw [if_neg (by simp [Permits.make, hkey]; omega)]
        exact hold
      · simpa only [Permits.make, Function.update_of_ne hkey] using hold
    · simpa [Permits.make, pointers] using hnew
  · intro id s hs
    rcases hcases id s hs with hs | ⟨rfl, rfl⟩
    · exact h.balanced id s hs
    · simpa [Permits.make, permits] using fun g hg _ => hnew g hg

/-- A key that has got its semaphore. -/
theorem Sound.slot (h : p.Sound limit) (key : κ) :
    (p.slot limit key).1.Sound limit ∧
      (p.slot limit key).1.slots key = some (p.slot limit key).2 ∧
      (p.slot limit key).1.grips = p.grips := by
  unfold Permits.slot
  split
  · exact ⟨h, ‹_›, rfl⟩
  · exact ⟨h.make ‹_›, by simp [Permits.make], rfl⟩

variable [DecidableEq τ]

/-- What erasing one pointer does to a count. -/
theorem countP_erase {grips : List (Grip κ τ)} {g : Grip κ τ} (hg : g ∈ grips)
    (f : Grip κ τ → Bool) : grips.countP f = (grips.erase g).countP f + (f g).toNat := by
  rw [(List.perm_cons_erase hg).countP_eq, List.countP_cons]
  cases f g <;> rfl

theorem Sound.acquire (h : p.Sound limit) (owner : τ) (key : κ) (id : Nat) :
    (p.acquire owner key id).1.Sound limit := by
  unfold Permits.acquire
  split
  · rename_i hfree
    obtain ⟨hmem, hpositive⟩ := hfree
    refine h.modify (fun _ => rfl) ?_ ?_ ?_ ?_
    · intro g hg
      rcases List.mem_cons.1 hg with rfl | hg
      · have hslot := h.gripped _ hmem
        exact hslot
      · exact h.gripped g (List.mem_of_mem_erase hg)
    · intro j hj
      simp [pointers, permits, countP_erase hmem, Ne.symm hj]
    · intro s hs
      simp [pointers, countP_erase hmem]
    · intro s hs
      simp only [available, hs, Option.elim_some] at hpositive
      simp only [List.countP_cons, permits, countP_erase hmem, Bool.true_and, Bool.false_and,
        beq_self_eq_true, if_true, Bool.toNat_false]
      omega
  · exact h

theorem Sound.dropGrip (h : p.Sound limit) (g : Grip κ τ) : (p.dropGrip g).Sound limit := by
  unfold Permits.dropGrip
  split
  · rename_i hmem
    refine h.modify (fun _ => rfl) ?_ ?_ ?_ ?_
    · exact fun other hother => h.gripped other (List.mem_of_mem_erase hother)
    · intro j hj
      simp [pointers, permits, countP_erase hmem, Ne.symm hj]
    · intro s hs
      have hcounted := h.counted _ s hs
      simp only [pointers, countP_erase hmem, beq_self_eq_true, Bool.toNat_true] at hcounted ⊢
      omega
    · intro s hs
      simp only [permits, countP_erase hmem, beq_self_eq_true, Bool.and_true]
      omega
  · exact h

theorem Sound.tryAcquire (h : p.Sound limit) (owner : τ) (key : κ) :
    (p.tryAcquire limit owner key).1.Sound limit := by
  obtain ⟨hslot, hkey, -⟩ := h.slot key
  have hacquire := (hslot.share owner hkey).acquire owner key (p.slot limit key).2
  simp only [Permits.tryAcquire]
  split
  · exact hacquire
  · exact hacquire.dropGrip _

theorem Sound.dropWhere (h : p.Sound limit) (gone : Grip κ τ → Bool) :
    (p.dropWhere gone).Sound limit := by
  unfold Permits.dropWhere
  generalize p.grips.filter gone = dropped
  induction dropped generalizing p with
  | nil => exact h
  | cons g dropped ih => exact ih (h.dropGrip g)

/-! ## Who has what after an operation -/

@[simp] theorem dropGrip_grips (g : Grip κ τ) : (p.dropGrip g).grips = p.grips.erase g := by
  unfold dropGrip
  split
  · rfl
  · exact (List.erase_of_not_mem ‹_›).symm

@[simp] theorem dropGrip_slots (g : Grip κ τ) : (p.dropGrip g).slots = p.slots := by
  unfold dropGrip
  split <;> rfl

theorem acquire_grips (owner : τ) (key : κ) (id : Nat) :
    (p.acquire owner key id).1.grips =
      if (p.acquire owner key id).2 then
        ⟨owner, key, id, true⟩ :: p.grips.erase ⟨owner, key, id, false⟩
      else p.grips := by
  unfold acquire
  split <;> rfl

@[simp] theorem acquire_slots (owner : τ) (key : κ) (id : Nat) :
    (p.acquire owner key id).1.slots = p.slots := by
  unfold acquire
  split <;> rfl

/-- A permit that was not there leaves nothing behind. -/
theorem tryAcquire_grips (limit : κ → Nat) (owner : τ) (key : κ) :
    (p.tryAcquire limit owner key).1.grips =
      if (p.tryAcquire limit owner key).2 then
        ⟨owner, key, (p.slot limit key).2, true⟩ :: p.grips
      else p.grips := by
  have hslot : (p.slot limit key).1.grips = p.grips := by
    unfold slot
    split <;> rfl
  have hacquire := ((p.slot limit key).1.share owner key (p.slot limit key).2).acquire_grips owner
    key (p.slot limit key).2
  rw [share_grips, hslot, List.erase_cons_head] at hacquire
  simp only [tryAcquire]
  split
  · rename_i htaken
    simpa only [htaken, if_true] using hacquire
  · rename_i hfree
    rw [if_neg hfree] at hacquire
    simp [hacquire]

theorem dropWhere_eq (gone : Grip κ τ → Bool) :
    (p.dropWhere gone).slots = p.slots ∧
      (p.dropWhere gone).grips = p.grips.diff (p.grips.filter gone) := by
  unfold dropWhere
  generalize p.grips.filter gone = dropped
  induction dropped generalizing p with
  | nil => exact ⟨rfl, rfl⟩
  | cons g dropped ih =>
    obtain ⟨hslots, hgrips⟩ := @ih (p.dropGrip g)
    rw [dropGrip_slots] at hslots
    rw [dropGrip_grips, ← List.diff_cons] at hgrips
    exact ⟨hslots, hgrips⟩

theorem mem_dropWhere {gone : Grip κ τ → Bool} {g : Grip κ τ} :
    g ∈ (p.dropWhere gone).grips ↔ g ∈ p.grips ∧ gone g = false := by
  rw [(p.dropWhere_eq gone).2, ← List.count_pos_iff, ← List.count_pos_iff, List.count_diff]
  cases hgone : gone g with
  | true => simp [List.count_filter hgone]
  | false =>
    have hkept : g ∉ p.grips.filter gone := by simp [hgone]
    simp [List.count_eq_zero_of_not_mem hkept]

theorem dropWhere_sublist (gone : Grip κ τ → Bool) :
    List.Sublist (p.dropWhere gone).grips p.grips := by
  rw [(p.dropWhere_eq gone).2]
  exact List.diff_sublist ..

end Permits

end Dbotter.Program
