import Mathlib.Algebra.BigOperators.Group.List.Basic
import Dbotter.Drivers.Retention

/-!
`CatalogRetention` accounts for a list of nodes.

Its counts, its bytes and its identities are those of the nodes that it was given and that were
not taken back. A node that is taken back was counted before, so nothing ever saturates.
-/

namespace Dbotter.Drivers
open Dbotter.Utf8

/-! ## Levels -/

namespace CatalogNodeIdentity

def level : CatalogNodeIdentity → CatalogPageLevel
  | .schema _ => .schemas
  | .relation _ _ => .relations
  | .column _ _ _ => .columns

def isColumnOf (schema relation : Text) : CatalogNodeIdentity → Bool
  | .column s r _ => s == schema && r == relation
  | _ => false

end CatalogNodeIdentity

def CatalogRetainedCounts.at (counts : CatalogRetainedCounts) : CatalogPageLevel → Nat
  | .schemas => counts.schemas
  | .relations => counts.relations
  | .columns => counts.columns

/-- The cap of a level. -/
def maxCatalogNodes : CatalogPageLevel → Nat
  | .schemas => maxCatalogSchemas
  | .relations => maxCatalogRelations
  | .columns => maxCatalogColumns

/-- The bytes of a node, added without a limit. -/
def exactNodeBytes (node : CatalogNode) : Nat := byteLen node.name + node.typeName.elim 0 byteLen

def levelCount (level : CatalogPageLevel) (nodes : List CatalogNode) : Nat :=
  nodes.countP fun node => node.identity.level == level

def columnCount (schema relation : Text) (nodes : List CatalogNode) : Nat :=
  nodes.countP fun node => node.identity.isColumnOf schema relation

def nodesBytes (nodes : List CatalogNode) : Nat := (nodes.map exactNodeBytes).sum

/-! ## Accounts -/

/-- The retention accounts for these nodes, and it keeps the caps. -/
structure Accounts (retention : CatalogRetention) (nodes : List CatalogNode) : Prop where
  distinct : (nodes.map (·.identity)).Nodup
  identities : ∀ identity, identity ∈ retention.identities ↔ identity ∈ nodes.map (·.identity)
  counts : ∀ level, retention.retainedCounts.at level = levelCount level nodes
  columns : ∀ schema relation,
    retention.columnsOf schema relation = columnCount schema relation nodes
  bytes : retention.retainedUtf8Bytes = nodesBytes nodes
  countCaps : ∀ level, retention.retainedCounts.at level ≤ maxCatalogNodes level
  columnCaps : ∀ schema relation,
    retention.columnsOf schema relation ≤ maxCatalogColumnsPerRelation
  byteCap : retention.retainedUtf8Bytes ≤ maxCatalogUtf8Bytes

theorem Accounts.empty : Accounts {} [] where
  distinct := .nil
  identities _ := by simp
  counts level := by cases level <;> rfl
  columns _ _ := rfl
  bytes := rfl
  countCaps level := by cases level <;> exact Nat.zero_le _
  columnCaps _ _ := Nat.zero_le _
  byteCap := Nat.zero_le _

theorem Accounts.perm {retention : CatalogRetention} {nodes nodes' : List CatalogNode}
    (h : Accounts retention nodes) (hperm : nodes.Perm nodes') : Accounts retention nodes' where
  distinct := (hperm.map _).nodup_iff.mp h.distinct
  identities identity := (h.identities identity).trans (hperm.map _).mem_iff
  counts level := (h.counts level).trans (hperm.countP_eq _)
  columns schema relation := (h.columns schema relation).trans (hperm.countP_eq _)
  bytes := h.bytes.trans (hperm.map _).sum_eq
  countCaps := h.countCaps
  columnCaps := h.columnCaps
  byteCap := h.byteCap

/-! ## One more node -/

/-- No sum saturates when the node is added. -/
structure AddsExactly (retention : CatalogRetention) (node : CatalogNode) : Prop where
  size : exactNodeBytes node ≤ usizeMax
  bytes : retention.retainedUtf8Bytes + exactNodeBytes node ≤ usizeMax
  count : retention.retainedCounts.at node.identity.level + 1 ≤ usizeMax
  columns : ∀ schema relation, node.identity.isColumnOf schema relation = true →
    retention.columnsOf schema relation + 1 ≤ usizeMax

section
variable {retention : CatalogRetention} {node : CatalogNode} {nodes : List CatalogNode}

theorem catalogNodeUtf8Bytes_eq (h : exactNodeBytes node ≤ usizeMax) :
    catalogNodeUtf8Bytes node = exactNodeBytes node := Nat.min_eq_left h

/-- A node that does not fit is refused by the exact sum as well. -/
theorem bytes_exceed_iff (retention : CatalogRetention) (node : CatalogNode) :
    saturatingAdd retention.retainedUtf8Bytes (catalogNodeUtf8Bytes node) > maxCatalogUtf8Bytes ↔
      retention.retainedUtf8Bytes + exactNodeBytes node > maxCatalogUtf8Bytes := by
  have hmax : maxCatalogUtf8Bytes < usizeMax := by decide
  unfold catalogNodeUtf8Bytes saturatingAdd exactNodeBytes
  omega

theorem canRetain_room (hfresh : node.identity ∉ retention.identities)
    (h : retention.canRetain node = true) :
    retention.retainedUtf8Bytes + exactNodeBytes node ≤ maxCatalogUtf8Bytes ∧
      retention.retainedCounts.at node.identity.level < maxCatalogNodes node.identity.level ∧
      ∀ schema relation, node.identity.isColumnOf schema relation = true →
        retention.columnsOf schema relation < maxCatalogColumnsPerRelation := by
  unfold CatalogRetention.canRetain at h
  rw [if_neg hfresh] at h
  split at h
  · cases h
  · next hbytes =>
    rw [bytes_exceed_iff, not_lt] at hbytes
    refine ⟨hbytes, ?_⟩
    cases hidentity : node.identity with
    | schema _ =>
        rw [hidentity] at h
        exact ⟨of_decide_eq_true h, nofun⟩
    | relation _ _ =>
        rw [hidentity] at h
        exact ⟨of_decide_eq_true h, nofun⟩
    | column s r ordinal =>
        rw [hidentity] at h
        dsimp only at h
        rw [Bool.and_eq_true, decide_eq_true_eq, decide_eq_true_eq] at h
        refine ⟨h.1, fun schema relation hcolumn => ?_⟩
        simp only [CatalogNodeIdentity.isColumnOf, Bool.and_eq_true, beq_iff_eq] at hcolumn
        rw [← hcolumn.1, ← hcolumn.2]
        exact h.2

theorem count_at (identity : CatalogNodeIdentity) (level : CatalogPageLevel)
    (hroom : retention.retainedCounts.at identity.level + 1 ≤ usizeMax) :
    (retention.count identity).retainedCounts.at level =
      retention.retainedCounts.at level + if identity.level == level then 1 else 0 := by
  cases identity <;> cases level <;>
    simp_all [CatalogRetention.count, CatalogRetainedCounts.at, CatalogNodeIdentity.level,
      saturatingAdd]

theorem count_columnsOf (identity : CatalogNodeIdentity) (schema relation : Text)
    (hroom : identity.isColumnOf schema relation = true →
      retention.columnsOf schema relation + 1 ≤ usizeMax) :
    (retention.count identity).columnsOf schema relation =
      retention.columnsOf schema relation +
        if identity.isColumnOf schema relation then 1 else 0 := by
  cases identity with
  | schema _ => rfl
  | relation _ _ => rfl
  | column s r ordinal =>
      unfold CatalogRetention.columnsOf CatalogRetention.count at *
      by_cases hsame : (s, r) = (schema, relation)
      · cases hsame
        have hself : CatalogNodeIdentity.isColumnOf schema relation
            (.column schema relation ordinal) = true := by
          simp [CatalogNodeIdentity.isColumnOf]
        rw [if_pos hself]
        simp only [AList.lookup_insert, Option.getD_some]
        have hle := hroom hself
        unfold saturatingAdd CatalogRetention.columnsOf
        omega
      · have hother : CatalogNodeIdentity.isColumnOf schema relation (.column s r ordinal) = false := by
          rw [Prod.mk.injEq] at hsame
          simpa [CatalogNodeIdentity.isColumnOf] using hsame
        rw [AList.lookup_insert_ne (Ne.symm hsame), hother]
        rfl

theorem levelCount_cons (level : CatalogPageLevel) :
    levelCount level (node :: nodes) =
      levelCount level nodes + if node.identity.level == level then 1 else 0 := by
  rw [levelCount, List.countP_cons, levelCount]

theorem columnCount_cons (schema relation : Text) :
    columnCount schema relation (node :: nodes) =
      columnCount schema relation nodes +
        if node.identity.isColumnOf schema relation then 1 else 0 := by
  rw [columnCount, List.countP_cons, columnCount]

theorem nodesBytes_cons : nodesBytes (node :: nodes) = exactNodeBytes node + nodesBytes nodes := by
  rw [nodesBytes, List.map_cons, List.sum_cons, nodesBytes]

/-- An accepted node is accounted for. -/
theorem Accounts.accept (h : Accounts retention nodes)
    (haccepted : (retention.retainOne node).2 = .accepted) :
    Accounts (retention.retainOne node).1 (node :: nodes) ∧ AddsExactly retention node := by
  unfold CatalogRetention.retainOne at haccepted ⊢
  split at haccepted
  · cases haccepted
  · next hfresh =>
    split at haccepted
    · cases haccepted
    · next hcan =>
      rw [Bool.not_eq_true', Bool.not_eq_false] at hcan
      obtain ⟨hbytes, hcount, hcolumns⟩ := canRetain_room hfresh hcan
      have hmax : maxCatalogUtf8Bytes < usizeMax ∧ maxCatalogColumnsPerRelation < usizeMax := by
        decide
      have hlevels : ∀ level, maxCatalogNodes level < usizeMax := by
        intro level
        cases level <;> decide
      have hlevel := hlevels node.identity.level
      have hadds : AddsExactly retention node :=
        ⟨by omega, by omega, by omega, fun s r hcolumn => by
          have hle := hcolumns s r hcolumn
          omega⟩
      have hsum : saturatingAdd retention.retainedUtf8Bytes (catalogNodeUtf8Bytes node) =
          retention.retainedUtf8Bytes + exactNodeBytes node := by
        rw [catalogNodeUtf8Bytes_eq hadds.size]
        exact Nat.min_eq_left hadds.bytes
      rw [if_neg hfresh, if_neg (by simpa using hcan)]
      refine ⟨⟨?_, ?_, ?_, ?_, ?_, ?_, ?_, ?_⟩, hadds⟩
      · rw [List.map_cons, List.nodup_cons]
        exact ⟨fun hmem => hfresh ((h.identities _).mpr hmem), h.distinct⟩
      · intro identity
        simp [h.identities identity]
      · intro level
        change (retention.count node.identity).retainedCounts.at level = _
        rw [count_at node.identity level hadds.count, levelCount_cons, h.counts]
      · intro schema relation
        change (retention.count node.identity).columnsOf schema relation = _
        rw [count_columnsOf node.identity schema relation (hadds.columns schema relation),
          columnCount_cons, h.columns]
      · change saturatingAdd _ _ = _
        rw [hsum, nodesBytes_cons, h.bytes, Nat.add_comm]
      · intro level
        change (retention.count node.identity).retainedCounts.at level ≤ _
        rw [count_at node.identity level hadds.count]
        have hbefore := h.countCaps level
        split
        · next hsame =>
          rw [beq_iff_eq] at hsame
          subst hsame
          omega
        · omega
      · intro schema relation
        change (retention.count node.identity).columnsOf schema relation ≤ _
        rw [count_columnsOf node.identity schema relation (hadds.columns schema relation)]
        have hbefore := h.columnCaps schema relation
        split
        · next hcolumn =>
          have hlt := hcolumns schema relation hcolumn
          omega
        · omega
      · change saturatingAdd _ _ ≤ _
        rwa [hsum]

/-! ## One node less -/

/-- Everything that is taken away was there when the node is removed. -/
structure SubsExactly (retention : CatalogRetention) (node : CatalogNode) : Prop where
  present : node.identity ∈ retention.identities
  size : exactNodeBytes node ≤ usizeMax
  bytes : exactNodeBytes node ≤ retention.retainedUtf8Bytes
  count : 1 ≤ retention.retainedCounts.at node.identity.level
  columns : ∀ schema relation, node.identity.isColumnOf schema relation = true →
    1 ≤ retention.columnsOf schema relation

theorem uncount_at (identity : CatalogNodeIdentity) (level : CatalogPageLevel) :
    (retention.uncount identity).retainedCounts.at level =
      retention.retainedCounts.at level - if identity.level == level then 1 else 0 := by
  cases identity with
  | schema _ => cases level <;> rfl
  | relation _ _ => cases level <;> rfl
  | column s r ordinal =>
      unfold CatalogRetention.uncount
      dsimp only
      split <;> cases level <;> rfl

theorem uncount_columnsOf (identity : CatalogNodeIdentity) (schema relation : Text) :
    (retention.uncount identity).columnsOf schema relation =
      retention.columnsOf schema relation -
        if identity.isColumnOf schema relation then 1 else 0 := by
  cases identity with
  | schema _ => rfl
  | relation _ _ => rfl
  | column s r ordinal =>
      unfold CatalogRetention.uncount
      dsimp only
      by_cases hsame : (s, r) = (schema, relation)
      · cases hsame
        have hself : CatalogNodeIdentity.isColumnOf schema relation
            (.column schema relation ordinal) = true := by
          simp [CatalogNodeIdentity.isColumnOf]
        rw [if_pos hself]
        unfold CatalogRetention.columnsOf
        cases hlookup : retention.columnsByRelation.lookup (schema, relation) with
        | none => simp [hlookup]
        | some n =>
            dsimp only
            by_cases hlast : n - 1 = 0
            · rw [if_pos hlast, AList.lookup_erase]
              simp [hlast]
            · rw [if_neg hlast, AList.lookup_insert]
              rfl
      · have hother : CatalogNodeIdentity.isColumnOf schema relation (.column s r ordinal) = false := by
          rw [Prod.mk.injEq] at hsame
          simpa [CatalogNodeIdentity.isColumnOf] using hsame
        rw [hother]
        unfold CatalogRetention.columnsOf
        cases retention.columnsByRelation.lookup (s, r) with
        | none => rfl
        | some n =>
            dsimp only
            split
            · rw [AList.lookup_erase_ne (Ne.symm hsame)]
              rfl
            · rw [AList.lookup_insert_ne (Ne.symm hsame)]
              rfl

/-- A node that is accounted for can be removed. -/
theorem Accounts.removeOne (h : Accounts retention (node :: nodes)) :
    Accounts (retention.removeOne node) nodes ∧ SubsExactly retention node := by
  have hmax : maxCatalogUtf8Bytes < usizeMax := by decide
  have hbytes := h.bytes
  have hcap := h.byteCap
  rw [nodesBytes_cons] at hbytes
  have hpresent : node.identity ∈ retention.identities := (h.identities _).mpr (by simp)
  have hdistinct := h.distinct
  rw [List.map_cons, List.nodup_cons] at hdistinct
  have hcount : ∀ level, retention.retainedCounts.at level =
      levelCount level nodes + if node.identity.level == level then 1 else 0 :=
    fun level => (h.counts level).trans (levelCount_cons level)
  have hcolumns : ∀ schema relation, retention.columnsOf schema relation =
      columnCount schema relation nodes +
        if node.identity.isColumnOf schema relation then 1 else 0 :=
    fun schema relation => (h.columns schema relation).trans (columnCount_cons schema relation)
  have hsubs : SubsExactly retention node := by
    refine ⟨hpresent, by omega, by omega, ?_, fun schema relation hcolumn => ?_⟩
    · have hlevel := hcount node.identity.level
      rw [if_pos (beq_self_eq_true _)] at hlevel
      omega
    · have hrelation := hcolumns schema relation
      rw [if_pos hcolumn] at hrelation
      omega
  unfold CatalogRetention.removeOne
  rw [if_pos hpresent]
  refine ⟨⟨hdistinct.2, ?_, ?_, ?_, ?_, ?_, ?_, ?_⟩, hsubs⟩
  · intro identity
    rw [Finset.mem_erase, h.identities, List.map_cons, List.mem_cons]
    constructor
    · rintro ⟨hne, hmem⟩
      exact hmem.resolve_left hne
    · intro hmem
      exact ⟨fun heq => hdistinct.1 (heq ▸ hmem), .inr hmem⟩
  · intro level
    change (retention.uncount node.identity).retainedCounts.at level = _
    rw [uncount_at, hcount, Nat.add_sub_cancel]
  · intro schema relation
    change (retention.uncount node.identity).columnsOf schema relation = _
    rw [uncount_columnsOf, hcolumns, Nat.add_sub_cancel]
  · change retention.retainedUtf8Bytes - catalogNodeUtf8Bytes node = _
    rw [catalogNodeUtf8Bytes_eq hsubs.size, hbytes, Nat.add_sub_cancel_left]
  · intro level
    change (retention.uncount node.identity).retainedCounts.at level ≤ _
    rw [uncount_at]
    exact (Nat.sub_le _ _).trans (h.countCaps level)
  · intro schema relation
    change (retention.uncount node.identity).columnsOf schema relation ≤ _
    rw [uncount_columnsOf]
    exact (Nat.sub_le _ _).trans (h.columnCaps schema relation)
  · exact (Nat.sub_le _ _).trans hcap

end

/-! ## Pages -/

/-- No sum saturates when the nodes are retained in turn, and the sum that refuses a node would
refuse it without a limit. -/
def RetainsExactly : CatalogRetention → List CatalogNode → Prop
  | _, [] => True
  | retention, node :: nodes =>
      (saturatingAdd retention.retainedUtf8Bytes (catalogNodeUtf8Bytes node) >
            maxCatalogUtf8Bytes ↔
          retention.retainedUtf8Bytes + exactNodeBytes node > maxCatalogUtf8Bytes) ∧
        ((retention.retainOne node).2 = .accepted → AddsExactly retention node) ∧
        RetainsExactly (retention.retainOne node).1 nodes

/-- No difference saturates when the nodes are removed in turn. -/
def RemovesExactly : CatalogRetention → List CatalogNode → Prop
  | _, [] => True
  | retention, node :: nodes =>
      SubsExactly retention node ∧ RemovesExactly (retention.removeOne node) nodes

section
variable {retention : CatalogRetention} {nodes : List CatalogNode}

theorem Accounts.remove (removed : List CatalogNode) (h : Accounts retention (removed ++ nodes)) :
    Accounts (retention.remove removed) nodes ∧ RemovesExactly retention removed := by
  induction removed generalizing retention with
  | nil => exact ⟨h, trivial⟩
  | cons node removed ih =>
      obtain ⟨hone, hsubs⟩ := Accounts.removeOne h
      obtain ⟨hrest, hexact⟩ := ih hone
      exact ⟨hrest, hsubs, hexact⟩

theorem retainOne_unchanged {node : CatalogNode}
    (h : (retention.retainOne node).2 ≠ .accepted) : (retention.retainOne node).1 = retention := by
  unfold CatalogRetention.retainOne at h ⊢
  split
  · rfl
  · split
    · rfl
    · next hfresh hcan =>
      rw [if_neg hfresh, if_neg hcan] at h
      exact absurd rfl h

theorem retain_accepted {node : CatalogNode} (h : (retention.retainOne node).2 = .accepted)
    (nodes : List CatalogNode) :
    (retention.retain (node :: nodes)).1 = ((retention.retainOne node).1.retain nodes).1 ∧
      (retention.retain (node :: nodes)).2.1 =
        node :: ((retention.retainOne node).1.retain nodes).2.1 := by
  rw [CatalogRetention.retain]
  generalize retention.retainOne node = one at h ⊢
  obtain ⟨next, decision⟩ := one
  cases h
  exact ⟨rfl, rfl⟩

theorem retain_refused {node : CatalogNode} (h : (retention.retainOne node).2 ≠ .accepted)
    (nodes : List CatalogNode) :
    (retention.retain (node :: nodes)).1 = (retention.retain nodes).1 ∧
      (retention.retain (node :: nodes)).2.1 = (retention.retain nodes).2.1 := by
  have hsame := retainOne_unchanged h
  rw [CatalogRetention.retain]
  generalize retention.retainOne node = one at h hsame ⊢
  obtain ⟨next, decision⟩ := one
  cases hsame
  cases decision with
  | accepted => exact absurd rfl h
  | duplicate => exact ⟨rfl, rfl⟩
  | capReached => exact ⟨rfl, rfl⟩

/-- The accepted nodes are accounted for with those that were there. -/
theorem Accounts.retain (added : List CatalogNode) (h : Accounts retention nodes) :
    Accounts (retention.retain added).1 ((retention.retain added).2.1 ++ nodes) ∧
      (retention.retain added).2.1.Sublist added ∧ RetainsExactly retention added := by
  induction added generalizing retention nodes with
  | nil => exact ⟨h, .slnil, trivial⟩
  | cons node added ih =>
      by_cases hdecision : (retention.retainOne node).2 = .accepted
      · obtain ⟨hfinal, haccepted⟩ := retain_accepted hdecision added
        obtain ⟨hone, hadds⟩ := h.accept hdecision
        obtain ⟨hrest, hsub, hexact⟩ := ih hone
        rw [hfinal, haccepted]
        exact ⟨hrest.perm List.perm_middle, hsub.cons_cons node, bytes_exceed_iff _ _, fun _ => hadds,
          hexact⟩
      · obtain ⟨hfinal, haccepted⟩ := retain_refused hdecision added
        obtain ⟨hrest, hsub, hexact⟩ := ih h
        rw [hfinal, haccepted]
        refine ⟨hrest, hsub.cons node, bytes_exceed_iff _ _, fun h => absurd h hdecision, ?_⟩
        rwa [retainOne_unchanged hdecision]

end

/-! ## Budgets of the same nodes -/

/-- The same identities, counters and bytes. In which order the relations of the columns were
first counted makes no difference. -/
structure CatalogRetention.Agrees (retention retention' : CatalogRetention) : Prop where
  identities : retention'.identities = retention.identities
  counts : ∀ level, retention'.retainedCounts.at level = retention.retainedCounts.at level
  columns : ∀ schema relation,
    retention'.columnsOf schema relation = retention.columnsOf schema relation
  bytes : retention'.retainedUtf8Bytes = retention.retainedUtf8Bytes

section
variable {retention retention' : CatalogRetention} {nodes nodes' : List CatalogNode}

theorem CatalogRetention.Agrees.refl (retention : CatalogRetention) : retention.Agrees retention :=
  ⟨rfl, fun _ => rfl, fun _ _ => rfl, rfl⟩

theorem CatalogRetention.Agrees.trans {retention'' : CatalogRetention}
    (h : retention.Agrees retention') (h' : retention'.Agrees retention'') :
    retention.Agrees retention'' :=
  ⟨h'.identities.trans h.identities, fun level => (h'.counts level).trans (h.counts level),
    fun schema relation => (h'.columns schema relation).trans (h.columns schema relation),
    h'.bytes.trans h.bytes⟩

theorem Accounts.agrees (h : Accounts retention nodes) (h' : Accounts retention' nodes')
    (hperm : nodes.Perm nodes') : retention.Agrees retention' := by
  have hsame := h.perm hperm
  refine ⟨?_, fun level => ?_, fun schema relation => ?_, ?_⟩
  · ext identity
    rw [h'.identities, hsame.identities]
  · rw [h'.counts, hsame.counts]
  · rw [h'.columns, hsame.columns]
  · rw [h'.bytes, hsame.bytes]

theorem CatalogRetention.Agrees.canRetain_eq (h : retention.Agrees retention') (node : CatalogNode) :
    retention'.canRetain node = retention.canRetain node := by
  have hschemas := h.counts .schemas
  have hrelations := h.counts .relations
  have hcolumns := h.counts .columns
  simp only [CatalogRetainedCounts.at] at hschemas hrelations hcolumns
  simp only [canRetain, h.identities, h.bytes, hschemas, hrelations, hcolumns, h.columns]

/-- What becomes of a node depends on what the budget accounts for. -/
theorem CatalogRetention.Agrees.decision_eq (h : retention.Agrees retention') (node : CatalogNode) :
    (retention'.retainOne node).2 = (retention.retainOne node).2 := by
  simp only [retainOne, h.identities, h.canRetain_eq node]
  split
  · rfl
  · split <;> rfl

/-- The nodes that are accepted, and whether a cap refuses one, depend on no more than the nodes
that the budget accounts for. -/
theorem Accounts.retain_eq (added : List CatalogNode) (h : Accounts retention nodes)
    (h' : Accounts retention' nodes) : (retention'.retain added).2 = (retention.retain added).2 := by
  induction added generalizing retention retention' nodes with
  | nil => rfl
  | cons node added ih =>
      have hdecision := (h.agrees h' (.refl nodes)).decision_eq node
      have hrest : ((retention'.retainOne node).1.retain added).2 =
          ((retention.retainOne node).1.retain added).2 := by
        by_cases haccepted : (retention.retainOne node).2 = .accepted
        · exact ih (h.accept haccepted).1 (h'.accept (hdecision.trans haccepted)).1
        · rw [retainOne_unchanged haccepted, retainOne_unchanged (hdecision ▸ haccepted)]
          exact ih h h'
      simp only [CatalogRetention.retain, hdecision, hrest]
      split <;> rfl

/-- A node that a budget can account for beside the others is accepted. -/
theorem Accounts.accepts {node : CatalogNode} (h : Accounts retention nodes)
    (hroom : Accounts retention' (node :: nodes)) :
    (retention.retainOne node).2 = .accepted := by
  have hdistinct := hroom.distinct
  rw [List.map_cons, List.nodup_cons] at hdistinct
  have hfresh : node.identity ∉ retention.identities := by
    rw [h.identities]
    exact hdistinct.1
  have hbytes : ¬saturatingAdd retention.retainedUtf8Bytes (catalogNodeUtf8Bytes node) >
      maxCatalogUtf8Bytes := by
    have hcap := hroom.byteCap
    rw [hroom.bytes, nodesBytes_cons] at hcap
    rw [bytes_exceed_iff, h.bytes]
    omega
  have hcount : retention.retainedCounts.at node.identity.level <
      maxCatalogNodes node.identity.level := by
    have hcap := hroom.countCaps node.identity.level
    rw [hroom.counts, levelCount_cons, if_pos (beq_self_eq_true _)] at hcap
    rw [h.counts]
    omega
  have hcolumns (schema relation : Text) (hof : node.identity.isColumnOf schema relation = true) :
      retention.columnsOf schema relation < maxCatalogColumnsPerRelation := by
    have hcap := hroom.columnCaps schema relation
    rw [hroom.columns, columnCount_cons, if_pos hof] at hcap
    rw [h.columns]
    omega
  have hcan : retention.canRetain node = true := by
    unfold CatalogRetention.canRetain
    rw [if_neg hfresh, if_neg hbytes]
    cases hidentity : node.identity with
    | schema _ =>
        rw [hidentity] at hcount
        exact decide_eq_true hcount
    | relation _ _ =>
        rw [hidentity] at hcount
        exact decide_eq_true hcount
    | column schema relation ordinal =>
        have hrelation := hcolumns schema relation (by
          rw [hidentity]
          simp [CatalogNodeIdentity.isColumnOf])
        rw [hidentity] at hcount
        exact Bool.and_eq_true_iff.mpr ⟨decide_eq_true hcount, decide_eq_true hrelation⟩
  unfold CatalogRetention.retainOne
  rw [if_neg hfresh, if_neg (by simp [hcan])]

/-- Nodes that a budget can account for beside the others are all accepted. -/
theorem Accounts.retain_all (added : List CatalogNode) (h : Accounts retention nodes)
    (hroom : Accounts retention' (added ++ nodes)) :
    (retention.retain added).2 = (added, false) := by
  induction added generalizing retention nodes with
  | nil => rfl
  | cons node added ih =>
      have hfront : Accounts retention' (added ++ node :: nodes) := hroom.perm List.perm_middle.symm
      have hnode : ∃ budget, Accounts budget (node :: nodes) :=
        ⟨_, (hfront.remove added).1⟩
      obtain ⟨budget, hbudget⟩ := hnode
      have haccepted := h.accepts hbudget
      have hrest := ih (h.accept haccepted).1 hfront
      simp only [CatalogRetention.retain, haccepted, hrest]

end

end Dbotter.Drivers
