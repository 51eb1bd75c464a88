import Mathlib.Logic.Equiv.List
import Mathlib.Tactic.DeriveEncodable
import Dbotter.Drivers.Catalog

/-!
Following the tokens of a listing to its end.

A page retains what fits into the budget. Caps on counts refuse every further entry; the byte
cap refuses an entry for its size, and a smaller one behind it may still be retained. Either
marks the page, and a marked page has no next token.
-/

namespace Dbotter.Drivers
open Dbotter.Utf8 Dbotter.Service Dbotter.Program.Keyset

/-! ## What a cap refuses -/

/-- A retained count of the level has reached its cap. -/
def AtCap (level : CatalogLevel) (counts : CatalogRetainedCounts) : Prop :=
  match level with
  | .schemas => counts.schemas = maxCatalogSchemas
  | .relations _ => counts.relations = maxCatalogRelations
  | .columns _ _ =>
    counts.columns = maxCatalogColumns ∨ counts.columnsInRelation = maxCatalogColumnsPerRelation

/-- The byte cap leaves no room for a node. -/
def Crowded (retainedUtf8Bytes : Nat) (node : CatalogNode) : Prop :=
  retainedUtf8Bytes + catalogNodeUtf8Bytes node > maxCatalogUtf8Bytes

namespace CatalogRetention
variable {retention : CatalogRetention} {level : CatalogLevel}

@[simp] theorem lookup_singleton (pair : Text × Text) (n : Nat) :
    (AList.singleton pair n : AList fun _ : Text × Text => Nat).lookup pair = some n :=
  AList.lookup_insert ∅

theorem Bounded.columnsOf {schema relation : Text}
    (h : Bounded (some (schema, relation)) retention) :
    retention.counts.columnsInRelation = retention.columnsOf schema relation := by
  unfold CatalogRetention.counts CatalogRetention.columnsOf
  obtain hnone | ⟨pair, n, hpair, -, -, hone⟩ := h.perRelation
  · simp [hnone]
  · cases hpair
    simp [hone]

/-- A new node of the level is refused exactly when a cap is reached. -/
theorem canRetain_eq_false_iff {node : CatalogNode} (h : Bounded (relationOf level) retention)
    (hlists : Lists level node.identity) (hnew : node.identity ∉ retention.identities) :
    retention.canRetain node = false ↔
      AtCap level retention.counts ∨ Crowded retention.retainedUtf8Bytes node := by
  have hcap : ∀ a b : Nat, saturatingAdd a b ≤ maxCatalogUtf8Bytes ↔
      ¬ a + b > maxCatalogUtf8Bytes := by
    intro a b
    unfold saturatingAdd usizeMax maxCatalogUtf8Bytes
    omega
  have hschemas := h.schemas
  have hrelations := h.relations
  have hcolumns := h.columns
  have hin := h.columnsInRelation_le
  rw [← Bool.not_eq_true, canRetain_new hnew, hcap]
  unfold Crowded
  cases hid : node.identity with
  | schema s =>
    cases level with
    | schemas =>
      simp only [AtCap, CatalogRetention.counts]
      omega
    | relations _ => rw [hid] at hlists; exact hlists.elim
    | columns _ _ => rw [hid] at hlists; exact hlists.elim
  | relation s r =>
    cases level with
    | relations _ =>
      simp only [AtCap, CatalogRetention.counts]
      omega
    | schemas => rw [hid] at hlists; exact hlists.elim
    | columns _ _ => rw [hid] at hlists; exact hlists.elim
  | column s r ordinal =>
    cases level with
    | columns s' r' =>
      rw [hid] at hlists
      obtain ⟨rfl, rfl⟩ := hlists
      have hof := h.columnsOf
      have hcount : retention.counts.columns = retention.retainedCounts.columns := rfl
      simp only [AtCap]
      omega
    | schemas => rw [hid] at hlists; exact hlists.elim
    | relations _ => rw [hid] at hlists; exact hlists.elim

/-- At a cap on counts, nothing more is retained. -/
theorem retain_atCap (h : Bounded (relationOf level) retention) (hcap : AtCap level retention.counts)
    {nodes : List CatalogNode} (hlists : ∀ node ∈ nodes, Lists level node.identity) :
    (retention.retain nodes).1 = retention ∧ (retention.retain nodes).2.1 = [] := by
  induction nodes with
  | nil => exact ⟨rfl, rfl⟩
  | cons node nodes ih =>
    have hrest := ih fun other hmem => hlists other (List.mem_cons_of_mem _ hmem)
    obtain ⟨-, heq⟩ | ⟨-, -, heq⟩ | ⟨hnew, hfit, -⟩ := retention.retainOne_cases node
    · simpa only [CatalogRetention.retain, heq] using hrest
    · simpa only [CatalogRetention.retain, heq] using hrest
    · have hrefused := (canRetain_eq_false_iff h (hlists node List.mem_cons_self) hnew).mpr
        (.inl hcap)
      rw [hfit] at hrefused
      cases hrefused

theorem retain_bytes_le (h : Bounded (relationOf level) retention) {nodes : List CatalogNode}
    (hlists : ∀ node ∈ nodes, Lists level node.identity) :
    retention.retainedUtf8Bytes ≤ (retention.retain nodes).1.retainedUtf8Bytes := by
  induction nodes generalizing retention with
  | nil => exact Nat.le_refl _
  | cons node nodes ih =>
    have hnext := h.retainOne (hlists node List.mem_cons_self)
    have hrest := ih hnext fun other hmem => hlists other (List.mem_cons_of_mem _ hmem)
    have hfinal : (retention.retain (node :: nodes)).1 =
        ((retention.retainOne node).1.retain nodes).1 := by
      simp only [CatalogRetention.retain]
      split <;> rfl
    have hone : retention.retainedUtf8Bytes ≤ (retention.retainOne node).1.retainedUtf8Bytes := by
      have hbytes := h.bytes
      obtain ⟨-, heq⟩ | ⟨-, -, heq⟩ | ⟨-, -, heq⟩ := retention.retainOne_cases node
      · rw [heq]
      · rw [heq]
      · rw [heq]
        unfold saturatingAdd usizeMax
        unfold maxCatalogUtf8Bytes at hbytes
        simp only
        omega
    rw [hfinal]
    exact Nat.le_trans hone hrest

/-- What retaining a page of new, distinct nodes comes to. -/
structure Retains (level : CatalogLevel) (retention : CatalogRetention)
    (nodes : List CatalogNode) : Prop where
  known : ∀ identity ∈ (retention.retain nodes).1.identities,
    identity ∈ retention.identities ∨ identity ∈ nodes.map (·.identity)
  whole : (retention.retain nodes).2.2 = false → (retention.retain nodes).2.1 = nodes
  capped : (retention.retain nodes).2.2 = true →
    AtCap level (retention.retain nodes).1.counts ∨
      ∃ node ∈ nodes, node ∉ (retention.retain nodes).2.1 ∧
        Crowded (retention.retain nodes).1.retainedUtf8Bytes node
  gapless : (retention.retain nodes).2.1 <+: nodes ∨
    ∃ node ∈ nodes, node ∉ (retention.retain nodes).2.1 ∧
      Crowded (retention.retain nodes).1.retainedUtf8Bytes node

/-- A refused node: behind a cap on counts nothing is retained, behind the byte cap something
may be. -/
theorem Retains.refused {node : CatalogNode} {nodes : List CatalogNode}
    (hspec : Retains level retention nodes) (h : Bounded (relationOf level) retention)
    (hlists : ∀ other ∈ node :: nodes, Lists level other.identity)
    (hfirst : node.identity ∉ nodes.map (·.identity))
    (hnew : node.identity ∉ retention.identities) (hrefused : retention.canRetain node = false)
    (heq : retention.retainOne node = (retention, .capReached)) :
    Retains level retention (node :: nodes) := by
  have htail : ∀ other ∈ nodes, Lists level other.identity :=
    fun other hmem => hlists other (List.mem_cons_of_mem _ hmem)
  have hcause := (canRetain_eq_false_iff h (hlists node List.mem_cons_self) hnew).mp hrefused
  have hout : node ∉ (retention.retain nodes).2.1 := by
    intro hin
    exact hfirst (List.mem_map_of_mem ((retention.retain_sublist nodes).subset hin))
  have hcrowded : Crowded retention.retainedUtf8Bytes node →
      ∃ other ∈ node :: nodes, other ∉ (retention.retain nodes).2.1 ∧
        Crowded (retention.retain nodes).1.retainedUtf8Bytes other := by
    intro hfull
    have hle := retain_bytes_le h htail
    refine ⟨node, List.mem_cons_self, hout, ?_⟩
    unfold Crowded at hfull ⊢
    omega
  have hresult : retention.retain (node :: nodes) =
      ((retention.retain nodes).1, (retention.retain nodes).2.1, true) := by
    simp only [CatalogRetention.retain, heq]
  constructor
  case known =>
    intro identity hmem
    rw [hresult] at hmem
    exact (hspec.known identity hmem).imp_right (List.mem_cons_of_mem _)
  case whole =>
    rw [hresult]
    intro htruncated
    cases htruncated
  case capped =>
    rw [hresult]
    intro _
    obtain hcap | hfull := hcause
    · rw [(retain_atCap h hcap htail).1]
      exact .inl hcap
    · exact .inr (hcrowded hfull)
  case gapless =>
    rw [hresult]
    obtain hcap | hfull := hcause
    · rw [(retain_atCap h hcap htail).2]
      exact .inl List.nil_prefix
    · exact .inr (hcrowded hfull)

theorem Retains.accepted {next : CatalogRetention} {node : CatalogNode} {nodes : List CatalogNode}
    (hspec : Retains level next nodes) (hfirst : node.identity ∉ nodes.map (·.identity))
    (hnext : next.identities = insert node.identity retention.identities)
    (heq : retention.retainOne node = (next, .accepted)) :
    Retains level retention (node :: nodes) := by
  have hresult : retention.retain (node :: nodes) =
      ((next.retain nodes).1, node :: (next.retain nodes).2.1, (next.retain nodes).2.2) := by
    simp only [CatalogRetention.retain, heq]
  have hlift : (∃ other ∈ nodes, other ∉ (next.retain nodes).2.1 ∧
        Crowded (next.retain nodes).1.retainedUtf8Bytes other) →
      ∃ other ∈ node :: nodes, other ∉ node :: (next.retain nodes).2.1 ∧
        Crowded (next.retain nodes).1.retainedUtf8Bytes other := by
    rintro ⟨other, hmem, hout, hfull⟩
    refine ⟨other, List.mem_cons_of_mem _ hmem, ?_, hfull⟩
    intro hin
    obtain rfl | hin := List.mem_cons.mp hin
    · exact hfirst (List.mem_map_of_mem hmem)
    · exact hout hin
  constructor
  case known =>
    intro identity hmem
    rw [hresult] at hmem
    obtain hold | hlisted := hspec.known identity hmem
    · rw [hnext] at hold
      obtain rfl | hold := Finset.mem_insert.mp hold
      · exact .inr List.mem_cons_self
      · exact .inl hold
    · exact .inr (List.mem_cons_of_mem _ hlisted)
  case whole =>
    rw [hresult]
    intro htruncated
    rw [hspec.whole htruncated]
  case capped =>
    rw [hresult]
    intro htruncated
    exact (hspec.capped htruncated).imp_right hlift
  case gapless =>
    rw [hresult]
    exact hspec.gapless.imp (fun h => (List.prefix_cons_inj node).mpr h) hlift

theorem retains (h : Bounded (relationOf level) retention) {nodes : List CatalogNode}
    (hlists : ∀ node ∈ nodes, Lists level node.identity)
    (hnodup : (nodes.map (·.identity)).Nodup)
    (hnew : ∀ node ∈ nodes, node.identity ∉ retention.identities) :
    Retains level retention nodes := by
  induction nodes generalizing retention with
  | nil =>
    exact ⟨fun identity hmem => .inl hmem, fun _ => rfl, fun htruncated => (nomatch htruncated),
      .inl List.nil_prefix⟩
  | cons node nodes ih =>
    have htail : ∀ other ∈ nodes, Lists level other.identity :=
      fun other hmem => hlists other (List.mem_cons_of_mem _ hmem)
    have hnewTail : ∀ other ∈ nodes, other.identity ∉ retention.identities :=
      fun other hmem => hnew other (List.mem_cons_of_mem _ hmem)
    obtain ⟨hfirst, hrest⟩ := List.nodup_cons.mp hnodup
    have hself := hnew node List.mem_cons_self
    obtain ⟨hmem, -⟩ | ⟨-, hrefused, heq⟩ | ⟨-, -, heq⟩ := retention.retainOne_cases node
    · exact absurd hmem hself
    · exact (ih h htail hrest hnewTail).refused h hlists hfirst hself hrefused heq
    · have hnext := h.retainOne (hlists node List.mem_cons_self)
      rw [heq] at hnext
      refine (ih hnext htail hrest ?_).accepted hfirst rfl heq
      intro other hmem hin
      obtain hsame | hold := Finset.mem_insert.mp hin
      · have hlisted : other.identity ∈ nodes.map (·.identity) := List.mem_map_of_mem hmem
        rw [hsame] at hlisted
        exact hfirst hlisted
      · exact hnewTail other hmem hold

theorem fromCheckpoint_identities {counts : CatalogRetainedCounts} {size : Nat}
    {relation : Option (Text × Text)} (h : fromCheckpoint counts size relation = .ok retention) :
    retention.identities = ∅ := by
  simp only [fromCheckpoint] at h
  split at h
  · cases h
  split at h
  · cases relation <;> cases h
    rfl
  · cases h
    rfl

end CatalogRetention

/-! ## One page -/

/-- An entry that is left out and does not fit into the bytes that are left. -/
def LeftOut (retainedUtf8Bytes : Nat) (shown rest : List CatalogNode) : Prop :=
  ∃ node ∈ rest, node ∉ shown ∧ Crowded retainedUtf8Bytes node

theorem LeftOut.of_take {size n : Nat} {shown rest : List CatalogNode}
    (h : ∃ node ∈ rest.take n, node ∉ shown ∧ Crowded size node) : LeftOut size shown rest := by
  obtain ⟨node, hmem, hout, hfull⟩ := h
  exact ⟨node, List.mem_of_mem_take hmem, hout, hfull⟩

/-- What a page shows of the part of the listing it starts at. -/
structure PageOf (codec : TokenCodec) (key : List UInt8) (request : CatalogRequest)
    (rest : List CatalogNode) (page : CatalogPage) : Prop where
  sublist : page.nodes.Sublist (rest.take request.pageSize)
  whole : page.truncated = false → page.nodes = rest.take request.pageSize
  last : page.truncated = false → page.nextToken = none → rest.length ≤ request.pageSize
  capped : page.truncated = true →
    AtCap request.level page.retainedCounts ∨ LeftOut page.retainedUtf8Bytes page.nodes rest
  gapless : page.nodes <+: rest ∨
    page.truncated = true ∧ LeftOut page.retainedUtf8Bytes page.nodes rest
  continues : ∀ token, page.nextToken = some token →
    page.truncated = false ∧ request.pageSize < rest.length ∧
      ∃ last outcome, Reported request last outcome ∧ page.nodes.getLast? = some last ∧
        token = sealPayload codec key
          (payloadOf codec request last outcome.retainedCounts outcome.retainedUtf8Bytes)

section page
variable (codec : TokenCodec) (key : List UInt8) {request : CatalogRequest}
  {decoded : DecodedToken} {start : CatalogRetention} {rest : List CatalogNode}

theorem not_mem_take_map {α β : Type*} {f : α → β} {l : List α} {n : Nat} {a : α}
    (hnodup : (l.map f).Nodup) (hget : l[n]? = some a) : f a ∉ (l.take n).map f := by
  intro hmem
  have hdrop : f a ∈ (l.map f).drop n := by
    rw [List.mem_iff_getElem?]
    exact ⟨0, by simp [List.getElem?_drop, hget]⟩
  rw [List.map_take] at hmem
  exact List.disjoint_take_drop hnodup (Nat.le_refl n) hmem hdrop

/-- A page whose nodes were all retained. -/
theorem PageOf.of_whole {page : CatalogPage}
    (hnodes : page.nodes = rest.take request.pageSize)
    (hlast : page.truncated = false → page.nextToken = none → rest.length ≤ request.pageSize)
    (hcapped : page.truncated = true →
      AtCap request.level page.retainedCounts ∨ LeftOut page.retainedUtf8Bytes page.nodes rest)
    (hcontinues : ∀ token, page.nextToken = some token →
      page.truncated = false ∧ request.pageSize < rest.length ∧
        ∃ last outcome, Reported request last outcome ∧ page.nodes.getLast? = some last ∧
          token = sealPayload codec key
            (payloadOf codec request last outcome.retainedCounts outcome.retainedUtf8Bytes)) :
    PageOf codec key request rest page where
  sublist := hnodes ▸ List.Sublist.refl _
  whole _ := hnodes
  last := hlast
  capped := hcapped
  gapless := .inl (hnodes ▸ List.take_prefix _ _)
  continues := hcontinues

/-- A page that lost one of its own nodes. -/
theorem PageOf.of_cut {page : CatalogPage}
    (hretains : CatalogRetention.Retains request.level start (rest.take request.pageSize))
    (hnodes : page.nodes = (start.retain (rest.take request.pageSize)).2.1)
    (hcounts : page.retainedCounts = (start.retain (rest.take request.pageSize)).1.counts)
    (hbytes : page.retainedUtf8Bytes =
      (start.retain (rest.take request.pageSize)).1.retainedUtf8Bytes)
    (hcut : (start.retain (rest.take request.pageSize)).2.2 = true)
    (hmarked : page.truncated = true) (hends : page.nextToken = none) :
    PageOf codec key request rest page where
  sublist := hnodes ▸ start.retain_sublist _
  whole h := by
    rw [hmarked] at h
    cases h
  last h := by
    rw [hmarked] at h
    cases h
  capped _ := by
    rw [hnodes, hcounts, hbytes]
    exact (hretains.capped hcut).imp_right LeftOut.of_take
  gapless := by
    rw [hnodes, hbytes]
    exact hretains.gapless.imp (fun h => h.trans (List.take_prefix _ _))
      fun h => ⟨hmarked, LeftOut.of_take h⟩
  continues token h := by
    rw [hends] at h
    cases h

/-- A whole page that is not the last one ends in a node, which its token reports. -/
theorem reported_of_whole
    (hstart : CatalogRetention.fromCheckpoint decoded.counts decoded.retainedUtf8Bytes
      (relationOf request.level) = .ok start)
    (hsize : 0 < request.pageSize) (hlists : ∀ node ∈ rest, Lists request.level node.identity)
    (hwhole : (start.retain (rest.take request.pageSize)).2.1 = rest.take request.pageSize)
    (hlong : request.pageSize < rest.length) :
    (start.retain (rest.take request.pageSize)).2.1.length = request.pageSize ∧
      ∃ last, (start.retain (rest.take request.pageSize)).2.1.getLast? = some last ∧
        Reported request last (start.outcome (rest.take request.pageSize)).2 := by
  have hlength : (start.retain (rest.take request.pageSize)).2.1.length = request.pageSize := by
    rw [hwhole, List.length_take]
    omega
  have hne : (start.retain (rest.take request.pageSize)).2.1 ≠ [] := by
    intro hnil
    rw [hnil, List.length_nil] at hlength
    omega
  have hlast := List.getLast?_eq_some_getLast hne
  refine ⟨hlength, _, hlast, decoded, rest.take request.pageSize, start, ?_, hstart, ?_, hlast⟩
  · intro node hmem
    exact hlists node (List.mem_of_mem_take hmem)
  · rw [List.take_take, Nat.min_self]

theorem finishPage_spec
    (hstart : CatalogRetention.fromCheckpoint decoded.counts decoded.retainedUtf8Bytes
      (relationOf request.level) = .ok start)
    (hsize : 0 < request.pageSize)
    (hlists : ∀ node ∈ rest, Lists request.level node.identity)
    (hnodup : (rest.map (·.identity)).Nodup) :
    ∃ page, finishPage codec key request decoded (rest.take (request.pageSize + 1)) = .ok page ∧
      PageOf codec key request rest page := by
  have hbounded := CatalogRetention.fromCheckpoint_bounded hstart
  have hempty := CatalogRetention.fromCheckpoint_identities hstart
  have hpage : ∀ node ∈ rest.take request.pageSize, Lists request.level node.identity :=
    fun node hmem => hlists node (List.mem_of_mem_take hmem)
  have hretains := CatalogRetention.retains hbounded hpage
    (hnodup.sublist ((List.take_sublist _ _).map _)) (by simp [hempty])
  have htake : (rest.take (request.pageSize + 1)).take request.pageSize =
      rest.take request.pageSize := by
    rw [List.take_take, Nat.min_eq_left (Nat.le_succ _)]
  have hextra : (rest.take (request.pageSize + 1))[request.pageSize]? = rest[request.pageSize]? :=
    List.getElem?_take_of_succ
  have hmore : (rest.take (request.pageSize + 1)).length > request.pageSize ↔
      request.pageSize < rest.length := by
    rw [List.length_take]
    omega
  unfold finishPage
  simp only [hstart, htake, hextra, CatalogRetention.outcome, hmore, bind, Except.bind]
  cases htruncated : (start.retain (rest.take request.pageSize)).2.2 with
  | true =>
    simp only [Bool.true_or, Bool.not_true, Bool.and_false, Bool.false_and, Bool.false_eq_true,
      if_false]
    exact ⟨_, rfl, .of_cut codec key hretains rfl rfl rfl htruncated rfl rfl⟩
  | false =>
    have hwhole := hretains.whole htruncated
    by_cases hlong : request.pageSize < rest.length
    · have hget : rest[request.pageSize]? = some rest[request.pageSize] :=
        List.getElem?_eq_getElem hlong
      have hunlisted := not_mem_take_map hnodup hget
      have hunknown : rest[request.pageSize].identity ∉
          (start.retain (rest.take request.pageSize)).1.identities := by
        intro hmem
        obtain hold | hlisted := hretains.known _ hmem
        · simp [hempty] at hold
        · exact hunlisted hlisted
      simp only [hget, hlong, decide_true, Option.all_some, Bool.true_and, Bool.false_or]
      cases hfits : (start.retain (rest.take request.pageSize)).1.canRetain
          rest[request.pageSize] with
      | true =>
        obtain ⟨hlength, last, hlast, hreported⟩ :=
          reported_of_whole hstart hsize hlists hwhole hlong
        have hencoded := Reported.encoded codec hreported key
        simp only [CatalogRetention.outcome, htruncated] at hencoded
        simp only [hlength, hlast, hencoded, beq_self_eq_true, Bool.not_true, Bool.not_false,
          Bool.and_true, if_true]
        refine ⟨_, rfl, .of_whole codec key hwhole (fun _ h => nomatch h) (fun h => nomatch h) ?_⟩
        intro token htoken
        exact ⟨rfl, hlong, last, _, hreported, hlast, (Option.some.inj htoken).symm⟩
      | false =>
        simp only [Bool.false_and, Bool.false_eq_true, if_false, Bool.not_false]
        have hcause := (CatalogRetention.canRetain_eq_false_iff (hbounded.retain hpage)
          (hlists _ (List.getElem_mem hlong)) hunknown).mp hfits
        refine ⟨_, rfl, .of_whole codec key hwhole (fun h => nomatch h) ?_ (fun _ h => nomatch h)⟩
        intro _
        refine hcause.imp_right fun hfull => ⟨_, List.getElem_mem hlong, ?_, hfull⟩
        simp only
        rw [hwhole]
        intro hmem
        exact hunlisted (List.mem_map_of_mem hmem)
    · have hall : rest[request.pageSize]? = none :=
        List.getElem?_eq_none (Nat.le_of_not_lt hlong)
      simp only [hlong, decide_false, Bool.false_and, Bool.or_false, Bool.false_eq_true, if_false]
      exact ⟨_, rfl, .of_whole codec key hwhole (fun _ _ => Nat.le_of_not_lt hlong)
        (fun h => nomatch h) (fun _ h => nomatch h)⟩

end page

/-! ## The whole listing -/

/-- The nodes of a run of pages. -/
def shown (pages : List CatalogPage) : List CatalogNode := pages.flatMap (·.nodes)

/-- What a run of pages shows of the part of the listing it starts at. -/
structure Covers (level : CatalogLevel) (rest : List CatalogNode) (pages : List CatalogPage) :
    Prop where
  ordered : (shown pages).Sublist rest
  whole : (∀ page ∈ pages, page.truncated = false) → shown pages = rest
  capped : ∀ page ∈ pages, page.truncated = true →
    AtCap level page.retainedCounts ∨ LeftOut page.retainedUtf8Bytes (shown pages) rest
  gapless : shown pages <+: rest ∨
    ∃ page ∈ pages, page.truncated = true ∧ LeftOut page.retainedUtf8Bytes (shown pages) rest
  earlier : ∀ page ∈ pages.dropLast, page.truncated = false

section run
variable {server : InformationSchema} {configuredDatabase : Option Text} {codec : TokenCodec}
  {key : List UInt8} {request : CatalogRequest} {rest : List CatalogNode} {page : CatalogPage}

theorem Covers.last (h : PageOf codec key request rest page) (hlast : page.nextToken = none) :
    Covers request.level rest [page] := by
  have hshown : shown [page] = page.nodes := by simp [shown]
  constructor
  case ordered =>
    rw [hshown]
    exact h.sublist.trans (List.take_sublist _ _)
  case whole =>
    intro hall
    have hfull := hall page List.mem_cons_self
    rw [hshown, h.whole hfull, List.take_of_length_le (h.last hfull hlast)]
  case capped =>
    intro other hmem htruncated
    obtain rfl := List.mem_singleton.mp hmem
    rw [hshown]
    exact h.capped htruncated
  case gapless =>
    rw [hshown]
    exact h.gapless.imp_right fun hout => ⟨page, List.mem_cons_self, hout⟩
  case earlier => exact fun other hmem => (nomatch hmem)

theorem LeftOut.cons {size n : Nat} {later rest : List CatalogNode} (hnodup : rest.Nodup)
    (h : LeftOut size later (rest.drop n)) : LeftOut size (rest.take n ++ later) rest := by
  obtain ⟨node, hmem, hout, hfull⟩ := h
  refine ⟨node, List.mem_of_mem_drop hmem, ?_, hfull⟩
  intro hin
  obtain hfirst | hlater := List.mem_append.mp hin
  · exact List.disjoint_take_drop hnodup (Nat.le_refl n) hfirst hmem
  · exact hout hlater

theorem Covers.cons {n : Nat} {pages : List CatalogPage} (hnodup : rest.Nodup)
    (hnodes : page.nodes = rest.take n) (hfull : page.truncated = false) (hne : pages ≠ [])
    (h : Covers request.level (rest.drop n) pages) :
    Covers request.level rest (page :: pages) := by
  have hshown : shown (page :: pages) = rest.take n ++ shown pages := by
    simp [shown, hnodes]
  have hsplit : rest.take n ++ rest.drop n = rest := List.take_append_drop n rest
  constructor
  case ordered =>
    have hsub := (List.Sublist.refl (rest.take n)).append h.ordered
    rwa [hsplit, ← hshown] at hsub
  case whole =>
    intro hall
    rw [hshown, h.whole fun other hmem => hall other (List.mem_cons_of_mem _ hmem), hsplit]
  case capped =>
    intro other hmem htruncated
    rw [hshown]
    obtain rfl | hmem := List.mem_cons.mp hmem
    · rw [hfull] at htruncated
      cases htruncated
    · exact (h.capped other hmem htruncated).imp_right (LeftOut.cons hnodup)
  case gapless =>
    rw [hshown]
    obtain hpre | ⟨other, hmem, htruncated, hout⟩ := h.gapless
    · have hlonger := (List.prefix_append_right_inj (rest.take n)).mpr hpre
      rw [hsplit] at hlonger
      exact .inl hlonger
    · exact .inr ⟨other, List.mem_cons_of_mem _ hmem, htruncated, hout.cons hnodup⟩
  case earlier =>
    intro other hmem
    rw [List.dropLast_cons_of_ne_nil hne] at hmem
    obtain rfl | hmem := List.mem_cons.mp hmem
    · exact hfull
    · exact h.earlier other hmem

/-- Where a request stands in its listing: its token decodes to a key and a checkpoint, and
behind the key stands the rest. -/
structure StandsAt (server : InformationSchema) (configuredDatabase : Option Text)
    (codec : TokenCodec) (key : List UInt8) (request : CatalogRequest)
    (before rest : List CatalogNode) : Prop where
  valid : request.validate = .ok ()
  split : listing server configuredDatabase request = before ++ rest
  decodes : ∃ decoded start, startOf codec key request = .ok decoded ∧
    CatalogRetention.fromCheckpoint decoded.counts decoded.retainedUtf8Bytes
      (relationOf request.level) = .ok start ∧
    (decoded.lastOrdinal.isSome = true → pageLevel request.level = .columns) ∧
    after nodeKey decoded.startKey (listing server configuredDatabase request) = rest

theorem pageSize_pos (h : request.validate = .ok ()) : 0 < request.pageSize := by
  unfold CatalogRequest.validate at h
  split at h
  · cases h
  rename_i hsize
  simp only [Bool.or_eq_true, beq_iff_eq, not_or] at hsize
  omega

variable {before : List CatalogNode}

theorem StandsAt.loadPage (h : StandsAt server configuredDatabase codec key request before rest) :
    ∃ page, loadPage server configuredDatabase codec key request = .ok page ∧
      PageOf codec key request rest page := by
  obtain ⟨decoded, start, hdecoded, hstart, hordinal, hbehind⟩ := h.decodes
  have hrest : ∀ node ∈ rest, node ∈ listing server configuredDatabase request := by
    intro node hmem
    rw [h.split]
    exact List.mem_append_right _ hmem
  have hlists : ∀ node ∈ rest, Lists request.level node.identity :=
    fun node hmem => listing_lists server configuredDatabase request node (hrest node hmem)
  have hnodup : (rest.map (·.identity)).Nodup := by
    have hall := listing_identity_nodup server configuredDatabase request
    rw [h.split, List.map_append] at hall
    exact hall.of_append_right
  obtain ⟨page, hfinish, hpage⟩ := finishPage_spec codec key hstart (pageSize_pos h.valid)
    hlists hnodup
  refine ⟨page, ?_, hpage⟩
  unfold Drivers.loadPage
  rw [h.valid]
  simp only [hdecoded, bind, Except.bind]
  rw [loadNodes_eq request decoded hordinal, hbehind]
  exact hfinish

theorem StandsAt.first (hvalid : request.validate = .ok ()) (hfirst : request.pageToken = none) :
    StandsAt server configuredDatabase codec key request []
      (listing server configuredDatabase request) := by
  constructor
  case valid => exact hvalid
  case split => rfl
  case decodes =>
    refine ⟨startToken, {}, ?_, rfl, fun h => (nomatch h), ?_⟩
    · unfold startOf
      rw [hfirst]
    · exact after_eq_self fun node hmem => start_lt_nodeKey (mem_sortBy.mp hmem)

theorem validate_token {token : Text} (h : request.validate = .ok ()) (htoken : token ≠ []) :
    CatalogRequest.validate { request with pageToken := some token } = .ok () := by
  have hempty : token.isEmpty = false := by simpa using htoken
  unfold CatalogRequest.validate at h ⊢
  simp only [Option.any_some, hempty]
  split at h
  · cases h
  rename_i hsize
  split at h
  · cases h
  rename_i htimeout
  split at h
  · cases h
  rename_i hparents
  simp [hsize, htimeout, hparents]

theorem sealPayload_ne_nil (codec : TokenCodec) (key : List UInt8) (payload : TokenPayload) :
    sealPayload codec key payload ≠ [] := by
  simp [sealPayload, tokenPrefix, List.intercalate]

/-- The token of a page leads to what the page leaves. -/
theorem StandsAt.next (h : StandsAt server configuredDatabase codec key request before rest)
    (hpage : PageOf codec key request rest page) {token : Text}
    (htoken : page.nextToken = some token)
    (lossless : ∀ last outcome, Reported request last outcome → Lossless codec
      (payloadOf codec request last outcome.retainedCounts outcome.retainedUtf8Bytes)) :
    StandsAt server configuredDatabase codec key { request with pageToken := some token }
      (before ++ rest.take request.pageSize) (rest.drop request.pageSize) := by
  obtain ⟨hfull, hlong, last, outcome, hreported, hlast, htext⟩ := hpage.continues token htoken
  obtain ⟨retention, hbounded, hcounts, hbytes⟩ := hreported.bounded
  have hsame : SameListing request { request with pageToken := some token } :=
    ⟨rfl, rfl, rfl, rfl, rfl⟩
  have hmatches : payloadMatches codec { request with pageToken := some token }
      (payloadOf codec request last outcome.retainedCounts outcome.retainedUtf8Bytes) = true :=
    payloadMatches_of_sameListing hreported.lists hsame _ _
  have hresumed := hreported.resumed key (lossless last outcome hreported) rfl hmatches
  constructor
  case valid => exact validate_token h.valid (htext ▸ sealPayload_ne_nil codec key _)
  case split =>
    rw [List.append_assoc, List.take_append_drop]
    exact h.split
  case decodes =>
    have hstart := hbounded.checkpoint
    rw [← hcounts, ← hbytes] at hstart
    refine ⟨_, _, (congrArg _ htext).trans hresumed, hstart, ?_, ?_⟩
    · simp only [keyOrdinal_isSome hreported.lists]
      exact eq_of_beq
    · -- the key of the token is the key of the last node shown
      have hnodes : rest.take request.pageSize =
          (rest.take request.pageSize).dropLast ++ [last] := by
        rw [← hpage.whole hfull]
        exact (List.dropLast_append_getLast? last hlast).symm
      have hrest : rest =
          (rest.take request.pageSize).dropLast ++ last :: rest.drop request.pageSize := by
        calc rest
          _ = rest.take request.pageSize ++ rest.drop request.pageSize :=
              (List.take_append_drop _ _).symm
          _ = ((rest.take request.pageSize).dropLast ++ [last]) ++ rest.drop request.pageSize := by
              rw [← hnodes]
          _ = _ := by simp
      have hlisting : listing server configuredDatabase request =
          (before ++ (rest.take request.pageSize).dropLast) ++
            last :: rest.drop request.pageSize := by
        rw [h.split, List.append_assoc, ← hrest]
      have hordered := listing_ordered server configuredDatabase request
      rw [hlisting] at hordered
      have hbehind := hordered.after_member
      rw [← hlisting] at hbehind
      exact hbehind

/-- Following the tokens from any position shows the rest of the listing. -/
theorem StandsAt.follow (h : StandsAt server configuredDatabase codec key request before rest)
    (lossless : ∀ last outcome, Reported request last outcome → Lossless codec
      (payloadOf codec request last outcome.retainedCounts outcome.retainedUtf8Bytes)) :
    ∃ fuel pages, follow server configuredDatabase codec key fuel request = some (.ok pages) ∧
      pages ≠ [] ∧ Covers request.level rest pages := by
  -- every page with a next token shows a node, so the rest gets shorter
  induction hlength : rest.length using Nat.strong_induction_on generalizing request before rest with
  | _ length ih =>
    obtain ⟨page, hload, hpage⟩ := h.loadPage
    cases htoken : page.nextToken with
    | none =>
      refine ⟨1, [page], ?_, List.cons_ne_nil _ _, Covers.last hpage htoken⟩
      simp only [Drivers.follow, hload, htoken]
    | some token =>
      have hnext := h.next hpage htoken lossless
      obtain ⟨hfull, hlong, -⟩ := hpage.continues token htoken
      have hshorter : (rest.drop request.pageSize).length < length := by
        have hpos := pageSize_pos h.valid
        rw [List.length_drop]
        omega
      have hnodup : rest.Nodup := by
        have hall := (listing_ordered server configuredDatabase request).nodup
        rw [h.split] at hall
        exact hall.of_append_right
      obtain ⟨fuel, pages, hfollow, hne, hcovers⟩ := ih _ hshorter hnext lossless rfl
      refine ⟨fuel + 1, page :: pages, ?_, List.cons_ne_nil _ _,
        Covers.cons hnodup (hpage.whole hfull) hfull hne hcovers⟩
      simp only [Drivers.follow, hload, htoken, hfollow]
      rfl

end run

/-- **A catalog is listed completely, up to the caps.** Following the tokens from the first page
ends. The pages show entries of the listing in order and each once; unless a page is marked they
show all of it. A page is marked only when a cap is reached, only the last one is, and a gap
takes an entry that the byte cap refuses. -/
theorem follow_covers_listing (server : InformationSchema) (configuredDatabase : Option Text)
    (codec : TokenCodec) (key : List UInt8) {request : CatalogRequest}
    (hvalid : request.validate = .ok ()) (hfirst : request.pageToken = none)
    (lossless : ∀ last outcome, Reported request last outcome → Lossless codec
      (payloadOf codec request last outcome.retainedCounts outcome.retainedUtf8Bytes)) :
    ∃ fuel pages, follow server configuredDatabase codec key fuel request = some (.ok pages) ∧
      Ordered nodeKey (shown pages) ∧
      Covers request.level (listing server configuredDatabase request) pages := by
  obtain ⟨fuel, pages, hfollow, -, hcovers⟩ := (StandsAt.first hvalid hfirst).follow lossless
  refine ⟨fuel, pages, hfollow, ?_, hcovers⟩
  exact (listing_ordered server configuredDatabase request).sublist hcovers.ordered

/-! A table of two columns, listed one by one with the token that was recorded for the first. -/

instance encodableChar : Encodable Char := Encodable.ofLeftInverse Char.toNat Char.ofNat Char.ofNat_toNat

deriving instance Encodable for TokenPayload

/-- The recorded codec, with some lossless form for every other payload. -/
def losslessCodec : TokenCodec :=
  { recordedCodec with
    toJson := fun payload => if payload = recordedPayload then recordedJson
      else List.replicate (Encodable.encode payload) 0
    fromJson := fun json => if json = recordedJson then some recordedPayload
      else Encodable.decode json.length }

theorem losslessCodec_lossless (payload : TokenPayload) : Lossless losslessCodec payload := by
  have hhead : recordedJson.head? = some 123 := by
    simp only [recordedJson, String.toList_append, bytes_append]
    decide +kernel
  unfold Lossless losslessCodec
  by_cases hrecorded : payload = recordedPayload
  · simp [hrecorded]
  · have hother : List.replicate (Encodable.encode payload) 0 ≠ recordedJson := by
      intro heq
      rw [← heq] at hhead
      cases hcode : Encodable.encode payload <;> simp [hcode, List.replicate_succ] at hhead
    simp [hrecorded, hother]

def twoColumns : InformationSchema where
  schemata := ["shop".toList]
  tables := [⟨"shop".toList, "orders".toList, "BASE TABLE".toList⟩]
  columns := [⟨"shop".toList, "orders".toList, "total".toList, "int".toList, 2⟩,
    ⟨"shop".toList, "orders".toList, "id".toList, "int".toList, 1⟩]
  schemata_nodup := by decide
  schemata_ne_nil := by decide
  tables_nodup := by decide
  tables_ne_nil := by decide
  columns_nodup := by decide +kernel
  columns_pos := by decide

theorem follow_covers_two_columns :
    ∃ fuel pages, follow twoColumns none losslessCodec (List.replicate 32 7) fuel firstColumns =
        some (.ok pages) ∧ Ordered nodeKey (shown pages) ∧
      Covers firstColumns.level (listing twoColumns none firstColumns) pages :=
  follow_covers_listing twoColumns none losslessCodec (List.replicate 32 7)
    (by decide +kernel) rfl fun _ _ _ => losslessCodec_lossless _

/-! A table whose second column does not fit behind the first, while its third does. -/

def enumColumn (ordinalPosition : Nat) (name : String) (length : Nat) : ColumnRow where
  schema := "shop".toList
  table := "orders".toList
  name := name.toList
  columnType := List.replicate length 'x'
  ordinalPosition

/-- A table of three columns whose types have these lengths. -/
def enumServer (a b c : Nat) : InformationSchema where
  schemata := ["shop".toList]
  tables := [⟨"shop".toList, "orders".toList, "BASE TABLE".toList⟩]
  columns := [enumColumn 1 "a" a, enumColumn 2 "b" b, enumColumn 3 "c" c]
  schemata_nodup := by decide
  schemata_ne_nil := by decide
  tables_nodup := by decide
  tables_ne_nil := by decide
  columns_nodup := by simp [enumColumn]
  columns_pos := by simp [enumColumn]

def enumNode (ordinalPosition : Nat) (name : String) (length : Nat) : CatalogNode :=
  columnNode "shop".toList "orders".toList (enumColumn ordinalPosition name length)

def allColumns : CatalogRequest := { firstColumns with pageSize := 200 }

theorem listing_enum (a b c : Nat) : listing (enumServer a b c) none allColumns =
    [enumNode 1 "a" a, enumNode 2 "b" b, enumNode 3 "c" c] := rfl

theorem byteLen_replicate (n : Nat) : byteLen (List.replicate n 'x') = n := by
  induction n with
  | zero => rfl
  | succ n ih =>
    rw [List.replicate_succ, byteLen_cons, ih]
    exact Nat.add_comm 1 n

/-- A budget with room for the first and the third of three columns. -/
theorem retain_skips {x y z : CatalogNode} {schema relation : Text}
    (hx : x.identity = .column schema relation 1) (hy : y.identity = .column schema relation 2)
    (hz : z.identity = .column schema relation 3) (hxSize : catalogNodeUtf8Bytes x = 3145729)
    (hySize : catalogNodeUtf8Bytes y = 2097153) (hzSize : catalogNodeUtf8Bytes z = 4) :
    (({} : CatalogRetention).retain [x, y, z]).2 = ([x, z], true) := by
  simp [CatalogRetention.retain, CatalogRetention.retainOne, CatalogRetention.canRetain, hx, hy,
    hz, hxSize, hySize, hzSize, CatalogRetention.count, CatalogRetention.columnsOf,
    saturatingAdd, usizeMax, maxCatalogUtf8Bytes, maxCatalogColumns,
    maxCatalogColumnsPerRelation]

theorem enumNode_size {name : String} {length : Nat} (hname : byteLen name.toList = 1)
    (hlength : length < 2 ^ 32) (ordinalPosition : Nat) :
    catalogNodeUtf8Bytes (enumNode ordinalPosition name length) = length + 1 := by
  have htype : (some (List.replicate length 'x')).elim 0 byteLen = length := byteLen_replicate length
  change saturatingAdd (byteLen name.toList) ((some (List.replicate length 'x')).elim 0 byteLen) = _
  rw [hname, htype]
  unfold saturatingAdd usizeMax
  omega

theorem finishPage_skips (codec : TokenCodec) (key : List UInt8) {x y z : CatalogNode}
    (h : (({} : CatalogRetention).retain [x, y, z]).2 = ([x, z], true)) :
    ∃ page, finishPage codec key allColumns startToken [x, y, z] = .ok page ∧
      page.nodes = [x, z] ∧ page.nextToken = none := by
  have hnodes : (({} : CatalogRetention).retain [x, y, z]).2.1 = [x, z] := congrArg Prod.fst h
  have htruncated : (({} : CatalogRetention).retain [x, y, z]).2.2 = true := congrArg Prod.snd h
  have hstart : CatalogRetention.fromCheckpoint startToken.counts startToken.retainedUtf8Bytes
      (relationOf allColumns.level) = .ok {} := rfl
  have htake : [x, y, z].take allColumns.pageSize = [x, y, z] := rfl
  unfold finishPage
  simp only [hstart, htake, CatalogRetention.outcome, bind, Except.bind, htruncated, Bool.true_or,
    Bool.not_true, Bool.and_false, Bool.false_and, Bool.false_eq_true, if_false]
  rw [hnodes]
  exact ⟨_, rfl, rfl, rfl⟩

theorem follow_skips (codec : TokenCodec) (key : List UInt8) {a b c : Nat}
    (h : (({} : CatalogRetention).retain
      [enumNode 1 "a" a, enumNode 2 "b" b, enumNode 3 "c" c]).2 =
        ([enumNode 1 "a" a, enumNode 3 "c" c], true)) :
    ∃ pages, follow (enumServer a b c) none codec key 1 allColumns = some (.ok pages) ∧
      ¬ shown pages <+: listing (enumServer a b c) none allColumns := by
  obtain ⟨page, hfinish, hnodes, hlast⟩ := finishPage_skips codec key h
  have hvalid : allColumns.validate = .ok () := by decide +kernel
  have hstart : startOf codec key allColumns = .ok startToken := rfl
  have hfetched : loadNodes (enumServer a b c) none allColumns startToken
      (allColumns.pageSize + 1) =
        [enumNode 1 "a" a, enumNode 2 "b" b, enumNode 3 "c" c] := rfl
  have hload : loadPage (enumServer a b c) none codec key allColumns = .ok page := by
    unfold loadPage
    rw [hvalid]
    simp only [hstart, bind, Except.bind]
    rw [hfetched]
    exact hfinish
  refine ⟨[page], ?_, ?_⟩
  · simp only [follow, hload, hlast]
  · rw [listing_enum]
    simp [shown, hnodes, enumNode, columnNode, enumColumn]

/-- The second column is missing from the only page, between the first and the third. -/
theorem page_skips_column :
    allColumns.validate = .ok () ∧ allColumns.pageToken = none ∧
    ∃ pages, follow (enumServer (3 * 2 ^ 20) (2 * 2 ^ 20) 3) none losslessCodec
        (List.replicate 32 7) 1 allColumns = some (.ok pages) ∧
      ¬ shown pages <+: listing (enumServer (3 * 2 ^ 20) (2 * 2 ^ 20) 3) none allColumns := by
  refine ⟨by decide +kernel, rfl, ?_⟩
  exact follow_skips losslessCodec (List.replicate 32 7) (retain_skips rfl rfl rfl
    (enumNode_size rfl (by decide) 1) (enumNode_size rfl (by decide) 2)
    (enumNode_size rfl (by decide) 3))

end Dbotter.Drivers
