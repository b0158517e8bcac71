import Remedy.Proofs.Tree.Wiring

/-!
# The fault that a draft is refused for

A draft can have several faults, and `Draft.toTree` names one of them. The results below say
which one. The child lists are taken apart into `Listing`s, the places at which a node lists a
child, and `Listing.Violates` says of one listing what is wrong with it by the child lists
alone: no table of parents is mentioned, and a child that is listed twice is a fault of each
listing that has another one before it.

The fault of a draft whose root exists is the one of the first listing in reading order that
has any (`wire_eq_error_iff`). A run of claims gets past a front of that order exactly if no
listing of the front has a fault (`not_violates_of_claimListings_eq_ok`,
`exists_claimListings_eq_ok`). The table that it leaves then holds the parents of these
listings and no others, so the next claim fails for just what is wrong with its listing
(`claim_reference_eq_error_iff`).
-/

namespace Remedy

namespace Draft

/-! ## Listings -/

/-- A place in the child lists: a node, a position in its list, and the child there. -/
structure Listing where
  parent : NodeId
  index : Nat
  child : NodeId

namespace Listing

/-- The nodes have this place, and this child at it. -/
def In (nodes : Array Node) (l : Listing) : Prop :=
  (childrenAt nodes l.parent)[l.index]? = some l.child

/-- Nodes are read in ascending order, and each node's list from its front. -/
def Before (l m : Listing) : Prop :=
  l.parent < m.parent ∨ l.parent = m.parent ∧ l.index < m.index

/-- The listing as a reference from a node to its child. -/
def reference (l : Listing) : Reference := ⟨l.parent, l.child⟩

/-- What is wrong with a listing. -/
inductive Violates (nodes : Array Node) (l : Listing) : TreeFault → Prop
  /-- There is no such child. -/
  | unknownChild (missing : nodes.size ≤ l.child) :
      Violates nodes l (.unknownChild l.parent l.child)
  /-- The child does not stand before its parent. -/
  | lateChild (known : l.child < nodes.size) (late : l.parent ≤ l.child) :
      Violates nodes l (.lateChild l.parent l.child)
  /-- The child has been listed before, by another node or by the same one. -/
  | sharedChild {first : Listing} (listed : first.In nodes) (before : first.Before l)
      (same : first.child = l.child) :
      Violates nodes l (.sharedChild l.child first.parent l.parent)

theorem Before.parent_le {l m : Listing} (h : l.Before m) : l.parent ≤ m.parent := by
  rcases h with h | ⟨h, _⟩
  · exact Nat.le_of_lt h
  · exact Nat.le_of_eq h

theorem not_before_self (l : Listing) : ¬ l.Before l := by
  rintro (h | ⟨_, h⟩)
  · exact Nat.lt_irrefl _ h
  · exact Nat.lt_irrefl _ h

theorem Before.not_before {l m : Listing} (h : l.Before m) : ¬ m.Before l := by
  rcases h with hparent | ⟨hparent, hindex⟩
  · rintro (hback | ⟨hback, _⟩)
    · exact Nat.lt_asymm hparent hback
    · exact Nat.ne_of_lt hparent hback.symm
  · rintro (hback | ⟨_, hback⟩)
    · exact Nat.ne_of_lt hback hparent.symm
    · exact Nat.lt_asymm hindex hback

/-- A listing without a fault has a child in the array, before its parent. -/
theorem child_lt_of_not_violates {nodes : Array Node} {l : Listing}
    (h : ∀ fault, ¬ l.Violates nodes fault) : l.child < nodes.size ∧ l.child < l.parent := by
  have hknown : l.child < nodes.size := by
    rcases Nat.lt_or_ge l.child nodes.size with hlt | hge
    · exact hlt
    · exact absurd (.unknownChild hge) (h _)
  refine ⟨hknown, ?_⟩
  rcases Nat.lt_or_ge l.child l.parent with hlt | hge
  · exact hlt
  · exact absurd (.lateChild hknown hge) (h _)

end Listing

/-- All listings in reading order. -/
def listings (nodes : Array Node) : List Listing :=
  (List.range nodes.size).flatMap fun p =>
    (childrenAt nodes p).zipIdx.map fun listed => ⟨p, listed.2, listed.1⟩

theorem mem_listings {nodes : Array Node} {l : Listing} : l ∈ listings nodes ↔ l.In nodes := by
  obtain ⟨p, i, c⟩ := l
  simp only [listings, List.mem_flatMap, List.mem_range, List.mem_map, Listing.In]
  constructor
  · rintro ⟨q, _, ⟨d, j⟩, hlisted, heq⟩
    cases heq
    exact List.mk_mem_zipIdx_iff_getElem?.mp hlisted
  · intro hlisted
    obtain ⟨node, hnode, _⟩ := mem_childrenAt.mp (List.mem_of_getElem? hlisted)
    obtain ⟨hp, _⟩ := Array.getElem?_eq_some_iff.mp hnode
    exact ⟨p, hp, (c, i), List.mk_mem_zipIdx_iff_getElem?.mpr hlisted, rfl⟩

theorem pairwise_before_listings (nodes : Array Node) :
    (listings nodes).Pairwise Listing.Before := by
  rw [listings, List.pairwise_flatMap]
  constructor
  · intro p _
    have hindex : (childrenAt nodes p).zipIdx.Pairwise fun a b => a.2 < b.2 := by
      rw [← List.pairwise_map (f := Prod.snd) (R := (· < ·)), List.zipIdx_map_snd]
      exact List.pairwise_lt_range'
    exact List.pairwise_map.mpr (hindex.imp fun h => .inr ⟨rfl, h⟩)
  · refine List.pairwise_lt_range.imp fun hlt l hl m hm => ?_
    obtain ⟨_, _, rfl⟩ := List.mem_map.mp hl
    obtain ⟨_, _, rfl⟩ := List.mem_map.mp hm
    exact .inl hlt

/-- The references are claimed in reading order. -/
theorem references_eq_map_listings (nodes : Array Node) :
    references nodes = (listings nodes).map Listing.reference := by
  rw [references, listings, List.map_flatMap]
  refine List.flatMap_congr fun p _ => ?_
  rw [List.map_map]
  show (childrenAt nodes p).map (Reference.mk p) =
    (childrenAt nodes p).zipIdx.map (Reference.mk p ∘ Prod.fst)
  rw [← List.map_map, List.zipIdx_map_fst]

/-- What stands in front of a listing in reading order is what is read before it. -/
theorem mem_front_iff {nodes : Array Node} {front back : List Listing} {l e : Listing}
    (h : listings nodes = front ++ l :: back) : e ∈ front ↔ e.In nodes ∧ e.Before l := by
  have hordered := pairwise_before_listings nodes
  rw [h, List.pairwise_append, List.pairwise_cons] at hordered
  obtain ⟨_, ⟨hback, _⟩, hfront⟩ := hordered
  rw [← mem_listings, h]
  constructor
  · intro he
    exact ⟨List.mem_append_left _ he, hfront e he l List.mem_cons_self⟩
  · rintro ⟨he, hbefore⟩
    rcases List.mem_append.mp he with he | he
    · exact he
    · rcases List.mem_cons.mp he with rfl | he
      · exact absurd hbefore e.not_before_self
      · exact absurd hbefore (hback e he).not_before

/-! ## Claims -/

theorem claim_eq_error_iff {parents : Array (Option NodeId)} {ref : Reference}
    {fault : TreeFault} :
    claim parents ref = .error fault ↔
      parents.size ≤ ref.child ∧ fault = .unknownChild ref.parent ref.child ∨
      ref.child < parents.size ∧ ref.parent ≤ ref.child ∧
        fault = .lateChild ref.parent ref.child ∨
      ∃ first, parents[ref.child]? = some (some first) ∧ ref.child < ref.parent ∧
        fault = .sharedChild ref.child first ref.parent := by
  unfold claim
  split
  next h =>
    have hsize := Array.getElem?_eq_none_iff.mp h
    rw [h]
    simp [hsize, Nat.not_lt.mpr hsize, eq_comm]
  next owner h =>
    obtain ⟨hsize, _⟩ := Array.getElem?_eq_some_iff.mp h
    rw [h]
    split
    next hle => simp [hsize, hle, Nat.not_le.mpr hsize, Nat.not_lt.mpr hle, eq_comm]
    next hlt =>
      cases owner with
      | none => simp [hlt, Nat.not_le.mpr hsize]
      | some first => simp [hlt, Nat.not_le.mpr hsize, Nat.not_le.mp hlt, eq_comm]

/-- A run fails at the first step that fails, from the state that the steps before it have
reached. -/
theorem foldlM_eq_error_iff {α β ε : Type} {step : β → α → Except ε β} {start : β}
    {xs : List α} {e : ε} :
    xs.foldlM step start = .error e ↔
      ∃ front a back state, xs = front ++ a :: back ∧
        front.foldlM step start = .ok state ∧ step state a = .error e := by
  constructor
  · intro h
    induction xs generalizing start with
    | nil => cases h
    | cons x rest ih =>
      rw [List.foldlM_cons] at h
      cases hx : step start x with
      | error e' =>
        rw [hx] at h
        cases h
        exact ⟨[], x, rest, start, rfl, rfl, hx⟩
      | ok next =>
        rw [hx] at h
        obtain ⟨front, a, back, state, rfl, hfront, ha⟩ := ih h
        refine ⟨x :: front, a, back, state, rfl, ?_, ha⟩
        rw [List.foldlM_cons, hx]
        exact hfront
  · rintro ⟨front, a, back, state, rfl, hfront, ha⟩
    rw [List.foldlM_append, hfront]
    show (step state a >>= fun next => back.foldlM step next) = .error e
    rw [ha]
    rfl

/-- The run of claims over listings, from a table without any parent. -/
def claimListings (nodes : Array Node) (ls : List Listing) :
    Except TreeFault (Array (Option NodeId)) :=
  (ls.map Listing.reference).foldlM claim (Array.replicate nodes.size none)

theorem wire_eq_claimListings (nodes : Array Node) :
    wire nodes = claimListings nodes (listings nodes) := by
  rw [wire, references_eq_map_listings]
  rfl

section Front

variable {nodes : Array Node} {front back : List Listing} {l : Listing}

/-- Claims get past no listing that has a fault. -/
theorem not_violates_of_claimListings_eq_ok {parents : Array (Option NodeId)} {fault : TreeFault}
    (h : listings nodes = front ++ back) (hrun : claimListings nodes front = .ok parents)
    (hl : l ∈ front) : ¬ l.Violates nodes fault := by
  obtain ⟨_, hrefs, hnodup, _⟩ := foldlM_claim_eq_ok hrun
  obtain ⟨hfree, hlt⟩ : (Array.replicate nodes.size none)[l.child]? = some none ∧
      l.child < l.parent := hrefs l.reference (List.mem_map_of_mem hl)
  intro hviolates
  cases hviolates with
  | unknownChild missing =>
    rw [Array.getElem?_replicate, if_neg (Nat.not_lt.mpr missing)] at hfree
    cases hfree
  | lateChild _ late => exact Nat.not_lt.mpr late hlt
  | @sharedChild first listed before same =>
    -- The earlier listing of the child belongs to the front too.
    obtain ⟨earlier, later, rfl⟩ := List.append_of_mem hl
    rw [List.append_assoc, List.cons_append] at h
    have hfirst := List.mem_append_left (l :: later) ((mem_front_iff h).mpr ⟨listed, before⟩)
    rw [List.map_map] at hnodup
    cases List.inj_on_of_nodup_map hnodup hfirst hl same
    exact l.not_before_self before

/-- Claims get past listings that have no fault. -/
theorem exists_claimListings_eq_ok (h : listings nodes = front ++ back)
    (hvalid : ∀ l ∈ front, ∀ fault, ¬ l.Violates nodes fault) :
    ∃ parents, claimListings nodes front = .ok parents := by
  have hordered : front.Pairwise Listing.Before := by
    have hall := pairwise_before_listings nodes
    rw [h] at hall
    exact (List.pairwise_append.mp hall).1
  apply foldlM_claim_of_free
  · intro ref href
    obtain ⟨l, hl, rfl⟩ := List.mem_map.mp href
    obtain ⟨hknown, hlt⟩ := Listing.child_lt_of_not_violates (hvalid l hl)
    refine ⟨?_, hlt⟩
    rw [Array.getElem?_replicate]
    exact if_pos hknown
  · rw [List.map_map, List.Nodup, List.pairwise_map]
    refine hordered.imp_of_mem fun {first l} hfirst hl before same => ?_
    have hin : first.In nodes := by
      rw [← mem_listings, h]
      exact List.mem_append_left _ hfirst
    exact hvalid l hl _ (.sharedChild hin before same)

/-- The table behind the front holds the parents of the listings that are read before. -/
theorem claimListings_eq_ok {parents : Array (Option NodeId)}
    (h : listings nodes = front ++ l :: back) (hrun : claimListings nodes front = .ok parents) :
    parents.size = nodes.size ∧ ∀ c p, parents[c]? = some (some p) ↔
      ∃ first : Listing, first.In nodes ∧ first.Before l ∧ first.child = c ∧ first.parent = p := by
  obtain ⟨hsize, _, _, hmem⟩ := foldlM_claim_eq_ok hrun
  refine ⟨by simpa using hsize, fun c p => ?_⟩
  rw [hmem, List.mem_map]
  simp only [Array.getElem?_replicate, mem_front_iff h, Listing.reference, Reference.mk.injEq]
  constructor
  · rintro (hstart | ⟨first, ⟨hin, hbefore⟩, rfl, rfl⟩)
    · split at hstart <;> cases hstart
    · exact ⟨first, hin, hbefore, rfl, rfl⟩
  · rintro ⟨first, hin, hbefore, rfl, rfl⟩
    exact .inr ⟨first, ⟨hin, hbefore⟩, rfl, rfl⟩

/-- Behind a front without faults, the next claim fails exactly for what is wrong with its
listing. -/
theorem claim_reference_eq_error_iff {parents : Array (Option NodeId)} {fault : TreeFault}
    (h : listings nodes = front ++ l :: back) (hrun : claimListings nodes front = .ok parents) :
    claim parents l.reference = .error fault ↔ l.Violates nodes fault := by
  obtain ⟨hsize, hmem⟩ := claimListings_eq_ok h hrun
  rw [claim_eq_error_iff, hsize]
  constructor
  · rintro (⟨missing, rfl⟩ | ⟨known, late, rfl⟩ | ⟨_, howner, _, rfl⟩)
    · exact .unknownChild missing
    · exact .lateChild known late
    · obtain ⟨first, listed, before, same, rfl⟩ := (hmem _ _).mp howner
      exact .sharedChild listed before same
  · rintro (missing | ⟨known, late⟩ | @⟨first, listed, before, same⟩)
    · exact .inl ⟨missing, rfl⟩
    · exact .inr (.inl ⟨known, late, rfl⟩)
    · have howner := (hmem l.child first.parent).mpr ⟨first, listed, before, same, rfl⟩
      -- The earlier listing has no fault, so the child stands before its parent there, and
      -- that parent is not behind the one that lists the child again.
      have hfirst := (mem_front_iff h).mpr ⟨listed, before⟩
      have hvalid : ∀ other, ¬ first.Violates nodes other := fun _ =>
        not_violates_of_claimListings_eq_ok h hrun hfirst
      have hlt := (Listing.child_lt_of_not_violates hvalid).2
      rw [same] at hlt
      exact .inr (.inr ⟨_, howner, Nat.lt_of_lt_of_le hlt before.parent_le, rfl⟩)

end Front

/-! ## The first fault -/

/-- The listing has this fault, and no listing that is read before it has any. -/
structure FirstViolation (nodes : Array Node) (l : Listing) (fault : TreeFault) : Prop where
  listed : l.In nodes
  violates : l.Violates nodes fault
  none_before : ∀ e : Listing, e.In nodes → e.Before l → ∀ other, ¬ e.Violates nodes other

/-- Wiring stops at the first listing that has a fault. -/
theorem wire_eq_error_iff {nodes : Array Node} {fault : TreeFault} :
    wire nodes = .error fault ↔ ∃ l, FirstViolation nodes l fault := by
  rw [wire_eq_claimListings, claimListings, List.foldlM_map, foldlM_eq_error_iff]
  simp only [← List.foldlM_map]
  constructor
  · rintro ⟨front, l, back, parents, hsplit, hrun, hclaim⟩
    refine ⟨l, ?_, (claim_reference_eq_error_iff hsplit hrun).mp hclaim, ?_⟩
    · rw [← mem_listings, hsplit]
      exact List.mem_append_right _ List.mem_cons_self
    · intro e hin hbefore other
      have he := (mem_front_iff hsplit).mpr ⟨hin, hbefore⟩
      exact not_violates_of_claimListings_eq_ok hsplit hrun he
  · rintro ⟨l, listed, violates, none_before⟩
    obtain ⟨front, back, hsplit⟩ := List.append_of_mem (mem_listings.mpr listed)
    have hvalid : ∀ e ∈ front, ∀ other, ¬ e.Violates nodes other := by
      intro e he
      obtain ⟨hin, hbefore⟩ := (mem_front_iff hsplit).mp he
      exact none_before e hin hbefore
    obtain ⟨parents, hrun⟩ := exists_claimListings_eq_ok hsplit hvalid
    exact ⟨front, l, back, parents, hsplit, hrun,
      (claim_reference_eq_error_iff hsplit hrun).mpr violates⟩

/-- Wiring succeeds exactly if no listing has a fault. -/
theorem exists_wire_eq_ok_iff_not_violates {nodes : Array Node} :
    (∃ parents, wire nodes = .ok parents) ↔
      ∀ l : Listing, l.In nodes → ∀ fault, ¬ l.Violates nodes fault := by
  have hall : listings nodes = listings nodes ++ [] := (List.append_nil _).symm
  rw [wire_eq_claimListings]
  simp only [← mem_listings]
  constructor
  · rintro ⟨parents, hrun⟩ l hl fault
    exact not_violates_of_claimListings_eq_ok hall hrun hl
  · exact exists_claimListings_eq_ok hall

/-- A draft is refused for an unknown root, for what wiring finds, or for a parent of the
root in the wired table. -/
theorem toTree_eq_error_iff {d : Draft} {root : NodeId} {fault : TreeFault} :
    d.toTree root = .error fault ↔
      d.nodes.size ≤ root ∧ fault = .unknownRoot root ∨
      root < d.nodes.size ∧ wire d.nodes = .error fault ∨
      root < d.nodes.size ∧ ∃ parents p, wire d.nodes = .ok parents ∧
        parents[root]? = some (some p) ∧ fault = .ownedRoot root p := by
  unfold toTree
  split
  next hroot =>
    split
    next other hw => simp [hw, hroot, Nat.not_le.mpr hroot]
    next parents hw =>
      have hin : root < parents.size := (wire_eq_ok hw).1 ▸ hroot
      dsimp only
      split
      next p howner => simp [hw, hroot, Nat.not_le.mpr hroot, hin, howner, eq_comm]
      next howner => simp [hw, hroot, Nat.not_le.mpr hroot, hin, howner]
  next hroot => simp [hroot, Nat.le_of_not_lt hroot, eq_comm]

/-- A node is the parent of the root in the wired table exactly if it alone lists the root. -/
theorem getElem?_root_eq_some_iff {nodes : Array Node} {parents : Array (Option NodeId)}
    {root p : NodeId} (hw : wire nodes = .ok parents) :
    parents[root]? = some (some p) ↔ ∀ q, root ∈ childrenAt nodes q ↔ q = p := by
  obtain ⟨_, _, _, hparents⟩ := wire_eq_ok hw
  simp only [← hparents]
  constructor
  · intro howner q
    rw [howner, Option.some.injEq, Option.some.injEq, eq_comm]
  · intro halone
    exact (halone p).mpr rfl

/-- **The fault that is named.** Whatever else is wrong with a draft, an unknown root is
reported for it and nothing else. With a root that exists, the fault is the one of the first
listing that has any, by ascending parent and then in the order of the parent's list: its
child is unknown, or does not stand before the parent, or has been listed before, in which
case the node of that earlier listing is named first. Only if no listing has a fault is the
root looked at, and the fault then names the one node that lists it. In every other case the
draft is a tree. -/
theorem toTree_names_first_fault (d : Draft) (root : NodeId) (fault : TreeFault) :
    d.toTree root = .error fault ↔
      d.nodes.size ≤ root ∧ fault = .unknownRoot root ∨
      root < d.nodes.size ∧
        ((∃ l, FirstViolation d.nodes l fault) ∨
          (∀ l : Listing, l.In d.nodes → ∀ other, ¬ l.Violates d.nodes other) ∧
            ∃ p, (∀ q, root ∈ childrenAt d.nodes q ↔ q = p) ∧ fault = .ownedRoot root p) := by
  rw [toTree_eq_error_iff, wire_eq_error_iff, ← exists_wire_eq_ok_iff_not_violates, and_or_left]
  refine or_congr_right (or_congr_right (and_congr_right fun _ => ?_))
  constructor
  · rintro ⟨parents, p, hw, howner, rfl⟩
    exact ⟨⟨parents, hw⟩, p, (getElem?_root_eq_some_iff hw).mp howner, rfl⟩
  · rintro ⟨⟨parents, hw⟩, p, halone, rfl⟩
    exact ⟨parents, p, hw, (getElem?_root_eq_some_iff hw).mpr halone, rfl⟩

-- Node 1 lists its child twice, node 2 lists a child that is not there, and the root has two
-- parents.
example : (Draft.mk #[{ kind := .simpleName "a" }, { kind := .arrayAccess 0 0 },
    { kind := .block [1, 7] }]).toTree 0 = .error (.sharedChild 0 1 1) := by rfl

end Draft

end Remedy
