import Remedy.Proofs.Tree.Ancestry
import Remedy.Syntax.Covering
import Remedy.Syntax.Draft

/-!
# The node that a source range belongs to

`Tree.covering` goes down from the root to the first child that covers the
range and never turns back. The first group of results holds for any spans: the
descent stays in the subtree it starts in, every node on its way covers the
range, and no child of its last node does.

In a parsed program spans nest: a child lies within its parent, and siblings do
not overlap. A range with a byte in it is then covered by one child at most, so
the descent loses nothing. The nodes that cover the range are the node found
and its ancestors, and the node found is the deepest of them.
-/

namespace Remedy

/-- No byte offset lies in both spans. -/
def Span.Disjoint (a b : Span) : Prop :=
  ∀ x, ¬ ((a.start ≤ x ∧ x < a.stop) ∧ b.start ≤ x ∧ x < b.stop)

/-- The first byte that could lie in both is the later of the two starts. -/
theorem Span.disjoint_iff {a b : Span} :
    a.Disjoint b ↔ min a.stop b.stop ≤ max a.start b.start := by
  constructor
  · intro h
    have := h (max a.start b.start)
    omega
  · intro h x
    omega

instance (a b : Span) : Decidable (a.Disjoint b) := decidable_of_iff _ Span.disjoint_iff.symm

/-- Disjoint spans do not both cover a range that has a byte in it. -/
theorem Span.Disjoint.not_covers {a b s : Span} (h : a.Disjoint b) (hs : s.start < s.stop)
    (ha : a.Covers s) : ¬ b.Covers s := by
  intro hb
  obtain ⟨ha, ha'⟩ := ha
  obtain ⟨hb, hb'⟩ := hb
  exact h s.start ⟨⟨ha, by omega⟩, hb, by omega⟩

namespace Tree

variable {t : Tree} {s : Span}

/-- The span of a node, the dummy span for an id outside the tree. -/
def spanAt (t : Tree) (id : NodeId) : Span := ((t.node? id).map Node.span).getD Span.dummy

theorem covers_iff {id : Nat} :
    t.covers id s = true ↔ id < t.size ∧ (t.spanAt id).Covers s := by
  by_cases hid : id < t.nodes.size <;> simp [covers, spanAt, node?, size, hid]

/-! ## The descent over any spans -/

theorem coveringChild?_eq_none_iff {id : NodeId} :
    t.coveringChild? id s = none ↔ ∀ c ∈ t.children id, t.covers c s = false := by
  simp [coveringChild?, List.find?_eq_none]

theorem covers_of_coveringChild? {id c : NodeId} (h : t.coveringChild? id s = some c) :
    t.covers c s = true := by
  simpa using List.find?_some h

/-- The descent stays in the subtree that it starts in. -/
theorem dominates_descend (id : NodeId) : t.Dominates id (t.descend s id) := by
  induction id using Tree.descend.induct (t := t) (s := s) with
  | case1 id h =>
    rw [descend_of_none h]
    exact Dominates.refl id
  | case2 id c h ih =>
    rw [descend_of_some h]
    exact (dominates_of_mem_children (mem_children_of_coveringChild? h)).trans ih

/-- A descent from a covering node ends at a covering node. -/
theorem covers_descend {id : NodeId} (h : t.covers id s = true) :
    t.covers (t.descend s id) s = true := by
  induction id using Tree.descend.induct (t := t) (s := s) with
  | case1 id hnone => rwa [descend_of_none hnone]
  | case2 id c hsome ih =>
    rw [descend_of_some hsome]
    exact ih (covers_of_coveringChild? hsome)

theorem lt_size_of_covering {id : Nat} (h : t.covering s = some id) : id < t.size := by
  rw [covering] at h
  split at h
  next hroot =>
    cases h
    exact (covers_iff.mp (covers_descend hroot)).1
  next => cases h

/-! ## Nested spans -/

/-- The spans of the tree are laid out as those of a parsed text. -/
structure SpansNest (t : Tree) : Prop where
  /-- A child lies within its parent. -/
  within : ∀ {p c : NodeId}, c ∈ t.children p → (t.spanAt p).Covers (t.spanAt c)
  /-- Children of one node do not overlap. -/
  apart : ∀ {p c d : NodeId}, c ∈ t.children p → d ∈ t.children p → c ≠ d →
    (t.spanAt c).Disjoint (t.spanAt d)

/-- Only the child lists of nodes in the tree have to be looked at. -/
theorem spansNest_iff : t.SpansNest ↔ ∀ p < t.size, ∀ c ∈ t.children p,
    (t.spanAt p).Covers (t.spanAt c) ∧
      ∀ d ∈ t.children p, c ≠ d → (t.spanAt c).Disjoint (t.spanAt d) := by
  constructor
  · intro nest p _ c hc
    exact ⟨nest.within hc, fun d hd hne => nest.apart hc hd hne⟩
  · intro h
    refine ⟨?_, ?_⟩
    · intro p c hc
      exact (h p (parent_lt_size_of_mem_children hc) c hc).1
    · intro p c d hc hd hne
      exact (h p (parent_lt_size_of_mem_children hc) c hc).2 d hd hne

instance (t : Tree) : Decidable t.SpansNest := decidable_of_iff _ spansNest_iff.symm

/-- What a node covers, the nodes that dominate it cover too. -/
theorem SpansNest.covers_of_dominates (nest : t.SpansNest) {top low : NodeId}
    (h : t.Dominates top low) (hlow : t.covers low s = true) : t.covers top s = true := by
  induction h with
  | refl => exact hlow
  | @tail p c _ hchild ih =>
    have hp := parent_lt_size_of_mem_children hchild
    exact ih (covers_iff.mpr ⟨hp, (nest.within hchild).trans (covers_iff.mp hlow).2⟩)

/-- At most one child of a node covers a range that has a byte in it. -/
theorem SpansNest.eq_of_covers (nest : t.SpansNest) (hs : s.start < s.stop) {p c d : NodeId}
    (hc : c ∈ t.children p) (hd : d ∈ t.children p) (hcs : t.covers c s = true)
    (hds : t.covers d s = true) : c = d := by
  by_cases hne : c = d
  · exact hne
  · have hnot := (nest.apart hc hd hne).not_covers hs (covers_iff.mp hcs).2
    exact absurd (covers_iff.mp hds).2 hnot

/-- Every covering node of a subtree dominates the node at which the descent
from the top of the subtree ends. -/
theorem SpansNest.dominates_descend_of_covers (nest : t.SpansNest) (hs : s.start < s.stop)
    {id m : NodeId} (hm : t.Dominates id m) (hcovers : t.covers m s = true) :
    t.Dominates m (t.descend s id) := by
  induction id using Tree.descend.induct (t := t) (s := s) with
  | case1 id h =>
    rw [descend_of_none h]
    rcases dominates_iff_child.mp hm with rfl | ⟨d, hd, hdm⟩
    · exact Dominates.refl _
    · have hno := coveringChild?_eq_none_iff.mp h d hd
      rw [nest.covers_of_dominates hdm hcovers] at hno
      cases hno
  | case2 id c h ih =>
    rw [descend_of_some h]
    have hc := mem_children_of_coveringChild? h
    rcases dominates_iff_child.mp hm with rfl | ⟨d, hd, hdm⟩
    · exact (dominates_of_mem_children hc).trans (dominates_descend c)
    · -- The child that leads to `m` covers the range, so it is the one the descent takes.
      have hdc : d = c := nest.eq_of_covers hs hd hc (nest.covers_of_dominates hdm hcovers)
        (covers_of_coveringChild? h)
      exact ih (hdc ▸ hdm)

/-- The covering nodes of the root's subtree are the node at which the descent
from the root ends and its ancestors. -/
theorem SpansNest.covers_iff_mem_lineage (nest : t.SpansNest) (hs : s.start < s.stop)
    (hroot : t.covers t.root s = true) {m : NodeId} :
    t.Dominates t.root m ∧ t.covers m s = true ↔ m ∈ t.lineage (t.descend s t.root) := by
  rw [mem_lineage_iff]
  constructor
  · rintro ⟨hm, hcovers⟩
    exact nest.dominates_descend_of_covers hs hm hcovers
  · intro hm
    exact ⟨dominates_root_of_dominates (dominates_descend t.root) hm,
      nest.covers_of_dominates hm (covers_descend hroot)⟩

/-- **The covering node.** Over nested spans, a range with a byte in it that the
root covers belongs to a node such that exactly this node and its ancestors
cover the range within the root's subtree, and every other covering node is less
deep. A range that the root does not cover belongs to no node, and no node of
the root's subtree covers it. -/
theorem covering_deepest (t : Tree) (nest : t.SpansNest) (s : Span) (hs : s.start < s.stop) :
    (t.covers t.root s = true → ∃ n, t.covering s = some n ∧
      (∀ m, t.Dominates t.root m ∧ t.covers m s = true ↔ m = n ∨ m ∈ t.ancestors n) ∧
      ∀ m, t.Dominates t.root m → t.covers m s = true → m ≠ n → t.depth m < t.depth n) ∧
    (t.covers t.root s = false → t.covering s = none ∧
      ∀ m, t.Dominates t.root m → t.covers m s = false) := by
  constructor
  · intro hroot
    have hiff := fun m => nest.covers_iff_mem_lineage (m := m) hs hroot
    refine ⟨t.descend s t.root, by rw [covering, if_pos hroot], ?_, ?_⟩
    · intro m
      rw [hiff, lineage, List.mem_cons]
    · intro m hm hcovers hne
      exact depth_lt_of_dominates (mem_lineage_iff.mp ((hiff m).mp ⟨hm, hcovers⟩)) hne
  · intro hroot
    refine ⟨by rw [covering, hroot]; rfl, ?_⟩
    intro m hm
    cases hcovers : t.covers m s with
    | false => rfl
    | true =>
      rw [nest.covers_of_dominates hm hcovers] at hroot
      cases hroot

/-- The tree of the statement `x = 5;` with its spans. -/
def assignmentTree : Tree :=
  (Draft.toTree
    ⟨#[{ kind := .simpleName "x", span := ⟨0, 1⟩ }, { kind := .numberLit "5", span := ⟨4, 5⟩ },
      { kind := .assign 0 1, span := ⟨0, 5⟩ }, { kind := .exprStmt 2, span := ⟨0, 6⟩ }]⟩
    3).toOption.get (by decide +kernel)

/-- The range of the number in `x = 5;` belongs to a node that only it and its
ancestors cover. -/
theorem covering_deepest_assignment :
    assignmentTree.SpansNest ∧ ∃ n, assignmentTree.covering ⟨4, 5⟩ = some n ∧
      ∀ m, assignmentTree.Dominates 3 m ∧ assignmentTree.covers m ⟨4, 5⟩ = true ↔
        m = n ∨ m ∈ assignmentTree.ancestors n := by
  have hnest : assignmentTree.SpansNest := by decide +kernel
  have hroot : assignmentTree.root = 3 := by decide +kernel
  have hcovers : assignmentTree.covers assignmentTree.root ⟨4, 5⟩ = true := by decide +kernel
  obtain ⟨n, hn, hiff, _⟩ := (covering_deepest assignmentTree hnest ⟨4, 5⟩ (by decide)).1 hcovers
  exact ⟨hnest, n, hn, hroot ▸ hiff⟩

end Tree

end Remedy
