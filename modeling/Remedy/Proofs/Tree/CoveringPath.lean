import Remedy.Proofs.Tree.AncestorChain
import Remedy.Proofs.Tree.Covering

/-!
# The path to the node of a source range

The search for the node of a range takes a path down from the root. The first
part says which path, for any spans at all: every node on it covers the range,
each step goes to the first child that does, and the path stops where no child
covers the range. There is one such path, so this describes the node completely
(`covering_ends_descent`).

The second part is about nested spans and ranges that may be empty. A covering
node off the path lies below a `Rival`: a sibling of a node of the path that covers
the range as well and is listed behind it. Siblings do not overlap, so there are
rivals only to an empty range, at a place where one sibling ends and one begins.
There the first sibling wins, however deep the other one reaches.
-/

namespace Remedy

/-- One of the spans ends at `x`, and one of them begins there. -/
def Span.MeetAt (a b : Span) (x : Nat) : Prop :=
  (a.stop = x ∨ b.stop = x) ∧ (a.start = x ∨ b.start = x)

/-- Disjoint spans cover the same range only if it is empty and they meet at it. -/
theorem Span.Disjoint.meetAt {a b s : Span} (h : a.Disjoint b) (hs : s.start ≤ s.stop)
    (ha : a.Covers s) (hb : b.Covers s) : s.start = s.stop ∧ a.MeetAt b s.start := by
  have hapart := Span.disjoint_iff.mp h
  obtain ⟨ha, ha'⟩ := ha
  obtain ⟨hb, hb'⟩ := hb
  refine ⟨by omega, ?_, ?_⟩
  · omega
  · omega

namespace Tree

variable {t : Tree} {s : Span}

/-! ## The path over any spans -/

/-- The child `c` of `p` covers the range, and no child listed before it does. -/
def FirstCovering (t : Tree) (s : Span) (p c : NodeId) : Prop :=
  t.covers c s = true ∧ ∃ before after, t.children p = before ++ c :: after ∧
    ∀ d ∈ before, t.covers d s = false

theorem coveringChild?_eq_some_iff {p c : NodeId} :
    t.coveringChild? p s = some c ↔ t.FirstCovering s p c := by
  simp [coveringChild?, List.find?_eq_some_iff_append, FirstCovering]

/-- The way from the top down to `id` goes through covering nodes, and each step
to the first covering child. The lineage lists the way from its end. -/
structure FollowsFirst (t : Tree) (s : Span) (id : NodeId) : Prop where
  covers : ∀ m ∈ t.lineage id, t.covers m s = true
  first : (t.lineage id).IsChain fun c p => t.FirstCovering s p c

/-- A covering root is a way of no steps. -/
theorem followsFirst_root (h : t.covers t.root s = true) : t.FollowsFirst s t.root := by
  have hlineage := lineage_of_parent?_none (t := t) parent?_root
  refine ⟨?_, ?_⟩
  · rw [hlineage]
    exact List.forall_mem_singleton.mpr h
  · rw [hlineage]
    exact List.isChain_singleton t.root

/-- One step of the search makes the way one node longer. -/
theorem FollowsFirst.step {p c : NodeId} (h : t.FollowsFirst s p)
    (hstep : t.coveringChild? p s = some c) : t.FollowsFirst s c := by
  have hparent := parent?_eq_some_iff.mpr (mem_children_of_coveringChild? hstep)
  refine ⟨?_, ?_⟩
  · rw [lineage_of_parent? hparent]
    exact List.forall_mem_cons.mpr ⟨covers_of_coveringChild? hstep, h.covers⟩
  · rw [lineage_of_parent? hparent]
    exact List.isChain_cons_cons.mpr ⟨coveringChild?_eq_some_iff.mp hstep, h.first⟩

/-- The whole search keeps to first covering children. -/
theorem FollowsFirst.descend {id : NodeId} (h : t.FollowsFirst s id) :
    t.FollowsFirst s (t.descend s id) := by
  induction id using Tree.descend.induct (t := t) (s := s) with
  | case1 id hnone => rwa [descend_of_none hnone]
  | case2 id c hsome ih =>
    rw [descend_of_some hsome]
    exact ih (h.step hsome)

/-- The search stops where no child covers the range. -/
theorem coveringChild?_descend (id : NodeId) : t.coveringChild? (t.descend s id) s = none := by
  induction id using Tree.descend.induct (t := t) (s := s) with
  | case1 id hnone => rwa [descend_of_none hnone]
  | case2 id c hsome ih => rwa [descend_of_some hsome]

/-- From every node of a way by first covering children the search comes to where it comes
from the last one. -/
theorem descend_eq_of_isChain {n : NodeId}
    (h : (t.lineage n).IsChain fun c p => t.FirstCovering s p c) :
    ∀ m ∈ t.lineage n, t.descend s m = t.descend s n := by
  induction n using Tree.ancestors.induct (t := t) with
  | case1 n hparent =>
    rw [lineage_of_parent?_none hparent]
    exact List.forall_mem_singleton.mpr rfl
  | case2 n p hparent ih =>
    rw [lineage_of_parent? hparent] at h ⊢
    obtain ⟨hstep, hrest⟩ := List.isChain_cons_cons.mp h
    refine List.forall_mem_cons.mpr ⟨rfl, fun m hm => ?_⟩
    rw [ih hrest m hm, descend_of_some (coveringChild?_eq_some_iff.mpr hstep)]

/-- **The path of the search.** For any spans, overlapping or inverted ones too, and any
range:

* the range belongs to no node exactly if the root does not cover it;
* it belongs to `n` exactly if `n` is in the root's subtree, every node on the path from
  the root to `n` covers the range, each step of the path goes to the first child that
  does, and no child of `n` covers the range. -/
theorem covering_ends_descent (t : Tree) (s : Span) :
    (t.covering s = none ↔ t.covers t.root s = false) ∧
      ∀ n, t.covering s = some n ↔
        t.Dominates t.root n ∧ (t.lineage n).getLast? = some t.root ∧
          (∀ m ∈ t.lineage n, t.covers m s = true) ∧
          ((t.lineage n).IsChain fun c p => t.FirstCovering s p c) ∧
          ∀ c ∈ t.children n, t.covers c s = false := by
  refine ⟨by simp [covering], fun n => ?_⟩
  constructor
  · intro h
    rw [covering, Option.ite_none_right_eq_some] at h
    obtain ⟨hroot, hn⟩ := h
    obtain rfl := Option.some.inj hn
    have hpath := (followsFirst_root hroot).descend
    exact ⟨dominates_descend t.root, getLast?_lineage_eq_root (dominates_descend t.root),
      hpath.covers, hpath.first, coveringChild?_eq_none_iff.mp (coveringChild?_descend t.root)⟩
  · rintro ⟨hbelow, -, hcovers, hfirst, hstops⟩
    have hmem := mem_lineage_iff.mpr hbelow
    rw [covering, if_pos (hcovers _ hmem), descend_eq_of_isChain hfirst _ hmem,
      descend_of_none (coveringChild?_eq_none_iff.mpr hstops)]

/-! ## Rivals over nested spans -/

/-- The node `d` covers the range as well, and stands behind a sibling that is at or above
`n`. -/
def Rival (t : Tree) (s : Span) (n d : NodeId) : Prop :=
  t.covers d s = true ∧ ∃ c ∈ t.lineage n, ∃ p, [c, d].Sublist (t.children p)

/-- A covering child other than the first one stands behind it. -/
theorem FirstCovering.sublist {p c d : NodeId} (h : t.FirstCovering s p c)
    (hd : d ∈ t.children p) (hcovers : t.covers d s = true) (hne : d ≠ c) :
    [c, d].Sublist (t.children p) := by
  obtain ⟨_, before, after, hchildren, hbefore⟩ := h
  have hafter : d ∈ after := by
    rw [hchildren, List.mem_append, List.mem_cons] at hd
    rcases hd with hd | hd | hd
    · rw [hbefore d hd] at hcovers
      cases hcovers
    · exact absurd hd hne
    · exact hd
  rw [hchildren]
  exact ((List.singleton_sublist.mpr hafter).cons_cons c).trans (List.sublist_append_right _ _)

/-- Over nested spans, a covering node is on the path of the search or below a rival. -/
theorem SpansNest.mem_lineage_or_below_rival (nest : t.SpansNest) {id m : NodeId}
    (hm : t.Dominates id m) (hcovers : t.covers m s = true) :
    m ∈ t.lineage (t.descend s id) ∨ ∃ d, t.Rival s (t.descend s id) d ∧ t.Dominates d m := by
  induction id using Tree.descend.induct (t := t) (s := s) with
  | case1 id hnone =>
    rw [descend_of_none hnone]
    rcases dominates_iff_child.mp hm with rfl | ⟨d, hd, hdm⟩
    · exact .inl List.mem_cons_self
    · have hno := coveringChild?_eq_none_iff.mp hnone d hd
      rw [nest.covers_of_dominates hdm hcovers] at hno
      cases hno
  | case2 id c hsome ih =>
    have hbelow := dominates_descend (t := t) (s := s) c
    rw [descend_of_some hsome]
    rcases dominates_iff_child.mp hm with rfl | ⟨d, hd, hdm⟩
    · have hc := dominates_of_mem_children (mem_children_of_coveringChild? hsome)
      exact .inl (mem_lineage_iff.mpr (hc.trans hbelow))
    · by_cases heq : d = c
      · exact ih (heq ▸ hdm)
      · have hdcovers := nest.covers_of_dominates hdm hcovers
        have hbehind := (coveringChild?_eq_some_iff.mp hsome).sublist hd hdcovers heq
        exact .inr ⟨d, ⟨hdcovers, c, mem_lineage_iff.mpr hbelow, id, hbehind⟩, hdm⟩

/-- Over nested spans, a rival meets the sibling before it at the range, which is empty. -/
theorem SpansNest.meetAt_of_rival (nest : t.SpansNest) (hs : s.start ≤ s.stop) {n d : NodeId}
    (hn : t.covers n s = true) (h : t.Rival s n d) :
    s.start = s.stop ∧ ∃ c ∈ t.lineage n, ∃ p, [c, d].Sublist (t.children p) ∧
      (t.spanAt c).MeetAt (t.spanAt d) s.start := by
  obtain ⟨hd, c, hc, p, hbehind⟩ := h
  have hne : c ≠ d := by
    have hnodup := (t.children_nodup p).sublist hbehind
    simpa using hnodup
  have hcp : c ∈ t.children p := hbehind.mem List.mem_cons_self
  have hdp : d ∈ t.children p := hbehind.mem (List.mem_cons_of_mem _ List.mem_cons_self)
  have hccovers := nest.covers_of_dominates (mem_lineage_iff.mp hc) hn
  obtain ⟨hempty, hmeet⟩ := (nest.apart hcp hdp hne).meetAt hs (covers_iff.mp hccovers).2
    (covers_iff.mp hd).2
  exact ⟨hempty, c, hc, p, hbehind, hmeet⟩

/-- **The deepest covering node.** Over nested spans, a range that the root covers and that
does not end before it begins belongs to a node.

* No covering node in the root's subtree is deeper exactly if none below a rival is.
* There is a rival only if the range is empty and the rival meets a node of the path, its
  sibling, at the range. A range with a byte in it has no rivals, nor has an empty one where
  no two siblings meet. -/
theorem covering_deepest_iff_rivals (t : Tree) (nest : t.SpansNest) (s : Span)
    (hs : s.start ≤ s.stop) (hroot : t.covers t.root s = true) :
    ∃ n, t.covering s = some n ∧
      ((∀ m, t.Dominates t.root m → t.covers m s = true → t.depth m ≤ t.depth n) ↔
        ∀ d, t.Rival s n d → ∀ m, t.Dominates d m → t.covers m s = true →
          t.depth m ≤ t.depth n) ∧
      ∀ d, t.Rival s n d → s.start = s.stop ∧
        ∃ c ∈ t.lineage n, ∃ p, [c, d].Sublist (t.children p) ∧
          (t.spanAt c).MeetAt (t.spanAt d) s.start := by
  refine ⟨t.descend s t.root, by rw [covering, if_pos hroot], ?_, ?_⟩
  · constructor
    · rintro hdeepest d ⟨_, c, hc, p, hbehind⟩ m hm hcovers
      have hdp : d ∈ t.children p := hbehind.mem (List.mem_cons_of_mem _ List.mem_cons_self)
      have hcp : c ∈ t.children p := hbehind.mem List.mem_cons_self
      have hp := (dominates_of_mem_children hcp).trans (mem_lineage_iff.mp hc)
      have hrootp := dominates_root_of_dominates (dominates_descend t.root) hp
      exact hdeepest m ((hrootp.trans (dominates_of_mem_children hdp)).trans hm) hcovers
    · intro hrivals m hm hcovers
      rcases nest.mem_lineage_or_below_rival hm hcovers with hmem | ⟨d, hd, hdm⟩
      · exact depth_le_of_dominates (mem_lineage_iff.mp hmem)
      · exact hrivals d hd m hdm hcovers
  · intro d hd
    exact nest.meetAt_of_rival hs (covers_descend hroot) hd

/-- The tree of the block `{x=1;y=2;}` with its spans. -/
def adjacentTree : Tree :=
  (Draft.toTree
    ⟨#[{ kind := .simpleName "x", span := ⟨1, 2⟩ }, { kind := .numberLit "1", span := ⟨3, 4⟩ },
      { kind := .assign 0 1, span := ⟨1, 4⟩ }, { kind := .exprStmt 2, span := ⟨1, 5⟩ },
      { kind := .simpleName "y", span := ⟨5, 6⟩ }, { kind := .numberLit "2", span := ⟨7, 8⟩ },
      { kind := .assign 4 5, span := ⟨5, 8⟩ }, { kind := .exprStmt 6, span := ⟨5, 9⟩ },
      { kind := .block [3, 7], span := ⟨0, 10⟩ }]⟩
    8).toOption.get (by decide +kernel)

/-- Where the first statement ends, the second one is a rival that begins there. -/
theorem covering_deepest_iff_rivals_adjacent :
    adjacentTree.SpansNest ∧ ∃ n, adjacentTree.covering ⟨5, 5⟩ = some n ∧
      adjacentTree.Rival ⟨5, 5⟩ n 7 ∧
      ∃ c ∈ adjacentTree.lineage n, ∃ p, [c, 7].Sublist (adjacentTree.children p) ∧
        (adjacentTree.spanAt c).MeetAt (adjacentTree.spanAt 7) 5 := by
  have hnest : adjacentTree.SpansNest := by decide +kernel
  have hroot : adjacentTree.covers adjacentTree.root ⟨5, 5⟩ = true := by decide +kernel
  have hfound : adjacentTree.covering ⟨5, 5⟩ = some 3 := by decide +kernel
  obtain ⟨n, hn, _, hmeet⟩ := covering_deepest_iff_rivals adjacentTree hnest ⟨5, 5⟩ (by decide) hroot
  obtain rfl := Option.some.inj (hfound.symm.trans hn)
  have hrival : adjacentTree.Rival ⟨5, 5⟩ 3 7 :=
    ⟨by decide +kernel, 3, List.mem_cons_self, 8, by decide +kernel⟩
  exact ⟨hnest, 3, hn, hrival, (hmeet 7 hrival).2⟩

/-- The empty range between the statements of `{x=1;y=2;}` belongs to the first
statement, and the name `y`, which covers it too, is deeper. -/
theorem covering_adjacent_not_deepest :
    adjacentTree.SpansNest ∧ adjacentTree.covers adjacentTree.root ⟨5, 5⟩ = true ∧
      adjacentTree.covering ⟨5, 5⟩ = some 3 ∧ adjacentTree.Dominates adjacentTree.root 4 ∧
      adjacentTree.covers 4 ⟨5, 5⟩ = true ∧ adjacentTree.depth 3 < adjacentTree.depth 4 := by
  have hbelow : adjacentTree.Dominates adjacentTree.root 4 :=
    mem_lineage_iff.mp (by decide +kernel)
  exact ⟨by decide +kernel, by decide +kernel, by decide +kernel, hbelow, by decide +kernel,
    by decide +kernel⟩

end Tree

end Remedy
