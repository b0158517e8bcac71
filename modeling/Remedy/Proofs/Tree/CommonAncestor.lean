import Remedy.Proofs.Tree.Covering

/-!
# The node that two source ranges have in common

A problem may be reported with two ranges, and the least range around both is
their merge. A span covers the merge exactly if it covers both parts, so over
nested spans the nodes that cover the merge are the nodes at or above both of
the nodes that the parts belong to. Such nodes form a chain. The merge belongs
to the lowest of them, the lowest common ancestor.

A node counts as an ancestor of itself here, as it does in `Tree.lineage`.
-/

namespace Remedy

/-- A merge has a byte in it if its first part has one. -/
theorem Span.start_lt_stop_merge {r : Span} (hr : r.start < r.stop) (s : Span) :
    (r.merge s).start < (r.merge s).stop := by
  simp only [merge]
  omega

namespace Tree

variable {t : Tree} {a b n : NodeId}

/-! ## Lowest common ancestors -/

/-- The lowest of the nodes that are at or above both `a` and `b`. -/
structure LowestCommonAncestor (t : Tree) (a b n : NodeId) : Prop where
  left : n ∈ t.lineage a
  right : n ∈ t.lineage b
  /-- Every node at or above both is at or above `n`. -/
  lowest : ∀ m ∈ t.lineage a, m ∈ t.lineage b → m ∈ t.lineage n

/-- Two nodes that dominate each other are one node. -/
theorem Dominates.antisymm (hab : t.Dominates a b) (hba : t.Dominates b a) : a = b := by
  by_cases heq : a = b
  · exact heq
  · have hdown := depth_lt_of_dominates hab heq
    have hup := depth_le_of_dominates hba
    omega

/-- Two nodes have at most one lowest common ancestor. -/
theorem LowestCommonAncestor.unique {n' : NodeId} (h : t.LowestCommonAncestor a b n)
    (h' : t.LowestCommonAncestor a b n') : n = n' := by
  have hdown := h.lowest n' h'.left h'.right
  have hup := h'.lowest n h.left h.right
  exact (mem_lineage_iff.mp hup).antisymm (mem_lineage_iff.mp hdown)

/-- Every other common ancestor is less deep. -/
theorem LowestCommonAncestor.depth_lt (h : t.LowestCommonAncestor a b n) {m : NodeId}
    (ha : m ∈ t.lineage a) (hb : m ∈ t.lineage b) (hne : m ≠ n) : t.depth m < t.depth n :=
  depth_lt_of_dominates (mem_lineage_iff.mp (h.lowest m ha hb)) hne

/-- A node whose lineage is what the lineages of two nodes have in common is
their lowest common ancestor. -/
theorem lowestCommonAncestor_of_lineage
    (h : ∀ m, m ∈ t.lineage n ↔ m ∈ t.lineage a ∧ m ∈ t.lineage b) :
    t.LowestCommonAncestor a b n := by
  have hself : n ∈ t.lineage n := List.mem_cons_self
  obtain ⟨hleft, hright⟩ := (h n).mp hself
  exact ⟨hleft, hright, fun m ha hb => (h m).mpr ⟨ha, hb⟩⟩

/-! ## Merged ranges -/

/-- A node covers a merge exactly if it covers both parts. -/
theorem covers_merge_iff {id : NodeId} {r s : Span} :
    t.covers id (r.merge s) = true ↔ t.covers id r = true ∧ t.covers id s = true := by
  rw [covers_iff, Span.covers_merge_iff, and_and_left, ← covers_iff, ← covers_iff]

/-- Over nested spans, the lineage of the node that a merge belongs to is what
the lineages of the nodes of its parts have in common. -/
theorem SpansNest.mem_lineage_descend_merge (nest : t.SpansNest) {r s : Span}
    (hr : r.start < r.stop) (hs : s.start < s.stop) (hrootr : t.covers t.root r = true)
    (hroots : t.covers t.root s = true) (m : NodeId) :
    m ∈ t.lineage (t.descend (r.merge s) t.root) ↔
      m ∈ t.lineage (t.descend r t.root) ∧ m ∈ t.lineage (t.descend s t.root) := by
  have hmerge := Span.start_lt_stop_merge hr s
  have hroot := covers_merge_iff.mpr ⟨hrootr, hroots⟩
  rw [← nest.covers_iff_mem_lineage hmerge hroot, ← nest.covers_iff_mem_lineage hr hrootr,
    ← nest.covers_iff_mem_lineage hs hroots, covers_merge_iff, and_and_left]

/-- **The node of a merged range.** Over nested spans, two ranges that the root
covers and that have a byte in them belong to two nodes, and their merge belongs
to the lowest common ancestor of the two. It is the only one, and every other
common ancestor is less deep. -/
theorem covering_merge (t : Tree) (nest : t.SpansNest) (r s : Span) (hr : r.start < r.stop)
    (hs : s.start < s.stop) (hrootr : t.covers t.root r = true)
    (hroots : t.covers t.root s = true) :
    ∃ a b n, t.covering r = some a ∧ t.covering s = some b ∧ t.covering (r.merge s) = some n ∧
      t.LowestCommonAncestor a b n ∧
      (∀ n', t.LowestCommonAncestor a b n' → n' = n) ∧
      ∀ m ∈ t.lineage a, m ∈ t.lineage b → m ≠ n → t.depth m < t.depth n := by
  have hroot := covers_merge_iff.mpr ⟨hrootr, hroots⟩
  have hlowest : t.LowestCommonAncestor (t.descend r t.root) (t.descend s t.root)
      (t.descend (r.merge s) t.root) :=
    lowestCommonAncestor_of_lineage (nest.mem_lineage_descend_merge hr hs hrootr hroots)
  refine ⟨t.descend r t.root, t.descend s t.root, t.descend (r.merge s) t.root, ?_, ?_, ?_,
    hlowest, fun n' h => h.unique hlowest, fun m ha hb hne => hlowest.depth_lt ha hb hne⟩
  · rw [covering, if_pos hrootr]
  · rw [covering, if_pos hroots]
  · rw [covering, if_pos hroot]

/-- The tree of `a = f(b) + 1;` with its spans. -/
def sumTree : Tree :=
  (Draft.toTree
    ⟨#[{ kind := .simpleName "a", span := ⟨0, 1⟩ }, { kind := .simpleName "f", span := ⟨4, 5⟩ },
      { kind := .simpleName "b", span := ⟨6, 7⟩ }, { kind := .call none 1 [2] none, span := ⟨4, 8⟩ },
      { kind := .numberLit "1", span := ⟨11, 12⟩ },
      { kind := .binary .plus 3 4, span := ⟨4, 12⟩ }, { kind := .assign 0 5, span := ⟨0, 12⟩ },
      { kind := .exprStmt 6, span := ⟨0, 13⟩ }]⟩
    7).toOption.get (by decide +kernel)

/-- In `a = f(b) + 1;` the argument and the number, two and one steps below
the sum, have the sum in common. -/
theorem covering_merge_sum :
    sumTree.SpansNest ∧ sumTree.covering ⟨6, 7⟩ = some 2 ∧ sumTree.covering ⟨11, 12⟩ = some 4 ∧
      sumTree.covering ⟨6, 12⟩ = some 5 ∧ sumTree.LowestCommonAncestor 2 4 5 := by
  have hnest : sumTree.SpansNest := by decide +kernel
  have hargument : sumTree.covering ⟨6, 7⟩ = some 2 := by decide +kernel
  have hnumber : sumTree.covering ⟨11, 12⟩ = some 4 := by decide +kernel
  have hsum : sumTree.covering ⟨6, 12⟩ = some 5 := by decide +kernel
  obtain ⟨a, b, n, ha, hb, hn, hlowest, _⟩ := covering_merge sumTree hnest ⟨6, 7⟩ ⟨11, 12⟩
    (by decide) (by decide) (by decide +kernel) (by decide +kernel)
  rw [hargument] at ha
  rw [hnumber] at hb
  have hn : sumTree.covering ⟨6, 12⟩ = some n := hn
  rw [hsum] at hn
  cases ha
  cases hb
  cases hn
  exact ⟨hnest, hargument, hnumber, hsum, hlowest⟩

end Tree

end Remedy
