import Mathlib.Logic.Relation
import Remedy.Syntax.Tree

/-!
# Dominance in a tree

A node dominates every node of its subtree, itself included. Dominance goes
down the child lists, `Tree.lineage` goes up the parent table, and
`mem_lineage_iff` says that both describe one relation. Since a node has at most
one parent, the nodes that dominate a given node form a chain, in which the
depth tells them apart.
-/

namespace Remedy

namespace Tree

/-- The node `low` is in the subtree of `top`: steps into child lists lead from
`top` to `low`. -/
def Dominates (t : Tree) (top low : NodeId) : Prop :=
  Relation.ReflTransGen (fun p c => c ∈ t.children p) top low

/-- The number of ancestors. -/
def depth (t : Tree) (id : NodeId) : Nat := (t.ancestors id).length

variable {t : Tree}

theorem Dominates.refl (id : NodeId) : t.Dominates id id := Relation.ReflTransGen.refl

theorem Dominates.trans {a b c : NodeId} (hab : t.Dominates a b) (hbc : t.Dominates b c) :
    t.Dominates a c :=
  Relation.ReflTransGen.trans hab hbc

theorem dominates_of_mem_children {p c : NodeId} (h : c ∈ t.children p) : t.Dominates p c :=
  Relation.ReflTransGen.single h

/-- A node dominates itself and what its children dominate. -/
theorem dominates_iff_child {top low : NodeId} :
    t.Dominates top low ↔ low = top ∨ ∃ c ∈ t.children top, t.Dominates c low := by
  rw [Dominates, Relation.ReflTransGen.cases_head_iff, eq_comm]
  rfl

/-- A node is dominated by itself and by what dominates its parent. -/
theorem dominates_iff_parent? {top low : NodeId} :
    t.Dominates top low ↔ top = low ∨ ∃ p, t.parent? low = some p ∧ t.Dominates top p := by
  rw [Dominates, Relation.ReflTransGen.cases_tail_iff]
  simp only [parent?_eq_some_iff, eq_comm (a := low)]
  exact or_congr Iff.rfl (exists_congr fun _ => and_comm)

/-! ## Lineages -/

theorem lineage_of_parent? {id p : NodeId} (h : t.parent? id = some p) :
    t.lineage id = id :: t.lineage p := by
  show id :: t.ancestors id = id :: p :: t.ancestors p
  rw [ancestors_of_parent? h]

theorem lineage_of_parent?_none {id : NodeId} (h : t.parent? id = none) :
    t.lineage id = [id] := by
  show id :: t.ancestors id = [id]
  rw [ancestors_of_parent?_none h]

/-- The nodes that dominate a node are the node and its ancestors. -/
theorem mem_lineage_iff {top low : NodeId} : top ∈ t.lineage low ↔ t.Dominates top low := by
  -- The walk up the parents ends, so it is what the induction follows.
  induction low using Tree.ancestors.induct (t := t) with
  | case1 low h =>
    rw [lineage_of_parent?_none h, dominates_iff_parent?]
    simp [h]
  | case2 low p h ih =>
    rw [lineage_of_parent? h, dominates_iff_parent?, List.mem_cons, ih]
    simp [h]

/-- Of two nodes that dominate a third, one dominates the other. -/
theorem Dominates.total {a b low : NodeId} (ha : t.Dominates a low) (hb : t.Dominates b low) :
    t.Dominates a b ∨ t.Dominates b a := by
  have honly : Relator.RightUnique fun c p => t.parent? c = some p := by
    intro c p q hp hq
    exact Option.some.inj (hp.symm.trans hq)
  -- Read upwards, dominance follows a function, and such a path cannot fork.
  have hup : ∀ {top id : NodeId}, t.Dominates top id ↔
      Relation.ReflTransGen (fun c p => t.parent? c = some p) id top := by
    intro top id
    simp only [parent?_eq_some_iff]
    exact Relation.reflTransGen_swap.symm
  rw [hup] at ha hb
  rw [hup, hup]
  exact Relation.ReflTransGen.total_of_right_unique honly hb ha

theorem parent?_root : t.parent? t.root = none := by
  show t.parents[t.root]?.join = none
  rw [t.root_free]
  rfl

/-- Only the root dominates the root. -/
theorem eq_root_of_dominates {top : NodeId} (h : t.Dominates top t.root) : top = t.root := by
  rw [← mem_lineage_iff, lineage_of_parent?_none parent?_root] at h
  exact List.mem_singleton.mp h

/-- What dominates a node of the root's subtree lies in the root's subtree. -/
theorem dominates_root_of_dominates {id low : NodeId} (hroot : t.Dominates t.root low)
    (h : t.Dominates id low) : t.Dominates t.root id := by
  rcases hroot.total h with hdown | hup
  · exact hdown
  · rw [eq_root_of_dominates hup]
    exact Dominates.refl _

/-! ## Depth -/

theorem depth_of_parent? {id p : NodeId} (h : t.parent? id = some p) :
    t.depth id = t.depth p + 1 := by
  show (t.ancestors id).length = (t.ancestors p).length + 1
  rw [ancestors_of_parent? h, List.length_cons]

/-- Going down a subtree never decreases the depth. -/
theorem depth_le_of_dominates {top low : NodeId} (h : t.Dominates top low) :
    t.depth top ≤ t.depth low := by
  induction h with
  | refl => exact Nat.le_refl _
  | tail _ hchild ih =>
    have := depth_of_parent? (parent?_eq_some_iff.mpr hchild)
    omega

/-- The depth tells a node from the other nodes that dominate it. -/
theorem depth_lt_of_dominates {top low : NodeId} (h : t.Dominates top low) (hne : top ≠ low) :
    t.depth top < t.depth low := by
  rcases dominates_iff_parent?.mp h with rfl | ⟨p, hp, htop⟩
  · exact absurd rfl hne
  · have := depth_le_of_dominates htop
    have := depth_of_parent? hp
    omega

theorem not_dominates_of_mem_children {p c : NodeId} (h : c ∈ t.children p) :
    ¬ t.Dominates c p := by
  intro hup
  have := depth_of_parent? (parent?_eq_some_iff.mpr h)
  have := depth_le_of_dominates hup
  omega

/-- Two children of one node do not dominate a node together. -/
theorem eq_of_mem_children_of_dominates {p a b low : NodeId} (ha : a ∈ t.children p)
    (hb : b ∈ t.children p) (hla : t.Dominates a low) (hlb : t.Dominates b low) : a = b := by
  have hdepth : t.depth a = t.depth b := by
    rw [depth_of_parent? (parent?_eq_some_iff.mpr ha),
      depth_of_parent? (parent?_eq_some_iff.mpr hb)]
  by_cases hne : a = b
  · exact hne
  rcases hla.total hlb with hdown | hup
  · exact absurd hdepth (Nat.ne_of_lt (depth_lt_of_dominates hdown hne))
  · exact absurd hdepth.symm (Nat.ne_of_lt (depth_lt_of_dominates hup (Ne.symm hne)))

end Tree

end Remedy
