import Mathlib.Data.List.Chain
import Remedy.Proofs.Tree.Ancestry

/-!
# The way up a tree

`Tree.ancestors` follows the parent table. The results below compare it with the
child lists inside the node kinds: the ancestors of a node are the nodes from
which one or more steps into such a list lead to it. On the way up every node is
the parent of the one before, ids grow, and the way ends only at a node without
a parent. Inside the root's subtree that node is the root.
-/

namespace Remedy

namespace Tree

/-- One step down: the kind of `p` lists `c` among its children. -/
def StepsInto (t : Tree) (p c : NodeId) : Prop := ∃ kind, t.kind? p = some kind ∧ c ∈ kind.children

variable {t : Tree}

theorem stepsInto_iff_parent? {p c : NodeId} : t.StepsInto p c ↔ t.parent? c = some p := by
  rw [parent?_eq_some_iff]
  constructor
  · rintro ⟨kind, hkind, hc⟩
    rwa [children_of_kind? hkind]
  · intro hc
    obtain ⟨node, hnode, hmem⟩ := mem_childrenAt.mp hc
    exact ⟨node.kind, kind?_of_node? hnode, hmem⟩

theorem dominates_iff_stepsInto {top low : NodeId} :
    t.Dominates top low ↔ Relation.ReflTransGen t.StepsInto top low := by
  have hstep : (fun p c => c ∈ t.children p) = t.StepsInto := by
    funext p c
    rw [← parent?_eq_some_iff (t := t), ← stepsInto_iff_parent?]
  rw [Dominates, hstep]

/-! ## Members -/

/-- The ancestors are the nodes above, by one step or more. -/
theorem mem_ancestors_iff {x y : NodeId} :
    y ∈ t.ancestors x ↔ Relation.TransGen t.StepsInto y x := by
  -- The last step down is the one from the parent, which leads on to its lineage.
  rw [Relation.TransGen.tail'_iff]
  simp only [stepsInto_iff_parent?, ← dominates_iff_stepsInto, ← mem_lineage_iff]
  cases hparent : t.parent? x with
  | none => simp [ancestors_of_parent?_none hparent]
  | some p => simp [ancestors_of_parent? hparent, lineage]

/-! ## Order -/

/-- Each node of a lineage is the parent of the one before it. -/
theorem isChain_lineage (x : NodeId) :
    (t.lineage x).IsChain fun c p => t.parent? c = some p := by
  induction x using Tree.ancestors.induct (t := t) with
  | case1 x h =>
    rw [lineage_of_parent?_none h]
    exact List.isChain_singleton x
  | case2 x p h ih =>
    rw [lineage_of_parent? h]
    exact List.isChain_cons_cons.mpr ⟨h, ih⟩

/-- Ids grow on the way up. -/
theorem pairwise_lt_lineage (x : NodeId) : (t.lineage x).Pairwise (· < ·) :=
  ((isChain_lineage x).imp fun _ _ => lt_of_parent?).pairwise

/-! ## The end -/

theorem getLast?_lineage_of_parent? {x p : NodeId} (h : t.parent? x = some p) :
    (t.lineage x).getLast? = (t.lineage p).getLast? := by
  rw [lineage_of_parent? h]
  exact List.getLast?_cons_cons

/-- A lineage ends only where there is no parent. -/
theorem parent?_of_getLast?_lineage {x top : NodeId} (hlast : (t.lineage x).getLast? = some top) :
    t.parent? top = none := by
  induction x using Tree.ancestors.induct (t := t) with
  | case1 x h =>
    rw [lineage_of_parent?_none h] at hlast
    cases hlast
    exact h
  | case2 x p h ih =>
    rw [getLast?_lineage_of_parent? h] at hlast
    exact ih hlast

/-- The lineage of a node of the root's subtree ends at the root. -/
theorem getLast?_lineage_eq_root {x : NodeId} (hroot : t.Dominates t.root x) :
    (t.lineage x).getLast? = some t.root := by
  induction x using Tree.ancestors.induct (t := t) with
  | case1 x h =>
    rcases dominates_iff_parent?.mp hroot with rfl | ⟨p, hp, _⟩
    · rw [lineage_of_parent?_none h]
      rfl
    · rw [h] at hp
      cases hp
  | case2 x p h ih =>
    rw [getLast?_lineage_of_parent? h]
    rcases dominates_iff_parent?.mp hroot with rfl | ⟨q, hq, hbelow⟩
    · rw [parent?_root] at h
      cases h
    · rw [h] at hq
      cases hq
      exact ih hbelow

/-- **The way up.** For every node of a tree

* its ancestors are the nodes from which one or more steps into the child lists
  lead to it;
* ids grow from the node on, so no ancestor comes twice;
* every ancestor is the parent of the node before it;
* the last ancestor has no parent;
* that ancestor is the root if the node is in the root's subtree and not the
  root itself. -/
theorem ancestors_lead_to_top (t : Tree) (x : NodeId) :
    (∀ y, y ∈ t.ancestors x ↔ Relation.TransGen t.StepsInto y x) ∧
      (x :: t.ancestors x).Pairwise (· < ·) ∧
      ((x :: t.ancestors x).IsChain fun c p => t.parent? c = some p) ∧
      (∀ top, (t.ancestors x).getLast? = some top → t.parent? top = none) ∧
      (Relation.TransGen t.StepsInto t.root x → (t.ancestors x).getLast? = some t.root) := by
  refine ⟨fun y => mem_ancestors_iff, pairwise_lt_lineage x, isChain_lineage x, ?_, ?_⟩
  · intro top hlast
    cases hparent : t.parent? x with
    | none =>
      rw [ancestors_of_parent?_none hparent] at hlast
      cases hlast
    | some p =>
      rw [ancestors_of_parent? hparent] at hlast
      exact parent?_of_getLast?_lineage hlast
  · intro hbelow
    obtain ⟨p, hroot, hp⟩ := Relation.TransGen.tail'_iff.mp hbelow
    rw [ancestors_of_parent? (stepsInto_iff_parent?.mp hp)]
    exact getLast?_lineage_eq_root (dominates_iff_stepsInto.mpr hroot)

end Tree

end Remedy
