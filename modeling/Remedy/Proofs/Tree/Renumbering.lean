import Mathlib.Data.Set.Card
import Mathlib.GroupTheory.Perm.Basic
import Mathlib.Order.Interval.Finset.Nat
import Remedy.Proofs.Syntax.Relabelling
import Remedy.Proofs.Tree.Ancestry
import Remedy.Syntax.Covering
import Remedy.Syntax.Render

/-!
# Renumbered trees

The same program can be stored under many numberings of its nodes: all that a
tree asks for is that children come before parents. A `Tree.Renumbering` relates
two such trees by a permutation of the ids.

The permutation acts on every id and not on the ids of nodes alone. Ids outside
the first tree go to ids outside the second one, so each query below has an
equation without side conditions. `Tree.exists_renumbering` gets such a
permutation from a bijection between the nodes.
-/

namespace Remedy

/-- The node with `f` applied to every child id. -/
def Node.relabel (f : NodeId → NodeId) (node : Node) : Node :=
  { node with kind := node.kind.relabel f }

namespace Tree

/-- The tree `u` is the tree `t` under other ids. -/
structure Renumbering (t u : Tree) where
  /-- The new ids. -/
  new : Equiv.Perm NodeId
  root : u.root = new t.root
  node? : ∀ id, u.node? (new id) = (t.node? id).map (Node.relabel new)

theorem node?_eq_none_of_le {t : Tree} {id : Nat} (h : t.size ≤ id) : t.node? id = none :=
  Array.getElem?_eq_none h

/-- A bijection between the nodes of two trees that keeps the root and what the
nodes hold extends to a renumbering. -/
theorem exists_renumbering {t u : Tree} {f : NodeId → NodeId}
    (hf : Set.BijOn f (Set.Iio t.size) (Set.Iio u.size)) (hroot : f t.root = u.root)
    (hnode : ∀ id < t.size, u.node? (f id) = (t.node? id).map (Node.relabel f)) :
    ∃ r : Renumbering t u, ∀ id < t.size, r.new id = f id := by
  have hsize : u.size = t.size := by
    have := hf.ncard_eq
    simpa [Set.ncard_eq_toFinset_card'] using this.symm
  rw [hsize] at hf
  -- Outside the trees the ids stay as they are.
  have hin : ∀ id < t.size, Equiv.Perm.ofSubtype (hf.equiv f) id = f id :=
    fun id hid => Equiv.Perm.ofSubtype_apply_of_mem (hf.equiv f) hid
  have hout : ∀ id, ¬ id < t.size → Equiv.Perm.ofSubtype (hf.equiv f) id = id :=
    fun id hid => Equiv.Perm.ofSubtype_apply_of_not_mem (hf.equiv f) hid
  refine ⟨⟨Equiv.Perm.ofSubtype (hf.equiv f), ?_, fun id => ?_⟩, hin⟩
  · rw [hin _ t.root_lt, hroot]
  · by_cases hid : id < t.size
    · rw [hin id hid, hnode id hid]
      refine Option.map_congr fun node hn => ?_
      have hkind : node.kind.relabel f = node.kind.relabel (Equiv.Perm.ofSubtype (hf.equiv f)) := by
        refine NodeKind.relabel_congr fun c hc => (hin c ?_).symm
        exact lt_size_of_mem_children (mem_childrenAt.mpr ⟨node, hn, hc⟩)
      rw [Node.relabel, hkind, Node.relabel]
    · rw [hout id hid, node?_eq_none_of_le (Nat.le_of_not_lt hid),
        node?_eq_none_of_le (hsize ▸ Nat.le_of_not_lt hid)]
      rfl

namespace Renumbering

variable {t u : Tree} (r : Renumbering t u)

/-! ## Nodes and their neighbours -/

theorem kind? (id : NodeId) : u.kind? (r.new id) = (t.kind? id).map (NodeKind.relabel r.new) := by
  simp only [Tree.kind?, r.node?, Option.map_map]
  rfl

theorem type? (id : NodeId) : u.type? (r.new id) = t.type? id := by
  simp only [Tree.type?, r.node?, Option.bind_map]
  rfl

theorem children (id : NodeId) : u.children (r.new id) = (t.children id).map r.new := by
  show childrenAt u.nodes (r.new id) = (childrenAt t.nodes id).map r.new
  have hnode : u.nodes[r.new id]? = (t.nodes[id]?).map (Node.relabel r.new) := r.node? id
  rw [childrenAt, hnode, childrenAt]
  cases t.nodes[id]? with
  | none => rfl
  | some node => exact node.kind.children_relabel r.new

theorem parent? (id : NodeId) : u.parent? (r.new id) = (t.parent? id).map r.new := by
  refine Option.ext fun q => ?_
  -- Every id is a new id of some node, a parent in the second tree as well.
  obtain ⟨p, rfl⟩ := r.new.surjective q
  rw [parent?_eq_some_iff, r.children, List.mem_map_of_injective r.new.injective,
    ← parent?_eq_some_iff, Option.map_eq_some_iff]
  constructor
  · exact fun h => ⟨p, h, rfl⟩
  · rintro ⟨p', h, hp⟩
    rwa [← r.new.injective hp]

theorem identifier? (id : NodeId) : u.identifier? (r.new id) = t.identifier? id := by
  rw [Tree.identifier?, Tree.identifier?, r.kind?]
  cases t.kind? id with
  | none => rfl
  | some kind => cases kind <;> rfl

/-! ## Walks to the root -/

theorem ancestors (id : NodeId) : u.ancestors (r.new id) = (t.ancestors id).map r.new := by
  -- The walk ends in the first tree, and the second one follows it.
  induction id using Tree.ancestors.induct (t := t) with
  | case1 id h =>
    have hu : u.parent? (r.new id) = none := by rw [r.parent?, h]; rfl
    rw [ancestors_of_parent?_none h, ancestors_of_parent?_none hu]
    rfl
  | case2 id p h ih =>
    have hu : u.parent? (r.new id) = some (r.new p) := by rw [r.parent?, h]; rfl
    rw [ancestors_of_parent? h, ancestors_of_parent? hu, ih]
    rfl

theorem lineage (id : NodeId) : u.lineage (r.new id) = (t.lineage id).map r.new := by
  rw [Tree.lineage, r.ancestors]
  rfl

theorem above (id : NodeId) (hops : Nat) :
    u.above (r.new id) hops = (t.above id hops).map r.new := by
  cases hops with
  | zero =>
    rw [Tree.above, Tree.above, r.node?, Option.map_map, Option.map_map]
    rfl
  | succ hops => rw [Tree.above, Tree.above, r.ancestors, List.getElem?_map]

/-! ## Rendering -/

theorem elementOf (type : NodeId) : u.elementOf (r.new type) = r.new (t.elementOf type) := by
  rw [Tree.elementOf, Tree.elementOf, r.kind?]
  cases t.kind? type with
  | none => rfl
  | some kind => cases kind <;> rfl

theorem dimensionsOf (type : NodeId) : u.dimensionsOf (r.new type) = t.dimensionsOf type := by
  rw [Tree.dimensionsOf, Tree.dimensionsOf, r.kind?]
  cases t.kind? type with
  | none => rfl
  | some kind => cases kind <;> rfl

theorem render (id : Nat) : u.render (r.new id) = t.render id := by
  refine render_relabelled ?_ r.elementOf r.dimensionsOf id
  intro id
  rw [r.kind?, Option.map_map]
  congr 1
  funext kind
  exact kind.layout_relabel r.new

/-! ## The search for a node by source range -/

variable (s : Span)

theorem covers (id : NodeId) : u.covers (r.new id) s = t.covers id s := by
  rw [Tree.covers, Tree.covers, r.node?, Option.any_map]
  rfl

theorem coveringChild? (id : NodeId) :
    u.coveringChild? (r.new id) s = (t.coveringChild? id s).map r.new := by
  rw [Tree.coveringChild?, Tree.coveringChild?, r.children, List.find?_map]
  congr 2
  funext c
  exact r.covers s c

theorem descend (id : NodeId) : u.descend s (r.new id) = r.new (t.descend s id) := by
  induction id using Tree.descend.induct (t := t) (s := s) with
  | case1 id h =>
    have hu : u.coveringChild? (r.new id) s = none := by rw [r.coveringChild?, h]; rfl
    rw [descend_of_none h, descend_of_none hu]
  | case2 id c h ih =>
    have hu : u.coveringChild? (r.new id) s = some (r.new c) := by rw [r.coveringChild?, h]; rfl
    rw [descend_of_some h, descend_of_some hu, ih]

/-- A source range belongs to corresponding nodes. -/
theorem covering : u.covering s = (t.covering s).map r.new := by
  rw [Tree.covering, Tree.covering, r.root, r.covers, r.descend]
  split <;> rfl

end Renumbering

end Tree

end Remedy
