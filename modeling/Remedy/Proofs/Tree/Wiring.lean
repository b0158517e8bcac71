import Mathlib.Data.List.Nodup
import Remedy.Syntax.Draft

/-!
# When a draft is a tree

`Draft.toTree` checks and wires in one pass: each child reference is tested
against the table of parents that the references before it have written. The
results below say what the pass comes to as a whole. A draft is a tree exactly
when its nodes are `WellWired`, a condition on the child lists alone that
mentions neither a table nor an order of checks, and the parents of the tree
are then the ones that the child lists name.

The run of claims is described from both ends: `foldlM_claim_eq_ok` says what a
run that succeeds has found in the table and left in it, `foldlM_claim_of_free`
that a run over free, earlier and distinct children does succeed.
-/

namespace Remedy

namespace Draft

/-! ## Pushing a list of nodes -/

/-- The draft after pushing the nodes in order. -/
def ofNodes (nodes : List Node) : Draft := ((nodes.mapM push).run {}).2

/-- Pushing a list answers the next free ids in order and appends the nodes. -/
theorem run_mapM_push (nodes : List Node) (d : Draft) :
    (nodes.mapM push).run d =
      (List.range' d.nodes.size nodes.length, ⟨d.nodes ++ nodes.toArray⟩) := by
  induction nodes generalizing d with
  | nil =>
    show ([], d) = ([], Draft.mk (d.nodes ++ #[]))
    rw [Array.append_empty]
  | cons node rest ih =>
    have hpush : (push node).run d = (d.nodes.size, ⟨d.nodes.push node⟩) := rfl
    rw [List.mapM_cons, StateT.run_bind, hpush]
    show (rest.mapM push >>= fun ids => pure (d.nodes.size :: ids)).run ⟨d.nodes.push node⟩ = _
    rw [StateT.run_bind, ih]
    show (d.nodes.size :: List.range' (d.nodes.push node).size rest.length,
      Draft.mk (d.nodes.push node ++ rest.toArray)) = _
    simp [List.range'_succ]

@[simp] theorem ofNodes_nodes (nodes : List Node) : (ofNodes nodes).nodes = nodes.toArray := by
  rw [ofNodes, run_mapM_push]
  simp

/-! ## The run of claims -/

/-- Claims succeed on children that are free in the table, stand before their
parents and are referred to once. -/
theorem foldlM_claim_of_free {refs : List Reference} {parents : Array (Option NodeId)}
    (free : ∀ ref ∈ refs, parents[ref.child]? = some none ∧ ref.child < ref.parent)
    (distinct : (refs.map Reference.child).Nodup) :
    ∃ result, refs.foldlM claim parents = .ok result := by
  induction refs generalizing parents with
  | nil => exact ⟨parents, rfl⟩
  | cons ref rest ih =>
    rw [List.map_cons, List.nodup_cons] at distinct
    obtain ⟨hfree, hlt⟩ := free ref List.mem_cons_self
    have hclaim := claim_eq_ok_iff.mpr ⟨hfree, hlt, rfl⟩
    -- The entry that this claim writes is not one that a later reference needs.
    have hrest : ∀ r ∈ rest,
        (parents.setIfInBounds ref.child (some ref.parent))[r.child]? = some none ∧
          r.child < r.parent := by
      intro r hr
      have hne : ref.child ≠ r.child := fun he => distinct.1 (he ▸ List.mem_map_of_mem hr)
      rw [Array.getElem?_setIfInBounds, if_neg hne]
      exact free r (List.mem_cons_of_mem _ hr)
    obtain ⟨result, hresult⟩ := ih hrest distinct.2
    refine ⟨result, ?_⟩
    rw [List.foldlM_cons, hclaim]
    exact hresult

/-- The children in the order of the checks are the child lists in the order of
the nodes. -/
theorem map_child_references_eq_flatMap (nodes : Array Node) :
    (references nodes).map Reference.child =
      nodes.toList.flatMap fun node => node.kind.children := by
  rw [map_child_references, List.flatMap_def, List.flatMap_def]
  congr 1
  apply List.ext_getElem
  · simp
  · intro p hp _
    have hp : p < nodes.size := by simpa using hp
    simp [childrenAt, Array.getElem?_eq_getElem hp]

/-- The whole run succeeds exactly when every child stands before its parent
and no child is listed twice. -/
theorem exists_wire_eq_ok_iff {nodes : Array Node} :
    (∃ parents, wire nodes = .ok parents) ↔
      (∀ p c : Nat, c ∈ childrenAt nodes p → c < p) ∧
        (nodes.toList.flatMap fun node => node.kind.children).Nodup := by
  rw [← map_child_references_eq_flatMap]
  constructor
  · rintro ⟨parents, h⟩
    exact ⟨(wire_eq_ok h).2.1, (foldlM_claim_eq_ok h).2.2.1⟩
  · rintro ⟨earlier, distinct⟩
    apply foldlM_claim_of_free _ distinct
    intro ref href
    have hchild := mem_references.mp href
    have hlt := earlier _ _ hchild
    obtain ⟨node, hnode, _⟩ := mem_childrenAt.mp hchild
    obtain ⟨hparent, _⟩ := Array.getElem?_eq_some_iff.mp hnode
    refine ⟨?_, hlt⟩
    rw [Array.getElem?_replicate, if_pos (Nat.lt_trans hlt hparent)]

/-- A finished tree is the draft's nodes, the given root, and the table of a
successful run in which the root is free. -/
theorem toTree_eq_ok_iff {d : Draft} {root : NodeId} {t : Tree} :
    d.toTree root = .ok t ↔
      root < d.nodes.size ∧ wire d.nodes = .ok t.parents ∧ t.parents[root]? = some none ∧
        t.nodes = d.nodes ∧ t.root = root := by
  unfold toTree
  constructor
  · intro h
    split at h
    next hroot =>
      split at h
      next => cases h
      next parents hw =>
        dsimp only at h
        split at h
        next => cases h
        next hfree =>
          cases h
          have hin := (wire_eq_ok hw).1 ▸ hroot
          exact ⟨hroot, hw, Array.getElem?_eq_some_iff.mpr ⟨hin, hfree⟩, rfl, rfl⟩
    next => cases h
  · obtain ⟨nodes, parents, top⟩ := t
    obtain ⟨drafted⟩ := d
    rintro ⟨hroot, hw, hfree, rfl, rfl⟩
    rw [dif_pos hroot]
    split
    next fault hw' => rw [hw] at hw'; cases hw'
    next written hw' =>
      rw [hw] at hw'
      cases hw'
      dsimp only
      split
      next owner howner =>
        obtain ⟨_, hnone⟩ := Array.getElem?_eq_some_iff.mp hfree
        rw [hnone] at howner
        cases howner
      next => rfl

/-! ## Well-wired nodes -/

/-- What the child lists of pushed nodes have to satisfy for the nodes to form
a tree with the given root. -/
structure WellWired (nodes : List Node) (root : NodeId) : Prop where
  /-- The root has been pushed. -/
  root_lt : root < nodes.length
  /-- A child has been pushed before the node that lists it. -/
  child_lt : ∀ (p : Nat) (node : Node), nodes[p]? = some node →
    ∀ c ∈ node.kind.children, c < p
  /-- No id occurs twice over all child lists taken together. -/
  distinct : (nodes.flatMap fun node => node.kind.children).Nodup
  /-- The root occurs in no child list. -/
  root_free : ∀ node ∈ nodes, root ∉ node.kind.children

/-- A free root is one that the wired table gives no parent. -/
theorem getElem?_root_eq_none_iff {nodes : List Node} {parents : Array (Option NodeId)}
    {root : NodeId} (hw : wire nodes.toArray = .ok parents) (hroot : root < nodes.length) :
    parents[root]? = some none ↔ ∀ node ∈ nodes, root ∉ node.kind.children := by
  obtain ⟨hsize, _, _, hparents⟩ := wire_eq_ok hw
  -- The table has an entry for the root, so it is free or names a node that lists the root.
  constructor
  · intro hfree node hnode hmem
    obtain ⟨p, hp⟩ := List.mem_iff_getElem?.mp hnode
    have howned := (hparents root p).mpr (mem_childrenAt.mpr ⟨node, by simpa using hp, hmem⟩)
    rw [hfree] at howned
    cases howned
  · intro hfree
    have hin : root < parents.size := by simpa [hsize] using hroot
    rw [Array.getElem?_eq_getElem hin]
    cases howner : parents[root] with
    | none => rfl
    | some p =>
      have howned : parents[root]? = some (some p) :=
        Array.getElem?_eq_some_iff.mpr ⟨hin, howner⟩
      obtain ⟨node, hnode, hmem⟩ := mem_childrenAt.mp ((hparents root p).mp howned)
      have hnode : nodes[p]? = some node := by simpa using hnode
      exact absurd hmem (hfree node (List.mem_of_getElem? hnode))

theorem exists_toTree_ofNodes_iff {nodes : List Node} {root : NodeId} :
    (∃ t, (ofNodes nodes).toTree root = .ok t) ↔ WellWired nodes root := by
  constructor
  · rintro ⟨t, ht⟩
    obtain ⟨hroot, hw, hfree, _, _⟩ := toTree_eq_ok_iff.mp ht
    rw [ofNodes_nodes] at hroot hw
    have hroot : root < nodes.length := by simpa using hroot
    obtain ⟨hlt, hdistinct⟩ := exists_wire_eq_ok_iff.mp ⟨_, hw⟩
    refine ⟨hroot, ?_, by simpa using hdistinct, (getElem?_root_eq_none_iff hw hroot).mp hfree⟩
    intro p node hnode c hc
    exact hlt p c (mem_childrenAt.mpr ⟨node, by simpa using hnode, hc⟩)
  · intro wired
    have hlt : ∀ p c : Nat, c ∈ childrenAt nodes.toArray p → c < p := by
      intro p c hc
      obtain ⟨node, hnode, hmem⟩ := mem_childrenAt.mp hc
      exact wired.child_lt p node (by simpa using hnode) c hmem
    obtain ⟨parents, hw⟩ := exists_wire_eq_ok_iff.mpr ⟨hlt, by simpa using wired.distinct⟩
    obtain ⟨hsize, hchild, hnodup, hparents⟩ := wire_eq_ok hw
    have hfree := (getElem?_root_eq_none_iff hw wired.root_lt).mpr wired.root_free
    have hroot : root < nodes.toArray.size := by simpa using wired.root_lt
    refine ⟨⟨nodes.toArray, parents, root, hsize, hchild, hnodup, hparents, hroot, hfree⟩, ?_⟩
    rw [toTree_eq_ok_iff, ofNodes_nodes]
    exact ⟨hroot, hw, hfree, rfl, rfl⟩

/-- **Finishing a draft.** Pushed nodes form a tree exactly when they are well
wired. The tree then keeps every node as it was pushed, and the parent of a
node is the node that lists it; a node in no child list has none. -/
theorem toTree_ofNodes_iff_wellWired (nodes : List Node) (root : NodeId) :
    ((∃ t, (ofNodes nodes).toTree root = .ok t) ↔ WellWired nodes root) ∧
      ∀ t, (ofNodes nodes).toTree root = .ok t →
        t.root = root ∧
        (∀ id, t.node? id = nodes[id]?) ∧
        (∀ c p, t.parent? c = some p ↔
          ∃ node, nodes[p]? = some node ∧ c ∈ node.kind.children) ∧
        ∀ c, (∀ node ∈ nodes, c ∉ node.kind.children) → t.parent? c = none := by
  refine ⟨exists_toTree_ofNodes_iff, ?_⟩
  intro t ht
  obtain ⟨_, _, _, hnodes, hroot⟩ := toTree_eq_ok_iff.mp ht
  have hnode : ∀ id, t.node? id = nodes[id]? := by
    intro id
    show t.nodes[id]? = nodes[id]?
    rw [hnodes, ofNodes_nodes, List.getElem?_toArray]
  have hparent : ∀ c p, t.parent? c = some p ↔
      ∃ node, nodes[p]? = some node ∧ c ∈ node.kind.children := by
    intro c p
    rw [Tree.parent?_eq_some_iff, Tree.children, mem_childrenAt]
    simp only [← hnode, Tree.node?]
  refine ⟨hroot, hnode, hparent, ?_⟩
  intro c hunlisted
  cases hc : t.parent? c with
  | none => rfl
  | some p =>
    obtain ⟨node, hp, hmem⟩ := (hparent c p).mp hc
    exact absurd hmem (hunlisted node (List.mem_of_getElem? hp))

/-- A class name as a type is a tree of two nodes, the name below the type. -/
theorem toTree_ofNodes_namedType :
    ∃ t, (ofNodes [{ kind := .simpleName "Zorp" }, { kind := .namedType 0 }]).toTree 1 = .ok t ∧
      t.parent? 0 = some 1 ∧ t.parent? 1 = none := by
  obtain ⟨hiff, hok⟩ := toTree_ofNodes_iff_wellWired
    [{ kind := .simpleName "Zorp" }, { kind := .namedType 0 }] 1
  have hwired : WellWired [{ kind := .simpleName "Zorp" }, { kind := .namedType 0 }] 1 := by
    refine ⟨by decide, ?_, by decide, by decide⟩
    intro p node hnode c hc
    match p with
    | 0 => cases hnode; cases hc
    | 1 => cases hnode; simp_all [NodeKind.children]
    | p + 2 => cases hnode
  obtain ⟨t, ht⟩ := hiff.mpr hwired
  obtain ⟨_, _, hparent, hfree⟩ := hok t ht
  exact ⟨t, ht, (hparent 0 1).mpr ⟨_, rfl, by decide⟩, hfree 1 (by decide)⟩

/-- Every tree is finished from its own nodes, so the trees are exactly what
finishing a draft can give. -/
theorem toTree_nodes (t : Tree) : (Draft.mk t.nodes).toTree t.root = .ok t := by
  have hdistinct : ((List.range t.nodes.size).flatMap (childrenAt t.nodes)).Nodup := by
    -- A child of two nodes would have two entries in the one table of parents.
    rw [List.nodup_flatMap]
    refine ⟨fun p _ => t.children_nodup p, List.nodup_range.pairwise_of_forall_ne ?_⟩
    intro p _ q _ hne c hp hq
    have hsame := (t.parents_iff c p).mpr hp
    rw [(t.parents_iff c q).mpr hq] at hsame
    simp only [Option.some.injEq] at hsame
    exact hne hsame.symm
  rw [← map_child_references, map_child_references_eq_flatMap] at hdistinct
  obtain ⟨parents, hw⟩ := exists_wire_eq_ok_iff.mpr ⟨t.child_lt, hdistinct⟩
  obtain ⟨hsize, _, _, hparents⟩ := wire_eq_ok hw
  have hsame : parents = t.parents := by
    apply Array.ext (hsize.trans t.parents_size.symm)
    intro c hc hc'
    apply Option.ext
    intro p
    have hiff := (hparents c p).trans (t.parents_iff c p).symm
    rwa [Array.getElem?_eq_getElem hc, Array.getElem?_eq_getElem hc', Option.some.injEq,
      Option.some.injEq] at hiff
  rw [toTree_eq_ok_iff]
  exact ⟨t.root_lt, hsame ▸ hw, t.root_free, rfl, rfl⟩

end Draft

end Remedy
