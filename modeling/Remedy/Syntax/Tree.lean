import Remedy.Syntax.Node

/-!
# Syntax trees

A `Tree` is an array of nodes with a parent table and a root, together with the
facts that make it a tree: children stand before their parents, no id is listed
twice, and the parent table says exactly which node lists which child. Trees
are read-only. The one way to build them from parts is `Draft.toTree`, which
checks those facts.

Every query answers for ids outside the tree as well: such an id has no kind,
no parent and no ancestors.
-/

namespace Remedy

/-- The children that position `p` of the array lists; none outside it. -/
def childrenAt (nodes : Array Node) (p : NodeId) : List NodeId :=
  (nodes[p]?.map fun node => node.kind.children).getD []

theorem mem_childrenAt {nodes : Array Node} {p c : NodeId} :
    c ∈ childrenAt nodes p ↔ ∃ node, nodes[p]? = some node ∧ c ∈ node.kind.children := by
  cases h : nodes[p]? <;> simp [childrenAt, h]

theorem childrenAt_of_getElem? {nodes : Array Node} {p : NodeId} {node : Node}
    (h : nodes[p]? = some node) : childrenAt nodes p = node.kind.children := by
  simp [childrenAt, h]

/-- A finished syntax tree. -/
structure Tree where
  nodes : Array Node
  /-- The parent of every node, by position. -/
  parents : Array (Option NodeId)
  root : NodeId
  /-- Every node has an entry in the parent table. -/
  parents_size : parents.size = nodes.size
  /-- Children stand before their parents, so no walk can run in a circle. -/
  child_lt : ∀ p c : Nat, c ∈ childrenAt nodes p → c < p
  /-- No node lists a child twice. -/
  children_nodup : ∀ p, (childrenAt nodes p).Nodup
  /-- The parent table holds `p` for `c` exactly when `p` lists `c`. -/
  parents_iff : ∀ c p, parents[c]? = some (some p) ↔ c ∈ childrenAt nodes p
  /-- The root is in the tree. -/
  root_lt : root < nodes.size
  /-- The root is nobody's child. -/
  root_free : parents[root]? = some none

namespace Tree

variable (t : Tree)

/-- The number of nodes. -/
def size : Nat := t.nodes.size

/-- The tree has no node; since a tree has a root, this never holds. -/
def isEmpty : Bool := t.nodes.isEmpty

/-- The node with the given id. -/
def node? (id : NodeId) : Option Node := t.nodes[id]?

/-- The kind of the node with the given id. -/
def kind? (id : NodeId) : Option NodeKind := (t.node? id).map Node.kind

/-- The children of a node, none for an id outside the tree. -/
def children (id : NodeId) : List NodeId := childrenAt t.nodes id

/-- The node that lists `id` among its children. -/
def parent? (id : NodeId) : Option NodeId := t.parents[id]?.join

/-- The type that the front end resolved for a node. -/
def type? (id : NodeId) : Option ResolvedType := (t.node? id).bind Node.resolved

/-- The identifier of a simple name. -/
def identifier? (id : NodeId) : Option String :=
  match t.kind? id with
  | some (.simpleName identifier) => some identifier
  | _ => none

/-! ## Parents and children -/

theorem node?_eq_some_lt {t : Tree} {id : Nat} {node : Node} (h : t.node? id = some node) :
    id < t.size := by
  obtain ⟨h, _⟩ := Array.getElem?_eq_some_iff.mp h
  exact h

theorem kind?_of_node? {t : Tree} {id : NodeId} {node : Node} (h : t.node? id = some node) :
    t.kind? id = some node.kind := by
  simp [kind?, h]

theorem children_of_kind? {t : Tree} {id : NodeId} {kind : NodeKind}
    (h : t.kind? id = some kind) : t.children id = kind.children := by
  simp only [kind?, node?, Option.map_eq_some_iff] at h
  obtain ⟨node, hn, rfl⟩ := h
  exact childrenAt_of_getElem? hn

theorem parent?_eq_some_iff {t : Tree} {c p : NodeId} :
    t.parent? c = some p ↔ c ∈ t.children p := by
  rw [children, ← t.parents_iff]
  cases h : t.parents[c]? <;> simp [parent?, h]

theorem lt_of_mem_children {t : Tree} {c p : Nat} (h : c ∈ t.children p) : c < p :=
  t.child_lt p c h

theorem lt_of_parent? {t : Tree} {c p : Nat} (h : t.parent? c = some p) : c < p :=
  lt_of_mem_children (parent?_eq_some_iff.mp h)

theorem parent?_lt_size {t : Tree} {c p : Nat} (h : t.parent? c = some p) : p < t.size := by
  obtain ⟨node, hn, _⟩ := mem_childrenAt.mp (parent?_eq_some_iff.mp h)
  exact node?_eq_some_lt hn

theorem parent_lt_size_of_mem_children {t : Tree} {c p : Nat} (h : c ∈ t.children p) :
    p < t.size :=
  parent?_lt_size (parent?_eq_some_iff.mpr h)

theorem lt_size_of_mem_children {t : Tree} {c p : Nat} (h : c ∈ t.children p) :
    c < t.size :=
  Nat.lt_trans (lt_of_mem_children h) (parent_lt_size_of_mem_children h)

/-! ## Ancestors -/

/-- The strict ancestors of a node, nearest first. Ids grow along the walk, so
it ends. -/
def ancestors (id : NodeId) : List NodeId :=
  match _h : t.parent? id with
  | none => []
  | some p => p :: ancestors p
termination_by t.size - id
decreasing_by
  have := lt_of_parent? _h
  have := parent?_lt_size _h
  omega

/-- A node and its ancestors, nearest first. -/
def lineage (id : NodeId) : List NodeId := id :: t.ancestors id

theorem ancestors_of_parent? {t : Tree} {id p : NodeId} (h : t.parent? id = some p) :
    t.ancestors id = p :: t.ancestors p := by
  rw [ancestors]
  split <;> simp_all

theorem ancestors_of_parent?_none {t : Tree} {id : NodeId} (h : t.parent? id = none) :
    t.ancestors id = [] := by
  rw [ancestors]
  split <;> simp_all

/-- The node `hops` parents above `id`. At no hops this is `id` itself, if it
is in the tree. -/
def above (id : NodeId) : Nat → Option NodeId
  | 0 => (t.node? id).map fun _ => id
  | hops + 1 => (t.ancestors id)[hops]?

end Tree

end Remedy
