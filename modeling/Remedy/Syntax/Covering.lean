import Remedy.Syntax.Tree

/-!
# Finding a node by source range

A reported problem comes with a source range, and `Tree.covering` turns the
range into the node it belongs to. The search starts at the root and goes, as
long as it can, to the first child whose span covers the range. It never turns
back, so on overlapping siblings the first one wins. Each step goes to a
smaller id, which is why the descent ends.
-/

namespace Remedy

namespace Tree

/-- The node exists and its span covers `s`. -/
def covers (t : Tree) (id : NodeId) (s : Span) : Bool :=
  (t.node? id).any fun node => decide (node.span.Covers s)

/-- The first child of `id` whose span covers `s`. -/
def coveringChild? (t : Tree) (id : NodeId) (s : Span) : Option NodeId :=
  (t.children id).find? fun c => t.covers c s

theorem mem_children_of_coveringChild? {t : Tree} {id c : NodeId} {s : Span}
    (h : t.coveringChild? id s = some c) : c ∈ t.children id :=
  List.mem_of_find?_eq_some h

/-- The node at which the descent from `id` stops. -/
def descend (t : Tree) (s : Span) (id : NodeId) : NodeId :=
  match _h : t.coveringChild? id s with
  | none => id
  | some c => descend t s c
termination_by id
decreasing_by exact lt_of_mem_children (mem_children_of_coveringChild? _h)

/-- The node that a source range belongs to, if the root covers the range. -/
def covering (t : Tree) (s : Span) : Option NodeId :=
  if t.covers t.root s then some (t.descend s t.root) else none

/-! ## One step of the descent -/

theorem descend_of_none {t : Tree} {s : Span} {id : NodeId}
    (h : t.coveringChild? id s = none) : t.descend s id = id := by
  rw [descend]
  split <;> simp_all

theorem descend_of_some {t : Tree} {s : Span} {id c : NodeId}
    (h : t.coveringChild? id s = some c) : t.descend s id = t.descend s c := by
  rw [descend]
  split <;> simp_all

end Tree

end Remedy
