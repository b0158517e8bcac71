import Remedy.Syntax.Tree
import Remedy.Syntax.Layout

/-!
# Rendering nodes as source text

Explanations quote the learner's own code, so every node can be written out as
text. `Tree.render` follows the node's layout and writes each child in its
place. The recursion goes to children only, whose ids are smaller.
`render_of_kind?` is the equation that later facts about rendering start from.
-/

namespace Remedy

namespace Tree

/-- The element type of an array type, and any other node itself. -/
def elementOf (t : Tree) (type : NodeId) : NodeId :=
  match t.kind? type with
  | some (.arrayType element _) => element
  | _ => type

/-- The number of bracket pairs of an array type, zero for any other node. -/
def dimensionsOf (t : Tree) (type : NodeId) : Nat :=
  match t.kind? type with
  | some (.arrayType _ dimensions) => dimensions
  | _ => 0

theorem elementOf_le (t : Tree) (type : Nat) : t.elementOf type ≤ type := by
  unfold elementOf
  split
  next element dimensions h =>
    have : element ∈ t.children type := by simp [children_of_kind? h, NodeKind.children]
    exact Nat.le_of_lt (lt_of_mem_children this)
  next => exact Nat.le_refl _

/-- The source text of a node and everything below it, empty for an id outside
the tree. -/
def render (t : Tree) (id : NodeId) : String :=
  match _hk : t.kind? id with
  | none => ""
  | some kind =>
      String.join <| kind.layout.attach.map fun ⟨piece, _hp⟩ =>
        match piece, _hp with
        | .text s, _ => s
        | .node child, _ => render t child
        | .elementType child, _ => render t (t.elementOf child)
        | .openPairs type given, _ => bracketPairs (t.dimensionsOf type - given)
termination_by id
decreasing_by
  all_goals
    rename_i hp
    have hlt := lt_of_mem_children
      ((children_of_kind? _hk).symm ▸ mem_children_of_mem_layout hp rfl)
  · exact hlt
  · exact Nat.lt_of_le_of_lt (elementOf_le t _) hlt

/-- The text of one piece of a layout. -/
def renderPiece (t : Tree) : Piece → String
  | .text s => s
  | .node child => t.render child
  | .elementType child => t.render (t.elementOf child)
  | .openPairs type given => bracketPairs (t.dimensionsOf type - given)

theorem render_of_kind? {t : Tree} {id : NodeId} {kind : NodeKind} (h : t.kind? id = some kind) :
    t.render id = String.join (kind.layout.map t.renderPiece) := by
  rw [render]
  split
  next hk => rw [hk] at h; cases h
  next kind' hk =>
    rw [hk] at h
    cases h
    congr 1
    refine Eq.trans ?_ List.attach_map_val
    apply List.map_congr_left
    rintro ⟨piece, hp⟩ -
    cases piece <;> rfl

theorem render_of_kind?_none {t : Tree} {id : NodeId} (h : t.kind? id = none) :
    t.render id = "" := by
  rw [render]
  split
  next => rfl
  next kind hk => rw [hk] at h; cases h

end Tree

end Remedy
