import Remedy.Proofs.Syntax.Glue
import Remedy.Proofs.Tree.Ancestry

/-!
# Trees of the same syntax

The front end attaches to a tree what it has resolved: bindings of methods and variables,
types of expressions. A less able front end builds the same tree with less attached. Two
such trees have the `SameSyntax`, and whatever is read off the code alone is the same in
both: children and parents, identifiers, source texts, the written types of parameters.
-/

namespace Remedy

theorem NodeKind.children_unbound (kind : NodeKind) : kind.unbound.children = kind.children := by
  cases kind <;> rfl

theorem Piece.relabel_id : Piece.relabel id = id := by
  funext piece
  cases piece <;> rfl

/-- A reading of nodes that takes no notice of bindings is the same for two that differ in
nothing else. -/
theorem NodeKind.read_eq_of_unbound_eq {α : Type} {f : Option NodeKind → α}
    (kind kind' : Option NodeKind) (h : kind.map NodeKind.unbound = kind'.map NodeKind.unbound)
    (hf : ∀ kind : NodeKind, f (some kind.unbound) = f (some kind)) : f kind = f kind' := by
  have hany : ∀ kind : Option NodeKind, f (kind.map NodeKind.unbound) = f kind := by
    rintro (_ | kind)
    · rfl
    · exact hf kind
  rw [← hany, h, hany]

namespace Tree

/-- The kinds of the nodes without the bindings. -/
def syntaxNodes (t : Tree) : Array NodeKind := t.nodes.map fun node => node.kind.unbound

/-- The trees hold the same code, with whatever the front end attached to either. -/
def SameSyntax (t u : Tree) : Prop := t.syntaxNodes = u.syntaxNodes

instance (t u : Tree) : Decidable (t.SameSyntax u) :=
  inferInstanceAs (Decidable (_ = _))

variable {t u : Tree}

theorem getElem?_syntaxNodes (t : Tree) (id : NodeId) :
    t.syntaxNodes[id]? = (t.kind? id).map NodeKind.unbound := by
  rw [syntaxNodes, Array.getElem?_map, kind?, node?, Option.map_map]
  rfl

theorem SameSyntax.kind? (h : t.SameSyntax u) (id : NodeId) :
    (u.kind? id).map NodeKind.unbound = (t.kind? id).map NodeKind.unbound := by
  rw [← getElem?_syntaxNodes, ← getElem?_syntaxNodes, h]

/-! ## What the code alone decides -/

namespace SameSyntax

/-- A reading of nodes that takes no notice of bindings is the same in both trees. -/
theorem read_eq {α : Type} (h : t.SameSyntax u) {f : Option NodeKind → α}
    (hf : ∀ kind : NodeKind, f (some kind.unbound) = f (some kind)) (id : NodeId) :
    f (u.kind? id) = f (t.kind? id) :=
  NodeKind.read_eq_of_unbound_eq _ _ (h.kind? id) hf

theorem children (h : t.SameSyntax u) (id : NodeId) : u.children id = t.children id := by
  have hchildren : ∀ v : Tree, v.children id = ((v.kind? id).map NodeKind.children).getD [] := by
    intro v
    rw [Tree.kind?, Option.map_map]
    rfl
  rw [hchildren, hchildren]
  exact h.read_eq (f := fun kind => (kind.map NodeKind.children).getD [])
    NodeKind.children_unbound id

theorem parent? (h : t.SameSyntax u) (id : NodeId) : u.parent? id = t.parent? id := by
  refine Option.ext fun p => ?_
  rw [parent?_eq_some_iff, h.children, parent?_eq_some_iff]

theorem identifier? (h : t.SameSyntax u) (id : NodeId) : u.identifier? id = t.identifier? id := by
  have hkind := h.kind? id
  unfold Tree.identifier?
  generalize u.kind? id = kind at hkind ⊢
  generalize t.kind? id = kind' at hkind ⊢
  apply NodeKind.read_eq_of_unbound_eq kind kind' hkind
  intro kind
  cases kind <;> rfl

theorem elementOf (h : t.SameSyntax u) (type : NodeId) : u.elementOf type = t.elementOf type := by
  have hkind := h.kind? type
  unfold Tree.elementOf
  generalize u.kind? type = kind at hkind ⊢
  generalize t.kind? type = kind' at hkind ⊢
  apply NodeKind.read_eq_of_unbound_eq kind kind' hkind
  intro kind
  cases kind <;> rfl

theorem dimensionsOf (h : t.SameSyntax u) (type : NodeId) :
    u.dimensionsOf type = t.dimensionsOf type := by
  have hkind := h.kind? type
  unfold Tree.dimensionsOf
  generalize u.kind? type = kind at hkind ⊢
  generalize t.kind? type = kind' at hkind ⊢
  apply NodeKind.read_eq_of_unbound_eq kind kind' hkind
  intro kind
  cases kind <;> rfl

/-- The same code has the same source text. -/
theorem render (h : t.SameSyntax u) (id : NodeId) : u.render id = t.render id := by
  refine render_relabelled (f := fun id => id) ?_ h.elementOf h.dimensionsOf id
  intro id
  have hid : (fun kind : NodeKind => kind.layout.map (Piece.relabel fun id => id)) =
      NodeKind.layout := by
    funext kind
    exact (congrArg (List.map · kind.layout) Piece.relabel_id).trans (List.map_id _)
  rw [hid]
  exact h.read_eq (f := Option.map NodeKind.layout)
    (fun kind => congrArg some kind.layout_unbound) id

end SameSyntax

end Tree

end Remedy
