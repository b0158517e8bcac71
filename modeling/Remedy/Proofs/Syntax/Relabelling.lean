import Remedy.Syntax.Render

/-!
# Relabelling the ids of a node

A node names its children by id. `NodeKind.relabel` replaces every such id and
keeps the constructor, the node's own text and operator, and the bindings. A
relabelled node lists and lays out the relabelled children at the same places,
so whatever depends on the places alone cannot see the ids.

Rendering is such a thing. `Tree.render_relabelled` goes through the recursion once for
all pairs of trees whose layouts correspond.
-/

namespace Remedy

/-- The node kind with `f` applied to every child id. -/
def NodeKind.relabel (f : NodeId → NodeId) : NodeKind → NodeKind
  | compilationUnit types => compilationUnit (types.map f)
  | classDecl name members => classDecl (f name) (members.map f)
  | fieldDecl type declarators => fieldDecl (f type) (declarators.map f)
  | methodDecl name returnType parameters body binding =>
      methodDecl (f name) (returnType.map f) (parameters.map f) (body.map f) binding
  | parameter type name => parameter (f type) (f name)
  | declarator name initial binding => declarator (f name) (initial.map f) binding
  | block statements => block (statements.map f)
  | localDecl type declarators => localDecl (f type) (declarators.map f)
  | exprStmt expression => exprStmt (f expression)
  | returnStmt expression => returnStmt (expression.map f)
  | ifStmt condition thenBranch elseBranch =>
      ifStmt (f condition) (f thenBranch) (elseBranch.map f)
  | primitiveType keyword => primitiveType keyword
  | namedType name => namedType (f name)
  | arrayType element dimensions => arrayType (f element) dimensions
  | simpleName identifier => simpleName identifier
  | qualifiedName qualifier name => qualifiedName (f qualifier) (f name)
  | numberLit token => numberLit token
  | stringLit literal => stringLit literal
  | charLit literal => charLit literal
  | boolLit value => boolLit value
  | nullLit => nullLit
  | call receiver name arguments binding =>
      call (receiver.map f) (f name) (arguments.map f) binding
  | newObject type arguments => newObject (f type) (arguments.map f)
  | newArray type sizes initial => newArray (f type) (sizes.map f) (initial.map f)
  | arrayLit elements => arrayLit (elements.map f)
  | arrayAccess array index => arrayAccess (f array) (f index)
  | assign target value => assign (f target) (f value)
  | prefixed operator operand => prefixed operator (f operand)
  | postfixed operator operand => postfixed operator (f operand)
  | binary operator left right => binary operator (f left) (f right)
  | conditional condition thenValue elseValue =>
      conditional (f condition) (f thenValue) (f elseValue)
  | instanceTest expression type => instanceTest (f expression) (f type)
  | cast type expression => cast (f type) (f expression)
  | parenthesized expression => parenthesized (f expression)

variable (f : NodeId → NodeId)

theorem NodeKind.children_relabel (kind : NodeKind) :
    (kind.relabel f).children = kind.children.map f := by
  cases kind <;> simp [relabel, children, Option.toList_map]

/-- Only the ids of children matter to a relabelling. -/
theorem NodeKind.relabel_congr {f g : NodeId → NodeId} {kind : NodeKind}
    (h : ∀ c ∈ kind.children, f c = g c) : kind.relabel f = kind.relabel g := by
  have hoption : ∀ o : Option NodeId, (∀ c, o = some c → f c = g c) → o.map f = o.map g :=
    fun _ => Option.map_congr
  cases kind <;> simp_all [relabel, children]

namespace Piece

/-- The piece with `f` applied to its child id. -/
def relabel (f : NodeId → NodeId) : Piece → Piece
  | text s => text s
  | node child => node (f child)
  | elementType child => elementType (f child)
  | openPairs type given => openPairs (f type) given

/-! ## Relabelling a group of pieces -/

theorem map_relabel_separated (separator : String) (children : List NodeId) :
    (separated separator children).map (relabel f) = separated separator (children.map f) := by
  simp only [separated, List.map_map]
  induction children with
  | nil => rfl
  | cons first rest ih =>
    cases rest with
    | nil => rfl
    | cons second rest => simpa [List.intersperse, relabel] using ih

theorem map_relabel_inParens (children : List NodeId) :
    (inParens children).map (relabel f) = inParens (children.map f) := by
  simp [inParens, map_relabel_separated, relabel]

theorem map_relabel_lines (children : List NodeId) :
    (lines children).map (relabel f) = lines (children.map f) := by
  simp [lines, List.map_flatMap, List.flatMap_map, relabel]

theorem map_relabel_bracketed (children : List NodeId) :
    (bracketed children).map (relabel f) = bracketed (children.map f) := by
  simp [bracketed, List.map_flatMap, List.flatMap_map, relabel]

theorem map_relabel_after (lead : String) (child : Option NodeId) :
    (after lead child).map (relabel f) = after lead (child.map f) := by
  cases child <;> rfl

theorem map_relabel_before (trail : String) (child : Option NodeId) :
    (before trail child).map (relabel f) = before trail (child.map f) := by
  cases child <;> rfl

end Piece

/-- The layout of a relabelled node is the relabelled layout. -/
theorem NodeKind.layout_relabel (kind : NodeKind) :
    (kind.relabel f).layout = kind.layout.map (Piece.relabel f) := by
  cases kind with
  | methodDecl name returnType parameters body binding =>
    cases body <;>
      simp [relabel, layout, Piece.relabel, Piece.map_relabel_before, Piece.map_relabel_inParens]
  | _ =>
    simp [relabel, layout, Piece.relabel, Piece.map_relabel_before, Piece.map_relabel_after,
      Piece.map_relabel_inParens, Piece.map_relabel_separated, Piece.map_relabel_lines,
      Piece.map_relabel_bracketed]

/-- Two trees whose nodes are laid out alike, up to the ids, are written alike. -/
theorem Tree.render_relabelled {t u : Tree} {f : NodeId → NodeId}
    (hlayout : ∀ id, (u.kind? (f id)).map NodeKind.layout =
      (t.kind? id).map fun kind => kind.layout.map (Piece.relabel f))
    (helement : ∀ type, u.elementOf (f type) = f (t.elementOf type))
    (hdimensions : ∀ type, u.dimensionsOf (f type) = t.dimensionsOf type) (id : Nat) :
    u.render (f id) = t.render id := by
  -- Children come first in either tree, and the ids of the first one are counted.
  induction id using Nat.strongRecOn with
  | ind id ih =>
    have hpieces := hlayout id
    cases hk : t.kind? id with
    | none =>
      rw [hk, Option.map_none, Option.map_eq_none_iff] at hpieces
      rw [render_of_kind?_none hk, render_of_kind?_none hpieces]
    | some kind =>
      rw [hk, Option.map_some, Option.map_eq_some_iff] at hpieces
      obtain ⟨other, hu, hpieces⟩ := hpieces
      rw [render_of_kind? hk, render_of_kind? hu, hpieces, List.map_map]
      congr 1
      refine List.map_congr_left fun piece hp => ?_
      have hlt : ∀ c : Nat, piece.child? = some c → c < id := fun c hc =>
        lt_of_mem_children (children_of_kind? hk ▸ mem_children_of_mem_layout hp hc)
      cases piece with
      | text s => rfl
      | node child => exact ih child (hlt child rfl)
      | elementType child =>
        show u.render (u.elementOf (f child)) = t.render (t.elementOf child)
        rw [helement]
        exact ih _ (Nat.lt_of_le_of_lt (elementOf_le t child) (hlt child rfl))
      | openPairs type given =>
        show bracketPairs (u.dimensionsOf (f type) - given) =
          bracketPairs (t.dimensionsOf type - given)
        rw [hdimensions]

end Remedy
