import Remedy.Syntax.Node

/-!
# How a node is laid out

`NodeKind.layout` describes the written form of a node as a list of pieces:
literal text, and places where a child's own form goes. The layout is
normalised. There are single spaces around binary operators, `, ` between list
items, and one statement per line inside a block.

An array creation is the one node that writes a child's parts itself. In
`new int[5][]` the element type of its array type comes first, then the sizes
that are given, then the bracket pairs that the array type has beyond them.

`filterMap_child?_layout` says that the pieces of a layout hold exactly the
children of the node, each once and in source order.
-/

namespace Remedy

/-- A part of a node's written form. -/
inductive Piece where
  /-- Text that is the same whatever the children are. -/
  | text (s : String)
  /-- The form of a child. -/
  | node (child : NodeId)
  /-- The form of a child, without the brackets if it is an array type. -/
  | elementType (child : NodeId)
  /-- The bracket pairs that an array type has beyond the `given` ones. -/
  | openPairs (type : NodeId) (given : Nat)

/-- The child whose form goes into the piece. -/
def Piece.child? : Piece → Option NodeId
  | text _ => none
  | node child => some child
  | elementType child => some child
  | openPairs _ _ => none

namespace Piece

/-- Children with a separator between them. -/
def separated (separator : String) (children : List NodeId) : List Piece :=
  (children.map node).intersperse (text separator)

/-- Children in parentheses, with commas between them. -/
def inParens (children : List NodeId) : List Piece :=
  text "(" :: separated ", " children ++ [text ")"]

/-- Each child followed by a line break. -/
def lines (children : List NodeId) : List Piece :=
  children.flatMap fun child => [node child, text "\n"]

/-- Each child in square brackets. -/
def bracketed (children : List NodeId) : List Piece :=
  children.flatMap fun child => [text "[", node child, text "]"]

/-- An optional child with text before it. -/
def after (lead : String) (child : Option NodeId) : List Piece :=
  child.toList.flatMap fun child => [text lead, node child]

/-- An optional child with text behind it. -/
def before (trail : String) (child : Option NodeId) : List Piece :=
  child.toList.flatMap fun child => [node child, text trail]

/-! ## The children in a group of pieces -/

theorem filterMap_child?_separated (separator : String) (children : List NodeId) :
    (separated separator children).filterMap child? = children := by
  unfold separated
  induction children with
  | nil => rfl
  | cons first rest ih =>
    cases rest with
    | nil => rfl
    | cons second rest =>
      simpa [List.intersperse, List.filterMap_cons, child?] using ih

theorem filterMap_child?_inParens (children : List NodeId) :
    (inParens children).filterMap child? = children := by
  simp [inParens, List.filterMap_cons, child?, filterMap_child?_separated]

theorem filterMap_child?_lines (children : List NodeId) :
    (lines children).filterMap child? = children := by
  induction children with
  | nil => rfl
  | cons first rest ih => simpa [lines, List.filterMap_cons, child?] using ih

theorem filterMap_child?_bracketed (children : List NodeId) :
    (bracketed children).filterMap child? = children := by
  induction children with
  | nil => rfl
  | cons first rest ih => simpa [bracketed, List.filterMap_cons, child?] using ih

theorem filterMap_child?_after (lead : String) (child : Option NodeId) :
    (after lead child).filterMap child? = child.toList := by
  cases child <;> rfl

theorem filterMap_child?_before (trail : String) (child : Option NodeId) :
    (before trail child).filterMap child? = child.toList := by
  cases child <;> rfl

end Piece

open Piece in
/-- The written form of a node. -/
def NodeKind.layout : NodeKind → List Piece
  | compilationUnit types => separated "\n\n" types
  | classDecl name members =>
      text "class " :: node name :: text " \x7b\n" :: lines members ++ [text "\x7d"]
  | fieldDecl type declarators =>
      node type :: text " " :: separated ", " declarators ++ [text ";"]
  | methodDecl name returnType parameters body _ =>
      before " " returnType ++ node name :: inParens parameters
        ++ match body with
          | some body => [text " ", node body]
          | none => [text ";"]
  | parameter type name => [node type, text " ", node name]
  | declarator name initial _ => node name :: after " = " initial
  | block statements => text "\x7b\n" :: lines statements ++ [text "\x7d"]
  | localDecl type declarators =>
      node type :: text " " :: separated ", " declarators ++ [text ";"]
  | exprStmt expression => [node expression, text ";"]
  | returnStmt expression => text "return" :: after " " expression ++ [text ";"]
  | ifStmt condition thenBranch elseBranch =>
      text "if (" :: node condition :: text ") " :: node thenBranch :: after " else " elseBranch
  | primitiveType keyword => [text keyword]
  | namedType name => [node name]
  | arrayType element dimensions => [node element, text (bracketPairs dimensions)]
  | simpleName identifier => [text identifier]
  | qualifiedName qualifier name => [node qualifier, text ".", node name]
  | numberLit token => [text token]
  | stringLit literal => [text literal]
  | charLit literal => [text literal]
  | boolLit value => [text (if value then "true" else "false")]
  | nullLit => [text "null"]
  | call receiver name arguments _ => before "." receiver ++ node name :: inParens arguments
  | newObject type arguments => text "new " :: node type :: inParens arguments
  | newArray type sizes initial =>
      text "new " :: elementType type :: bracketed sizes
        ++ openPairs type sizes.length :: after " " initial
  | arrayLit elements => text "\x7b" :: separated ", " elements ++ [text "\x7d"]
  | arrayAccess array index => [node array, text "[", node index, text "]"]
  | assign target value => [node target, text " = ", node value]
  | prefixed operator operand => [text operator.symbol, node operand]
  | postfixed operator operand => [node operand, text operator.symbol]
  | binary operator left right => [node left, text (" " ++ operator.symbol ++ " "), node right]
  | conditional condition thenValue elseValue =>
      [node condition, text " ? ", node thenValue, text " : ", node elseValue]
  | instanceTest expression type => [node expression, text " instanceof ", node type]
  | cast type expression => [text "(", node type, text ") ", node expression]
  | parenthesized expression => [text "(", node expression, text ")"]

/-- A layout holds exactly the children, each once and in source order. -/
theorem filterMap_child?_layout (kind : NodeKind) :
    kind.layout.filterMap Piece.child? = kind.children := by
  cases kind with
  | methodDecl name returnType parameters body binding =>
    cases body <;>
      simp [NodeKind.layout, NodeKind.children, List.filterMap_cons, Piece.child?,
        Piece.filterMap_child?_before, Piece.filterMap_child?_inParens]
  | _ =>
    simp [NodeKind.layout, NodeKind.children, List.filterMap_cons, Piece.child?,
      Piece.filterMap_child?_before, Piece.filterMap_child?_after,
      Piece.filterMap_child?_inParens, Piece.filterMap_child?_separated,
      Piece.filterMap_child?_lines, Piece.filterMap_child?_bracketed]

/-- A child that a layout mentions is a child of the node. -/
theorem mem_children_of_mem_layout {kind : NodeKind} {piece : Piece} {child : NodeId}
    (hp : piece ∈ kind.layout) (hc : piece.child? = some child) : child ∈ kind.children := by
  rw [← filterMap_child?_layout]
  exact List.mem_filterMap.mpr ⟨piece, hp, hc⟩

end Remedy
