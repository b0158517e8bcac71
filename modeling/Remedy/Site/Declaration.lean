import Remedy.Site.Basic

/-!
# Declarations around an anchor

Which variable does a problem concern, and which array is being created? An
open search answers the first question from any node at or below a declaration.
Two closed shapes, in which every hop from the anchor is checked, answer the
second.
-/

namespace Remedy

/-- A variable of a declaration, with its declared type if it was resolved. -/
structure Declarator where
  name : String
  type? : Option ResolvedType
deriving DecidableEq

namespace Tree

/-- The declarator at a node, if the node is one and names its variable by a
single identifier. -/
def declarator? (t : Tree) (id : NodeId) : Option Declarator :=
  match t.kind? id with
  | some (.declarator name _ binding) => (t.identifier? name).map fun n => ⟨n, binding⟩
  | _ => none

/-- The element type of an array type. -/
def arrayElement? (t : Tree) (id : NodeId) : Option NodeId :=
  match t.kind? id with
  | some (.arrayType element _) => some element
  | _ => none

/-- The element type of the array that a node creates. -/
def createdElement? (t : Tree) (id : NodeId) : Option NodeId :=
  match t.kind? id with
  | some (.newArray type _ _) => some (t.elementOf type)
  | _ => none

/-- The declarator that a declaring node stands for. A declaration stands for
its first declarator, because all its variables share one type. -/
def declaredAt? (t : Tree) (id : NodeId) : Option (Option NodeId) :=
  match t.kind? id with
  | some (.declarator ..) => some (some id)
  | some (.fieldDecl _ declarators) => some declarators.head?
  | some (.localDecl _ declarators) => some declarators.head?
  | _ => none

/-- The variable that a node belongs to. The nearest declaring node at or above
it decides, even if it turns out to name no variable. -/
def declaratorAround? (t : Tree) (id : NodeId) : Option Declarator :=
  match (t.lineage id).findSome? t.declaredAt? with
  | some (some declarator) => t.declarator? declarator
  | _ => none

end Tree

/-- The element type and the name of an array variable. -/
structure ArrayVariable where
  elementType : String
  name : String
deriving DecidableEq

namespace Site

/-- The variable that the anchor belongs to. -/
def declarator (s : Site) : Except SiteError Declarator :=
  require (s.tree.declaratorAround? s.anchor) (.absent "variable declaration")

/-- The variable that a declarator node declares. -/
def declaratorAt (s : Site) (id : NodeId) : Except SiteError Declarator :=
  require (s.tree.declarator? id) (.wrongShape "variable declaration fragment" id)

/-- The element type of the array that a node creates. -/
def createdElementAt (s : Site) (id : NodeId) : Except SiteError NodeId :=
  require (s.tree.createdElement? id) (.wrongShape "array creation" id)

/-- The array variable in `T[] n = new T[];`, anchored at the second `T`. Above
the anchor stand its array type, the creation and the declarator. -/
def unsizedArray (s : Site) : Except SiteError ArrayVariable := do
  let type ← require (s.tree.above s.anchor 1) (.absent "array type")
  let _ ← require (s.tree.arrayElement? type) (.wrongShape "array type" type)
  let creation ← require (s.tree.above s.anchor 2) (.absent "array creation")
  let _ ← s.createdElementAt creation
  let declaration ← require (s.tree.above s.anchor 3) (.absent "variable declaration")
  let declared ← s.declaratorAt declaration
  return { elementType := s.text, name := declared.name }

/-- The array variable whose creation has the anchor as a child. Above the
anchor stand the creation and the declarator. -/
def createdArray (s : Site) : Except SiteError ArrayVariable := do
  let creation ← s.parent
  let element ← s.createdElementAt creation
  let declaration ← require (s.tree.parent? creation) (.absent "variable declaration")
  let declared ← s.declaratorAt declaration
  return { elementType := s.tree.render element, name := declared.name }

end Site

end Remedy
