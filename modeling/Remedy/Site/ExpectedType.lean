import Remedy.Site.Declaration
import Remedy.Site.Method

/-!
# The type expected of an unknown name

The front end has no type for a name that does not exist, but the expression
around it often implies one. The operand of `!` is a boolean, an array index is
an integer, and an argument has its parameter's type. The nearest enclosing node
that implies anything decides; where none does, the type is `Object`.
-/

namespace Remedy

/-- The type that is assumed where nothing better is known. -/
def fallbackType : String := "Object"

/-- The type expected of an operand whose expression has no resolved operand. -/
def BinaryOp.usualOperand (op : BinaryOp) : String :=
  if op.isLogical then "boolean" else if op.isNumeric then "int" else "boolean"

namespace Tree

/-- The type of the parameter that the call at a node binds to its first
argument written as `missing`. -/
def parameterFor? (t : Tree) (id : NodeId) (missing : String) : Option ResolvedType := do
  let call ← t.call? id
  let position ← call.arguments.findIdx? fun argument => t.render argument == missing
  let binding ← call.binding
  binding.parameters[position]?

/-- The type that a node implies for the unknown name `missing` below it, if
nodes of its kind imply any. -/
def typeImpliedBy? (t : Tree) (missing : String) (id : NodeId) : Option String :=
  match t.kind? id with
  | some (.prefixed .not _) => some "boolean"
  | some (.prefixed _ _) => some "int"
  | some (.binary op left right) =>
      some (((t.type? left).or (t.type? right)).elim op.usualOperand ResolvedType.name)
  | some (.postfixed _ _) => some "int"
  | some (.newArray _ _ _) => some "int"
  | some (.arrayAccess _ _) => some "int"
  | some (.conditional _ _ _) => some "boolean"
  | some (.instanceTest _ _) => some fallbackType
  | some (.declarator _ _ _) =>
      some (((t.declarator? id).bind Declarator.type?).elim fallbackType ResolvedType.name)
  | some (.arrayLit _) => some ((t.type? id).elim fallbackType ResolvedType.element)
  | some (.cast type _) => some (t.render type)
  | some (.call _ _ _ _) => some ((t.parameterFor? id missing).elim fallbackType ResolvedType.name)
  | some (.assign _ _) => some ((t.type? id).elim fallbackType ResolvedType.name)
  | _ => none

/-- The type that the code around a node implies for the unknown name
`missing`. The name may still be qualified. -/
def expectedType (t : Tree) (id : NodeId) (missing : String) : String :=
  ((t.ancestors id).findSome? (t.typeImpliedBy? missing)).getD fallbackType

end Tree

end Remedy
