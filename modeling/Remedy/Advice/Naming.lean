import Remedy.Advice.Basic
import Remedy.Site.ExpectedType
import Remedy.Text.Alphanumeric

/-!
# Links on names

Unknown variables, variables read before they are assigned, tokens where a type
was expected, and calls where a declaration was expected. These have no hints.
-/

namespace Remedy

namespace Naming

/-- Links an unknown variable, with the type that the code around it implies. -/
def unknownVariableLink : LinkMaker where
  kinds := [.undefinedVariable]
  query s := do
    let name ← s.argument 0
    return ({ path := "variablenotfound" } : Query)
      |>.add "classname" (shortTypeName (s.tree.expectedType s.anchor name))
      |>.add "varname" name

/-- The expression around a node: the one that a statement consists of, or the
node itself. -/
def expressionAt? (t : Tree) (id : NodeId) : Option NodeId :=
  match t.kind? id with
  | some (.exprStmt expression) => some expression
  | some kind => if kind.isExpression then some id else none
  | none => none

/-- Links a variable that is read before it is assigned, with the type of the
expression above the anchor. -/
def unassignedLink : LinkMaker where
  kinds := [.uninitializedVariable]
  query s := do
    let name ← s.argument 0
    let id ← s.parent
    let expression ← require (expressionAt? s.tree id) (.wrongShape "expression" id)
    let type ← require (s.tree.type? expression) (.unresolved "expression type")
    return ({ path := "variablenotinit" } : Query)
      |>.add "varname" name
      |>.add "typename" type.shortName

/-- The token is not empty and consists of identifier characters. -/
def isNameToken (token : String) : Bool :=
  !token.isEmpty && token.toList.all isIdentifierPart

/-- Links a token that stands where a type was expected. -/
def unexpectedTokenLink : LinkMaker where
  kinds := [.unexpectedToken]
  query s := do
    let token ← s.argument 0
    if isNameToken token then
      return ({ path := "unexpectedtoken" } : Query).add "typename" token
    throw (.absent "type name token")

/-- The anchor's text, or that of the qualified name it is a part of. -/
def qualifiedText (s : Site) : String :=
  match s.tree.parent? s.anchor with
  | none => s.text
  | some id =>
      match s.tree.kind? id with
      | some (.qualifiedName ..) => s.tree.render id
      | _ => s.text

/-- Links a call that stands where a declaration was expected. -/
def strayCallLink : LinkMaker where
  kinds := [.variableDeclarators]
  query s :=
    return ({ path := "syntaxerrorvariabledeclarators" } : Query).add "methodonename"
      (qualifiedText s)

end Naming

end Remedy
