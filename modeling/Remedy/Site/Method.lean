import Remedy.Site.Basic
import Remedy.Snippet
import Remedy.TypeName

/-!
# Calls and methods around an anchor

A problem with a call is reported at the method's name, and so is a problem
with a method's body. The call or the declaration is then the anchor's parent.
-/

namespace Remedy

/-- The parts of a call node whose method is named by a single identifier. -/
structure CallParts where
  name : String
  arguments : List NodeId
  binding : Option ResolvedMethod
deriving DecidableEq

/-- The parts of a method declaration that is named by a single identifier. -/
structure MethodParts where
  name : String
  returnType : Option NodeId
  parameters : List NodeId
  binding : Option ResolvedMethod
deriving DecidableEq

namespace Tree

/-- The call at a node. -/
def call? (t : Tree) (id : NodeId) : Option CallParts :=
  match t.kind? id with
  | some (.call _ name arguments binding) =>
      (t.identifier? name).map fun n => ⟨n, arguments, binding⟩
  | _ => none

/-- The method declaration at a node. -/
def method? (t : Tree) (id : NodeId) : Option MethodParts :=
  match t.kind? id with
  | some (.methodDecl name returnType parameters _ binding) =>
      (t.identifier? name).map fun n => ⟨n, returnType, parameters, binding⟩
  | _ => none

/-- The written type of a parameter. -/
def parameterType? (t : Tree) (id : NodeId) : Option String :=
  match t.kind? id with
  | some (.parameter type _) => some (t.render type)
  | _ => none

/-- The nearest method declaration at or above a node. -/
def methodAround? (t : Tree) (id : NodeId) : Option MethodParts :=
  (t.lineage id).findSome? t.method?

end Tree

/-- A call as the learner wrote it. -/
structure CallFacts where
  name : String
  /-- The source texts of the arguments. -/
  arguments : List String
  /-- The short names of the arguments' types. -/
  argumentTypes : List String
  binding : Option ResolvedMethod
deriving DecidableEq

namespace CallFacts

/-- The call without its receiver. -/
def text (c : CallFacts) : String := Snippet.application c.name c.arguments

end CallFacts

/-- A method's signature. -/
structure MethodFacts where
  name : String
  returnType : String
  parameterTypes : List String
deriving DecidableEq

namespace Site

/-- The call that has the anchor as a child; every argument needs a resolved
type. -/
def call (s : Site) : Except SiteError CallFacts := do
  let id ← s.parent
  let parts ← require (s.tree.call? id) (.wrongShape "method invocation" id)
  let argumentTypes ← parts.arguments.mapM fun argument =>
    require ((s.tree.type? argument).map ResolvedType.shortName) (.unresolved "argument type")
  return {
    name := parts.name
    arguments := parts.arguments.map s.tree.render
    argumentTypes := argumentTypes
    binding := parts.binding }

/-- The method declaration that has the anchor as a child. The types are those
of the binding if there is one, and otherwise as written. A constructor has no
return type and is refused. -/
def method (s : Site) : Except SiteError MethodFacts := do
  let id ← s.parent
  let parts ← require (s.tree.method? id) (.wrongShape "method declaration" id)
  let returnNode ← require parts.returnType (.absent "return type")
  match parts.binding with
  | some binding =>
      return {
        name := parts.name
        returnType := binding.returnType.shortName
        parameterTypes := binding.parameters.map ResolvedType.shortName }
  | none =>
      let parameterTypes ← parts.parameters.mapM fun parameter =>
        require (s.tree.parameterType? parameter) (.wrongShape "parameter" parameter)
      return {
        name := parts.name
        returnType := s.tree.render returnNode
        parameterTypes := parameterTypes }

/-- The method that the anchor lies in. -/
def methodAround (s : Site) : Except SiteError MethodParts :=
  require (s.tree.methodAround? s.anchor) (.absent "method declaration")

end Site

end Remedy
