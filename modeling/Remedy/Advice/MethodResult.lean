import Remedy.Advice.Basic
import Remedy.Site.Method

/-!
# Advice on missing results

A method with a result that can end without returning one. The hints show a
`return` at the end of the method and one in every branch.
-/

namespace Remedy

namespace MethodResult

/-- The signature of the method above the anchor, refused if it has no result
to forget. The link does without this test. -/
def methodWithResult (s : Site) : Except SiteError MethodFacts := do
  let method ← s.method
  if method.returnType = "void" then throw (.absent "non-void return type")
  return method

/-- The demo code for a missing result. -/
structure Examples where
  /-- A declaration of the result. -/
  declaration : String
  /-- The condition of the branch. -/
  condition : String
  /-- The value returned from the branch. -/
  first : String
  /-- The value returned otherwise. -/
  second : String
deriving DecidableEq

/-- The two hints for a missing result. -/
def missingResultHints (method : MethodFacts) (e : Examples) : List Hint :=
  let signature := Snippet.methodSignature method.name method.parameterTypes
  let header := Snippet.methodHeader method.name method.returnType method.parameterTypes
  let problem :=
    "You did not return a value of type " ++ method.returnType
      ++ " like the definition of method " ++ signature ++ "."
  let branch := "  if (" ++ e.condition ++ ") \x7b\n    return " ++ e.first ++ ";\n  \x7d"
  [{ problem
     suggestion :=
      "You may have forgotten the return statement for the method " ++ signature ++ "."
     bad := [Snippet.braced header ("  " ++ e.declaration)]
     good := [Snippet.braced header ("  " ++ e.declaration ++ "\n  return result;")] },
   { problem
     suggestion :=
      "You may need to return a value of type " ++ method.returnType
        ++ " from every branch of the method " ++ signature ++ "."
     bad := [Snippet.braced header branch]
     good :=
      [Snippet.braced header
          (branch ++ " else \x7b\n    return " ++ e.second ++ ";\n  \x7d"),
        Snippet.braced header (branch ++ "\n  return " ++ e.second ++ ";")] }]

/-- Explains a missing result. -/
def missingResult {σ : Type} [RandomSource σ] : Explainer σ :=
  .ofFacts .missingReturn methodWithResult fun method => do
    let declaration ← Demo.declare method.returnType "result"
    let condition ← Demo.value "boolean"
    let first ← Demo.value method.returnType
    let second ← Demo.value method.returnType
    return missingResultHints method { declaration, condition, first, second }

/-- Links a missing result. -/
def missingResultLink : LinkMaker where
  kinds := [.missingReturn]
  query s := do
    let method ← s.method
    return ({ path := "returnmissing" } : Query)
      |>.add "methodname" method.name
      |>.add "typename" method.returnType
      |>.addList "requiredtypes" method.parameterTypes

end MethodResult

end Remedy
