import Remedy.Advice.Basic
import Remedy.Site.ExpectedType

/-!
# Advice on method calls

Calls to methods that do not exist, calls whose arguments do not fit, calls of
an instance method from a static one, and calls on a receiver that lacks the
method. The first two have hints as well as links.
-/

namespace Remedy

namespace MethodCall

/-! ## Calls to unknown methods -/

/-- A class with one method, whose body is left open. -/
def classWith (header : String) : String :=
  Snippet.braced "class YourClass" ("  " ++ header ++ " \x7b\n    ...\n  \x7d") ++ "\n"

/-- The four hints for a call to an unknown method, given a declaration of a
string and one of an object. -/
def unknownMethodHints (call : CallFacts) (stringDecl objectDecl : String) : List Hint :=
  let named := call.name ++ "()"
  let header := Snippet.methodHeader call.name "int" call.argumentTypes
  let callOnObject := objectDecl ++ "\nmyObject." ++ call.text ++ ";"
  let problem :=
    "You are trying to use a function, " ++ named ++ ", which the compiler does not recognize. "
      ++ "(\"Method\" and \"function\" are used interchangeably here.)"
  [{ problem
     suggestion :=
      "If you are trying to use an existing Java function, make sure you match the name of "
        ++ named ++ " with the function."
     bad := [stringDecl ++ "\nstr." ++ call.text ++ ";"]
     good := [stringDecl ++ "\nstr." ++ Snippet.application "correctName" call.arguments ++ ";"] },
   { problem
     suggestion :=
      "You may need to change the name of " ++ named ++ " to the method you created."
     bad := [call.text ++ ";"]
     good := [call.text ++ ";\n" ++ Snippet.braced header "  ..."] },
   { problem
     suggestion :=
      "You may need to create an object of a class and call the method " ++ named ++ " on it."
     bad := [classWith header ++ call.text ++ ";"]
     good := [classWith header ++ callOnObject] },
   { problem
     suggestion := "You may need to create the method " ++ named ++ " in a class."
     bad := ["class YourClass \x7b\n\x7d\n" ++ callOnObject]
     good := [classWith header ++ callOnObject] }]

/-! ## Calls with arguments that do not fit -/

/-- A call together with the method that it is bound to. -/
structure BoundCall where
  call : CallFacts
  binding : ResolvedMethod
deriving DecidableEq

namespace BoundCall

/-- The short names of the parameter types. -/
def requiredTypes (b : BoundCall) : List String := b.binding.parameters.map ResolvedType.shortName

/-- The method's name with its parameter types. -/
def signature (b : BoundCall) : String := Snippet.methodSignature b.call.name b.requiredTypes

/-- The method's header with the given parameter types. -/
def header (b : BoundCall) (parameterTypes : List String) : String :=
  Snippet.methodHeader b.call.name b.binding.returnType.shortName parameterTypes

/-- The call has as many arguments as the method has parameters. -/
def sameCount (b : BoundCall) : Bool := b.call.argumentTypes.length == b.binding.parameters.length

end BoundCall

/-- The call above the anchor with the method that it is bound to. -/
def boundCall (s : Site) : Except SiteError BoundCall := do
  let call ← s.call
  let binding ← require call.binding (.unresolved "method binding")
  return { call, binding }

/-- A method and a second one that makes a call. -/
def program (header call : String) : String :=
  Snippet.braced header "  ..." ++ "\n" ++ Snippet.braced "void setup()" ("  " ++ call ++ ";")
    ++ "\n"

/-- Two hints for a call with the wrong arguments: mend the call, as shown by
`mendedCall`, or mend the method. -/
def mendEither (b : BoundCall) (onCall onMethod mendedCall : String) : List Hint :=
  let problem :=
    "You are trying to use the method " ++ b.signature ++ " but with incorrect parameters."
  let bad := program (b.header b.requiredTypes) b.call.text
  [{ problem
     suggestion := onCall
     bad := [bad]
     good := [program (b.header b.requiredTypes) mendedCall] },
   { problem
     suggestion := onMethod
     bad := [bad]
     good := [program (b.header b.call.argumentTypes) b.call.text] }]

/-- The two hints about the types of the arguments. -/
def wrongTypesHints (b : BoundCall) (mendedCall : String) : List Hint :=
  mendEither b
    ("You might need to change a parameter of " ++ b.signature ++ " to the expected type.")
    ("You might need to change a parameter of " ++ b.signature
      ++ " in the method declaration to the expected type.")
    mendedCall

/-- The two hints about the number of arguments. -/
def wrongCountHints (b : BoundCall) (mendedCall : String) : List Hint :=
  mendEither b
    ("You may need to change the number of parameters to the expected amount when calling "
      ++ b.signature ++ ".")
    ("Change the number of parameters in the " ++ b.signature ++ " method declaration.")
    mendedCall

variable {σ : Type} [RandomSource σ]

/-- Explains a call to an unknown method. -/
def unknownMethod : Explainer σ :=
  .ofFacts .undefinedMethod Site.call fun call => do
    let stringDecl ← Demo.declare "String" "str"
    let objectDecl ← Demo.declare "YourClass" "myObject"
    return unknownMethodHints call stringDecl objectDecl

/-- Explains a call whose arguments do not fit. The hints on the number of
arguments are given only if the number is wrong. -/
def wrongArguments : Explainer σ :=
  .ofFacts .parameterMismatch boundCall fun b => do
    let mended ← Demo.call b.call.name b.requiredTypes
    if b.sameCount then return wrongTypesHints b mended
    let mendedCount ← Demo.call b.call.name b.requiredTypes
    return wrongTypesHints b mended ++ wrongCountHints b mendedCount

/-! ## Links -/

/-- Links a call to an unknown method. The type is the one that the call's
value is used as. -/
def unknownMethodLink : LinkMaker where
  kinds := [.undefinedMethod]
  query s := do
    let call ← s.call
    let id ← s.parent
    return ({ path := "methodnotfound" } : Query)
      |>.add "methodname" call.name
      |>.add "correctmethodname" "correctName"
      |>.add "typename" (shortTypeName (s.tree.expectedType id ""))
      |>.addList "providedparams" call.arguments
      |>.addList "providedtypes" call.argumentTypes

/-- Links a call whose arguments do not fit. -/
def wrongArgumentsLink : LinkMaker where
  kinds := [.parameterMismatch]
  query s := do
    let b ← boundCall s
    return ({ path := "parametermismatch" } : Query)
      |>.add "methodname" b.call.name
      |>.add "methodtypename" b.binding.returnType.shortName
      |>.addList "providedtypes" b.call.argumentTypes
      |>.addList "requiredtypes" b.requiredTypes

/-- Links a call of an instance method from a static one. The arguments of the
diagnostic are the instance method and the file. -/
def fromStaticLink : LinkMaker where
  kinds := [.nonStaticFromStatic]
  query s := do
    let method ← s.argument 0
    let file ← s.argument 1
    let caller ← s.methodAround
    return ({ path := "nonstaticfromstatic" } : Query)
      |>.add "methodname" method
      |>.add "staticmethodname" caller.name
      |>.add "filename" file

/-- Links a call on a receiver that lacks the method. The arguments of the
diagnostic are the receiver's type and the method. -/
def wrongReceiverLink : LinkMaker where
  kinds := [.methodCallOnWrongType]
  query s := do
    let type ← s.argument 0
    let method ← s.argument 1
    return ({ path := "methodcallonwrongtype" } : Query)
      |>.add "methodname" method
      |>.add "typename" (shortTypeName type)
      |>.add "varname" s.text

end MethodCall

end Remedy
