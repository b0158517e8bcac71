import Remedy.Advice.Basic
import Remedy.Site.Declaration
import Remedy.TypeName

/-!
# Advice on the types of variables

A value of one type in a variable of another, a variable of an unknown class,
and an array variable that is declared with its size. The first two have hints
as well as links.
-/

namespace Remedy

namespace VariableType

/-! ## Values of the wrong type -/

/-- A variable with the type of its value and the type it was declared with,
both short. -/
structure Mismatch where
  provided : String
  required : String
  variableName : String
deriving DecidableEq

/-- The mismatch at a site: the diagnostic's two arguments, and the variable
whose declarator is the anchor's parent. -/
def mismatch (s : Site) : Except SiteError Mismatch := do
  let provided ← s.argument 0
  let required ← s.argument 1
  let id ← s.parent
  let declared ← s.declaratorAt id
  return {
    provided := shortTypeName provided
    required := shortTypeName required
    variableName := declared.name }

namespace Mismatch

/-- The mismatch in words. -/
def problem (m : Mismatch) : String :=
  "You are trying to use the " ++ Snippet.variableDescription m.required ++ " " ++ m.variableName
    ++ " as a " ++ Snippet.variableDescription m.provided ++ "."

/-- The value is a float where an integer is declared. -/
def isFloatInInt (m : Mismatch) : Bool := m.provided == "float" && m.required == "int"

end Mismatch

/-- The hint to change the variable's type. -/
def retypeHint (m : Mismatch) (bad good : String) : Hint where
  problem := m.problem
  suggestion :=
    "You might need to change the variable declaration of " ++ m.variableName ++ " to type "
      ++ m.provided ++ "."
  bad := [bad]
  good := [good]

/-- The hint to change the variable's value. -/
def revalueHint (m : Mismatch) (bad good : String) : Hint where
  problem := m.problem
  suggestion :=
    "You might need to change the value of " ++ m.variableName ++ " to a " ++ m.required ++ "."
  bad := [bad]
  good := [good]

/-- A method that declares the variable and returns it. -/
def returningMethod (m : Mismatch) (type declaration : String) : String :=
  Snippet.braced (type ++ " doSomething()")
    ("  " ++ declaration ++ "\n  return " ++ m.variableName ++ ";")

/-- The hint to change the result type of the method that returns the
variable. -/
def returnTypeHint (m : Mismatch) (declaration : String) : Hint where
  problem := m.problem
  suggestion := "You might need to change the method's return type to " ++ m.provided ++ "."
  bad := [returningMethod m m.required declaration]
  good := [returningMethod m m.provided declaration]

/-- The hint on arithmetic that mixes an integer variable with a float. -/
def arithmeticHint (m : Mismatch) (badDecl goodDecl : String) : Hint :=
  let update := "\n" ++ m.variableName ++ " = " ++ m.variableName ++ " + 3.14;"
  { problem := m.problem
    suggestion :=
      "You may have used an int-type variable " ++ m.variableName
        ++ " in an operation involving the float type."
    bad := [badDecl ++ update]
    good := [goodDecl ++ update] }

variable {σ : Type} [RandomSource σ]

/-- The hints for a mismatch. Each one draws its own values. -/
def mismatchHints (m : Mismatch) : Draw σ (List Hint) := do
  let retypeBad ← Demo.declareAs m.required m.variableName m.provided
  let retypeGood ← Demo.declare m.provided m.variableName
  let revalueBad ← Demo.declareAs m.required m.variableName m.provided
  let revalueGood ← Demo.declare m.required m.variableName
  let returned ← Demo.declare m.provided m.variableName
  let hints :=
    [retypeHint m retypeBad retypeGood, revalueHint m revalueBad revalueGood,
      returnTypeHint m returned]
  if m.isFloatInInt then
    let badDecl ← Demo.declare m.required m.variableName
    let goodDecl ← Demo.declare m.provided m.variableName
    return hints ++ [arithmeticHint m badDecl goodDecl]
  return hints

/-- Explains a value of the wrong type. -/
def wrongValue : Explainer σ := .ofFacts .typeMismatch mismatch mismatchHints

/-! ## Variables of unknown classes -/

/-- A variable with the unknown class it was declared with. -/
structure UnknownClass where
  className : String
  variableName : String
deriving DecidableEq

/-- The unknown class at a site: the diagnostic's argument, and the variable that
the anchor belongs to. -/
def unknownClassFacts (s : Site) : Except SiteError UnknownClass := do
  let name ← s.argument 0
  let declared ← s.declarator
  return { className := shortTypeName name, variableName := declared.name }

/-- The four hints for an unknown class, given a declaration with that class and
one with a corrected name. -/
def unknownClassHints (u : UnknownClass) (declaration corrected : String) : List Hint :=
  let problem :=
    "You are trying to use a class, " ++ u.className
      ++ ", which the compiler does not recognize."
  [{ problem
     suggestion := "You may have misspelled the name of the class " ++ u.className ++ "."
     bad := [declaration]
     good := [corrected] },
   { problem
     suggestion := "You may need to import the library that contains " ++ u.className ++ "."
     bad := [declaration]
     good := ["import libraryname.*;\n\n" ++ declaration] },
   { problem
     suggestion :=
      "If " ++ u.className
        ++ " is defined in another file of your project, you may need to import it."
     bad := [declaration]
     good := ["import yourpackage." ++ u.className ++ ";\n\n" ++ declaration] },
   { problem
     suggestion := "You may need to create the class " ++ u.className ++ "."
     bad := [declaration]
     good := [Snippet.braced ("class " ++ u.className) "  ..." ++ "\n\n" ++ declaration] }]

/-- Explains a variable of an unknown class. -/
def unknownClass : Explainer σ :=
  .ofFacts .undefinedType unknownClassFacts fun u => do
    let declaration ← Demo.declare u.className u.variableName
    let corrected ← Demo.declare "CorrectName" u.variableName
    return unknownClassHints u declaration corrected

/-! ## Links -/

/-- Links a value of the wrong type. Where the anchor is no declarator's child,
its own text stands for the variable. -/
def wrongValueLink : LinkMaker where
  kinds := [.typeMismatch]
  query s := do
    let provided ← s.argument 0
    let required ← s.argument 1
    let declared := (s.tree.parent? s.anchor).bind s.tree.declarator?
    return ({ path := "typemismatch" } : Query)
      |>.add "typeonename" (shortTypeName provided)
      |>.add "typetwoname" (shortTypeName required)
      |>.add "varname" (declared.elim s.text Declarator.name)

/-- Links a variable of an unknown class. -/
def unknownClassLink : LinkMaker where
  kinds := [.undefinedType]
  query s := do
    let u ← unknownClassFacts s
    return ({ path := "typenotfound" } : Query)
      |>.add "classname" u.className
      |>.add "correctclassname" "CorrectName"
      |>.add "varname" u.variableName

/-- Links an array variable that is declared with its size. -/
def sizedVariableLink : LinkMaker where
  kinds := [.incorrectVariableDeclaration]
  query s := do
    let declared ← s.declarator
    let type ← require declared.type? (.unresolved "variable type")
    return ({ path := "incorrectvariabledeclaration" } : Query)
      |>.add "typename" (shortTypeName type.element)
      |>.add "foundname" declared.name

end VariableType

end Remedy
