import Remedy.Span

/-!
# Diagnostics

A diagnostic is a problem as the front end reports it: its kind, the arguments
that the kind calls for, and the source range it was found at. Some kinds have
neither hints nor a reference link. They are listed all the same, since they
are reported.
-/

namespace Remedy

/-- The kinds of problems that the front end reports. -/
inductive Diagnostic.Kind where
  /-- An array creation with neither a size nor an initializer. -/
  | missingArrayDimension
  /-- An inner array size without the outer one. -/
  | illegalArrayDimension
  /-- An array creation with both a size and an initializer. -/
  | arrayDimensionWithInitializer
  /-- A call to a method that does not exist. -/
  | undefinedMethod
  /-- A call whose arguments do not fit the parameters. -/
  | parameterMismatch
  /-- A method with a result that can end without returning one. -/
  | missingReturn
  /-- An instance method called from a static method. -/
  | nonStaticFromStatic
  /-- A method called on a receiver whose type does not have it. -/
  | methodCallOnWrongType
  /-- A value of one type in a variable of another. -/
  | typeMismatch
  /-- A class that does not exist. -/
  | undefinedType
  /-- A variable that does not exist. -/
  | undefinedVariable
  /-- A local variable read before it is assigned. -/
  | uninitializedVariable
  /-- A malformed array variable declaration. -/
  | incorrectVariableDeclaration
  /-- A token that the parser did not expect. -/
  | unexpectedToken
  /-- A malformed list of declared variables. -/
  | variableDeclarators
  /-- A statement that can never run. -/
  | unreachableCode
  /-- A variable declared twice in one scope. -/
  | duplicateVariable
  /-- A checked exception neither caught nor declared. -/
  | unhandledException
deriving DecidableEq

namespace Diagnostic.Kind

/-- Every kind, in the order in which they are declared. -/
def all : List Diagnostic.Kind :=
  [missingArrayDimension, illegalArrayDimension, arrayDimensionWithInitializer,
    undefinedMethod, parameterMismatch, missingReturn, nonStaticFromStatic,
    methodCallOnWrongType, typeMismatch, undefinedType, undefinedVariable,
    uninitializedVariable, incorrectVariableDeclaration, unexpectedToken,
    variableDeclarators, unreachableCode, duplicateVariable, unhandledException]

theorem mem_all (kind : Diagnostic.Kind) : kind ∈ all := by
  cases kind <;> decide

/-- The kind's name in running text, in lower case with hyphens. -/
def slug : Diagnostic.Kind → String
  | missingArrayDimension => "missing-array-dimension"
  | illegalArrayDimension => "illegal-array-dimension"
  | arrayDimensionWithInitializer => "array-dimension-with-initializer"
  | undefinedMethod => "undefined-method"
  | parameterMismatch => "parameter-mismatch"
  | missingReturn => "missing-return"
  | nonStaticFromStatic => "non-static-from-static"
  | methodCallOnWrongType => "method-call-on-wrong-type"
  | typeMismatch => "type-mismatch"
  | undefinedType => "undefined-type"
  | undefinedVariable => "undefined-variable"
  | uninitializedVariable => "uninitialized-variable"
  | incorrectVariableDeclaration => "incorrect-variable-declaration"
  | unexpectedToken => "unexpected-token"
  | variableDeclarators => "variable-declarators"
  | unreachableCode => "unreachable-code"
  | duplicateVariable => "duplicate-variable"
  | unhandledException => "unhandled-exception"

/-- The kind's name as one word, each part with a capital letter. -/
def title : Diagnostic.Kind → String
  | missingArrayDimension => "MissingArrayDimension"
  | illegalArrayDimension => "IllegalArrayDimension"
  | arrayDimensionWithInitializer => "ArrayDimensionWithInitializer"
  | undefinedMethod => "UndefinedMethod"
  | parameterMismatch => "ParameterMismatch"
  | missingReturn => "MissingReturn"
  | nonStaticFromStatic => "NonStaticFromStatic"
  | methodCallOnWrongType => "MethodCallOnWrongType"
  | typeMismatch => "TypeMismatch"
  | undefinedType => "UndefinedType"
  | undefinedVariable => "UndefinedVariable"
  | uninitializedVariable => "UninitializedVariable"
  | incorrectVariableDeclaration => "IncorrectVariableDeclaration"
  | unexpectedToken => "UnexpectedToken"
  | variableDeclarators => "VariableDeclarators"
  | unreachableCode => "UnreachableCode"
  | duplicateVariable => "DuplicateVariable"
  | unhandledException => "UnhandledException"

/-- The kind with the given title. -/
def ofTitle? (title : String) : Option Diagnostic.Kind := all.find? fun kind => kind.title == title

end Diagnostic.Kind

/-- A reported problem. -/
structure Diagnostic where
  kind : Diagnostic.Kind
  /-- What the kind calls for, such as the two types of a type mismatch. -/
  arguments : List String := []
  span : Span
deriving DecidableEq

namespace Diagnostic

/-- Add an argument behind the others. -/
def withArgument (d : Diagnostic) (argument : String) : Diagnostic :=
  { d with arguments := d.arguments ++ [argument] }

/-- The argument at a position. -/
def argument? (d : Diagnostic) (index : Nat) : Option String := d.arguments[index]?

end Diagnostic

end Remedy
