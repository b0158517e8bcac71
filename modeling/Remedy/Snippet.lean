/-!
# Code snippets

Small pieces of example code and prose that several explanations share: method
signatures and headers, braced bodies, and the description of a variable.
-/

namespace Remedy

namespace Snippet

/-- Items in parentheses after a name, `name(a, b)`. -/
def application (name : String) (items : List String) : String :=
  name ++ "(" ++ String.intercalate ", " items ++ ")"

/-- A method's name with its parameter types, `name(A, B)`. -/
def methodSignature (name : String) (parameterTypes : List String) : String :=
  application name parameterTypes

/-- A method's header with numbered parameters, `R name(A param1, B param2)`. -/
def methodHeader (name returnType : String) (parameterTypes : List String) : String :=
  returnType ++ " " ++ application name
    ((parameterTypes.zipIdx 1).map fun (type, i) => type ++ " param" ++ toString i)

/-- A header and a body in braces. The body begins on a new line, and so does the
closing brace. -/
def braced (header body : String) : String := header ++ " \x7b\n" ++ body ++ "\n\x7d"

/-- The built-in types that are not classes. -/
def primitiveTypes : List String :=
  ["byte", "short", "int", "long", "float", "double", "boolean", "char"]

/-- A variable of the given type in prose. Built-in types and strings give a
"type variable", classes an "object". -/
def variableDescription (type : String) : String :=
  if type ∈ primitiveTypes ∨ type = "String" then type ++ "-type variable" else type ++ " object"

end Snippet

end Remedy
