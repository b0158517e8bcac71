import Remedy.Span
import Remedy.Syntax.Operator
import Remedy.Syntax.Resolved

/-!
# Syntax nodes

Nodes live in one array and name each other by position, so a child is a
`NodeId` and not a nested value. The kinds cover what a learner's program in a
Java-like teaching language holds: class, field and method declarations, local
declarations, statements, and the expressions that a type checker reports on.

`NodeKind.children` fixes the source order in which a node lists its children.
Building a tree, walking it, searching it by position and rendering it all
follow that order.
-/

namespace Remedy

/-- The position of a node in its tree. An id means something only together
with the tree it belongs to. -/
abbrev NodeId := Nat

/-- The short form used in messages, such as `#7`. -/
def NodeId.label (id : NodeId) : String := "#" ++ toString id

/-- The long form, such as `NodeId(7)`. -/
def NodeId.longLabel (id : NodeId) : String := "NodeId(" ++ toString id ++ ")"

/-- What a node is, with its own text, operator and children. -/
inductive NodeKind where
  /-- A whole file. -/
  | compilationUnit (types : List NodeId)
  /-- A class with its members. -/
  | classDecl (name : NodeId) (members : List NodeId)
  /-- A field declaration with one or more declarators. -/
  | fieldDecl (type : NodeId) (declarators : List NodeId)
  /-- A method; a constructor has no return type, an abstract method no body. -/
  | methodDecl (name : NodeId) (returnType : Option NodeId) (parameters : List NodeId)
      (body : Option NodeId) (binding : Option ResolvedMethod)
  /-- A method parameter, `int count`. -/
  | parameter (type name : NodeId)
  /-- One variable of a declaration, `x = 5`, with the variable's declared type. -/
  | declarator (name : NodeId) (initial : Option NodeId) (binding : Option ResolvedType)
  /-- A braced sequence of statements. -/
  | block (statements : List NodeId)
  /-- A local declaration with one or more declarators. -/
  | localDecl (type : NodeId) (declarators : List NodeId)
  /-- An expression used as a statement. -/
  | exprStmt (expression : NodeId)
  /-- A return, with or without a value. -/
  | returnStmt (expression : Option NodeId)
  /-- A conditional statement. -/
  | ifStmt (condition thenBranch : NodeId) (elseBranch : Option NodeId)
  /-- A built-in type keyword. -/
  | primitiveType (keyword : String)
  /-- A type named by a class. -/
  | namedType (name : NodeId)
  /-- An array type with its number of bracket pairs. -/
  | arrayType (element : NodeId) (dimensions : Nat)
  /-- A single identifier. -/
  | simpleName (identifier : String)
  /-- A name after a dot. -/
  | qualifiedName (qualifier name : NodeId)
  /-- A number as written. -/
  | numberLit (token : String)
  /-- A string as written, quotes included. -/
  | stringLit (literal : String)
  /-- A character as written, quotes included. -/
  | charLit (literal : String)
  /-- `true` or `false`. -/
  | boolLit (value : Bool)
  /-- `null`. -/
  | nullLit
  /-- A method call, `receiver.name(arguments)`. -/
  | call (receiver : Option NodeId) (name : NodeId) (arguments : List NodeId)
      (binding : Option ResolvedMethod)
  /-- A constructor call, `new T(arguments)`. -/
  | newObject (type : NodeId) (arguments : List NodeId)
  /-- An array creation, `new int[5][]` or `new int[] {1, 2}`. -/
  | newArray (type : NodeId) (sizes : List NodeId) (initial : Option NodeId)
  /-- A braced list of array elements. -/
  | arrayLit (elements : List NodeId)
  /-- An array element, `array[index]`. -/
  | arrayAccess (array index : NodeId)
  /-- An assignment. -/
  | assign (target value : NodeId)
  /-- A unary expression with its operator in front. -/
  | prefixed (operator : PrefixOp) (operand : NodeId)
  /-- A unary expression with its operator behind. -/
  | postfixed (operator : PostfixOp) (operand : NodeId)
  /-- A binary expression. -/
  | binary (operator : BinaryOp) (left right : NodeId)
  /-- A conditional expression, `c ? a : b`. -/
  | conditional (condition thenValue elseValue : NodeId)
  /-- A run-time type test. -/
  | instanceTest (expression type : NodeId)
  /-- A cast, `(T) e`. -/
  | cast (type expression : NodeId)
  /-- An expression in parentheses. -/
  | parenthesized (expression : NodeId)
deriving DecidableEq

namespace NodeKind

/-- The direct children in source order. -/
def children : NodeKind → List NodeId
  | compilationUnit types => types
  | classDecl name members => name :: members
  | fieldDecl type declarators => type :: declarators
  | methodDecl name returnType parameters body _ =>
      returnType.toList ++ name :: (parameters ++ body.toList)
  | parameter type name => [type, name]
  | declarator name initial _ => name :: initial.toList
  | block statements => statements
  | localDecl type declarators => type :: declarators
  | exprStmt expression => [expression]
  | returnStmt expression => expression.toList
  | ifStmt condition thenBranch elseBranch => condition :: thenBranch :: elseBranch.toList
  | primitiveType _ => []
  | namedType name => [name]
  | arrayType element _ => [element]
  | simpleName _ => []
  | qualifiedName qualifier name => [qualifier, name]
  | numberLit _ => []
  | stringLit _ => []
  | charLit _ => []
  | boolLit _ => []
  | nullLit => []
  | call receiver name arguments _ => receiver.toList ++ name :: arguments
  | newObject type arguments => type :: arguments
  | newArray type sizes initial => type :: (sizes ++ initial.toList)
  | arrayLit elements => elements
  | arrayAccess array index => [array, index]
  | assign target value => [target, value]
  | prefixed _ operand => [operand]
  | postfixed _ operand => [operand]
  | binary _ left right => [left, right]
  | conditional condition thenValue elseValue => [condition, thenValue, elseValue]
  | instanceTest expression type => [expression, type]
  | cast type expression => [type, expression]
  | parenthesized expression => [expression]

/-- The node is an expression; names and literals count as expressions. -/
def isExpression : NodeKind → Bool
  | compilationUnit .. | classDecl .. | fieldDecl .. | methodDecl .. | parameter ..
  | declarator .. | block .. | localDecl .. | exprStmt .. | returnStmt .. | ifStmt ..
  | primitiveType .. | namedType .. | arrayType .. => false
  | _ => true

/-- The kind's name in messages. -/
def describe : NodeKind → String
  | compilationUnit .. => "compilation unit"
  | classDecl .. => "type declaration"
  | fieldDecl .. => "field declaration"
  | methodDecl .. => "method declaration"
  | parameter .. => "parameter"
  | declarator .. => "declaration fragment"
  | block .. => "block"
  | localDecl .. => "declaration statement"
  | exprStmt .. => "expression statement"
  | returnStmt .. => "return statement"
  | ifStmt .. => "if statement"
  | primitiveType .. => "primitive type"
  | namedType .. => "simple type"
  | arrayType .. => "array type"
  | simpleName .. => "simple name"
  | qualifiedName .. => "qualified name"
  | numberLit .. => "number literal"
  | stringLit .. => "string literal"
  | charLit .. => "character literal"
  | boolLit .. => "boolean literal"
  | nullLit => "null literal"
  | call .. => "method invocation"
  | newObject .. => "instance creation"
  | newArray .. => "array creation"
  | arrayLit .. => "array initializer"
  | arrayAccess .. => "array access"
  | assign .. => "assignment"
  | prefixed .. => "prefix expression"
  | postfixed .. => "postfix expression"
  | binary .. => "infix expression"
  | conditional .. => "conditional expression"
  | instanceTest .. => "instanceof expression"
  | cast .. => "cast expression"
  | parenthesized .. => "parenthesized expression"

end NodeKind

/-- A node: its kind, the source range it covers, and the type that the front
end resolved for it, if any. -/
structure Node where
  kind : NodeKind
  span : Span := Span.dummy
  resolved : Option ResolvedType := none
deriving DecidableEq

end Remedy
