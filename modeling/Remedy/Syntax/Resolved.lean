import Remedy.Text.Brackets

/-!
# Resolved types and methods

The front end resolves names before a problem is explained and attaches what
it found to the nodes. These records are taken as facts: nothing in this
library computes or widens a type.
-/

namespace Remedy

/-- A resolved type: the element type's name, possibly qualified, and the
number of array dimensions around it. -/
structure ResolvedType where
  element : String
  dimensions : Nat := 0
deriving DecidableEq

namespace ResolvedType

/-- The full name, one bracket pair per dimension. -/
def name (t : ResolvedType) : String := t.element ++ bracketPairs t.dimensions

/-- The type has at least one dimension. -/
def isArray (t : ResolvedType) : Bool := decide (0 < t.dimensions)

end ResolvedType

/-- A resolved method: its return type and the types of its parameters. -/
structure ResolvedMethod where
  returnType : ResolvedType
  parameters : List ResolvedType
deriving DecidableEq

end Remedy
