import Remedy.Decimal.Rounding
import Remedy.Random.Draw
import Remedy.Snippet
import Remedy.Text.Brackets

/-!
# Demo values

Examples read better with concrete values than with placeholders, so
`int count = 42;` is shown and not `int count = value;`. `DemoForm.ofType` says
what a type name asks for, and `DemoForm.draw` takes as many random words as
that form needs. Only the four built-in forms draw at all: the text, arrays and
objects are the same at every showing.
-/

namespace Remedy

/-- The shapes of demo values. -/
inductive DemoForm where
  /-- A whole number of at most two digits. -/
  | whole
  /-- A number with two decimal places. -/
  | decimal
  /-- `true` or `false`. -/
  | truth
  /-- One letter. -/
  | letter
  /-- A fixed text. -/
  | greeting
  /-- An array creation with its first size given and further pairs behind it. -/
  | array (element : String) (openPairs : Nat)
  /-- A constructor call without arguments. -/
  | object (type : String)
deriving DecidableEq

namespace DemoForm

/-- Count the bracket pairs at the end of a reversed text, on top of those
counted so far; the text before them comes along, still reversed. -/
def trailingPairs (counted : Nat) : List Char → Nat × List Char
  | ']' :: '[' :: rest => trailingPairs (counted + 1) rest
  | rest => (counted, rest)

/-- A name to construct, `Object` where the text is empty. -/
def orObject (name : String) : String := if name = "" then "Object" else name

/-- The form of a value of the named type. A text that ends in bracket pairs
names an array, and every other unknown text a class. -/
def ofType (type : String) : DemoForm :=
  if type ∈ ["byte", "short", "int", "long"] then whole
  else if type ∈ ["float", "double"] then decimal
  else if type = "boolean" then truth
  else if type = "char" then letter
  else if type = "String" then greeting
  else
    match trailingPairs 0 type.toList.reverse with
    | (0, _) => object (orObject type)
    | (pairs + 1, bare) => array (orObject (String.ofList bare.reverse)) pairs

/-- The letters to choose from; `w` is left out. -/
def letters : Vector Char 25 :=
  #v['a', 'b', 'c', 'd', 'e', 'f', 'g', 'h', 'i', 'j', 'k', 'l', 'm', 'n', 'o', 'p', 'q', 'r',
    's', 't', 'u', 'v', 'x', 'y', 'z']

/-- Ten times a fraction with denominator `2 ^ 53`, in hundredths. The product
is rounded to a significand of 53 bits first and to two places then. -/
def hundredthsOfTenfold (numerator : Nat) : Nat :=
  roundHalfEven (roundToBits 53 (10 * numerator) * 100) (1 <<< 53)

variable {σ : Type} [RandomSource σ]

/-- A value of the given form. -/
def draw : DemoForm → Draw σ String
  | whole => do
      let n ← Draw.below32 100 (by decide)
      return toString n.val
  | decimal => do
      let numerator ← Draw.fraction
      return hundredthsText (hundredthsOfTenfold numerator)
  | truth => do
      let heads ← Draw.coin
      return if heads then "true" else "false"
  | letter => do
      let i ← Draw.below64 25 (by decide)
      return String.singleton (letters.get i)
  | greeting => return "\"hello world\""
  | array element openPairs => return "new " ++ element ++ "[5]" ++ bracketPairs openPairs
  | object type => return "new " ++ type ++ "()"

end DemoForm

namespace Demo

variable {σ : Type} [RandomSource σ]

/-- A literal or expression of the named type. -/
def value (type : String) : Draw σ String := (DemoForm.ofType type).draw

/-- One value per type, drawn in order. -/
def values (types : List String) : Draw σ (List String) := types.mapM value

/-- A declaration whose value is of another type than the declared one. -/
def declareAs (declared name valueType : String) : Draw σ String := do
  let v ← value valueType
  return declared ++ " " ++ name ++ " = " ++ v ++ ";"

/-- A declaration with a value of the declared type. -/
def declare (type name : String) : Draw σ String := declareAs type name type

/-- A braced list of `size` values of one type. -/
def elements (type : String) (size : Nat) : Draw σ String := do
  let vs ← values (List.replicate size type)
  return "\x7b" ++ String.intercalate ", " vs ++ "\x7d"

/-- A call with one value per parameter type. -/
def call (name : String) (parameterTypes : List String) : Draw σ String := do
  let vs ← values parameterTypes
  return Snippet.application name vs

end Demo

end Remedy
