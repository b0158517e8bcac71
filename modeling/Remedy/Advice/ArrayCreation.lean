import Remedy.Advice.Basic
import Remedy.Site.Declaration
import Remedy.TypeName

/-!
# Advice on array creations

Three ways to create an array wrongly: without a size, with an inner size but
no outer one, and with both a size and the list of elements. The hints need the
exact shape around the anchor. The links are content with any declaration around
it, and two of them also ask for the array creation above the anchor.
-/

namespace Remedy

namespace ArrayCreation

/-- A declaration with an array creation. The variable's type ends in `pairs`,
and `rest` follows the element type of the creation. -/
def declaration (array : ArrayVariable) (pairs rest : String) : String :=
  array.elementType ++ pairs ++ " " ++ array.name ++ " = new " ++ array.elementType ++ rest ++ ";"

/-! ## Hints -/

/-- The hint for `int[] nums = new int[];`. -/
def missingSizeHints (array : ArrayVariable) : List Hint :=
  [{ problem := "You have not given the array a certain size."
     suggestion :=
      "You may have forgotten to type the size of the array inside the brackets."
     bad := [declaration array "[]" "[]"]
     good := [declaration array "[]" "[5]"] }]

/-- The hint for `int[][] grid = new int[][5];`. -/
def missingOuterSizeHints (array : ArrayVariable) : List Hint :=
  [{ problem := "In a 2D array, you have not given the innermost array a certain size."
     suggestion := "Specify the size of the innermost array."
     bad := [declaration array "[][]" "[][5]"]
     good := [declaration array "[][]" "[5][5]", declaration array "[][]" "[5][]"] }]

/-- The hint for `int[] nums = new int[5] {1, 2, 3, 4, 5};`, with the given list
of elements. -/
def sizeAndElementsHints (array : ArrayVariable) (elements : String) : List Hint :=
  [{ problem := "You defined an array twice."
     suggestion := "You may have used both methods to construct an array together."
     bad := [declaration array "[]" ("[5] " ++ elements)]
     good :=
      [declaration array "[]" "[5]",
        array.elementType ++ "[] " ++ array.name ++ " = " ++ elements ++ ";"] }]

variable {σ : Type} [RandomSource σ]

/-- Explains an array creation without a size. -/
def missingSize : Explainer σ :=
  .ofFacts .missingArrayDimension Site.unsizedArray fun array => return missingSizeHints array

/-- Explains an array creation without its outer size. -/
def missingOuterSize : Explainer σ :=
  .ofFacts .illegalArrayDimension Site.createdArray fun array =>
    return missingOuterSizeHints array

/-- Explains an array creation with both a size and elements. -/
def sizeAndElements : Explainer σ :=
  .ofFacts .arrayDimensionWithInitializer Site.createdArray fun array => do
    let elements ← Demo.elements array.elementType 5
    return sizeAndElementsHints array elements

/-! ## Links -/

/-- The query of the three pages on array creations. -/
def page (path type name : String) : Query :=
  ({ path := path } : Query) |>.add "typename" type |>.add "arrname" name

/-- The short element type of the array creation above the anchor. -/
def createdType (s : Site) : Except SiteError String := do
  let creation ← s.parent
  let element ← s.createdElementAt creation
  return shortTypeName (s.tree.render element)

/-- Links an array creation without a size. -/
def missingSizeLink : LinkMaker where
  kinds := [.missingArrayDimension]
  query s := do
    let declared ← s.declarator
    return page "incorrectdimensionexpression1" (shortTypeName s.text) declared.name

/-- Links an array creation without its outer size. -/
def missingOuterSizeLink : LinkMaker where
  kinds := [.illegalArrayDimension]
  query s := do
    let type ← createdType s
    let declared ← s.declarator
    return page "incorrectdimensionexpression2" type declared.name

/-- Links an array creation with both a size and elements. -/
def sizeAndElementsLink : LinkMaker where
  kinds := [.arrayDimensionWithInitializer]
  query s := do
    let type ← createdType s
    let declared ← s.declarator
    return page "incorrectdimensionexpression3" type declared.name

end ArrayCreation

end Remedy
