import Remedy.Text.Blank

/-!
# Settings

Two settings control an engine: whether pages are shown embedded, and the seed
of the demo values. Both can be read from named text variables, such as those
of the process environment. White space around a value is ignored, and a value
that cannot be read counts as not given.
-/

namespace Remedy

/-- The settings of an engine. -/
structure Settings where
  /-- Links ask for pages to show inside the editor. -/
  embedded : Bool := false
  /-- The seed of the demo values. Without one they are not reproducible. In a
  batch, item `i` uses the seed plus `i`. -/
  seed : Option UInt64 := none
deriving DecidableEq

namespace Settings

/-- The variable that asks for embedded pages. -/
def embeddedVariable : String := "TUTOR_EMBEDDED"

/-- The variable that holds the seed. -/
def seedVariable : String := "TUTOR_SEED"

/-- The value of a decimal numeral. -/
def numeralValue (digits : List Char) : Nat :=
  digits.foldl (fun value digit => 10 * value + (digit.toNat - '0'.toNat)) 0

/-- A text without one leading plus sign. -/
def dropPlus : List Char → List Char
  | '+' :: rest => rest
  | cs => cs

/-- A seed as written: an optional plus sign and then ASCII digits, at least one
of them, with a value below `2 ^ 64`. -/
def readSeed? (value : String) : Option UInt64 :=
  let digits := dropPlus (trimBlanks value.toList)
  if !digits.isEmpty && digits.all Char.isDigit && decide (numeralValue digits < UInt64.size) then
    some (UInt64.ofNat (numeralValue digits))
  else none

/-- A value that asks for something: `1`, or `true` in letters of either
case. -/
def isYes (value : String) : Bool :=
  let word := trimBlanks value.toList
  word == ['1'] || word.map Char.toLower == ['t', 'r', 'u', 'e']

/-- Read the settings from variables. -/
def ofLookup (lookup : String → Option String) : Settings where
  embedded := (lookup embeddedVariable).any isYes
  seed := (lookup seedVariable).bind readSeed?

end Settings

end Remedy
