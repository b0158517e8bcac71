import Remedy.Text.Ranges

/-!
# White space

The characters with the Unicode property White_Space, and the text between the
first and the last character without it. The class is larger than the blanks of
ASCII: it holds the no-break spaces, the typographic spaces and the line and
paragraph separators as well.
-/

namespace Remedy

/-- The white space ranges. -/
def blanks : List (Nat × Nat) := [
  (0x9, 0xD), (0x20, 0x20), (0x85, 0x85), (0xA0, 0xA0), (0x1680, 0x1680), (0x2000, 0x200A),
  (0x2028, 0x2029), (0x202F, 0x202F), (0x205F, 0x205F), (0x3000, 0x3000)]

/-- The character is white space. -/
def isBlank (c : Char) : Bool := inRanges blanks c.toNat

/-- The characters without the white space at either end. -/
def trimBlanks (cs : List Char) : List Char :=
  ((cs.dropWhile isBlank).reverse.dropWhile isBlank).reverse

end Remedy
