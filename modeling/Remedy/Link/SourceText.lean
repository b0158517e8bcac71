import Remedy.Link.Query
import Remedy.Text.Alphanumeric
import Remedy.Text.Nesting

/-!
# Queries from raw source text

Some problems are reported before there is a usable tree. For those the caller
passes the source text up to and including the line of the problem, and the
query is made from the text alone. Cutting a text never loses or splits a
character, so any text will do.
-/

namespace Remedy

namespace SourceText

/-- The part of a text that is shown above a block: the line on which the text
ends, and the line above it unless that line is an empty first line. -/
def headerLines (above : List Char) : List Char :=
  match cutLast '\n' above with
  | none => above
  | some ([], line) => line
  | some (earlier, line) => afterLast '\n' earlier ++ '\n' :: line

/-- What is shown in place of a block's body. -/
def elidedBody : List Char := "\n  /* your code */\n".toList

/-- A block behind which one closing brace too many stands. -/
structure ExtraBrace where
  /-- The header of the block, up to its opener. -/
  header : List Char
  /-- The symbol that opens the block. -/
  opener : Char
  /-- What stands between the block's closing brace and the extra one. -/
  between : List Char
deriving DecidableEq

/-- The block before the last closing brace of a text. That brace is the extra
one, and the closing brace before it ends the block. -/
def extraBrace? (text : List Char) : Option ExtraBrace := do
  let (kept, _) ← cutLast '\x7d' text
  let (block, between) ← cutLast '\x7d' kept
  let (above, opener) ← openerBefore BracketSide.ofChar? block
  return { header := headerLines above, opener, between }

namespace ExtraBrace

/-- The block with its body elided and without the extra brace. -/
def corrected (b : ExtraBrace) : List Char :=
  b.header ++ b.opener :: elidedBody ++ '\x7d' :: b.between

/-- The block with its body elided and with the extra brace. -/
def asWritten (b : ExtraBrace) : List Char := b.corrected ++ ['\x7d']

end ExtraBrace

/-- The query for a closing brace that closes nothing. It shows the block before
the brace with the extra brace and without it. -/
def extraBraceQuery? (text : String) : Option Query :=
  (extraBrace? text.toList).map fun b =>
    ({ path := "extraneousclosingcurlybrace" } : Query)
      |>.add "original" (String.ofList b.asWritten)
      |>.add "fixed" (String.ofList b.corrected)

/-- The run of identifier characters that ends right before the last opening
parenthesis, unless it is empty. -/
def nameBeforeParen? (text : List Char) : Option (List Char) := do
  let (before, _) ← cutLast '(' text
  let name := (before.reverse.takeWhile isIdentifierPart).reverse
  if name.isEmpty then none else return name

/-- The query for a malformed method header. -/
def methodHeaderQuery? (text : String) : Option Query :=
  (nameBeforeParen? text.toList).map fun name =>
    ({ path := "incorrectmethoddeclaration" } : Query).add "methodname" (String.ofList name)

end SourceText

end Remedy
