/-!
# Hints

A hint offers one way to fix a problem. It says what the problem is, suggests a
change, and contrasts examples of the incorrect code with examples of the
corrected code.
-/

namespace Remedy

/-- One way to fix a problem. -/
structure Hint where
  problem : String
  suggestion : String
  /-- Examples of the incorrect code. -/
  bad : List String := []
  /-- Examples of the corrected code. -/
  good : List String := []
deriving DecidableEq

namespace Hint

/-- Add an example of the incorrect code behind the others. -/
def addBad (h : Hint) (code : String) : Hint := { h with bad := h.bad ++ [code] }

/-- Add an example of the corrected code behind the others. -/
def addGood (h : Hint) (code : String) : Hint := { h with good := h.good ++ [code] }

/-- All examples, the incorrect ones first. -/
def examples (h : Hint) : List String := h.bad ++ h.good

/-- There is at least one example. -/
def hasExamples (h : Hint) : Bool := !h.examples.isEmpty

end Hint

end Remedy
