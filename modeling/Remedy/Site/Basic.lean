import Remedy.Syntax.Render

/-!
# The site of a diagnostic

A `Site` is everything that an explanation may look at: the tree, the anchor
node that the reported range belongs to, and the diagnostic's arguments. Facts
are looked up by the shape that is expected around the anchor. A look-up that
fails says which fact was missing, as a `SiteError`.
-/

namespace Remedy

/-- Why a fact could not be found at a site. -/
inductive SiteError where
  /-- The diagnostic has too few arguments. -/
  | missingArgument (index available : Nat)
  /-- A node is not of the expected shape. -/
  | wrongShape (expected : String) (node : NodeId)
  /-- Nothing of the kind encloses the anchor. -/
  | absent (what : String)
  /-- The front end did not resolve what is needed. -/
  | unresolved (what : String)
deriving DecidableEq

/-- The error in words. -/
def SiteError.message : SiteError → String
  | missingArgument index available =>
      "diagnostic argument " ++ toString index ++ " requested, but only " ++ toString available
        ++ " were reported"
  | wrongShape expected node => "expected " ++ expected ++ " at node " ++ node.label
  | absent what => "no enclosing " ++ what ++ " found"
  | unresolved what => "front end did not resolve the " ++ what

/-- The value, or the error that stands for its absence. -/
def require {α : Type} (value : Option α) (otherwise : SiteError) : Except SiteError α :=
  match value with
  | some a => .ok a
  | none => .error otherwise

theorem require_eq_ok_iff {α : Type} {value : Option α} {otherwise : SiteError} {a : α} :
    require value otherwise = .ok a ↔ value = some a := by
  cases value <;> simp [require]

/-- Look-ups in a row succeed with what the last one finds. -/
theorem bind_eq_ok_iff {α β : Type} {x : Except SiteError α} {f : α → Except SiteError β}
    {b : β} : (x >>= f) = .ok b ↔ ∃ a, x = .ok a ∧ f a = .ok b := by
  cases x <;> simp [bind, Except.bind]

/-- Where a diagnostic is explained. -/
structure Site where
  tree : Tree
  anchor : NodeId
  arguments : List String := []

namespace Site

/-- The argument at a position. -/
def argument (s : Site) (index : Nat) : Except SiteError String :=
  require s.arguments[index]? (.missingArgument index s.arguments.length)

/-- The parent of the anchor. -/
def parent (s : Site) : Except SiteError NodeId :=
  require (s.tree.parent? s.anchor) (.absent "parent node")

/-- The source text of the anchor. -/
def text (s : Site) : String := s.tree.render s.anchor

end Site

end Remedy
