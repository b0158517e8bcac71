/-!
# Looking back for an opener

A text that stops at a closing bracket is searched backwards for the opener it
belongs to. Parentheses and braces count alike: the search keeps one number,
the closers met so far that still wait for an opener, and stops at the first
opener that is left over. The search works on any symbols, given what side of a
bracket pair each one is.
-/

namespace Remedy

/-- The two sides of a bracket pair. -/
inductive BracketSide where
  | opener | closer
deriving DecidableEq

/-- Braces and parentheses; square brackets do not count. -/
def BracketSide.ofChar? : Char → Option BracketSide
  | '\x7b' | '(' => some opener
  | '\x7d' | ')' => some closer
  | _ => none

/-- On the symbols before a closer, nearest first: the first opener that no
closer in between has used up, and the symbols before it. `waiting` counts the
closers still to be matched. -/
def unusedOpener {α : Type} (side : α → Option BracketSide) :
    (waiting : Nat) → List α → Option (α × List α)
  | _, [] => none
  | waiting, a :: rest =>
      match side a, waiting with
      | some .opener, 0 => some (a, rest)
      | some .opener, waiting + 1 => unusedOpener side waiting rest
      | some .closer, waiting => unusedOpener side (waiting + 1) rest
      | none, waiting => unusedOpener side waiting rest

section Steps

variable {α : Type} {side : α → Option BracketSide} {a : α} (waiting : Nat) (rest : List α)

theorem unusedOpener_cons_none (h : side a = none) :
    unusedOpener side waiting (a :: rest) = unusedOpener side waiting rest := by
  simp [unusedOpener, h]

theorem unusedOpener_cons_closer (h : side a = some .closer) :
    unusedOpener side waiting (a :: rest) = unusedOpener side (waiting + 1) rest := by
  simp [unusedOpener, h]

theorem unusedOpener_zero_cons (h : side a = some .opener) :
    unusedOpener side 0 (a :: rest) = some (a, rest) := by
  simp [unusedOpener, h]

theorem unusedOpener_succ_cons (h : side a = some .opener) :
    unusedOpener side (waiting + 1) (a :: rest) = unusedOpener side waiting rest := by
  simp [unusedOpener, h]

end Steps

/-- The opener that belongs to a closer, among the symbols before the closer in
their usual order, and the symbols before the opener. -/
def openerBefore {α : Type} (side : α → Option BracketSide) (before : List α) :
    Option (List α × α) :=
  (unusedOpener side 0 before.reverse).map fun (opener, rest) => (rest.reverse, opener)

end Remedy
