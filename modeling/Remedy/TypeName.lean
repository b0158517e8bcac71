import Remedy.Syntax.Resolved
import Remedy.Text.Alphanumeric

/-!
# Short type names

The front end names types in full, and explanations show them short:
`java.util.ArrayList<java.lang.Integer>` reads as `ArrayList<Integer>`. A name
with type arguments is cut at every character that cannot stand in a qualified
name, and each run between the cuts loses what precedes its last dot. A name
without `<` counts as one run, whatever characters it holds.
-/

namespace Remedy

/-- The character may stand in a qualified name. -/
def isQualifiedNamePart (c : Char) : Bool := isIdentifierPart c || c == '.'

/-- Put a character in front of a shortened text. `dotted` says whether the run
that the text begins with holds a dot, and the answer says it of the longer
text. -/
def prependUnqualified (inRun : Char → Bool) (c : Char) :
    List Char × Bool → List Char × Bool
  | (short, dotted) =>
      if inRun c then
        if c == '.' || dotted then (short, true) else (c :: short, false)
      else (c :: short, false)

/-- Drop the qualifiers of every maximal run of characters that `inRun`
accepts: a character of a run goes if it is a dot or a dot follows in the same
run. Characters outside the runs stay. The text is read from its end, so that
every character is looked at once. -/
def dropQualifiers (inRun : Char → Bool) (cs : List Char) : List Char :=
  (cs.foldr (prependUnqualified inRun) ([], false)).1

/-- The character belongs to a run of a name. Only in a generic name does the
character matter. -/
def isRunPart (generic : Bool) (c : Char) : Bool := !generic || isQualifiedNamePart c

/-- A type name without package qualifiers, its type arguments included. -/
def shortTypeName (name : String) : String :=
  let cs := name.toList
  String.ofList (dropQualifiers (isRunPart (cs.contains '<')) cs)

/-- The short name of a resolved type, brackets included. -/
def ResolvedType.shortName (t : ResolvedType) : String := shortTypeName t.name

/-! ## One character at a time -/

theorem foldr_prependUnqualified_snd (inRun : Char → Bool) (cs : List Char) :
    (cs.foldr (prependUnqualified inRun) ([], false)).2 =
      (cs.takeWhile inRun).contains '.' := by
  induction cs with
  | nil => rfl
  | cons c rest ih =>
    rw [List.foldr_cons, prependUnqualified, ih]
    cases hc : inRun c with
    | false => simp [hc]
    | true =>
      rw [List.takeWhile_cons_of_pos hc, List.contains_cons, BEq.comm]
      cases '.' == c || (rest.takeWhile inRun).contains '.' <;> rfl

theorem dropQualifiers_nil (inRun : Char → Bool) : dropQualifiers inRun [] = [] := rfl

theorem dropQualifiers_cons (inRun : Char → Bool) (c : Char) (rest : List Char) :
    dropQualifiers inRun (c :: rest) =
      if inRun c && (c == '.' || (rest.takeWhile inRun).contains '.') then
        dropQualifiers inRun rest
      else c :: dropQualifiers inRun rest := by
  rw [dropQualifiers, List.foldr_cons, prependUnqualified, foldr_prependUnqualified_snd]
  cases inRun c with
  | false => rfl
  | true => cases c == '.' || (rest.takeWhile inRun).contains '.' <;> rfl

end Remedy
