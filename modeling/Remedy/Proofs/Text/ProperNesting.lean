import Remedy.Text.Brackets

/-!
# Proper nesting

A text with brackets of several kinds is read from left to right, and the
closers that its open brackets wait for are kept on a stack, nearest first. An
opener puts its closer on the stack. A closer has to be the one on top, that is,
it has to belong to the nearest opener that is still open. The text nests if
this never fails and the stack is empty in the end.

What is read from an empty stack is read in the same way above any other stack
(`Nests.readAll`). So texts that nest can stand one behind the other, and
wherever a reading goes on, a text that nests can be put in.
-/

namespace Remedy

/-- Pairs of an opener and the closer that belongs to it. -/
structure BracketKinds where
  pairs : List (Char × Char)

namespace BracketKinds

/-- Parentheses, square brackets and braces. -/
def all : BracketKinds := ⟨[('(', ')'), ('[', ']'), ('\x7b', '\x7d')]⟩

variable (kinds : BracketKinds)

/-- The character is an opener or a closer. -/
def has (c : Char) : Bool := kinds.pairs.any fun pair => pair.1 == c || pair.2 == c

/-- Read one character, given the closers that are waited for. -/
def read (waiting : List Char) (c : Char) : Option (List Char) :=
  match kinds.pairs.lookup c with
  | some closer => some (closer :: waiting)
  | none =>
      if kinds.pairs.any fun pair => pair.2 == c then
        match waiting with
        | [] => none
        | nearest :: rest => if nearest = c then some rest else none
      else some waiting

/-- Read a text. -/
def readAll (waiting : List Char) (cs : List Char) : Option (List Char) :=
  cs.foldlM kinds.read waiting

/-- Every closer belongs to the nearest open bracket, and no bracket stays
open. -/
def Nests (cs : List Char) : Prop := kinds.readAll [] cs = some []

instance (cs : List Char) : Decidable (kinds.Nests cs) :=
  inferInstanceAs (Decidable (_ = _))

variable {kinds}

/-! ## Reading -/

theorem readAll_append (waiting xs ys : List Char) :
    kinds.readAll waiting (xs ++ ys) =
      (kinds.readAll waiting xs).bind fun left => kinds.readAll left ys :=
  List.foldlM_append

theorem read_of_has_eq_false {c : Char} (h : kinds.has c = false) (waiting : List Char) :
    kinds.read waiting c = some waiting := by
  have hpairs : ∀ pair ∈ kinds.pairs, pair.1 ≠ c ∧ pair.2 ≠ c := by
    simpa [has, not_or] using h
  have hopener : kinds.pairs.lookup c = none :=
    List.lookup_eq_none_iff.mpr fun pair hmem => by simpa using (hpairs pair hmem).1.symm
  have hcloser : kinds.pairs.any (fun pair => pair.2 == c) = false := by
    simpa using fun a b hmem => (hpairs (a, b) hmem).2
  simp [read, hopener, hcloser]

/-- What stands below the stack in use is never looked at. -/
theorem read_append {waiting left : List Char} {c : Char}
    (h : kinds.read waiting c = some left) (below : List Char) :
    kinds.read (waiting ++ below) c = some (left ++ below) := by
  -- Only a closer looks at the stack, and it fails on an empty one.
  unfold read at h ⊢
  split at h
  next closer hopener =>
    cases h
    rfl
  next hopener =>
    split at h
    next hcloser =>
      cases waiting with
      | nil => cases h
      | cons nearest rest =>
        simp only [Option.ite_none_right_eq_some, Option.some.injEq] at h
        obtain ⟨rfl, rfl⟩ := h
        simp [hcloser]
    next hcloser =>
      cases h
      simp [hcloser]

theorem readAll_frame {waiting left cs : List Char} (h : kinds.readAll waiting cs = some left)
    (below : List Char) : kinds.readAll (waiting ++ below) cs = some (left ++ below) := by
  induction cs generalizing waiting with
  | nil =>
    cases h
    rfl
  | cons c rest ih =>
    rw [readAll, List.foldlM_cons] at h
    cases hread : kinds.read waiting c with
    | none => rw [hread] at h; cases h
    | some middle =>
      rw [hread] at h
      rw [readAll, List.foldlM_cons, read_append hread]
      exact ih h

/-! ## Texts that nest -/

/-- A text that nests leaves every stack as it is. -/
theorem Nests.readAll {cs : List Char} (h : kinds.Nests cs) (waiting : List Char) :
    kinds.readAll waiting cs = some waiting := by
  have hframe := readAll_frame h waiting
  rwa [List.nil_append] at hframe

theorem nests_nil : kinds.Nests [] := rfl

theorem Nests.append {xs ys : List Char} (hx : kinds.Nests xs) (hy : kinds.Nests ys) :
    kinds.Nests (xs ++ ys) := by
  rw [Nests, readAll_append, hx, Option.bind_some, hy]

/-- Texts that nest can be put in anywhere. -/
theorem Nests.insert {xs middle ys : List Char} (h : kinds.Nests (xs ++ ys))
    (hmiddle : kinds.Nests middle) : kinds.Nests (xs ++ middle ++ ys) := by
  rw [Nests, readAll_append] at h
  obtain ⟨left, hleft, hrest⟩ := Option.bind_eq_some_iff.mp h
  rw [Nests, readAll_append, readAll_append, hleft, Option.bind_some, hmiddle.readAll left]
  exact hrest

/-- What stands before a text that nests has to nest by itself. -/
theorem Nests.of_append {xs ys : List Char} (h : kinds.Nests (xs ++ ys)) (hy : kinds.Nests ys) :
    kinds.Nests xs := by
  rw [Nests, readAll_append] at h
  obtain ⟨left, hleft, hrest⟩ := Option.bind_eq_some_iff.mp h
  rw [hy.readAll left] at hrest
  exact hleft.trans hrest

/-- A text without brackets nests. -/
theorem nests_of_free {cs : List Char} (h : ∀ c ∈ cs, kinds.has c = false) : kinds.Nests cs := by
  induction cs with
  | nil => exact nests_nil
  | cons c rest ih =>
    have hfirst : kinds.Nests [c] := by
      simp [Nests, BracketKinds.readAll, read_of_has_eq_false (h c List.mem_cons_self)]
    exact hfirst.append (ih fun d hd => h d (List.mem_cons_of_mem _ hd))

theorem nests_bracketPairs (n : Nat) : all.Nests (bracketPairs n).toList := by
  induction n with
  | zero => exact nests_nil
  | succ n ih =>
    rw [bracketPairs_succ, String.toList_append]
    exact Nests.append rfl ih

end BracketKinds

end Remedy
