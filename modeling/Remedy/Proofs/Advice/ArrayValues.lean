import Mathlib.Order.Bounds.Basic
import Remedy.Proofs.Advice.DemoTexts
import Remedy.Proofs.Text.ShortNames

/-!
# Demo values of array types

A value of an array type is a creation with its first size given. How many pairs stay open
behind that size is read off the name of the type, and the name of the element type may end
in bracket pairs itself. So all pairs at the end count, those of the element type with those
of the dimensions (`EndsInPairs`).

The number of pairs can also be taken from lengths: it is half of what the name loses with
its pairs. A name that ends in a pair loses at least two bytes, so the first pair can be
taken off that number.
-/

namespace Remedy

/-- The text ends in that many bracket pairs and no more; `bare` is what stands before. -/
structure EndsInPairs (text bare : String) (pairs : Nat) : Prop where
  text_eq : text = bare ++ bracketPairs pairs
  no_more : ¬ "[]".toList <:+ bare.toList

namespace EndsInPairs

variable {text bare : String} {pairs : Nat}

/-- Pairs are taken off the end as long as there is one. -/
theorem exists_of_text (text : String) : ∃ bare pairs, EndsInPairs text bare pairs := by
  by_cases hpair : "[]".toList <:+ text.toList
  · obtain ⟨front, hfront⟩ := hpair
    have htext : text = String.ofList front ++ "[]" := by
      rw [← String.toList_inj, String.toList_append, String.toList_ofList, hfront]
    obtain ⟨bare, pairs, hbare⟩ := exists_of_text (String.ofList front)
    refine ⟨bare, pairs + 1, ?_, hbare.no_more⟩
    rw [bracketPairs_succ', ← String.append_assoc, ← hbare.text_eq, htext]
  · exact ⟨text, 0, by rw [bracketPairs_zero, String.append_empty], hpair⟩
termination_by text.length
decreasing_by
  rw [htext, String.length_append]
  exact Nat.lt_add_of_pos_right (by decide)

theorem append_bracketPairs (h : EndsInPairs text bare pairs) (n : Nat) :
    EndsInPairs (text ++ bracketPairs n) bare (pairs + n) where
  text_eq := by rw [h.text_eq, String.append_assoc, bracketPairs_add]
  no_more := h.no_more

/-- No more pairs than these stand at the end of the text. -/
theorem isGreatest (h : EndsInPairs text bare pairs) :
    IsGreatest {n | ∃ front, text = front ++ bracketPairs n} pairs := by
  refine ⟨⟨bare, h.text_eq⟩, ?_⟩
  rintro n ⟨front, hfront⟩
  by_contra hlt
  obtain ⟨more, rfl⟩ : ∃ more, n = more + 1 + pairs := ⟨n - pairs - 1, by omega⟩
  have hbare : bare = front ++ bracketPairs more ++ "[]" := by
    rw [← String.append_left_inj (bracketPairs pairs), ← h.text_eq, hfront, bracketPairs_add,
      bracketPairs_succ', ← String.append_assoc, ← String.append_assoc]
  refine h.no_more ⟨(front ++ bracketPairs more).toList, ?_⟩
  rw [← String.toList_append, ← hbare]

end EndsInPairs

namespace DemoForm

variable {type bare : String} {pairs : Nat}

/-! ## Names of array types -/

theorem trailingPairs_of_no_more {bare : List Char} (h : ¬ "[]".toList <:+ bare) (counted : Nat) :
    trailingPairs counted bare.reverse = (counted, bare.reverse) := by
  unfold trailingPairs
  split
  next rest hrest =>
    refine absurd ⟨rest.reverse, ?_⟩ h
    simpa using (congrArg List.reverse hrest).symm
  next => rfl

/-- A name that ends in pairs is that of an array, and all but one of the pairs stay open. -/
theorem ofType_eq_array (h : EndsInPairs type bare (pairs + 1)) :
    ofType type = array (orObject bare) pairs := by
  have hlast : type.toList.getLast? = some ']' := by
    rw [h.text_eq, bracketPairs_succ', ← String.append_assoc, String.toList_append]
    exact List.getLast?_append_of_ne_nil _ (by decide)
  have hnamed : ∀ name ∈ "String" :: Snippet.primitiveTypes, name.toList.getLast? ≠ some ']' := by
    decide
  have hcount : trailingPairs 0 type.toList.reverse = (pairs + 1, bare.toList.reverse) := by
    rw [h.text_eq, String.toList_append, List.reverse_append, trailingPairs_bracketPairs,
      Nat.zero_add, trailingPairs_of_no_more h.no_more]
  rw [ofType_of_unnamed fun hmem => hnamed type hmem hlast, hcount]
  simp

end DemoForm

/-! ## Open pairs from lengths -/

theorem utf8ByteSize_bracketPairs (n : Nat) : (bracketPairs n).utf8ByteSize = 2 * n := by
  induction n with
  | zero => rfl
  | succ n ih =>
    rw [bracketPairs_succ', String.utf8ByteSize_append, ih]
    rfl

/-- The number of pairs behind the first one, from the lengths of a name with all its pairs
and without them, in bytes. Nothing is taken off a smaller number. -/
def openPairs? (length bareLength : Nat) : Option Nat :=
  if bareLength ≤ length then
    let pairs := (length - bareLength) / 2
    if 1 ≤ pairs then some (pairs - 1) else none
  else none

theorem EndsInPairs.openPairs?_eq {text bare : String} {pairs : Nat}
    (h : EndsInPairs text bare (pairs + 1)) :
    openPairs? text.utf8ByteSize bare.utf8ByteSize = some pairs := by
  have hlength : text.utf8ByteSize = bare.utf8ByteSize + 2 * (pairs + 1) := by
    rw [h.text_eq, String.utf8ByteSize_append, utf8ByteSize_bracketPairs]
  have hpairs : (text.utf8ByteSize - bare.utf8ByteSize) / 2 = pairs + 1 := by
    omega
  simp only [openPairs?]
  rw [if_pos (by omega), hpairs, if_pos (by omega), Nat.add_sub_cancel]

/-! ## Values -/

/-- **Values of array types.** The short name of an array type is that of its element type
with a pair for each dimension behind it. With the pairs that end the element type's short
name, all but one of them stay open in the value, whatever the source holds, and no word is
taken from it. -/
theorem Demo.value_shortName_of_array {σ : Type} [RandomSource σ] (t : ResolvedType)
    (harray : 1 ≤ t.dimensions) (source : σ) :
    t.shortName = shortTypeName t.element ++ bracketPairs t.dimensions ∧
      ∃ bare pairs, shortTypeName t.element = bare ++ bracketPairs pairs ∧
        IsGreatest {n | ∃ front, shortTypeName t.element = front ++ bracketPairs n} pairs ∧
        Demo.value t.shortName source =
          ("new " ++ (if bare = "" then "Object" else bare) ++ "[5]" ++
            bracketPairs (t.dimensions - 1 + pairs), source) ∧
        openPairs? t.shortName.utf8ByteSize bare.utf8ByteSize = some (t.dimensions - 1 + pairs) ∧
        ∀ type, (Demo.value t.shortName source).1 ≠ "new " ++ type ++ "()" := by
  obtain ⟨bare, pairs, hends⟩ := EndsInPairs.exists_of_text (shortTypeName t.element)
  have hname : EndsInPairs t.shortName bare (t.dimensions - 1 + pairs + 1) := by
    have hall := hends.append_bracketPairs t.dimensions
    rw [← t.shortName_eq] at hall
    have hcount : t.dimensions - 1 + pairs + 1 = pairs + t.dimensions := by omega
    rwa [hcount]
  have hvalue : Demo.value t.shortName source =
      ("new " ++ (if bare = "" then "Object" else bare) ++ "[5]" ++
        bracketPairs (t.dimensions - 1 + pairs), source) := by
    rw [Demo.value, DemoForm.ofType_eq_array hname]
    rfl
  refine ⟨t.shortName_eq, bare, pairs, hends.text_eq, hends.isGreatest, hvalue,
    hname.openPairs?_eq, ?_⟩
  intro type heq
  rw [hvalue] at heq
  have hcall := DemoForm.Writes.object type
  rw [← heq] at hcall
  cases (DemoForm.Writes.array _ _).unique hcall

/-- Two dimensions of an element type that is named as an array itself. -/
def listMatrix : ResolvedType := ⟨"java.util.List<java.lang.String>[]", 2⟩

theorem Demo.value_shortName_of_listMatrix :
    1 ≤ listMatrix.dimensions ∧ listMatrix.shortName = "List<String>[][][]" ∧
      Demo.value listMatrix.shortName (⟨[7]⟩ : ListedWords) =
        ("new List<String>[5][][]", ⟨[7]⟩) := by
  have hends : EndsInPairs (shortTypeName listMatrix.element) "List<String>" 1 :=
    ⟨by decide, by decide⟩
  obtain ⟨hname, bare, pairs, hsplit, hgreatest, hvalue, _⟩ :=
    Demo.value_shortName_of_array listMatrix (by decide) (⟨[7]⟩ : ListedWords)
  obtain rfl : pairs = 1 := hgreatest.unique hends.isGreatest
  obtain rfl : bare = "List<String>" := by
    rw [hends.text_eq] at hsplit
    exact ((String.append_left_inj _).mp hsplit).symm
  exact ⟨by decide, hname.trans (by decide), hvalue.trans (Prod.ext (by decide) rfl)⟩

end Remedy
