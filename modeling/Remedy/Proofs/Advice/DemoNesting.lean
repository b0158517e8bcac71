import Remedy.Demo
import Remedy.Proofs.Text.NestedCode

/-!
# Demo values nest

A demo value is made from the name of its type, which may be a rendered type
with brackets of its own. An array type gives up the bracket pairs at its end,
and what is left of it nests because the whole name does. Whatever words the
source gives, a value of a type whose name nests is code that nests.
-/

namespace Remedy

namespace DemoForm

/-! ## Names of arrays -/

/-- Taking bracket pairs off the end of a text leaves a text that nests. -/
theorem nests_of_trailingPairs {counted pairs : Nat} {cs bare : List Char}
    (hnests : BracketKinds.all.Nests cs.reverse) (h : trailingPairs counted cs = (pairs, bare)) :
    BracketKinds.all.Nests bare.reverse := by
  fun_induction trailingPairs counted cs with
  | case1 counted rest ih =>
    have hpair : BracketKinds.all.Nests ['[', ']'] := rfl
    rw [List.reverse_cons, List.reverse_cons, List.append_assoc] at hnests
    exact ih (BracketKinds.Nests.of_append hnests hpair) h
  | case2 counted cs hend =>
    cases h
    exact hnests

theorem nested_orObject {name : String} (h : Nested name) : Nested (orObject name) := by
  unfold orObject
  split
  · decide
  · exact h

/-- The texts that a form takes over nest. -/
inductive Nest : DemoForm → Prop
  | whole : Nest whole
  | decimal : Nest decimal
  | truth : Nest truth
  | letter : Nest letter
  | greeting : Nest greeting
  | array {element : String} (openPairs : Nat) (h : Nested element) : Nest (array element openPairs)
  | object {type : String} (h : Nested type) : Nest (object type)

theorem nest_ofType {type : String} (h : Nested type) : Nest (ofType type) := by
  unfold ofType
  split
  · exact .whole
  split
  · exact .decimal
  split
  · exact .truth
  split
  · exact .letter
  split
  · exact .greeting
  split
  next => exact .object (nested_orObject h)
  next pairs bare hpairs =>
    have hnests : BracketKinds.all.Nests type.toList.reverse.reverse := by
      rwa [List.reverse_reverse]
    have hbare : Nested (String.ofList bare.reverse) := by
      rw [Nested, String.toList_ofList]
      exact nests_of_trailingPairs hnests hpairs
    exact .array pairs (nested_orObject hbare)

/-! ## Values -/

variable {σ : Type} [RandomSource σ]

theorem nested_letter (i : Fin 25) : Nested (String.singleton (letters.get i)) := by
  revert i
  decide

theorem Nest.ensures_draw {form : DemoForm} (h : form.Nest) :
    (form.draw (σ := σ)).Ensures Nested := by
  cases h with
  | whole => exact .bind _ fun n => .pure (nested_repr n.val)
  | decimal => exact .bind _ fun numerator => .pure (nested_hundredthsText _)
  | truth =>
    refine .bind _ fun heads => .pure ?_
    cases heads <;> decide
  | letter => exact .bind _ fun i => .pure (nested_letter i)
  | greeting => exact .pure (by decide)
  | array openPairs helement =>
    refine .pure ?_
    have hcreation : Nested ("new " ++ _) := Nested.append (by decide) helement
    exact (hcreation.append (by decide)).append (nested_bracketPairs openPairs)
  | object htype =>
    have hcreation : Nested ("new " ++ _) := Nested.append (by decide) htype
    exact .pure (hcreation.append (by decide))

end DemoForm

namespace Demo

variable {σ : Type} [RandomSource σ] {type name : String}

theorem ensures_value (htype : Nested type) : (value (σ := σ) type).Ensures Nested :=
  (DemoForm.nest_ofType htype).ensures_draw

theorem ensures_values {types : List String} (htypes : ∀ type ∈ types, Nested type) :
    (values (σ := σ) types).Ensures fun vs => ∀ v ∈ vs, Nested v := by
  induction types with
  | nil => exact .pure (by simp)
  | cons type rest ih =>
    have hrest := ih fun other hother => htypes other (List.mem_cons_of_mem _ hother)
    rw [values, List.mapM_cons]
    refine .bind_of (ensures_value (htypes type List.mem_cons_self)) fun v hv => ?_
    refine .bind_of hrest fun vs hvs => .pure ?_
    simpa using ⟨hv, hvs⟩

theorem ensures_declareAs {declared : String} (hdeclared : Nested declared) (hname : Nested name)
    (htype : Nested type) : (declareAs (σ := σ) declared name type).Ensures Nested := by
  refine .bind_of (ensures_value htype) fun v hv => .pure ?_
  simp +decide [hdeclared, hname, hv]

theorem ensures_declare (htype : Nested type) (hname : Nested name) :
    (declare (σ := σ) type name).Ensures Nested :=
  ensures_declareAs htype hname htype

theorem ensures_elements (htype : Nested type) (size : Nat) :
    (elements (σ := σ) type size).Ensures Nested := by
  have htypes : ∀ other ∈ List.replicate size type, Nested other := by
    intro other hother
    rwa [List.eq_of_mem_replicate hother]
  refine .bind_of (ensures_values htypes) fun vs hvs => .pure ?_
  have hbraces : Nested ("\x7b" ++ "\x7d") := by decide
  exact hbraces.surround (nested_intercalate (by decide) hvs)

theorem ensures_call (hname : Nested name) {types : List String}
    (htypes : ∀ type ∈ types, Nested type) : (call (σ := σ) name types).Ensures Nested :=
  .bind_of (ensures_values htypes) fun _ hvs => .pure (Snippet.nested_application hname hvs)

end Demo

end Remedy
