import Remedy.Proofs.Text.ProperNesting
import Remedy.Proofs.Text.ShortNames
import Remedy.Decimal.Rounding
import Remedy.Snippet

/-!
# Code that nests

Example code is put together from the learner's texts, type names and fixed
pieces. The code is `Nested` if all its parentheses, square brackets and braces
nest, and the results below say so of the snippets that examples share.

Behind a text that nests, nesting is a matter of what stands before it
(`nested_append_iff`), and so a chain of such texts is taken apart from its end.
A snippet whose fixed pieces open and close a bracket around a text needs
`Nested.surround`.

A name of a type may be qualified, and shortening it drops characters. None of
them is a bracket as long as brackets stand in pairs behind the name only.
-/

namespace Remedy

/-- The brackets of the code nest. -/
def Nested (code : String) : Prop := BracketKinds.all.Nests code.toList

instance (code : String) : Decidable (Nested code) :=
  inferInstanceAs (Decidable (BracketKinds.all.Nests _))

variable {front rest middle : String}

/-! ## Chains of texts -/

theorem Nested.append (hfront : Nested front) (hrest : Nested rest) : Nested (front ++ rest) := by
  rw [Nested, String.toList_append]
  exact BracketKinds.Nests.append hfront hrest

/-- Behind a text that nests, the text before it decides. -/
@[simp]
theorem nested_append_iff (hrest : Nested rest) : Nested (front ++ rest) ↔ Nested front := by
  constructor
  · intro h
    rw [Nested, String.toList_append] at h
    exact BracketKinds.Nests.of_append h hrest
  · intro hfront
    exact hfront.append hrest

/-- A text that nests can be put between two others. -/
theorem Nested.surround (h : Nested (front ++ rest)) (hmiddle : Nested middle) :
    Nested (front ++ middle ++ rest) := by
  rw [Nested, String.toList_append] at h
  rw [Nested, String.toList_append, String.toList_append]
  exact BracketKinds.Nests.insert h hmiddle

theorem nested_of_free {code : String} (h : ∀ c ∈ code.toList, BracketKinds.all.has c = false) :
    Nested code :=
  BracketKinds.nests_of_free h

@[simp]
theorem nested_bracketPairs (n : Nat) : Nested (bracketPairs n) := BracketKinds.nests_bracketPairs n

theorem nested_intercalate {separator : String} (hseparator : Nested separator)
    {items : List String} (h : ∀ item ∈ items, Nested item) :
    Nested (String.intercalate separator items) := by
  induction items with
  | nil => exact BracketKinds.nests_nil
  | cons first others ih =>
    have hfirst := h first List.mem_cons_self
    have hothers := ih fun item hitem => h item (List.mem_cons_of_mem _ hitem)
    cases others with
    | nil => simpa using hfirst
    | cons second others =>
      rw [String.intercalate_cons_cons]
      exact (hfirst.append hseparator).append hothers

/-! ## Numbers -/

theorem has_of_isDigit {c : Char} (h : c.isDigit = true) : BracketKinds.all.has c = false := by
  cases hbracket : BracketKinds.all.has c with
  | false => rfl
  | true =>
    simp only [BracketKinds.has, BracketKinds.all, List.any_cons, List.any_nil, Bool.or_eq_true,
      beq_iff_eq, Bool.or_false] at hbracket
    rcases hbracket with (rfl | rfl) | (rfl | rfl) | rfl | rfl <;> cases h

@[simp]
theorem nested_repr (n : Nat) : Nested n.repr := by
  refine nested_of_free fun c hc => has_of_isDigit ?_
  rw [Nat.toList_repr] at hc
  exact Nat.isDigit_of_mem_toDigits (b := 10) (by decide) (by decide) hc

@[simp]
theorem nested_hundredthsText (hundredths : Nat) : Nested (hundredthsText hundredths) := by
  simp +decide [hundredthsText]

/-! ## Snippets -/

namespace Snippet

theorem nested_application {name : String} {items : List String} (hname : Nested name)
    (hitems : ∀ item ∈ items, Nested item) : Nested (application name items) := by
  have hparens : Nested (name ++ "(" ++ ")") := by
    rw [String.append_assoc]
    exact hname.append (by decide)
  exact hparens.surround (nested_intercalate (by decide) hitems)

theorem nested_methodHeader {name returnType : String} {parameterTypes : List String}
    (hname : Nested name) (hreturn : Nested returnType)
    (htypes : ∀ type ∈ parameterTypes, Nested type) :
    Nested (methodHeader name returnType parameterTypes) := by
  refine (hreturn.append (by decide)).append (nested_application hname ?_)
  intro parameter hparameter
  obtain ⟨⟨type, i⟩, hmem, rfl⟩ := List.mem_map.mp hparameter
  have htype := htypes type (List.fst_mem_of_mem_zipIdx hmem)
  exact (htype.append (by decide)).append (nested_repr i)

theorem nested_braced {header body : String} (hheader : Nested header) (hbody : Nested body) :
    Nested (braced header body) := by
  have hbraces : Nested (header ++ " \x7b\n" ++ "\n\x7d") := by
    rw [String.append_assoc]
    exact hheader.append (by decide)
  exact hbraces.surround hbody

end Snippet

/-! ## Type names -/

/-- A name of a type as it may be reported: a text without brackets, and any
number of bracket pairs behind it. -/
def IsTypeText (type : String) : Prop :=
  ∃ base pairs, (∀ c ∈ base.toList, BracketKinds.all.has c = false) ∧
    type = base ++ bracketPairs pairs

/-- Given the two parts of a closed text, both facts can be evaluated. -/
theorem isTypeText_of_all {type base : String} {pairs : Nat}
    (hfree : base.toList.all (fun c => !BracketKinds.all.has c) = true)
    (htype : type = base ++ bracketPairs pairs) : IsTypeText type := by
  refine ⟨base, pairs, fun c hc => ?_, htype⟩
  simpa using List.all_eq_true.mp hfree c hc

theorem IsTypeText.nested_shortTypeName {type : String} (h : IsTypeText type) :
    Nested (shortTypeName type) := by
  obtain ⟨base, pairs, hfree, rfl⟩ := h
  have hbase : Nested (shortTypeName base) := nested_of_free fun c hc => by
    rw [shortTypeName, String.toList_ofList] at hc
    exact hfree c ((dropQualifiers_sublist _ _).mem hc)
  rw [shortTypeName_append_bracketPairs]
  exact hbase.append (nested_bracketPairs pairs)

theorem ResolvedType.nested_shortName {t : ResolvedType}
    (h : ∀ c ∈ t.element.toList, BracketKinds.all.has c = false) : Nested t.shortName :=
  IsTypeText.nested_shortTypeName ⟨t.element, t.dimensions, h, rfl⟩

end Remedy
