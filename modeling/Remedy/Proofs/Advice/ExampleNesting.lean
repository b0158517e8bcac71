import Remedy.Proofs.Advice.DemoNesting
import Remedy.Proofs.Registry.Builtin
import Remedy.Proofs.Site.NestedFacts

/-!
# Example code nests

Every example is a template that the facts of a site and some demo values are
put into. The templates open and close brackets by hand, but each one closes
what it opens, around code that nests. With the facts of a `BracketFree` site,
whose own brackets nest, the examples of every built-in hint nest, whatever the
random source gives.
-/

namespace Remedy

/-- The examples of the hints, incorrect and corrected, nest. -/
def ExamplesNest (hints : List Hint) : Prop := ∀ h ∈ hints, ∀ code ∈ h.examples, Nested code

theorem examplesNest_nil : ExamplesNest [] := by simp [ExamplesNest]

theorem ExamplesNest.append {hints more : List Hint} (h : ExamplesNest hints)
    (hmore : ExamplesNest more) : ExamplesNest (hints ++ more) := by
  intro hint hmem
  rcases List.mem_append.mp hmem with hfirst | hsecond
  · exact h hint hfirst
  · exact hmore hint hsecond

/-! ## Array creations -/

namespace ArrayCreation

variable {array : ArrayVariable}

theorem nested_declaration (h : array.Nest) {pairs rest : String} (hpairs : Nested pairs)
    (hrest : Nested rest) : Nested (declaration array pairs rest) := by
  simp +decide [declaration, h.elementType, h.name, hpairs, hrest]

theorem examplesNest_missingSizeHints (h : array.Nest) :
    ExamplesNest (missingSizeHints array) := by
  simp +decide [ExamplesNest, missingSizeHints, Hint.examples, nested_declaration h]

theorem examplesNest_missingOuterSizeHints (h : array.Nest) :
    ExamplesNest (missingOuterSizeHints array) := by
  simp +decide [ExamplesNest, missingOuterSizeHints, Hint.examples, nested_declaration h]

theorem examplesNest_sizeAndElementsHints (h : array.Nest) {elements : String}
    (helements : Nested elements) : ExamplesNest (sizeAndElementsHints array elements) := by
  simp +decide [ExamplesNest, sizeAndElementsHints, Hint.examples, nested_declaration h,
    h.elementType, h.name, helements]

end ArrayCreation

/-! ## Method calls -/

namespace MethodCall

theorem nested_text {call : CallFacts} (h : call.Nest) : Nested call.text :=
  Snippet.nested_application h.name h.arguments

theorem nested_classWith {header : String} (h : Nested header) : Nested (classWith header) := by
  have hmethod : Nested ("  " ++ header ++ " \x7b\n    ...\n  \x7d") := by simp +decide [h]
  exact (Snippet.nested_braced (by decide) hmethod).append (by decide)

theorem examplesNest_unknownMethodHints {call : CallFacts} (h : call.Nest)
    {stringDecl objectDecl : String} (hstring : Nested stringDecl) (hobject : Nested objectDecl) :
    ExamplesNest (unknownMethodHints call stringDecl objectDecl) := by
  have hheader : Nested (Snippet.methodHeader call.name "int" call.argumentTypes) :=
    Snippet.nested_methodHeader h.name (by decide) h.argumentTypes
  have hcorrect : Nested (Snippet.application "correctName" call.arguments) :=
    Snippet.nested_application (by decide) h.arguments
  have hmethod : Nested (Snippet.braced _ "  ...") := Snippet.nested_braced hheader (by decide)
  simp +decide [ExamplesNest, unknownMethodHints, Hint.examples, hstring, hobject, hcorrect,
    hmethod, nested_text h, nested_classWith hheader]

theorem nested_program {header call : String} (hheader : Nested header) (hcall : Nested call) :
    Nested (program header call) := by
  have hsetup : Nested (Snippet.braced "void setup()" ("  " ++ call ++ ";")) :=
    Snippet.nested_braced (by decide) (by simp +decide [hcall])
  have hmethod : Nested (Snippet.braced _ "  ...") := Snippet.nested_braced hheader (by decide)
  simp +decide [program, hmethod, hsetup]

theorem examplesNest_mendEither {b : BoundCall} (h : b.Nest) (onCall onMethod : String)
    {mendedCall : String} (hmended : Nested mendedCall) :
    ExamplesNest (mendEither b onCall onMethod mendedCall) := by
  have hheader : ∀ {types}, (∀ type ∈ types, Nested type) → Nested (b.header types) :=
    fun htypes => Snippet.nested_methodHeader h.call.name h.returnType htypes
  have hbad := nested_program (hheader h.requiredTypes) (nested_text h.call)
  have hcall := nested_program (hheader h.requiredTypes) hmended
  have hmethod := nested_program (hheader h.call.argumentTypes) (nested_text h.call)
  simp [ExamplesNest, mendEither, Hint.examples, hbad, hcall, hmethod]

end MethodCall

/-! ## Missing results -/

/-- The pieces of demo code for a missing result nest. -/
structure MethodResult.Examples.Nest (e : Examples) : Prop where
  declaration : Nested e.declaration
  condition : Nested e.condition
  first : Nested e.first
  second : Nested e.second

/-- A branch opens a parenthesis before its condition and a brace before the
value that it returns. -/
theorem MethodResult.nested_branch {condition value : String} (hcondition : Nested condition)
    (hvalue : Nested value) :
    Nested ("  if (" ++ condition ++ ") \x7b\n    return " ++ value ++ ";\n  \x7d") := by
  have hopen : Nested ("  if (" ++ (") \x7b\n    return " ++ ";\n  \x7d")) := by decide
  have hbranch := hopen.surround hcondition
  rw [← String.append_assoc] at hbranch
  exact hbranch.surround hvalue

theorem MethodResult.examplesNest_missingResultHints {method : MethodFacts} (h : method.Nest)
    {e : Examples} (he : e.Nest) : ExamplesNest (missingResultHints method e) := by
  have hheader := Snippet.nested_methodHeader h.name h.returnType h.parameterTypes
  have hbranch := nested_branch he.condition he.first
  have helse : Nested ("  if (" ++ e.condition ++ ") \x7b\n    return " ++ e.first ++ ";\n  \x7d"
      ++ " else \x7b\n    return " ++ e.second ++ ";\n  \x7d") := by
    refine Nested.surround ?_ he.second
    rw [String.append_assoc]
    exact hbranch.append (by decide)
  simp +decide [ExamplesNest, missingResultHints, Hint.examples, Snippet.nested_braced hheader,
    he.declaration, he.second, hbranch, helse]

/-! ## Types of variables -/

namespace VariableType

theorem nested_returningMethod {m : Mismatch} (h : m.Nest) {type declaration : String}
    (htype : Nested type) (hdeclaration : Nested declaration) :
    Nested (returningMethod m type declaration) := by
  have hheader : Nested (type ++ " doSomething()") := htype.append (by decide)
  exact Snippet.nested_braced hheader (by simp +decide [hdeclaration, h.variableName])

theorem examplesNest_returnTypeHint {m : Mismatch} (h : m.Nest) {declaration : String}
    (hdeclaration : Nested declaration) : ExamplesNest [returnTypeHint m declaration] := by
  simp [ExamplesNest, returnTypeHint, Hint.examples, nested_returningMethod h h.required,
    nested_returningMethod h h.provided, hdeclaration]

theorem examplesNest_arithmeticHint {m : Mismatch} (h : m.Nest) {badDecl goodDecl : String}
    (hbad : Nested badDecl) (hgood : Nested goodDecl) :
    ExamplesNest [arithmeticHint m badDecl goodDecl] := by
  have hupdate : Nested ("\n" ++ m.variableName ++ " = " ++ m.variableName ++ " + 3.14;") := by
    simp +decide [h.variableName]
  simp [ExamplesNest, arithmeticHint, Hint.examples, hupdate, hbad, hgood]

variable {σ : Type} [RandomSource σ]

theorem examplesNest_mismatchHints {m : Mismatch} (h : m.Nest) :
    (mismatchHints (σ := σ) m).Ensures ExamplesNest := by
  have hprovided := Demo.ensures_declare (σ := σ) h.provided h.variableName
  have hrequired := Demo.ensures_declare (σ := σ) h.required h.variableName
  have hmixed := Demo.ensures_declareAs (σ := σ) h.required h.variableName h.provided
  refine .bind_of hmixed fun retypeBad hretypeBad => ?_
  refine .bind_of hprovided fun retypeGood hretypeGood => ?_
  refine .bind_of hmixed fun revalueBad hrevalueBad => ?_
  refine .bind_of hrequired fun revalueGood hrevalueGood => ?_
  refine .bind_of hprovided fun returned hreturned => ?_
  have hhints : ExamplesNest
      [retypeHint m retypeBad retypeGood, revalueHint m revalueBad revalueGood] := by
    simp [ExamplesNest, retypeHint, revalueHint, Hint.examples, *]
  have hthree := hhints.append (examplesNest_returnTypeHint h hreturned)
  split
  next =>
    refine .bind_of hrequired fun badDecl hbad => ?_
    refine .bind_of hprovided fun goodDecl hgood => .pure ?_
    exact hthree.append (examplesNest_arithmeticHint h hbad hgood)
  next => exact .pure hthree

theorem examplesNest_unknownClassHints {u : UnknownClass} (h : u.Nest)
    {declaration corrected : String} (hdeclaration : Nested declaration)
    (hcorrected : Nested corrected) :
    ExamplesNest (unknownClassHints u declaration corrected) := by
  have hclass : Nested (Snippet.braced ("class " ++ u.className) "  ...") :=
    Snippet.nested_braced (Nested.append (by decide) h.className) (by decide)
  simp +decide [ExamplesNest, unknownClassHints, Hint.examples, hdeclaration, hcorrected,
    h.className, hclass]

end VariableType

/-! ## The built-in hints -/

namespace Explainers

variable {σ : Type} [RandomSource σ] {site : Site}

theorem ensures_examplesNest (h : site.BracketFree) (kind : Diagnostic.Kind) :
    ((builtin : Explainers σ).hints kind site).Ensures ExamplesNest := by
  cases kind with
  | missingArrayDimension =>
    refine ensures_hints_builtin_of_facts rfl examplesNest_nil fun array harray => .pure ?_
    exact ArrayCreation.examplesNest_missingSizeHints (h.unsizedArray harray)
  | illegalArrayDimension =>
    refine ensures_hints_builtin_of_facts rfl examplesNest_nil fun array harray => .pure ?_
    exact ArrayCreation.examplesNest_missingOuterSizeHints (h.createdArray harray)
  | arrayDimensionWithInitializer =>
    refine ensures_hints_builtin_of_facts rfl examplesNest_nil fun array harray => ?_
    have hnest := h.createdArray harray
    refine .bind_of (Demo.ensures_elements hnest.elementType 5) fun elements helements => .pure ?_
    exact ArrayCreation.examplesNest_sizeAndElementsHints hnest helements
  | undefinedMethod =>
    refine ensures_hints_builtin_of_facts rfl examplesNest_nil fun call hcall => ?_
    refine .bind_of (Demo.ensures_declare (by decide) (by decide)) fun stringDecl hstring => ?_
    refine .bind_of (Demo.ensures_declare (by decide) (by decide)) fun objectDecl hobject => ?_
    exact .pure (MethodCall.examplesNest_unknownMethodHints (h.call hcall) hstring hobject)
  | parameterMismatch =>
    refine ensures_hints_builtin_of_facts rfl examplesNest_nil fun b hb => ?_
    have hnest := h.boundCall hb
    have hcall := Demo.ensures_call (σ := σ) hnest.call.name hnest.requiredTypes
    refine .bind_of hcall fun mended hmended => ?_
    have htypes := MethodCall.examplesNest_mendEither hnest
    split
    next => exact .pure (htypes _ _ hmended)
    next =>
      refine .bind_of hcall fun mendedCount hcount => .pure ?_
      exact (htypes _ _ hmended).append (htypes _ _ hcount)
  | missingReturn =>
    refine ensures_hints_builtin_of_facts rfl examplesNest_nil fun method hmethod => ?_
    have hnest := h.methodWithResult hmethod
    have hvalue := Demo.ensures_value (σ := σ) hnest.returnType
    refine .bind_of (Demo.ensures_declare hnest.returnType (by decide))
      fun declaration hdeclaration => ?_
    refine .bind_of (Demo.ensures_value (by decide)) fun condition hcondition => ?_
    refine .bind_of hvalue fun first hfirst => .bind_of hvalue fun second hsecond => .pure ?_
    exact MethodResult.examplesNest_missingResultHints hnest
      ⟨hdeclaration, hcondition, hfirst, hsecond⟩
  | typeMismatch =>
    refine ensures_hints_builtin_of_facts rfl examplesNest_nil fun m hm => ?_
    exact VariableType.examplesNest_mismatchHints (h.mismatch hm)
  | undefinedType =>
    refine ensures_hints_builtin_of_facts rfl examplesNest_nil fun u hu => ?_
    have hnest := h.unknownClassFacts hu
    refine .bind_of (Demo.ensures_declare hnest.className hnest.variableName)
      fun declaration hdeclaration => ?_
    refine .bind_of (Demo.ensures_declare (by decide) hnest.variableName)
      fun corrected hcorrected => .pure ?_
    exact VariableType.examplesNest_unknownClassHints hnest hdeclaration hcorrected
  | _ =>
    intro source
    rw [hints_builtin_of_none rfl]
    exact examplesNest_nil

/-- **Example code nests.** At a site where the texts of the leaves and the names
of the resolved types are free of brackets, and where the arguments of the
diagnostic have them only as the pairs of an array type, the incorrect and the
corrected code of every built-in hint nests in all three kinds of brackets, from
every random source. -/
theorem nests_examples_builtin (site : Site) (free : site.BracketFree) (kind : Diagnostic.Kind)
    (source : σ) :
    ∀ hint ∈ ((builtin : Explainers σ).hints kind site source).1,
      ∀ code ∈ hint.bad ++ hint.good, BracketKinds.all.Nests code.toList :=
  ensures_examplesNest free kind source

/-- The initializer of `row = f(grid[0])`, reported as a list of arrays where a
grid is declared. -/
def gridSite : Site where
  tree :=
    (Draft.toTree
      ⟨#[{ kind := .simpleName "row" }, { kind := .simpleName "f" },
        { kind := .simpleName "grid" }, { kind := .numberLit "0" },
        { kind := .arrayAccess 2 3, resolved := some { element := "int", dimensions := 1 } },
        { kind := .call none 1 [4] none },
        { kind := .declarator 0 (some 5) (some { element := "int", dimensions := 2 }) }]⟩
      6).toOption.get (by decide +kernel)
  anchor := 5
  arguments := ["java.util.List<java.lang.String>[]", "int[][]"]

theorem nests_examples_builtin_grid :
    gridSite.BracketFree ∧ (VariableType.mismatch gridSite).isOk = true ∧
      ∀ hint ∈ ((builtin : Explainers ListedWords).hints .typeMismatch gridSite ⟨[]⟩).1,
        ∀ code ∈ hint.bad ++ hint.good, BracketKinds.all.Nests code.toList := by
  have hfree : gridSite.BracketFree := by
    refine ⟨by decide +kernel, by decide +kernel, ?_⟩
    have hlist : IsTypeText ("java.util.List<java.lang.String>" ++ bracketPairs 1) :=
      isTypeText_of_all (by decide +kernel) rfl
    have hgrid : IsTypeText ("int" ++ bracketPairs 2) := isTypeText_of_all (by decide +kernel) rfl
    simpa [gridSite, bracketPairs] using And.intro hlist hgrid
  have hfound : (VariableType.mismatch gridSite).isOk = true := by decide +kernel
  have hnests := nests_examples_builtin gridSite hfree .typeMismatch (⟨[]⟩ : ListedWords)
  exact ⟨hfree, hfound, hnests⟩

end Explainers

end Remedy
