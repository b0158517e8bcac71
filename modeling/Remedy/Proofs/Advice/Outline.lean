import Remedy.Proofs.Advice.DemoTexts
import Remedy.Proofs.Registry.Builtin

/-!
# What random words cannot change

Only demo values are drawn. They go into the code of examples, and nothing that
is drawn decides which hints there are. So the outline of the hints, that is
their texts and the numbers of their examples, is the same from any two random
sources, even of different types. Three kinds show no drawn value at all: the
two array creations without a size, and the unknown method, whose demo values
are a text and an object.
-/

namespace Remedy

/-- A hint without the code of its examples. -/
structure Hint.Outline where
  problem : String
  suggestion : String
  badCount : Nat
  goodCount : Nat
deriving DecidableEq

/-- The texts of a hint and the numbers of its examples. -/
def Hint.outline (h : Hint) : Hint.Outline where
  problem := h.problem
  suggestion := h.suggestion
  badCount := h.bad.length
  goodCount := h.good.length

/-- As many hints, with the same outlines in the same order. -/
def SameOutlines (hints others : List Hint) : Prop :=
  hints.map Hint.outline = others.map Hint.outline

variable {σ τ : Type} [RandomSource σ] [RandomSource τ]

/-! ## Demo values that are not drawn -/

theorem DemoForm.Fixed.agree_draw {form : DemoForm} (h : form.Fixed) :
    Draw.Agree Eq (form.draw (σ := σ)) (form.draw (σ := τ)) := by
  intro source other
  obtain ⟨text, htext⟩ := h.exists_text
  rw [htext source, htext other]

theorem Demo.agree_declare {type : String} (h : (DemoForm.ofType type).Fixed) (name : String) :
    Draw.Agree Eq (declare (σ := σ) type name) (declare (σ := τ) type name) := by
  refine .bind_of h.agree_draw fun v w hv => .pure ?_
  rw [hv]

/-! ## Hints written from the same facts -/

theorem SameOutlines.append {hints others more further : List Hint} (h : SameOutlines hints others)
    (hmore : SameOutlines more further) : SameOutlines (hints ++ more) (others ++ further) := by
  unfold SameOutlines at h hmore ⊢
  rw [List.map_append, List.map_append, h, hmore]

namespace ArrayCreation

theorem sameOutlines_sizeAndElementsHints (array : ArrayVariable) (elements others : String) :
    SameOutlines (sizeAndElementsHints array elements) (sizeAndElementsHints array others) := by
  simp [SameOutlines, Hint.outline, sizeAndElementsHints]

end ArrayCreation

namespace MethodCall

theorem sameOutlines_mendEither (b : BoundCall) (onCall onMethod mended other : String) :
    SameOutlines (mendEither b onCall onMethod mended) (mendEither b onCall onMethod other) := by
  simp [SameOutlines, Hint.outline, mendEither]

theorem sameOutlines_wrongTypesHints (b : BoundCall) (mended other : String) :
    SameOutlines (wrongTypesHints b mended) (wrongTypesHints b other) :=
  sameOutlines_mendEither b _ _ mended other

theorem sameOutlines_wrongCountHints (b : BoundCall) (mended other : String) :
    SameOutlines (wrongCountHints b mended) (wrongCountHints b other) :=
  sameOutlines_mendEither b _ _ mended other

end MethodCall

theorem MethodResult.sameOutlines_missingResultHints (method : MethodFacts) (e e' : Examples) :
    SameOutlines (missingResultHints method e) (missingResultHints method e') := by
  simp [SameOutlines, Hint.outline, missingResultHints]

namespace VariableType

/-- A fourth hint is given for the types of the mismatch, not for what is drawn. -/
theorem agree_mismatchHints (m : Mismatch) :
    Draw.Agree SameOutlines (mismatchHints (σ := σ) m) (mismatchHints (σ := τ) m) := by
  unfold mismatchHints
  refine .bind _ _ fun retypeBad retypeBad' => .bind _ _ fun retypeGood retypeGood' =>
    .bind _ _ fun revalueBad revalueBad' => .bind _ _ fun revalueGood revalueGood' =>
    .bind _ _ fun returned returned' => ?_
  have hthree :
      SameOutlines
        [retypeHint m retypeBad retypeGood, revalueHint m revalueBad revalueGood,
          returnTypeHint m returned]
        [retypeHint m retypeBad' retypeGood', revalueHint m revalueBad' revalueGood',
          returnTypeHint m returned'] := by
    simp [SameOutlines, Hint.outline, retypeHint, revalueHint, returnTypeHint]
  by_cases hmixed : m.isFloatInInt = true
  · rw [if_pos hmixed, if_pos hmixed]
    refine .bind _ _ fun badDecl badDecl' => .bind _ _ fun goodDecl goodDecl' => .pure ?_
    exact hthree.append (by simp [SameOutlines, Hint.outline, arithmeticHint])
  · rw [if_neg hmixed, if_neg hmixed]
    exact .pure hthree

theorem sameOutlines_unknownClassHints (u : UnknownClass)
    (declaration corrected declaration' corrected' : String) :
    SameOutlines (unknownClassHints u declaration corrected)
      (unknownClassHints u declaration' corrected') := by
  simp [SameOutlines, Hint.outline, unknownClassHints]

end VariableType

/-! ## The built-in hints -/

namespace Explainers

variable {kind : Diagnostic.Kind} {site : Site}

/-- The hints of a kind agree if none agree with none, and if those agree that
are written from the same facts. -/
theorem agree_hints_builtin_of_facts {α : Type} {R : List Hint → List Hint → Prop}
    {facts : Site → Except SiteError α} {write : α → Draw σ (List Hint)}
    {write' : α → Draw τ (List Hint)} (h : builtinFor? kind = some (.ofFacts kind facts write))
    (h' : builtinFor? kind = some (.ofFacts kind facts write')) (hnone : R [] [])
    (hwrite : ∀ found, Draw.Agree R (write found) (write' found)) :
    Draw.Agree R ((builtin : Explainers σ).hints kind site)
      ((builtin : Explainers τ).hints kind site) := by
  intro source other
  rw [hints_builtin_of_facts h, hints_builtin_of_facts h']
  cases facts site with
  | ok found => exact hwrite found source other
  | error error => exact hnone

/-- The kinds whose hints show no drawn value. -/
def fixedKinds : List Diagnostic.Kind :=
  [.missingArrayDimension, .illegalArrayDimension, .undefinedMethod]

theorem agree_hints_builtin_of_fixed (hkind : kind ∈ fixedKinds) :
    Draw.Agree Eq ((builtin : Explainers σ).hints kind site)
      ((builtin : Explainers τ).hints kind site) := by
  simp only [fixedKinds, List.mem_cons, List.not_mem_nil, or_false] at hkind
  rcases hkind with rfl | rfl | rfl
  · exact agree_hints_builtin_of_facts rfl rfl rfl fun array => .pure rfl
  · exact agree_hints_builtin_of_facts rfl rfl rfl fun array => .pure rfl
  · have hstring : (DemoForm.ofType "String").Fixed := by
      have hform : DemoForm.ofType "String" = .greeting := by decide
      exact hform ▸ .greeting
    have hobject : (DemoForm.ofType "YourClass").Fixed := by
      have hform : DemoForm.ofType "YourClass" = .object "YourClass" := by decide
      exact hform ▸ .object "YourClass"
    refine agree_hints_builtin_of_facts rfl rfl rfl fun call => ?_
    refine .bind_of (Demo.agree_declare hstring "str") fun stringDecl _ heq => ?_
    refine .bind_of (Demo.agree_declare hobject "myObject") fun objectDecl _ heq' => ?_
    exact .pure (heq ▸ heq' ▸ rfl)

theorem agree_outlines_hints_builtin (kind : Diagnostic.Kind) (site : Site) :
    Draw.Agree SameOutlines ((builtin : Explainers σ).hints kind site)
      ((builtin : Explainers τ).hints kind site) := by
  have hfixed : kind ∈ fixedKinds → Draw.Agree SameOutlines
      ((builtin : Explainers σ).hints kind site) ((builtin : Explainers τ).hints kind site) :=
    fun h => (agree_hints_builtin_of_fixed h).imp fun _ _ heq => heq ▸ rfl
  cases kind with
  | missingArrayDimension => exact hfixed (by decide)
  | illegalArrayDimension => exact hfixed (by decide)
  | undefinedMethod => exact hfixed (by decide)
  | arrayDimensionWithInitializer =>
    refine agree_hints_builtin_of_facts rfl rfl rfl fun array => ?_
    refine .bind _ _ fun elements elements' => .pure ?_
    exact ArrayCreation.sameOutlines_sizeAndElementsHints array elements elements'
  | parameterMismatch =>
    refine agree_hints_builtin_of_facts rfl rfl rfl fun b => ?_
    refine .bind _ _ fun mended mended' => ?_
    have htypes := MethodCall.sameOutlines_wrongTypesHints b mended mended'
    -- The arguments are counted, not drawn, so both runs take the same branch.
    by_cases hsame : b.sameCount = true
    · rw [if_pos hsame, if_pos hsame]
      exact .pure htypes
    · rw [if_neg hsame, if_neg hsame]
      refine .bind _ _ fun mendedCount mendedCount' => .pure ?_
      exact htypes.append (MethodCall.sameOutlines_wrongCountHints b mendedCount mendedCount')
  | missingReturn =>
    refine agree_hints_builtin_of_facts rfl rfl rfl fun method => ?_
    refine .bind _ _ fun declaration declaration' => .bind _ _ fun condition condition' =>
      .bind _ _ fun first first' => .bind _ _ fun second second' => .pure ?_
    exact MethodResult.sameOutlines_missingResultHints method _ _
  | typeMismatch =>
    exact agree_hints_builtin_of_facts rfl rfl rfl VariableType.agree_mismatchHints
  | undefinedType =>
    refine agree_hints_builtin_of_facts rfl rfl rfl fun u => ?_
    refine .bind _ _ fun declaration declaration' => .bind _ _ fun corrected corrected' =>
      .pure ?_
    exact VariableType.sameOutlines_unknownClassHints u _ _ _ _
  | _ =>
    intro source other
    rw [hints_builtin_of_none rfl, hints_builtin_of_none rfl]
    rfl

/-- **Hints do not depend on what is drawn.** From any two random sources, of one
type or of two, a kind of diagnostic has at a site

* as many hints, with the same problem, the same suggestion and the same numbers
  of incorrect and corrected examples in every place;
* the very same hints if the kind shows no drawn value. -/
theorem hints_builtin_independent (kind : Diagnostic.Kind) (site : Site) (source : σ) (other : τ) :
    let hints := ((builtin : Explainers σ).hints kind site source).1
    let hints' := ((builtin : Explainers τ).hints kind site other).1
    hints.map Hint.outline = hints'.map Hint.outline ∧
      (kind ∈ fixedKinds → hints = hints') :=
  ⟨agree_outlines_hints_builtin kind site source other,
    fun hkind => agree_hints_builtin_of_fixed hkind source other⟩

end Explainers

end Remedy
