import Remedy.Proofs.Registry.Builtin
import Remedy.Proofs.Site.Lookup

/-!
# The table of built-in hints

How many hints a diagnostic gets is settled by its kind and, for two kinds, by a
fact of the site: whether the call has the wrong number of arguments, and
whether a float meets an integer. `HintTable` writes this down row by row.

The hints of one diagnostic are alternatives. They name one problem, no two of
them suggest the same change, and each one contrasts incorrect with corrected
code. The learner's own names and types stand inside those texts, so the
suggestions are told apart by the words around them.

The built-in registry follows the table wherever the facts of the kind can be
found, and gives no hints elsewhere.
-/

namespace Remedy

/-- The number of hints that a kind of diagnostic has at a site. -/
inductive HintTable (site : Site) : Diagnostic.Kind → Nat → Prop where
  | missingArrayDimension : HintTable site .missingArrayDimension 1
  | illegalArrayDimension : HintTable site .illegalArrayDimension 1
  | arrayDimensionWithInitializer : HintTable site .arrayDimensionWithInitializer 1
  | undefinedMethod : HintTable site .undefinedMethod 4
  /-- The arguments of the call above the anchor are counted against the
  parameters of its method. -/
  | parameterMismatch {id : NodeId} {receiver : Option NodeId} {name : NodeId}
      {arguments : List NodeId} {binding : ResolvedMethod}
      (parent : site.tree.parent? site.anchor = some id)
      (call : site.tree.kind? id = some (.call receiver name arguments (some binding))) :
      HintTable site .parameterMismatch
        (if arguments.length = binding.parameters.length then 2 else 4)
  | missingReturn : HintTable site .missingReturn 2
  /-- The first two arguments of the diagnostic are the value's type and the
  declared one. -/
  | typeMismatch {provided required : String}
      (first : site.arguments[0]? = some provided) (second : site.arguments[1]? = some required) :
      HintTable site .typeMismatch
        (if shortTypeName provided = "float" ∧ shortTypeName required = "int" then 4 else 3)
  | undefinedType : HintTable site .undefinedType 4

/-- The hints offer different changes for one problem, and each comes with
examples of both sorts. -/
structure Alternatives (hints : List Hint) : Prop where
  problem : ∃ text, ∀ h ∈ hints, h.problem = text
  suggestion : (hints.map Hint.suggestion).Nodup
  bad : ∀ h ∈ hints, h.bad ≠ []
  good : ∀ h ∈ hints, h.good ≠ []

/-! ## The lists of hints -/

theorem alternatives_singleton {h : Hint} (hbad : h.bad ≠ []) (hgood : h.good ≠ []) :
    Alternatives [h] where
  problem := ⟨h.problem, by simp⟩
  suggestion := by simp
  bad := by simpa using hbad
  good := by simpa using hgood

namespace ArrayCreation

theorem alternatives_missingSizeHints (array : ArrayVariable) :
    Alternatives (missingSizeHints array) :=
  alternatives_singleton (by simp) (by simp)

theorem alternatives_missingOuterSizeHints (array : ArrayVariable) :
    Alternatives (missingOuterSizeHints array) :=
  alternatives_singleton (by simp) (by simp)

theorem alternatives_sizeAndElementsHints (array : ArrayVariable) (elements : String) :
    Alternatives (sizeAndElementsHints array elements) :=
  alternatives_singleton (by simp) (by simp)

end ArrayCreation

namespace MethodCall

theorem alternatives_unknownMethodHints (call : CallFacts) (stringDecl objectDecl : String) :
    Alternatives (unknownMethodHints call stringDecl objectDecl) where
  problem := ⟨_, by simp [unknownMethodHints]; rfl⟩
  -- As lists of characters, any two suggestions differ before a name comes in
  -- their way, or in what follows the same name.
  suggestion := by simp [unknownMethodHints, ← String.toList_inj]
  bad := by simp [unknownMethodHints]
  good := by simp [unknownMethodHints]

theorem alternatives_wrongTypesHints_append (b : BoundCall) (mended mendedCount : String) :
    Alternatives (wrongTypesHints b mended ++ wrongCountHints b mendedCount) where
  problem := ⟨_, by simp [wrongTypesHints, wrongCountHints, mendEither]; rfl⟩
  suggestion := by
    simp [wrongTypesHints, wrongCountHints, mendEither, ← String.toList_inj]
  bad := by simp [wrongTypesHints, wrongCountHints, mendEither]
  good := by simp [wrongTypesHints, wrongCountHints, mendEither]

end MethodCall

/-- Alternatives remain when some are left out at the end. -/
theorem Alternatives.of_append {hints more : List Hint} (h : Alternatives (hints ++ more)) :
    Alternatives hints where
  problem := by
    obtain ⟨text, htext⟩ := h.problem
    exact ⟨text, fun hint hmem => htext hint (List.mem_append_left more hmem)⟩
  suggestion := by
    have := h.suggestion
    rw [List.map_append] at this
    exact (List.nodup_append.mp this).1
  bad := fun hint hmem => h.bad hint (List.mem_append_left more hmem)
  good := fun hint hmem => h.good hint (List.mem_append_left more hmem)

theorem MethodResult.alternatives_missingResultHints (method : MethodFacts) (e : Examples) :
    Alternatives (missingResultHints method e) where
  problem := ⟨_, by simp [missingResultHints]; rfl⟩
  suggestion := by simp [missingResultHints, ← String.toList_inj]
  bad := by simp [missingResultHints]
  good := by simp [missingResultHints]

namespace VariableType

theorem alternatives_allMismatchHints (m : Mismatch) (retypeBad retypeGood revalueBad
    revalueGood returned badDecl goodDecl : String) :
    Alternatives
      ([retypeHint m retypeBad retypeGood, revalueHint m revalueBad revalueGood,
          returnTypeHint m returned] ++ [arithmeticHint m badDecl goodDecl]) where
  problem := ⟨m.problem, by simp [retypeHint, revalueHint, returnTypeHint, arithmeticHint]⟩
  suggestion := by
    simp [retypeHint, revalueHint, returnTypeHint, arithmeticHint, ← String.toList_inj]
  bad := by simp [retypeHint, revalueHint, returnTypeHint, arithmeticHint]
  good := by simp [retypeHint, revalueHint, returnTypeHint, arithmeticHint]

/-- Three hints for a mismatch, and a fourth where a float meets an integer. -/
theorem ensures_mismatchHints {σ : Type} [RandomSource σ] (m : Mismatch) :
    (mismatchHints (σ := σ) m).Ensures fun hints =>
      hints.length = (if m.isFloatInInt then 4 else 3) ∧ Alternatives hints := by
  unfold mismatchHints
  refine .bind _ fun retypeBad => .bind _ fun retypeGood => .bind _ fun revalueBad =>
    .bind _ fun revalueGood => .bind _ fun returned => ?_
  split
  next hmixed =>
    refine .bind _ fun badDecl => .bind _ fun goodDecl => .pure ⟨?_, ?_⟩
    · rfl
    · exact alternatives_allMismatchHints ..
  next =>
    -- The hint that is left out may have any declarations.
    refine .pure ⟨?_, ?_⟩
    · rfl
    · exact (alternatives_allMismatchHints m _ _ _ _ _ "" "").of_append

theorem alternatives_unknownClassHints (u : UnknownClass) (declaration corrected : String) :
    Alternatives (unknownClassHints u declaration corrected) where
  problem := ⟨_, by simp [unknownClassHints]; rfl⟩
  suggestion := by simp [unknownClassHints, ← String.toList_inj]
  bad := by simp [unknownClassHints]
  good := by simp [unknownClassHints]

end VariableType

/-! ## The table -/

/-- The table has no empty rows. -/
theorem HintTable.pos {site : Site} {kind : Diagnostic.Kind} {n : Nat}
    (h : HintTable site kind n) : 0 < n := by
  cases h with
  | parameterMismatch | typeMismatch => split <;> decide
  | _ => decide

/-- The facts from which the hints of a kind are written can be found. -/
def Site.factsFound (site : Site) : Diagnostic.Kind → Bool
  | .missingArrayDimension => site.unsizedArray.isOk
  | .illegalArrayDimension => site.createdArray.isOk
  | .arrayDimensionWithInitializer => site.createdArray.isOk
  | .undefinedMethod => site.call.isOk
  | .parameterMismatch => (MethodCall.boundCall site).isOk
  | .missingReturn => (MethodResult.methodWithResult site).isOk
  | .typeMismatch => (VariableType.mismatch site).isOk
  | .undefinedType => (VariableType.unknownClassFacts site).isOk
  | _ => false

/-- The number of arguments that are typed is the number of arguments. -/
theorem MethodCall.hintTable_of_boundCall {site : Site} {b : BoundCall}
    (h : boundCall site = .ok b) :
    HintTable site .parameterMismatch (if b.sameCount then 2 else 4) := by
  obtain ⟨hcall, hbinding⟩ := boundCall_eq_ok h
  obtain ⟨id, receiver, name, arguments, hparent, hkind, _, _, htypes⟩ := Site.call_eq_ok hcall
  rw [hbinding] at hkind
  have hcount : b.sameCount = true ↔ arguments.length = b.binding.parameters.length := by
    rw [BoundCall.sameCount, ← htypes.length_eq, beq_iff_eq]
  simp only [hcount]
  exact .parameterMismatch hparent hkind

theorem VariableType.hintTable_of_mismatch {site : Site} {m : Mismatch}
    (h : mismatch site = .ok m) :
    HintTable site .typeMismatch (if m.isFloatInInt then 4 else 3) := by
  obtain ⟨provided, required, hfirst, hsecond, hprovided, hrequired⟩ := mismatch_eq_ok h
  simp only [Mismatch.isFloatInInt, hprovided, hrequired, Bool.and_eq_true, beq_iff_eq]
  exact .typeMismatch hfirst hsecond

namespace Explainers

variable {σ : Type} [RandomSource σ] {kind : Diagnostic.Kind} {site : Site}

/-- The hints of a kind follow the table if what is written from its facts does. -/
theorem hints_builtin_follow {α : Type} {facts : Site → Except SiteError α}
    {write : α → Draw σ (List Hint)} (h : builtinFor? kind = some (.ofFacts kind facts write))
    (hwrite : ∀ found, facts site = .ok found → (write found).Ensures fun hints =>
      HintTable site kind hints.length ∧ Alternatives hints) (source : σ) :
    if (facts site).isOk then
      HintTable site kind ((builtin : Explainers σ).hints kind site source).1.length ∧
        Alternatives ((builtin : Explainers σ).hints kind site source).1
    else ((builtin : Explainers σ).hints kind site source).1 = [] := by
  rw [hints_builtin_of_facts h]
  cases hfacts : facts site with
  | ok found => exact hwrite found hfacts source
  | error e => rfl

/-- Where the facts of a kind are found its hints follow the table, and elsewhere
there are none. -/
theorem hints_builtin_cases (kind : Diagnostic.Kind) (site : Site) (source : σ) :
    if site.factsFound kind then
      HintTable site kind ((builtin : Explainers σ).hints kind site source).1.length ∧
        Alternatives ((builtin : Explainers σ).hints kind site source).1
    else ((builtin : Explainers σ).hints kind site source).1 = [] := by
  cases kind with
  | missingArrayDimension =>
    refine hints_builtin_follow rfl (fun array _ => .pure ?_) source
    exact ⟨.missingArrayDimension, ArrayCreation.alternatives_missingSizeHints array⟩
  | illegalArrayDimension =>
    refine hints_builtin_follow rfl (fun array _ => .pure ?_) source
    exact ⟨.illegalArrayDimension, ArrayCreation.alternatives_missingOuterSizeHints array⟩
  | arrayDimensionWithInitializer =>
    refine hints_builtin_follow rfl (fun array _ => .bind _ fun elements => .pure ?_) source
    exact ⟨.arrayDimensionWithInitializer,
      ArrayCreation.alternatives_sizeAndElementsHints array elements⟩
  | undefinedMethod =>
    refine hints_builtin_follow rfl
      (fun call _ => .bind _ fun stringDecl => .bind _ fun objectDecl => .pure ?_) source
    exact ⟨.undefinedMethod, MethodCall.alternatives_unknownMethodHints call stringDecl objectDecl⟩
  | parameterMismatch =>
    refine hints_builtin_follow rfl (fun b hb => ?_) source
    have htable := MethodCall.hintTable_of_boundCall hb
    refine .bind _ fun mended => ?_
    -- With the right count the last two of the four hints are left out. The call
    -- that they would show does not matter.
    by_cases hsame : b.sameCount = true
    · rw [if_pos hsame] at htable ⊢
      have hall := MethodCall.alternatives_wrongTypesHints_append b mended ""
      exact .pure ⟨htable, hall.of_append⟩
    · rw [if_neg hsame] at htable ⊢
      refine .bind _ fun mendedCount => .pure ⟨htable, ?_⟩
      exact MethodCall.alternatives_wrongTypesHints_append b mended mendedCount
  | missingReturn =>
    refine hints_builtin_follow rfl (fun method _ => .bind _ fun declaration =>
      .bind _ fun condition => .bind _ fun first => .bind _ fun second => .pure ?_) source
    exact ⟨.missingReturn, MethodResult.alternatives_missingResultHints method _⟩
  | typeMismatch =>
    refine hints_builtin_follow rfl (fun m hm => ?_) source
    intro source
    obtain ⟨hlength, halternatives⟩ := VariableType.ensures_mismatchHints m source
    exact ⟨hlength ▸ VariableType.hintTable_of_mismatch hm, halternatives⟩
  | undefinedType =>
    refine hints_builtin_follow rfl
      (fun u _ => .bind _ fun declaration => .bind _ fun corrected => .pure ?_) source
    exact ⟨.undefinedType, VariableType.alternatives_unknownClassHints u declaration corrected⟩
  | _ => exact congrArg Prod.fst (hints_builtin_of_none rfl source)

/-- There are hints exactly where their facts are found. -/
theorem hints_builtin_ne_nil_iff {source : σ} :
    ((builtin : Explainers σ).hints kind site source).1 ≠ [] ↔ site.factsFound kind = true := by
  have hcases := hints_builtin_cases kind site source
  split at hcases
  next hfound => exact iff_of_true (List.ne_nil_of_length_pos hcases.1.pos) hfound
  next hmissing => exact iff_of_false (not_not_intro hcases) hmissing

/-- **The table of built-in hints.** At every site and from every random source,
the hints of a kind

* are none, or as many as the table says, naming one problem and suggesting
  different changes, each with incorrect and corrected code;
* are none exactly if a fact that they are written from is missing;
* are none if no built-in explainer serves the kind. -/
theorem hints_builtin_table (kind : Diagnostic.Kind) (site : Site) (source : σ) :
    let found := ((builtin : Explainers σ).hints kind site source).1
    (found = [] ∨ HintTable site kind found.length ∧ Alternatives found) ∧
      (found = [] ↔ site.factsFound kind = false) ∧
      ((builtin : Explainers σ).serves kind = false → found = []) := by
  intro found
  have hcases := hints_builtin_cases kind site source
  refine ⟨?_, ?_, ?_⟩
  · split at hcases
    next hfacts => exact .inr hcases
    next hmissing => exact .inl hcases
  · split at hcases
    next hfacts =>
      have hne : found ≠ [] := List.ne_nil_of_length_pos hcases.1.pos
      simp [hne, hfacts]
    next hmissing => exact iff_of_true hcases (by simpa using hmissing)
  · intro hserves
    rw [serves_builtin] at hserves
    have hnone := Option.not_isSome_iff_eq_none.mp (Bool.eq_false_iff.mp hserves)
    exact congrArg Prod.fst (hints_builtin_of_none hnone source)

end Explainers

end Remedy
