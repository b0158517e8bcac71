import Remedy.Proofs.Registry.Dispatch
import Remedy.Registry.LinkMakers

/-!
# The built-in explainers and link makers by kind

Each kind of diagnostic has one built-in explainer or none, and every built-in
explainer is made by `Explainer.ofFacts`: it looks up its facts, and then either
gives up or writes hints. What the built-in registry answers at a site is
therefore a matter of that one look-up.

Each kind also has one built-in link maker or none, and the registry of link
makers answers with the query of that maker.
-/

namespace Remedy

namespace Explainers

variable {σ : Type} {r : Explainers σ} {kind : Diagnostic.Kind} {site : Site}

/-! ## Registries with one explainer for a kind -/

theorem hints_of_explainersFor_nil (h : r.explainersFor kind = []) (source : σ) :
    r.hints kind site source = ([], source) := by
  apply hints_of_ok
  rw [h]
  rfl

/-- The only explainer for a kind speaks for the registry. -/
theorem explain_of_explainersFor_singleton {e : Explainer σ} (h : r.explainersFor kind = [e])
    (source : σ) : r.explain kind site source = e.explain site source := by
  have hnil : ∀ source, explainAll ([] : List (Explainer σ)) site source = (.ok [], source) :=
    fun _ => rfl
  show explainAll (r.explainersFor kind) site source = _
  rw [h, explainAll_cons]
  split
  next error middle he => rw [he]
  next found middle he =>
    rw [he, hnil]
    simp only [List.append_nil]

theorem hints_of_explainersFor_singleton {e : Explainer σ} (h : r.explainersFor kind = [e])
    (source : σ) :
    r.hints kind site source =
      match e.explain site source with
      | (.ok found, final) => (found, final)
      | (.error _, final) => ([], final) := by
  have hrun : explainAll (r.explainersFor kind) site source = e.explain site source :=
    explain_of_explainersFor_singleton h source
  cases he : e.explain site source with
  | mk outcome final =>
    rw [he] at hrun
    cases outcome with
    | ok found => exact hints_of_ok hrun
    | error error => exact hints_of_error hrun

/-- An explainer that looks up facts first answers with nothing, drawing
nothing, or with the hints of its facts. -/
theorem hints_of_explainersFor_ofFacts {α : Type} {facts : Site → Except SiteError α}
    {write : α → Draw σ (List Hint)} (h : r.explainersFor kind = [.ofFacts kind facts write])
    (source : σ) :
    r.hints kind site source =
      match facts site with
      | .ok found => write found source
      | .error _ => ([], source) := by
  rw [hints_of_explainersFor_singleton h]
  cases hfacts : facts site with
  | ok found =>
    rw [Explainer.run_ofFacts_ok hfacts]
    rfl
  | error error => rw [Explainer.run_ofFacts_error hfacts]

/-! ## The built-in registry -/

variable [RandomSource σ]

/-- The built-in explainer of a kind. -/
def builtinFor? : Diagnostic.Kind → Option (Explainer σ)
  | .missingArrayDimension => some ArrayCreation.missingSize
  | .illegalArrayDimension => some ArrayCreation.missingOuterSize
  | .arrayDimensionWithInitializer => some ArrayCreation.sizeAndElements
  | .undefinedMethod => some MethodCall.unknownMethod
  | .parameterMismatch => some MethodCall.wrongArguments
  | .missingReturn => some MethodResult.missingResult
  | .typeMismatch => some VariableType.wrongValue
  | .undefinedType => some VariableType.unknownClass
  | _ => none

theorem explainersFor_builtin (kind : Diagnostic.Kind) :
    (builtin : Explainers σ).explainersFor kind = (builtinFor? kind).toList := by
  cases kind <;> rfl

theorem explainersFor_builtin_of_some {e : Explainer σ} (h : builtinFor? kind = some e) :
    (builtin : Explainers σ).explainersFor kind = [e] := by
  rw [explainersFor_builtin, h]
  rfl

theorem serves_builtin (kind : Diagnostic.Kind) :
    (builtin : Explainers σ).serves kind = (builtinFor? (σ := σ) kind).isSome := by
  cases kind <;> rfl

theorem hints_builtin_of_none (h : builtinFor? (σ := σ) kind = none) (source : σ) :
    (builtin : Explainers σ).hints kind site source = ([], source) := by
  apply hints_of_explainersFor_nil
  rw [explainersFor_builtin, h]
  rfl

theorem hints_builtin_of_facts {α : Type} {facts : Site → Except SiteError α}
    {write : α → Draw σ (List Hint)} (h : builtinFor? kind = some (.ofFacts kind facts write))
    (source : σ) :
    (builtin : Explainers σ).hints kind site source =
      match facts site with
      | .ok found => write found source
      | .error _ => ([], source) := by
  exact hints_of_explainersFor_ofFacts (explainersFor_builtin_of_some h) source

/-- What is ensured of the hints that are written from the facts holds of all
hints of the kind, if it holds of none. -/
theorem ensures_hints_builtin_of_facts {α : Type} {facts : Site → Except SiteError α}
    {write : α → Draw σ (List Hint)} {P : List Hint → Prop}
    (h : builtinFor? kind = some (.ofFacts kind facts write)) (hnone : P [])
    (hwrite : ∀ found, facts site = .ok found → (write found).Ensures P) :
    ((builtin : Explainers σ).hints kind site).Ensures P := by
  intro source
  rw [hints_builtin_of_facts h]
  cases hfacts : facts site with
  | ok found => exact hwrite found hfacts source
  | error e => exact hnone

theorem explain_builtin_of_facts {α : Type} {facts : Site → Except SiteError α}
    {write : α → Draw σ (List Hint)} (h : builtinFor? kind = some (.ofFacts kind facts write))
    {found : α} (hfound : facts site = .ok found) (source : σ) :
    (builtin : Explainers σ).explain kind site source =
      (.ok (write found source).1, (write found source).2) := by
  rw [explain_of_explainersFor_singleton (explainersFor_builtin_of_some h),
    Explainer.run_ofFacts_ok hfound]

/-- Where a built-in explainer succeeds, its facts have been found and the hints
are written from them. -/
theorem explain_builtin_eq_ok {α : Type} {facts : Site → Except SiteError α}
    {write : α → Draw σ (List Hint)} (h : builtinFor? kind = some (.ofFacts kind facts write))
    {source final : σ} {hints : List Hint}
    (hrun : (builtin : Explainers σ).explain kind site source = (.ok hints, final)) :
    ∃ found, facts site = .ok found ∧ write found source = (hints, final) := by
  rw [explain_of_explainersFor_singleton (explainersFor_builtin_of_some h)] at hrun
  cases hfacts : facts site with
  | ok found =>
    rw [Explainer.run_ofFacts_ok hfacts] at hrun
    cases hrun
    exact ⟨found, rfl, rfl⟩
  | error error =>
    rw [Explainer.run_ofFacts_error hfacts] at hrun
    cases hrun

end Explainers

namespace LinkMakers

variable {kind : Diagnostic.Kind} {site : Site}

/-- The built-in link maker of a kind. -/
def builtinFor? : Diagnostic.Kind → Option LinkMaker
  | .missingArrayDimension => some ArrayCreation.missingSizeLink
  | .illegalArrayDimension => some ArrayCreation.missingOuterSizeLink
  | .arrayDimensionWithInitializer => some ArrayCreation.sizeAndElementsLink
  | .undefinedMethod => some MethodCall.unknownMethodLink
  | .parameterMismatch => some MethodCall.wrongArgumentsLink
  | .missingReturn => some MethodResult.missingResultLink
  | .nonStaticFromStatic => some MethodCall.fromStaticLink
  | .methodCallOnWrongType => some MethodCall.wrongReceiverLink
  | .typeMismatch => some VariableType.wrongValueLink
  | .undefinedType => some VariableType.unknownClassLink
  | .undefinedVariable => some Naming.unknownVariableLink
  | .uninitializedVariable => some Naming.unassignedLink
  | .incorrectVariableDeclaration => some VariableType.sizedVariableLink
  | .unexpectedToken => some Naming.unexpectedTokenLink
  | .variableDeclarators => some Naming.strayCallLink
  | _ => none

theorem makerFor?_builtin (kind : Diagnostic.Kind) :
    builtin.makerFor? kind = builtinFor? kind := by
  cases kind <;> rfl

theorem query?_builtin (kind : Diagnostic.Kind) (site : Site) :
    builtin.query? kind site = (builtinFor? kind).bind fun m => (m.query site).toOption := by
  rw [query?, attempt?, makerFor?_builtin, Option.bind_map]
  rfl

theorem query?_builtin_eq_some_iff {q : Query} :
    builtin.query? kind site = some q ↔ ∃ m, builtinFor? kind = some m ∧ m.query site = .ok q := by
  rw [query?_builtin, Option.bind_eq_some_iff]
  refine exists_congr fun m => and_congr_right fun _ => ?_
  cases m.query site <;> simp [Except.toOption]

end LinkMakers

end Remedy
