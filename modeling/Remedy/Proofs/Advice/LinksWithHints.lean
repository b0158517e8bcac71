import Remedy.Proofs.Advice.HintTable
import Remedy.Proofs.Advice.SharedNames
import Remedy.Proofs.Link.CataloguePages

/-!
# Where links come with hints

Four kinds of diagnostics have a link whose maker looks up the facts that the hints
are written from. Links and hints are made apart from each other, and a test that one
of them leaves out shows at the sites that it refuses. There is one such test: the
hints on a missing result refuse a method of the type `void`, which has none, and the
link does not. Everywhere else there is a link exactly where there are hints.
-/

namespace Remedy

/-- The kinds whose hints and links are made from the same facts. -/
def Diagnostic.Kind.withCommonFacts : List Diagnostic.Kind :=
  [undefinedMethod, parameterMismatch, missingReturn, undefinedType]

/-- A link of the kind sends the learner to the page on missing results with the result
type `void`. -/
def CatalogueLink.AsksForNoResult (link : CatalogueLink) (kind : Diagnostic.Kind) : Prop :=
  kind = .missingReturn ∧ ∃ query, link.read? = some query ∧ query.get? "typename" = some "void"

namespace LinkWriter

/-- The link for a missing result is made wherever the method is found. It shows the
type of the result. -/
theorem get?_typename_of_missingResult {site : Site} {method : MethodFacts}
    (h : site.method = .ok method) (embedded : Bool) :
    ∃ link query, ({ embedded } : LinkWriter).link? .missingReturn site = some link ∧
      link.read? = some query ∧ query.get? "typename" = some method.returnType := by
  obtain ⟨page, hpage⟩ : ∃ page, Diagnostic.Kind.missingReturn.page? = some page := ⟨_, rfl⟩
  refine get?_link?_of_fill rfl hpage (MethodResult.query_missingResultLink h hpage) ?_ embedded
  cases hpage
  rfl

/-- A link that passes on a name is made. -/
theorem exists_link?_of_linksName {site : Site} {kind : Diagnostic.Kind} {name : String}
    (h : site.LinksName kind name) (embedded : Bool) :
    ∃ link, ({ embedded } : LinkWriter).link? kind site = some link := by
  obtain ⟨query, hquery, _⟩ := h
  exact ⟨query.link embedded, by rw [link?, hquery, Option.map_some]⟩

/-! ## Facts and links -/

variable {site : Site} {embedded : Bool}

/-- A kind is linked where facts are found that its link is made from and that are enough
to make it. -/
theorem exists_link?_iff_of_facts {α : Type} {kind : Diagnostic.Kind}
    {facts : Site → Except SiteError α}
    (hmade : ∀ values, site.LinkFacts kind values → ∃ found, facts site = .ok found)
    (henough : ∀ found, facts site = .ok found → ∃ name, site.LinksName kind name) :
    (∃ link, ({ embedded } : LinkWriter).link? kind site = some link) ↔
      ∃ found, facts site = .ok found := by
  constructor
  · rintro ⟨link, hlink⟩
    obtain ⟨page, values, _, hfacts, _⟩ := shows_of_link? hlink
    exact hmade values hfacts
  · rintro ⟨found, hfound⟩
    obtain ⟨name, hname⟩ := henough found hfound
    exact exists_link?_of_linksName hname embedded

/-- The link's type tells whether the hints accept the method. -/
theorem exists_link?_missingReturn_iff :
    (∃ link, ({ embedded } : LinkWriter).link? .missingReturn site = some link ∧
        ¬ link.AsksForNoResult .missingReturn) ↔
      ∃ method, MethodResult.methodWithResult site = .ok method := by
  simp only [MethodResult.methodWithResult_eq_ok_iff]
  constructor
  · rintro ⟨link, hlink, hasks⟩
    obtain ⟨page, values, _, hfacts, _⟩ := shows_of_link? hlink
    cases hfacts with
    | missingReturn hmethod =>
      refine ⟨_, hmethod, fun hvoid => hasks ⟨rfl, ?_⟩⟩
      obtain ⟨link', query, hlink', hread, htype⟩ :=
        get?_typename_of_missingResult hmethod embedded
      obtain rfl := Option.some.inj (hlink.symm.trans hlink')
      exact ⟨query, hread, hvoid ▸ htype⟩
  · rintro ⟨method, hmethod, hresult⟩
    obtain ⟨link, query, hlink, hread, htype⟩ := get?_typename_of_missingResult hmethod embedded
    refine ⟨link, hlink, ?_⟩
    rintro ⟨_, query', hread', htype'⟩
    obtain rfl := Option.some.inj (hread.symm.trans hread')
    exact hresult (Option.some.inj (htype.symm.trans htype'))

end LinkWriter

namespace Explainers

variable {σ : Type} [RandomSource σ] {kind : Diagnostic.Kind} {site : Site}

theorem factsFound_iff_of_facts {α : Type} {facts : Site → Except SiteError α}
    (h : site.factsFound kind = (facts site).isOk) :
    site.factsFound kind = true ↔ ∃ found, facts site = .ok found := by
  rw [h]
  cases facts site <;> simp [Except.isOk, Except.toBool]

/-- The kinds but for missing results. -/
theorem hints_iff_link?_of_facts {α : Type} {facts : Site → Except SiteError α}
    {embedded : Bool} (hkind : kind ≠ .missingReturn)
    (hfacts : site.factsFound kind = (facts site).isOk)
    (hmade : ∀ values, site.LinkFacts kind values → ∃ found, facts site = .ok found)
    (henough : ∀ found, facts site = .ok found → ∃ name, site.LinksName kind name) (source : σ) :
    ((builtin : Explainers σ).hints kind site source).1 ≠ [] ↔
      ∃ link, ({ embedded } : LinkWriter).link? kind site = some link ∧
        ¬ link.AsksForNoResult kind := by
  have hasks : ∀ link : CatalogueLink, ¬ link.AsksForNoResult kind := fun _ h => hkind h.1
  simp only [hasks, not_false_eq_true, and_true]
  rw [LinkWriter.exists_link?_iff_of_facts hmade henough, hints_builtin_ne_nil_iff,
    factsFound_iff_of_facts hfacts]

/-- **Links and hints together.** For a kind whose hints and links are made from the
same facts, and at every site, there are hints exactly if there is a link and this link
does not ask for the result of a `void` method. So a link comes without hints in this
one case only, and hints never come without a link. -/
theorem hints_ne_nil_iff_link? (hkind : kind ∈ Diagnostic.Kind.withCommonFacts)
    (embedded : Bool) (source : σ) :
    ((builtin : Explainers σ).hints kind site source).1 ≠ [] ↔
      ∃ link, ({ embedded } : LinkWriter).link? kind site = some link ∧
        ¬ link.AsksForNoResult kind := by
  simp only [Diagnostic.Kind.withCommonFacts, List.mem_cons, List.not_mem_nil, or_false] at hkind
  rcases hkind with rfl | rfl | rfl | rfl
  · refine hints_iff_link?_of_facts (by decide) rfl (fun values h => ?_)
      (fun call h => ⟨_, Site.linksName_unknownMethod h⟩) source
    cases h with
    | undefinedMethod hcall _ => exact ⟨_, hcall⟩
  · refine hints_iff_link?_of_facts (by decide) rfl (fun values h => ?_)
      (fun b h => ⟨_, Site.linksName_wrongArguments h⟩) source
    cases h with
    | parameterMismatch hb => exact ⟨_, hb⟩
  · rw [hints_builtin_ne_nil_iff, LinkWriter.exists_link?_missingReturn_iff]
    exact factsFound_iff_of_facts rfl
  · refine hints_iff_link?_of_facts (by decide) rfl (fun values h => ?_)
      (fun u h => ⟨_, Site.linksName_unknownClass h⟩) source
    cases h with
    | undefinedType hu => exact ⟨_, hu⟩

/-- The name of the method in `void draw() {}`, or in `int draw() {}`. -/
def drawSite (isVoid : Bool) : Site where
  tree :=
    (Draft.toTree
      ⟨#[{ kind := .primitiveType (if isVoid then "void" else "int") },
        { kind := .simpleName "draw" }, { kind := .block [] },
        { kind := .methodDecl 1 (some 0) [] (some 2) none }]⟩
      3).toOption.get (by cases isVoid <;> decide +kernel)
  anchor := 1

theorem method_drawSite (isVoid : Bool) :
    (drawSite isVoid).method = .ok
      { name := "draw", returnType := if isVoid then "void" else "int", parameterTypes := [] } := by
  cases isVoid <;> decide +kernel

theorem hints_ne_nil_iff_link?_draw :
    Diagnostic.Kind.missingReturn ∈ Diagnostic.Kind.withCommonFacts ∧
      ((builtin : Explainers ListedWords).hints .missingReturn (drawSite false) ⟨[]⟩).1 ≠ [] := by
  refine ⟨by decide, (hints_ne_nil_iff_link? (by decide) true _).mpr ?_⟩
  exact LinkWriter.exists_link?_missingReturn_iff.mpr ⟨_,
    MethodResult.methodWithResult_eq_ok_iff.mpr ⟨method_drawSite false, by decide⟩⟩

/-- The method has the type `void`. It gets a link to the page on missing results, and
no hints, whatever is drawn. -/
theorem link?_without_hints_void :
    (∃ link query, ({ embedded := false } : LinkWriter).link? .missingReturn (drawSite true) =
        some link ∧ link.read? = some query ∧ query.get? "typename" = some "void") ∧
      ∀ (σ : Type) [RandomSource σ] (source : σ),
        ((builtin : Explainers σ).hints .missingReturn (drawSite true) source).1 = [] := by
  refine ⟨LinkWriter.get?_typename_of_missingResult (method_drawSite true) false, ?_⟩
  intro σ _ source
  by_contra hhints
  obtain ⟨method, hmethod⟩ :=
    (factsFound_iff_of_facts rfl).mp (hints_builtin_ne_nil_iff.mp hhints)
  obtain ⟨hfound, hresult⟩ := MethodResult.methodWithResult_eq_ok_iff.mp hmethod
  cases (method_drawSite true).symm.trans hfound
  exact hresult rfl

end Explainers

end Remedy
