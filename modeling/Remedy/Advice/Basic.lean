import Remedy.Demo
import Remedy.Diagnostic
import Remedy.Hint
import Remedy.Link.Query
import Remedy.Site.Basic

/-!
# Explainers and link makers

Advice comes in two forms. An `Explainer` turns the site of a diagnostic into
hints and may draw demo values on the way. A `LinkMaker` turns it into a query.
Both declare the kinds of diagnostics they serve, and both may fail if the site
lacks a fact. There is no partial advice.

The built-in explainers are made by `Explainer.ofFacts`: they look up all their
facts first and draw only then, so one that fails has not touched the random
source.
-/

namespace Remedy

/-- Explanations that draw from a source and may lack a fact. A failure keeps
what has been drawn. -/
abbrev Explanation (σ : Type) := ExceptT SiteError (Draw σ)

theorem Explanation.bind_of_ok {σ α β : Type} {x : Explanation σ α} {f : α → Explanation σ β}
    {source middle : σ} {a : α} (h : x source = (.ok a, middle)) :
    (x >>= f) source = f a middle := by
  show (x source >>= fun outcome => (ExceptT.bindCont f outcome.1 outcome.2)) = _
  rw [h]
  rfl

theorem Explanation.bind_of_error {σ α β : Type} {x : Explanation σ α} {f : α → Explanation σ β}
    {source middle : σ} {e : SiteError} (h : x source = (.error e, middle)) :
    (x >>= f) source = (.error e, middle) := by
  show (x source >>= fun outcome => (ExceptT.bindCont f outcome.1 outcome.2)) = _
  rw [h]
  rfl

/-- A maker of hints. -/
structure Explainer (σ : Type) where
  /-- The kinds of diagnostics it explains. -/
  kinds : List Diagnostic.Kind
  /-- The hints for one site, in the order in which they are shown. -/
  explain : Site → Explanation σ (List Hint)

/-- A maker of catalogue queries. -/
structure LinkMaker where
  /-- The kinds of diagnostics it links. -/
  kinds : List Diagnostic.Kind
  /-- The query for one site. -/
  query : Site → Except SiteError Query

/-- The explainer of one kind that looks up facts and then writes hints from
them. -/
def Explainer.ofFacts {σ α : Type} (kind : Diagnostic.Kind) (facts : Site → Except SiteError α)
    (hints : α → Draw σ (List Hint)) : Explainer σ where
  kinds := [kind]
  explain site :=
    match facts site with
    | .error e => throw e
    | .ok found => ExceptT.lift (hints found)

theorem Explainer.run_ofFacts_error {σ α : Type} {kind : Diagnostic.Kind}
    {facts : Site → Except SiteError α} {hints : α → Draw σ (List Hint)} {site : Site}
    {e : SiteError} (h : facts site = .error e) (source : σ) :
    (Explainer.ofFacts kind facts hints).explain site source = (.error e, source) := by
  simp only [ofFacts, h]
  rfl

theorem Explainer.run_ofFacts_ok {σ α : Type} {kind : Diagnostic.Kind}
    {facts : Site → Except SiteError α} {hints : α → Draw σ (List Hint)} {site : Site}
    {found : α} (h : facts site = .ok found) (source : σ) :
    (Explainer.ofFacts kind facts hints).explain site source =
      (.ok (hints found source).1, (hints found source).2) := by
  simp only [ofFacts, h]
  rfl

end Remedy
