import Remedy.Advice.ArrayCreation
import Remedy.Advice.MethodCall
import Remedy.Advice.MethodResult
import Remedy.Advice.VariableType

/-!
# The registry of explainers

A registry holds explainers in the order in which they were registered and, for
every kind of diagnostic, the positions of those that serve it. A kind may have
several explainers. All of them run, each on what the one before left of the
random source, and their hints are joined. If one fails, the later ones do not
run and there are no hints at all: advice is complete or absent.
-/

namespace Remedy

/-- Explainers by the kinds of diagnostics they serve. -/
structure Explainers (σ : Type) where
  /-- The explainers in order of registration. -/
  registered : Array (Explainer σ) := #[]
  /-- The positions of the explainers that serve a kind, one entry for every
  time the kind was declared. -/
  routes : Diagnostic.Kind → List Nat := fun _ => []

namespace Explainers

variable {σ : Type}

/-- Add one route from a kind to a position, behind the kind's other routes. -/
def addRoute (position : Nat) (routes : Diagnostic.Kind → List Nat) (kind : Diagnostic.Kind) :
    Diagnostic.Kind → List Nat := fun other =>
  if other = kind then routes other ++ [position] else routes other

/-- Add an explainer behind the others, with one route for every kind that it
declares. -/
def register (r : Explainers σ) (e : Explainer σ) : Explainers σ where
  registered := r.registered.push e
  routes := e.kinds.foldl (addRoute r.registered.size) r.routes

/-- The registry of a list of explainers. -/
def ofList (explainers : List (Explainer σ)) : Explainers σ := explainers.foldl register {}

/-- The explainers to run for a kind, in order. -/
def explainersFor (r : Explainers σ) (kind : Diagnostic.Kind) : List (Explainer σ) :=
  (r.routes kind).filterMap fun i => r.registered[i]?

/-- Run the explainers for a kind and join their hints. The first failure ends
the run. -/
def explain (r : Explainers σ) (kind : Diagnostic.Kind) (site : Site) :
    Explanation σ (List Hint) := do
  let found ← (r.explainersFor kind).mapM fun e => e.explain site
  return found.flatten

/-- The hints for a kind at a site, none if an explainer failed. -/
def hints (r : Explainers σ) (kind : Diagnostic.Kind) (site : Site) : Draw σ (List Hint) := do
  let outcome ← (r.explain kind site).run
  return match outcome with
    | .ok hints => hints
    | .error _ => []

/-- Some explainer serves the kind. -/
def serves (r : Explainers σ) (kind : Diagnostic.Kind) : Bool := !(r.routes kind).isEmpty

/-- The number of registered explainers. -/
def count (r : Explainers σ) : Nat := r.registered.size

/-- The number of routes from a kind to an explainer. -/
def routeCount (r : Explainers σ) : Nat :=
  (Diagnostic.Kind.all.flatMap r.routes).length

/-- A one-line account of the registry for logs. -/
def describe (r : Explainers σ) : String :=
  let kinds := (Diagnostic.Kind.all.filter r.serves).map Diagnostic.Kind.title
  "HintRegistry \x7b strategy_count: " ++ toString r.count ++ ", kinds: ["
    ++ String.intercalate ", " kinds ++ "], .. \x7d"

/-- The registry with every built-in explainer. -/
def builtin [RandomSource σ] : Explainers σ :=
  ofList
    [ArrayCreation.missingSize, ArrayCreation.missingOuterSize, ArrayCreation.sizeAndElements,
      MethodCall.unknownMethod, MethodCall.wrongArguments, MethodResult.missingResult,
      VariableType.wrongValue, VariableType.unknownClass]

end Explainers

end Remedy
