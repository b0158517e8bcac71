import Remedy.Engine
import Remedy.Proofs.Advice.HintTable

/-!
# Calls that share a random source

An engine may be asked for the hints of many diagnostics that draw from one
random source, each call on what the calls before it have left. A call without
an answer leaves the source as it was: the built-in explainers look up all their
facts before they draw, and where the facts are found there are hints. So such
calls may be left out of a session, and all other calls are answered as before.
-/

namespace Remedy

namespace Explainers

variable {σ : Type} [RandomSource σ] {kind : Diagnostic.Kind} {site : Site}

/-! ## One call -/

theorem hints_builtin_of_missing {α : Type} {facts : Site → Except SiteError α}
    {write : α → Draw σ (List Hint)} (h : builtinFor? kind = some (.ofFacts kind facts write))
    (hmissing : (facts site).isOk = false) (source : σ) :
    (builtin : Explainers σ).hints kind site source = ([], source) := by
  rw [hints_builtin_of_facts h]
  cases hfacts : facts site with
  | ok found =>
    rw [hfacts] at hmissing
    cases hmissing
  | error error => rfl

/-- Without the facts of its kind a call is not answered and draws nothing. -/
theorem hints_builtin_of_factsFound_false (h : site.factsFound kind = false) (source : σ) :
    (builtin : Explainers σ).hints kind site source = ([], source) := by
  cases kind with
  | missingArrayDimension | illegalArrayDimension | arrayDimensionWithInitializer
  | undefinedMethod | parameterMismatch | missingReturn | typeMismatch | undefinedType =>
    exact hints_builtin_of_missing rfl h source
  | _ => exact hints_builtin_of_none rfl source

/-- A call that is not answered leaves the source as it was. -/
theorem source_of_hints_builtin_eq_nil {source : σ}
    (h : ((builtin : Explainers σ).hints kind site source).1 = []) :
    ((builtin : Explainers σ).hints kind site source).2 = source := by
  cases hfacts : site.factsFound kind with
  | false => rw [hints_builtin_of_factsFound_false hfacts]
  | true => exact absurd h (hints_builtin_ne_nil_iff.mpr hfacts)

end Explainers

/-! ## Sessions -/

/-- A call for the hints of a kind at a site. -/
structure HintCall where
  kind : Diagnostic.Kind
  site : Site

namespace Engine

variable {σ : Type}

/-- Answer the calls in turn from one source. Each answer stands with its call. -/
def answers (e : Engine σ) (calls : List HintCall) : Draw σ (List (HintCall × List Hint)) :=
  calls.mapM fun call => do
    let hints ← e.drawHints call.kind call.site
    return (call, hints)

variable {e : Engine σ}

theorem answers_cons (call : HintCall) (rest : List HintCall) (source : σ) :
    e.answers (call :: rest) source =
      let first := e.drawHints call.kind call.site source
      let later := e.answers rest first.2
      ((call, first.1) :: later.1, later.2) := by
  rw [answers, List.mapM_cons]
  rfl

theorem map_fst_answers (calls : List HintCall) (source : σ) :
    (e.answers calls source).1.map Prod.fst = calls := by
  induction calls generalizing source with
  | nil => rfl
  | cons call rest ih =>
    rw [answers_cons, List.map_cons, ih]

/-- Where a call without an answer leaves the source as it was, such calls may be
left out. -/
theorem answers_kept
    (idle : ∀ call : HintCall, ∀ source, (e.drawHints call.kind call.site source).1 = [] →
      (e.drawHints call.kind call.site source).2 = source)
    (calls : List HintCall) (source : σ) :
    let kept := (e.answers calls source).1.filter fun answer => answer.2 ≠ []
    e.answers (kept.map Prod.fst) source = (kept, (e.answers calls source).2) := by
  induction calls generalizing source with
  | nil => rfl
  | cons call rest ih =>
    by_cases hnone : (e.drawHints call.kind call.site source).1 = []
    · -- The rest of the session starts where this call did.
      have hrest := ih source
      simp only [answers_cons, idle call source hnone, hnone]
      rw [List.filter_cons_of_neg (by simp)]
      exact hrest
    · have hrest := ih (e.drawHints call.kind call.site source).2
      simp only [answers_cons]
      rw [List.filter_cons_of_pos (by simpa using hnone), List.map_cons, answers_cons]
      simp only [hrest]

/-- **Calls without an answer.** Over the built-in explainers, whatever the other
parts of the engine are, a call that is answered without hints leaves the random
source as it was. A session answers its calls one by one and in order. Without
the calls that got no hints, the same session gives every other call the hints
it got before and ends with the same source. -/
theorem answers_without_unanswered [RandomSource σ] (settings : Settings) (linkMakers : LinkMakers)
    (calls : List HintCall) (source : σ) :
    let e : Engine σ := { settings, explainers := Explainers.builtin, linkMakers }
    (∀ (kind : Diagnostic.Kind) (site : Site) (middle : σ),
        (e.drawHints kind site middle).1 = [] → (e.drawHints kind site middle).2 = middle) ∧
      (e.answers calls source).1.map Prod.fst = calls ∧
      let kept := (e.answers calls source).1.filter fun answer => answer.2 ≠ []
      e.answers (kept.map Prod.fst) source = (kept, (e.answers calls source).2) := by
  intro e
  have hidle : ∀ (kind : Diagnostic.Kind) (site : Site) (middle : σ),
      (e.drawHints kind site middle).1 = [] → (e.drawHints kind site middle).2 = middle :=
    fun _ _ _ h => Explainers.source_of_hints_builtin_eq_nil h
  refine ⟨hidle, map_fst_answers calls source, ?_⟩
  exact answers_kept (fun call => hidle call.kind call.site) calls source

end Engine

end Remedy
