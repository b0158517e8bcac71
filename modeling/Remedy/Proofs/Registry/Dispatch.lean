import Remedy.Registry.Explainers

/-!
# What a registry of explainers runs

A registry is built by registrations, one route at a time, and read through
positions. `Registers` says what it comes to: the explainers in order, and for
each kind the positions of those that declare it, as often as they declare it.
One registration preserves this, so every position that a registry has stored
stands for the explainer it was stored for.

A run over a list of explainers is described by two relations that know nothing
of routes. Either all explainers succeed in turn, or one fails after those
before it have succeeded. The random source goes from hand to hand in both.
-/

namespace Remedy

namespace Explainers

variable {σ : Type}

/-! ## The routes of a registry -/

/-- The explainers of a list that serve a kind, each as often as it declares the
kind. -/
def serving (kind : Diagnostic.Kind) (es : List (Explainer σ)) : List (Explainer σ) :=
  es.flatMap fun e => List.replicate (e.kinds.count kind) e

/-- The routes that a list of explainers has when the first of them stands at
the given position. -/
def routesFrom (kind : Diagnostic.Kind) : Nat → List (Explainer σ) → List Nat
  | _, [] => []
  | position, e :: rest =>
      List.replicate (e.kinds.count kind) position ++ routesFrom kind (position + 1) rest

theorem foldl_addRoute (position : Nat) (kinds : List Diagnostic.Kind)
    (routes : Diagnostic.Kind → List Nat) (kind : Diagnostic.Kind) :
    kinds.foldl (addRoute position) routes kind =
      routes kind ++ List.replicate (kinds.count kind) position := by
  induction kinds generalizing routes with
  | nil => simp
  | cons declared rest ih =>
    rw [List.foldl_cons, ih, addRoute]
    by_cases h : kind = declared
    · subst h
      rw [if_pos rfl, List.count_cons_self, List.replicate_succ, List.append_assoc,
        List.singleton_append]
    · rw [if_neg h, List.count_cons_of_ne (Ne.symm h)]

theorem routesFrom_append (kind : Diagnostic.Kind) (position : Nat) (es more : List (Explainer σ)) :
    routesFrom kind position (es ++ more) =
      routesFrom kind position es ++ routesFrom kind (position + es.length) more := by
  induction es generalizing position with
  | nil => simp [routesFrom]
  | cons e rest ih =>
    rw [List.cons_append, routesFrom, ih, routesFrom, List.append_assoc, List.length_cons,
      Nat.add_right_comm, Nat.add_assoc position rest.length 1]

/-- The registry is the one of the listed explainers. -/
structure Registers (r : Explainers σ) (es : List (Explainer σ)) : Prop where
  registered : r.registered.toList = es
  routes : ∀ kind, r.routes kind = routesFrom kind 0 es

theorem routes_register (r : Explainers σ) (e : Explainer σ) (kind : Diagnostic.Kind) :
    (r.register e).routes kind =
      r.routes kind ++ List.replicate (e.kinds.count kind) r.registered.size :=
  foldl_addRoute _ _ _ _

/-- One registration adds the explainer and its routes behind the others. -/
theorem Registers.register {r : Explainers σ} {es : List (Explainer σ)} (h : Registers r es)
    (e : Explainer σ) : Registers (r.register e) (es ++ [e]) := by
  refine ⟨by simp [Explainers.register, h.registered], ?_⟩
  intro kind
  have hsize : r.registered.size = es.length := by simp [← h.registered]
  rw [routes_register, h.routes, hsize, routesFrom_append]
  simp [routesFrom]

/-- A run of registrations adds the explainers in order. -/
theorem Registers.foldl_register {r : Explainers σ} {es : List (Explainer σ)}
    (h : Registers r es) (more : List (Explainer σ)) :
    Registers (more.foldl Explainers.register r) (es ++ more) := by
  induction more generalizing r es with
  | nil => rwa [List.append_nil]
  | cons e rest ih =>
    have hrest := ih (h.register e)
    rwa [List.append_assoc, List.singleton_append] at hrest

theorem registers_ofList (es : List (Explainer σ)) : Registers (ofList es) es := by
  have hempty : Registers ({} : Explainers σ) [] := ⟨rfl, fun _ => rfl⟩
  exact hempty.foldl_register es

/-! ## Reading through the routes -/

theorem lt_of_mem_routesFrom {kind : Diagnostic.Kind} {position i : Nat}
    {es : List (Explainer σ)} (h : i ∈ routesFrom kind position es) :
    i < position + es.length := by
  induction es generalizing position with
  | nil => cases h
  | cons e rest ih =>
    rw [List.length_cons]
    rcases List.mem_append.mp h with hown | hrest
    · have := (List.mem_replicate.mp hown).2
      omega
    · have := ih hrest
      omega

theorem routesFrom_eq_nil_iff {kind : Diagnostic.Kind} {position : Nat}
    {es : List (Explainer σ)} :
    routesFrom kind position es = [] ↔ ∀ e ∈ es, kind ∉ e.kinds := by
  induction es generalizing position with
  | nil => simp [routesFrom]
  | cons e rest ih => simp [routesFrom, ih, List.count_eq_zero]

/-- Every route leads to the explainer that it was stored for. -/
theorem filterMap_routesFrom (kind : Diagnostic.Kind) (before es : List (Explainer σ)) :
    (routesFrom kind before.length es).filterMap (fun i => (before ++ es)[i]?) =
      serving kind es := by
  -- What stands before the list fixes its first position and is never read.
  induction es generalizing before with
  | nil => rfl
  | cons e rest ih =>
    have hown : (before ++ e :: rest)[before.length]? = some e := by simp
    have hrest := ih (before ++ [e])
    rw [List.length_append, List.length_singleton, List.append_assoc,
      List.singleton_append] at hrest
    rw [routesFrom, List.filterMap_append, List.filterMap_replicate_of_some hown, hrest, serving,
      serving, List.flatMap_cons]

theorem length_flatMap_append {α β : Type} (xs : List α) (f g : α → List β) :
    (xs.flatMap fun x => f x ++ g x).length = (xs.flatMap f).length + (xs.flatMap g).length := by
  induction xs with
  | nil => rfl
  | cons x rest ih =>
    simp only [List.flatMap_cons, List.length_append, ih]
    omega

/-- Each declaration is one entry under exactly one kind. -/
theorem length_flatMap_replicate_count (position : Nat) (kinds : List Diagnostic.Kind) :
    (Diagnostic.Kind.all.flatMap fun kind =>
      List.replicate (kinds.count kind) position).length = kinds.length := by
  induction kinds with
  | nil => rfl
  | cons declared rest ih =>
    have hsplit : ∀ kind, List.replicate ((declared :: rest).count kind) position =
        List.replicate (rest.count kind) position ++ if declared = kind then [position] else [] := by
      intro kind
      by_cases h : declared = kind
      · rw [if_pos h, h, List.count_cons_self, List.replicate_succ']
      · rw [if_neg h, List.count_cons_of_ne h, List.append_nil]
    have hone : (Diagnostic.Kind.all.flatMap fun kind =>
        if declared = kind then [position] else []).length = 1 := by
      cases declared <;> rfl
    simp only [hsplit]
    rw [length_flatMap_append, ih, hone, List.length_cons]

theorem length_flatMap_routesFrom (position : Nat) (es : List (Explainer σ)) :
    (Diagnostic.Kind.all.flatMap fun kind => routesFrom kind position es).length =
      (es.flatMap fun e => e.kinds).length := by
  induction es generalizing position with
  | nil => rfl
  | cons e rest ih =>
    simp only [routesFrom]
    rw [length_flatMap_append, length_flatMap_replicate_count, ih, List.flatMap_cons,
      List.length_append]

namespace Registers

variable {r : Explainers σ} {es : List (Explainer σ)}

theorem size_registered (h : Registers r es) : r.registered.size = es.length := by
  rw [← h.registered, Array.length_toList]

theorem lt_size_of_mem_routes (h : Registers r es) {kind : Diagnostic.Kind} {i : Nat}
    (hi : i ∈ r.routes kind) : i < r.registered.size := by
  rw [h.routes] at hi
  have := lt_of_mem_routesFrom hi
  rw [h.size_registered]
  omega

theorem explainersFor (h : Registers r es) (kind : Diagnostic.Kind) :
    r.explainersFor kind = serving kind es := by
  have hread := filterMap_routesFrom kind [] es
  rw [List.length_nil, List.nil_append] at hread
  show (r.routes kind).filterMap (fun i => r.registered[i]?) = _
  rw [h.routes, ← hread]
  simp only [← h.registered, Array.getElem?_toList]

theorem serves_iff (h : Registers r es) (kind : Diagnostic.Kind) :
    r.serves kind = true ↔ ∃ e ∈ es, kind ∈ e.kinds := by
  have hnil : routesFrom kind 0 es = [] ↔ ∀ e ∈ es, kind ∉ e.kinds := routesFrom_eq_nil_iff
  rw [serves, h.routes]
  cases hroutes : routesFrom kind 0 es with
  | nil => simpa using hnil.mp hroutes
  | cons i rest => simpa [hroutes] using hnil

end Registers

/-! ## Running a list of explainers -/

/-- The explainers succeed in turn, each on the source that the one before it
has left; the hints are joined in order. -/
inductive Succeeds (site : Site) : List (Explainer σ) → σ → List Hint → σ → Prop
  /-- Nothing is left to run. -/
  | done (source : σ) : Succeeds site [] source [] source
  /-- The next explainer succeeds, then the rest does. -/
  | next {e : Explainer σ} {rest : List (Explainer σ)} {source middle final : σ}
      {found more : List Hint} : e.explain site source = (.ok found, middle) →
      Succeeds site rest middle more final →
      Succeeds site (e :: rest) source (found ++ more) final

/-- An explainer of the list fails on the source that those before it have left
in succeeding; those behind it do not run. -/
def FailsWithin (site : Site) (es : List (Explainer σ)) (source : σ) (error : SiteError)
    (final : σ) : Prop :=
  ∃ before e after found middle, es = before ++ e :: after ∧
    Succeeds site before source found middle ∧ e.explain site middle = (.error error, final)

/-- Run all explainers of a list and join their hints. -/
def explainAll (es : List (Explainer σ)) (site : Site) : Explanation σ (List Hint) := do
  let found ← es.mapM fun e => e.explain site
  return found.flatten

variable {site : Site} {e : Explainer σ} {rest : List (Explainer σ)} {source middle final : σ}
  {hints : List Hint} {error : SiteError}

/-- Running one more explainer in front: a failure ends the run, and hints are
put before those of the rest. -/
theorem explainAll_cons :
    explainAll (e :: rest) site source =
      match e.explain site source with
      | (.error error, middle) => (.error error, middle)
      | (.ok found, middle) =>
        match explainAll rest site middle with
        | (.error error, final) => (.error error, final)
        | (.ok more, final) => (.ok (found ++ more), final) := by
  rw [explainAll, List.mapM_cons, bind_assoc, explainAll]
  split
  next h => exact Explanation.bind_of_error h
  next found middle h =>
    rw [Explanation.bind_of_ok h, bind_assoc]
    cases hrest : (rest.mapM fun e : Explainer σ => e.explain site) middle with
    | mk outcome left =>
      cases outcome with
      | error error =>
        rw [Explanation.bind_of_error hrest, Explanation.bind_of_error hrest]
      | ok lists =>
        rw [Explanation.bind_of_ok hrest, Explanation.bind_of_ok hrest]
        rfl

/-- One step of a run that succeeds. -/
theorem explainAll_cons_eq_ok_iff :
    explainAll (e :: rest) site source = (.ok hints, final) ↔
      ∃ found middle more, e.explain site source = (.ok found, middle) ∧
        explainAll rest site middle = (.ok more, final) ∧ hints = found ++ more := by
  rw [explainAll_cons]
  constructor
  · intro h
    split at h
    next => cases h
    next found middle hrun =>
      split at h
      next => cases h
      next more left hrest =>
        cases h
        exact ⟨found, middle, more, hrun, hrest, rfl⟩
  · rintro ⟨found, middle, more, hrun, hrest, rfl⟩
    simp only [hrun, hrest]

/-- One step of a run that fails, at this explainer or at a later one. -/
theorem explainAll_cons_eq_error_iff :
    explainAll (e :: rest) site source = (.error error, final) ↔
      e.explain site source = (.error error, final) ∨
        ∃ found middle, e.explain site source = (.ok found, middle) ∧
          explainAll rest site middle = (.error error, final) := by
  rw [explainAll_cons]
  constructor
  · intro h
    split at h
    next hrun => exact .inl (hrun.trans h)
    next found middle hrun =>
      split at h
      next hrest => exact .inr ⟨found, middle, hrun, hrest.trans h⟩
      next => cases h
  · rintro (hrun | ⟨found, middle, hrun, hrest⟩)
    · simp only [hrun]
    · simp only [hrun, hrest]

theorem explainAll_eq_ok_iff {es : List (Explainer σ)} :
    explainAll es site source = (.ok hints, final) ↔ Succeeds site es source hints final := by
  induction es generalizing source hints with
  | nil =>
    constructor
    · intro h
      cases h
      exact .done _
    · intro h
      cases h
      rfl
  | cons e rest ih =>
    rw [explainAll_cons_eq_ok_iff]
    constructor
    · rintro ⟨found, middle, more, hrun, hrest, rfl⟩
      exact .next hrun (ih.mp hrest)
    · intro h
      cases h with
      | next hrun hrest => exact ⟨_, _, _, hrun, ih.mpr hrest, rfl⟩

theorem explainAll_eq_error_iff {es : List (Explainer σ)} :
    explainAll es site source = (.error error, final) ↔
      FailsWithin site es source error final := by
  induction es generalizing source with
  | nil =>
    constructor
    · intro h
      cases h
    · rintro ⟨before, e, after, _, _, hsplit, _⟩
      cases before <;> cases hsplit
  | cons e rest ih =>
    rw [explainAll_cons_eq_error_iff]
    constructor
    · rintro (hrun | ⟨found, middle, hrun, hrest⟩)
      · exact ⟨[], e, rest, [], source, rfl, .done source, hrun⟩
      · obtain ⟨before, failing, after, more, last, rfl, hbefore, hfails⟩ := ih.mp hrest
        exact ⟨e :: before, failing, after, found ++ more, last, rfl, .next hrun hbefore, hfails⟩
    · rintro ⟨before, failing, after, found, last, hsplit, hbefore, hfails⟩
      -- Whether the run got past its first explainer tells where the failure is.
      cases hbefore with
      | done =>
        cases hsplit
        exact .inl hfails
      | next hrun hmore =>
        cases hsplit
        exact .inr ⟨_, _, hrun, ih.mpr ⟨_, failing, after, _, last, rfl, hmore, hfails⟩⟩

/-! ## The registry as a whole -/

theorem hints_of_ok {r : Explainers σ} {kind : Diagnostic.Kind}
    (h : explainAll (r.explainersFor kind) site source = (.ok hints, final)) :
    r.hints kind site source = (hints, final) := by
  have hrun : (r.explain kind site).run.run source = (.ok hints, final) := h
  show ((r.explain kind site).run >>= _).run source = _
  rw [StateT.run_bind, hrun]
  rfl

theorem hints_of_error {r : Explainers σ} {kind : Diagnostic.Kind}
    (h : explainAll (r.explainersFor kind) site source = (.error error, final)) :
    r.hints kind site source = ([], final) := by
  have hrun : (r.explain kind site).run.run source = (.error error, final) := h
  show ((r.explain kind site).run >>= _).run source = _
  rw [StateT.run_bind, hrun]
  rfl

/-- What a registry shows of a run: the joined hints, or none after a failure. -/
theorem hints_eq_iff (r : Explainers σ) (kind : Diagnostic.Kind) :
    r.hints kind site source = (hints, final) ↔
      Succeeds site (r.explainersFor kind) source hints final ∨
        hints = [] ∧ ∃ error, FailsWithin site (r.explainersFor kind) source error final := by
  rw [← explainAll_eq_ok_iff]
  simp only [← explainAll_eq_error_iff]
  cases hrun : explainAll (r.explainersFor kind) site source with
  | mk outcome left =>
    cases outcome with
    | ok joined =>
      rw [hints_of_ok hrun]
      constructor
      · rintro ⟨⟩
        exact .inl rfl
      · rintro (⟨⟨⟩⟩ | ⟨_, _, ⟨⟩⟩)
        rfl
    | error error =>
      rw [hints_of_error hrun]
      constructor
      · rintro ⟨⟩
        exact .inr ⟨rfl, error, rfl⟩
      · rintro (⟨⟨⟩⟩ | ⟨rfl, _, ⟨⟩⟩)
        rfl

/-- **Dispatch.** The registry of any run of registrations runs for a kind
exactly the explainers that declare it, in order of registration and each as
often as it declares the kind. The hints are joined if all of them succeed, and
there are none if one fails. All stored positions are in range, a kind is served
if an explainer declares it, and the two counts are those of the registrations
and of the declarations. -/
theorem hints_ofList_iff (es : List (Explainer σ)) (kind : Diagnostic.Kind) (site : Site)
    (source : σ) :
    (∀ hints final, (ofList es).hints kind site source = (hints, final) ↔
      Succeeds site (es.flatMap fun e => List.replicate (e.kinds.count kind) e) source hints
          final ∨
        hints = [] ∧ ∃ error, FailsWithin site
          (es.flatMap fun e => List.replicate (e.kinds.count kind) e) source error final) ∧
      (∀ i ∈ (ofList es).routes kind, i < (ofList es).registered.size) ∧
      ((ofList es).serves kind = true ↔ ∃ e ∈ es, kind ∈ e.kinds) ∧
      (ofList es).count = es.length ∧
      (ofList es).routeCount = (es.flatMap fun e => e.kinds).length := by
  have hregisters := registers_ofList es
  refine ⟨?_, fun i hi => hregisters.lt_size_of_mem_routes hi, hregisters.serves_iff kind,
    hregisters.size_registered, ?_⟩
  · intro hints final
    rw [hints_eq_iff, hregisters.explainersFor, serving]
  · have hroutes : (ofList es).routes = fun kind => routesFrom kind 0 es :=
      funext hregisters.routes
    rw [routeCount, hroutes, length_flatMap_routesFrom]

end Explainers

end Remedy
