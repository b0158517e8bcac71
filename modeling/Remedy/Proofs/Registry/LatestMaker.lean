import Mathlib.Data.List.Dedup
import Remedy.Registry.LinkMakers

/-!
# The latest link maker answers

A registration writes the routes of its kinds one after the other and leaves all
other routes alone. So the maker that serves a kind after a run of registrations
is the one that wrote the route last. Makers that do not declare the kind are
skipped, and what stood before the last one that does is lost. Every stored
position lies in the list of makers, which only grows.

A registration also reports the routes that it replaces. `setRoutes_replaced`
says which entries of a list of kinds these are: those whose kind had a route
before, and those whose kind stands earlier in the list.
-/

namespace Remedy

namespace LinkMakers

variable {r : LinkMakers} {m : LinkMaker} {kind : Diagnostic.Kind}

/-! ## Writing routes -/

/-- The first kind of a list is led to the position, then the others are. -/
theorem run_setRoutes_cons (position : Nat) (kind : Diagnostic.Kind) (rest : List Diagnostic.Kind)
    (routes : Diagnostic.Kind → Option Nat) :
    (setRoutes position (kind :: rest)).run routes =
      let run := (setRoutes position rest).run fun other =>
        if other = kind then some position else routes other
      (if (routes kind).isSome then kind :: run.1 else run.1, run.2) := rfl

theorem setRoutes_routes (position : Nat) (kinds : List Diagnostic.Kind)
    (routes : Diagnostic.Kind → Option Nat) (other : Diagnostic.Kind) :
    ((setRoutes position kinds).run routes).2 other =
      if other ∈ kinds then some position else routes other := by
  induction kinds generalizing routes with
  | nil => rfl
  | cons kind rest ih =>
    rw [run_setRoutes_cons, ih]
    by_cases hrest : other ∈ rest
    · rw [if_pos hrest, if_pos (List.mem_cons_of_mem kind hrest)]
    · simp only [hrest, List.mem_cons, or_false, if_false]

/-- An entry is reported as replaced if its kind had a route before, or stands
earlier in the list. -/
theorem setRoutes_replaced (position : Nat) (kinds : List Diagnostic.Kind)
    (routes : Diagnostic.Kind → Option Nat) :
    ((setRoutes position kinds).run routes).1 =
      (kinds.zipIdx.filter fun (kind, i) =>
        (routes kind).isSome ∨ kind ∈ kinds.take i).map Prod.fst := by
  induction kinds generalizing routes with
  | nil => rfl
  | cons kind rest ih =>
    -- Behind the first entry, having a route means to have had one or to be the first kind.
    have htail : ∀ entry : Diagnostic.Kind × Nat,
        (((if entry.1 = kind then some position else routes entry.1).isSome ∨
            entry.1 ∈ rest.take entry.2) ↔
          ((routes entry.1).isSome ∨ entry.1 ∈ (kind :: rest).take (entry.2 + 1))) := by
      intro entry
      by_cases h : entry.1 = kind <;> simp [h]
    rw [run_setRoutes_cons]
    dsimp only
    rw [ih, List.zipIdx_cons', List.filter_cons, List.filter_map]
    simp only [htail, Function.comp_def, Prod.map, id_eq, List.take_zero, List.not_mem_nil,
      or_false]
    cases (routes kind).isSome <;> simp [Function.comp_def]

/-! ## One registration -/

theorem routes_register (r : LinkMakers) (m : LinkMaker) (kind : Diagnostic.Kind) :
    (r.register m).routes kind = if kind ∈ m.kinds then some r.registered.size else r.routes kind :=
  setRoutes_routes _ _ _ _

theorem registered_register (r : LinkMakers) (m : LinkMaker) :
    (r.register m).registered = r.registered.push m := rfl

/-- Every stored position is one of a registered maker. -/
def InRange (r : LinkMakers) : Prop := ∀ kind i, r.routes kind = some i → i < r.registered.size

theorem InRange.register (h : r.InRange) (m : LinkMaker) : (r.register m).InRange := by
  intro kind i hi
  rw [routes_register] at hi
  rw [registered_register, Array.size_push]
  split at hi
  next =>
    cases hi
    exact Nat.lt_succ_self _
  next => exact Nat.lt_succ_of_lt (h kind i hi)

/-- A maker answers for the kinds that it declares. -/
theorem makerFor?_register_of_mem (h : kind ∈ m.kinds) :
    (r.register m).makerFor? kind = some m := by
  rw [makerFor?, routes_register, if_pos h]
  exact Array.getElem?_push_size

/-- A maker that does not declare the kind changes nothing for it. -/
theorem makerFor?_register_of_notMem (hr : r.InRange) (h : kind ∉ m.kinds) :
    (r.register m).makerFor? kind = r.makerFor? kind := by
  rw [makerFor?, routes_register, if_neg h, makerFor?]
  cases hroute : r.routes kind with
  | none => rfl
  | some i =>
    have hne : i ≠ r.registered.size := Nat.ne_of_lt (hr kind i hroute)
    exact Array.getElem?_push.trans (if_neg hne)

theorem serves_register (r : LinkMakers) (m : LinkMaker) (kind : Diagnostic.Kind) :
    (r.register m).serves kind = true ↔ kind ∈ m.kinds ∨ r.serves kind = true := by
  rw [serves, routes_register]
  by_cases h : kind ∈ m.kinds
  · simp [h]
  · simp [h, serves]

/-! ## Runs of registrations -/

theorem InRange.foldl_register (h : r.InRange) (ms : List LinkMaker) :
    (ms.foldl LinkMakers.register r).InRange := by
  induction ms generalizing r with
  | nil => exact h
  | cons m rest ih => exact ih (h.register m)

theorem inRange_ofList (ms : List LinkMaker) : (ofList ms).InRange := by
  have hempty : ({} : LinkMakers).InRange := by
    intro kind i h
    cases h
  exact hempty.foldl_register ms

/-- Makers that do not declare the kind are skipped. -/
theorem makerFor?_foldl_register (hr : r.InRange) {ms : List LinkMaker}
    (h : ∀ m ∈ ms, kind ∉ m.kinds) : (ms.foldl register r).makerFor? kind = r.makerFor? kind := by
  induction ms generalizing r with
  | nil => rfl
  | cons m rest ih =>
    have hrest := ih (hr.register m) fun later hlater => h later (List.mem_cons_of_mem m hlater)
    exact hrest.trans (makerFor?_register_of_notMem hr (h m List.mem_cons_self))

theorem makerFor?_ofList_of_latest {before after : List LinkMaker} (hm : kind ∈ m.kinds)
    (hafter : ∀ later ∈ after, kind ∉ later.kinds) :
    (ofList (before ++ m :: after)).makerFor? kind = some m := by
  have hin : ((ofList before).register m).InRange := (inRange_ofList before).register m
  rw [ofList, List.foldl_append, List.foldl_cons]
  exact (makerFor?_foldl_register hin hafter).trans (makerFor?_register_of_mem hm)

theorem makerFor?_ofList_of_unserved {ms : List LinkMaker} (h : ∀ m ∈ ms, kind ∉ m.kinds) :
    (ofList ms).makerFor? kind = none :=
  makerFor?_foldl_register (inRange_ofList []) h

theorem serves_foldl_register (ms : List LinkMaker) (r : LinkMakers) (kind : Diagnostic.Kind) :
    (ms.foldl register r).serves kind = true ↔
      kind ∈ ms.flatMap LinkMaker.kinds ∨ r.serves kind = true := by
  induction ms generalizing r with
  | nil => simp
  | cons m rest ih =>
    rw [List.foldl_cons, ih, serves_register, List.flatMap_cons, List.mem_append, or_left_comm,
      or_assoc]

theorem serves_ofList (ms : List LinkMaker) (kind : Diagnostic.Kind) :
    (ofList ms).serves kind = true ↔ kind ∈ ms.flatMap LinkMaker.kinds := by
  have hnone : ({} : LinkMakers).serves kind = false := rfl
  rw [ofList, serves_foldl_register, hnone]
  simp

theorem servedCount_ofList (ms : List LinkMaker) :
    (ofList ms).servedCount = (ms.flatMap LinkMaker.kinds).dedup.length := by
  have hserved : (Diagnostic.Kind.all.filter (ofList ms).serves).Nodup :=
    List.Nodup.filter _ (by decide)
  have hsame := (List.perm_ext_iff_of_nodup hserved (List.nodup_dedup _)).mpr fun kind => by
    rw [List.mem_filter, List.mem_dedup, serves_ofList]
    exact and_iff_right (Diagnostic.Kind.mem_all kind)
  rw [servedCount, List.countP_eq_length_filter, hsame.length_eq]

/-- **The latest maker answers.** In the registry of any run of registrations

* the query for a kind is what the latest maker that declares the kind makes of
  the site, and there is none if that maker fails;
* there is no query for a kind that no maker declares;
* the kinds with a maker are counted once each;
* every stored position is in range;
* one more registration reports as replaced exactly those entries of its list of
  kinds that an earlier registration or an earlier entry of the list has written
  before. -/
theorem query?_ofList_latest (ms : List LinkMaker) (kind : Diagnostic.Kind) (site : Site) :
    (∀ before m after, ms = before ++ m :: after → kind ∈ m.kinds →
        (∀ later ∈ after, kind ∉ later.kinds) →
        (ofList ms).query? kind site =
          match m.query site with
          | .ok query => some query
          | .error _ => none) ∧
      ((∀ m ∈ ms, kind ∉ m.kinds) → (ofList ms).query? kind site = none) ∧
      (ofList ms).servedCount = (ms.flatMap LinkMaker.kinds).dedup.length ∧
      (∀ i, (ofList ms).routes kind = some i → i < (ofList ms).registered.size) ∧
      ∀ m, (ofList ms).replacedBy m =
        (m.kinds.zipIdx.filter fun (kind, i) =>
          kind ∈ ms.flatMap LinkMaker.kinds ++ m.kinds.take i).map Prod.fst := by
  refine ⟨?_, ?_, servedCount_ofList ms, inRange_ofList ms kind, ?_⟩
  · rintro before m after rfl hm hafter
    rw [query?, attempt?, makerFor?_ofList_of_latest hm hafter]
    show (m.query site).toOption = _
    cases m.query site <;> rfl
  · intro h
    rw [query?, attempt?, makerFor?_ofList_of_unserved h]
    rfl
  · intro m
    have hwritten : ∀ kind, ((ofList ms).routes kind).isSome = true ↔
        kind ∈ ms.flatMap LinkMaker.kinds := serves_ofList ms
    rw [replacedBy, setRoutes_replaced]
    simp only [hwritten, List.mem_append]

end LinkMakers

end Remedy
