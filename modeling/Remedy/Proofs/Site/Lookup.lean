import Mathlib.Data.List.Forall2
import Remedy.Advice.MethodCall
import Remedy.Advice.MethodResult
import Remedy.Advice.VariableType
import Remedy.Proofs.Tree.Ancestry

/-!
# What a look-up has found

A look-up that succeeds has found certain nodes around the anchor. The results
below name the nodes, so that what is said of the facts can be said of the tree.
-/

namespace Remedy

/-- After a look-up that succeeds, the rest decides. -/
theorem bind_of_ok {α β : Type} {x : Except SiteError α} {a : α} (h : x = .ok a)
    (f : α → Except SiteError β) : (x >>= f) = f a := by
  rw [h]
  rfl

/-- After a look-up that fails, nothing more is looked for. -/
theorem bind_of_error {α β : Type} {x : Except SiteError α} {e : SiteError} (h : x = .error e)
    (f : α → Except SiteError β) : (x >>= f) = .error e := by
  rw [h]
  rfl

theorem require_of_none {α : Type} {value : Option α} (h : value = none) (otherwise : SiteError) :
    require value otherwise = .error otherwise := by
  rw [h]
  rfl

/-- A list of look-ups succeeds with one result for each. -/
theorem forall₂_of_mapM_eq_ok {α β : Type} {f : α → Except SiteError β} {xs : List α}
    {ys : List β} (h : xs.mapM f = .ok ys) : List.Forall₂ (fun x y => f x = .ok y) xs ys := by
  induction xs generalizing ys with
  | nil =>
    cases h
    exact .nil
  | cons x rest ih =>
    rw [List.mapM_cons] at h
    obtain ⟨y, hy, h⟩ := bind_eq_ok_iff.mp h
    obtain ⟨found, hfound, h⟩ := bind_eq_ok_iff.mp h
    cases h
    exact .cons hy (ih hfound)

theorem mapM_eq_ok_of_forall₂ {α β : Type} {f : α → Except SiteError β} {xs : List α}
    {ys : List β} (h : List.Forall₂ (fun x y => f x = .ok y) xs ys) : xs.mapM f = .ok ys := by
  induction h with
  | nil => rfl
  | cons hfirst _ ih =>
    rw [List.mapM_cons, hfirst, ih]
    rfl

theorem exists_of_forall₂_of_mem {α β : Type} {R : α → β → Prop} {xs : List α} {ys : List β}
    (h : List.Forall₂ R xs ys) {y : β} (hy : y ∈ ys) : ∃ x, R x y := by
  induction h with
  | nil => cases hy
  | cons hfirst _ ih =>
    rcases List.mem_cons.mp hy with rfl | hrest
    · exact ⟨_, hfirst⟩
    · exact ih hrest

namespace Tree

/-! ## Hops and declaring nodes -/

theorem above_one {t : Tree} (id : NodeId) : t.above id 1 = t.parent? id := by
  show (t.ancestors id)[0]? = _
  cases h : t.parent? id with
  | none => rw [ancestors_of_parent?_none h]; rfl
  | some p => rw [ancestors_of_parent? h]; rfl

theorem above_of_parent? {t : Tree} {id p : NodeId} (h : t.parent? id = some p) (hops : Nat) :
    t.above id (hops + 2) = t.above p (hops + 1) := by
  show (t.ancestors id)[hops + 1]? = (t.ancestors p)[hops]?
  rw [ancestors_of_parent? h, List.getElem?_cons_succ]

/-- The search for a declaring node goes past a node that declares nothing. -/
theorem declaratorAround?_of_parent? {t : Tree} {id p : NodeId} (h : t.parent? id = some p)
    (hskip : t.declaredAt? id = none) : t.declaratorAround? id = t.declaratorAround? p := by
  rw [declaratorAround?, lineage_of_parent? h, List.findSome?_cons, hskip, declaratorAround?]

/-- The search for a declaring node ends at a declarator. -/
theorem declaratorAround?_of_declarator? {t : Tree} {id : NodeId} {declared : Declarator}
    (h : t.declarator? id = some declared) : t.declaratorAround? id = some declared := by
  have hfound : t.declaredAt? id = some (some id) := by
    unfold declarator? at h
    split at h
    next hk => simp [declaredAt?, hk]
    next => cases h
  rw [declaratorAround?, lineage, List.findSome?_cons, hfound]
  exact h

theorem declaredAt?_of_arrayElement? {t : Tree} {id element : NodeId}
    (h : t.arrayElement? id = some element) : t.declaredAt? id = none := by
  unfold arrayElement? at h
  split at h
  next hk => simp [declaredAt?, hk]
  next => cases h

theorem declaredAt?_of_createdElement? {t : Tree} {id element : NodeId}
    (h : t.createdElement? id = some element) : t.declaredAt? id = none := by
  unfold createdElement? at h
  split at h
  next hk => simp [declaredAt?, hk]
  next => cases h

/-! ## Calls -/

theorem kind?_of_call? {t : Tree} {id : NodeId} {parts : CallParts}
    (h : t.call? id = some parts) : ∃ receiver name,
      t.kind? id = some (.call receiver name parts.arguments parts.binding) ∧
        t.identifier? name = some parts.name := by
  unfold call? at h
  split at h
  next receiver name arguments binding hk =>
    obtain ⟨n, hn, rfl⟩ := Option.map_eq_some_iff.mp h
    exact ⟨receiver, name, hk, hn⟩
  next => cases h

end Tree

namespace Site

/-- The array of a creation without a size stands three parents above the
anchor. -/
theorem unsizedArray_eq_ok {s : Site} {a : ArrayVariable} (h : s.unsizedArray = .ok a) :
    ∃ type inner creation element declaration declared,
      s.tree.parent? s.anchor = some type ∧ s.tree.arrayElement? type = some inner ∧
      s.tree.parent? type = some creation ∧ s.tree.createdElement? creation = some element ∧
      s.tree.parent? creation = some declaration ∧
      s.tree.declarator? declaration = some declared ∧ a = ⟨s.text, declared.name⟩ := by
  obtain ⟨type, htype, h⟩ := bind_eq_ok_iff.mp h
  obtain ⟨inner, hinner, h⟩ := bind_eq_ok_iff.mp h
  obtain ⟨creation, hcreation, h⟩ := bind_eq_ok_iff.mp h
  obtain ⟨element, helement, h⟩ := bind_eq_ok_iff.mp h
  obtain ⟨declaration, hdeclaration, h⟩ := bind_eq_ok_iff.mp h
  obtain ⟨declared, hdeclared, h⟩ := bind_eq_ok_iff.mp h
  cases h
  have htype := require_eq_ok_iff.mp htype
  have hcreation := require_eq_ok_iff.mp hcreation
  have hdeclaration := require_eq_ok_iff.mp hdeclaration
  -- The hops are counted from the anchor, and each parent takes one off.
  rw [Tree.above_one] at htype
  rw [Tree.above_of_parent? htype, Tree.above_one] at hcreation
  rw [Tree.above_of_parent? htype, Tree.above_of_parent? hcreation, Tree.above_one] at hdeclaration
  exact ⟨type, inner, creation, element, declaration, declared, htype,
    require_eq_ok_iff.mp hinner, hcreation, require_eq_ok_iff.mp helement, hdeclaration,
    require_eq_ok_iff.mp hdeclared, rfl⟩

/-- The array of any other creation stands two parents above the anchor. -/
theorem createdArray_eq_ok {s : Site} {a : ArrayVariable} (h : s.createdArray = .ok a) :
    ∃ creation element declaration declared,
      s.tree.parent? s.anchor = some creation ∧ s.tree.createdElement? creation = some element ∧
      s.tree.parent? creation = some declaration ∧
      s.tree.declarator? declaration = some declared ∧
      a = ⟨s.tree.render element, declared.name⟩ := by
  obtain ⟨creation, hcreation, h⟩ := bind_eq_ok_iff.mp h
  obtain ⟨element, helement, h⟩ := bind_eq_ok_iff.mp h
  obtain ⟨declaration, hdeclaration, h⟩ := bind_eq_ok_iff.mp h
  obtain ⟨declared, hdeclared, h⟩ := bind_eq_ok_iff.mp h
  cases h
  exact ⟨creation, element, declaration, declared, require_eq_ok_iff.mp hcreation,
    require_eq_ok_iff.mp helement, require_eq_ok_iff.mp hdeclaration,
    require_eq_ok_iff.mp hdeclared, rfl⟩

/-- The call facts at a site are those of the call that is the anchor's
parent. -/
theorem call_eq_ok {s : Site} {c : CallFacts} (h : s.call = .ok c) :
    ∃ id receiver name arguments, s.tree.parent? s.anchor = some id ∧
      s.tree.kind? id = some (.call receiver name arguments c.binding) ∧
      s.tree.identifier? name = some c.name ∧ c.arguments = arguments.map s.tree.render ∧
      List.Forall₂ (fun argument type =>
        (s.tree.type? argument).map ResolvedType.shortName = some type)
        arguments c.argumentTypes := by
  obtain ⟨id, hparent, h⟩ := bind_eq_ok_iff.mp h
  obtain ⟨parts, hparts, h⟩ := bind_eq_ok_iff.mp h
  obtain ⟨types, htypes, h⟩ := bind_eq_ok_iff.mp h
  cases h
  obtain ⟨receiver, name, hk, hname⟩ := Tree.kind?_of_call? (require_eq_ok_iff.mp hparts)
  refine ⟨id, receiver, name, parts.arguments, require_eq_ok_iff.mp hparent, hk, hname, rfl, ?_⟩
  exact (forall₂_of_mapM_eq_ok htypes).imp fun _ _ => require_eq_ok_iff.mp

/-- A call whose arguments have types gives its facts. -/
theorem call_of_kind? {s : Site} {id name : NodeId} {receiver : Option NodeId}
    {arguments : List NodeId} {binding : Option ResolvedMethod} {callee : String}
    {types : List ResolvedType} (hparent : s.tree.parent? s.anchor = some id)
    (hkind : s.tree.kind? id = some (.call receiver name arguments binding))
    (hname : s.tree.identifier? name = some callee)
    (htypes : List.Forall₂ (fun argument type => s.tree.type? argument = some type) arguments types) :
    s.call = .ok {
      name := callee
      arguments := arguments.map s.tree.render
      argumentTypes := types.map ResolvedType.shortName
      binding := binding } := by
  have hshort : arguments.mapM (fun argument =>
      require ((s.tree.type? argument).map ResolvedType.shortName) (.unresolved "argument type")) =
        .ok (types.map ResolvedType.shortName) := by
    refine mapM_eq_ok_of_forall₂ (List.forall₂_map_right_iff.mpr (htypes.imp ?_))
    intro argument type htype
    rw [htype]
    rfl
  have hparts : s.tree.call? id = some ⟨callee, arguments, binding⟩ := by
    simp only [Tree.call?, hkind, hname, Option.map_some]
  refine bind_eq_ok_iff.mpr ⟨id, require_eq_ok_iff.mpr hparent, ?_⟩
  refine bind_eq_ok_iff.mpr ⟨_, require_eq_ok_iff.mpr hparts, ?_⟩
  exact bind_eq_ok_iff.mpr ⟨_, hshort, rfl⟩

end Site

/-- A bound call is a call node with a method binding above the anchor. -/
theorem MethodCall.boundCall_eq_ok {s : Site} {b : BoundCall} (h : boundCall s = .ok b) :
    s.call = .ok b.call ∧ b.call.binding = some b.binding := by
  obtain ⟨call, hcall, h⟩ := bind_eq_ok_iff.mp h
  obtain ⟨binding, hbinding, h⟩ := bind_eq_ok_iff.mp h
  cases h
  exact ⟨hcall, require_eq_ok_iff.mp hbinding⟩

/-- The method with a result is the method above the anchor, unless its type is `void`. -/
theorem MethodResult.methodWithResult_eq_ok_iff {s : Site} {m : MethodFacts} :
    methodWithResult s = .ok m ↔ s.method = .ok m ∧ m.returnType ≠ "void" := by
  constructor
  · intro h
    obtain ⟨method, hmethod, h⟩ := bind_eq_ok_iff.mp h
    split at h
    next => cases h
    next hresult =>
      cases h
      exact ⟨hmethod, hresult⟩
  · rintro ⟨hmethod, hresult⟩
    refine bind_eq_ok_iff.mpr ⟨m, hmethod, ?_⟩
    rw [if_neg hresult]
    rfl

/-- A mismatch is between the first two arguments of the diagnostic. -/
theorem VariableType.mismatch_eq_ok {s : Site} {m : Mismatch} (h : mismatch s = .ok m) :
    ∃ provided required, s.arguments[0]? = some provided ∧ s.arguments[1]? = some required ∧
      m.provided = shortTypeName provided ∧ m.required = shortTypeName required := by
  obtain ⟨provided, hprovided, h⟩ := bind_eq_ok_iff.mp h
  obtain ⟨required, hrequired, h⟩ := bind_eq_ok_iff.mp h
  obtain ⟨id, _, h⟩ := bind_eq_ok_iff.mp h
  obtain ⟨declared, _, h⟩ := bind_eq_ok_iff.mp h
  cases h
  exact ⟨provided, required, require_eq_ok_iff.mp hprovided, require_eq_ok_iff.mp hrequired,
    rfl, rfl⟩

end Remedy
