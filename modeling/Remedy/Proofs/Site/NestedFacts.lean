import Remedy.Advice.MethodResult
import Remedy.Proofs.Site.Lookup
import Remedy.Proofs.Syntax.RenderNesting
import Remedy.Proofs.Text.NestedCode

/-!
# Facts that nest

What is looked up around an anchor is a name, rendered code, or the short name
of a type, taken from a binding or from an argument of the diagnostic. At a
`BracketFree` site none of these sources has a bracket that does not belong to
the syntax itself, and so every fact that hints are written from nests.
-/

namespace Remedy

/-! ## Sites without stray brackets -/

/-- The return type and the parameter types. -/
def ResolvedMethod.types (m : ResolvedMethod) : List ResolvedType := m.returnType :: m.parameters

/-- The types in the binding of a node. -/
def NodeKind.boundTypes : NodeKind → List ResolvedType
  | methodDecl _ _ _ _ binding => binding.toList.flatMap ResolvedMethod.types
  | declarator _ _ binding => binding.toList
  | call _ _ _ binding => binding.toList.flatMap ResolvedMethod.types
  | _ => []

/-- The types that the front end has attached to a node. -/
def Node.types (node : Node) : List ResolvedType := node.resolved.toList ++ node.kind.boundTypes

/-- No type that is attached to a node has a bracket in the name of its
element. -/
def Tree.BindingsFree (t : Tree) : Prop :=
  ∀ node ∈ t.nodes, ∀ type ∈ node.types, ∀ c ∈ type.element.toList, BracketKinds.all.has c = false

instance (t : Tree) : Decidable t.BindingsFree :=
  decidable_of_iff
    (t.nodes.toList.all fun node => node.types.all fun type =>
      type.element.toList.all fun c => !BracketKinds.all.has c)
    (by
      simp only [Tree.BindingsFree, List.all_eq_true, Array.mem_toList_iff, Bool.not_eq_true'])

/-- Brackets stand only where the syntax puts them: in no leaf, in no name that
the front end has resolved, and in the arguments of the diagnostic only as the
pairs of an array type. -/
structure Site.BracketFree (s : Site) : Prop where
  leaves : s.tree.LeavesFree
  bindings : s.tree.BindingsFree
  arguments : ∀ argument ∈ s.arguments, IsTypeText argument

/-! ## Names, code and types -/

namespace Tree

variable {t : Tree} {id : NodeId}

theorem LeavesFree.nested_render (h : t.LeavesFree) (id : NodeId) : Nested (t.render id) :=
  h.leavesNest.nests id

theorem LeavesFree.nested_identifier {name : String} (h : t.LeavesFree)
    (hname : t.identifier? id = some name) : Nested name := by
  rw [← render_of_identifier? hname]
  exact h.nested_render id

theorem BindingsFree.nested_shortName {node : Node} {type : ResolvedType} (h : t.BindingsFree)
    (hnode : t.node? id = some node) (htype : type ∈ node.types) : Nested type.shortName :=
  ResolvedType.nested_shortName (h node (Array.mem_of_getElem? hnode) type htype)

theorem BindingsFree.nested_resolved {type : ResolvedType} (h : t.BindingsFree)
    (htype : t.type? id = some type) : Nested type.shortName := by
  obtain ⟨node, hnode, hresolved⟩ := Option.bind_eq_some_iff.mp htype
  exact h.nested_shortName hnode (List.mem_append_left _ (by simp [hresolved]))

theorem BindingsFree.nested_bound {kind : NodeKind} {type : ResolvedType} (h : t.BindingsFree)
    (hk : t.kind? id = some kind) (htype : type ∈ kind.boundTypes) : Nested type.shortName := by
  obtain ⟨node, hnode, rfl⟩ := Option.map_eq_some_iff.mp hk
  exact h.nested_shortName hnode (List.mem_append_right _ htype)

theorem LeavesFree.nested_declarator {declared : Declarator} (h : t.LeavesFree)
    (hdeclared : t.declarator? id = some declared) : Nested declared.name := by
  unfold declarator? at hdeclared
  split at hdeclared
  next name _ _ hk =>
    obtain ⟨n, hn, rfl⟩ := Option.map_eq_some_iff.mp hdeclared
    exact h.nested_identifier hn
  next => cases hdeclared

theorem LeavesFree.nested_declaratorAround {declared : Declarator} (h : t.LeavesFree)
    (hdeclared : t.declaratorAround? id = some declared) : Nested declared.name := by
  unfold declaratorAround? at hdeclared
  split at hdeclared
  next declarator hfound => exact h.nested_declarator hdeclared
  next => cases hdeclared

theorem kind?_of_method? {parts : MethodParts} (h : t.method? id = some parts) :
    ∃ name body, t.kind? id =
        some (.methodDecl name parts.returnType parts.parameters body parts.binding) ∧
      t.identifier? name = some parts.name := by
  unfold method? at h
  split at h
  next name returnType parameters body binding hk =>
    obtain ⟨n, hn, rfl⟩ := Option.map_eq_some_iff.mp h
    exact ⟨name, body, hk, hn⟩
  next => cases h

theorem LeavesFree.nested_parameterType {type : String} (h : t.LeavesFree)
    (htype : t.parameterType? id = some type) : Nested type := by
  unfold parameterType? at htype
  split at htype
  next =>
    cases htype
    exact h.nested_render _
  next => cases htype

end Tree

/-! ## The facts of a site -/

structure ArrayVariable.Nest (a : ArrayVariable) : Prop where
  elementType : Nested a.elementType
  name : Nested a.name

structure CallFacts.Nest (c : CallFacts) : Prop where
  name : Nested c.name
  arguments : ∀ argument ∈ c.arguments, Nested argument
  argumentTypes : ∀ type ∈ c.argumentTypes, Nested type

structure MethodCall.BoundCall.Nest (b : BoundCall) : Prop where
  call : b.call.Nest
  returnType : Nested b.binding.returnType.shortName
  requiredTypes : ∀ type ∈ b.requiredTypes, Nested type

structure MethodFacts.Nest (m : MethodFacts) : Prop where
  name : Nested m.name
  returnType : Nested m.returnType
  parameterTypes : ∀ type ∈ m.parameterTypes, Nested type

structure VariableType.Mismatch.Nest (m : Mismatch) : Prop where
  provided : Nested m.provided
  required : Nested m.required
  variableName : Nested m.variableName

structure VariableType.UnknownClass.Nest (u : UnknownClass) : Prop where
  className : Nested u.className
  variableName : Nested u.variableName

namespace Site.BracketFree

variable {s : Site} (h : s.BracketFree)
include h

theorem nested_shortTypeName {index : Nat} {name : String} (hname : s.argument index = .ok name) :
    Nested (shortTypeName name) :=
  (h.arguments name (List.mem_of_getElem? (require_eq_ok_iff.mp hname))).nested_shortTypeName

theorem unsizedArray {a : ArrayVariable} (ha : s.unsizedArray = .ok a) : a.Nest := by
  obtain ⟨type, inner, creation, element, declaration, declared, _, _, _, _, _, hdeclared, rfl⟩ :=
    unsizedArray_eq_ok ha
  exact ⟨h.leaves.nested_render s.anchor, h.leaves.nested_declarator hdeclared⟩

theorem createdArray {a : ArrayVariable} (ha : s.createdArray = .ok a) : a.Nest := by
  obtain ⟨creation, element, declaration, declared, _, _, _, hdeclared, rfl⟩ :=
    createdArray_eq_ok ha
  exact ⟨h.leaves.nested_render element, h.leaves.nested_declarator hdeclared⟩

theorem call {c : CallFacts} (hc : s.call = .ok c) : c.Nest := by
  obtain ⟨id, receiver, name, arguments, _, _, hname, harguments, htypes⟩ := call_eq_ok hc
  refine ⟨h.leaves.nested_identifier hname, ?_, ?_⟩
  · intro argument hargument
    rw [harguments] at hargument
    obtain ⟨id, _, rfl⟩ := List.mem_map.mp hargument
    exact h.leaves.nested_render id
  · intro type htype
    obtain ⟨argument, hargument⟩ := exists_of_forall₂_of_mem htypes htype
    obtain ⟨resolved, hresolved, rfl⟩ := Option.map_eq_some_iff.mp hargument
    exact h.bindings.nested_resolved hresolved

theorem boundCall {b : MethodCall.BoundCall} (hb : MethodCall.boundCall s = .ok b) : b.Nest := by
  obtain ⟨hcall, hbinding⟩ := MethodCall.boundCall_eq_ok hb
  obtain ⟨id, receiver, name, arguments, _, hk, _⟩ := call_eq_ok hcall
  rw [hbinding] at hk
  have htypes : ∀ type ∈ b.binding.types, Nested type.shortName := fun type htype =>
    h.bindings.nested_bound hk (by simpa [NodeKind.boundTypes] using htype)
  refine ⟨h.call hcall, htypes _ List.mem_cons_self, ?_⟩
  intro name hname
  obtain ⟨type, htype, rfl⟩ := List.mem_map.mp hname
  exact htypes type (List.mem_cons_of_mem _ htype)

/-- The types are taken from the binding if there is one, and are rendered
otherwise. -/
theorem method {m : MethodFacts} (hm : s.method = .ok m) : m.Nest := by
  obtain ⟨id, _, hm⟩ := bind_eq_ok_iff.mp hm
  obtain ⟨parts, hparts, hm⟩ := bind_eq_ok_iff.mp hm
  obtain ⟨returnNode, _, hm⟩ := bind_eq_ok_iff.mp hm
  obtain ⟨name, body, hk, hname⟩ := Tree.kind?_of_method? (require_eq_ok_iff.mp hparts)
  have hname := h.leaves.nested_identifier hname
  split at hm
  next binding hbinding =>
    cases hm
    rw [hbinding] at hk
    have htypes : ∀ type ∈ binding.types, Nested type.shortName := fun type htype =>
      h.bindings.nested_bound hk (by simpa [NodeKind.boundTypes] using htype)
    refine ⟨hname, htypes _ List.mem_cons_self, ?_⟩
    intro text htext
    obtain ⟨type, htype, rfl⟩ := List.mem_map.mp htext
    exact htypes type (List.mem_cons_of_mem _ htype)
  next =>
    obtain ⟨types, htypes, hm⟩ := bind_eq_ok_iff.mp hm
    cases hm
    refine ⟨hname, h.leaves.nested_render returnNode, fun type htype => ?_⟩
    obtain ⟨parameter, hparameter⟩ :=
      exists_of_forall₂_of_mem (forall₂_of_mapM_eq_ok htypes) htype
    exact h.leaves.nested_parameterType (require_eq_ok_iff.mp hparameter)

theorem methodWithResult {m : MethodFacts} (hm : MethodResult.methodWithResult s = .ok m) :
    m.Nest :=
  h.method (MethodResult.methodWithResult_eq_ok_iff.mp hm).1

theorem mismatch {m : VariableType.Mismatch} (hm : VariableType.mismatch s = .ok m) : m.Nest := by
  obtain ⟨provided, hprovided, hm⟩ := bind_eq_ok_iff.mp hm
  obtain ⟨required, hrequired, hm⟩ := bind_eq_ok_iff.mp hm
  obtain ⟨id, _, hm⟩ := bind_eq_ok_iff.mp hm
  obtain ⟨declared, hdeclared, hm⟩ := bind_eq_ok_iff.mp hm
  cases hm
  exact ⟨h.nested_shortTypeName hprovided, h.nested_shortTypeName hrequired,
    h.leaves.nested_declarator (require_eq_ok_iff.mp hdeclared)⟩

theorem unknownClassFacts {u : VariableType.UnknownClass}
    (hu : VariableType.unknownClassFacts s = .ok u) : u.Nest := by
  obtain ⟨name, hname, hu⟩ := bind_eq_ok_iff.mp hu
  obtain ⟨declared, hdeclared, hu⟩ := bind_eq_ok_iff.mp hu
  cases hu
  exact ⟨h.nested_shortTypeName hname,
    h.leaves.nested_declaratorAround (require_eq_ok_iff.mp hdeclared)⟩

end Site.BracketFree

end Remedy
