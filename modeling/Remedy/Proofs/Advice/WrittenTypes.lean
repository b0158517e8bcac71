import Remedy.Proofs.Site.ArgumentPosition
import Remedy.Proofs.Site.Lookup
import Remedy.Proofs.Text.ShortNames
import Remedy.Proofs.Tree.SameSyntax

/-!
# Resolved and written types of a method

The signature of a method comes from its binding if the front end attached one, and
from the code if not. A binding that names exactly the written types holds the same
signature, but its types are shortened and written ones are not: the one signature is the
other in short (`Site.method_of_binding`, `Site.method_of_written`).

All advice on a missing result follows from the signature. It does not depend on the
binding exactly if shortening changes nothing, that is if no written type is qualified.
-/

namespace Remedy

/-! ## Shortened signatures -/

namespace MethodFacts

/-- The signature with short names of its types. -/
def shortened (m : MethodFacts) : MethodFacts where
  name := m.name
  returnType := shortTypeName m.returnType
  parameterTypes := m.parameterTypes.map shortTypeName

/-- No type of the signature has a dot in its name. -/
def Unqualified (m : MethodFacts) : Prop :=
  '.' ∉ m.returnType.toList ∧ ∀ type ∈ m.parameterTypes, '.' ∉ type.toList

theorem Unqualified.shortened_eq {m : MethodFacts} (h : m.Unqualified) : m.shortened = m := by
  have htypes : m.parameterTypes.map shortTypeName = m.parameterTypes.map id :=
    List.map_congr_left fun type htype => shortTypeName_eq_self_iff.mpr (h.2 type htype)
  rw [shortened, shortTypeName_eq_self_iff.mpr h.1, htypes, List.map_id]

end MethodFacts

namespace ResolvedMethod

/-- The signature with the full names of the resolved types. -/
def signature (binding : ResolvedMethod) (method : String) : MethodFacts where
  name := method
  returnType := binding.returnType.name
  parameterTypes := binding.parameters.map ResolvedType.name

/-- The binding names exactly the types that a declaration has in its code. -/
structure NamesWritten (binding : ResolvedMethod) (t : Tree) (returnType : NodeId)
    (parameters : List NodeId) : Prop where
  result : binding.returnType.name = t.render returnType
  parameters : List.Forall₂ (fun parameter type => t.parameterType? parameter = some type.name)
    parameters binding.parameters

end ResolvedMethod

theorem Tree.SameSyntax.parameterType? {t u : Tree} (h : t.SameSyntax u) (id : NodeId) :
    u.parameterType? id = t.parameterType? id := by
  have hkind := h.kind? id
  have hrender : u.render = t.render := funext h.render
  rw [Tree.parameterType?, Tree.parameterType?, hrender]
  generalize u.kind? id = kind at hkind ⊢
  generalize t.kind? id = kind' at hkind ⊢
  apply NodeKind.read_eq_of_unbound_eq kind kind' hkind
  intro kind
  cases kind <;> rfl

theorem Tree.SameSyntax.namesWritten {t u : Tree} (h : t.SameSyntax u)
    {binding : ResolvedMethod} {returnType : NodeId} {parameters : List NodeId}
    (hwritten : binding.NamesWritten t returnType parameters) :
    binding.NamesWritten u returnType parameters where
  result := hwritten.result.trans (h.render returnType).symm
  parameters := hwritten.parameters.imp fun parameter _ htype =>
    (h.parameterType? parameter).trans htype

/-! ## Signatures of a declaration -/

namespace Site

section Declaration

variable {s : Site} {id name returnType : NodeId} {parameters : List NodeId}
  {body : Option NodeId} {binding : Option ResolvedMethod}

theorem method?_of_kind? {t : Tree} {method : String}
    (hkind : t.kind? id = some (.methodDecl name (some returnType) parameters body binding))
    (hname : t.identifier? name = some method) :
    t.method? id = some ⟨method, some returnType, parameters, binding⟩ := by
  simp only [Tree.method?, hkind, hname, Option.map_some]

/-- With a binding the types are the resolved ones, in short. -/
theorem method_of_binding {method : String} {resolved : ResolvedMethod}
    (hparent : s.tree.parent? s.anchor = some id)
    (hkind : s.tree.kind? id =
      some (.methodDecl name (some returnType) parameters body (some resolved)))
    (hname : s.tree.identifier? name = some method) :
    s.method = .ok (resolved.signature method).shortened := by
  refine bind_eq_ok_iff.mpr ⟨id, require_eq_ok_iff.mpr hparent, ?_⟩
  refine bind_eq_ok_iff.mpr ⟨_, require_eq_ok_iff.mpr (method?_of_kind? hkind hname), ?_⟩
  refine bind_eq_ok_iff.mpr ⟨returnType, rfl, ?_⟩
  simp only [ResolvedMethod.signature, MethodFacts.shortened, List.map_map]
  rfl

/-- Without a binding the types are the written ones, here named after a binding of the
same declaration elsewhere. -/
theorem method_of_written {method : String} {elsewhere : ResolvedMethod}
    (hparent : s.tree.parent? s.anchor = some id)
    (hkind : s.tree.kind? id = some (.methodDecl name (some returnType) parameters body none))
    (hname : s.tree.identifier? name = some method)
    (hwritten : elsewhere.NamesWritten s.tree returnType parameters) :
    s.method = .ok (elsewhere.signature method) := by
  have htypes : List.Forall₂ (fun parameter type =>
      require (s.tree.parameterType? parameter) (.wrongShape "parameter" parameter) = .ok type)
      parameters (elsewhere.parameters.map ResolvedType.name) :=
    List.forall₂_map_right_iff.mpr
      (hwritten.parameters.imp fun parameter type htype => require_eq_ok_iff.mpr htype)
  refine bind_eq_ok_iff.mpr ⟨id, require_eq_ok_iff.mpr hparent, ?_⟩
  refine bind_eq_ok_iff.mpr ⟨_, require_eq_ok_iff.mpr (method?_of_kind? hkind hname), ?_⟩
  refine bind_eq_ok_iff.mpr ⟨returnType, rfl, ?_⟩
  refine bind_eq_ok_iff.mpr ⟨_, mapM_eq_ok_of_forall₂ htypes, ?_⟩
  rw [ResolvedMethod.signature, hwritten.result]
  rfl

/-- A declaration that is not named by an identifier has no signature. -/
theorem method_of_no_identifier (hparent : s.tree.parent? s.anchor = some id)
    (hkind : s.tree.kind? id =
      some (.methodDecl name (some returnType) parameters body binding))
    (hname : s.tree.identifier? name = none) :
    s.method = .error (.wrongShape "method declaration" id) := by
  have hparts : s.tree.method? id = none := by
    simp only [Tree.method?, hkind, hname, Option.map_none]
  exact (bind_of_ok (require_eq_ok_iff.mpr hparent) _).trans
    (bind_of_error (require_of_none hparts _) _)

end Declaration

end Site

/-! ## Advice from the signature -/

namespace MethodResult

/-- Where the signature is the same, so are the hints. -/
theorem hints_congr {σ : Type} [RandomSource σ] {s s' : Site} (h : s.method = s'.method)
    (source : σ) :
    (Explainers.builtin : Explainers σ).hints .missingReturn s source =
      (Explainers.builtin : Explainers σ).hints .missingReturn s' source := by
  have hfacts : methodWithResult s = methodWithResult s' := by
    rw [methodWithResult, methodWithResult, h]
  rw [Explainers.hints_builtin_of_facts rfl, Explainers.hints_builtin_of_facts rfl, hfacts]

/-- Where the signature is the same, so is the link. -/
theorem link?_congr {s s' : Site} (h : s.method = s'.method) (embedded : Bool) :
    ({ embedded } : LinkWriter).link? .missingReturn s =
      ({ embedded } : LinkWriter).link? .missingReturn s' := by
  have hquery : missingResultLink.query s = missingResultLink.query s' := by
    show (s.method >>= _) = (s'.method >>= _)
    rw [h]
  have hmaker : LinkMakers.builtinFor? .missingReturn = some missingResultLink := rfl
  rw [LinkWriter.link?, LinkWriter.link?, LinkMakers.query?_builtin, LinkMakers.query?_builtin,
    hmaker, Option.bind_some, Option.bind_some, hquery]

/-- The link is made wherever there is a signature, and shows it. -/
theorem shows_link?_missingResult {s : Site} {m : MethodFacts} {page : CataloguePage}
    (h : s.method = .ok m) (hpage : Diagnostic.Kind.missingReturn.page? = some page)
    (embedded : Bool) :
    ∃ link, ({ embedded } : LinkWriter).link? .missingReturn s = some link ∧
      link.Shows page [m.name, m.returnType, String.intercalate "," m.parameterTypes] embedded := by
  have hlength : page.keys.length = 3 := by
    cases hpage
    rfl
  exact LinkWriter.shows_link?_of_fill rfl hpage (query_missingResultLink h hpage) hlength.symm
    embedded

/-- The links for a signature and for the shortened one are the same only if there is
nothing to shorten. -/
theorem unqualified_of_link?_eq {s s' : Site} {m : MethodFacts} {embedded : Bool}
    (hshort : s.method = .ok m.shortened) (hwritten : s'.method = .ok m)
    (h : ({ embedded } : LinkWriter).link? .missingReturn s =
      ({ embedded } : LinkWriter).link? .missingReturn s') : m.Unqualified := by
  obtain ⟨page, hpage⟩ : ∃ page, Diagnostic.Kind.missingReturn.page? = some page := ⟨_, rfl⟩
  obtain ⟨link, hlink, hshows⟩ := shows_link?_missingResult hshort hpage embedded
  obtain ⟨link', hlink', hshows'⟩ := shows_link?_missingResult hwritten hpage embedded
  obtain rfl : link = link' := Option.some.inj (hlink.symm.trans (h.trans hlink'))
  have hvalues := hshows.values_eq hshows'
  simp only [MethodFacts.shortened, List.cons.injEq, and_true, true_and] at hvalues
  have hseparator : '.' ∉ ",".toList := by decide
  exact ⟨shortTypeName_eq_self_iff.mp hvalues.1,
    (intercalate_map_shortTypeName_eq_iff hseparator).mp hvalues.2⟩

/-! ## With and without the binding -/

/-- A missing result is explained alike at two sites: by the same hints for every random
source, and by the same link. -/
def Alike (s s' : Site) : Prop :=
  (∀ (σ : Type) [RandomSource σ] (source : σ),
    (Explainers.builtin : Explainers σ).hints .missingReturn s source =
      (Explainers.builtin : Explainers σ).hints .missingReturn s' source) ∧
  ∀ embedded : Bool, ({ embedded } : LinkWriter).link? .missingReturn s =
    ({ embedded } : LinkWriter).link? .missingReturn s'

theorem alike_of_method_eq {s s' : Site} (h : s.method = s'.method) : Alike s s' :=
  ⟨fun _ _ source => hints_congr h source, link?_congr h⟩

/-- **Resolved and written types.** Let a method declaration with a return type have, in one
of two trees of the same code, a binding that names exactly the written types, and in the
other one no binding. At every child of the declaration, a missing result is explained
alike in both trees exactly if no written type has a dot in its name, unless the method is
not named by an identifier and so has no signature in either. -/
theorem alike_without_binding_iff {t u : Tree} {id anchor name returnType : NodeId}
    {parameters : List NodeId} {body : Option NodeId} {binding : ResolvedMethod}
    (same : t.SameSyntax u) (arguments : List String)
    (hbound : t.kind? id =
      some (.methodDecl name (some returnType) parameters body (some binding)))
    (hunbound : u.kind? id = some (.methodDecl name (some returnType) parameters body none))
    (hwritten : binding.NamesWritten t returnType parameters)
    (hanchor : anchor ∈ t.children id) :
    Alike ⟨t, anchor, arguments⟩ ⟨u, anchor, arguments⟩ ↔
      ∀ method, t.identifier? name = some method → (binding.signature method).Unqualified := by
  have hparent : t.parent? anchor = some id := t.parent?_eq_some_iff.mpr hanchor
  have hparent' : u.parent? anchor = some id := (same.parent? anchor).trans hparent
  have hname' : u.identifier? name = t.identifier? name := same.identifier? name
  cases hname : t.identifier? name with
  | none =>
    rw [hname] at hname'
    refine iff_of_true (alike_of_method_eq ?_) (fun method hmethod => nomatch hmethod)
    exact (Site.method_of_no_identifier hparent hbound hname).trans
      (Site.method_of_no_identifier hparent' hunbound hname').symm
  | some method =>
    rw [hname] at hname'
    -- One signature for both trees, read in short in the first and in full in the second.
    have hmethod : Site.method ⟨t, anchor, arguments⟩ = .ok (binding.signature method).shortened :=
      Site.method_of_binding hparent hbound hname
    have hmethod' : Site.method ⟨u, anchor, arguments⟩ = .ok (binding.signature method) :=
      Site.method_of_written hparent' hunbound hname' (same.namesWritten hwritten)
    constructor
    · rintro halike _ ⟨⟩
      exact unqualified_of_link?_eq hmethod hmethod' (halike.2 false)
    · intro hunqualified
      refine alike_of_method_eq ?_
      rw [hmethod, hmethod', (hunqualified method rfl).shortened_eq]

/-- The binding of `int[] make(String label)`. -/
def makeMethod : ResolvedMethod where
  returnType := { element := "int", dimensions := 1 }
  parameters := [{ element := "String" }]

/-- The declaration `int[] make(String label) {}`, with its binding or without. -/
def makeTree (bound : Bool) : Tree :=
  (Draft.toTree
    ⟨#[{ kind := .primitiveType "int" }, { kind := .arrayType 0 1 }, { kind := .simpleName "make" },
      { kind := .simpleName "String" }, { kind := .namedType 3 }, { kind := .simpleName "label" },
      { kind := .parameter 4 5 }, { kind := .block [] },
      { kind := .methodDecl 2 (some 1) [6] (some 7) (if bound then some makeMethod else none) }]⟩
    8).toOption.get (by cases bound <;> decide +kernel)

/-- An array and a plain name have no dots. -/
theorem alike_without_binding_iff_make :
    (makeTree true).SameSyntax (makeTree false) ∧
      makeMethod.NamesWritten (makeTree true) 1 [6] ∧
      Alike ⟨makeTree true, 1, []⟩ ⟨makeTree false, 1, []⟩ := by
  have same : (makeTree true).SameSyntax (makeTree false) := by decide +kernel
  have hbound : (makeTree true).kind? 8 =
      some (.methodDecl 2 (some 1) [6] (some 7) (some makeMethod)) := by decide +kernel
  have hunbound : (makeTree false).kind? 8 =
      some (.methodDecl 2 (some 1) [6] (some 7) none) := by decide +kernel
  have hparameter : (makeTree true).parameterType? 6 = some "String" := by decide +kernel
  have hwritten : makeMethod.NamesWritten (makeTree true) 1 [6] :=
    ⟨by decide +kernel, .cons hparameter .nil⟩
  have hanchor : 1 ∈ (makeTree true).children 8 := by decide +kernel
  refine ⟨same, hwritten, ?_⟩
  refine (alike_without_binding_iff same [] hbound hunbound hwritten hanchor).mpr ?_
  intro method _
  show '.' ∉ "int[]".toList ∧ ∀ type ∈ ["String"], '.' ∉ type.toList
  decide

/-- The binding of `java.util.List names()`. -/
def namesMethod : ResolvedMethod where
  returnType := { element := "java.util.List" }
  parameters := []

/-- The declaration `java.util.List names() {}`, with its binding or without. -/
def namesTree (bound : Bool) : Tree :=
  (Draft.toTree
    ⟨#[{ kind := .simpleName "java" }, { kind := .simpleName "util" },
      { kind := .qualifiedName 0 1 }, { kind := .simpleName "List" }, { kind := .qualifiedName 2 3 },
      { kind := .namedType 4 }, { kind := .simpleName "names" }, { kind := .block [] },
      { kind := .methodDecl 6 (some 5) [] (some 7) (if bound then some namesMethod else none) }]⟩
    8).toOption.get (by cases bound <;> decide +kernel)

/-- The binding names exactly the written type, and the link shows `List` with the binding
and `java.util.List` without. -/
theorem link?_names_depends_on_binding :
    (namesTree true).SameSyntax (namesTree false) ∧
      (namesTree true).kind? 8 =
        some (.methodDecl 6 (some 5) [] (some 7) (some namesMethod)) ∧
      (namesTree false).kind? 8 = some (.methodDecl 6 (some 5) [] (some 7) none) ∧
      namesMethod.NamesWritten (namesTree true) 5 [] ∧ 5 ∈ (namesTree true).children 8 ∧
      ({ embedded := false } : LinkWriter).link? .missingReturn ⟨namesTree true, 5, []⟩ ≠
        ({ embedded := false } : LinkWriter).link? .missingReturn ⟨namesTree false, 5, []⟩ := by
  have hshort : Site.method ⟨namesTree true, 5, []⟩ =
      .ok (MethodFacts.mk "names" "java.util.List" []).shortened := by decide +kernel
  have hfull : Site.method ⟨namesTree false, 5, []⟩ =
      .ok (MethodFacts.mk "names" "java.util.List" []) := by decide +kernel
  refine ⟨by decide +kernel, by decide +kernel, by decide +kernel, ⟨by decide +kernel, .nil⟩,
    by decide +kernel, fun hlink => ?_⟩
  have hdots := (unqualified_of_link?_eq hshort hfull hlink).1
  revert hdots
  decide

end MethodResult

end Remedy
