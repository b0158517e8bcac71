import Remedy.Proofs.Site.ArgumentPosition
import Remedy.Proofs.Site.Lookup

/-!
# What an unknown call is used as

The link for a call to an unknown method shows the type that the value of the call
is used as. It is what the code around the call implies, and where the call is an
argument itself, that is settled by the outer call.

The outer call finds a parameter by source text, as it does for an unknown name.
But an unknown call has no name to look for, and the text that is looked for is
empty. No argument of a parsed program is written as nothing, least of all the call
in question, so its own parameter is not found and the type is `Object`.
-/

namespace Remedy

namespace Tree

variable {t : Tree}

/-! ## Calls are not written as nothing -/

theorem render_call_ne_empty {id name : NodeId} {receiver : Option NodeId}
    {arguments : List NodeId} {binding : Option ResolvedMethod}
    (h : t.kind? id = some (.call receiver name arguments binding)) : t.render id ≠ "" := by
  have hparens : '(' ∈ (t.render id).toList := by
    rw [render_of_kind? h]
    simp [NodeKind.layout, Piece.inParens, renderPiece, String.join_append, String.join_cons]
  intro hempty
  rw [hempty] at hparens
  cases hparens

/-- Parentheses do not make a text empty. -/
theorem Wraps.render_ne_empty {outer inner : NodeId} (h : t.Wraps outer inner)
    (hinner : t.render inner ≠ "") : t.render outer ≠ "" := by
  intro hempty
  have hle := h.length_render_le
  rw [hempty, String.length_empty] at hle
  exact hinner (String.length_eq_zero_iff.mp (Nat.le_zero.mp hle))

end Tree

namespace LinkWriter

/-- The link for an unknown method is made wherever the facts of the call are found. It
shows the type that the code around the call implies. -/
theorem get?_typename_of_unknownMethod {site : Site} {call : CallFacts} {id : NodeId}
    (hcall : site.call = .ok call) (hparent : site.tree.parent? site.anchor = some id)
    (embedded : Bool) :
    ∃ link query, ({ embedded } : LinkWriter).link? .undefinedMethod site = some link ∧
      link.read? = some query ∧
      query.get? "typename" = some (shortTypeName (site.tree.expectedType id "")) := by
  obtain ⟨page, hpage⟩ : ∃ page, Diagnostic.Kind.undefinedMethod.page? = some page := ⟨_, rfl⟩
  have hquery : MethodCall.unknownMethodLink.query site = .ok (page.fill
      [call.name, "correctName", shortTypeName (site.tree.expectedType id ""),
        String.intercalate "," call.arguments, String.intercalate "," call.argumentTypes]) := by
    cases hpage
    refine bind_eq_ok_iff.mpr ⟨call, hcall, ?_⟩
    exact bind_eq_ok_iff.mpr ⟨id, require_eq_ok_iff.mpr hparent, rfl⟩
  refine get?_link?_of_fill rfl hpage hquery ?_ embedded
  cases hpage
  rfl

/-- A call whose method is not named by an identifier is not linked. -/
theorem link?_unknownMethod_eq_none {site : Site} {id : NodeId} {receiver : Option NodeId}
    {arguments : List NodeId} {binding : Option ResolvedMethod}
    (hkind : site.tree.kind? id = some (.call receiver site.anchor arguments binding))
    (hparent : site.tree.parent? site.anchor = some id)
    (hname : site.tree.identifier? site.anchor = none) (embedded : Bool) :
    ({ embedded } : LinkWriter).link? .undefinedMethod site = none := by
  have hparts : site.tree.call? id = none := by
    simp only [Tree.call?, hkind, hname, Option.map_none]
  have hcall : site.call = .error (.wrongShape "method invocation" id) :=
    (bind_of_ok (require_eq_ok_iff.mpr hparent) _).trans (bind_of_error (require_of_none hparts _) _)
  have hquery : MethodCall.unknownMethodLink.query site =
      .error (.wrongShape "method invocation" id) := bind_of_error hcall _
  exact link?_eq_none_of_query rfl hquery embedded

/-- **The type that an unknown call is used as.** Let a call to an unknown method, all of
whose arguments have types, be the argument at position `i` of an outer call with a
resolved method, in any number of parentheses. If the unknown method is not named by an
identifier, no link is made. If it is, a link is made and shows a type.

* The type is `Object` if every argument of the outer call is written as something. Then
  the type of the call's own parameter is shown exactly if it is `Object` as well.
* In general the type is that of the parameter at the first position where an argument is
  written as nothing, and this is never the position of the call.
* It is `Object` if the outer method is not named by an identifier. -/
theorem link?_nestedUnknownCall (embedded : Bool) {site : Site} {call id name argument : NodeId}
    {receiver receiver' : Option NodeId} {arguments outer : List NodeId}
    {binding : Option ResolvedMethod} {types : List ResolvedType} {method : ResolvedMethod}
    {parameter : ResolvedType} {i : Nat}
    (hcall : site.tree.kind? call = some (.call receiver site.anchor arguments binding))
    (htypes : List.Forall₂ (fun argument type => site.tree.type? argument = some type)
      arguments types)
    (houter : site.tree.kind? id = some (.call receiver' name outer (some method)))
    (hargument : outer[i]? = some argument) (hwraps : site.tree.Wraps argument call)
    (hparameter : method.parameters[i]? = some parameter) :
    (site.tree.identifier? site.anchor = none →
      ({ embedded } : LinkWriter).link? .undefinedMethod site = none) ∧
    ((site.tree.identifier? site.anchor).isSome →
      ∃ link query type, ({ embedded } : LinkWriter).link? .undefinedMethod site = some link ∧
        link.read? = some query ∧ query.get? "typename" = some (shortTypeName type) ∧
        ((∀ other ∈ outer, site.tree.render other ≠ "") → type = fallbackType ∧
          (query.get? "typename" = some parameter.shortName ↔
            parameter.shortName = fallbackType)) ∧
        ((site.tree.identifier? name).isSome → ∀ j, site.tree.FirstWritten outer "" j →
          j ≠ i ∧ type = method.parameters[j]?.elim fallbackType ResolvedType.name) ∧
        (site.tree.identifier? name = none → type = fallbackType)) := by
  have hparent : site.tree.parent? site.anchor = some call := by
    rw [Tree.parent?_eq_some_iff, Tree.children_of_kind? hcall]
    exact List.mem_append_right _ List.mem_cons_self
  refine ⟨fun hname => link?_unknownMethod_eq_none hcall hparent hname embedded, ?_⟩
  intro hnamed
  obtain ⟨callee, hname⟩ := Option.isSome_iff_exists.mp hnamed
  have hfacts := Site.call_of_kind? hparent hcall hname htypes
  obtain ⟨link, query, hlink, hread, htype⟩ :=
    get?_typename_of_unknownMethod hfacts hparent embedded
  have hexpected := Tree.expectedType_of_argument houter (List.mem_of_getElem? hargument) hwraps ""
  refine ⟨link, query, _, hlink, hread, htype, ?_, ?_, ?_⟩
  · intro hwritten
    have hobject : site.tree.expectedType call "" = fallbackType := by
      rw [hexpected, Tree.parameterFor?_of_not_written houter hwritten, Option.elim_none]
    have hshort : shortTypeName fallbackType = fallbackType := by decide +kernel
    refine ⟨hobject, ?_⟩
    rw [htype, hobject, hshort, Option.some.injEq, eq_comm]
  · intro houterName j hfirst
    refine ⟨?_, ?_⟩
    · rintro rfl
      obtain ⟨other, hother, hempty⟩ := hfirst.written
      obtain rfl := Option.some.inj (hargument.symm.trans hother)
      exact hwraps.render_ne_empty (Tree.render_call_ne_empty hcall) hempty
    · rw [hexpected, Tree.parameterFor?_of_firstWritten houter houterName hfirst]
  · intro houterName
    rw [hexpected, Tree.parameterFor?_of_no_identifier houter houterName, Option.elim_none]

/-- The unknown method's name in `label(1, title(2))`. -/
def titleSite : Site where
  tree :=
    (Draft.toTree
      ⟨#[{ kind := .simpleName "label" }, { kind := .numberLit "1" },
        { kind := .simpleName "title" },
        { kind := .numberLit "2", resolved := some { element := "int" } },
        { kind := .call none 2 [3] none }, { kind := .call none 0 [1, 4] (some labelMethod) }]⟩
      5).toOption.get (by decide +kernel)
  anchor := 2

theorem link?_nestedUnknownCall_title :
    titleSite.tree.kind? 4 = some (.call none titleSite.anchor [3] none) ∧
      List.Forall₂ (fun argument type => titleSite.tree.type? argument = some type)
        [3] [{ element := "int" }] ∧
      titleSite.tree.kind? 5 = some (.call none 0 [1, 4] (some labelMethod)) ∧
      titleSite.tree.Wraps 4 4 ∧
      ∃ link query, ({ embedded := true } : LinkWriter).link? .undefinedMethod titleSite =
          some link ∧
        link.read? = some query ∧ query.get? "typename" = some "Object" := by
  have hcall : titleSite.tree.kind? 4 = some (.call none titleSite.anchor [3] none) := by
    decide +kernel
  have htypes : List.Forall₂ (fun argument type => titleSite.tree.type? argument = some type)
      [3] [{ element := "int" }] := .cons (by decide +kernel) .nil
  have houter : titleSite.tree.kind? 5 = some (.call none 0 [1, 4] (some labelMethod)) := by
    decide +kernel
  have hargument : ([1, 4] : List NodeId)[1]? = some 4 := rfl
  have hparameter : labelMethod.parameters[1]? = some { element := "java.lang.String" } := rfl
  have hnamed : (titleSite.tree.identifier? titleSite.anchor).isSome := by decide +kernel
  have hwritten : ∀ other ∈ ([1, 4] : List NodeId), titleSite.tree.render other ≠ "" := by
    decide +kernel
  obtain ⟨_, hmade⟩ :=
    link?_nestedUnknownCall true hcall htypes houter hargument (.bare 4) hparameter
  obtain ⟨link, query, type, hlink, hread, htype, hobject, _⟩ := hmade hnamed
  have hshort : shortTypeName type = "Object" := by
    rw [(hobject hwritten).1]
    decide +kernel
  rw [hshort] at htype
  exact ⟨hcall, htypes, houter, .bare 4, link, query, hlink, hread, htype⟩

/-- The call is the second argument of a method that takes a text there, and the link says
that it is used as an object of any kind. -/
theorem link?_title_shows_object :
    titleSite.tree.kind? 5 = some (.call none 0 [1, 4] (some labelMethod)) ∧
      titleSite.tree.kind? 4 = some (.call none titleSite.anchor [3] none) ∧
      titleSite.tree.type? 3 = some { element := "int" } ∧
      labelMethod.parameters[1]?.map ResolvedType.shortName = some "String" ∧
      ∃ link query, ({ embedded := false } : LinkWriter).link? .undefinedMethod titleSite =
          some link ∧
        link.read? = some query ∧ query.get? "typename" = some "Object" ∧
        query.get? "typename" ≠ some "String" := by
  have hcall : titleSite.call = .ok
      { name := "title", arguments := ["2"], argumentTypes := ["int"], binding := none } := by
    decide +kernel
  have hparent : titleSite.tree.parent? titleSite.anchor = some 4 := by decide +kernel
  obtain ⟨link, query, hlink, hread, htype⟩ :=
    get?_typename_of_unknownMethod hcall hparent false
  have hshort : shortTypeName (titleSite.tree.expectedType 4 "") = "Object" := by decide +kernel
  rw [hshort] at htype
  refine ⟨by decide +kernel, by decide +kernel, by decide +kernel, by decide +kernel, link, query,
    hlink, hread, htype, ?_⟩
  rw [htype]
  decide

end LinkWriter

end Remedy
