import Remedy.Proofs.Link.CataloguePages
import Remedy.Proofs.Site.Lookup

/-!
# Lists in a link

A list is written as one value, its items joined with commas, and the reader of the
page cuts the value at every comma. Nothing marks a comma that belongs to an item.
So a list is read back exactly if no item holds a comma (`readList_joined_eq_iff`).

Source texts of arguments do hold commas, and so do names of generic types. The last
part says what this means for the two lists in the link for an unknown method.
-/

namespace Remedy

/-- The items of a list as the page reads them. -/
def readList (value : String) : List String := (cutAll ',' value.toList).map String.ofList

/-- A list of at least one item is read back exactly if no item holds a comma. -/
theorem readList_joined_eq_iff {items : List String} (hne : items ≠ []) :
    readList (String.intercalate "," items) = items ↔ ∀ item ∈ items, ',' ∉ item.toList := by
  have hsplit : cutAll ',' ([','].intercalate (items.map String.toList)) = items.map String.toList ↔
      ∀ item ∈ items, ',' ∉ item.toList := by
    rw [cutAll_intercalate_eq_iff (by simpa using hne), List.forall_mem_map]
  rw [← hsplit, readList, String.toList_intercalate]
  constructor
  · intro h
    have hlists := congrArg (List.map String.toList) h
    simpa [Function.comp_def] using hlists
  · intro h
    show (cutAll ',' ([','].intercalate (items.map String.toList))).map String.ofList = items
    rw [h]
    simp

/-- The list that a query holds for a key. -/
def Query.list? (q : Query) (key : String) : Option (List String) := (q.get? key).map readList

namespace LinkWriter

/-- The link for an unknown method is read back with the texts and the types of the
arguments as its lists. -/
theorem get?_lists_of_undefinedMethod {embedded : Bool} {site : Site} {link : CatalogueLink}
    (made : ({ embedded } : LinkWriter).link? .undefinedMethod site = some link) :
    ∃ call query, site.call = .ok call ∧ link.read? = some query ∧
      query.get? "providedparams" = some (String.intercalate "," call.arguments) ∧
      query.get? "providedtypes" = some (String.intercalate "," call.argumentTypes) := by
  obtain ⟨written, hwritten, rfl⟩ := Option.map_eq_some_iff.mp made
  obtain ⟨m, hm, hok⟩ := LinkMakers.query?_builtin_eq_some_iff.mp hwritten
  obtain ⟨page, values, hpage, hfacts, rfl⟩ := LinkMakers.query_eq_fill hm hok
  have hplain := Diagnostic.Kind.plain_of_page? hpage
  have hread := CatalogueLink.read?_link_of_separable (hplain.separable_fill values) embedded
  cases hpage
  cases hfacts with
  | undefinedMethod hcall hparent =>
    refine ⟨_, _, hcall, hread, ?_, ?_⟩
    · rfl
    · rfl

/-- **Lists of an unknown method's arguments.** A link for an unknown method is made
from a call above the anchor, every argument of which has a type. If the call has
arguments, then the first list is read back as their source texts in order exactly
if none of these holds a comma, and the second as the short names of their types
exactly if none of those does. Where no comma stands in either, the two lists that are
read have the same length. -/
theorem list?_undefinedMethod_iff (embedded : Bool) (site : Site) (link : CatalogueLink)
    (made : ({ embedded } : LinkWriter).link? .undefinedMethod site = some link) :
    ∃ id receiver name arguments binding types query,
      site.tree.parent? site.anchor = some id ∧
      site.tree.kind? id = some (.call receiver name arguments binding) ∧
      List.Forall₂ (fun argument type =>
        (site.tree.type? argument).map ResolvedType.shortName = some type) arguments types ∧
      link.read? = some query ∧
      (arguments ≠ [] →
        (query.list? "providedparams" = some (arguments.map site.tree.render) ↔
          ∀ argument ∈ arguments, ',' ∉ (site.tree.render argument).toList) ∧
        (query.list? "providedtypes" = some types ↔ ∀ type ∈ types, ',' ∉ type.toList) ∧
        ((∀ argument ∈ arguments, ',' ∉ (site.tree.render argument).toList) →
          (∀ type ∈ types, ',' ∉ type.toList) →
          (query.list? "providedparams").map List.length =
            (query.list? "providedtypes").map List.length)) := by
  obtain ⟨call, query, hcall, hread, hparams, htypes⟩ := get?_lists_of_undefinedMethod made
  obtain ⟨id, receiver, name, arguments, hparent, hkind, _, htexts, hresolved⟩ :=
    Site.call_eq_ok hcall
  refine ⟨id, receiver, name, arguments, call.binding, call.argumentTypes, query, hparent, hkind,
    hresolved, hread, ?_⟩
  intro hne
  have hlength : call.arguments.length = call.argumentTypes.length := by
    rw [htexts, List.length_map]
    exact hresolved.length_eq
  have hnonempty : call.argumentTypes ≠ [] := by
    intro hnil
    rw [hnil] at hresolved
    cases hresolved
    exact hne rfl
  have hlistParams : query.list? "providedparams" = some call.arguments ↔
      ∀ argument ∈ arguments, ',' ∉ (site.tree.render argument).toList := by
    rw [Query.list?, hparams, Option.map_some, Option.some.injEq,
      readList_joined_eq_iff (by simpa [htexts] using hne), htexts, List.forall_mem_map]
  have hlistTypes : query.list? "providedtypes" = some call.argumentTypes ↔
      ∀ type ∈ call.argumentTypes, ',' ∉ type.toList := by
    rw [Query.list?, htypes, Option.map_some, Option.some.injEq, readList_joined_eq_iff hnonempty]
  refine ⟨htexts ▸ hlistParams, hlistTypes, ?_⟩
  intro hfreeTexts hfreeTypes
  rw [hlistParams.mpr hfreeTexts, hlistTypes.mpr hfreeTypes, Option.map_some, Option.map_some,
    hlength]

/-- The name of the call in `f(g(a, b))`, whose argument is a call itself. -/
def nestedCallSite : Site where
  tree :=
    (Draft.toTree
      ⟨#[{ kind := .simpleName "f" }, { kind := .simpleName "g" }, { kind := .simpleName "a" },
        { kind := .simpleName "b" },
        { kind := .call none 1 [2, 3] none, resolved := some { element := "int" } },
        { kind := .call none 0 [4] none }]⟩
      5).toOption.get (by decide +kernel)
  anchor := 0

theorem list?_undefinedMethod_iff_nestedCall :
    ∃ link, ({ embedded := true } : LinkWriter).link? .undefinedMethod nestedCallSite = some link ∧
      ∃ id receiver name arguments binding query,
        nestedCallSite.tree.parent? nestedCallSite.anchor = some id ∧
        nestedCallSite.tree.kind? id = some (.call receiver name arguments binding) ∧
        link.read? = some query ∧
        (arguments ≠ [] →
          (query.list? "providedparams" = some (arguments.map nestedCallSite.tree.render) ↔
            ∀ argument ∈ arguments, ',' ∉ (nestedCallSite.tree.render argument).toList)) := by
  have hmade : (({ embedded := true } : LinkWriter).link? .undefinedMethod
      nestedCallSite).isSome := by
    rw [link?, Option.isSome_map]
    decide +kernel
  obtain ⟨link, hlink⟩ := Option.isSome_iff_exists.mp hmade
  obtain ⟨id, receiver, name, arguments, binding, types, query, hparent, hkind, _, hread, hlists⟩ :=
    list?_undefinedMethod_iff true nestedCallSite link hlink
  exact ⟨link, hlink, id, receiver, name, arguments, binding, query, hparent, hkind, hread,
    fun hne => (hlists hne).1⟩

/-- The comma between the arguments of the inner call makes two items of one
argument, and the list of types has one item. -/
theorem list?_nestedCall_splits :
    ∃ link query, ({ embedded := false } : LinkWriter).link? .undefinedMethod nestedCallSite =
        some link ∧ link.read? = some query ∧
      nestedCallSite.tree.parent? nestedCallSite.anchor = some 5 ∧
      nestedCallSite.tree.kind? 5 = some (.call none 0 [4] none) ∧
      [4].map nestedCallSite.tree.render = ["g(a, b)"] ∧
      query.list? "providedparams" = some ["g(a", " b)"] ∧
      query.list? "providedtypes" = some ["int"] := by
  have hmade : (({ embedded := false } : LinkWriter).link? .undefinedMethod
      nestedCallSite).isSome := by
    rw [link?, Option.isSome_map]
    decide +kernel
  obtain ⟨link, hlink⟩ := Option.isSome_iff_exists.mp hmade
  have hcall : nestedCallSite.call =
      .ok { name := "f", arguments := ["g(a, b)"], argumentTypes := ["int"], binding := none } := by
    decide +kernel
  obtain ⟨call, query, hfound, hread, hparams, htypes⟩ := get?_lists_of_undefinedMethod hlink
  obtain rfl := Except.ok.inj (hcall.symm.trans hfound)
  refine ⟨link, query, hlink, hread, by decide +kernel, by decide +kernel, by decide +kernel, ?_,
    ?_⟩
  · rw [Query.list?, hparams]
    decide +kernel
  · rw [Query.list?, htypes]
    decide +kernel

end LinkWriter

end Remedy
