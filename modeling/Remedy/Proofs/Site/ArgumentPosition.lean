import Remedy.Proofs.Link.CataloguePages
import Remedy.Proofs.Syntax.RenderNesting
import Remedy.Proofs.Tree.Ancestry

/-!
# The position of an unknown argument

An unknown name that is an argument of a call is expected to have the type of a
parameter. Which parameter is settled by source text: the first argument that is
written as the name gives the position (`Tree.FirstWritten`), whether or not it is
the argument that was reported.

The way up from the name passes the parentheses around it, and the text of the
argument keeps them. So the argument's own parameter is found exactly where the
name stands bare and is the first of its spelling.
-/

namespace Remedy

namespace Tree

/-- The node `outer` is `inner` in any number of parentheses. -/
inductive Wraps (t : Tree) : (outer inner : NodeId) → Prop
  | bare (id : NodeId) : Wraps t id id
  | parens {id expression inner : NodeId} (kind : t.kind? id = some (.parenthesized expression))
      (inside : Wraps t expression inner) : Wraps t id inner

/-- Of the given arguments, the one at `position` is the first that is written as
`text`. -/
structure FirstWritten (t : Tree) (arguments : List NodeId) (text : String) (position : Nat) :
    Prop where
  written : ∃ argument, arguments[position]? = some argument ∧ t.render argument = text
  first : ∀ earlier < position, ∀ argument, arguments[earlier]? = some argument →
    t.render argument ≠ text

variable {t : Tree}

/-! ## Up to the call -/

theorem parent?_of_parenthesized {id expression : NodeId}
    (h : t.kind? id = some (.parenthesized expression)) : t.parent? expression = some id := by
  rw [parent?_eq_some_iff, children_of_kind? h]
  exact List.mem_singleton_self expression

theorem parent?_of_argument {id argument name : NodeId} {receiver : Option NodeId}
    {arguments : List NodeId} {binding : Option ResolvedMethod}
    (h : t.kind? id = some (.call receiver name arguments binding))
    (hmem : argument ∈ arguments) : t.parent? argument = some id := by
  rw [parent?_eq_some_iff, children_of_kind? h]
  exact List.mem_append_right _ (List.mem_cons_of_mem _ hmem)

/-- A parent that implies a type decides. -/
theorem expectedType_of_parent?_some {id p : NodeId} {missing type : String}
    (hparent : t.parent? id = some p) (himplied : t.typeImpliedBy? missing p = some type) :
    t.expectedType id missing = type := by
  rw [expectedType, ancestors_of_parent? hparent, List.findSome?_cons, himplied,
    Option.getD_some]

/-- A parent that implies no type is walked past. -/
theorem expectedType_of_parent?_none {id p : NodeId} {missing : String}
    (hparent : t.parent? id = some p) (himplied : t.typeImpliedBy? missing p = none) :
    t.expectedType id missing = t.expectedType p missing := by
  rw [expectedType, ancestors_of_parent? hparent, List.findSome?_cons, himplied]
  rfl

/-- Parentheses do not change what is expected. -/
theorem Wraps.expectedType_eq {outer inner : NodeId} (h : t.Wraps outer inner) (missing : String) :
    t.expectedType inner missing = t.expectedType outer missing := by
  induction h with
  | bare => rfl
  | parens hkind _ ih =>
    rw [ih]
    exact expectedType_of_parent?_none (parent?_of_parenthesized hkind)
      (by rw [typeImpliedBy?, hkind])

/-- What is expected of an argument is settled by its call. -/
theorem expectedType_of_argument {id argument name inner : NodeId} {receiver : Option NodeId}
    {arguments : List NodeId} {binding : Option ResolvedMethod}
    (hkind : t.kind? id = some (.call receiver name arguments binding))
    (hmem : argument ∈ arguments) (hwraps : t.Wraps argument inner) (missing : String) :
    t.expectedType inner missing =
      (t.parameterFor? id missing).elim fallbackType ResolvedType.name := by
  rw [hwraps.expectedType_eq]
  exact expectedType_of_parent?_some (parent?_of_argument hkind hmem)
    (by rw [typeImpliedBy?, hkind])

/-! ## Down to the position -/

theorem findIdx?_eq_some_iff_firstWritten {arguments : List NodeId} {text : String}
    {position : Nat} :
    (arguments.findIdx? fun argument => t.render argument == text) = some position ↔
      t.FirstWritten arguments text position := by
  rw [List.findIdx?_eq_some_iff_getElem]
  constructor
  · rintro ⟨hlt, hwritten, hfirst⟩
    refine ⟨⟨_, List.getElem?_eq_getElem hlt, beq_iff_eq.mp hwritten⟩, ?_⟩
    intro earlier hearlier argument hargument
    obtain ⟨_, rfl⟩ := List.getElem?_eq_some_iff.mp hargument
    simpa using hfirst earlier hearlier
  · rintro ⟨⟨argument, hargument, hwritten⟩, hfirst⟩
    obtain ⟨hlt, rfl⟩ := List.getElem?_eq_some_iff.mp hargument
    refine ⟨hlt, beq_iff_eq.mpr hwritten, ?_⟩
    intro earlier hearlier
    have hother := hfirst earlier hearlier _ (List.getElem?_eq_getElem (Nat.lt_trans hearlier hlt))
    simpa using hother

section Call

variable {id name : NodeId} {receiver : Option NodeId} {arguments : List NodeId}
  {binding : ResolvedMethod} {text : String}

/-- A parameter is found in two steps: the method is named by an identifier, and some
argument is written as the text. -/
theorem parameterFor?_of_call
    (hkind : t.kind? id = some (.call receiver name arguments (some binding))) :
    t.parameterFor? id text =
      (t.identifier? name).bind fun _ =>
        (arguments.findIdx? fun argument => t.render argument == text).bind fun position =>
          binding.parameters[position]? := by
  simp only [parameterFor?, call?, hkind]
  cases t.identifier? name with
  | none => rfl
  | some callee => rfl

/-- The parameter is that at the first position written as the text. -/
theorem parameterFor?_of_firstWritten {position : Nat}
    (hkind : t.kind? id = some (.call receiver name arguments (some binding)))
    (hname : (t.identifier? name).isSome) (hfirst : t.FirstWritten arguments text position) :
    t.parameterFor? id text = binding.parameters[position]? := by
  obtain ⟨callee, hcallee⟩ := Option.isSome_iff_exists.mp hname
  rw [parameterFor?_of_call hkind, hcallee, Option.bind_some,
    findIdx?_eq_some_iff_firstWritten.mpr hfirst, Option.bind_some]

theorem parameterFor?_of_not_written
    (hkind : t.kind? id = some (.call receiver name arguments (some binding)))
    (hnone : ∀ argument ∈ arguments, t.render argument ≠ text) :
    t.parameterFor? id text = none := by
  have hposition : (arguments.findIdx? fun argument => t.render argument == text) = none := by
    rw [List.findIdx?_eq_none_iff]
    exact fun argument hmem => beq_false_of_ne (hnone argument hmem)
  rw [parameterFor?_of_call hkind, hposition, Option.bind_none, Option.bind_fun_none]

/-- A call whose method is not named by an identifier gives no parameter. -/
theorem parameterFor?_of_no_identifier
    (hkind : t.kind? id = some (.call receiver name arguments (some binding)))
    (hname : t.identifier? name = none) : t.parameterFor? id text = none := by
  rw [parameterFor?_of_call hkind, hname, Option.bind_none]

end Call

/-! ## Parentheses in the text -/

theorem length_render_parenthesized {id expression : NodeId}
    (h : t.kind? id = some (.parenthesized expression)) :
    (t.render id).length = (t.render expression).length + 2 := by
  have hlengths : "(".length = 1 ∧ ")".length = 1 := by decide
  rw [render_of_kind? h]
  simp only [NodeKind.layout, List.map_cons, List.map_nil, renderPiece, String.join_cons,
    String.join_nil, String.length_append, String.length_empty]
  omega

/-- Parentheses make the text longer. -/
theorem Wraps.length_render_le {outer inner : NodeId} (h : t.Wraps outer inner) :
    (t.render inner).length ≤ (t.render outer).length := by
  induction h with
  | bare => exact Nat.le_refl _
  | parens hkind _ ih =>
    rw [length_render_parenthesized hkind]
    omega

/-- An expression in parentheses is not written as the expression itself. -/
theorem Wraps.render_ne {outer inner : NodeId} (h : t.Wraps outer inner) (hne : outer ≠ inner) :
    t.render outer ≠ t.render inner := by
  cases h with
  | bare => exact absurd rfl hne
  | parens hkind inside =>
    intro heq
    have hle := inside.length_render_le
    rw [← heq, length_render_parenthesized hkind] at hle
    omega

end Tree

/-! ## The link -/

/-- A link shows one list of values. -/
theorem CatalogueLink.Shows.values_eq {link : CatalogueLink} {page : CataloguePage}
    {values values' : List String} {embedded : Bool} (h : link.Shows page values embedded)
    (h' : link.Shows page values' embedded) : values = values' := by
  obtain ⟨query, hread, _, _, hvalues⟩ := h
  obtain ⟨query', hread', _, _, hvalues'⟩ := h'
  obtain rfl := Option.some.inj (hread.symm.trans hread')
  exact List.append_cancel_right (hvalues.symm.trans hvalues')

namespace Naming

/-- The page on a name that does not exist. -/
def unknownVariablePage : CataloguePage := ⟨"variablenotfound", ["classname", "varname"]⟩

/-- The link for an unknown name is always made if the name is reported. It shows the
type that the code around the anchor implies. -/
theorem shows_link?_unknownVariable {site : Site} {identifier : String}
    (hreported : site.arguments[0]? = some identifier) (embedded : Bool) :
    ∃ link, ({ embedded } : LinkWriter).link? .undefinedVariable site = some link ∧
      link.Shows unknownVariablePage
        [shortTypeName (site.tree.expectedType site.anchor identifier), identifier] embedded := by
  have hquery : unknownVariableLink.query site = .ok (unknownVariablePage.fill
      [shortTypeName (site.tree.expectedType site.anchor identifier), identifier]) := by
    simp only [unknownVariableLink, Site.argument, hreported]
    rfl
  exact LinkWriter.shows_link?_of_fill rfl rfl hquery rfl embedded

end Naming

namespace LinkWriter

/-- **The type of an unknown argument.** Let an unknown name, in any number of
parentheses, be the argument at position `i` of a call with a resolved method. A link
is made and shows the name and a type.

* The type is that of the argument's own parameter if the name stands there without
  parentheses and no earlier argument is written the same.
* In general it is that of the parameter at the first position where an argument is
  written as the name, and `Object` if there is no parameter there.
* It is `Object` if the name stands in parentheses and no other argument is written as
  the name.
* It is `Object` if the method is not named by an identifier. -/
theorem link?_unknownArgument (embedded : Bool) {site : Site} {id name argument : NodeId}
    {receiver : Option NodeId} {arguments : List NodeId} {binding : ResolvedMethod}
    {parameter : ResolvedType} {identifier : String} {i : Nat}
    (hkind : site.tree.kind? id = some (.call receiver name arguments (some binding)))
    (hargument : arguments[i]? = some argument)
    (hparameter : binding.parameters[i]? = some parameter)
    (hwraps : site.tree.Wraps argument site.anchor)
    (hanchor : site.tree.kind? site.anchor = some (.simpleName identifier))
    (hreported : site.arguments[0]? = some identifier) :
    ∃ link type, ({ embedded } : LinkWriter).link? .undefinedVariable site = some link ∧
      link.Shows Naming.unknownVariablePage [shortTypeName type, identifier] embedded ∧
      ((site.tree.identifier? name).isSome → argument = site.anchor →
        (∀ j < i, ∀ earlier, arguments[j]? = some earlier →
          site.tree.render earlier ≠ identifier) → type = parameter.name) ∧
      ((site.tree.identifier? name).isSome →
        ∀ j, site.tree.FirstWritten arguments identifier j →
          type = binding.parameters[j]?.elim fallbackType ResolvedType.name) ∧
      (argument ≠ site.anchor →
        (∀ other ∈ arguments, other ≠ argument → site.tree.render other ≠ identifier) →
        type = fallbackType) ∧
      (site.tree.identifier? name = none → type = fallbackType) := by
  obtain ⟨link, hlink, hshows⟩ := Naming.shows_link?_unknownVariable hreported embedded
  have hrender : site.tree.render site.anchor = identifier :=
    Tree.render_of_leafText? hanchor rfl
  have hmem : argument ∈ arguments := List.mem_of_getElem? hargument
  have hexpected := Tree.expectedType_of_argument hkind hmem hwraps identifier
  have hfirst : (site.tree.identifier? name).isSome →
      ∀ j, site.tree.FirstWritten arguments identifier j →
        site.tree.expectedType site.anchor identifier =
          binding.parameters[j]?.elim fallbackType ResolvedType.name := by
    intro hname j hj
    rw [hexpected, Tree.parameterFor?_of_firstWritten hkind hname hj]
  refine ⟨link, _, hlink, hshows, ?_, hfirst, ?_, ?_⟩
  · intro hname hbare hearlier
    have hown : site.tree.FirstWritten arguments identifier i :=
      ⟨⟨argument, hargument, hbare ▸ hrender⟩, hearlier⟩
    rw [hfirst hname i hown, hparameter, Option.elim_some]
  · intro hwrapped hothers
    have hnone : ∀ other ∈ arguments, site.tree.render other ≠ identifier := by
      intro other hother
      by_cases heq : other = argument
      · rw [heq, ← hrender]
        exact hwraps.render_ne hwrapped
      · exact hothers other hother heq
    rw [hexpected, Tree.parameterFor?_of_not_written hkind hnone, Option.elim_none]
  · intro hname
    rw [hexpected, Tree.parameterFor?_of_no_identifier hkind hname, Option.elim_none]

/-- A method that takes a number and a text. -/
def labelMethod : ResolvedMethod where
  returnType := { element := "void" }
  parameters := [{ element := "int" }, { element := "java.lang.String" }]

/-- One of the names in `label(a, a)`. -/
def repeatedSite (anchor : NodeId) : Site where
  tree :=
    (Draft.toTree
      ⟨#[{ kind := .simpleName "label" }, { kind := .simpleName "a" }, { kind := .simpleName "a" },
        { kind := .call none 0 [1, 2] (some labelMethod) }]⟩
      3).toOption.get (by decide +kernel)
  anchor := anchor
  arguments := ["a"]

theorem link?_unknownArgument_repeated :
    (repeatedSite 1).tree.kind? 3 = some (.call none 0 [1, 2] (some labelMethod)) ∧
      labelMethod.parameters[0]? = some { element := "int" } ∧
      (repeatedSite 1).tree.Wraps 1 (repeatedSite 1).anchor ∧
      (repeatedSite 1).tree.kind? (repeatedSite 1).anchor = some (.simpleName "a") ∧
      ∃ link, ({ embedded := true } : LinkWriter).link? .undefinedVariable (repeatedSite 1) =
          some link ∧
        link.Shows Naming.unknownVariablePage ["int", "a"] true := by
  have hkind : (repeatedSite 1).tree.kind? 3 = some (.call none 0 [1, 2] (some labelMethod)) := by
    decide +kernel
  have hargument : ([1, 2] : List NodeId)[0]? = some 1 := rfl
  have hparameter : labelMethod.parameters[0]? = some { element := "int" } := rfl
  have hwraps : (repeatedSite 1).tree.Wraps 1 (repeatedSite 1).anchor := .bare 1
  have hanchor : (repeatedSite 1).tree.kind? (repeatedSite 1).anchor = some (.simpleName "a") := by
    decide +kernel
  have hname : ((repeatedSite 1).tree.identifier? 0).isSome := by decide +kernel
  obtain ⟨link, type, hlink, hshows, hown, _⟩ :=
    link?_unknownArgument true hkind hargument hparameter hwraps hanchor rfl
  have hshort : shortTypeName type = "int" := by
    rw [hown hname rfl fun _ hearlier => absurd hearlier (Nat.not_lt_zero _)]
    decide +kernel
  rw [hshort] at hshows
  exact ⟨hkind, hparameter, hwraps, hanchor, link, hlink, hshows⟩

/-- The second name takes the type of the first parameter, since the first argument
has the same spelling. -/
theorem link?_repeated_shows_first :
    (repeatedSite 2).tree.kind? 3 = some (.call none 0 [1, 2] (some labelMethod)) ∧
      (repeatedSite 2).tree.kind? 2 = some (.simpleName "a") ∧
      labelMethod.parameters[1]?.map ResolvedType.shortName = some "String" ∧
      ∃ link, ({ embedded := true } : LinkWriter).link? .undefinedVariable (repeatedSite 2) =
          some link ∧
        link.Shows Naming.unknownVariablePage ["int", "a"] true ∧
        ¬ link.Shows Naming.unknownVariablePage ["String", "a"] true := by
  have hreported : (repeatedSite 2).arguments[0]? = some "a" := rfl
  obtain ⟨link, hlink, hshows⟩ := Naming.shows_link?_unknownVariable hreported true
  have hexpected : shortTypeName ((repeatedSite 2).tree.expectedType (repeatedSite 2).anchor "a") =
      "int" := by
    decide +kernel
  rw [hexpected] at hshows
  refine ⟨by decide +kernel, by decide +kernel, by decide +kernel, link, hlink, hshows, ?_⟩
  intro hown
  exact absurd (hshows.values_eq hown) (by decide)

end LinkWriter

end Remedy
