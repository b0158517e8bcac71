import Remedy.Proofs.Advice.DemoTexts
import Remedy.Proofs.Advice.SharedNames

/-!
# The variable that a place belongs to

The search for a variable goes up from the anchor and ends at the first node that
declares something. A declarator is one answer to it and a whole declaration is
another, its first declarator, so the order in which they are met matters: from a
value the search meets the declarator of that value, from the type it meets the
declaration, past all the declarators.

`Tree.declaratorAround?_of_dominates` is what both have in common. As long as
nothing declares, the search from below is the search from above. Siblings have no
node of a subtree in common, and so the path from the anchor to the declaration
meets one declarator at most.
-/

namespace Remedy

/-- A node of this kind declares variables, its own or those of its declarators. -/
def NodeKind.declares : NodeKind → Bool
  | declarator .. | fieldDecl .. | localDecl .. => true
  | _ => false

namespace Tree

/-- A node of the tree that declares variables. -/
def declares (t : Tree) (id : NodeId) : Bool := (t.kind? id).any NodeKind.declares

/-- A field declaration or a declaration statement with the node of its type. Each of
its declarators, of which there is at least one, names a variable by an identifier. -/
structure Declaration (t : Tree) (id type : NodeId) (entries : List (NodeId × String)) :
    Prop where
  kind : t.kind? id = some (.fieldDecl type (entries.map Prod.fst)) ∨
    t.kind? id = some (.localDecl type (entries.map Prod.fst))
  named : ∀ v ∈ entries, ∃ name initial binding,
    t.kind? v.1 = some (.declarator name initial binding) ∧ t.kind? name = some (.simpleName v.2)
  nonempty : entries ≠ []

/-- On the path from `low` up to `id`, nothing declares but `id` and the given nodes. -/
def NoOtherDeclares (t : Tree) (id : NodeId) (declarators : List NodeId) (low : NodeId) : Prop :=
  ∀ y, t.Dominates id y → t.Dominates y low → t.declares y = true → y = id ∨ y ∈ declarators

variable {t : Tree}

/-! ## Nodes that declare nothing -/

theorem declaredAt?_eq_none_iff {id : NodeId} :
    t.declaredAt? id = none ↔ t.declares id = false := by
  cases h : t.kind? id with
  | none => simp [declaredAt?, declares, h]
  | some kind => cases kind <;> simp [declaredAt?, declares, NodeKind.declares, h]

/-- Where nothing below `top` declares, the search from below is the search from
`top`. -/
theorem declaratorAround?_of_dominates {top low : NodeId} (h : t.Dominates top low)
    (hfree : ∀ y, t.Dominates top y → t.Dominates y low → y ≠ top → t.declares y = false) :
    t.declaratorAround? low = t.declaratorAround? top := by
  induction h with
  | refl => rfl
  | @tail parent low htop hchild ih =>
    have hne : low ≠ top := by
      rintro rfl
      exact not_dominates_of_mem_children hchild htop
    have hlow : t.declares low = false :=
      hfree low (htop.trans (dominates_of_mem_children hchild)) (Dominates.refl low) hne
    rw [declaratorAround?_of_parent? (parent?_eq_some_iff.mpr hchild)
      (declaredAt?_eq_none_iff.mpr hlow)]
    exact ih fun y hy hparent => hfree y hy (hparent.trans (dominates_of_mem_children hchild))

theorem declaratorAround?_of_no_declares {id : NodeId}
    (h : ∀ y, t.Dominates y id → t.declares y = false) : t.declaratorAround? id = none := by
  have hnone : (t.lineage id).findSome? t.declaredAt? = none :=
    List.findSome?_eq_none_iff.mpr fun y hy =>
      declaredAt?_eq_none_iff.mpr (h y (mem_lineage_iff.mp hy))
  rw [declaratorAround?, hnone]

/-! ## Declarations -/

namespace Declaration

variable {id type low : NodeId} {entries : List (NodeId × String)}

theorem children_eq (d : t.Declaration id type entries) :
    t.children id = type :: entries.map Prod.fst := by
  rcases d.kind with hfield | hlocal
  · exact children_of_kind? hfield
  · exact children_of_kind? hlocal

theorem mem_children {v : NodeId × String} (d : t.Declaration id type entries)
    (hv : v ∈ entries) : v.1 ∈ t.children id := by
  rw [d.children_eq]
  exact List.mem_cons_of_mem _ (List.mem_map_of_mem hv)

theorem exists_declarator? {v : NodeId × String} (d : t.Declaration id type entries)
    (hv : v ∈ entries) : ∃ declared, t.declarator? v.1 = some declared ∧ declared.name = v.2 := by
  obtain ⟨name, initial, binding, hkind, hname⟩ := d.named v hv
  exact ⟨⟨v.2, binding⟩, by simp [declarator?, identifier?, hkind, hname], rfl⟩

/-- A declaration stands for its first variable. -/
theorem declaratorAround?_eq (d : t.Declaration id type entries) :
    ∃ v declared, entries.head? = some v ∧ t.declaratorAround? id = some declared ∧
      declared.name = v.2 := by
  obtain ⟨v, rest, rfl⟩ := List.exists_cons_of_ne_nil d.nonempty
  obtain ⟨declared, hdeclared, hname⟩ := d.exists_declarator? (List.mem_cons_self)
  have hfirst : t.declaredAt? id = some (some v.1) := by
    rcases d.kind with hkind | hkind <;> simp [declaredAt?, hkind]
  refine ⟨v, declared, rfl, ?_, hname⟩
  rw [declaratorAround?, lineage, List.findSome?_cons, hfirst]
  exact hdeclared

/-- At and below a declarator, the search ends at the declarator. The other ones
are its siblings, so none of them is on the path. -/
theorem declaratorAround?_of_declarator {v : NodeId × String}
    (d : t.Declaration id type entries)
    (hpath : t.NoOtherDeclares id (entries.map Prod.fst) low)
    (hv : v ∈ entries) (hlow : t.Dominates v.1 low) :
    ∃ declared, t.declaratorAround? low = some declared ∧ declared.name = v.2 := by
  have hchild := d.mem_children hv
  obtain ⟨declared, hdeclared, hname⟩ := d.exists_declarator? hv
  refine ⟨declared, ?_, hname⟩
  rw [declaratorAround?_of_dominates hlow, declaratorAround?_of_declarator? hdeclared]
  intro y hy hylow hne
  rw [← Bool.not_eq_true]
  intro hdeclares
  rcases hpath y ((dominates_of_mem_children hchild).trans hy) hylow hdeclares with rfl | hother
  · exact not_dominates_of_mem_children hchild hy
  · obtain ⟨w, hw, rfl⟩ := List.mem_map.mp hother
    exact hne (eq_of_mem_children_of_dominates (d.mem_children hw) hchild hylow hlow)

/-- At a declaration and in its type, the search ends at the declaration. -/
theorem declaratorAround?_of_type (d : t.Declaration id type entries)
    (hpath : t.NoOtherDeclares id (entries.map Prod.fst) low)
    (hlow : low = id ∨ t.Dominates type low) :
    ∃ v declared, entries.head? = some v ∧ t.declaratorAround? low = some declared ∧
      declared.name = v.2 := by
  have htype : type ∈ t.children id := by
    rw [d.children_eq]
    exact List.mem_cons_self
  -- The type is no declarator, as a node lists no child twice.
  have hnodup := t.children_nodup id
  rw [show childrenAt t.nodes id = _ from d.children_eq] at hnodup
  have hout : ∀ w ∈ entries, ¬ t.Dominates w.1 low := by
    intro w hw hdominates
    rcases hlow with rfl | hlow
    · exact not_dominates_of_mem_children (d.mem_children hw) hdominates
    · have heq := eq_of_mem_children_of_dominates (d.mem_children hw) htype hdominates hlow
      exact (List.nodup_cons.mp hnodup).1 (heq ▸ List.mem_map_of_mem hw)
  have hdominates : t.Dominates id low := by
    rcases hlow with rfl | hlow
    · exact Dominates.refl _
    · exact (dominates_of_mem_children htype).trans hlow
  rw [declaratorAround?_of_dominates hdominates]
  · exact d.declaratorAround?_eq
  · intro y hy hylow hne
    rw [← Bool.not_eq_true]
    intro hdeclares
    rcases hpath y hy hylow hdeclares with rfl | hother
    · exact hne rfl
    · obtain ⟨w, hw, rfl⟩ := List.mem_map.mp hother
      exact hout w hw hylow

end Declaration

end Tree

/-! ## Advice with the name of the variable -/

/-- The incorrect code of all four hints is the given declaration. -/
theorem VariableType.bad_unknownClassHints (u : UnknownClass) (declaration corrected : String) :
    ∀ h ∈ unknownClassHints u declaration corrected, h.bad = [declaration] := by
  simp [unknownClassHints]

namespace Site

/-- The variable that the anchor belongs to has the name, and all advice that asks
for it shows this name: the hints and the link for an unknown class, if the class
has been reported, and the links for array creations, the last two if the anchor's
parent creates an array. -/
structure AdviceNames (σ : Type) [RandomSource σ] (s : Site) (name : String) : Prop where
  found : ∃ declared, s.declarator = .ok declared ∧ declared.name = name
  hints : ∀ reported, s.arguments.head? = some reported → ∀ source : σ, ∃ hints final value,
    (Explainers.builtin : Explainers σ).explain .undefinedType s source = (.ok hints, final) ∧
      hints ≠ [] ∧
      ∀ h ∈ hints, h.bad = [Demo.declarationText (shortTypeName reported) name value]
  unknownClass : s.arguments ≠ [] → s.LinksName .undefinedType name
  missingSize : s.LinksName .missingArrayDimension name
  missingOuterSize : ∀ type, ArrayCreation.createdType s = .ok type →
    s.LinksName .illegalArrayDimension name
  sizeAndElements : ∀ type, ArrayCreation.createdType s = .ok type →
    s.LinksName .arrayDimensionWithInitializer name

/-- The anchor belongs to no variable, and there is no advice that asks for one. -/
structure NamesNothing (σ : Type) [RandomSource σ] (s : Site) : Prop where
  notFound : s.declarator = .error (.absent "variable declaration")
  hints : ∀ source : σ,
    (Explainers.builtin : Explainers σ).hints .undefinedType s source = ([], source)
  links : ∀ kind ∈ [.undefinedType, .missingArrayDimension, .illegalArrayDimension,
    .arrayDimensionWithInitializer], LinkMakers.builtin.query? kind s = none

variable {σ : Type} [RandomSource σ] {s : Site}

theorem unknownClassFacts_of_declarator {declared : Declarator} {reported : String}
    (h : s.declarator = .ok declared) (hreported : s.arguments.head? = some reported) :
    VariableType.unknownClassFacts s = .ok ⟨shortTypeName reported, declared.name⟩ := by
  rw [List.head?_eq_getElem?] at hreported
  exact bind_eq_ok_iff.mpr ⟨reported, require_eq_ok_iff.mpr hreported,
    bind_eq_ok_iff.mpr ⟨declared, h, rfl⟩⟩

theorem adviceNames_of_declarator {declared : Declarator} (h : s.declarator = .ok declared) :
    s.AdviceNames σ declared.name where
  found := ⟨declared, h, rfl⟩
  hints reported hreported source := by
    have hfacts := unknownClassFacts_of_declarator h hreported
    -- The value in the declaration is the first one that is drawn.
    refine ⟨_, _, (Demo.value (shortTypeName reported) source).1,
      Explainers.explain_builtin_of_facts rfl hfacts source, List.cons_ne_nil _ _, ?_⟩
    exact VariableType.bad_unknownClassHints _ _ _
  unknownClass harguments := by
    obtain ⟨reported, rest, heq⟩ := List.exists_cons_of_ne_nil harguments
    have hreported : s.arguments.head? = some reported := by rw [heq, List.head?_cons]
    exact linksName_unknownClass (unknownClassFacts_of_declarator h hreported)
  missingSize := linksName_missingSize_of_declarator h
  missingOuterSize _ htype := linksName_missingOuterSize_of_declarator htype h
  sizeAndElements _ htype := linksName_sizeAndElements_of_declarator htype h

theorem exists_declarator_of_unknownClassFacts {u : VariableType.UnknownClass}
    (h : VariableType.unknownClassFacts s = .ok u) : ∃ declared, s.declarator = .ok declared := by
  obtain ⟨_, _, h⟩ := bind_eq_ok_iff.mp h
  obtain ⟨declared, hdeclared, _⟩ := bind_eq_ok_iff.mp h
  exact ⟨declared, hdeclared⟩

/-- Each of the four links needs the variable. -/
theorem exists_declarator_of_query? {kind : Diagnostic.Kind} {query : Query}
    (hkind : kind ∈ [Diagnostic.Kind.undefinedType, .missingArrayDimension,
      .illegalArrayDimension, .arrayDimensionWithInitializer])
    (h : LinkMakers.builtin.query? kind s = some query) :
    ∃ declared, s.declarator = .ok declared := by
  obtain ⟨m, hm, hquery⟩ := LinkMakers.query?_builtin_eq_some_iff.mp h
  simp only [List.mem_cons, List.not_mem_nil, or_false] at hkind
  rcases hkind with rfl | rfl | rfl | rfl <;> cases hm
  · obtain ⟨u, hu, _⟩ := bind_eq_ok_iff.mp hquery
    exact exists_declarator_of_unknownClassFacts hu
  · obtain ⟨declared, hdeclared, _⟩ := bind_eq_ok_iff.mp hquery
    exact ⟨declared, hdeclared⟩
  all_goals
    obtain ⟨_, _, hrest⟩ := bind_eq_ok_iff.mp hquery
    obtain ⟨declared, hdeclared, _⟩ := bind_eq_ok_iff.mp hrest
    exact ⟨declared, hdeclared⟩

theorem namesNothing_of_declaratorAround? (h : s.tree.declaratorAround? s.anchor = none) :
    s.NamesNothing σ := by
  have hnone : s.declarator = .error (.absent "variable declaration") := require_of_none h _
  refine ⟨hnone, fun source => ?_, fun kind hkind => ?_⟩
  · have hserved : Explainers.builtinFor? (σ := σ) .undefinedType =
        some VariableType.unknownClass := rfl
    rw [Explainers.hints_builtin_of_facts hserved]
    split
    next u hu =>
      obtain ⟨declared, hdeclared⟩ := exists_declarator_of_unknownClassFacts hu
      cases hnone.symm.trans hdeclared
    next => rfl
  · refine Option.eq_none_iff_forall_ne_some.mpr fun query hquery => ?_
    obtain ⟨declared, hdeclared⟩ := exists_declarator_of_query? hkind hquery
    cases hnone.symm.trans hdeclared

/-- **The variable that is named.** Let nothing on the path from the anchor up to a
declaration declare a variable, apart from the declaration itself and its own
declarators. At and below one of these, the advice names the variable of that
declarator. At the declaration and in its type, it names the first variable. Where
nothing at or above the anchor declares, no variable is named. -/
theorem adviceNames_of_declaration (σ : Type) [RandomSource σ] (site : Site) :
    (∀ id type entries, site.tree.Declaration id type entries →
      site.tree.NoOtherDeclares id (entries.map Prod.fst) site.anchor →
      (∀ v ∈ entries, site.tree.Dominates v.1 site.anchor → site.AdviceNames σ v.2) ∧
      (site.anchor = id ∨ site.tree.Dominates type site.anchor →
        ∃ v, entries.head? = some v ∧ site.AdviceNames σ v.2)) ∧
    ((∀ y, site.tree.Dominates y site.anchor → site.tree.declares y = false) →
      site.NamesNothing σ) := by
  refine ⟨fun id type entries d hpath => ⟨fun v hv hlow => ?_, fun hlow => ?_⟩, fun h => ?_⟩
  · obtain ⟨declared, hfound, hname⟩ := d.declaratorAround?_of_declarator hpath hv hlow
    exact hname ▸ adviceNames_of_declarator (require_eq_ok_iff.mpr hfound)
  · obtain ⟨v, declared, hhead, hfound, hname⟩ := d.declaratorAround?_of_type hpath hlow
    exact ⟨v, hhead, hname ▸ adviceNames_of_declarator (require_eq_ok_iff.mpr hfound)⟩
  · exact namesNothing_of_declaratorAround? (Tree.declaratorAround?_of_no_declares h)

/-- The block `{ int[] a = {1}, b = new int[2]; }`. -/
def twoArrays : Tree :=
  (Draft.toTree
    ⟨#[{ kind := .primitiveType "int" }, { kind := .arrayType 0 1 }, { kind := .simpleName "a" },
      { kind := .numberLit "1" }, { kind := .arrayLit [3] }, { kind := .declarator 2 (some 4) none },
      { kind := .simpleName "b" }, { kind := .primitiveType "int" }, { kind := .arrayType 7 1 },
      { kind := .numberLit "2" }, { kind := .newArray 8 [9] none },
      { kind := .declarator 6 (some 10) none }, { kind := .localDecl 1 [5, 11] },
      { kind := .block [12] }]⟩
    13).toOption.get (by decide +kernel)

theorem declaration_twoArrays : twoArrays.Declaration 12 1 [(5, "a"), (11, "b")] where
  kind := .inr (by decide +kernel)
  named v hv := by
    simp only [List.mem_cons, List.not_mem_nil, or_false] at hv
    rcases hv with rfl | rfl
    · exact ⟨2, some 4, none, by decide +kernel, by decide +kernel⟩
    · exact ⟨6, some 10, none, by decide +kernel, by decide +kernel⟩
  nonempty := List.cons_ne_nil _ _

/-- The size of the second array belongs to `b`, the type belongs to `a`, and the
block to no variable. -/
theorem adviceNames_of_declaration_twoArrays :
    Site.AdviceNames ListedWords ⟨twoArrays, 9, ["int"]⟩ "b" ∧
      Site.AdviceNames ListedWords ⟨twoArrays, 0, ["int"]⟩ "a" ∧
      Site.NamesNothing ListedWords ⟨twoArrays, 13, ["int"]⟩ := by
  have hdominates : ∀ top low, top ∈ twoArrays.lineage low → twoArrays.Dominates top low :=
    fun _ _ => Tree.mem_lineage_iff.mp
  have hpath : ∀ low, (∀ y ∈ twoArrays.lineage low, twoArrays.declares y = true →
      y = 12 ∨ y ∈ [5, 11]) → twoArrays.NoOtherDeclares 12 [5, 11] low :=
    fun low h y _ hlow => h y (Tree.mem_lineage_iff.mpr hlow)
  have hsize := ((adviceNames_of_declaration ListedWords ⟨twoArrays, 9, ["int"]⟩).1 12 1 _
    declaration_twoArrays (hpath 9 (by decide +kernel))).1
  have htype := ((adviceNames_of_declaration ListedWords ⟨twoArrays, 0, ["int"]⟩).1 12 1 _
    declaration_twoArrays (hpath 0 (by decide +kernel))).2
  have hblock := (adviceNames_of_declaration ListedWords ⟨twoArrays, 13, ["int"]⟩).2
  obtain ⟨v, hv, hfirst⟩ := htype (.inr (hdominates 1 0 (by decide +kernel)))
  cases hv
  refine ⟨hsize (11, "b") (by simp) (hdominates 11 9 (by decide +kernel)), hfirst, ?_⟩
  have hnothing : ∀ y ∈ twoArrays.lineage 13, twoArrays.declares y = false := by decide +kernel
  exact hblock fun y hy => hnothing y (Tree.mem_lineage_iff.mpr hy)

end Site

end Remedy
