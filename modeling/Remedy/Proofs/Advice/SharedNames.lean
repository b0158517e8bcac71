import Remedy.Proofs.Registry.Builtin
import Remedy.Proofs.Site.Lookup
import Remedy.Syntax.Draft

/-!
# The name that hints and links share

Hints and the link of one kind are made from separate look-ups. For the arrays
these differ: the hints check every node on the way up to the declarator, and
the link searches upwards for any declaring node. The two meet in one variable,
since none of the nodes that the hints have checked declares anything. Only the
anchor is left unchecked, and where it declares a variable itself, the link may
be about that one.

`Site.subject?` is the name that the hints of a kind are written about. Whenever
there are hints, their incorrect code shows that name, and the link of the kind
exists and passes it on.
-/

namespace Remedy

/-! ## Quoted names -/

/-- The code has the name in it. -/
def Quotes (name code : String) : Prop := ∃ before after, code = before ++ name ++ after

namespace Quotes

variable {name code : String}

@[simp]
theorem self (name : String) : Quotes name name := ⟨"", "", by simp⟩

@[simp]
theorem append (h : Quotes name code) (more : String) : Quotes name (code ++ more) := by
  obtain ⟨before, after, rfl⟩ := h
  exact ⟨before, after ++ more, by simp only [String.append_assoc]⟩

@[simp]
theorem behind (h : Quotes name code) (front : String) : Quotes name (front ++ code) := by
  obtain ⟨before, after, rfl⟩ := h
  exact ⟨front ++ before, after, by simp only [String.append_assoc]⟩

end Quotes

namespace Snippet

variable {name : String}

@[simp]
theorem quotes_application (name : String) (items : List String) :
    Quotes name (application name items) :=
  (((Quotes.self name).append "(").append _).append ")"

@[simp]
theorem quotes_methodHeader (name returnType : String) (parameterTypes : List String) :
    Quotes name (methodHeader name returnType parameterTypes) :=
  (quotes_application name _).behind (returnType ++ " ")

@[simp]
theorem quotes_braced_of_header {header : String} (h : Quotes name header) (body : String) :
    Quotes name (braced header body) :=
  ((h.append " \x7b\n").append body).append "\n\x7d"

@[simp]
theorem quotes_braced_of_body {body : String} (h : Quotes name body) (header : String) :
    Quotes name (braced header body) :=
  (h.behind (header ++ " \x7b\n")).append "\n\x7d"

end Snippet

/-- A declaration shows its variable. -/
theorem Demo.quotes_declareAs {σ : Type} [RandomSource σ] (declared name valueType : String) :
    (Demo.declareAs (σ := σ) declared name valueType).Ensures (Quotes name) := by
  refine .bind _ fun value => .pure ?_
  have hvariable : Quotes name (declared ++ " " ++ name) := (Quotes.self name).behind _
  exact ((hvariable.append " = ").append value).append ";"

/-! ## Incorrect code -/

/-- There are hints with incorrect code, and all of that code shows the name. -/
def QuotedInBad (name : String) (hints : List Hint) : Prop :=
  hints ≠ [] ∧ ∀ h ∈ hints, h.bad ≠ [] ∧ ∀ code ∈ h.bad, Quotes name code

theorem QuotedInBad.append {name : String} {hints more : List Hint} (h : QuotedInBad name hints)
    (hmore : QuotedInBad name more) : QuotedInBad name (hints ++ more) := by
  refine ⟨List.append_ne_nil_of_left_ne_nil h.1 more, fun hint hmem => ?_⟩
  rcases List.mem_append.mp hmem with hfirst | hsecond
  · exact h.2 hint hfirst
  · exact hmore.2 hint hsecond

namespace ArrayCreation

@[simp]
theorem quotes_declaration (array : ArrayVariable) (pairs rest : String) :
    Quotes array.name (declaration array pairs rest) := by
  have hvariable : Quotes array.name (array.elementType ++ pairs ++ " " ++ array.name) :=
    (Quotes.self array.name).behind _
  exact (((hvariable.append " = new ").append array.elementType).append rest).append ";"

theorem quotedInBad_missingSizeHints (array : ArrayVariable) :
    QuotedInBad array.name (missingSizeHints array) := by
  simp [QuotedInBad, missingSizeHints]

theorem quotedInBad_missingOuterSizeHints (array : ArrayVariable) :
    QuotedInBad array.name (missingOuterSizeHints array) := by
  simp [QuotedInBad, missingOuterSizeHints]

theorem quotedInBad_sizeAndElementsHints (array : ArrayVariable) (elements : String) :
    QuotedInBad array.name (sizeAndElementsHints array elements) := by
  simp [QuotedInBad, sizeAndElementsHints]

end ArrayCreation

namespace MethodCall

@[simp]
theorem quotes_text (call : CallFacts) : Quotes call.name call.text := by
  simp [CallFacts.text]

theorem quotedInBad_unknownMethodHints (call : CallFacts) (stringDecl objectDecl : String) :
    QuotedInBad call.name (unknownMethodHints call stringDecl objectDecl) := by
  have honObject : Quotes call.name (objectDecl ++ "\nmyObject." ++ call.text ++ ";") :=
    ((quotes_text call).behind _).append _
  simp [QuotedInBad, unknownMethodHints, honObject]

theorem quotedInBad_mendEither (b : BoundCall) (onCall onMethod mendedCall : String) :
    QuotedInBad b.call.name (mendEither b onCall onMethod mendedCall) := by
  have hheader : Quotes b.call.name (b.header b.requiredTypes) :=
    Snippet.quotes_methodHeader _ _ _
  have hprogram : ∀ call, Quotes b.call.name (program (b.header b.requiredTypes) call) :=
    fun call => ((Snippet.quotes_braced_of_header hheader _).append _ |>.append _).append _
  simp [QuotedInBad, mendEither, hprogram]

end MethodCall

theorem MethodResult.quotedInBad_missingResultHints (method : MethodFacts) (e : Examples) :
    QuotedInBad method.name (missingResultHints method e) := by
  simp [QuotedInBad, missingResultHints]

namespace VariableType

variable {σ : Type} [RandomSource σ]

theorem quotedInBad_mismatchHints (m : Mismatch) :
    (mismatchHints (σ := σ) m).Ensures (QuotedInBad m.variableName) := by
  have hdeclare := Demo.quotes_declareAs (σ := σ)
  refine .bind_of (hdeclare _ _ _) fun retypeBad hretype => .bind _ fun retypeGood => ?_
  refine .bind_of (hdeclare _ _ _) fun revalueBad hrevalue => .bind _ fun revalueGood => ?_
  refine .bind _ fun returned => ?_
  have hreturning : Quotes m.variableName (returningMethod m m.required returned) :=
    Snippet.quotes_braced_of_body (((Quotes.self _).behind _).append _) _
  split
  next hmixed =>
    refine .bind_of (hdeclare _ _ _) fun badDecl hbad => .bind _ fun goodDecl => .pure ?_
    simp [QuotedInBad, retypeHint, revalueHint, returnTypeHint, arithmeticHint, hretype, hrevalue,
      hreturning, hbad]
  next => 
    refine .pure ?_
    simp [QuotedInBad, retypeHint, revalueHint, returnTypeHint, hretype, hrevalue, hreturning]

theorem quotedInBad_unknownClassHints (u : UnknownClass) {declaration : String}
    (h : Quotes u.variableName declaration) (corrected : String) :
    QuotedInBad u.variableName (unknownClassHints u declaration corrected) := by
  simp [QuotedInBad, unknownClassHints, h]

end VariableType

/-! ## Subjects -/

/-- The name that the hints of a kind are written about. -/
def Site.subject? (s : Site) : Diagnostic.Kind → Option String
  | .missingArrayDimension => s.unsizedArray.toOption.map ArrayVariable.name
  | .illegalArrayDimension => s.createdArray.toOption.map ArrayVariable.name
  | .arrayDimensionWithInitializer => s.createdArray.toOption.map ArrayVariable.name
  | .undefinedMethod => s.call.toOption.map CallFacts.name
  | .parameterMismatch => (MethodCall.boundCall s).toOption.map fun b => b.call.name
  | .missingReturn => (MethodResult.methodWithResult s).toOption.map MethodFacts.name
  | .typeMismatch => (VariableType.mismatch s).toOption.map VariableType.Mismatch.variableName
  | .undefinedType =>
      (VariableType.unknownClassFacts s).toOption.map VariableType.UnknownClass.variableName
  | _ => none

/-- The parameter of the kind's page that the name is passed on in. -/
def Diagnostic.Kind.subjectKey : Diagnostic.Kind → String
  | missingArrayDimension | illegalArrayDimension | arrayDimensionWithInitializer => "arrname"
  | undefinedMethod | parameterMismatch | missingReturn => "methodname"
  | _ => "varname"

/-- A link can be made for a kind, and it passes on the name. -/
def Site.LinksName (s : Site) (kind : Diagnostic.Kind) (name : String) : Prop :=
  ∃ query, LinkMakers.builtin.query? kind s = some query ∧
    query.get? kind.subjectKey = some name

theorem Site.linksName_of_query {s : Site} {kind : Diagnostic.Kind} {m : LinkMaker} {query : Query}
    {name : String} (hm : LinkMakers.builtinFor? kind = some m) (hquery : m.query s = .ok query)
    (hname : query.get? kind.subjectKey = some name) : s.LinksName kind name :=
  ⟨query, LinkMakers.query?_builtin_eq_some_iff.mpr ⟨m, hm, hquery⟩, hname⟩

/-! ## Links from the facts of the hints -/

namespace Site

variable {s : Site}

/-- The search from the anchor ends at the declarator that the hints have gone
up to, as nothing before it declares a variable. -/
theorem declarator_of_unsizedArray {a : ArrayVariable}
    (hanchor : s.tree.declaredAt? s.anchor = none) (h : s.unsizedArray = .ok a) :
    ∃ declared, s.declarator = .ok declared ∧ declared.name = a.name := by
  obtain ⟨type, inner, creation, element, declaration, declared, htype, hinner, hcreation,
    helement, hdeclaration, hdeclared, rfl⟩ := unsizedArray_eq_ok h
  refine ⟨declared, require_eq_ok_iff.mpr ?_, rfl⟩
  rw [Tree.declaratorAround?_of_parent? htype hanchor,
    Tree.declaratorAround?_of_parent? hcreation (Tree.declaredAt?_of_arrayElement? hinner),
    Tree.declaratorAround?_of_parent? hdeclaration (Tree.declaredAt?_of_createdElement? helement),
    Tree.declaratorAround?_of_declarator? hdeclared]

theorem declarator_of_createdArray {a : ArrayVariable}
    (hanchor : s.tree.declaredAt? s.anchor = none) (h : s.createdArray = .ok a) :
    ∃ declared, s.declarator = .ok declared ∧ declared.name = a.name := by
  obtain ⟨creation, element, declaration, declared, hcreation, helement, hdeclaration,
    hdeclared, rfl⟩ := createdArray_eq_ok h
  refine ⟨declared, require_eq_ok_iff.mpr ?_, rfl⟩
  rw [Tree.declaratorAround?_of_parent? hcreation hanchor,
    Tree.declaratorAround?_of_parent? hdeclaration (Tree.declaredAt?_of_createdElement? helement),
    Tree.declaratorAround?_of_declarator? hdeclared]

theorem createdType_of_createdArray {a : ArrayVariable} (h : s.createdArray = .ok a) :
    ArrayCreation.createdType s = .ok (shortTypeName a.elementType) := by
  obtain ⟨creation, element, declaration, declared, hcreation, helement, hdeclaration,
    hdeclared, rfl⟩ := createdArray_eq_ok h
  exact bind_eq_ok_iff.mpr ⟨creation, require_eq_ok_iff.mpr hcreation,
    bind_eq_ok_iff.mpr ⟨element, require_eq_ok_iff.mpr helement, rfl⟩⟩

theorem linksName_missingSize_of_declarator {declared : Declarator}
    (h : s.declarator = .ok declared) : s.LinksName .missingArrayDimension declared.name :=
  linksName_of_query rfl (bind_eq_ok_iff.mpr ⟨declared, h, rfl⟩) rfl

theorem linksName_missingOuterSize_of_declarator {type : String} {declared : Declarator}
    (htype : ArrayCreation.createdType s = .ok type) (h : s.declarator = .ok declared) :
    s.LinksName .illegalArrayDimension declared.name :=
  linksName_of_query rfl (bind_eq_ok_iff.mpr ⟨type, htype,
    bind_eq_ok_iff.mpr ⟨declared, h, rfl⟩⟩) rfl

theorem linksName_sizeAndElements_of_declarator {type : String} {declared : Declarator}
    (htype : ArrayCreation.createdType s = .ok type) (h : s.declarator = .ok declared) :
    s.LinksName .arrayDimensionWithInitializer declared.name :=
  linksName_of_query rfl (bind_eq_ok_iff.mpr ⟨type, htype,
    bind_eq_ok_iff.mpr ⟨declared, h, rfl⟩⟩) rfl

theorem linksName_missingSize {a : ArrayVariable} (hanchor : s.tree.declaredAt? s.anchor = none)
    (h : s.unsizedArray = .ok a) : s.LinksName .missingArrayDimension a.name := by
  obtain ⟨declared, hdeclared, hname⟩ := declarator_of_unsizedArray hanchor h
  rw [← hname]
  exact linksName_missingSize_of_declarator hdeclared

theorem linksName_missingOuterSize {a : ArrayVariable}
    (hanchor : s.tree.declaredAt? s.anchor = none) (h : s.createdArray = .ok a) :
    s.LinksName .illegalArrayDimension a.name := by
  obtain ⟨declared, hdeclared, hname⟩ := declarator_of_createdArray hanchor h
  rw [← hname]
  exact linksName_missingOuterSize_of_declarator (createdType_of_createdArray h) hdeclared

theorem linksName_sizeAndElements {a : ArrayVariable}
    (hanchor : s.tree.declaredAt? s.anchor = none) (h : s.createdArray = .ok a) :
    s.LinksName .arrayDimensionWithInitializer a.name := by
  obtain ⟨declared, hdeclared, hname⟩ := declarator_of_createdArray hanchor h
  rw [← hname]
  exact linksName_sizeAndElements_of_declarator (createdType_of_createdArray h) hdeclared

theorem linksName_unknownMethod {c : CallFacts} (h : s.call = .ok c) :
    s.LinksName .undefinedMethod c.name := by
  obtain ⟨id, _, _, _, hparent, _⟩ := call_eq_ok h
  exact linksName_of_query rfl (bind_eq_ok_iff.mpr ⟨c, h,
    bind_eq_ok_iff.mpr ⟨id, require_eq_ok_iff.mpr hparent, rfl⟩⟩) rfl

theorem linksName_wrongArguments {b : MethodCall.BoundCall} (h : MethodCall.boundCall s = .ok b) :
    s.LinksName .parameterMismatch b.call.name :=
  linksName_of_query rfl (bind_eq_ok_iff.mpr ⟨b, h, rfl⟩) rfl

/-- The link asks for less than the hints, which refuse a method without a
result. -/
theorem linksName_missingResult {m : MethodFacts}
    (h : MethodResult.methodWithResult s = .ok m) : s.LinksName .missingReturn m.name := by
  obtain ⟨hmethod, _⟩ := MethodResult.methodWithResult_eq_ok_iff.mp h
  exact linksName_of_query rfl (bind_eq_ok_iff.mpr ⟨m, hmethod, rfl⟩) rfl

/-- The anchor's parent is the declarator, so the anchor's own text is not
needed. -/
theorem linksName_wrongValue {m : VariableType.Mismatch} (h : VariableType.mismatch s = .ok m) :
    s.LinksName .typeMismatch m.variableName := by
  obtain ⟨provided, hprovided, h⟩ := bind_eq_ok_iff.mp h
  obtain ⟨required, hrequired, h⟩ := bind_eq_ok_iff.mp h
  obtain ⟨id, hparent, h⟩ := bind_eq_ok_iff.mp h
  obtain ⟨declared, hdeclared, h⟩ := bind_eq_ok_iff.mp h
  cases h
  have hvariable : (s.tree.parent? s.anchor).bind s.tree.declarator? = some declared := by
    rw [require_eq_ok_iff.mp hparent]
    exact require_eq_ok_iff.mp hdeclared
  refine linksName_of_query rfl (bind_eq_ok_iff.mpr ⟨provided, hprovided,
    bind_eq_ok_iff.mpr ⟨required, hrequired, rfl⟩⟩) ?_
  rw [hvariable]
  rfl

theorem linksName_unknownClass {u : VariableType.UnknownClass}
    (h : VariableType.unknownClassFacts s = .ok u) : s.LinksName .undefinedType u.variableName :=
  linksName_of_query rfl (bind_eq_ok_iff.mpr ⟨u, h, rfl⟩) rfl

end Site

/-! ## Hints and links together -/

namespace Explainers

variable {σ : Type} [RandomSource σ] {kind : Diagnostic.Kind} {site : Site} {source final : σ}
  {hints : List Hint}

/-- One name is shared if the hints that are written from the facts show it and
the facts are enough for a link with it. -/
theorem sharesName_of_facts {α : Type} {facts : Site → Except SiteError α}
    {write : α → Draw σ (List Hint)} (nameOf : α → String)
    (hkind : builtinFor? kind = some (.ofFacts kind facts write))
    (hsubject : site.subject? kind = (facts site).toOption.map nameOf)
    (hwrite : ∀ found, (write found).Ensures (QuotedInBad (nameOf found)))
    (hlink : ∀ found, facts site = .ok found → site.LinksName kind (nameOf found))
    (hrun : (builtin : Explainers σ).explain kind site source = (.ok hints, final)) :
    ∃ name, site.subject? kind = some name ∧ QuotedInBad name hints ∧
      site.LinksName kind name := by
  obtain ⟨found, hfound, hwritten⟩ := explain_builtin_eq_ok hkind hrun
  have hquoted := hwrite found source
  rw [hwritten] at hquoted
  refine ⟨nameOf found, ?_, hquoted, hlink found hfound⟩
  rw [hsubject, hfound]
  rfl

/-- **Hints and links share the name.** Take a kind that has built-in hints and
an anchor that declares no variable itself. If the hints can be made, then they
are about a variable or method whose name all their incorrect code shows, and
the link of the kind can be made and passes on that name. -/
theorem sharesName_of_explain_builtin
    (hserves : (builtin : Explainers σ).serves kind = true)
    (hanchor : site.tree.declaredAt? site.anchor = none)
    (hrun : (builtin : Explainers σ).explain kind site source = (.ok hints, final)) :
    ∃ name, site.subject? kind = some name ∧ QuotedInBad name hints ∧
      site.LinksName kind name := by
  cases kind with
  | missingArrayDimension =>
    refine sharesName_of_facts ArrayVariable.name rfl rfl (fun array => .pure ?_)
      (fun array h => Site.linksName_missingSize hanchor h) hrun
    exact ArrayCreation.quotedInBad_missingSizeHints array
  | illegalArrayDimension =>
    refine sharesName_of_facts ArrayVariable.name rfl rfl (fun array => .pure ?_)
      (fun array h => Site.linksName_missingOuterSize hanchor h) hrun
    exact ArrayCreation.quotedInBad_missingOuterSizeHints array
  | arrayDimensionWithInitializer =>
    refine sharesName_of_facts ArrayVariable.name rfl rfl
      (fun array => .bind _ fun elements => .pure ?_)
      (fun array h => Site.linksName_sizeAndElements hanchor h) hrun
    exact ArrayCreation.quotedInBad_sizeAndElementsHints array elements
  | undefinedMethod =>
    refine sharesName_of_facts CallFacts.name rfl rfl
      (fun call => .bind _ fun stringDecl => .bind _ fun objectDecl => .pure ?_)
      (fun call h => Site.linksName_unknownMethod h) hrun
    exact MethodCall.quotedInBad_unknownMethodHints call stringDecl objectDecl
  | parameterMismatch =>
    refine sharesName_of_facts (fun b => b.call.name) rfl rfl (fun b => .bind _ fun mended => ?_)
      (fun b h => Site.linksName_wrongArguments h) hrun
    have htypes := MethodCall.quotedInBad_mendEither b
    split
    next => exact .pure (htypes _ _ mended)
    next =>
      refine .bind _ fun mendedCount => .pure ?_
      exact (htypes _ _ mended).append (htypes _ _ mendedCount)
  | missingReturn =>
    refine sharesName_of_facts MethodFacts.name rfl rfl (fun method => .bind _ fun declaration =>
      .bind _ fun condition => .bind _ fun first => .bind _ fun second => .pure ?_)
      (fun method h => Site.linksName_missingResult h) hrun
    exact MethodResult.quotedInBad_missingResultHints method _
  | typeMismatch =>
    exact sharesName_of_facts VariableType.Mismatch.variableName rfl rfl
      VariableType.quotedInBad_mismatchHints (fun m h => Site.linksName_wrongValue h) hrun
  | undefinedType =>
    refine sharesName_of_facts VariableType.UnknownClass.variableName rfl rfl
      (fun u => .bind_of (Demo.quotes_declareAs _ _ _) fun declaration hdeclaration =>
        .bind _ fun corrected => .pure ?_)
      (fun u h => Site.linksName_unknownClass h) hrun
    exact VariableType.quotedInBad_unknownClassHints u hdeclaration corrected
  | _ => cases hserves

/-- The declarator `nums = new int[]`, reported at the created `int`. -/
def unsizedSite : Site where
  tree :=
    (Draft.toTree
      ⟨#[{ kind := .simpleName "nums" }, { kind := .primitiveType "int" },
        { kind := .arrayType 1 1 }, { kind := .newArray 2 [] none },
        { kind := .declarator 0 (some 3) none }]⟩
      4).toOption.get (by decide +kernel)
  anchor := 1

theorem sharesName_of_explain_builtin_unsized :
    ∃ hints final, (builtin : Explainers ListedWords).explain .missingArrayDimension unsizedSite
        ⟨[]⟩ = (.ok hints, final) ∧
      ∃ name, unsizedSite.subject? .missingArrayDimension = some name ∧
        QuotedInBad name hints ∧ unsizedSite.LinksName .missingArrayDimension name := by
  have hfound : unsizedSite.unsizedArray.toOption.isSome := by decide +kernel
  have hanchor : unsizedSite.tree.declaredAt? unsizedSite.anchor = none := by decide +kernel
  cases harray : unsizedSite.unsizedArray with
  | error e => rw [harray] at hfound; cases hfound
  | ok array =>
    have hkind : builtinFor? (σ := ListedWords) .missingArrayDimension =
        some ArrayCreation.missingSize := rfl
    have hrun := explain_builtin_of_facts hkind harray ⟨[]⟩
    exact ⟨_, _, hrun, sharesName_of_explain_builtin rfl hanchor hrun⟩

end Explainers

end Remedy
