import Remedy.Proofs.Link.RoundTrip
import Remedy.Proofs.Registry.Builtin
import Remedy.Syntax.Draft

/-!
# The pages of the catalogue

Every link leads to a page of the catalogue and passes on facts about the
learner's code. Which page it is and which parameters the page takes, in which
order, is settled by what the link is about. The facts are the learner's own
texts and may hold any character.

`Diagnostic.Kind.page?` lists the pages, and `Site.LinkFacts` says what is put in
for their parameters. A link is read back as exactly that page with exactly
those facts, so nothing that a learner writes can add a parameter, drop one,
or move one.
-/

namespace Remedy

/-- A page of the catalogue with the keys of its parameters in order. -/
structure CataloguePage where
  path : String
  keys : List String
deriving DecidableEq

namespace CataloguePage

/-- Neither the path nor a key holds a character that structures a link. -/
def Plain (page : CataloguePage) : Prop :=
  '?' ∉ page.path.toList ∧ ∀ key ∈ page.keys, '&' ∉ key.toList ∧ '=' ∉ key.toList

instance (page : CataloguePage) : Decidable page.Plain :=
  inferInstanceAs (Decidable (_ ∧ _))

/-- The query for the page with the given values, in the order of the keys. -/
def fill (page : CataloguePage) (values : List String) : Query where
  path := page.path
  parameters := page.keys.zip values

theorem Plain.separable_fill {page : CataloguePage} (h : page.Plain) (values : List String) :
    (page.fill values).Separable where
  path_free := h.1
  keys_free := fun _ hparameter => h.2 _ (List.of_mem_zip hparameter).1

end CataloguePage

/-- The page for a kind of diagnostic. -/
def Diagnostic.Kind.page? : Diagnostic.Kind → Option CataloguePage
  | missingArrayDimension => some ⟨"incorrectdimensionexpression1", ["typename", "arrname"]⟩
  | illegalArrayDimension => some ⟨"incorrectdimensionexpression2", ["typename", "arrname"]⟩
  | arrayDimensionWithInitializer =>
      some ⟨"incorrectdimensionexpression3", ["typename", "arrname"]⟩
  | undefinedMethod =>
      some ⟨"methodnotfound",
        ["methodname", "correctmethodname", "typename", "providedparams", "providedtypes"]⟩
  | parameterMismatch =>
      some ⟨"parametermismatch",
        ["methodname", "methodtypename", "providedtypes", "requiredtypes"]⟩
  | missingReturn => some ⟨"returnmissing", ["methodname", "typename", "requiredtypes"]⟩
  | nonStaticFromStatic =>
      some ⟨"nonstaticfromstatic", ["methodname", "staticmethodname", "filename"]⟩
  | methodCallOnWrongType =>
      some ⟨"methodcallonwrongtype", ["methodname", "typename", "varname"]⟩
  | typeMismatch => some ⟨"typemismatch", ["typeonename", "typetwoname", "varname"]⟩
  | undefinedType => some ⟨"typenotfound", ["classname", "correctclassname", "varname"]⟩
  | undefinedVariable => some ⟨"variablenotfound", ["classname", "varname"]⟩
  | uninitializedVariable => some ⟨"variablenotinit", ["varname", "typename"]⟩
  | incorrectVariableDeclaration =>
      some ⟨"incorrectvariabledeclaration", ["typename", "foundname"]⟩
  | unexpectedToken => some ⟨"unexpectedtoken", ["typename"]⟩
  | variableDeclarators => some ⟨"syntaxerrorvariabledeclarators", ["methodonename"]⟩
  | unreachableCode | duplicateVariable | unhandledException => none

namespace SourceText

/-- The page on a closing brace that closes nothing. -/
def extraBracePage : CataloguePage := ⟨"extraneousclosingcurlybrace", ["original", "fixed"]⟩

/-- The page on a malformed method header. -/
def methodHeaderPage : CataloguePage := ⟨"incorrectmethoddeclaration", ["methodname"]⟩

end SourceText

theorem Diagnostic.Kind.plain_of_page? {kind : Diagnostic.Kind} {page : CataloguePage}
    (h : kind.page? = some page) : page.Plain := by
  cases kind <;> cases h <;> decide

/-- The facts that the link for a kind passes on, in the order of the keys of its
page. -/
inductive Site.LinkFacts (s : Site) : Diagnostic.Kind → List String → Prop
  | missingArrayDimension {declared : Declarator} (around : s.declarator = .ok declared) :
      LinkFacts s .missingArrayDimension [shortTypeName s.text, declared.name]
  | illegalArrayDimension {type : String} {declared : Declarator}
      (above : ArrayCreation.createdType s = .ok type) (around : s.declarator = .ok declared) :
      LinkFacts s .illegalArrayDimension [type, declared.name]
  | arrayDimensionWithInitializer {type : String} {declared : Declarator}
      (above : ArrayCreation.createdType s = .ok type) (around : s.declarator = .ok declared) :
      LinkFacts s .arrayDimensionWithInitializer [type, declared.name]
  /-- The type is the one that the value of the call is used as. -/
  | undefinedMethod {call : CallFacts} {id : NodeId} (above : s.call = .ok call)
      (parent : s.parent = .ok id) :
      LinkFacts s .undefinedMethod
        [call.name, "correctName", shortTypeName (s.tree.expectedType id ""),
          String.intercalate "," call.arguments, String.intercalate "," call.argumentTypes]
  | parameterMismatch {b : MethodCall.BoundCall} (above : MethodCall.boundCall s = .ok b) :
      LinkFacts s .parameterMismatch
        [b.call.name, b.binding.returnType.shortName, String.intercalate "," b.call.argumentTypes,
          String.intercalate "," b.requiredTypes]
  | missingReturn {method : MethodFacts} (above : s.method = .ok method) :
      LinkFacts s .missingReturn
        [method.name, method.returnType, String.intercalate "," method.parameterTypes]
  | nonStaticFromStatic {method file : String} {caller : MethodParts}
      (first : s.argument 0 = .ok method) (second : s.argument 1 = .ok file)
      (around : s.methodAround = .ok caller) :
      LinkFacts s .nonStaticFromStatic [method, caller.name, file]
  | methodCallOnWrongType {type method : String} (first : s.argument 0 = .ok type)
      (second : s.argument 1 = .ok method) :
      LinkFacts s .methodCallOnWrongType [method, shortTypeName type, s.text]
  /-- The anchor's text stands in for the variable where the anchor is no child
  of a declarator. -/
  | typeMismatch {provided required : String} (first : s.argument 0 = .ok provided)
      (second : s.argument 1 = .ok required) :
      LinkFacts s .typeMismatch
        [shortTypeName provided, shortTypeName required,
          ((s.tree.parent? s.anchor).bind s.tree.declarator?).elim s.text Declarator.name]
  | undefinedType {u : VariableType.UnknownClass}
      (found : VariableType.unknownClassFacts s = .ok u) :
      LinkFacts s .undefinedType [u.className, "CorrectName", u.variableName]
  | undefinedVariable {name : String} (first : s.argument 0 = .ok name) :
      LinkFacts s .undefinedVariable [shortTypeName (s.tree.expectedType s.anchor name), name]
  | uninitializedVariable {name : String} {id expression : NodeId} {type : ResolvedType}
      (first : s.argument 0 = .ok name) (parent : s.parent = .ok id)
      (above : Naming.expressionAt? s.tree id = some expression)
      (resolved : s.tree.type? expression = some type) :
      LinkFacts s .uninitializedVariable [name, type.shortName]
  | incorrectVariableDeclaration {declared : Declarator} {type : ResolvedType}
      (around : s.declarator = .ok declared) (resolved : declared.type? = some type) :
      LinkFacts s .incorrectVariableDeclaration [shortTypeName type.element, declared.name]
  | unexpectedToken {token : String} (first : s.argument 0 = .ok token)
      (name : Naming.isNameToken token = true) : LinkFacts s .unexpectedToken [token]
  | variableDeclarators : LinkFacts s .variableDeclarators [Naming.qualifiedText s]

/-- There is a fact for every parameter of the page. -/
theorem Site.LinkFacts.length_eq {s : Site} {kind : Diagnostic.Kind} {page : CataloguePage}
    {values : List String} (h : s.LinkFacts kind values) (hpage : kind.page? = some page) :
    values.length = page.keys.length := by
  cases h <;> cases hpage <;> simp only [List.length_cons, List.length_nil]

/-! ## Queries as filled pages -/

/-- A link maker that succeeds fills the page of its kind with the facts of its
site. -/
theorem LinkMakers.query_eq_fill {kind : Diagnostic.Kind} {m : LinkMaker} {s : Site} {q : Query}
    (hm : builtinFor? kind = some m) (h : m.query s = .ok q) :
    ∃ page values, kind.page? = some page ∧ s.LinkFacts kind values ∧
      q = page.fill values := by
  cases kind with
  | missingArrayDimension =>
    cases hm
    obtain ⟨declared, hdeclared, h⟩ := bind_eq_ok_iff.mp h
    cases h
    exact ⟨_, _, rfl, .missingArrayDimension hdeclared, rfl⟩
  | illegalArrayDimension =>
    cases hm
    obtain ⟨type, htype, h⟩ := bind_eq_ok_iff.mp h
    obtain ⟨declared, hdeclared, h⟩ := bind_eq_ok_iff.mp h
    cases h
    exact ⟨_, _, rfl, .illegalArrayDimension htype hdeclared, rfl⟩
  | arrayDimensionWithInitializer =>
    cases hm
    obtain ⟨type, htype, h⟩ := bind_eq_ok_iff.mp h
    obtain ⟨declared, hdeclared, h⟩ := bind_eq_ok_iff.mp h
    cases h
    exact ⟨_, _, rfl, .arrayDimensionWithInitializer htype hdeclared, rfl⟩
  | undefinedMethod =>
    cases hm
    obtain ⟨call, hcall, h⟩ := bind_eq_ok_iff.mp h
    obtain ⟨id, hparent, h⟩ := bind_eq_ok_iff.mp h
    cases h
    exact ⟨_, _, rfl, .undefinedMethod hcall hparent, rfl⟩
  | parameterMismatch =>
    cases hm
    obtain ⟨b, hb, h⟩ := bind_eq_ok_iff.mp h
    cases h
    exact ⟨_, _, rfl, .parameterMismatch hb, rfl⟩
  | missingReturn =>
    cases hm
    obtain ⟨method, hmethod, h⟩ := bind_eq_ok_iff.mp h
    cases h
    exact ⟨_, _, rfl, .missingReturn hmethod, rfl⟩
  | nonStaticFromStatic =>
    cases hm
    obtain ⟨method, hmethod, h⟩ := bind_eq_ok_iff.mp h
    obtain ⟨file, hfile, h⟩ := bind_eq_ok_iff.mp h
    obtain ⟨caller, hcaller, h⟩ := bind_eq_ok_iff.mp h
    cases h
    exact ⟨_, _, rfl, .nonStaticFromStatic hmethod hfile hcaller, rfl⟩
  | methodCallOnWrongType =>
    cases hm
    obtain ⟨type, htype, h⟩ := bind_eq_ok_iff.mp h
    obtain ⟨method, hmethod, h⟩ := bind_eq_ok_iff.mp h
    cases h
    exact ⟨_, _, rfl, .methodCallOnWrongType htype hmethod, rfl⟩
  | typeMismatch =>
    cases hm
    obtain ⟨provided, hprovided, h⟩ := bind_eq_ok_iff.mp h
    obtain ⟨required, hrequired, h⟩ := bind_eq_ok_iff.mp h
    cases h
    exact ⟨_, _, rfl, .typeMismatch hprovided hrequired, rfl⟩
  | undefinedType =>
    cases hm
    obtain ⟨u, hu, h⟩ := bind_eq_ok_iff.mp h
    cases h
    exact ⟨_, _, rfl, .undefinedType hu, rfl⟩
  | undefinedVariable =>
    cases hm
    obtain ⟨name, hname, h⟩ := bind_eq_ok_iff.mp h
    cases h
    exact ⟨_, _, rfl, .undefinedVariable hname, rfl⟩
  | uninitializedVariable =>
    cases hm
    obtain ⟨name, hname, h⟩ := bind_eq_ok_iff.mp h
    obtain ⟨id, hparent, h⟩ := bind_eq_ok_iff.mp h
    obtain ⟨expression, hexpression, h⟩ := bind_eq_ok_iff.mp h
    obtain ⟨type, htype, h⟩ := bind_eq_ok_iff.mp h
    cases h
    exact ⟨_, _, rfl, .uninitializedVariable hname hparent (require_eq_ok_iff.mp hexpression)
      (require_eq_ok_iff.mp htype), rfl⟩
  | incorrectVariableDeclaration =>
    cases hm
    obtain ⟨declared, hdeclared, h⟩ := bind_eq_ok_iff.mp h
    obtain ⟨type, htype, h⟩ := bind_eq_ok_iff.mp h
    cases h
    exact ⟨_, _, rfl, .incorrectVariableDeclaration hdeclared (require_eq_ok_iff.mp htype),
      rfl⟩
  | unexpectedToken =>
    cases hm
    obtain ⟨token, htoken, h⟩ := bind_eq_ok_iff.mp h
    split at h
    next hname =>
      cases h
      exact ⟨_, _, rfl, .unexpectedToken htoken hname, rfl⟩
    next => cases h
  | variableDeclarators =>
    cases hm
    cases h
    exact ⟨_, _, rfl, .variableDeclarators, rfl⟩
  | unreachableCode | duplicateVariable | unhandledException => cases hm

theorem MethodResult.query_missingResultLink {s : Site} {m : MethodFacts} {page : CataloguePage}
    (h : s.method = .ok m) (hpage : Diagnostic.Kind.missingReturn.page? = some page) :
    missingResultLink.query s = .ok (page.fill
      [m.name, m.returnType, String.intercalate "," m.parameterTypes]) := by
  cases hpage
  exact bind_eq_ok_iff.mpr ⟨m, h, rfl⟩

namespace SourceText

theorem extraBraceQuery?_eq_fill {text : String} {q : Query}
    (h : extraBraceQuery? text = some q) :
    ∃ block, extraBrace? text.toList = some block ∧
      q = extraBracePage.fill [String.ofList block.asWritten, String.ofList block.corrected] := by
  obtain ⟨block, hblock, rfl⟩ := Option.map_eq_some_iff.mp h
  exact ⟨block, hblock, rfl⟩

theorem methodHeaderQuery?_eq_fill {text : String} {q : Query}
    (h : methodHeaderQuery? text = some q) :
    ∃ name, nameBeforeParen? text.toList = some name ∧
      q = methodHeaderPage.fill [String.ofList name] := by
  obtain ⟨name, hname, rfl⟩ := Option.map_eq_some_iff.mp h
  exact ⟨name, hname, rfl⟩

end SourceText

/-! ## Links to pages -/

/-- The link is read back as the page with the given values, one for each of its
parameters and in their order. The parameter that asks for the embedded form
follows exactly if it is wanted. -/
def CatalogueLink.Shows (link : CatalogueLink) (page : CataloguePage) (values : List String)
    (embedded : Bool) : Prop :=
  ∃ query, link.read? = some query ∧ query.path = page.path ∧
    query.parameters.map Prod.fst = page.keys ++ (if embedded then ["embed"] else []) ∧
    query.parameters.map Prod.snd = values ++ if embedded then ["true"] else []

/-- A filled page is shown, whatever the values are. -/
theorem CataloguePage.Plain.shows_link_fill {page : CataloguePage} (hpage : page.Plain)
    {values : List String} (hlength : values.length = page.keys.length) (embedded : Bool) :
    ((page.fill values).link embedded).Shows page values embedded := by
  have hread := CatalogueLink.read?_link_of_separable (hpage.separable_fill values) embedded
  have hkeys : (page.keys.zip values).map Prod.fst = page.keys :=
    List.map_fst_zip (Nat.le_of_eq hlength.symm)
  have hvalues : (page.keys.zip values).map Prod.snd = values :=
    List.map_snd_zip (Nat.le_of_eq hlength)
  refine ⟨_, hread, rfl, ?_, ?_⟩
  · rw [Query.shown, List.map_append, CataloguePage.fill, hkeys]
    cases embedded <;> rfl
  · rw [Query.shown, List.map_append, CataloguePage.fill, hvalues]
    cases embedded <;> rfl

namespace LinkWriter

/-- A query that the maker of a kind makes is linked. -/
theorem link?_of_query {kind : Diagnostic.Kind} {m : LinkMaker} {site : Site} {q : Query}
    (hm : LinkMakers.builtinFor? kind = some m) (hquery : m.query site = .ok q) (embedded : Bool) :
    ({ embedded } : LinkWriter).link? kind site = some (q.link embedded) := by
  rw [link?, LinkMakers.query?_builtin_eq_some_iff.mpr ⟨m, hm, hquery⟩, Option.map_some]

/-- Where the maker of a kind fills the page of the kind, a link shows the page. -/
theorem shows_link?_of_fill {kind : Diagnostic.Kind} {m : LinkMaker} {site : Site}
    {page : CataloguePage} {values : List String} (hm : LinkMakers.builtinFor? kind = some m)
    (hpage : kind.page? = some page) (hquery : m.query site = .ok (page.fill values))
    (hlength : values.length = page.keys.length) (embedded : Bool) :
    ∃ link, ({ embedded } : LinkWriter).link? kind site = some link ∧
      link.Shows page values embedded :=
  ⟨_, link?_of_query hm hquery embedded,
    (Diagnostic.Kind.plain_of_page? hpage).shows_link_fill hlength embedded⟩

/-- A parameter of a filled page is read back from the link. -/
theorem get?_link?_of_fill {kind : Diagnostic.Kind} {m : LinkMaker} {site : Site}
    {page : CataloguePage} {values : List String} {key value : String}
    (hm : LinkMakers.builtinFor? kind = some m) (hpage : kind.page? = some page)
    (hquery : m.query site = .ok (page.fill values))
    (hkey : (page.fill values).get? key = some value) (embedded : Bool) :
    ∃ link query, ({ embedded } : LinkWriter).link? kind site = some link ∧
      link.read? = some query ∧ query.get? key = some value := by
  have hplain := Diagnostic.Kind.plain_of_page? hpage
  refine ⟨_, _, link?_of_query hm hquery embedded,
    CatalogueLink.read?_link_of_separable (hplain.separable_fill _) embedded, ?_⟩
  -- The page's own parameters stand in front of the one that asks for the embedding.
  rw [Query.get?, Query.shown, List.lookup_append, show List.lookup key _ = _ from hkey,
    Option.some_or]

/-- No link is made where the maker of the kind fails. -/
theorem link?_eq_none_of_query {kind : Diagnostic.Kind} {m : LinkMaker} {site : Site}
    {e : SiteError} (hm : LinkMakers.builtinFor? kind = some m) (hquery : m.query site = .error e)
    (embedded : Bool) : ({ embedded } : LinkWriter).link? kind site = none := by
  rw [link?, LinkMakers.query?_builtin, hm, Option.bind_some, hquery]
  rfl

theorem shows_of_link? {embedded : Bool} {kind : Diagnostic.Kind} {site : Site}
    {link : CatalogueLink} (h : ({ embedded } : LinkWriter).link? kind site = some link) :
    ∃ page values, kind.page? = some page ∧ site.LinkFacts kind values ∧
      link.Shows page values embedded := by
  obtain ⟨query, hquery, rfl⟩ := Option.map_eq_some_iff.mp h
  obtain ⟨m, hm, hok⟩ := LinkMakers.query?_builtin_eq_some_iff.mp hquery
  obtain ⟨page, values, hpage, hfacts, rfl⟩ := LinkMakers.query_eq_fill hm hok
  have hplain := Diagnostic.Kind.plain_of_page? hpage
  exact ⟨page, values, hpage, hfacts, hplain.shows_link_fill (hfacts.length_eq hpage) embedded⟩

theorem shows_of_extraBraceLink? {embedded : Bool} {text : String} {link : CatalogueLink}
    (h : ({ embedded } : LinkWriter).extraBraceLink? text = some link) :
    ∃ block, SourceText.extraBrace? text.toList = some block ∧
      link.Shows SourceText.extraBracePage
        [String.ofList block.asWritten, String.ofList block.corrected] embedded := by
  obtain ⟨query, hquery, rfl⟩ := Option.map_eq_some_iff.mp h
  obtain ⟨block, hblock, rfl⟩ := SourceText.extraBraceQuery?_eq_fill hquery
  have hplain : SourceText.extraBracePage.Plain := by decide
  exact ⟨block, hblock, hplain.shows_link_fill (by simp [SourceText.extraBracePage]) embedded⟩

theorem shows_of_methodHeaderLink? {embedded : Bool} {text : String} {link : CatalogueLink}
    (h : ({ embedded } : LinkWriter).methodHeaderLink? text = some link) :
    ∃ name, SourceText.nameBeforeParen? text.toList = some name ∧
      link.Shows SourceText.methodHeaderPage [String.ofList name] embedded := by
  obtain ⟨query, hquery, rfl⟩ := Option.map_eq_some_iff.mp h
  obtain ⟨name, hname, rfl⟩ := SourceText.methodHeaderQuery?_eq_fill hquery
  have hplain : SourceText.methodHeaderPage.Plain := by decide
  exact ⟨name, hname, hplain.shows_link_fill (by simp [SourceText.methodHeaderPage]) embedded⟩

/-- **The learner's texts do not shape the link.** A link that is made for a kind
at a site is read back as the page of that kind, with the facts of the site for
its parameters in their order, and with nothing behind them but the embedding if
it is asked for. The two links that are made from a source text alone are read
back in the same way. None of this depends on the characters that the facts
hold. -/
theorem shows_builtin_links (embedded : Bool) :
    (∀ kind site link, ({ embedded } : LinkWriter).link? kind site = some link →
      ∃ page values, kind.page? = some page ∧ site.LinkFacts kind values ∧
        link.Shows page values embedded) ∧
    (∀ text link, ({ embedded } : LinkWriter).extraBraceLink? text = some link →
      ∃ block, SourceText.extraBrace? text.toList = some block ∧
        link.Shows SourceText.extraBracePage
          [String.ofList block.asWritten, String.ofList block.corrected] embedded) ∧
    ∀ text link, ({ embedded } : LinkWriter).methodHeaderLink? text = some link →
      ∃ name, SourceText.nameBeforeParen? text.toList = some name ∧
        link.Shows SourceText.methodHeaderPage [String.ofList name] embedded :=
  ⟨fun _ _ _ => shows_of_link?, fun _ _ => shows_of_extraBraceLink?,
    fun _ _ => shows_of_methodHeaderLink?⟩

/-- The initializer of `int x = s;`, reported with types that hold every character
that structures a link. -/
def structuringSite : Site where
  tree :=
    (Draft.toTree
      ⟨#[{ kind := .simpleName "x" }, { kind := .simpleName "s" },
        { kind := .declarator 0 (some 1) none }]⟩
      2).toOption.get (by decide +kernel)
  anchor := 1
  arguments := ["a.Map<b?c&d=e%20>", "int&embed=false"]

/-- A block with one closing brace too many. -/
def structuringText : String := "if (a&b) \x7bf(); \x7d\n\x7d"

theorem shows_builtin_links_structuring :
    (∃ link,
      ({ embedded := true } : LinkWriter).link? .typeMismatch structuringSite = some link ∧
      ∃ page values, Diagnostic.Kind.typeMismatch.page? = some page ∧
        structuringSite.LinkFacts .typeMismatch values ∧ link.Shows page values true) ∧
    (∃ link, ({ embedded := true } : LinkWriter).extraBraceLink? structuringText = some link ∧
      ∃ block, SourceText.extraBrace? structuringText.toList = some block ∧
        link.Shows SourceText.extraBracePage
          [String.ofList block.asWritten, String.ofList block.corrected] true) ∧
    ∃ link, ({ embedded := true } : LinkWriter).methodHeaderLink? "int é_1(x" = some link ∧
      ∃ name, SourceText.nameBeforeParen? "int é_1(x".toList = some name ∧
        link.Shows SourceText.methodHeaderPage [String.ofList name] true := by
  obtain ⟨hkinds, hbrace, hheader⟩ := shows_builtin_links true
  refine ⟨?_, ?_, ?_⟩
  · have hmade : (({ embedded := true } : LinkWriter).link? .typeMismatch
        structuringSite).isSome := by
      rw [link?, Option.isSome_map]
      decide +kernel
    obtain ⟨link, hlink⟩ := Option.isSome_iff_exists.mp hmade
    exact ⟨link, hlink, hkinds _ _ _ hlink⟩
  · have hmade : (({ embedded := true } : LinkWriter).extraBraceLink? structuringText).isSome := by
      rw [extraBraceLink?, Option.isSome_map]
      decide +kernel
    obtain ⟨link, hlink⟩ := Option.isSome_iff_exists.mp hmade
    exact ⟨link, hlink, hbrace _ _ hlink⟩
  · have hmade : (({ embedded := true } : LinkWriter).methodHeaderLink?
        "int é_1(x").isSome := by
      rw [methodHeaderLink?, Option.isSome_map]
      decide +kernel
    obtain ⟨link, hlink⟩ := Option.isSome_iff_exists.mp hmade
    exact ⟨link, hlink, hheader _ _ hlink⟩

end LinkWriter

end Remedy
