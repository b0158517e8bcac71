import Remedy.Proofs.Link.CataloguePages
import Remedy.Proofs.Link.MethodHeader

/-!
# Names reported from raw text

Two links report a name that no parser has seen: the token that stands where a type was
expected, and the name in a malformed method header. Both report any row of identifier
characters.

The name of a variable, a method or a type is such a row, but it does not begin with a digit.
Neither link asks for that, and so the rows that are reported are of two sorts (`isRow_iff`):
proper names, and rows that a digit leads. Which characters are digits is left open: the ASCII
digits are one such class, and the decimal digits of Unicode are another.
-/

namespace Remedy

/-- A row of identifier characters that does not begin with a digit. -/
structure IsProperName (digit : Char → Bool) (name : String) : Prop where
  nonempty : name ≠ ""
  parts : ∀ c ∈ name.toList, isIdentifierPart c = true
  start : ∀ c ∈ name.toList.head?, digit c = false

/-- A row of identifier characters that begins with a digit. -/
structure IsDigitLed (digit : Char → Bool) (name : String) : Prop where
  parts : ∀ c ∈ name.toList, isIdentifierPart c = true
  start : ∃ c ∈ name.toList.head?, digit c = true

variable {digit : Char → Bool} {name : String}

theorem IsDigitLed.not_isProperName (h : IsDigitLed digit name) : ¬ IsProperName digit name := by
  intro hname
  obtain ⟨c, hfirst, hdigit⟩ := h.start
  rw [hname.start c hfirst] at hdigit
  cases hdigit

theorem isRow_iff (digit : Char → Bool) (name : String) :
    name ≠ "" ∧ (∀ c ∈ name.toList, isIdentifierPart c = true) ↔
      IsProperName digit name ∨ IsDigitLed digit name := by
  constructor
  · rintro ⟨hne, hparts⟩
    by_cases hled : ∃ c ∈ name.toList.head?, digit c = true
    · exact .inr ⟨hparts, hled⟩
    · refine .inl ⟨hne, hparts, ?_⟩
      intro c hfirst
      exact Bool.eq_false_iff.mpr fun hdigit => hled ⟨c, hfirst, hdigit⟩
  · rintro (hname | hled)
    · exact ⟨hname.nonempty, hname.parts⟩
    · refine ⟨?_, hled.parts⟩
      rintro rfl
      obtain ⟨c, hfirst, -⟩ := hled.start
      cases hfirst

theorem Naming.isNameToken_iff (digit : Char → Bool) {token : String} :
    isNameToken token = true ↔ IsProperName digit token ∨ IsDigitLed digit token := by
  rw [← isRow_iff, isNameToken, Bool.and_eq_true, List.all_eq_true]
  simp

namespace LinkWriter

open SourceText

/-- The link for an unexpected token is made exactly for rows of identifier characters. -/
theorem link?_unexpectedToken_iff (digit : Char → Bool) {embedded : Bool} {site : Site}
    {link : CatalogueLink} {page : CataloguePage}
    (hpage : Diagnostic.Kind.unexpectedToken.page? = some page) :
    ({ embedded } : LinkWriter).link? .unexpectedToken site = some link ↔
      ∃ token, site.argument 0 = .ok token ∧
        (IsProperName digit token ∨ IsDigitLed digit token) ∧
        link = (page.fill [token]).link embedded := by
  constructor
  · intro h
    obtain ⟨query, hquery, rfl⟩ := Option.map_eq_some_iff.mp h
    obtain ⟨m, hm, hok⟩ := LinkMakers.query?_builtin_eq_some_iff.mp hquery
    obtain ⟨page', values, hpage', hfacts, rfl⟩ := LinkMakers.query_eq_fill hm hok
    obtain rfl := Option.some.inj (hpage.symm.trans hpage')
    cases hfacts with
    | unexpectedToken hfirst hname =>
      exact ⟨_, hfirst, (Naming.isNameToken_iff digit).mp hname, rfl⟩
  · rintro ⟨token, hfirst, hname, rfl⟩
    refine link?_of_query (m := Naming.unexpectedTokenLink) rfl ?_ embedded
    cases hpage
    refine bind_eq_ok_iff.mpr ⟨token, hfirst, ?_⟩
    rw [if_pos ((Naming.isNameToken_iff digit).mpr hname)]
    rfl

/-- The link for a method header is made exactly for rows of identifier characters. -/
theorem methodHeaderLink?_iff (digit : Char → Bool) {embedded : Bool} {text : String}
    {link : CatalogueLink} :
    ({ embedded } : LinkWriter).methodHeaderLink? text = some link ↔
      ∃ before name after, NameBefore text.toList before name.toList after ∧
        (IsProperName digit name ∨ IsDigitLed digit name) ∧
        link = (methodHeaderPage.fill [name]).link embedded := by
  constructor
  · intro h
    obtain ⟨query, hquery, rfl⟩ := Option.map_eq_some_iff.mp h
    obtain ⟨name, hname, rfl⟩ := methodHeaderQuery?_eq_fill hquery
    obtain ⟨before, after, hbefore⟩ := nameBeforeParen?_eq_some_iff.mp hname
    refine ⟨before, String.ofList name, after, by rwa [String.toList_ofList], ?_, rfl⟩
    rw [← isRow_iff, String.toList_ofList]
    refine ⟨?_, hbefore.parts⟩
    intro hempty
    exact hbefore.nonempty (by simpa using hempty)
  · rintro ⟨before, name, after, hbefore, -, rfl⟩
    have hname := nameBeforeParen?_eq_some_iff.mpr ⟨before, after, hbefore⟩
    rw [methodHeaderLink?, methodHeaderQuery?, hname, Option.map_some, String.ofList_toList]
    rfl

/-- **Names from raw text.** A link for an unexpected token is made exactly if there is a token
and it is a proper name or a row of identifier characters that a digit leads, and the link
shows that token. A link for a method header is made exactly if a name of one of these two
sorts stands before the last opening parenthesis, and it shows that name. A row that a digit
leads is no proper name, so what is reported is a proper name exactly where no digit leads. -/
theorem links_report_rows (digit : Char → Bool) (embedded : Bool) :
    (∀ site link, ({ embedded } : LinkWriter).link? .unexpectedToken site = some link ↔
      ∃ page token, Diagnostic.Kind.unexpectedToken.page? = some page ∧
        site.argument 0 = .ok token ∧ (IsProperName digit token ∨ IsDigitLed digit token) ∧
        link = (page.fill [token]).link embedded ∧ link.Shows page [token] embedded) ∧
      (∀ text link, ({ embedded } : LinkWriter).methodHeaderLink? text = some link ↔
        ∃ before name after, NameBefore text.toList before name.toList after ∧
          (IsProperName digit name ∨ IsDigitLed digit name) ∧
          link = (methodHeaderPage.fill [name]).link embedded ∧
          link.Shows methodHeaderPage [name] embedded) ∧
      ∀ name, IsDigitLed digit name → ¬ IsProperName digit name := by
  refine ⟨?_, ?_, fun name => IsDigitLed.not_isProperName⟩
  · intro site link
    obtain ⟨page, hpage⟩ : ∃ page, Diagnostic.Kind.unexpectedToken.page? = some page := ⟨_, rfl⟩
    have hplain := Diagnostic.Kind.plain_of_page? hpage
    rw [link?_unexpectedToken_iff digit hpage]
    constructor
    · rintro ⟨token, hfirst, hname, rfl⟩
      have hlength : [token].length = page.keys.length := by
        cases hpage
        rfl
      exact ⟨page, token, hpage, hfirst, hname, rfl, hplain.shows_link_fill hlength embedded⟩
    · rintro ⟨page', token, hpage', hfirst, hname, hlink, -⟩
      obtain rfl := Option.some.inj (hpage.symm.trans hpage')
      exact ⟨token, hfirst, hname, hlink⟩
  · intro text link
    have hplain : methodHeaderPage.Plain := by decide
    rw [methodHeaderLink?_iff digit]
    constructor
    · rintro ⟨before, name, after, hbefore, hname, rfl⟩
      have hlength : [name].length = methodHeaderPage.keys.length := by
        rw [methodHeaderPage, List.length_singleton, List.length_singleton]
      exact ⟨before, name, after, hbefore, hname, rfl, hplain.shows_link_fill hlength embedded⟩
    · rintro ⟨before, name, after, hbefore, hname, hlink, -⟩
      exact ⟨before, name, after, hbefore, hname, hlink⟩

/-- A name at which a numeral is reported as the token that stands for a type. -/
def numeralSite : Site where
  tree := (Draft.toTree ⟨#[{ kind := .simpleName "x" }]⟩ 0).toOption.get (by decide +kernel)
  anchor := 0
  arguments := ["2"]

/-- The numeral 2 is linked as the name of a type, and a method name may begin with it. -/
theorem links_report_numeral :
    (∃ link page, ({ embedded := false } : LinkWriter).link? .unexpectedToken numeralSite =
        some link ∧ Diagnostic.Kind.unexpectedToken.page? = some page ∧
        link.Shows page ["2"] false) ∧
      (∃ link, ({ embedded := false } : LinkWriter).methodHeaderLink? "void 2draw(" =
        some link ∧ link.Shows methodHeaderPage ["2draw"] false) ∧
      ¬ IsProperName Char.isDigit "2" ∧ ¬ IsProperName Char.isDigit "2draw" := by
  have hpage : Diagnostic.Kind.unexpectedToken.page? = some ⟨"unexpectedtoken", ["typename"]⟩ := rfl
  have htwo : IsDigitLed Char.isDigit "2" := ⟨List.all_eq_true.mp rfl, '2', rfl, rfl⟩
  have hdraw : IsDigitLed Char.isDigit "2draw" :=
    ⟨List.all_eq_true.mp (by decide +kernel), '2', rfl, rfl⟩
  refine ⟨?_, ?_, htwo.not_isProperName, hdraw.not_isProperName⟩
  · have hlink : ({ embedded := false } : LinkWriter).link? .unexpectedToken numeralSite = some _ :=
      (link?_unexpectedToken_iff Char.isDigit hpage).mpr ⟨"2", rfl, .inr htwo, rfl⟩
    have hplain := Diagnostic.Kind.plain_of_page? hpage
    exact ⟨_, _, hlink, hpage, hplain.shows_link_fill (by simp) false⟩
  · have hbefore : NameBefore "void 2draw(".toList "void ".toList "2draw".toList [] :=
      ⟨rfl, List.not_mem_nil, List.cons_ne_nil _ _, hdraw.parts,
        .inr ⟨"void".toList, ' ', rfl, by decide +kernel⟩⟩
    have hlink : ({ embedded := false } : LinkWriter).methodHeaderLink? "void 2draw(" = some _ :=
      (methodHeaderLink?_iff Char.isDigit).mpr ⟨_, "2draw", _, hbefore, .inr hdraw, rfl⟩
    have hplain : methodHeaderPage.Plain := by decide
    exact ⟨_, hlink, hplain.shows_link_fill (by simp [methodHeaderPage]) false⟩

end LinkWriter

end Remedy
