import Remedy.Proofs.Advice.SharedNames
import Remedy.Proofs.Syntax.RenderNesting

/-!
# Calls as the hints quote them

The code of a call is written in two places. Rendering writes it by the layout of
the call's node. The hints for an unknown method put it together from the method's
name and the texts of the arguments, because they also write it behind other
receivers than the learner's. `Tree.render_call` says that both write the same: what
the hints quote is the rendered call, less its receiver and the dot.

Each of the four hints shows that text in its incorrect code, whatever stands around
it there.
-/

namespace Remedy

namespace Tree

variable {t : Tree}

/-! ## Rendered calls -/

/-- The texts of separated children are joined with the separator. -/
theorem join_separated (separator : String) (children : List NodeId) :
    String.join ((Piece.separated separator children).map t.renderPiece) =
      String.intercalate separator (children.map t.render) := by
  unfold Piece.separated
  induction children with
  | nil => simp
  | cons first rest ih =>
    cases rest with
    | nil => simp [renderPiece]
    | cons second rest =>
      simp only [List.map_cons, List.intersperse_cons_cons] at ih ⊢
      rw [String.join_cons, String.join_cons, ih, String.intercalate_cons_cons,
        String.append_assoc]
      rfl

/-- A name with children in parentheses is an application to their texts. -/
theorem append_join_inParens (name : String) (children : List NodeId) :
    name ++ String.join ((Piece.inParens children).map t.renderPiece) =
      Snippet.application name (children.map t.render) := by
  simp [Piece.inParens, Snippet.application, renderPiece, join_separated, String.append_assoc]

/-- A call is its receiver with a dot, if it has one, and the application of the
method's name to the arguments. -/
theorem render_call {id name : NodeId} {receiver : Option NodeId} {arguments : List NodeId}
    {binding : Option ResolvedMethod}
    (h : t.kind? id = some (.call receiver name arguments binding)) :
    t.render id = (receiver.elim "" fun r => t.render r ++ ".") ++
      Snippet.application (t.render name) (arguments.map t.render) := by
  rw [render_of_kind? h, ← append_join_inParens]
  cases receiver <;> simp [NodeKind.layout, Piece.before, renderPiece, String.append_assoc]

end Tree

/-! ## Hints for unknown methods -/

namespace MethodCall

/-- All the incorrect code shows the call. -/
theorem quotedInBad_text_unknownMethodHints (call : CallFacts) (stringDecl objectDecl : String) :
    QuotedInBad call.text (unknownMethodHints call stringDecl objectDecl) := by
  have honObject : Quotes call.text (objectDecl ++ "\nmyObject." ++ call.text ++ ";") :=
    ((Quotes.self _).behind _).append _
  simp [QuotedInBad, unknownMethodHints, honObject]

theorem quotes_problem_unknownMethodHints (call : CallFacts) (stringDecl objectDecl : String) :
    ∀ h ∈ unknownMethodHints call stringDecl objectDecl,
      Quotes (call.name ++ "()") h.problem := by
  have hproblem : Quotes (call.name ++ "()")
      ("You are trying to use a function, " ++ (call.name ++ "()")
        ++ ", which the compiler does not recognize. "
        ++ "(\"Method\" and \"function\" are used interchangeably here.)") :=
    (((Quotes.self _).behind _).append _).append _
  simpa [unknownMethodHints] using hproblem

end MethodCall

namespace Explainers

variable {σ : Type} [RandomSource σ] {site : Site} {source final : σ} {hints : List Hint}

/-- **The quoted call.** Let the hints for a call to an unknown method be made at a
site. Then the anchor's parent is a call of a method that is named by an identifier,
and the quoted text is this identifier with the rendered arguments in parentheses.

* The call is rendered as the quoted text if it has no receiver, and otherwise as the
  receiver, a dot and the quoted text.
* There are four hints. Each one has the quoted text in one of its examples, and the
  identifier with an empty pair of parentheses in its problem. -/
theorem quotes_call_of_explain_builtin
    (hrun : (builtin : Explainers σ).explain .undefinedMethod site source = (.ok hints, final)) :
    ∃ id receiver name arguments binding callee quoted,
      site.tree.parent? site.anchor = some id ∧
      site.tree.kind? id = some (.call receiver name arguments binding) ∧
      site.tree.kind? name = some (.simpleName callee) ∧
      quoted =
        callee ++ "(" ++ String.intercalate ", " (arguments.map site.tree.render) ++ ")" ∧
      (receiver = none → site.tree.render id = quoted) ∧
      (∀ r, receiver = some r → site.tree.render id = site.tree.render r ++ "." ++ quoted) ∧
      hints.length = 4 ∧
      ∀ h ∈ hints, (∃ code ∈ h.examples, Quotes quoted code) ∧
        Quotes (callee ++ "()") h.problem := by
  obtain ⟨call, hcall, hwritten⟩ := explain_builtin_eq_ok rfl hrun
  obtain ⟨id, receiver, name, arguments, hparent, hkind, hname, harguments, _⟩ :=
    Site.call_eq_ok hcall
  -- The two declarations are the only parts of the hints that are drawn.
  obtain ⟨stringDecl, objectDecl, rfl⟩ : ∃ stringDecl objectDecl,
      hints = MethodCall.unknownMethodHints call stringDecl objectDecl :=
    ⟨_, _, (congrArg Prod.fst hwritten).symm⟩
  have hrender := Tree.render_call hkind
  rw [Tree.render_of_identifier? hname, ← harguments] at hrender
  refine ⟨id, receiver, name, arguments, call.binding, call.name, call.text, hparent, hkind,
    Tree.kind?_of_identifier? hname, ?_, ?_, ?_, rfl, ?_⟩
  · rw [← harguments]
    rfl
  · rintro rfl
    rw [hrender, Option.elim_none, String.empty_append]
    rfl
  · rintro r rfl
    exact hrender
  · intro h hmem
    obtain ⟨_, hbad⟩ := MethodCall.quotedInBad_text_unknownMethodHints call stringDecl objectDecl
    obtain ⟨hne, hquotes⟩ := hbad h hmem
    obtain ⟨code, hcode⟩ := List.exists_mem_of_ne_nil _ hne
    refine ⟨⟨code, List.mem_append_left _ hcode, hquotes code hcode⟩, ?_⟩
    exact MethodCall.quotes_problem_unknownMethodHints call stringDecl objectDecl h hmem

/-- The unknown method's name in `out.show(twice(1), "a, b")`. -/
def showSite : Site where
  tree :=
    (Draft.toTree
      ⟨#[{ kind := .simpleName "out" }, { kind := .simpleName "show" },
        { kind := .simpleName "twice" },
        { kind := .numberLit "1", resolved := some { element := "int" } },
        { kind := .call none 2 [3] none, resolved := some { element := "int" } },
        { kind := .stringLit "\"a, b\"", resolved := some { element := "java.lang.String" } },
        { kind := .call (some 0) 1 [4, 5] none }]⟩
      6).toOption.get (by decide +kernel)
  anchor := 1

theorem quotes_call_of_explain_builtin_show :
    ∃ hints final, (builtin : Explainers ListedWords).explain .undefinedMethod showSite ⟨[]⟩ =
        (.ok hints, final) ∧
      showSite.tree.render 6 = "out" ++ "." ++ "show(twice(1), \"a, b\")" ∧
      hints.length = 4 ∧
      ∀ h ∈ hints, (∃ code ∈ h.examples, Quotes "show(twice(1), \"a, b\")" code) ∧
        Quotes "show()" h.problem := by
  have hfacts : showSite.call = .ok
      { name := "show", arguments := ["twice(1)", "\"a, b\""], argumentTypes := ["int", "String"],
        binding := none } := by
    decide +kernel
  have hserved : builtinFor? (σ := ListedWords) .undefinedMethod =
      some MethodCall.unknownMethod := rfl
  have hrun := explain_builtin_of_facts hserved hfacts ⟨[]⟩
  obtain ⟨id, receiver, name, arguments, binding, callee, quoted, hparent, hkind, hname, hquoted,
    _, hrender, hcount, hquotes⟩ := quotes_call_of_explain_builtin hrun
  have hid : showSite.tree.parent? showSite.anchor = some 6 := by decide +kernel
  obtain rfl := Option.some.inj (hid.symm.trans hparent)
  have hcall : showSite.tree.kind? 6 = some (.call (some 0) 1 [4, 5] none) := by decide +kernel
  rw [hcall] at hkind
  cases hkind
  have hcallee : showSite.tree.kind? 1 = some (.simpleName "show") := by decide +kernel
  rw [hcallee] at hname
  cases hname
  have htext : "show" ++ "(" ++ String.intercalate ", " ([4, 5].map showSite.tree.render) ++ ")" =
      "show(twice(1), \"a, b\")" := by
    decide +kernel
  rw [htext] at hquoted
  subst hquoted
  have hreceiver : showSite.tree.render 0 = "out" := by decide +kernel
  have hwhole := hrender 0 rfl
  rw [hreceiver] at hwhole
  exact ⟨_, _, hrun, hwhole, hcount, hquotes⟩

end Explainers

end Remedy
