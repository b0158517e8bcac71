import Remedy.Engine
import Remedy.Proofs.Registry.Builtin
import Remedy.Proofs.Site.Renumbering
import Remedy.Proofs.Tree.Covering

/-!
# Advice under a renumbering

Hints and links are written from texts and types that are looked up around the
anchor. Those look-ups end alike in a tree and in the renumbered tree, so the
advice is the same, word for word and with the same draws. No id can be read off
what a learner is shown.
-/

namespace Remedy

variable {s s' : Site} (r : Site.Renumbering s s')

/-! ## Facts for hints -/

theorem MethodCall.carries_boundCall : r.Carries id (boundCall s) (boundCall s') := by
  refine .bind r.call fun call => ?_
  exact .bind (.require_same rfl rfl) fun binding => .pure rfl

theorem MethodResult.carries_methodWithResult :
    r.Carries id (methodWithResult s) (methodWithResult s') := by
  refine .bind r.method fun method => ?_
  dsimp only [id]
  split
  · exact .throw rfl
  · exact .pure rfl

theorem VariableType.carries_mismatch : r.Carries id (mismatch s) (mismatch s') := by
  refine .bind (r.argument 0) fun provided => ?_
  refine .bind (r.argument 1) fun required => ?_
  refine .bind r.parent fun node => ?_
  exact .bind (r.declaratorAt node) fun declared => .pure rfl

theorem VariableType.carries_unknownClassFacts :
    r.Carries id (unknownClassFacts s) (unknownClassFacts s') := by
  refine .bind (r.argument 0) fun name => ?_
  exact .bind r.declarator fun declared => .pure rfl

/-! ## Queries for links -/

namespace ArrayCreation

theorem carries_createdType : r.Carries id (createdType s) (createdType s') := by
  refine .bind r.parent fun creation => ?_
  refine .bind (r.createdElementAt creation) fun element => .pure ?_
  rw [r.render]
  rfl

theorem carries_missingSizeLink :
    r.Carries id (missingSizeLink.query s) (missingSizeLink.query s') := by
  refine .bind r.declarator fun declared => .pure ?_
  rw [r.text]
  rfl

theorem carries_missingOuterSizeLink :
    r.Carries id (missingOuterSizeLink.query s) (missingOuterSizeLink.query s') := by
  refine .bind (carries_createdType r) fun type => ?_
  exact .bind r.declarator fun declared => .pure rfl

theorem carries_sizeAndElementsLink :
    r.Carries id (sizeAndElementsLink.query s) (sizeAndElementsLink.query s') := by
  refine .bind (carries_createdType r) fun type => ?_
  exact .bind r.declarator fun declared => .pure rfl

end ArrayCreation

namespace MethodCall

theorem carries_unknownMethodLink :
    r.Carries id (unknownMethodLink.query s) (unknownMethodLink.query s') := by
  refine .bind r.call fun call => ?_
  refine .bind r.parent fun node => .pure ?_
  rw [r.expectedType]
  rfl

theorem carries_wrongArgumentsLink :
    r.Carries id (wrongArgumentsLink.query s) (wrongArgumentsLink.query s') :=
  .bind (carries_boundCall r) fun _ => .pure rfl

theorem carries_fromStaticLink :
    r.Carries id (fromStaticLink.query s) (fromStaticLink.query s') := by
  refine .bind (r.argument 0) fun method => ?_
  refine .bind (r.argument 1) fun file => ?_
  exact .bind r.methodAround fun caller => .pure rfl

theorem carries_wrongReceiverLink :
    r.Carries id (wrongReceiverLink.query s) (wrongReceiverLink.query s') := by
  refine .bind (r.argument 0) fun type => ?_
  refine .bind (r.argument 1) fun method => .pure ?_
  rw [r.text]
  rfl

end MethodCall

theorem MethodResult.carries_missingResultLink :
    r.Carries id (missingResultLink.query s) (missingResultLink.query s') :=
  .bind r.method fun _ => .pure rfl

namespace VariableType

theorem carries_wrongValueLink :
    r.Carries id (wrongValueLink.query s) (wrongValueLink.query s') := by
  refine .bind (r.argument 0) fun provided => ?_
  refine .bind (r.argument 1) fun required => .pure ?_
  -- This link does without a declarator, so the look-up is no line of its own.
  have hdeclared : (s'.tree.parent? s'.anchor).bind s'.tree.declarator? =
      (s.tree.parent? s.anchor).bind s.tree.declarator? := by
    rw [r.anchor, r.parent?, Option.bind_map]
    exact Option.bind_congr fun node _ => r.declarator? node
  rw [hdeclared, r.text]
  rfl

theorem carries_unknownClassLink :
    r.Carries id (unknownClassLink.query s) (unknownClassLink.query s') :=
  .bind (carries_unknownClassFacts r) fun _ => .pure rfl

theorem carries_sizedVariableLink :
    r.Carries id (sizedVariableLink.query s) (sizedVariableLink.query s') := by
  refine .bind r.declarator fun declared => ?_
  exact .bind (.require_same rfl rfl) fun type => .pure rfl

end VariableType

namespace Naming

theorem carries_unknownVariableLink :
    r.Carries id (unknownVariableLink.query s) (unknownVariableLink.query s') := by
  refine .bind (r.argument 0) fun name => .pure ?_
  rw [r.anchor, r.expectedType]
  rfl

theorem expressionAt?_new (node : NodeId) :
    expressionAt? s'.tree (r.new node) = (expressionAt? s.tree node).map r.new := by
  rw [expressionAt?, expressionAt?, r.kind?]
  cases s.tree.kind? node with
  | none => rfl
  | some kind => cases kind <;> rfl

theorem carries_unassignedLink :
    r.Carries id (unassignedLink.query s) (unassignedLink.query s') := by
  refine .bind (r.argument 0) fun name => ?_
  refine .bind r.parent fun node => ?_
  refine .bind (.require (expressionAt?_new r node) rfl) fun expression => ?_
  exact .bind (.require_same (r.type? expression) rfl) fun type => .pure rfl

theorem carries_unexpectedTokenLink :
    r.Carries id (unexpectedTokenLink.query s) (unexpectedTokenLink.query s') := by
  refine .bind (r.argument 0) fun token => ?_
  dsimp only [id]
  split
  · exact .pure rfl
  · exact .throw rfl

theorem qualifiedText_new (r : Site.Renumbering s s') : qualifiedText s' = qualifiedText s := by
  rw [qualifiedText, qualifiedText, r.anchor, r.parent?, r.text]
  cases s.tree.parent? s.anchor with
  | none => rfl
  | some node =>
    simp only [Option.map_some, r.kind?, r.render]
    cases s.tree.kind? node with
    | none => rfl
    | some kind => cases kind <;> rfl

theorem carries_strayCallLink :
    r.Carries id (strayCallLink.query s) (strayCallLink.query s') := by
  refine .pure ?_
  rw [qualifiedText_new r]
  rfl

end Naming

/-! ## Hints and links -/

namespace Site.Renumbering

theorem hints_of_facts {σ α : Type} [RandomSource σ] {kind : Diagnostic.Kind}
    {facts : Site → Except SiteError α} {write : α → Draw σ (List Hint)}
    (h : Explainers.builtinFor? kind = some (.ofFacts kind facts write))
    (hfacts : r.Carries id (facts s) (facts s')) (source : σ) :
    (Explainers.builtin : Explainers σ).hints kind s' source =
      (Explainers.builtin : Explainers σ).hints kind s source := by
  rw [Explainers.hints_builtin_of_facts h, Explainers.hints_builtin_of_facts h, hfacts]
  cases facts s <;> rfl

/-- The built-in hints are the same, and so is what they leave of the random
source. -/
theorem hints_builtin {σ : Type} [RandomSource σ] (r : Site.Renumbering s s')
    (kind : Diagnostic.Kind) (source : σ) :
    (Explainers.builtin : Explainers σ).hints kind s' source =
      (Explainers.builtin : Explainers σ).hints kind s source := by
  cases kind with
  | missingArrayDimension => exact r.hints_of_facts rfl r.unsizedArray source
  | illegalArrayDimension => exact r.hints_of_facts rfl r.createdArray source
  | arrayDimensionWithInitializer => exact r.hints_of_facts rfl r.createdArray source
  | undefinedMethod => exact r.hints_of_facts rfl r.call source
  | parameterMismatch =>
    exact r.hints_of_facts rfl (MethodCall.carries_boundCall r) source
  | missingReturn =>
    exact r.hints_of_facts rfl (MethodResult.carries_methodWithResult r) source
  | typeMismatch => exact r.hints_of_facts rfl (VariableType.carries_mismatch r) source
  | undefinedType =>
    exact r.hints_of_facts rfl (VariableType.carries_unknownClassFacts r) source
  | _ =>
    rw [Explainers.hints_builtin_of_none rfl, Explainers.hints_builtin_of_none rfl]

theorem carries_query {kind : Diagnostic.Kind} {m : LinkMaker}
    (h : LinkMakers.builtinFor? kind = some m) : r.Carries id (m.query s) (m.query s') := by
  cases kind with
  | missingArrayDimension => cases h; exact ArrayCreation.carries_missingSizeLink r
  | illegalArrayDimension => cases h; exact ArrayCreation.carries_missingOuterSizeLink r
  | arrayDimensionWithInitializer => cases h; exact ArrayCreation.carries_sizeAndElementsLink r
  | undefinedMethod => cases h; exact MethodCall.carries_unknownMethodLink r
  | parameterMismatch => cases h; exact MethodCall.carries_wrongArgumentsLink r
  | missingReturn => cases h; exact MethodResult.carries_missingResultLink r
  | nonStaticFromStatic => cases h; exact MethodCall.carries_fromStaticLink r
  | methodCallOnWrongType => cases h; exact MethodCall.carries_wrongReceiverLink r
  | typeMismatch => cases h; exact VariableType.carries_wrongValueLink r
  | undefinedType => cases h; exact VariableType.carries_unknownClassLink r
  | undefinedVariable => cases h; exact Naming.carries_unknownVariableLink r
  | uninitializedVariable => cases h; exact Naming.carries_unassignedLink r
  | incorrectVariableDeclaration => cases h; exact VariableType.carries_sizedVariableLink r
  | unexpectedToken => cases h; exact Naming.carries_unexpectedTokenLink r
  | variableDeclarators => cases h; exact Naming.carries_strayCallLink r
  | unreachableCode | duplicateVariable | unhandledException => cases h

/-- The built-in links are the same, written for either form of the page. -/
theorem link?_builtin (r : Site.Renumbering s s') (kind : Diagnostic.Kind) (embedded : Bool) :
    ({ embedded } : LinkWriter).link? kind s' = ({ embedded } : LinkWriter).link? kind s := by
  have hquery : LinkMakers.builtin.query? kind s' = LinkMakers.builtin.query? kind s := by
    rw [LinkMakers.query?_builtin, LinkMakers.query?_builtin]
    exact Option.bind_congr fun m hm => (r.carries_query hm).toOption
  rw [LinkWriter.link?, LinkWriter.link?, hquery]

end Site.Renumbering

namespace Tree

variable {t u : Tree}

/-- The site of an anchor goes to the site of its new id. -/
def Renumbering.site (r : Renumbering t u) (anchor : NodeId) (arguments : List String) :
    Site.Renumbering ⟨t, anchor, arguments⟩ ⟨u, r.new anchor, arguments⟩ where
  toRenumbering := r
  anchor := rfl
  arguments := rfl

/-- The built-in engine helps with a diagnostic alike over either tree. -/
theorem Renumbering.drawHelp {σ : Type} [SeededSource σ] (r : Renumbering t u)
    (settings : Settings) (d : Diagnostic) :
    (Engine.builtin settings : Engine σ).drawHelp u d =
      (Engine.builtin settings : Engine σ).drawHelp t d := by
  rw [Engine.drawHelp, Engine.drawHelp, r.covering]
  cases t.covering d.span with
  | none => rfl
  | some anchor =>
    have hhints : (Engine.builtin settings : Engine σ).drawHints d.kind
        ⟨u, r.new anchor, d.arguments⟩ =
          (Engine.builtin settings).drawHints d.kind ⟨t, anchor, d.arguments⟩ :=
      funext fun source => (r.site anchor d.arguments).hints_builtin d.kind source
    have hlink : (Engine.builtin settings : Engine σ).link? d.kind
        ⟨u, r.new anchor, d.arguments⟩ =
          (Engine.builtin settings : Engine σ).link? d.kind ⟨t, anchor, d.arguments⟩ :=
      (r.site anchor d.arguments).link?_builtin d.kind settings.embedded
    simp only [Option.map_some, hhints, hlink]

/-- **The numbering of the nodes does not show.** Let a bijection between the
nodes of two trees keep the root and carry every node to one of the same kind,
text, span and type, with the children carried along. Then a node and its image
render alike, every diagnostic there has the same hints, drawn alike from the
random source, and the same link, and a source range belongs to corresponding
nodes. -/
theorem advice_eq_of_renumbered {f : NodeId → NodeId}
    (hf : Set.BijOn f (Set.Iio t.size) (Set.Iio u.size)) (hroot : f t.root = u.root)
    (hnode : ∀ id < t.size, u.node? (f id) = (t.node? id).map (Node.relabel f))
    {anchor : NodeId} (hanchor : anchor < t.size) (kind : Diagnostic.Kind)
    (arguments : List String) {σ : Type} [RandomSource σ] (source : σ) (embedded : Bool)
    (s : Span) :
    u.render (f anchor) = t.render anchor ∧
      (Explainers.builtin : Explainers σ).hints kind ⟨u, f anchor, arguments⟩ source =
        (Explainers.builtin : Explainers σ).hints kind ⟨t, anchor, arguments⟩ source ∧
      ({ embedded } : LinkWriter).link? kind ⟨u, f anchor, arguments⟩ =
        ({ embedded } : LinkWriter).link? kind ⟨t, anchor, arguments⟩ ∧
      u.covering s = (t.covering s).map f := by
  obtain ⟨r, hr⟩ := exists_renumbering hf hroot hnode
  rw [← hr anchor hanchor]
  refine ⟨r.render anchor, (r.site anchor arguments).hints_builtin kind source,
    (r.site anchor arguments).link?_builtin kind embedded, ?_⟩
  rw [r.covering]
  exact Option.map_congr fun id hid => hr id (lt_size_of_covering hid)

/-- The declarator `x = 5` with the name stored first. -/
def nameFirst : Tree :=
  (Draft.toTree
    ⟨#[{ kind := .simpleName "x", span := ⟨0, 1⟩ }, { kind := .numberLit "5", span := ⟨4, 5⟩ },
      { kind := .declarator 0 (some 1) none, span := ⟨0, 5⟩ }]⟩
    2).toOption.get (by decide +kernel)

/-- The declarator `x = 5` with the number stored first. -/
def numberFirst : Tree :=
  (Draft.toTree
    ⟨#[{ kind := .numberLit "5", span := ⟨4, 5⟩ }, { kind := .simpleName "x", span := ⟨0, 1⟩ },
      { kind := .declarator 1 (some 0) none, span := ⟨0, 5⟩ }]⟩
    2).toOption.get (by decide +kernel)

/-- A type mismatch at the number of `x = 5` is explained alike in both trees,
where the number is node 1 and node 0. -/
theorem advice_eq_of_renumbered_declarator :
    numberFirst.render 0 = nameFirst.render 1 ∧
      (Explainers.builtin : Explainers ListedWords).hints .typeMismatch
          ⟨numberFirst, 0, ["float", "int"]⟩ ⟨[]⟩ =
        (Explainers.builtin : Explainers ListedWords).hints .typeMismatch
          ⟨nameFirst, 1, ["float", "int"]⟩ ⟨[]⟩ ∧
      ({ embedded := true } : LinkWriter).link? .typeMismatch ⟨numberFirst, 0, ["float", "int"]⟩ =
        ({ embedded := true } : LinkWriter).link? .typeMismatch
          ⟨nameFirst, 1, ["float", "int"]⟩ ∧
      numberFirst.covering ⟨4, 5⟩ = (nameFirst.covering ⟨4, 5⟩).map (Equiv.swap 0 1) := by
  have hname : nameFirst.size = 3 := by decide +kernel
  have hnumber : numberFirst.size = 3 := by decide +kernel
  have hswap : Set.BijOn (Equiv.swap 0 1) (Set.Iio nameFirst.size) (Set.Iio numberFirst.size) := by
    refine Equiv.bijOn _ fun id => ?_
    rw [hname, hnumber, Set.mem_Iio, Set.mem_Iio, Equiv.swap_apply_def]
    split
    · omega
    · split <;> omega
  have hroot : Equiv.swap 0 1 nameFirst.root = numberFirst.root := by decide +kernel
  have hnode : ∀ id < nameFirst.size,
      numberFirst.node? (Equiv.swap 0 1 id) =
        (nameFirst.node? id).map (Node.relabel (Equiv.swap 0 1)) := by
    decide +kernel
  have hanchor : 1 < nameFirst.size := by decide +kernel
  have hadvice := advice_eq_of_renumbered hswap hroot hnode hanchor .typeMismatch
    ["float", "int"] (⟨[]⟩ : ListedWords) true ⟨4, 5⟩
  rwa [show Equiv.swap 0 1 1 = 0 from rfl] at hadvice

end Tree

end Remedy
