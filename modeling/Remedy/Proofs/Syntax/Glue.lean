import Remedy.Proofs.Syntax.Relabelling
import Remedy.Syntax.Draft
import Remedy.Syntax.Render

/-!
# The text between the children of a node

The written form of a node is the written forms of its children with glue
around them: a text before the first child, one between any two neighbours, and
one behind the last child. `weave` puts glue and children together, and
`NodeKind.glue` is the glue that a layout holds.

The glue is a matter of the node's `NodeKind.shape` alone: its constructor,
operator and own text, its dimension count, the lengths of its lists and which
of its optional children are there. Neither the ids of the children nor their
contents count.

An array creation from an array type is the one node that does not quote a
child as it stands. It quotes the element type instead, and the dimension count
of the array type decides how many bracket pairs follow.
-/

namespace Remedy

/-- Glue and children in turns, glue first and last. -/
def weave : List String → List String → String
  | [], _ => ""
  | w :: _, [] => w
  | w :: ws, r :: rs => w ++ r ++ weave ws rs

namespace Piece

/-- The text that a piece stands for by itself, where the array type that the
node creates from has the given number of dimensions. A child has none. -/
def ownText? (dimensions : Nat) : Piece → Option String
  | text s => some s
  | openPairs _ given => some (bracketPairs (dimensions - given))
  | node _ => none
  | elementType _ => none

/-- Put a piece's own text in front of the glue behind it; a child opens a new
entry. -/
def prependGlue : Option String → List String → List String
  | none, ws => "" :: ws
  | some s, [] => [s]
  | some s, w :: ws => (s ++ w) :: ws

/-- The glue of a list of pieces: their own texts joined up from child to
child. -/
def glue (dimensions : Nat) (pieces : List Piece) : List String :=
  pieces.foldr (fun piece => prependGlue (piece.ownText? dimensions)) [""]

variable (dimensions : Nat)

theorem glue_cons (piece : Piece) (rest : List Piece) :
    glue dimensions (piece :: rest) =
      prependGlue (piece.ownText? dimensions) (glue dimensions rest) := rfl

/-- There is one text more than there are children. -/
theorem length_glue (pieces : List Piece) :
    (glue dimensions pieces).length = (pieces.filterMap child?).length + 1 := by
  induction pieces with
  | nil => rfl
  | cons piece rest ih =>
    rw [glue_cons, List.filterMap_cons]
    -- An own text makes the first entry longer, a child puts an entry in front.
    cases hrest : glue dimensions rest with
    | nil => simp [hrest] at ih
    | cons w ws => cases piece <;> simp_all [ownText?, child?, prependGlue]

/-- Own text in front of the pieces goes in front of the woven text. -/
theorem weave_prependGlue_some (s : String) (pieces : List Piece) (rs : List String) :
    weave (prependGlue (some s) (glue dimensions pieces)) rs =
      s ++ weave (glue dimensions pieces) rs := by
  have hlength := length_glue dimensions pieces
  cases hglue : glue dimensions pieces with
  | nil => simp [hglue] at hlength
  | cons w ws => cases rs <;> simp [prependGlue, weave, String.append_assoc]

theorem weave_prependGlue_none (r : String) (ws rs : List String) :
    weave (prependGlue none ws) (r :: rs) = r ++ weave ws rs := by
  simp [prependGlue, weave]

theorem ownText?_relabel (f : NodeId → NodeId) (piece : Piece) :
    (piece.relabel f).ownText? dimensions = piece.ownText? dimensions := by
  cases piece <;> rfl

theorem glue_map_relabel (f : NodeId → NodeId) (pieces : List Piece) :
    glue dimensions (pieces.map (relabel f)) = glue dimensions pieces := by
  simp only [glue, List.foldr_map, ownText?_relabel]

/-- The piece is text or a child as it stands. -/
def isPlain : Piece → Bool
  | text _ => true
  | node _ => true
  | elementType _ => false
  | openPairs _ _ => false

theorem all_isPlain_separated (separator : String) (children : List NodeId) :
    (separated separator children).all isPlain = true := by
  unfold separated
  induction children with
  | nil => rfl
  | cons first rest ih =>
    cases rest with
    | nil => rfl
    | cons second rest => simpa [List.intersperse, isPlain] using ih

theorem all_isPlain_inParens (children : List NodeId) :
    (inParens children).all isPlain = true := by
  rw [inParens, List.cons_append, List.all_cons, List.all_append, all_isPlain_separated]
  rfl

theorem all_isPlain_lines (children : List NodeId) : (lines children).all isPlain = true := by
  simp [lines, isPlain]

theorem all_isPlain_bracketed (children : List NodeId) :
    (bracketed children).all isPlain = true := by
  simp [bracketed, isPlain]

theorem all_isPlain_after (lead : String) (child : Option NodeId) :
    (after lead child).all isPlain = true := by
  simp [after, isPlain]

theorem all_isPlain_before (trail : String) (child : Option NodeId) :
    (before trail child).all isPlain = true := by
  simp [before, isPlain]

/-- A node other than an array creation quotes its children as they stand. -/
theorem all_isPlain_layout {kind : NodeKind}
    (h : ∀ type sizes initial, kind ≠ .newArray type sizes initial) :
    kind.layout.all isPlain = true := by
  cases kind with
  | newArray type sizes initial => exact absurd rfl (h type sizes initial)
  | methodDecl name returnType parameters body binding =>
    cases body <;>
      simp [NodeKind.layout, isPlain, all_isPlain_inParens, all_isPlain_before, -List.all_eq_true]
  | _ =>
    simp [NodeKind.layout, isPlain, all_isPlain_separated, all_isPlain_inParens,
      all_isPlain_lines, all_isPlain_after, all_isPlain_before, -List.all_eq_true]

end Piece

namespace NodeKind

/-- The node without the bindings that the front end attached. -/
def unbound : NodeKind → NodeKind
  | methodDecl name returnType parameters body _ =>
      methodDecl name returnType parameters body none
  | declarator name initial _ => declarator name initial none
  | call receiver name arguments _ => call receiver name arguments none
  | kind => kind

/-- What a node is by itself: all child ids are made equal, so that only their
number and presence are left, and the bindings are dropped. -/
def shape (kind : NodeKind) : NodeKind := (kind.relabel fun _ => 0).unbound

/-- The texts around the children of a node. Only an array creation looks at
the dimensions of an array type. -/
def glue (kind : NodeKind) (dimensions : Nat) : List String := Piece.glue dimensions kind.layout

theorem layout_unbound (kind : NodeKind) : kind.unbound.layout = kind.layout := by
  cases kind <;> rfl

/-- The shape of a node decides its glue. -/
theorem glue_shape (kind : NodeKind) (dimensions : Nat) :
    kind.shape.glue dimensions = kind.glue dimensions := by
  rw [glue, shape, layout_unbound, layout_relabel, Piece.glue_map_relabel, glue]

theorem length_glue (kind : NodeKind) (dimensions : Nat) :
    (kind.glue dimensions).length = kind.children.length + 1 := by
  rw [glue, Piece.length_glue, filterMap_child?_layout]

end NodeKind

namespace Tree

variable {t : Tree}

/-- The text that a piece quotes from below the node, if the piece is a child. -/
def quoted? (t : Tree) : Piece → Option String
  | .text _ => none
  | .node child => some (t.render child)
  | .elementType child => some (t.render (t.elementOf child))
  | .openPairs _ _ => none

/-- The dimensions of the array type that a node creates from, if it creates
from one. -/
def createdDimensions (t : Tree) : NodeKind → Nat
  | .newArray type _ _ => t.dimensionsOf type
  | _ => 0

/-- The text of a list of pieces is the quoted texts with the glue around them. -/
theorem join_renderPiece_eq_weave {dimensions : Nat} {pieces : List Piece}
    (h : ∀ type given, .openPairs type given ∈ pieces → t.dimensionsOf type = dimensions) :
    String.join (pieces.map t.renderPiece) =
      weave (Piece.glue dimensions pieces) (pieces.filterMap t.quoted?) := by
  induction pieces with
  | nil => rfl
  | cons piece rest ih =>
    have hrest := ih fun type given hmem => h type given (List.mem_cons_of_mem _ hmem)
    rw [List.map_cons, String.join_cons, hrest, Piece.glue_cons]
    cases piece with
    | text s => exact (Piece.weave_prependGlue_some ..).symm
    | node child => exact (Piece.weave_prependGlue_none ..).symm
    | elementType child => exact (Piece.weave_prependGlue_none ..).symm
    | openPairs type given =>
      rw [← h type given List.mem_cons_self]
      exact (Piece.weave_prependGlue_some ..).symm

/-! ## What a layout quotes -/

theorem filterMap_quoted?_of_plain {pieces : List Piece} (h : pieces.all Piece.isPlain = true) :
    pieces.filterMap t.quoted? = (pieces.filterMap Piece.child?).map t.render := by
  induction pieces with
  | nil => rfl
  | cons piece rest ih =>
    rw [List.all_cons, Bool.and_eq_true] at h
    rw [List.filterMap_cons, List.filterMap_cons, ih h.2]
    cases piece with
    | text s => rfl
    | node child => rfl
    | elementType child => cases h.1
    | openPairs type given => cases h.1

/-- An array creation quotes the element type, the sizes and the initializer. -/
theorem filterMap_quoted?_newArray (type : NodeId) (sizes : List NodeId)
    (initial : Option NodeId) :
    (NodeKind.newArray type sizes initial).layout.filterMap t.quoted? =
      t.render (t.elementOf type) :: (sizes ++ initial.toList).map t.render := by
  have hsizes := filterMap_quoted?_of_plain (t := t) (Piece.all_isPlain_bracketed sizes)
  have hinitial := filterMap_quoted?_of_plain (t := t) (Piece.all_isPlain_after " " initial)
  rw [Piece.filterMap_child?_bracketed] at hsizes
  rw [Piece.filterMap_child?_after] at hinitial
  simp [NodeKind.layout, List.filterMap_cons, quoted?, hsizes, hinitial]

theorem elementOf_of_not_arrayType {type : NodeId}
    (h : ∀ element dimensions, t.kind? type ≠ some (.arrayType element dimensions)) :
    t.elementOf type = type ∧ t.dimensionsOf type = 0 := by
  unfold elementOf dimensionsOf
  constructor
  · split
    next element dimensions hk => exact absurd hk (h element dimensions)
    next => rfl
  · split
    next element dimensions hk => exact absurd hk (h element dimensions)
    next => rfl

theorem elementOf_of_arrayType {type element : NodeId} {dimensions : Nat}
    (h : t.kind? type = some (.arrayType element dimensions)) :
    t.elementOf type = element ∧ t.dimensionsOf type = dimensions := by
  simp [elementOf, dimensionsOf, h]

/-! ## Nodes and their children -/

/-- The node is an array creation from an array type. -/
def LooksThrough (t : Tree) (kind : NodeKind) : Prop :=
  ∃ type sizes initial element dimensions,
    kind = .newArray type sizes initial ∧ t.kind? type = some (.arrayType element dimensions)

/-- Every node is woven from its glue and the texts that its layout quotes. -/
theorem render_eq_weave {id : NodeId} {kind : NodeKind} (h : t.kind? id = some kind) :
    t.render id =
      weave (kind.glue (t.createdDimensions kind)) (kind.layout.filterMap t.quoted?) := by
  rw [render_of_kind? h]
  apply join_renderPiece_eq_weave
  intro type given hmem
  cases kind with
  | newArray type' sizes initial =>
    have htype : type = type' := by
      simp [NodeKind.layout, Piece.bracketed, Piece.after] at hmem
      exact hmem.1
    rw [htype]
    rfl
  | _ =>
    have hplain := List.all_eq_true.mp (Piece.all_isPlain_layout (by simp)) _ hmem
    cases hplain

theorem render_eq_weave_children {id : NodeId} {kind : NodeKind} (h : t.kind? id = some kind)
    (hthrough : ¬ t.LooksThrough kind) :
    t.render id = weave (kind.glue 0) ((t.children id).map t.render) := by
  rw [render_eq_weave h, children_of_kind? h]
  by_cases hnew : ∃ type sizes initial, kind = .newArray type sizes initial
  · obtain ⟨type, sizes, initial, rfl⟩ := hnew
    -- Any type but an array type is its own element type and has no dimensions.
    have hnot : ∀ element dimensions, t.kind? type ≠ some (.arrayType element dimensions) :=
      fun element dimensions hk =>
        hthrough ⟨type, sizes, initial, element, dimensions, rfl, hk⟩
    obtain ⟨helement, hdimensions⟩ := elementOf_of_not_arrayType hnot
    rw [filterMap_quoted?_newArray, helement, createdDimensions, hdimensions]
    rfl
  · have hother : ∀ type sizes initial, kind ≠ .newArray type sizes initial :=
      fun type sizes initial hk => hnew ⟨type, sizes, initial, hk⟩
    have hdimensions : t.createdDimensions kind = 0 := by
      unfold createdDimensions
      split
      next type sizes initial => exact absurd rfl (hother type sizes initial)
      next => rfl
    rw [filterMap_quoted?_of_plain (Piece.all_isPlain_layout hother), filterMap_child?_layout,
      hdimensions]

/-! ## Creations from an array type -/

theorem join_bracketed (sizes : List NodeId) :
    String.join ((Piece.bracketed sizes).map t.renderPiece) =
      String.join (sizes.map fun size => "[" ++ t.render size ++ "]") := by
  induction sizes with
  | nil => rfl
  | cons size rest ih =>
    have hcons : Piece.bracketed (size :: rest) =
        .text "[" :: .node size :: .text "]" :: Piece.bracketed rest := rfl
    simp [hcons, renderPiece, String.join_cons, ih, String.append_assoc]

/-- The bracket pairs of a creation as one list: the given sizes, then pairs with
nothing inside. -/
theorem render_newArray_of_arrayType {id type element : NodeId} {sizes : List NodeId}
    {initial : Option NodeId} {dimensions : Nat}
    (h : t.kind? id = some (.newArray type sizes initial))
    (htype : t.kind? type = some (.arrayType element dimensions)) :
    t.render id =
      "new " ++ t.render element
        ++ String.join ((sizes.map t.render ++ List.replicate (dimensions - sizes.length) "").map
            fun inside => "[" ++ inside ++ "]")
        ++ String.join (initial.toList.map fun child => " " ++ t.render child) := by
  obtain ⟨helement, hdimensions⟩ := elementOf_of_arrayType htype
  have hinitial : String.join ((Piece.after " " initial).map t.renderPiece) =
      String.join (initial.toList.map fun child => " " ++ t.render child) := by
    cases initial <;> simp [Piece.after, renderPiece, String.join_cons]
  rw [render_of_kind? h]
  simp [NodeKind.layout, renderPiece, String.join_cons, String.join_append, join_bracketed,
    helement, hdimensions, hinitial, bracketPairs, Function.comp_def, String.append_assoc]

/-- **Rendering quotes the children.** Every node of a tree is written as its
children in source order, each once, woven with the glue of its shape.

An array creation from an array type quotes the element of that type in place
of the type, and after it stand as many bracket pairs as the larger of the
type's dimension count and the number of given sizes. -/
theorem render_weaves_children (t : Tree) (id : Nat) (hid : id < t.size) :
    ∃ kind, t.kind? id = some kind ∧
      (¬ t.LooksThrough kind →
        (kind.shape.glue 0).length = (t.children id).length + 1 ∧
          t.render id = weave (kind.shape.glue 0) ((t.children id).map t.render)) ∧
      ∀ type sizes initial element dimensions, kind = .newArray type sizes initial →
        t.kind? type = some (.arrayType element dimensions) →
          (kind.shape.glue dimensions).length = (t.children id).length + 1 ∧
          t.render id = weave (kind.shape.glue dimensions)
            (t.render element :: (sizes ++ initial.toList).map t.render) ∧
          ∃ pairs : List String,
            pairs = sizes.map t.render ++ List.replicate (dimensions - sizes.length) "" ∧
            pairs.length = max dimensions sizes.length ∧
            t.render id = "new " ++ t.render element
              ++ String.join (pairs.map fun inside => "[" ++ inside ++ "]")
              ++ String.join (initial.toList.map fun child => " " ++ t.render child) := by
  have hnode : t.node? id = some t.nodes[id] := Array.getElem?_eq_getElem hid
  have hk := kind?_of_node? hnode
  have hlength : ∀ dimensions, (t.nodes[id].kind.shape.glue dimensions).length =
      (t.children id).length + 1 := by
    intro dimensions
    rw [NodeKind.glue_shape, NodeKind.length_glue, children_of_kind? hk]
  refine ⟨t.nodes[id].kind, hk, ?_, ?_⟩
  · intro hthrough
    rw [NodeKind.glue_shape]
    exact ⟨NodeKind.glue_shape _ 0 ▸ hlength 0, render_eq_weave_children hk hthrough⟩
  · intro type sizes initial element dimensions hnew htype
    refine ⟨hlength dimensions, ?_, _, rfl, ?_, ?_⟩
    · obtain ⟨helement, hdimensions⟩ := elementOf_of_arrayType htype
      rw [NodeKind.glue_shape, render_eq_weave hk, hnew, filterMap_quoted?_newArray, helement,
        createdDimensions, hdimensions]
    · rw [List.length_append, List.length_map, List.length_replicate]
      omega
    · exact render_newArray_of_arrayType (hnew ▸ hk) htype

/-- The tree of `new int[5][]`. -/
def gridTree : Tree :=
  (Draft.toTree
    ⟨#[{ kind := .primitiveType "int" }, { kind := .arrayType 0 2 }, { kind := .numberLit "5" },
      { kind := .newArray 1 [2] none }]⟩
    3).toOption.get (by decide +kernel)

/-- In `new int[5][]` two bracket pairs stand behind the element type, the
first around the size. -/
theorem render_weaves_children_grid :
    3 < gridTree.size ∧ gridTree.render 3 = weave ["new ", "[", "][]"] ["int", "5"] := by
  have hid : 3 < gridTree.size := by decide +kernel
  have hnew : gridTree.kind? 3 = some (.newArray 1 [2] none) := by decide +kernel
  have htype : gridTree.kind? 1 = some (.arrayType 0 2) := by decide +kernel
  have hint : gridTree.kind? 0 = some (.primitiveType "int") := by decide +kernel
  have hfive : gridTree.kind? 2 = some (.numberLit "5") := by decide +kernel
  have helement : gridTree.render 0 = "int" := render_of_kind? hint
  have hsize : gridTree.render 2 = "5" := render_of_kind? hfive
  obtain ⟨kind, hk, _, hthrough⟩ := render_weaves_children gridTree 3 hid
  obtain rfl := Option.some.inj (hk.symm.trans hnew)
  obtain ⟨_, hrender, _⟩ := hthrough 1 [2] none 0 2 rfl htype
  rw [helement] at hrender
  simp only [Option.toList_none, List.append_nil, List.map_cons, List.map_nil, hsize] at hrender
  exact ⟨hid, hrender⟩

end Tree

end Remedy
