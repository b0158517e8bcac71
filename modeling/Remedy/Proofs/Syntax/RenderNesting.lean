import Remedy.Proofs.Text.ProperNesting
import Remedy.Syntax.Draft
import Remedy.Syntax.Render

/-!
# Rendered code nests

The brackets of rendered code come from two places: the layouts, and the texts
of the leaves. The code of every node nests in parentheses, square brackets and
braces if and only if the texts of the leaves do, which they do if they have no
bracket at all.

A layout is read piece by piece. By itself it closes what it opens, and what it
waits for where a child goes does not matter, since the child's own text nests.
The induction is on ids, which get smaller towards the leaves.
-/

namespace Remedy

/-- The text that a leaf is written with. -/
def NodeKind.leafText? : NodeKind → Option String
  | primitiveType keyword => some keyword
  | simpleName identifier => some identifier
  | numberLit token => some token
  | stringLit literal => some literal
  | charLit literal => some literal
  | _ => none

/-- No leaf of the tree has a bracket in its text. -/
def Tree.LeavesFree (t : Tree) : Prop :=
  ∀ node ∈ t.nodes, ∀ text ∈ node.kind.leafText?,
    ∀ c ∈ text.toList, BracketKinds.all.has c = false

instance (t : Tree) : Decidable t.LeavesFree :=
  decidable_of_iff
    (t.nodes.toList.all fun node => node.kind.leafText?.all fun text =>
      text.toList.all fun c => !BracketKinds.all.has c)
    (by
      simp only [Tree.LeavesFree, List.all_eq_true, Array.mem_toList_iff, Option.all_eq_true,
        Option.mem_def, Bool.not_eq_true'])

/-- Every leaf of the tree has a text that nests by itself. -/
def Tree.LeavesNest (t : Tree) : Prop :=
  ∀ node ∈ t.nodes, ∀ text ∈ node.kind.leafText?, BracketKinds.all.Nests text.toList

theorem Tree.LeavesFree.leavesNest {t : Tree} (h : t.LeavesFree) : t.LeavesNest :=
  fun node hnode text htext => BracketKinds.nests_of_free (h node hnode text htext)

namespace Piece

/-- Read the text of a piece, given the closers that are waited for. Children
and bracket pairs nest, so they are passed over. -/
def read (waiting : List Char) : Piece → Option (List Char)
  | text s => BracketKinds.all.readAll waiting s.toList
  | node _ => some waiting
  | elementType _ => some waiting
  | openPairs _ _ => some waiting

/-- Read the texts of a list of pieces. -/
def readAll (waiting : List Char) (pieces : List Piece) : Option (List Char) :=
  pieces.foldlM read waiting

variable (waiting : List Char)

theorem readAll_nil : readAll waiting [] = some waiting := rfl

theorem readAll_cons (piece : Piece) (rest : List Piece) :
    readAll waiting (piece :: rest) = (piece.read waiting).bind fun left => readAll left rest :=
  rfl

theorem readAll_append (front rest : List Piece) :
    readAll waiting (front ++ rest) =
      (readAll waiting front).bind fun left => readAll left rest :=
  List.foldlM_append

theorem readAll_text {s : String} (h : BracketKinds.all.Nests s.toList) :
    readAll waiting [text s] = some waiting := by
  rw [readAll_cons, read, h.readAll waiting]
  rfl

/-! ## Groups of pieces -/

theorem readAll_separated {separator : String} (h : BracketKinds.all.Nests separator.toList)
    (children : List NodeId) : readAll waiting (separated separator children) = some waiting := by
  unfold separated
  induction children with
  | nil => rfl
  | cons first rest ih =>
    cases rest with
    | nil => rfl
    | cons second rest =>
      show (BracketKinds.all.readAll waiting separator.toList).bind _ = _
      rw [h.readAll waiting]
      exact ih

/-- Groups that are read without effect can be repeated. -/
theorem readAll_flatMap {group : NodeId → List Piece}
    (h : ∀ child, readAll waiting (group child) = some waiting) (children : List NodeId) :
    readAll waiting (children.flatMap group) = some waiting := by
  induction children with
  | nil => rfl
  | cons first rest ih => rw [List.flatMap_cons, readAll_append, h, Option.bind_some, ih]

theorem readAll_inParens (children : List NodeId) :
    readAll waiting (inParens children) = some waiting := by
  have hopener : (text "(").read waiting = some (')' :: waiting) := rfl
  have hcommas : BracketKinds.all.Nests ", ".toList := rfl
  rw [inParens, List.cons_append, readAll_cons, hopener, Option.bind_some, readAll_append,
    readAll_separated _ hcommas, Option.bind_some]
  rfl

theorem readAll_lines (children : List NodeId) :
    readAll waiting (lines children) = some waiting :=
  readAll_flatMap waiting (fun _ => rfl) children

theorem readAll_bracketed (children : List NodeId) :
    readAll waiting (bracketed children) = some waiting :=
  readAll_flatMap waiting (fun _ => rfl) children

theorem readAll_after {lead : String} (h : BracketKinds.all.Nests lead.toList)
    (child : Option NodeId) : readAll waiting (after lead child) = some waiting := by
  apply readAll_flatMap
  intro child
  rw [readAll_cons, read, h.readAll waiting]
  rfl

theorem readAll_before {trail : String} (h : BracketKinds.all.Nests trail.toList)
    (child : Option NodeId) : readAll waiting (before trail child) = some waiting := by
  apply readAll_flatMap
  intro child
  exact readAll_text waiting h

end Piece

open Piece in
/-- A layout closes what it opens, as long as the node's own text does. -/
theorem NodeKind.readAll_layout {kind : NodeKind}
    (h : ∀ text, kind.leafText? = some text → BracketKinds.all.Nests text.toList)
    (waiting : List Char) : Piece.readAll waiting kind.layout = some waiting := by
  cases kind with
  | primitiveType s | simpleName s | numberLit s | stringLit s | charLit s =>
    exact readAll_text waiting (h s rfl)
  | boolLit value => cases value <;> rfl
  | arrayType element dimensions =>
    exact readAll_text waiting (BracketKinds.nests_bracketPairs dimensions)
  | prefixed operator operand => cases operator <;> rfl
  | postfixed operator operand => cases operator <;> rfl
  | binary operator left right => cases operator <;> rfl
  | methodDecl name returnType parameters body binding =>
    cases body <;>
      simp (disch := decide) [layout, readAll_nil, readAll_cons, readAll_append,
        readAll_inParens, readAll_before, Piece.read, BracketKinds.readAll, BracketKinds.read,
        BracketKinds.all, List.lookup_cons]
  | _ =>
    simp (disch := decide) [layout, readAll_nil, readAll_cons, readAll_append,
      readAll_separated, readAll_inParens, readAll_lines, readAll_bracketed, readAll_after,
      readAll_before, Piece.read, BracketKinds.readAll, BracketKinds.read, BracketKinds.all,
      List.lookup_cons]

namespace Tree

variable {t : Tree}

/-- A piece is read as its own text if its child nests. -/
theorem readAll_renderPiece {piece : Piece}
    (h : ∀ child, piece.child? = some child →
      BracketKinds.all.Nests (t.renderPiece piece).toList) (waiting : List Char) :
    BracketKinds.all.readAll waiting (t.renderPiece piece).toList = piece.read waiting := by
  cases piece with
  | text s => rfl
  | node child => exact (h child rfl).readAll waiting
  | elementType child => exact (h child rfl).readAll waiting
  | openPairs type given => exact (BracketKinds.nests_bracketPairs _).readAll waiting

theorem readAll_join_renderPiece {pieces : List Piece}
    (h : ∀ piece ∈ pieces, ∀ child, piece.child? = some child →
      BracketKinds.all.Nests (t.renderPiece piece).toList) (waiting : List Char) :
    BracketKinds.all.readAll waiting (String.join (pieces.map t.renderPiece)).toList =
      Piece.readAll waiting pieces := by
  induction pieces generalizing waiting with
  | nil => rfl
  | cons piece rest ih =>
    have hrest := ih fun p hp => h p (List.mem_cons_of_mem _ hp)
    rw [List.map_cons, String.join_cons, String.toList_append, BracketKinds.readAll_append,
      readAll_renderPiece (h piece List.mem_cons_self), Piece.readAll_cons]
    simp only [hrest]

theorem LeavesNest.nests (leaves : t.LeavesNest) (id : Nat) :
    BracketKinds.all.Nests (t.render id).toList := by
  induction id using Nat.strongRecOn with
  | ind id ih =>
    cases hk : t.kind? id with
    | none =>
      rw [render_of_kind?_none hk]
      exact BracketKinds.nests_nil
    | some kind =>
      have hchild : ∀ piece ∈ kind.layout, ∀ child, piece.child? = some child →
          BracketKinds.all.Nests (t.renderPiece piece).toList := by
        intro piece hpiece child hc
        -- A child has a smaller id, and the element type that is written in its
        -- place has one that is no greater.
        have hlt : child < id :=
          lt_of_mem_children (children_of_kind? hk ▸ mem_children_of_mem_layout hpiece hc)
        cases piece with
        | node c =>
          cases hc
          exact ih _ hlt
        | elementType c =>
          cases hc
          exact ih _ (Nat.lt_of_le_of_lt (elementOf_le t _) hlt)
        | text s => cases hc
        | openPairs type given => cases hc
      have hleaf : ∀ text, kind.leafText? = some text → BracketKinds.all.Nests text.toList := by
        intro text htext
        obtain ⟨node, hnode, rfl⟩ := Option.map_eq_some_iff.mp hk
        exact leaves node (Array.mem_of_getElem? hnode) text htext
      rw [render_of_kind? hk, BracketKinds.Nests, readAll_join_renderPiece hchild]
      exact NodeKind.readAll_layout hleaf []

theorem render_of_leafText? {id : NodeId} {kind : NodeKind} {text : String}
    (hk : t.kind? id = some kind) (htext : kind.leafText? = some text) : t.render id = text := by
  have hlayout : kind.layout = [.text text] := by
    cases kind <;> cases htext <;> rfl
  rw [render_of_kind? hk, hlayout, List.map_cons, List.map_nil, String.join_cons, String.join_nil,
    String.append_empty, renderPiece]

theorem kind?_of_identifier? {id : NodeId} {identifier : String}
    (h : t.identifier? id = some identifier) : t.kind? id = some (.simpleName identifier) := by
  unfold identifier? at h
  split at h
  next hkind =>
    cases h
    exact hkind
  next => cases h

theorem render_of_identifier? {id : NodeId} {identifier : String}
    (h : t.identifier? id = some identifier) : t.render id = identifier :=
  render_of_leafText? (kind?_of_identifier? h) rfl

/-- The leaves decide whether the code of the tree's nodes nests. -/
theorem leavesNest_iff :
    t.LeavesNest ↔ ∀ id : Nat, BracketKinds.all.Nests (t.render id).toList := by
  constructor
  · exact LeavesNest.nests
  · intro h node hnode text htext
    obtain ⟨id, hid⟩ := Array.getElem?_of_mem hnode
    have hk : t.kind? id = some node.kind := kind?_of_node? hid
    rw [← render_of_leafText? hk htext]
    exact h id

/-- **Rendered code nests.** If the texts of the leaves are free of brackets,
then the code of every node nests in all three kinds of brackets, and so does
the empty text of an id outside the tree. -/
theorem nests_render (t : Tree) (free : t.LeavesFree) (id : Nat) :
    BracketKinds.all.Nests (t.render id).toList :=
  leavesNest_iff.mp free.leavesNest id

/-- The tree of `new int[] {f(a[0])}`, braces and all. -/
def listTree : Tree :=
  (Draft.toTree
    ⟨#[{ kind := .primitiveType "int" }, { kind := .arrayType 0 1 }, { kind := .simpleName "f" },
      { kind := .simpleName "a" }, { kind := .numberLit "0" }, { kind := .arrayAccess 3 4 },
      { kind := .call none 2 [5] none }, { kind := .arrayLit [6] },
      { kind := .newArray 1 [] (some 7) }]⟩
    8).toOption.get (by decide +kernel)

theorem nests_render_list :
    listTree.LeavesFree ∧ BracketKinds.all.Nests (listTree.render 8).toList := by
  have hfree : listTree.LeavesFree := by decide +kernel
  exact ⟨hfree, nests_render listTree hfree 8⟩

end Tree

end Remedy
