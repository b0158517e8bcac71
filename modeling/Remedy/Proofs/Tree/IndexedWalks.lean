import Remedy.Proofs.Syntax.Glue
import Remedy.Proofs.Tree.Wiring
import Remedy.Site.ExpectedType
import Remedy.Syntax.Covering

/-!
# Walks over a bare node array

The queries of a finished tree are total functions, so their definitions cannot
show whether a position outside the node array is ever read or a search runs in a
circle. This module writes the three queries that go from node to node once
more, as a `Walk` over an array that need not belong to a tree. A walk fails

* where it reads a position that the array does not have;
* where it goes down to a node that does not stand before the one it comes from;
* where it has used up the steps that it was given.

Over an array without order a walk may fail in each of these ways. Over the
nodes of a finished tree none does: with one step more than the id it starts
from, a walk down gives the answer of the query, and a walk up needs no more
steps than there are nodes.
-/

namespace Remedy

/-- Why a walk fails. -/
inductive WalkFault where
  /-- A position outside the array was read. -/
  | outOfBounds (position : NodeId)
  /-- The next node does not stand before the one that the walk is at. -/
  | notBefore (current next : NodeId)
  /-- No step is left. -/
  | outOfSteps
deriving DecidableEq

/-- A computation over a node array that may fail on its way. -/
abbrev Walk := Except WalkFault

namespace Walk

/-! ## Reading and stepping -/

/-- The node at a position of the array. -/
def nodeAt (nodes : Array Node) (id : NodeId) : Walk Node :=
  match nodes[id]? with
  | some node => return node
  | none => throw (.outOfBounds id)

/-- Go on from one node to another that stands before it. -/
def goTo {α : Type} (current next : NodeId) (visit : NodeId → Walk α) : Walk α :=
  if next < current then visit next else throw (.notBefore current next)

/-! ## Rendering -/

/-- The text of one piece of a layout. An array creation looks at its type and
visits the element type in its place. -/
def piece (nodes : Array Node) (visit : NodeId → Walk String) : Piece → Walk String
  | .text s => return s
  | .node child => visit child
  | .elementType type => do
      let found ← nodeAt nodes type
      match found.kind with
      | .arrayType element _ => visit element
      | _ => visit type
  | .openPairs type given => do
      let found ← nodeAt nodes type
      match found.kind with
      | .arrayType _ dimensions => return bracketPairs (dimensions - given)
      | _ => return ""

/-- The text of a node, in at most the given number of nested steps. -/
def unparse (nodes : Array Node) : Nat → NodeId → Walk String
  | 0, _ => throw .outOfSteps
  | steps + 1, id => do
      let found ← nodeAt nodes id
      let visit := fun next => goTo id next (unparse nodes steps)
      let texts ← found.kind.layout.mapM (piece nodes visit)
      return String.join texts

/-- The text of a node, empty without a step for an id outside the array. -/
def render (nodes : Array Node) (steps : Nat) (id : NodeId) : Walk String :=
  if id < nodes.size then unparse nodes steps id else return ""

/-! ## Covering -/

/-- The span of the node at a position covers `s`. -/
def covers (nodes : Array Node) (s : Span) (id : NodeId) : Walk Bool := do
  let found ← nodeAt nodes id
  return decide (found.span.Covers s)

/-- The node at which the descent stops, after at most the given number of
steps. -/
def descend (nodes : Array Node) (s : Span) : Nat → NodeId → Walk NodeId
  | 0, _ => throw .outOfSteps
  | steps + 1, id => do
      let found ← nodeAt nodes id
      match ← found.kind.children.findM? (covers nodes s) with
      | none => return id
      | some c => goTo id c (descend nodes s steps)

/-- The node that a source range belongs to, if the root covers the range. -/
def covering (nodes : Array Node) (root : NodeId) (steps : Nat) (s : Span) :
    Walk (Option NodeId) :=
  match nodes[root]? with
  | none => return none
  | some found =>
      if found.span.Covers s then return some (← descend nodes s steps root) else return none

/-! ## Expected types -/

/-- The position of the first id that passes a test. -/
def position? (test : NodeId → Walk Bool) : List NodeId → Walk (Option Nat)
  | [] => return none
  | id :: rest => do
      if ← test id then return some 0
      return (← position? test rest).map (· + 1)

/-- The type of the parameter for the first argument written as `missing`. -/
def parameterFor? (t : Tree) (steps : Nat) (missing : String) (id : NodeId) :
    Walk (Option ResolvedType) :=
  match t.call? id with
  | none => return none
  | some call => do
      let written := fun argument => do return (← render t.nodes steps argument) == missing
      let found ← position? written call.arguments
      return do
        let position ← found
        let binding ← call.binding
        binding.parameters[position]?

/-- The type that a node implies. Only a cast and a call render other nodes for
it. -/
def typeImpliedBy? (t : Tree) (steps : Nat) (missing : String) (id : NodeId) :
    Walk (Option String) :=
  match t.kind? id with
  | some (.cast type _) => do return some (← render t.nodes steps type)
  | some (.call ..) => do
      return some ((← parameterFor? t steps missing id).elim fallbackType ResolvedType.name)
  | _ => return t.typeImpliedBy? missing id

/-- The type expected of an unknown name, found in at most the given number of
steps up. -/
def expectedType (t : Tree) (missing : String) : Nat → NodeId → Walk String
  | 0, _ => throw .outOfSteps
  | steps + 1, id =>
      match t.parent? id with
      | none => return fallbackType
      | some p => do
          match ← typeImpliedBy? t t.size missing p with
          | some type => return type
          | none => expectedType t missing steps p

/-! ## Walks that do not fail -/

theorem bind_of_ok {α β : Type} {x : Walk α} {f : α → Walk β} {a : α} (h : x = .ok a) :
    (x >>= f) = f a := by
  rw [h]
  rfl

theorem mapM_eq_ok {α β : Type} {f : α → Walk β} {g : α → β} {xs : List α}
    (h : ∀ x ∈ xs, f x = .ok (g x)) : xs.mapM f = .ok (xs.map g) := by
  induction xs with
  | nil => rfl
  | cons x rest ih =>
    have hrest := ih fun y hy => h y (List.mem_cons_of_mem _ hy)
    rw [List.mapM_cons, bind_of_ok (h x List.mem_cons_self), bind_of_ok hrest]
    rfl

theorem findM?_eq_ok {test : NodeId → Walk Bool} {p : NodeId → Bool} {ids : List NodeId}
    (h : ∀ id ∈ ids, test id = .ok (p id)) : ids.findM? test = .ok (ids.find? p) := by
  induction ids with
  | nil => rfl
  | cons id rest ih =>
    have hrest := ih fun other hother => h other (List.mem_cons_of_mem _ hother)
    rw [List.findM?, bind_of_ok (h id List.mem_cons_self), List.find?_cons, hrest]
    cases p id <;> rfl

theorem position?_eq_ok {test : NodeId → Walk Bool} {p : NodeId → Bool} {ids : List NodeId}
    (h : ∀ id ∈ ids, test id = .ok (p id)) : position? test ids = .ok (ids.findIdx? p) := by
  induction ids with
  | nil => rfl
  | cons id rest ih =>
    have hrest := ih fun other hother => h other (List.mem_cons_of_mem _ hother)
    rw [position?, bind_of_ok (h id List.mem_cons_self), List.findIdx?_cons, hrest]
    cases p id <;> rfl

theorem goTo_eq_ok {α : Type} {current next : Nat} {visit : NodeId → Walk α} {a : α}
    (hlt : next < current) (h : visit next = .ok a) : goTo current next visit = .ok a := by
  rw [goTo, if_pos hlt, h]

/-! ## Rendering a finished tree -/

variable {t : Tree}

theorem nodeAt_eq_ok {id : NodeId} (h : id < t.size) :
    ∃ node, t.node? id = some node ∧ nodeAt t.nodes id = .ok node := by
  have hnode : t.nodes[id]? = some t.nodes[id] := Array.getElem?_eq_getElem h
  refine ⟨t.nodes[id], hnode, ?_⟩
  rw [nodeAt, hnode]
  rfl

/-- The type whose bracket pairs a layout writes is a child of the node. -/
theorem mem_children_of_openPairs {kind : NodeKind} {type : NodeId} {given : Nat}
    (h : Piece.openPairs type given ∈ kind.layout) : type ∈ kind.children := by
  by_cases hnew : ∃ type sizes initial, kind = .newArray type sizes initial
  · obtain ⟨type', sizes, initial, rfl⟩ := hnew
    have htype : type = type' := by
      simp [NodeKind.layout, Piece.bracketed, Piece.after] at h
      exact h.1
    rw [htype]
    exact List.mem_cons_self
  · have hother : ∀ type sizes initial, kind ≠ .newArray type sizes initial :=
      fun type sizes initial hkind => hnew ⟨type, sizes, initial, hkind⟩
    have hplain := List.all_eq_true.mp (Piece.all_isPlain_layout hother) _ h
    cases hplain

/-- A piece of a node's layout can be read if the nodes before the node can be
visited. -/
theorem piece_eq_ok {id : Nat} {kind : NodeKind} (hkind : t.kind? id = some kind)
    {visit : NodeId → Walk String}
    (hvisit : ∀ next : Nat, next < id → visit next = .ok (t.render next)) {p : Piece}
    (hp : p ∈ kind.layout) : piece t.nodes visit p = .ok (t.renderPiece p) := by
  have hchild : ∀ {c : Nat}, c ∈ kind.children → c < id ∧ c < t.size := by
    intro c hc
    rw [← Tree.children_of_kind? hkind] at hc
    exact ⟨Tree.lt_of_mem_children hc, Tree.lt_size_of_mem_children hc⟩
  cases p with
  | text s => rfl
  | node child => exact hvisit child (hchild (mem_children_of_mem_layout hp rfl)).1
  | elementType type =>
    obtain ⟨hbefore, hin⟩ := hchild (mem_children_of_mem_layout hp rfl)
    obtain ⟨node, hnode, hread⟩ := nodeAt_eq_ok hin
    have hvisited : piece t.nodes visit (.elementType type) = visit (t.elementOf type) := by
      rw [piece, bind_of_ok hread, Tree.elementOf, Tree.kind?_of_node? hnode]
      cases node.kind <;> rfl
    rw [hvisited]
    exact hvisit _ (Nat.lt_of_le_of_lt (t.elementOf_le type) hbefore)
  | openPairs type given =>
    obtain ⟨_, hin⟩ := hchild (mem_children_of_openPairs hp)
    obtain ⟨node, hnode, hread⟩ := nodeAt_eq_ok hin
    rw [piece, bind_of_ok hread, Tree.renderPiece, Tree.dimensionsOf, Tree.kind?_of_node? hnode]
    cases node.kind with
    | arrayType element dimensions => rfl
    | _ => rw [Nat.zero_sub, bracketPairs_zero]; rfl

/-- Every call of the rendering goes to a smaller id, which the tree has. -/
theorem unparse_eq_ok {id steps : Nat} (hsteps : id < steps) (hin : id < t.size) :
    unparse t.nodes steps id = .ok (t.render id) := by
  induction steps generalizing id with
  | zero => omega
  | succ steps ih =>
    obtain ⟨node, hnode, hread⟩ := nodeAt_eq_ok hin
    have hkind := Tree.kind?_of_node? hnode
    have hvisit : ∀ next : Nat, next < id →
        goTo id next (unparse t.nodes steps) = .ok (t.render next) := by
      intro next hnext
      exact goTo_eq_ok hnext (ih (by omega) (by omega))
    have htexts := mapM_eq_ok fun p hp => piece_eq_ok hkind hvisit (p := p) hp
    rw [unparse, bind_of_ok hread, Tree.render_of_kind? hkind]
    exact bind_of_ok htexts

/-- An id outside the tree takes no step. -/
theorem render_eq_ok {id steps : Nat} (hsteps : id < t.size → id < steps) :
    render t.nodes steps id = .ok (t.render id) := by
  unfold render
  split
  next hin => exact unparse_eq_ok (hsteps hin) hin
  next hout =>
    have hnone : t.kind? id = none := by
      simp [Tree.kind?, Tree.node?, Array.getElem?_eq_none (Nat.le_of_not_lt hout)]
    rw [Tree.render_of_kind?_none hnone]
    rfl

/-! ## Searching a finished tree -/

theorem covers_eq_ok {s : Span} {id : NodeId} (hin : id < t.size) :
    covers t.nodes s id = .ok (t.covers id s) := by
  obtain ⟨node, hnode, hread⟩ := nodeAt_eq_ok hin
  rw [covers, bind_of_ok hread, Tree.covers, hnode]
  rfl

/-- Every step of the descent goes to a smaller id, which the tree has. -/
theorem descend_eq_ok {s : Span} {id steps : Nat} (hsteps : id < steps) (hin : id < t.size) :
    descend t.nodes s steps id = .ok (t.descend s id) := by
  induction steps generalizing id with
  | zero => omega
  | succ steps ih =>
    obtain ⟨node, hnode, hread⟩ := nodeAt_eq_ok hin
    have hchildren := Tree.children_of_kind? (Tree.kind?_of_node? hnode)
    have hfind : node.kind.children.findM? (covers t.nodes s) = .ok (t.coveringChild? id s) := by
      rw [← hchildren]
      exact findM?_eq_ok fun c hc => covers_eq_ok (Tree.lt_size_of_mem_children hc)
    rw [descend, bind_of_ok hread, bind_of_ok hfind]
    cases hchild : t.coveringChild? id s with
    | none =>
      rw [Tree.descend_of_none hchild]
      rfl
    | some c =>
      have hbefore := Tree.lt_of_mem_children (Tree.mem_children_of_coveringChild? hchild)
      rw [Tree.descend_of_some hchild]
      exact goTo_eq_ok hbefore (ih (by omega) (by omega))

theorem covering_eq_ok {s : Span} {steps : Nat} (hsteps : t.root < steps) :
    covering t.nodes t.root steps s = .ok (t.covering s) := by
  obtain ⟨node, hnode, _⟩ := nodeAt_eq_ok t.root_lt
  have hroot : t.nodes[t.root]? = some node := hnode
  rw [covering, hroot, Tree.covering, Tree.covers, hnode]
  simp only [Option.any_some, decide_eq_true_eq]
  split
  next => exact bind_of_ok (descend_eq_ok hsteps t.root_lt)
  next => rfl

/-! ## Going up a finished tree -/

theorem parameterFor?_eq_ok {missing : String} {id steps : Nat} (hsteps : t.size ≤ steps) :
    parameterFor? t steps missing id = .ok (t.parameterFor? id missing) := by
  unfold parameterFor? Tree.parameterFor?
  cases t.call? id with
  | none => rfl
  | some call =>
    have hwritten : ∀ argument ∈ call.arguments,
        (do return (← render t.nodes steps argument) == missing : Walk Bool) =
          .ok (t.render argument == missing) := by
      intro argument _
      exact bind_of_ok (render_eq_ok fun hin => Nat.lt_of_lt_of_le hin hsteps)
    exact bind_of_ok (position?_eq_ok hwritten)

theorem typeImpliedBy?_eq_ok {missing : String} {id steps : Nat} (hsteps : t.size ≤ steps) :
    typeImpliedBy? t steps missing id = .ok (t.typeImpliedBy? missing id) := by
  unfold typeImpliedBy?
  split
  next type expression hkind =>
    rw [bind_of_ok (render_eq_ok fun hin => Nat.lt_of_lt_of_le hin hsteps), Tree.typeImpliedBy?,
      hkind]
    rfl
  next receiver name arguments binding hkind =>
    rw [bind_of_ok (parameterFor?_eq_ok hsteps), Tree.typeImpliedBy?, hkind]
    rfl
  next => rfl

/-- Every step of the walk up goes to a greater id of the tree, so there are no
more steps than ids above the first one. -/
theorem expectedType_eq_ok {missing : String} {id steps : Nat} (hsteps : t.size - id < steps) :
    expectedType t missing steps id = .ok (t.expectedType id missing) := by
  induction steps generalizing id with
  | zero => omega
  | succ steps ih =>
    unfold expectedType Tree.expectedType
    cases hparent : t.parent? id with
    | none =>
      rw [Tree.ancestors_of_parent?_none hparent]
      rfl
    | some p =>
      have hlt := Tree.lt_of_parent? hparent
      have hin := Tree.parent?_lt_size hparent
      rw [Tree.ancestors_of_parent? hparent, List.findSome?_cons]
      show (typeImpliedBy? t t.size missing p >>= _) = _
      rw [bind_of_ok (typeImpliedBy?_eq_ok (Nat.le_refl _))]
      cases t.typeImpliedBy? missing p with
      | some type => rfl
      | none => exact ih (by omega)

end Walk

namespace Draft

/-- **Queries stay inside a finished tree and end.** Over the nodes of a tree that
was finished from any pushes and any root, a walk never reads a position outside
the array, and every step down goes to a smaller id, so that

* rendering any id, inside the tree or not, ends within one step more than the id,
  with the text of the query;
* the descent to the node of a source range ends within one step more than the
  root, with the node of the query;
* the search for an expected type, from any id and for any name, ends within one
  step more than there are nodes, with the type of the query. -/
theorem walks_eq_ok (nodes : List Node) (root : NodeId) (t : Tree)
    (h : (ofNodes nodes).toTree root = .ok t) :
    (∀ id steps : Nat, id < steps → Walk.render nodes.toArray steps id = .ok (t.render id)) ∧
      (∀ (s : Span) (steps : Nat), root < steps →
        Walk.covering nodes.toArray root steps s = .ok (t.covering s)) ∧
      ∀ (missing : String) (id steps : Nat), nodes.length < steps →
        Walk.expectedType t missing steps id = .ok (t.expectedType id missing) := by
  obtain ⟨_, _, _, hnodes, rfl⟩ := toTree_eq_ok_iff.mp h
  rw [ofNodes_nodes] at hnodes
  rw [← hnodes]
  refine ⟨?_, ?_, ?_⟩
  · intro id steps hsteps
    exact Walk.render_eq_ok fun _ => hsteps
  · intro s steps hsteps
    exact Walk.covering_eq_ok hsteps
  · intro missing id steps hsteps
    have hsize : t.size = nodes.length := by rw [Tree.size, hnodes, List.size_toArray]
    exact Walk.expectedType_eq_ok (by omega)

/-- The nodes of the creation `new int[n][]`. -/
def creationNodes : List Node :=
  [{ kind := .primitiveType "int" }, { kind := .arrayType 0 2 },
    { kind := .simpleName "n", span := ⟨8, 9⟩ }, { kind := .newArray 1 [2] none, span := ⟨0, 12⟩ }]

/-- The tree of the creation. -/
def creationTree : Tree := ((ofNodes creationNodes).toTree 3).toOption.get (by decide +kernel)

theorem eq_ok_get {ε α : Type} {x : Except ε α} (h : x.toOption.isSome = true) :
    x = .ok (x.toOption.get h) := by
  cases x with
  | ok a => rfl
  | error e => cases h

theorem toTree_ofNodes_creationNodes : (ofNodes creationNodes).toTree 3 = .ok creationTree :=
  eq_ok_get _

/-- In `new int[n][]` the creation is rendered through its array type, the range
of the name belongs to the name, and an integer is expected there. -/
theorem walks_eq_ok_creation :
    (ofNodes creationNodes).toTree 3 = .ok creationTree ∧
      Walk.render creationNodes.toArray 4 3 = .ok "new int[n][]" ∧
      Walk.covering creationNodes.toArray 3 4 ⟨8, 9⟩ = .ok (some 2) ∧
      Walk.expectedType creationTree "n" 5 2 = .ok "int" := by
  obtain ⟨hrender, hcovering, hexpected⟩ :=
    walks_eq_ok creationNodes 3 creationTree toTree_ofNodes_creationNodes
  refine ⟨toTree_ofNodes_creationNodes, ?_, ?_, ?_⟩
  · rw [hrender 3 4 (by decide)]
    exact congrArg Except.ok (by decide +kernel)
  · rw [hcovering ⟨8, 9⟩ 4 (by decide)]
    exact congrArg Except.ok (by decide +kernel)
  · rw [hexpected "n" 2 5 (by decide)]
    exact congrArg Except.ok (by decide +kernel)

/-- Over nodes that form no tree a walk leaves the array or turns in a circle. -/
example : Walk.render #[{ kind := .newArray 1 [] none }] 9 0 = .error (.outOfBounds 1) := rfl

example : Walk.render #[{ kind := .parenthesized 0 }] 9 0 = .error (.notBefore 0 0) := rfl

end Draft

end Remedy
