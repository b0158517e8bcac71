import Remedy.Syntax.Tree

/-!
# Building trees

A `Draft` collects nodes; each push answers with the id that the node will
have. `Draft.toTree` turns the draft into a `Tree`, or says why it is none.

The check reads the child references in a fixed order, by ascending parent and
then in the parent's source order, and lets each one claim its child in a table
of parents. A reference fails if its child does not exist, does not stand
before the parent, or is claimed already, and the first failure is the answer.
An unknown root is reported before any reference is read, a claimed root after
all of them.
-/

namespace Remedy

/-- Why a draft is no tree. -/
inductive TreeFault where
  /-- A node lists a child that does not exist. -/
  | unknownChild (parent child : NodeId)
  /-- A node lists a child that does not stand before it. -/
  | lateChild (parent child : NodeId)
  /-- Two nodes, or one node twice, list the same child. -/
  | sharedChild (child first second : NodeId)
  /-- The root does not exist. -/
  | unknownRoot (root : NodeId)
  /-- The root is listed as a child. -/
  | ownedRoot (root parent : NodeId)
deriving DecidableEq

/-- The fault in words. -/
def TreeFault.message : TreeFault → String
  | unknownChild parent child =>
      "node " ++ parent.label ++ " refers to unknown child " ++ child.label
  | lateChild parent child =>
      "node " ++ parent.label ++ " refers to child " ++ child.label
        ++ ", which was not built before it"
  | sharedChild child first second =>
      "node " ++ child.label ++ " is claimed by both " ++ first.label ++ " and " ++ second.label
  | unknownRoot root => "root " ++ root.label ++ " is not in the tree"
  | ownedRoot root parent => "root " ++ root.label ++ " is a child of " ++ parent.label

/-- A tree under construction: the nodes pushed so far. -/
structure Draft where
  nodes : Array Node := #[]

namespace Draft

/-! ## Pushing nodes -/

/-- Add a node and answer its id. -/
def push (node : Node) : StateM Draft NodeId := fun d =>
  (d.nodes.size, ⟨d.nodes.push node⟩)

/-- Add a simple name. -/
def simpleName (identifier : String) : StateM Draft NodeId :=
  push { kind := .simpleName identifier }

/-- Add a built-in type. -/
def primitiveType (keyword : String) : StateM Draft NodeId :=
  push { kind := .primitiveType keyword }

/-- Add a type named by a class, after the simple name that it consists of. -/
def namedType (identifier : String) : StateM Draft NodeId := do
  let name ← simpleName identifier
  push { kind := .namedType name }

/-- Add an array type around an element type. -/
def arrayType (element : NodeId) (dimensions : Nat) : StateM Draft NodeId :=
  push { kind := .arrayType element dimensions }

/-- Add a number literal with its type. -/
def numberLit (token type : String) : StateM Draft NodeId :=
  push { kind := .numberLit token, resolved := some { element := type } }

/-- Add a string literal with the given content, which is put between quotes
as it stands. -/
def stringLit (content : String) : StateM Draft NodeId :=
  push { kind := .stringLit ("\"" ++ content ++ "\""), resolved := some { element := "String" } }

/-- Add a boolean literal. -/
def boolLit (value : Bool) : StateM Draft NodeId :=
  push { kind := .boolLit value, resolved := some { element := "boolean" } }

/-! ## References -/

/-- One entry of a node's list of children. -/
structure Reference where
  parent : NodeId
  child : NodeId
deriving DecidableEq

/-- All child references in the order in which they are checked. -/
def references (nodes : Array Node) : List Reference :=
  (List.range nodes.size).flatMap fun p => (childrenAt nodes p).map (Reference.mk p)

/-- Enter one reference into the table of parents. -/
def claim (parents : Array (Option NodeId)) (ref : Reference) :
    Except TreeFault (Array (Option NodeId)) :=
  match parents[ref.child]? with
  | none => .error (.unknownChild ref.parent ref.child)
  | some owner =>
      if ref.parent ≤ ref.child then .error (.lateChild ref.parent ref.child)
      else
        match owner with
        | some first => .error (.sharedChild ref.child first ref.parent)
        | none => .ok (parents.setIfInBounds ref.child (some ref.parent))

/-- The table of parents after all references of the array have claimed their
child, starting from a table without any parent. -/
def wire (nodes : Array Node) : Except TreeFault (Array (Option NodeId)) :=
  (references nodes).foldlM claim (Array.replicate nodes.size none)

/-! ## What a successful check has shown -/

theorem mem_references {nodes : Array Node} {ref : Reference} :
    ref ∈ references nodes ↔ ref.child ∈ childrenAt nodes ref.parent := by
  obtain ⟨p, c⟩ := ref
  simp only [references, List.mem_flatMap, List.mem_range, List.mem_map, Reference.mk.injEq]
  constructor
  · rintro ⟨_, _, _, h, rfl, rfl⟩
    exact h
  · intro h
    obtain ⟨node, hn, _⟩ := mem_childrenAt.mp h
    obtain ⟨hp, _⟩ := Array.getElem?_eq_some_iff.mp hn
    exact ⟨p, hp, c, h, rfl, rfl⟩

theorem map_child_references (nodes : Array Node) :
    (references nodes).map Reference.child =
      (List.range nodes.size).flatMap (childrenAt nodes) := by
  simp [references, List.map_flatMap, Function.comp_def]

theorem claim_eq_ok_iff {parents result : Array (Option NodeId)} {ref : Reference} :
    claim parents ref = .ok result ↔
      parents[ref.child]? = some none ∧ ref.child < ref.parent ∧
        result = parents.setIfInBounds ref.child (some ref.parent) := by
  unfold claim
  split
  next h => simp [h]
  next owner h =>
    split
    next hle => simp [Nat.not_lt.mpr hle]
    next hlt =>
      have hlt := Nat.not_le.mp hlt
      cases owner <;> simp [h, hlt, eq_comm]

/-- A run of claims that succeeds has found each child in the table, free, and
before its parent, and has written exactly the listed parents. -/
theorem foldlM_claim_eq_ok {refs : List Reference} {parents result : Array (Option NodeId)}
    (h : refs.foldlM claim parents = .ok result) :
    result.size = parents.size ∧
    (∀ ref ∈ refs, parents[ref.child]? = some none ∧ ref.child < ref.parent) ∧
    (refs.map Reference.child).Nodup ∧
    ∀ c p, result[c]? = some (some p) ↔ parents[c]? = some (some p) ∨ ⟨p, c⟩ ∈ refs := by
  induction refs generalizing parents with
  | nil =>
    cases h
    simp
  | cons ref rest ih =>
    rw [List.foldlM_cons] at h
    cases hc : claim parents ref with
    | error fault => rw [hc] at h; cases h
    | ok claimed =>
      rw [hc] at h
      obtain ⟨hfree, hlt, rfl⟩ := claim_eq_ok_iff.mp hc
      obtain ⟨hsize, hrefs, hnodup, hmem⟩ := ih h
      have hin : ref.child < parents.size := (Array.getElem?_eq_some_iff.mp hfree).1
      have hne : ∀ r ∈ rest, r.child ≠ ref.child := by
        intro r hr he
        have := (hrefs r hr).1
        simp [he, hin] at this
      refine ⟨by simpa using hsize, ?_, ?_, ?_⟩
      · intro r hr
        rcases List.mem_cons.mp hr with rfl | hr
        · exact ⟨hfree, hlt⟩
        · have hr' := hrefs r hr
          rw [Array.getElem?_setIfInBounds, if_neg (fun he => hne r hr he.symm)] at hr'
          exact hr'
      · rw [List.map_cons, List.nodup_cons]
        refine ⟨?_, hnodup⟩
        rw [List.mem_map]
        rintro ⟨r, hr, he⟩
        exact hne r hr he
      · intro c p
        rw [hmem, Array.getElem?_setIfInBounds]
        obtain ⟨q, d⟩ := ref
        by_cases hcd : d = c
        · subst hcd
          rw [if_pos rfl, if_pos hin, hfree]
          simp [eq_comm]
        · have hdc : c ≠ d := fun he => hcd he.symm
          rw [if_neg hcd]
          simp [hdc]

theorem wire_eq_ok {nodes : Array Node} {parents : Array (Option NodeId)}
    (h : wire nodes = .ok parents) :
    parents.size = nodes.size ∧
    (∀ p c : Nat, c ∈ childrenAt nodes p → c < p) ∧
    (∀ p, (childrenAt nodes p).Nodup) ∧
    ∀ c p, parents[c]? = some (some p) ↔ c ∈ childrenAt nodes p := by
  obtain ⟨hsize, hrefs, hnodup, hmem⟩ := foldlM_claim_eq_ok h
  refine ⟨by simpa using hsize, ?_, ?_, ?_⟩
  · intro p c hc
    exact (hrefs ⟨p, c⟩ (mem_references.mpr hc)).2
  · intro p
    by_cases hp : p < nodes.size
    · rw [map_child_references, List.Nodup, List.pairwise_flatMap] at hnodup
      exact hnodup.1 p (List.mem_range.mpr hp)
    · simp [childrenAt, Array.getElem?_eq_none (Nat.le_of_not_lt hp)]
  · intro c p
    rw [hmem, mem_references]
    simp [Array.getElem?_replicate]

/-! ## The tree of a draft -/

/-- The tree of the draft with the given root, or the first fault. -/
def toTree (d : Draft) (root : NodeId) : Except TreeFault Tree :=
  if hroot : root < d.nodes.size then
    match hw : wire d.nodes with
    | .error fault => .error fault
    | .ok parents =>
        have facts := wire_eq_ok hw
        have hin : root < parents.size := facts.1 ▸ hroot
        match hfree : parents[root] with
        | some parent => .error (.ownedRoot root parent)
        | none =>
            .ok
              { nodes := d.nodes
                parents := parents
                root := root
                parents_size := facts.1
                child_lt := facts.2.1
                children_nodup := facts.2.2.1
                parents_iff := facts.2.2.2
                root_lt := hroot
                root_free := by rw [Array.getElem?_eq_getElem hin, hfree] }
  else .error (.unknownRoot root)

end Draft

end Remedy
