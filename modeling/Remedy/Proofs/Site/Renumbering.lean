import Remedy.Proofs.Tree.Renumbering
import Remedy.Site.ExpectedType

/-!
# Look-ups under a renumbering

A site and the same site in a renumbered tree answer alike. A look-up that gives
texts or types gives the same ones, a look-up that gives nodes gives the
renumbered ones, and a look-up that fails does so with the same error, about the
renumbered node. `Site.Renumbering.Carries` says this of one pair of look-ups.
It goes through `do` blocks, so a look-up made of others needs one step for each
of its lines.
-/

namespace Remedy

/-- The parts of a call under other ids. -/
def CallParts.relabel (f : NodeId → NodeId) (parts : CallParts) : CallParts :=
  { parts with arguments := parts.arguments.map f }

/-- The parts of a method declaration under other ids. -/
def MethodParts.relabel (f : NodeId → NodeId) (parts : MethodParts) : MethodParts :=
  { parts with returnType := parts.returnType.map f, parameters := parts.parameters.map f }

/-- The error about the renumbered node. -/
def SiteError.relabel (f : NodeId → NodeId) : SiteError → SiteError
  | wrongShape expected node => wrongShape expected (f node)
  | other => other

namespace Tree.Renumbering

variable {t u : Tree} (r : Renumbering t u)

/-! ## Shapes -/

theorem declarator? (id : NodeId) : u.declarator? (r.new id) = t.declarator? id := by
  rw [Tree.declarator?, Tree.declarator?, r.kind?]
  cases t.kind? id with
  | none => rfl
  | some kind =>
    cases kind with
    | declarator name initial binding =>
      simp only [Option.map_some, NodeKind.relabel, r.identifier?]
    | _ => rfl

theorem arrayElement? (id : NodeId) :
    u.arrayElement? (r.new id) = (t.arrayElement? id).map r.new := by
  rw [Tree.arrayElement?, Tree.arrayElement?, r.kind?]
  cases t.kind? id with
  | none => rfl
  | some kind => cases kind <;> rfl

theorem createdElement? (id : NodeId) :
    u.createdElement? (r.new id) = (t.createdElement? id).map r.new := by
  rw [Tree.createdElement?, Tree.createdElement?, r.kind?]
  cases t.kind? id with
  | none => rfl
  | some kind =>
    cases kind with
    | newArray type sizes initial => simp only [Option.map_some, NodeKind.relabel, r.elementOf]
    | _ => rfl

theorem declaredAt? (id : NodeId) :
    u.declaredAt? (r.new id) = (t.declaredAt? id).map (Option.map r.new) := by
  rw [Tree.declaredAt?, Tree.declaredAt?, r.kind?]
  cases t.kind? id with
  | none => rfl
  | some kind => cases kind <;> simp [NodeKind.relabel]

theorem call? (id : NodeId) :
    u.call? (r.new id) = (t.call? id).map (CallParts.relabel r.new) := by
  rw [Tree.call?, Tree.call?, r.kind?]
  cases t.kind? id with
  | none => rfl
  | some kind =>
    cases kind with
    | call receiver name arguments binding =>
      simp only [Option.map_some, NodeKind.relabel, r.identifier?, Option.map_map]
      rfl
    | _ => rfl

theorem method? (id : NodeId) :
    u.method? (r.new id) = (t.method? id).map (MethodParts.relabel r.new) := by
  rw [Tree.method?, Tree.method?, r.kind?]
  cases t.kind? id with
  | none => rfl
  | some kind =>
    cases kind with
    | methodDecl name returnType parameters body binding =>
      simp only [Option.map_some, NodeKind.relabel, r.identifier?, Option.map_map]
      rfl
    | _ => rfl

theorem parameterType? (id : NodeId) : u.parameterType? (r.new id) = t.parameterType? id := by
  rw [Tree.parameterType?, Tree.parameterType?, r.kind?]
  cases t.kind? id with
  | none => rfl
  | some kind =>
    cases kind with
    | parameter type name => simp only [Option.map_some, NodeKind.relabel, r.render]
    | _ => rfl

/-! ## Searches along the ancestors -/

/-- A search that answers alike at every node answers alike along a walk. -/
theorem findSome?_map {α β : Type} {p : NodeId → Option α} {q : NodeId → Option β} {f : α → β}
    (h : ∀ id, q (r.new id) = (p id).map f) (ids : List NodeId) :
    (ids.map r.new).findSome? q = (ids.findSome? p).map f := by
  rw [List.findSome?_map, List.map_findSome?]
  congr 1
  funext id
  exact h id

theorem declaratorAround? (id : NodeId) :
    u.declaratorAround? (r.new id) = t.declaratorAround? id := by
  rw [Tree.declaratorAround?, Tree.declaratorAround?, r.lineage, r.findSome?_map r.declaredAt?]
  cases (t.lineage id).findSome? t.declaredAt? with
  | none => rfl
  | some declared =>
    cases declared with
    | none => rfl
    | some declarator => exact r.declarator? declarator

theorem methodAround? (id : NodeId) :
    u.methodAround? (r.new id) = (t.methodAround? id).map (MethodParts.relabel r.new) := by
  rw [Tree.methodAround?, Tree.methodAround?, r.lineage, r.findSome?_map r.method?]

theorem parameterFor? (id : NodeId) (missing : String) :
    u.parameterFor? (r.new id) missing = t.parameterFor? id missing := by
  have hposition : ∀ arguments : List NodeId,
      (arguments.map r.new).findIdx? (fun argument => u.render argument == missing) =
        arguments.findIdx? fun argument => t.render argument == missing := by
    intro arguments
    rw [List.findIdx?_map]
    congr 1
    funext argument
    exact congrArg (· == missing) (r.render argument)
  rw [Tree.parameterFor?, Tree.parameterFor?, r.call?]
  cases t.call? id with
  | none => rfl
  | some parts =>
    simp only [Option.map_some, CallParts.relabel, Option.bind_eq_bind, Option.bind_some, hposition]

theorem typeImpliedBy? (missing : String) (id : NodeId) :
    u.typeImpliedBy? missing (r.new id) = t.typeImpliedBy? missing id := by
  rw [Tree.typeImpliedBy?, Tree.typeImpliedBy?, r.kind?]
  cases t.kind? id with
  | none => rfl
  | some kind =>
    cases kind with
    | prefixed operator operand => cases operator <;> rfl
    | _ =>
      simp only [Option.map_some, NodeKind.relabel, r.type?, r.render, r.declarator?,
        r.parameterFor?]

theorem expectedType (id : NodeId) (missing : String) :
    u.expectedType (r.new id) missing = t.expectedType id missing := by
  have himplied : ∀ id, u.typeImpliedBy? missing (r.new id) =
      (t.typeImpliedBy? missing id).map fun type => type := by
    intro id
    rw [r.typeImpliedBy?, Option.map_id']
  rw [Tree.expectedType, Tree.expectedType, r.ancestors, r.findSome?_map himplied, Option.map_id']

end Tree.Renumbering

/-- The site `s'` is the site `s` after a renumbering of its tree. -/
structure Site.Renumbering (s s' : Site) extends Tree.Renumbering s.tree s'.tree where
  anchor : s'.anchor = new s.anchor
  arguments : s'.arguments = s.arguments

namespace Site.Renumbering

variable {s s' : Site}

/-! ## Look-ups that end alike -/

/-- The look-up `y` finds what `x` finds, carried over by `f`, or fails as `x`
does. -/
def Carries (r : Renumbering s s') {α β : Type} (f : α → β) (x : Except SiteError α)
    (y : Except SiteError β) : Prop :=
  y = (x.map f).mapError (SiteError.relabel r.new)

variable {r : Renumbering s s'} {α β γ δ : Type} {f : α → β} {g : γ → δ}

theorem Carries.pure {a : α} {b : β} (h : b = f a) : r.Carries f (pure a) (pure b) :=
  congrArg Except.ok h

theorem Carries.throw {e e' : SiteError} (h : e' = e.relabel r.new) :
    r.Carries f (throw e) (throw e') :=
  congrArg Except.error h

theorem Carries.bind {x : Except SiteError α} {y : Except SiteError β}
    {after : α → Except SiteError γ} {after' : β → Except SiteError δ} (hx : r.Carries f x y)
    (hafter : ∀ a, r.Carries g (after a) (after' (f a))) :
    r.Carries g (x >>= after) (y >>= after') := by
  cases x with
  | error e =>
    rw [hx]
    rfl
  | ok a =>
    rw [hx]
    exact hafter a

theorem Carries.require {value : Option α} {value' : Option β} {e e' : SiteError}
    (hvalue : value' = value.map f) (he : e' = e.relabel r.new) :
    r.Carries f (require value e) (require value' e') := by
  subst hvalue he
  cases value <;> rfl

theorem Carries.require_same {value value' : Option α} {e e' : SiteError}
    (hvalue : value' = value) (he : e' = e.relabel r.new) :
    r.Carries id (Remedy.require value e) (Remedy.require value' e') :=
  .require (by rw [hvalue, Option.map_id_fun, id]) he

theorem Carries.mapM {each : NodeId → Except SiteError α} {each' : NodeId → Except SiteError α}
    (heach : ∀ node, r.Carries id (each node) (each' (r.new node))) (nodes : List NodeId) :
    r.Carries id (nodes.mapM each) ((nodes.map r.new).mapM each') := by
  induction nodes with
  | nil => exact .pure rfl
  | cons node rest ih =>
    rw [List.map_cons, List.mapM_cons, List.mapM_cons]
    exact .bind (heach node) fun found => .bind ih fun more => .pure rfl

/-- What one look-up finds unchanged, the other one finds. -/
theorem Carries.toOption {x y : Except SiteError α} (h : r.Carries id x y) :
    y.toOption = x.toOption := by
  rw [h]
  cases x <;> rfl

/-! ## The look-ups at a site -/

theorem text (r : Renumbering s s') : s'.text = s.text := by
  rw [Site.text, r.anchor, r.render, Site.text]

variable (r)

theorem argument (index : Nat) : r.Carries id (s.argument index) (s'.argument index) := by
  rw [Site.argument, Site.argument, r.arguments]
  exact .require_same rfl rfl

theorem parent : r.Carries r.new s.parent s'.parent :=
  .require (by rw [r.anchor, r.parent?]) rfl

theorem declarator : r.Carries id s.declarator s'.declarator :=
  .require_same (by rw [r.anchor, r.declaratorAround?]) rfl

theorem declaratorAt (node : NodeId) :
    r.Carries id (s.declaratorAt node) (s'.declaratorAt (r.new node)) :=
  .require_same (r.declarator? node) rfl

theorem createdElementAt (node : NodeId) :
    r.Carries r.new (s.createdElementAt node) (s'.createdElementAt (r.new node)) :=
  .require (r.createdElement? node) rfl

theorem above (hops : Nat) (what : String) :
    r.Carries r.new (require (s.tree.above s.anchor hops) (.absent what))
      (require (s'.tree.above s'.anchor hops) (.absent what)) :=
  .require (by rw [r.anchor, r.toRenumbering.above]) rfl

theorem unsizedArray : r.Carries id s.unsizedArray s'.unsizedArray := by
  refine .bind (r.above 1 "array type") fun type => ?_
  refine .bind (.require (r.arrayElement? type) rfl) fun _ => ?_
  refine .bind (r.above 2 "array creation") fun creation => ?_
  refine .bind (r.createdElementAt creation) fun _ => ?_
  refine .bind (r.above 3 "variable declaration") fun declaration => ?_
  refine .bind (r.declaratorAt declaration) fun declared => .pure ?_
  rw [r.text]
  rfl

theorem createdArray : r.Carries id s.createdArray s'.createdArray := by
  refine .bind r.parent fun creation => ?_
  refine .bind (r.createdElementAt creation) fun element => ?_
  refine .bind (.require (r.parent? creation) rfl) fun declaration => ?_
  refine .bind (r.declaratorAt declaration) fun declared => .pure ?_
  rw [r.render]
  rfl

theorem call : r.Carries id s.call s'.call := by
  refine .bind r.parent fun node => ?_
  refine .bind (.require (r.call? node) rfl) fun parts => ?_
  have htype : ∀ argument,
      r.Carries id
        (require ((s.tree.type? argument).map ResolvedType.shortName) (.unresolved "argument type"))
        (require ((s'.tree.type? (r.new argument)).map ResolvedType.shortName)
          (.unresolved "argument type")) :=
    fun argument => .require_same (by rw [r.type?]) rfl
  refine .bind (.mapM htype parts.arguments) fun types => .pure ?_
  have hrendered : (parts.arguments.map r.new).map s'.tree.render =
      parts.arguments.map s.tree.render := by
    rw [List.map_map]
    exact List.map_congr_left fun argument _ => r.render argument
  simp only [CallParts.relabel, hrendered]
  rfl

theorem method : r.Carries id s.method s'.method := by
  refine .bind r.parent fun node => ?_
  refine .bind (.require (r.method? node) rfl) fun parts => ?_
  refine .bind (.require rfl rfl) fun returnNode => ?_
  -- With a binding the types come from there, and without one they are rendered.
  cases hbinding : parts.binding with
  | some binding =>
    simp only [MethodParts.relabel, hbinding]
    exact .pure rfl
  | none =>
    simp only [MethodParts.relabel, hbinding]
    have htype : ∀ parameter,
        r.Carries id
          (require (s.tree.parameterType? parameter) (.wrongShape "parameter" parameter))
          (require (s'.tree.parameterType? (r.new parameter))
            (.wrongShape "parameter" (r.new parameter))) :=
      fun parameter => .require_same (r.parameterType? parameter) rfl
    refine .bind (.mapM htype parts.parameters) fun types => .pure ?_
    rw [r.render]
    rfl

theorem methodAround : r.Carries (MethodParts.relabel r.new) s.methodAround s'.methodAround :=
  .require (by rw [r.anchor, r.toRenumbering.methodAround?]) rfl

end Site.Renumbering

end Remedy
