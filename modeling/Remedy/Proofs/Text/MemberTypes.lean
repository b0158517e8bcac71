import Mathlib.Data.List.Chain
import Remedy.Proofs.Text.Names

/-!
# Members of generic types

A type can be a member of another one, and its owner can have type arguments:
`Map<K, V>.Entry`. `MemberType` is the grammar of such names. A name of it is a path of
segments with dots between them and bracket pairs behind the last one, and every segment can
have types of the grammar as arguments.

Shortening cuts the text at the angle brackets. What stands behind arguments is then a run
that begins with the dot of the member, and the dot goes with the qualifiers in front of it.
So a segment with arguments is kept although it is an owner, and the name of its member is
glued to it (`shortened`). The result is a name of the grammar exactly if no owner at any
depth has arguments.
-/

namespace Remedy

/-! ## The grammar -/

mutual

/-- A path and the bracket pairs behind it. -/
inductive MemberType where
  | of (path : TypePath) (pairs : Nat)

/-- One segment or more, each but the last one the owner of what follows. -/
inductive TypePath where
  | last (segment : TypeSegment)
  | member (owner : TypeSegment) (path : TypePath)

/-- A name, possibly with type arguments. -/
inductive TypeSegment where
  | bare (name : Identifier)
  | generic (name : Identifier) (arguments : SegmentArguments)

/-- One type or more. -/
inductive SegmentArguments where
  | last (type : MemberType)
  | cons (type : MemberType) (others : SegmentArguments)

end

mutual

def MemberType.text : MemberType → String
  | .of path pairs => path.text ++ bracketPairs pairs

def TypePath.text : TypePath → String
  | .last segment => segment.text
  | .member owner path => owner.text ++ "." ++ path.text

def TypeSegment.text : TypeSegment → String
  | .bare name => name.text
  | .generic name arguments => name.text ++ "<" ++ arguments.text ++ ">"

def SegmentArguments.text : SegmentArguments → String
  | .last type => type.text
  | .cons type others => type.text ++ ", " ++ others.text

end

/-- The segment has no arguments. -/
def TypeSegment.isBare : TypeSegment → Bool
  | .bare _ => true
  | .generic _ _ => false

mutual

/-- No owner in the type or in its arguments has arguments. -/
def MemberType.OwnersBare : MemberType → Prop
  | .of path _ => path.OwnersBare

def TypePath.OwnersBare : TypePath → Prop
  | .last segment => segment.OwnersBare
  | .member owner path => owner.isBare = true ∧ path.OwnersBare

def TypeSegment.OwnersBare : TypeSegment → Prop
  | .bare _ => True
  | .generic _ arguments => arguments.OwnersBare

def SegmentArguments.OwnersBare : SegmentArguments → Prop
  | .last type => type.OwnersBare
  | .cons type others => type.OwnersBare ∧ others.OwnersBare

end

mutual

/-- The type without owners, and so are its arguments. -/
def MemberType.unqualified : MemberType → MemberType
  | .of path pairs => .of (.last path.unqualified) pairs

def TypePath.unqualified : TypePath → TypeSegment
  | .last segment => segment.unqualified
  | .member _ path => path.unqualified

def TypeSegment.unqualified : TypeSegment → TypeSegment
  | .bare name => .bare name
  | .generic name arguments => .generic name arguments.unqualified

def SegmentArguments.unqualified : SegmentArguments → SegmentArguments
  | .last type => .last type.unqualified
  | .cons type others => .cons type.unqualified others.unqualified

end

/-! ## What shortening leaves -/

mutual

/-- The text without the owners that have no arguments, and without any dot. -/
def MemberType.shortened : MemberType → String
  | .of path pairs => path.shortened ++ bracketPairs pairs

def TypePath.shortened : TypePath → String
  | .last segment => segment.shortened
  | .member owner path => (if owner.isBare then "" else owner.shortened) ++ path.shortened

def TypeSegment.shortened : TypeSegment → String
  | .bare name => name.text
  | .generic name arguments => name.text ++ "<" ++ arguments.shortened ++ ">"

def SegmentArguments.shortened : SegmentArguments → String
  | .last type => type.shortened
  | .cons type others => type.shortened ++ ", " ++ others.shortened

end

-- One case per rule of the grammar. A text is cut only if it holds an opening bracket, and
-- so the text of every segment with arguments is.
mutual

theorem MemberType.dropQualifiers_text (t : MemberType) (generic : Bool)
    (h : '<' ∈ t.text.toList → generic = true) :
    dropQualifiers (isRunPart generic) t.text.toList = t.shortened.toList := by
  obtain ⟨path, pairs⟩ := t
  have hpath := path.dropQualifiers_text generic fun hmem => h (by simp [MemberType.text, hmem])
  have hpairs : '.' ∉ (bracketPairs pairs).toList := notMem_bracketPairs (by decide) (by decide)
  simp only [MemberType.text, MemberType.shortened, String.toList_append]
  rw [dropQualifiers_append_of_notMem hpairs, hpath]

theorem TypePath.dropQualifiers_text (path : TypePath) (generic : Bool)
    (h : '<' ∈ path.text.toList → generic = true) :
    dropQualifiers (isRunPart generic) path.text.toList = path.shortened.toList := by
  cases path with
  | last segment => exact segment.dropQualifiers_text generic h
  | member owner path =>
    have hpath := path.dropQualifiers_text generic fun hmem => h (by simp [TypePath.text, hmem])
    cases owner with
    | bare name =>
      rw [TypePath.text, TypeSegment.text, toList_dot, name.dropQualifiers_text_append_dot, hpath,
        TypePath.shortened, TypeSegment.isBare, if_pos rfl, String.empty_append]
    | generic name arguments =>
      obtain rfl : generic = true := h (by simp [TypePath.text, TypeSegment.text])
      -- The run behind the arguments begins with the dot of the member.
      have hdot := @dropQualifiers_append_dot (isRunPart true) [] path.text.toList
        (isRunPart_dot true) (List.forall_mem_nil _)
      rw [List.nil_append] at hdot
      have hfront : ((TypeSegment.generic name arguments).text ++ "." ++ path.text).toList =
          name.text.toList ++ '<' :: (arguments.text.toList ++ '>' :: '.' :: path.text.toList) := by
        rw [toList_dot, TypeSegment.text, toList_angles]
        simp
      rw [TypePath.text, hfront, dropQualifiers_append_angles, hdot, name.dropQualifiers_text,
        arguments.dropQualifiers_text, hpath]
      simp [TypePath.shortened, TypeSegment.shortened, TypeSegment.isBare]

theorem TypeSegment.dropQualifiers_text (segment : TypeSegment) (generic : Bool)
    (h : '<' ∈ segment.text.toList → generic = true) :
    dropQualifiers (isRunPart generic) segment.text.toList = segment.shortened.toList := by
  cases segment with
  | bare name => exact name.dropQualifiers_text _
  | generic name arguments =>
    obtain rfl : generic = true := h (by simp [TypeSegment.text])
    rw [TypeSegment.text, TypeSegment.shortened, toList_angles, toList_angles,
      dropQualifiers_append_angles, dropQualifiers_nil, name.dropQualifiers_text,
      arguments.dropQualifiers_text]

theorem SegmentArguments.dropQualifiers_text (as : SegmentArguments) :
    dropQualifiers (isRunPart true) as.text.toList = as.shortened.toList := by
  cases as with
  | last type => exact type.dropQualifiers_text true fun _ => rfl
  | cons type others =>
    have htype := type.dropQualifiers_text true fun _ => rfl
    have hothers := others.dropQualifiers_text
    rw [SegmentArguments.text, SegmentArguments.shortened, toList_comma_blank, toList_comma_blank,
      dropQualifiers_append_comma_blank, htype, hothers]

end

/-- The short name of any type of the grammar. -/
theorem MemberType.shortTypeName_text_eq (t : MemberType) : shortTypeName t.text = t.shortened := by
  have hgeneric : '<' ∈ t.text.toList → t.text.toList.contains '<' = true := by
    simp
  rw [shortTypeName, t.dropQualifiers_text _ hgeneric, String.ofList_toList]

mutual

theorem MemberType.shortened_eq_text (t : MemberType) (h : t.OwnersBare) :
    t.shortened = t.unqualified.text := by
  obtain ⟨path, pairs⟩ := t
  exact congrArg (· ++ bracketPairs pairs) (path.shortened_eq_text h)

theorem TypePath.shortened_eq_text (path : TypePath) (h : path.OwnersBare) :
    path.shortened = path.unqualified.text := by
  cases path with
  | last segment => exact segment.shortened_eq_text h
  | member owner path =>
    obtain ⟨howner, hpath⟩ := h
    rw [TypePath.shortened, if_pos howner, String.empty_append]
    exact path.shortened_eq_text hpath

theorem TypeSegment.shortened_eq_text (segment : TypeSegment) (h : segment.OwnersBare) :
    segment.shortened = segment.unqualified.text := by
  cases segment with
  | bare name => rfl
  | generic name arguments =>
    rw [TypeSegment.shortened, arguments.shortened_eq_text h]
    rfl

theorem SegmentArguments.shortened_eq_text (as : SegmentArguments) (h : as.OwnersBare) :
    as.shortened = as.unqualified.text := by
  cases as with
  | last type => exact type.shortened_eq_text h
  | cons type others =>
    rw [SegmentArguments.shortened, type.shortened_eq_text h.1, others.shortened_eq_text h.2]
    rfl

end

/-! ## Names behind angle brackets -/

/-- No name begins directly behind a closing angle bracket. -/
def AnglesClosed (cs : List Char) : Prop :=
  cs.IsChain fun a b => a = '>' → isIdentifierPart b = false

instance (cs : List Char) : Decidable (AnglesClosed cs) :=
  inferInstanceAs (Decidable (List.IsChain _ _))

namespace AnglesClosed

variable {xs ys : List Char} {c : Char}

theorem of_notMem (h : '>' ∉ xs) : AnglesClosed xs := by
  induction xs with
  | nil => exact List.isChain_nil
  | cons c rest ih =>
    rw [List.mem_cons, not_or] at h
    exact List.isChain_cons.mpr ⟨fun _ _ hc => absurd hc.symm h.1, ih h.2⟩

theorem cons (hc : c ≠ '>') (hx : AnglesClosed xs) : AnglesClosed (c :: xs) :=
  List.isChain_cons.mpr ⟨fun _ _ hangle => absurd hangle hc, hx⟩

/-- What begins with a mark may stand behind anything. -/
theorem append_cons (hx : AnglesClosed xs) (hy : AnglesClosed (c :: ys))
    (hc : isIdentifierPart c = false) : AnglesClosed (xs ++ c :: ys) := by
  refine List.isChain_append.mpr ⟨hx, hy, fun _ _ b hb _ => ?_⟩
  obtain rfl : c = b := by simpa using hb
  exact hc

theorem angles (hx : AnglesClosed xs) (hy : AnglesClosed ys) :
    AnglesClosed (xs ++ '<' :: (ys ++ ['>'])) := by
  have hclose : AnglesClosed (ys ++ ['>']) := hy.append_cons (List.isChain_singleton _) (by decide)
  exact hx.append_cons (hclose.cons (by decide)) (by decide)

theorem append_bracketPairs (hx : AnglesClosed xs) (pairs : Nat) :
    AnglesClosed (xs ++ (bracketPairs pairs).toList) := by
  have hangle : '>' ∉ (bracketPairs pairs).toList := notMem_bracketPairs (by decide) (by decide)
  cases pairs with
  | zero => simpa [bracketPairs_zero] using hx
  | succ pairs =>
    rw [toList_bracketPairs_succ] at hangle ⊢
    exact hx.append_cons (of_notMem hangle) (by decide)

end AnglesClosed

theorem Identifier.anglesClosed_text (name : Identifier) : AnglesClosed name.text.toList :=
  .of_notMem (name.notMem_text (by decide))

-- The text of every type of the grammar is closed.
mutual

theorem MemberType.anglesClosed_text (t : MemberType) : AnglesClosed t.text.toList := by
  obtain ⟨path, pairs⟩ := t
  rw [MemberType.text, String.toList_append]
  exact path.anglesClosed_text.append_bracketPairs pairs

theorem TypePath.anglesClosed_text (path : TypePath) : AnglesClosed path.text.toList := by
  cases path with
  | last segment => exact segment.anglesClosed_text
  | member owner path =>
    have hpath : AnglesClosed ('.' :: path.text.toList) := path.anglesClosed_text.cons (by decide)
    rw [TypePath.text, toList_dot]
    exact owner.anglesClosed_text.append_cons hpath (by decide)

theorem TypeSegment.anglesClosed_text (segment : TypeSegment) :
    AnglesClosed segment.text.toList := by
  cases segment with
  | bare name => exact name.anglesClosed_text
  | generic name arguments =>
    rw [TypeSegment.text, toList_angles]
    exact name.anglesClosed_text.angles arguments.anglesClosed_text

theorem SegmentArguments.anglesClosed_text (as : SegmentArguments) :
    AnglesClosed as.text.toList := by
  cases as with
  | last type => exact type.anglesClosed_text
  | cons type others =>
    have hothers : AnglesClosed (',' :: ' ' :: others.text.toList) :=
      (others.anglesClosed_text.cons (by decide)).cons (by decide)
    rw [SegmentArguments.text, toList_comma_blank]
    exact type.anglesClosed_text.append_cons hothers (by decide)

end

theorem TypeSegment.exists_head_shortened (segment : TypeSegment) :
    ∃ c, segment.shortened.toList.head? = some c ∧ isIdentifierPart c = true := by
  cases segment with
  | bare name => exact name.exists_head_text
  | generic name arguments =>
    obtain ⟨c, hname, hc⟩ := name.exists_head_text
    exact ⟨c, by simp [TypeSegment.shortened, hname], hc⟩

theorem TypePath.exists_head_shortened (path : TypePath) :
    ∃ c, path.shortened.toList.head? = some c ∧ isIdentifierPart c = true := by
  cases path with
  | last segment => exact segment.exists_head_shortened
  | member owner path =>
    cases howner : owner.isBare with
    | true => simpa [TypePath.shortened, howner] using path.exists_head_shortened
    | false =>
      obtain ⟨c, hhead, hc⟩ := owner.exists_head_shortened
      exact ⟨c, by simp [TypePath.shortened, howner, hhead], hc⟩

-- A short text is closed only if no owner has arguments: the name of a member would begin
-- directly behind the arguments of its owner.
mutual

theorem MemberType.ownersBare_of_anglesClosed (t : MemberType)
    (h : AnglesClosed t.shortened.toList) : t.OwnersBare := by
  obtain ⟨path, pairs⟩ := t
  rw [MemberType.shortened, String.toList_append] at h
  exact path.ownersBare_of_anglesClosed (List.isChain_append.mp h).1

theorem TypePath.ownersBare_of_anglesClosed (path : TypePath)
    (h : AnglesClosed path.shortened.toList) : path.OwnersBare := by
  cases path with
  | last segment => exact segment.ownersBare_of_anglesClosed h
  | member owner path =>
    cases owner with
    | bare name =>
      refine ⟨rfl, path.ownersBare_of_anglesClosed ?_⟩
      simpa [TypePath.shortened, TypeSegment.isBare] using h
    | generic name arguments =>
      obtain ⟨c, hhead, hc⟩ := path.exists_head_shortened
      simp only [TypePath.shortened, TypeSegment.isBare, TypeSegment.shortened,
        Bool.false_eq_true, if_false, String.toList_append, String.reduceToList] at h
      obtain ⟨_, _, hjoint⟩ := List.isChain_append.mp h
      have hnot := hjoint '>' List.getLast?_concat c hhead rfl
      rw [hc] at hnot
      cases hnot

theorem TypeSegment.ownersBare_of_anglesClosed (segment : TypeSegment)
    (h : AnglesClosed segment.shortened.toList) : segment.OwnersBare := by
  cases segment with
  | bare name => trivial
  | generic name arguments =>
    simp only [TypeSegment.shortened, String.toList_append] at h
    have hfront := (List.isChain_append.mp h).1
    exact arguments.ownersBare_of_anglesClosed (List.isChain_append.mp hfront).2.1

theorem SegmentArguments.ownersBare_of_anglesClosed (as : SegmentArguments)
    (h : AnglesClosed as.shortened.toList) : as.OwnersBare := by
  cases as with
  | last type => exact type.ownersBare_of_anglesClosed h
  | cons type others =>
    simp only [SegmentArguments.shortened, String.toList_append] at h
    obtain ⟨hfront, hothers, _⟩ := List.isChain_append.mp h
    refine ⟨type.ownersBare_of_anglesClosed (List.isChain_append.mp hfront).1, ?_⟩
    exact others.ownersBare_of_anglesClosed hothers

end

/-! ## Short names of the grammar -/

/-- **Short names of member types.** The short name of a type is a type of the grammar again
exactly if no owner at any depth has arguments. It is the type without its owners then, and in
every case what `shortened` says. -/
theorem MemberType.exists_text_eq_shortTypeName_iff (t : MemberType) :
    ((∃ u : MemberType, u.text = shortTypeName t.text) ↔ t.OwnersBare) ∧
      (t.OwnersBare → shortTypeName t.text = t.unqualified.text) ∧
      shortTypeName t.text = t.shortened := by
  have hshort := t.shortTypeName_text_eq
  have hbare : t.OwnersBare → shortTypeName t.text = t.unqualified.text := by
    intro h
    rw [hshort, t.shortened_eq_text h]
  refine ⟨⟨?_, ?_⟩, hbare, hshort⟩
  · rintro ⟨u, hu⟩
    have hclosed := u.anglesClosed_text
    rw [hu, hshort] at hclosed
    exact t.ownersBare_of_anglesClosed hclosed
  · intro h
    exact ⟨t.unqualified, (hbare h).symm⟩

/-- `java.util.Map<java.lang.String, java.lang.Integer>.Entry`. -/
def mapEntry : MemberType :=
  let java : TypeSegment := .bare (.ofText "java" (by decide) (by decide))
  let util : TypeSegment := .bare (.ofText "util" (by decide) (by decide))
  let lang : TypeSegment := .bare (.ofText "lang" (by decide) (by decide))
  let string : TypeSegment := .bare (.ofText "String" (by decide) (by decide))
  let integer : TypeSegment := .bare (.ofText "Integer" (by decide) (by decide))
  let key : MemberType := .of (.member java (.member lang (.last string))) 0
  let value : MemberType := .of (.member java (.member lang (.last integer))) 0
  let map : TypeSegment := .generic (.ofText "Map" (by decide) (by decide)) (.cons key (.last value))
  let entry : TypeSegment := .bare (.ofText "Entry" (by decide) (by decide))
  .of (.member java (.member util (.member map (.last entry)))) 0

/-- The member's name is glued to the arguments of its owner, and no type of the grammar is
written like that. -/
theorem shortTypeName_mapEntry_glued :
    mapEntry.text = "java.util.Map<java.lang.String, java.lang.Integer>.Entry" ∧
      shortTypeName mapEntry.text = "Map<String, Integer>Entry" ∧
      ¬ ∃ u : MemberType, u.text = shortTypeName mapEntry.text := by
  have hshort : shortTypeName mapEntry.text = "Map<String, Integer>Entry" := by decide
  refine ⟨by decide, hshort, ?_⟩
  rintro ⟨u, hu⟩
  have hclosed := u.anglesClosed_text
  rw [hu, hshort] at hclosed
  revert hclosed
  decide

end Remedy
