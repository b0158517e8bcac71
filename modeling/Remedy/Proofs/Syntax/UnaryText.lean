import Remedy.Proofs.Text.Names
import Remedy.Syntax.Draft
import Remedy.Syntax.Render

/-!
# What the text of a unary expression tells

Names, parentheses and unary operators are written one behind the other with
nothing in between. A reader of the text can tell a name from an operator and
find the partner of every parenthesis. What cannot be told is where one sign
ends and the next begins: `++a` is the increment of `a` and the plus of the plus
of `a`.

This is the only doubt. `UnaryExpr.split` writes every double sign as two single
ones, which keeps the text, and two expressions have the same text exactly if
they are the same after that (`text_eq_iff`). If no sign stands directly before
an operand that begins with the same sign, the text determines the expression,
for `UnaryExpr.fuse` brings it back from the single signs.
-/

namespace Remedy

/-- An expression of names, parentheses and unary operators. An operator behind
its operand needs a name or parentheses there, so it is a part of those. -/
inductive UnaryExpr where
  /-- A name with at most one operator behind it. -/
  | name (identifier : Identifier) (trailing : Option PostfixOp)
  /-- An expression in parentheses with at most one operator behind them. -/
  | parenthesized (inner : UnaryExpr) (trailing : Option PostfixOp)
  /-- An operator before its operand. -/
  | prefixed (operator : PrefixOp) (operand : UnaryExpr)
deriving DecidableEq

/-- The node is the root of a unary expression. -/
inductive Tree.UnaryAt (t : Tree) : NodeId → UnaryExpr → Prop
  | name {id : NodeId} {identifier : Identifier}
      (kind : t.kind? id = some (.simpleName identifier.text)) :
      UnaryAt t id (.name identifier none)
  | parenthesized {id inner : NodeId} {e : UnaryExpr}
      (kind : t.kind? id = some (.parenthesized inner)) (below : UnaryAt t inner e) :
      UnaryAt t id (.parenthesized e none)
  | prefixed {id operand : NodeId} {operator : PrefixOp} {e : UnaryExpr}
      (kind : t.kind? id = some (.prefixed operator operand)) (below : UnaryAt t operand e) :
      UnaryAt t id (.prefixed operator e)
  | postfixedName {id operand : NodeId} {operator : PostfixOp} {identifier : Identifier}
      (kind : t.kind? id = some (.postfixed operator operand))
      (below : t.kind? operand = some (.simpleName identifier.text)) :
      UnaryAt t id (.name identifier (some operator))
  | postfixedParenthesized {id operand inner : NodeId} {operator : PostfixOp} {e : UnaryExpr}
      (kind : t.kind? id = some (.postfixed operator operand))
      (between : t.kind? operand = some (.parenthesized inner)) (below : UnaryAt t inner e) :
      UnaryAt t id (.parenthesized e (some operator))

/-- The two signs can be read as other signs where the first stands directly
before the second. -/
def PrefixOp.fusesWith : PrefixOp → PrefixOp → Bool
  | plus, plus | plus, increment | minus, minus | minus, decrement => true
  | _, _ => false

namespace UnaryExpr

/-- The text of an operator behind a name or parentheses, if there is one. -/
def trailingText (trailing : Option PostfixOp) : String := trailing.elim "" PostfixOp.symbol

/-- The written form. -/
def text : UnaryExpr → String
  | name identifier trailing => identifier.text ++ trailingText trailing
  | parenthesized inner trailing => "(" ++ inner.text ++ ")" ++ trailingText trailing
  | prefixed operator operand => operator.symbol ++ operand.text

/-- Every double sign before an operand as two single ones. -/
def split : UnaryExpr → UnaryExpr
  | name identifier trailing => name identifier trailing
  | parenthesized inner trailing => parenthesized inner.split trailing
  | prefixed .increment operand => prefixed .plus (prefixed .plus operand.split)
  | prefixed .decrement operand => prefixed .minus (prefixed .minus operand.split)
  | prefixed operator operand => prefixed operator operand.split

/-- Neighbouring single signs as double ones, as far as they come in pairs from
the left. -/
def fuse : UnaryExpr → UnaryExpr
  | name identifier trailing => name identifier trailing
  | parenthesized inner trailing => parenthesized inner.fuse trailing
  | prefixed .plus (prefixed .plus operand) => prefixed .increment operand.fuse
  | prefixed .minus (prefixed .minus operand) => prefixed .decrement operand.fuse
  | prefixed operator operand => prefixed operator operand.fuse

/-- No sign stands directly before an operand that begins with the same sign. -/
def Separated : UnaryExpr → Prop
  | name _ _ => True
  | parenthesized inner _ => inner.Separated
  | prefixed operator (prefixed next operand) =>
      operator.fusesWith next = false ∧ (prefixed next operand).Separated
  | prefixed _ operand => operand.Separated

/-- Every operator before an operand is a single character. -/
def SingleSigns : UnaryExpr → Prop
  | name _ _ => True
  | parenthesized inner _ => inner.SingleSigns
  | prefixed operator operand =>
      operator ≠ .increment ∧ operator ≠ .decrement ∧ operand.SingleSigns

/-! ## Splitting and fusing signs -/

theorem text_split (e : UnaryExpr) : e.split.text = e.text := by
  induction e with
  | name identifier trailing => rfl
  | parenthesized inner trailing ih => rw [split, text, ih, text]
  | prefixed operator operand ih =>
    cases operator with
    | increment | decrement =>
      rw [split, text, text, ih, text, ← String.append_assoc]
      rfl
    | _ => rw [split, text, ih, text] <;> simp

theorem singleSigns_split (e : UnaryExpr) : e.split.SingleSigns := by
  induction e with
  | name identifier trailing => trivial
  | parenthesized inner trailing ih => exact ih
  | prefixed operator operand ih => cases operator <;> simp [split, SingleSigns, ih]

/-- Fusing brings back the double signs, if none of them could come from
neighbours. -/
theorem fuse_split {e : UnaryExpr} (h : e.Separated) : e.split.fuse = e := by
  induction e with
  | name identifier trailing => rfl
  | parenthesized inner trailing ih => rw [split, fuse, ih h]
  | prefixed operator operand ih =>
    -- A single sign is fused only with a single one of its own behind it, and
    -- the operand begins with such a sign before or after splitting.
    cases operand with
    | name identifier trailing => cases operator <;> rfl
    | parenthesized inner trailing =>
      have hinner := ih h
      rw [split, fuse] at hinner
      cases operator <;> simp [split, fuse, hinner]
    | prefixed next rest =>
      obtain ⟨hapart, hrest⟩ := h
      have hoperand := ih hrest
      cases operator <;> cases next <;> simp_all [split, fuse, PrefixOp.fusesWith]

/-! ## Reading names and operators -/

theorem isOperator_notPart :
    ∀ c ∈ ['+', '-', '~', '!', '(', ')'], isIdentifierPart c = false := by
  simp only [List.mem_cons, List.not_mem_nil, or_false]
  rintro c (rfl | rfl | rfl | rfl | rfl | rfl) <;> decide

/-- A run of identifier characters ends where the text goes on with another
character. -/
theorem append_inj_of_parts {xs ys rest rest' : List Char}
    (hxs : ∀ c ∈ xs, isIdentifierPart c = true) (hys : ∀ c ∈ ys, isIdentifierPart c = true)
    (hrest : ∀ c ∈ rest.head?, isIdentifierPart c = false)
    (hrest' : ∀ c ∈ rest'.head?, isIdentifierPart c = false)
    (h : xs ++ rest = ys ++ rest') : xs = ys ∧ rest = rest' := by
  induction xs generalizing ys with
  | nil =>
    cases ys with
    | nil => exact ⟨rfl, h⟩
    | cons y ys =>
      have hy := hys y List.mem_cons_self
      rw [List.nil_append] at h
      rw [hrest y (by simp [h])] at hy
      cases hy
  | cons x xs ih =>
    cases ys with
    | nil =>
      have hx := hxs x List.mem_cons_self
      rw [List.nil_append] at h
      rw [hrest' x (by simp [← h])] at hx
      cases hx
    | cons y ys =>
      simp only [List.cons_append, List.cons.injEq] at h
      obtain ⟨rfl, h⟩ := h
      obtain ⟨rfl, rfl⟩ := ih (fun c hc => hxs c (List.mem_cons_of_mem _ hc))
        (fun c hc => hys c (List.mem_cons_of_mem _ hc)) h
      exact ⟨rfl, rfl⟩

/-- What follows an expression: nothing, or the end of the parentheses that it
stands in. -/
def Ends (rest : List Char) : Prop := ∀ c ∈ rest.head?, c = ')'

theorem trailing_inj {trailing trailing' : Option PostfixOp} {rest rest' : List Char}
    (hrest : Ends rest) (hrest' : Ends rest')
    (h : (trailingText trailing).toList ++ rest = (trailingText trailing').toList ++ rest') :
    trailing = trailing' ∧ rest = rest' := by
  have hnone : ∀ {operator : PostfixOp} {rest rest' : List Char}, Ends rest →
      rest ≠ operator.symbol.toList ++ rest' := by
    rintro operator _ rest' hrest rfl
    cases operator <;> exact absurd (hrest _ rfl) (by decide)
  cases trailing with
  | none =>
    cases trailing' with
    | none => exact ⟨rfl, h⟩
    | some operator' => exact absurd h (hnone hrest)
  | some operator =>
    cases trailing' with
    | none => exact absurd h.symm (hnone hrest')
    | some operator' =>
      cases operator <;> cases operator' <;>
        simp_all [trailingText, PostfixOp.symbol]

theorem notPart_trailing {trailing : Option PostfixOp} {rest : List Char} (hrest : Ends rest) :
    ∀ c ∈ ((trailingText trailing).toList ++ rest).head?, isIdentifierPart c = false := by
  intro c hc
  apply isOperator_notPart
  cases trailing with
  | none => simp [hrest c hc]
  | some operator =>
    cases operator <;>
    · cases hc
      decide

/-- The character can begin the text of an expression of this sort. -/
def BeginsWith (c : Char) : UnaryExpr → Prop
  | name _ _ => isIdentifierPart c = true
  | parenthesized _ _ => c = '('
  | prefixed _ _ => c ∈ ['+', '-', '~', '!']

theorem beginsWith_head (e : UnaryExpr) (rest : List Char) :
    ∃ c, (e.text.toList ++ rest).head? = some c ∧ e.BeginsWith c := by
  cases e with
  | name identifier trailing =>
    cases hchars : identifier.text.toList with
    | nil => exact absurd (String.toList_eq_nil_iff.mp hchars) identifier.nonempty
    | cons c cs =>
      refine ⟨c, by simp [text, hchars], identifier.parts c ?_⟩
      rw [hchars]
      exact List.mem_cons_self
  | parenthesized inner trailing => exact ⟨'(', by simp [text], rfl⟩
  | prefixed operator operand =>
    cases operator <;> simp [text, PrefixOp.symbol, BeginsWith]

/-- Texts that agree begin alike. -/
theorem exists_beginsWith {e e' : UnaryExpr} {rest rest' : List Char}
    (h : e.text.toList ++ rest = e'.text.toList ++ rest') :
    ∃ c, e.BeginsWith c ∧ e'.BeginsWith c := by
  obtain ⟨c, hc, he⟩ := beginsWith_head e rest
  obtain ⟨c', hc', he'⟩ := beginsWith_head e' rest'
  rw [h, hc'] at hc
  cases hc
  exact ⟨c, he, he'⟩

/-! ## The text determines the expression -/

theorem symbol_inj {operator operator' : PrefixOp} {rest rest' : List Char}
    (hsingle : operator ≠ .increment ∧ operator ≠ .decrement)
    (hsingle' : operator' ≠ .increment ∧ operator' ≠ .decrement)
    (h : operator.symbol.toList ++ rest = operator'.symbol.toList ++ rest') :
    operator = operator' ∧ rest = rest' := by
  cases operator <;> cases operator' <;> simp_all [PrefixOp.symbol]

/-- With single signs only, an expression can be told from its text, whatever
ends the expression. -/
theorem SingleSigns.text_inj {e e' : UnaryExpr} (he : e.SingleSigns) (he' : e'.SingleSigns)
    {rest rest' : List Char} (hrest : Ends rest) (hrest' : Ends rest')
    (h : e.text.toList ++ rest = e'.text.toList ++ rest') : e = e' ∧ rest = rest' := by
  -- The first character tells which sort of expression it is, so the cases off
  -- the diagonal do not occur.
  induction e generalizing e' rest rest' with
  | name identifier trailing =>
    obtain ⟨c, hc, hc'⟩ := exists_beginsWith h
    have hpart := isOperator_notPart c
    cases e' with
    | parenthesized | prefixed => simp_all [BeginsWith]
    | name identifier' trailing' =>
      simp only [text, String.toList_append, List.append_assoc] at h
      obtain ⟨hidentifier, hbehind⟩ := append_inj_of_parts identifier.parts identifier'.parts
        (notPart_trailing hrest) (notPart_trailing hrest') h
      obtain ⟨rfl, rfl⟩ := trailing_inj hrest hrest' hbehind
      obtain rfl := Identifier.ext (String.toList_inj.mp hidentifier)
      exact ⟨rfl, rfl⟩
  | parenthesized inner trailing ih =>
    obtain ⟨c, hc, hc'⟩ := exists_beginsWith h
    have hpart := isOperator_notPart c
    cases e' with
    | name | prefixed => simp_all [BeginsWith]
    | parenthesized inner' trailing' =>
      simp only [text, String.toList_append, List.append_assoc] at h
      have hclose : ∀ cs, Ends (")".toList ++ cs) := by
        rintro cs c ⟨⟩
        rfl
      have hinner : inner'.SingleSigns := he'
      have hinside := List.append_cancel_left h
      obtain ⟨rfl, hbehind⟩ := ih he hinner (hclose _) (hclose _) hinside
      have hlast := List.append_cancel_left hbehind
      obtain ⟨rfl, rfl⟩ := trailing_inj hrest hrest' hlast
      exact ⟨rfl, rfl⟩
  | prefixed operator operand ih =>
    obtain ⟨c, hc, hc'⟩ := exists_beginsWith h
    have hpart := isOperator_notPart c
    cases e' with
    | name | parenthesized => simp_all [BeginsWith]
    | prefixed operator' operand' =>
      simp only [text, String.toList_append, List.append_assoc] at h
      obtain ⟨hincrement, hdecrement, hoperand⟩ := he
      obtain ⟨hincrement', hdecrement', hoperand'⟩ := he'
      obtain ⟨rfl, hbehind⟩ :=
        symbol_inj ⟨hincrement, hdecrement⟩ ⟨hincrement', hdecrement'⟩ h
      obtain ⟨rfl, rfl⟩ := ih hoperand hoperand' hrest hrest' hbehind
      exact ⟨rfl, rfl⟩

/-- Two expressions have the same text exactly if they are the same up to how
their signs come in pairs. -/
theorem text_eq_iff {e e' : UnaryExpr} : e.text = e'.text ↔ e.split = e'.split := by
  rw [← text_split e, ← text_split e']
  constructor
  · intro h
    have hnil : Ends [] := by
      rintro c ⟨⟩
    exact ((singleSigns_split e).text_inj (singleSigns_split e') hnil hnil
      (congrArg (·.toList ++ []) h)).1
  · intro h
    rw [h]

theorem Separated.eq_of_text_eq {e e' : UnaryExpr} (he : e.Separated) (he' : e'.Separated)
    (h : e.text = e'.text) : e = e' := by
  rw [← fuse_split he, ← fuse_split he', text_eq_iff.mp h]

end UnaryExpr

namespace Tree

variable {t u : Tree} {a b : NodeId} {e e' : UnaryExpr}

theorem UnaryAt.render_eq (h : t.UnaryAt a e) : t.render a = e.text := by
  induction h with
  | name kind => simp [render_of_kind? kind, NodeKind.layout, renderPiece, UnaryExpr.text,
      UnaryExpr.trailingText, String.join_cons]
  | parenthesized kind below ih =>
    simp [render_of_kind? kind, NodeKind.layout, renderPiece, UnaryExpr.text,
      UnaryExpr.trailingText, String.join_cons, ih, String.append_assoc]
  | prefixed kind below ih =>
    simp [render_of_kind? kind, NodeKind.layout, renderPiece, UnaryExpr.text,
      String.join_cons, ih]
  | postfixedName kind below =>
    simp [render_of_kind? kind, render_of_kind? below, NodeKind.layout, renderPiece,
      UnaryExpr.text, UnaryExpr.trailingText, String.join_cons]
  | postfixedParenthesized kind between below ih =>
    simp [render_of_kind? kind, render_of_kind? between, NodeKind.layout, renderPiece,
      UnaryExpr.text, UnaryExpr.trailingText, String.join_cons, ih, String.append_assoc]

/-- **What a quoted unary expression tells.** Two unary expressions, in one tree or
in two, are rendered as the same text exactly if they are the same once every
double sign before an operand is split. So different expressions have different
texts as long as no sign stands directly before an operand that begins with the
same sign. -/
theorem render_unary_eq_iff (ha : t.UnaryAt a e) (hb : u.UnaryAt b e') :
    (t.render a = u.render b ↔ e.split = e'.split) ∧
      (e.Separated → e'.Separated → t.render a = u.render b → e = e') := by
  rw [ha.render_eq, hb.render_eq]
  exact ⟨UnaryExpr.text_eq_iff, fun he he' h => he.eq_of_text_eq he' h⟩

/-- The tree of `+ +a - ++a`. -/
def signTree : Tree :=
  (Draft.toTree
    ⟨#[{ kind := .simpleName "a" }, { kind := .prefixed .plus 0 }, { kind := .prefixed .plus 1 },
      { kind := .simpleName "a" }, { kind := .prefixed .increment 3 },
      { kind := .binary .minus 2 4 }]⟩
    5).toOption.get (by decide +kernel)

/-- The name `a`. -/
def nameA : UnaryExpr :=
  .name ⟨"a", by decide, by simpa using (by decide : isIdentifierPart 'a' = true)⟩ none

theorem unaryAt_signTree :
    signTree.UnaryAt 1 (.prefixed .plus nameA) ∧
      signTree.UnaryAt 2 (.prefixed .plus (.prefixed .plus nameA)) ∧
      signTree.UnaryAt 4 (.prefixed .increment nameA) := by
  have hleft : signTree.UnaryAt 0 nameA := .name (by decide +kernel)
  have hright : signTree.UnaryAt 3 nameA := .name (by decide +kernel)
  have hplus : signTree.UnaryAt 1 (.prefixed .plus nameA) := .prefixed (by decide +kernel) hleft
  exact ⟨hplus, .prefixed (by decide +kernel) hplus, .prefixed (by decide +kernel) hright⟩

/-- The plus of a name and its increment are told apart. -/
theorem render_unary_eq_iff_increment :
    signTree.UnaryAt 1 (.prefixed .plus nameA) ∧ signTree.UnaryAt 4 (.prefixed .increment nameA) ∧
      signTree.render 1 ≠ signTree.render 4 := by
  obtain ⟨hplus, _, hincrement⟩ := unaryAt_signTree
  refine ⟨hplus, hincrement, fun h => ?_⟩
  have hsame := (render_unary_eq_iff hplus hincrement).2 trivial trivial h
  cases hsame

/-- The plus of a plus and the increment are different expressions, and both are
rendered as `++a`. -/
theorem render_plus_plus_eq_increment :
    signTree.UnaryAt 2 (.prefixed .plus (.prefixed .plus nameA)) ∧
      signTree.UnaryAt 4 (.prefixed .increment nameA) ∧
      UnaryExpr.prefixed .plus (.prefixed .plus nameA) ≠ .prefixed .increment nameA ∧
      signTree.render 2 = "++a" ∧ signTree.render 4 = "++a" := by
  obtain ⟨_, hplusPlus, hincrement⟩ := unaryAt_signTree
  refine ⟨hplusPlus, hincrement, by decide, ?_, ?_⟩
  · rw [hplusPlus.render_eq]
    rfl
  · rw [hincrement.render_eq]
    rfl

end Tree

end Remedy
