/-!
# Source spans

A `Span` is a half-open range of byte offsets into the learner's file, as the
front end reports it for nodes and for problems. Nothing forces
`start ≤ stop`: a reported range may be inverted, and every operation below
still has an answer. Such a range is empty, and its length is zero.
-/

namespace Remedy

/-- The byte offsets from `start` up to but excluding `stop`. -/
structure Span where
  start : Nat
  stop : Nat
deriving DecidableEq

namespace Span

/-- The span of a node that was built without a source position. -/
def dummy : Span := ⟨0, 0⟩

/-- The number of bytes in the span; an inverted span has none. -/
def length (s : Span) : Nat := s.stop - s.start

/-- No byte lies in the span. -/
def isEmpty (s : Span) : Bool := decide (s.stop ≤ s.start)

/-- `outer` covers `inner` when it begins no later and ends no earlier. Only
the end points are compared, so an empty span has to lie inside too. -/
def Covers (outer inner : Span) : Prop :=
  outer.start ≤ inner.start ∧ inner.stop ≤ outer.stop

instance (outer inner : Span) : Decidable (Covers outer inner) :=
  inferInstanceAs (Decidable (_ ∧ _))

/-- The least span that covers both. -/
def merge (a b : Span) : Span := ⟨min a.start b.start, max a.stop b.stop⟩

/-- The written form `start..stop`. -/
def text (s : Span) : String := toString s.start ++ ".." ++ toString s.stop

/-! ## Covering is a preorder with `merge` as its join -/

theorem Covers.refl (s : Span) : s.Covers s := ⟨Nat.le_refl _, Nat.le_refl _⟩

theorem Covers.trans {a b c : Span} (hab : a.Covers b) (hbc : b.Covers c) : a.Covers c :=
  ⟨Nat.le_trans hab.1 hbc.1, Nat.le_trans hbc.2 hab.2⟩

theorem covers_merge_iff {s a b : Span} :
    s.Covers (a.merge b) ↔ s.Covers a ∧ s.Covers b := by
  simp only [Covers, merge]
  omega

end Span

end Remedy
