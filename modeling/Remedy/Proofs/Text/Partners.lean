import Mathlib.Data.List.Basic
import Remedy.Proofs.Text.ProperNesting
import Remedy.Text.Nesting

/-!
# Brackets that belong together

Nesting is read from left to right with a stack. The search for an opener goes
from right to left and keeps a number only. On what nests the two agree: the
number of closers that wait is the height of the stack
(`unusedOpener_of_readAll`). So the search passes over a text that nests as if it
were not there, and finds the opener before it (`openerBefore_of_nests`).

An opener and a closer belong together if the text between them nests. In a text
that nests every closer belongs to an opener of its own kind
(`Nests.exists_opener`).

The last part counts braces alone. They balance in a text that nests, whatever
parentheses stand between them.
-/

namespace Remedy

namespace BracketKinds

variable {kinds : BracketKinds}

/-- The character closes brackets of some kind. -/
def closes (kinds : BracketKinds) (c : Char) : Bool := kinds.pairs.any fun pair => pair.2 == c

theorem read_opener {c closer : Char} (h : kinds.pairs.lookup c = some closer)
    (waiting : List Char) : kinds.read waiting c = some (closer :: waiting) := by
  simp [read, h]

theorem read_closer {c : Char} (hnot : kinds.pairs.lookup c = none)
    (hcloses : kinds.closes c = true) (left : List Char) :
    kinds.read (c :: left) c = some left := by
  unfold closes at hcloses
  simp [read, hnot, hcloses]

theorem read_other {c : Char} (hnot : kinds.pairs.lookup c = none)
    (hfree : kinds.closes c = false) (waiting : List Char) :
    kinds.read waiting c = some waiting := by
  unfold closes at hfree
  simp [read, hnot, hfree]

/-- An opener puts its closer on the stack, a closer takes itself off, and every
other character leaves the stack alone. Nothing else is ever read. -/
theorem read_cases {waiting left : List Char} {c : Char} (h : kinds.read waiting c = some left) :
    (∃ closer, kinds.pairs.lookup c = some closer ∧ left = closer :: waiting) ∨
      (kinds.pairs.lookup c = none ∧ kinds.closes c = true ∧ waiting = c :: left) ∨
      (kinds.pairs.lookup c = none ∧ kinds.closes c = false ∧ left = waiting) := by
  unfold read at h
  split at h
  next closer hopener =>
    cases h
    exact .inl ⟨closer, hopener, rfl⟩
  next hopener =>
    split at h
    next hcloser =>
      cases waiting with
      | nil => cases h
      | cons nearest rest =>
        simp only [Option.ite_none_right_eq_some, Option.some.injEq] at h
        obtain ⟨rfl, rfl⟩ := h
        exact .inr (.inl ⟨hopener, hcloser, rfl⟩)
    next hcloser =>
      cases h
      exact .inr (.inr ⟨hopener, Bool.eq_false_iff.mpr hcloser, rfl⟩)

theorem readAll_singleton (waiting : List Char) (c : Char) :
    kinds.readAll waiting [c] = kinds.read waiting c := by
  simp [readAll]

theorem readAll_cons (waiting : List Char) (c : Char) (rest : List Char) :
    kinds.readAll waiting (c :: rest) =
      (kinds.read waiting c).bind fun left => kinds.readAll left rest :=
  List.foldlM_cons

/-! ## Closers and their openers -/

/-- Brackets of one kind can stand around a text that nests. -/
theorem Nests.between {opener closer : Char} {body : List Char} (h : kinds.Nests body)
    (hopener : kinds.pairs.lookup opener = some closer)
    (hnot : kinds.pairs.lookup closer = none) (hcloses : kinds.closes closer = true) :
    kinds.Nests (opener :: body ++ [closer]) := by
  rw [Nests, List.cons_append, readAll_cons, read_opener hopener, Option.bind_some,
    readAll_append, h.readAll, Option.bind_some, readAll_singleton, read_closer hnot hcloses]

/-- The closer on top of the stack was put there by an opener of its kind, and
what stands behind that opener nests. -/
theorem exists_opener_of_readAll {cs below : List Char} {closer : Char}
    (h : kinds.readAll [] cs = some (closer :: below)) :
    ∃ above opener body, cs = above ++ opener :: body ∧
      kinds.pairs.lookup opener = some closer ∧ kinds.readAll [] above = some below ∧
      kinds.Nests body := by
  rcases List.eq_nil_or_concat' cs with rfl | ⟨front, c, rfl⟩
  · cases h
  rw [readAll_append] at h
  obtain ⟨middle, hfront, hc⟩ := Option.bind_eq_some_iff.mp h
  rw [readAll_singleton] at hc
  rcases read_cases hc with ⟨_, hopener, hput⟩ | ⟨hnot, hcloses, rfl⟩ | ⟨hnot, hfree, hsame⟩
  · cases hput
    exact ⟨front, c, [], rfl, hopener, hfront, nests_nil⟩
  · -- The last character closes a group of its own, which stands behind the
    -- opener that is looked for.
    obtain ⟨outer, groupOpener, group, rfl, hgroupOpener, houter, hgroup⟩ :=
      exists_opener_of_readAll hfront
    obtain ⟨above, opener, body, rfl, hopener, habove, hbody⟩ := exists_opener_of_readAll houter
    refine ⟨above, opener, body ++ (groupOpener :: group ++ [c]), by simp, hopener, habove, ?_⟩
    exact hbody.append (hgroup.between hgroupOpener hnot hcloses)
  · subst hsame
    obtain ⟨above, opener, body, rfl, hopener, habove, hbody⟩ := exists_opener_of_readAll hfront
    have hlast : kinds.Nests [c] := by
      rw [Nests, readAll_singleton, read_other hnot hfree]
    exact ⟨above, opener, body ++ [c], by simp, hopener, habove, hbody.append hlast⟩
termination_by cs.length
decreasing_by
  all_goals
    subst_vars
    simp

/-- In a text that nests every closer belongs to an opener of its own kind. -/
theorem Nests.exists_opener {front back : List Char} {closer : Char}
    (h : kinds.Nests (front ++ closer :: back)) (hnot : kinds.pairs.lookup closer = none)
    (hcloses : kinds.closes closer = true) :
    ∃ above opener body, front = above ++ opener :: body ∧
      kinds.pairs.lookup opener = some closer ∧ kinds.Nests body := by
  rw [Nests, readAll_append] at h
  obtain ⟨middle, hfront, hrest⟩ := Option.bind_eq_some_iff.mp h
  rw [readAll_cons] at hrest
  obtain ⟨left, hread, _⟩ := Option.bind_eq_some_iff.mp hrest
  rcases read_cases hread with ⟨_, hopener, _⟩ | ⟨_, _, rfl⟩ | ⟨_, hfree, _⟩
  · rw [hnot] at hopener
    cases hopener
  · obtain ⟨above, opener, body, hsplit, hopener, _, hbody⟩ := exists_opener_of_readAll hfront
    exact ⟨above, opener, body, hsplit, hopener, hbody⟩
  · rw [hcloses] at hfree
    cases hfree

/-! ## The search for an opener -/

/-- The brackets that the search for an opener counts: parentheses and braces. -/
def counted : BracketKinds := ⟨[('(', ')'), ('\x7b', '\x7d')]⟩

variable {waiting left cs : List Char} {c : Char}

theorem lookup_counted_eq_some {opener closer : Char}
    (h : counted.pairs.lookup opener = some closer) :
    opener = '(' ∧ closer = ')' ∨ opener = '\x7b' ∧ closer = '\x7d' := by
  simp only [counted, List.lookup_cons, List.lookup_nil] at h
  split at h
  next hparen => exact .inl ⟨beq_iff_eq.mp hparen, (Option.some.inj h).symm⟩
  next =>
    split at h
    next hbrace => exact .inr ⟨beq_iff_eq.mp hbrace, (Option.some.inj h).symm⟩
    next => cases h

/-- The same for the brackets that count. -/
theorem read_counted_cases (h : counted.read waiting c = some left) :
    (c = '(' ∧ left = ')' :: waiting) ∨ (c = '\x7b' ∧ left = '\x7d' :: waiting) ∨
      (c = ')' ∧ waiting = ')' :: left) ∨ (c = '\x7d' ∧ waiting = '\x7d' :: left) ∨
      (BracketSide.ofChar? c = none ∧ left = waiting) := by
  rcases read_cases h with ⟨closer, hopener, hleft⟩ | ⟨_, hcloses, hwaiting⟩ | ⟨hnot, hfree, hsame⟩
  · rcases lookup_counted_eq_some hopener with ⟨rfl, rfl⟩ | ⟨rfl, rfl⟩
    · exact .inl ⟨rfl, hleft⟩
    · exact .inr (.inl ⟨rfl, hleft⟩)
  · have hc : ')' = c ∨ '\x7d' = c := by simpa [closes, counted] using hcloses
    rcases hc with rfl | rfl
    · exact .inr (.inr (.inl ⟨rfl, hwaiting⟩))
    · exact .inr (.inr (.inr (.inl ⟨rfl, hwaiting⟩)))
  · refine .inr (.inr (.inr (.inr ⟨?_, hsame⟩)))
    unfold BracketSide.ofChar?
    split
    · cases hnot
    · cases hnot
    · cases hfree
    · cases hfree
    · rfl

/-- Read backwards, a character brings the number of waiting closers back to the
height that the stack had before it. -/
theorem unusedOpener_of_read (h : counted.read waiting c = some left) (n : Nat)
    (before : List Char) :
    unusedOpener BracketSide.ofChar? (n + left.length) (c :: before) =
      unusedOpener BracketSide.ofChar? (n + waiting.length) before := by
  rcases read_counted_cases h with
    ⟨rfl, rfl⟩ | ⟨rfl, rfl⟩ | ⟨rfl, rfl⟩ | ⟨rfl, rfl⟩ | ⟨hside, rfl⟩
  · rfl
  · rfl
  · rfl
  · rfl
  · simp [unusedOpener, hside]

/-- The same for a whole text. -/
theorem unusedOpener_of_readAll (h : counted.readAll waiting cs = some left) (n : Nat)
    (before : List Char) :
    unusedOpener BracketSide.ofChar? (n + left.length) (cs.reverse ++ before) =
      unusedOpener BracketSide.ofChar? (n + waiting.length) before := by
  induction cs generalizing waiting before with
  | nil =>
    cases h
    rfl
  | cons c rest ih =>
    rw [readAll_cons] at h
    obtain ⟨middle, hread, hrest⟩ := Option.bind_eq_some_iff.mp h
    rw [List.reverse_cons, List.append_assoc, List.singleton_append, ih hrest,
      unusedOpener_of_read hread]

/-- The search passes over a text that nests and finds the opener before it. -/
theorem openerBefore_of_nests {opener : Char} {body : List Char} (hbody : counted.Nests body)
    (hopener : BracketSide.ofChar? opener = some .opener) (above : List Char) :
    openerBefore BracketSide.ofChar? (above ++ opener :: body) = some (above, opener) := by
  have hpass := unusedOpener_of_readAll hbody 0 (opener :: above.reverse)
  rw [openerBefore, List.reverse_append, List.reverse_cons, List.append_assoc,
    List.singleton_append]
  rw [List.length_nil] at hpass
  rw [hpass]
  simp [unusedOpener, hopener]

/-! ## Counting braces -/

theorem count_braces_of_read (h : counted.read waiting c = some left) :
    [c].count '\x7b' + waiting.count '\x7d' = [c].count '\x7d' + left.count '\x7d' := by
  rcases read_counted_cases h with
    ⟨rfl, rfl⟩ | ⟨rfl, rfl⟩ | ⟨rfl, rfl⟩ | ⟨rfl, rfl⟩ | ⟨hside, rfl⟩
  · simp
  · simp [Nat.add_comm]
  · simp
  · simp [Nat.add_comm]
  · have hopener : c ≠ '\x7b' := by
      rintro rfl
      cases hside
    have hcloser : c ≠ '\x7d' := by
      rintro rfl
      cases hside
    simp [hopener, hcloser]

/-- Every brace that is opened or waited for is closed or still waited for. -/
theorem count_braces_of_readAll (h : counted.readAll waiting cs = some left) :
    cs.count '\x7b' + waiting.count '\x7d' = cs.count '\x7d' + left.count '\x7d' := by
  induction cs generalizing waiting with
  | nil =>
    cases h
    rfl
  | cons c rest ih =>
    rw [readAll_cons] at h
    obtain ⟨middle, hread, hrest⟩ := Option.bind_eq_some_iff.mp h
    have hstep := count_braces_of_read hread
    have hcount := ih hrest
    rw [← List.singleton_append, List.count_append, List.count_append]
    omega

end BracketKinds

/-- No part from the beginning closes a brace that it has not opened, and in the
end no brace is open. -/
structure BracesBalance (cs : List Char) : Prop where
  no_early_closer : ∀ front, front <+: cs → front.count '\x7d' ≤ front.count '\x7b'
  all_closed : cs.count '\x7d' = cs.count '\x7b'

namespace BracesBalance

variable {xs ys cs : List Char}

theorem of_nests (h : BracketKinds.counted.Nests cs) : BracesBalance cs where
  no_early_closer := by
    rintro front ⟨back, rfl⟩
    rw [BracketKinds.Nests, BracketKinds.readAll_append] at h
    obtain ⟨middle, hfront, _⟩ := Option.bind_eq_some_iff.mp h
    have := BracketKinds.count_braces_of_readAll hfront
    simp only [List.count_nil] at this
    omega
  all_closed := by
    have := BracketKinds.count_braces_of_readAll h
    simp only [List.count_nil] at this
    omega

theorem of_free (hopener : '\x7b' ∉ cs) (hcloser : '\x7d' ∉ cs) : BracesBalance cs where
  no_early_closer := by
    intro front hfront
    rw [List.count_eq_zero.mpr fun hmem => hcloser (hfront.subset hmem)]
    exact Nat.zero_le _
  all_closed := by rw [List.count_eq_zero.mpr hopener, List.count_eq_zero.mpr hcloser]

theorem append (hx : BracesBalance xs) (hy : BracesBalance ys) : BracesBalance (xs ++ ys) where
  no_early_closer := by
    intro front hfront
    rcases List.prefix_or_prefix_of_prefix hfront (List.prefix_append xs ys) with hin | ⟨more, rfl⟩
    · exact hx.no_early_closer front hin
    · have hmore := hy.no_early_closer more ((List.prefix_append_right_inj xs).mp hfront)
      have hall := hx.all_closed
      rw [List.count_append, List.count_append]
      omega
  all_closed := by rw [List.count_append, List.count_append, hx.all_closed, hy.all_closed]

/-- Before a balanced text, the text that stands there decides. -/
theorem append_iff_left (hy : BracesBalance ys) : BracesBalance (xs ++ ys) ↔ BracesBalance xs := by
  constructor
  · intro h
    refine ⟨fun front hfront => ?_, ?_⟩
    · exact h.no_early_closer front (hfront.trans (List.prefix_append xs ys))
    · have hall := h.all_closed
      rw [List.count_append, List.count_append, hy.all_closed] at hall
      omega
  · intro hx
    exact hx.append hy

/-- The end of a balanced text balances exactly if no brace is open before it. -/
theorem iff_of_append (h : BracesBalance (xs ++ ys)) :
    BracesBalance ys ↔ xs.count '\x7d' = xs.count '\x7b' := by
  have hall := h.all_closed
  rw [List.count_append, List.count_append] at hall
  constructor
  · intro hy
    have := hy.all_closed
    omega
  · intro hx
    refine ⟨fun front hfront => ?_, by omega⟩
    have hlonger := h.no_early_closer (xs ++ front) ((List.prefix_append_right_inj xs).mpr hfront)
    rw [List.count_append, List.count_append] at hlonger
    omega

/-- A balanced text in braces balances. -/
theorem braced (h : BracesBalance cs) : BracesBalance ('\x7b' :: cs ++ ['\x7d']) where
  no_early_closer := by
    intro front hfront
    rcases List.prefix_concat_iff.mp hfront with rfl | hopen
    · simp [h.all_closed]
    · rcases List.prefix_cons_iff.mp hopen with rfl | ⟨inner, rfl, hinner⟩
      · simp
      · have hle := h.no_early_closer inner hinner
        rw [List.count_cons_of_ne (by decide), List.count_cons_self]
        omega
  all_closed := by simp [h.all_closed]

end BracesBalance

end Remedy
