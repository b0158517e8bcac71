import Mathlib.Data.Nat.SuccPred
import Mathlib.Order.SuccPred.Archimedean
import Remedy.Proofs.Text.OpenerOffset
import Remedy.Proofs.Text.OpenerSearch

/-!
# The nearest opener that is left over

The search for the opener of a closer keeps one number on its way back. What it finds can be
said without that number and without a way: it is the greatest place in front of the closer
from which on there is one opener more than there are closers.

That a place is the greatest one says something about all endings of what stands behind it.
No ending has exactly one opener too many, and since a symbol changes that number by at most
one, no ending has an opener too many at all (`openers_le_closers_of_ne`). So the symbols
behind the place are used up in the sense of `UsesUp`, and this is where the search stops.

All this is about any symbols. With bytes for symbols it holds at every offset of a text, those
inside a character included (`openerOffset?_finds_nearest`).
-/

namespace Remedy

open FormEncoding

section Symbols

variable {α : Type} {side : α → Option BracketSide}

/-- From this place to the end there is one opener more than there are closers. -/
def OneOpenerMore (side : α → Option BracketSide) (before : List α) (i : Nat) : Prop :=
  i < before.length ∧ openers side (before.drop i) = closers side (before.drop i) + 1

/-- If no ending has exactly one opener too many, there are not too many openers. -/
theorem openers_le_closers_of_ne {cs : List α}
    (h : ∀ back, back <:+ cs → openers side back ≠ closers side back + 1) :
    openers side cs ≤ closers side cs := by
  induction cs with
  | nil => exact Nat.le_refl _
  | cons a rest ih =>
    have hrest := ih fun back hback => h back (hback.trans (List.suffix_cons a rest))
    cases hside : side a with
    | none =>
      rwa [openers_cons_of_ne (by simp [hside]), closers_cons_of_ne (by simp [hside])]
    | some s =>
      cases s with
      | closer =>
        rw [openers_cons_of_ne (by simp [hside]), closers_cons_closer hside]
        exact Nat.le_succ_of_le hrest
      | opener =>
        have hself := h (a :: rest) (List.suffix_refl _)
        rw [openers_cons_opener hside, closers_cons_of_ne (by simp [hside])] at hself ⊢
        omega

/-- Symbols that do not have too many openers get one too many only from an opener in front of
them, and only if they are even. -/
theorem opener_and_even_of_eq_succ {a : α} {body : List α}
    (hone : openers side (a :: body) = closers side (a :: body) + 1)
    (hbody : openers side body ≤ closers side body) :
    side a = some .opener ∧ openers side body = closers side body := by
  by_cases hside : side a = some .opener
  · rw [openers_cons_opener hside, closers_cons_of_ne (by simp [hside])] at hone
    exact ⟨hside, Nat.succ_injective hone⟩
  · have hclosers : closers side body ≤ closers side (a :: body) :=
      (List.sublist_cons_self a body).countP_le
    rw [openers_cons_of_ne hside] at hone
    omega

/-- An opener behind which all symbols are used up is the greatest such place. -/
theorem isGreatest_of_usesUp {above body : List α} {a : α} (hopener : side a = some .opener)
    (hused : UsesUp side 0 body.reverse) :
    IsGreatest {j | OneOpenerMore side (above ++ a :: body) j} above.length := by
  obtain ⟨heven, henough⟩ := usesUp_reverse_iff.mp hused
  refine ⟨⟨by simp, ?_⟩, fun j hj => ?_⟩
  · rw [List.drop_left, openers_cons_opener hopener, closers_cons_of_ne (by simp [hopener]),
      heven]
  · by_contra hgt
    -- A greater place has an ending of the body behind it.
    obtain ⟨k, rfl⟩ := Nat.exists_eq_add_of_lt (Nat.lt_of_not_le hgt)
    have hone := hj.2
    rw [Nat.add_assoc, List.drop_length_add_append, List.drop_succ_cons] at hone
    have hfew := henough _ (List.drop_suffix k body)
    omega

/-- At the greatest such place there is an opener, and all symbols behind it are used up. -/
theorem exists_usesUp_of_isGreatest {before : List α} {i : Nat}
    (h : IsGreatest {j | OneOpenerMore side before j} i) :
    ∃ above a body, before = above ++ a :: body ∧ above.length = i ∧ side a = some .opener ∧
      UsesUp side 0 body.reverse := by
  obtain ⟨⟨hlt, hone⟩, hgreatest⟩ := h
  have hdrop : before.drop i = before[i] :: before.drop (i + 1) := List.drop_eq_getElem_cons hlt
  -- An ending of what stands behind the place begins at a greater place.
  have hne : ∀ back, back <:+ before.drop (i + 1) →
      openers side back ≠ closers side back + 1 := by
    intro back hback hmore
    obtain ⟨k, rfl⟩ : ∃ k, back = before.drop (i + 1 + k) :=
      ⟨_, (List.suffix_iff_eq_drop.mp hback).trans List.drop_drop⟩
    have hin : i + 1 + k < before.length := by
      by_contra hout
      rw [List.drop_of_length_le (Nat.le_of_not_lt hout)] at hmore
      cases hmore
    have hle := hgreatest ⟨hin, hmore⟩
    omega
  rw [hdrop] at hone
  obtain ⟨hopener, heven⟩ := opener_and_even_of_eq_succ hone (openers_le_closers_of_ne hne)
  have henough : ∀ back, back <:+ before.drop (i + 1) → openers side back ≤ closers side back :=
    fun back hback => openers_le_closers_of_ne fun inner hinner => hne inner (hinner.trans hback)
  refine ⟨before.take i, before[i], before.drop (i + 1), ?_, ?_, hopener,
    usesUp_reverse_iff.mpr ⟨heven, henough⟩⟩
  · rw [← hdrop, List.take_append_drop]
  · exact List.length_take_of_le (Nat.le_of_lt hlt)

/-- The search answers with the greatest place from which on there is one opener more than
there are closers. -/
theorem openerBefore_eq_some_iff_isGreatest {before : List α} {i : Nat} :
    (openerBefore side before).map (fun found => found.1.length) = some i ↔
      IsGreatest {j | OneOpenerMore side before j} i := by
  rw [Option.map_eq_some_iff]
  constructor
  · rintro ⟨⟨above, a⟩, hfound, rfl⟩
    obtain ⟨body, rfl, hopener, hused⟩ := openerBefore_eq_some_iff.mp hfound
    exact isGreatest_of_usesUp hopener hused
  · intro h
    obtain ⟨above, a, body, hsplit, hlength, hopener, hused⟩ := exists_usesUp_of_isGreatest h
    have hfound := openerBefore_eq_some_iff.mpr ⟨body, hsplit, hopener, hused⟩
    exact ⟨(above, a), hfound, hlength⟩

theorem openerBefore_eq_none_iff {before : List α} :
    openerBefore side before = none ↔ ∀ j, ¬ OneOpenerMore side before j := by
  constructor
  · intro hnone j hj
    have hbound : BddAbove {j | OneOpenerMore side before j} :=
      ⟨before.length, fun k hk => Nat.le_of_lt hk.1⟩
    obtain ⟨i, hi⟩ := hbound.exists_isGreatest_of_nonempty ⟨j, hj⟩
    have hsome := openerBefore_eq_some_iff_isGreatest.mpr hi
    rw [hnone] at hsome
    cases hsome
  · intro hno
    cases hfound : openerBefore side before with
    | none => rfl
    | some found =>
      have hgreatest := openerBefore_eq_some_iff_isGreatest.mp (congrArg (Option.map _) hfound)
      exact absurd hgreatest.1 (hno _)

end Symbols

/-! ## Bytes -/

theorem ofByte?_eq_opener_iff {b : UInt8} :
    BracketSide.ofByte? b = some .opener ↔ b = '\x7b'.toUInt8 ∨ b = '('.toUInt8 := by
  rw [BracketSide.ofByte?, ofChar?_eq_opener_iff, ofUInt8_eq_iff (by decide),
    ofUInt8_eq_iff (by decide)]

theorem ofByte?_eq_closer_iff {b : UInt8} :
    BracketSide.ofByte? b = some .closer ↔ b = '\x7d'.toUInt8 ∨ b = ')'.toUInt8 := by
  rw [BracketSide.ofByte?, ofChar?_eq_closer_iff, ofUInt8_eq_iff (by decide),
    ofUInt8_eq_iff (by decide)]

theorem openers_ofByte? (bytes : List UInt8) :
    openers BracketSide.ofByte? bytes =
      bytes.count '\x7b'.toUInt8 + bytes.count '('.toUInt8 :=
  countP_side_eq_count_add (by decide) (fun _ => ofByte?_eq_opener_iff) bytes

theorem closers_ofByte? (bytes : List UInt8) :
    closers BracketSide.ofByte? bytes =
      bytes.count '\x7d'.toUInt8 + bytes.count ')'.toUInt8 :=
  countP_side_eq_count_add (by decide) (fun _ => ofByte?_eq_closer_iff) bytes

/-- The bytes from one offset up to another. -/
def bytesBetween (bytes : List UInt8) (start stop : Nat) : List UInt8 :=
  (bytes.take stop).drop start

/-- From this offset up to the closer, the bytes hold exactly one opening brace or parenthesis
more than closing ones. -/
structure OpenedBefore (bytes : List UInt8) (close i : Nat) : Prop where
  lt : i < close
  one_more :
    (bytesBetween bytes i close).count '\x7b'.toUInt8 +
        (bytesBetween bytes i close).count '('.toUInt8 =
      (bytesBetween bytes i close).count '\x7d'.toUInt8 +
        (bytesBetween bytes i close).count ')'.toUInt8 + 1

theorem oneOpenerMore_ofByte?_iff {bytes : List UInt8} {close i : Nat}
    (h : close ≤ bytes.length) :
    OneOpenerMore BracketSide.ofByte? (bytes.take close) i ↔ OpenedBefore bytes close i := by
  rw [OneOpenerMore, List.length_take_of_le h, openers_ofByte?, closers_ofByte?]
  exact ⟨fun ⟨hlt, hone⟩ => ⟨hlt, hone⟩, fun ⟨hlt, hone⟩ => ⟨hlt, hone⟩⟩

theorem length_utf8Bytes (text : String) : (utf8Bytes text).length = text.utf8ByteSize := rfl

/-- **The opener of a closer.** For every offset of a text, also one inside a character, the
search back from it ends without a fault. It finds an offset exactly if that is the greatest
one from which up to the closer there is one opening brace or parenthesis more than there are
closing ones; at that offset stands an opening one. It finds nothing exactly if there is no
such offset. In front of a character it finds what the search in the characters finds. -/
theorem openerOffset?_finds_nearest {text : String} {close : Nat}
    (h : close ≤ text.utf8ByteSize) :
    ∃ found, openerOffset? (utf8Bytes text) 1 close = .ok found ∧
      (∀ i, found = some i ↔ IsGreatest {j | OpenedBefore (utf8Bytes text) close j} i) ∧
      (∀ i, found = some i → ∃ b, (utf8Bytes text)[i]? = some b ∧
        (b = '\x7b'.toUInt8 ∨ b = '('.toUInt8)) ∧
      (found = none ↔ ∀ j, ¬ OpenedBefore (utf8Bytes text) close j) ∧
      ∀ front after, text.toList = front ++ after → byteSize front = close →
        found = (openerBefore BracketSide.ofChar? front).map fun opened => byteSize opened.1 := by
  have hle : close ≤ (utf8Bytes text).length := by rwa [length_utf8Bytes]
  refine ⟨_, openerOffset?_eq_openerBefore hle, fun i => ?_, fun i hfound => ?_, ?_, ?_⟩
  · rw [openerBefore_eq_some_iff_isGreatest]
    simp only [oneOpenerMore_ofByte?_iff hle]
  · obtain ⟨⟨above, b⟩, hopened, rfl⟩ := Option.map_eq_some_iff.mp hfound
    obtain ⟨body, hsplit, hopener, _⟩ := openerBefore_eq_some_iff.mp hopened
    refine ⟨b, ?_, ofByte?_eq_opener_iff.mp hopener⟩
    have htext : utf8Bytes text = above ++ b :: (body ++ (utf8Bytes text).drop close) := by
      rw [← List.cons_append, ← List.append_assoc, ← hsplit, List.take_append_drop]
    rw [htext]
    simp
  · rw [Option.map_eq_none_iff, openerBefore_eq_none_iff]
    simp only [oneOpenerMore_ofByte?_iff hle]
  · rintro front after hsplit rfl
    have hchars := openerOffset?_eq hsplit
    rw [openerOffset?_eq_openerBefore hle] at hchars
    exact Except.ok.inj hchars

/-- A brace around a closed pair is found from the middle of a wide character. -/
theorem openerOffset?_finds_nearest_wide :
    9 ≤ "a\x7bé(ü)é".utf8ByteSize ∧
      openerOffset? (utf8Bytes "a\x7bé(ü)é") 1 9 = .ok (some 1) ∧
      IsGreatest {j | OpenedBefore (utf8Bytes "a\x7bé(ü)é") 9 j} 1 := by
  have hle : 9 ≤ "a\x7bé(ü)é".utf8ByteSize := by decide
  obtain ⟨found, hrun, hgreatest, _⟩ := openerOffset?_finds_nearest hle
  have hfound : openerOffset? (utf8Bytes "a\x7bé(ü)é") 1 9 = .ok (some 1) := by rfl
  have hsome : found = some 1 := Except.ok.inj (hrun.symm.trans hfound)
  exact ⟨hle, hfound, (hgreatest 1).mp hsome⟩

end Remedy
