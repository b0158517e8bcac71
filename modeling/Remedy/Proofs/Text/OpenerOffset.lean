import Remedy.Link.FormEncoding
import Remedy.Proofs.Text.ByteOffsets
import Remedy.Text.Nesting

/-!
# Looking back for an opener in bytes

The search for an opener can run over the bytes of a text, from the offset of the closer
down, and answer with an offset. `openerOffset?` is that search. It reads one byte at a
time and fails where there is none.

All bytes of a character outside ASCII lie outside ASCII too. So the bytes that count as
brackets are exactly the bracket characters, and the search in bytes ends where the search in
characters ends (`openerOffset?_eq`).
-/

namespace Remedy

open FormEncoding

/-- The side of a bracket pair that a byte is, if the byte is a whole character. -/
def BracketSide.ofByte? (b : UInt8) : Option BracketSide :=
  BracketSide.ofChar? (Char.ofUInt8 b)

/-- Go down from an offset until no closer waits for an opener. -/
def openerOffset? (bytes : List UInt8) : (waiting offset : Nat) → Cutting (Option Nat)
  | 0, offset => return some offset
  | _ + 1, 0 => return none
  | waiting + 1, offset + 1 =>
      match bytes[offset]? with
      | none => throw .outOfRange
      | some b =>
          match BracketSide.ofByte? b with
          | some .opener => openerOffset? bytes waiting offset
          | some .closer => openerOffset? bytes (waiting + 2) offset
          | none => openerOffset? bytes (waiting + 1) offset

/-! ## The search in bytes as a search in symbols -/

/-- The search reads the bytes in front of the offset, nearest first. -/
theorem openerOffset?_eq_unusedOpener {bytes : List UInt8} {offset : Nat} (waiting : Nat)
    (h : offset ≤ bytes.length) :
    openerOffset? bytes (waiting + 1) offset =
      .ok ((unusedOpener BracketSide.ofByte? waiting (bytes.take offset).reverse).map
        fun found => found.2.length) := by
  induction offset generalizing waiting with
  | zero => rfl
  | succ offset ih =>
    have hlt : offset < bytes.length := h
    have hfront : (bytes.take (offset + 1)).reverse =
        bytes[offset] :: (bytes.take offset).reverse := by
      rw [List.take_succ_eq_append_getElem hlt, List.reverse_append]
      rfl
    rw [openerOffset?, List.getElem?_eq_getElem hlt, hfront]
    have hle := Nat.le_of_lt hlt
    cases hside : BracketSide.ofByte? bytes[offset] with
    | none =>
      rw [unusedOpener_cons_none _ _ hside]
      simpa only [hside] using ih waiting hle
    | some side =>
      cases side with
      | closer =>
        rw [unusedOpener_cons_closer _ _ hside]
        simpa only [hside] using ih (waiting + 1) hle
      | opener =>
        cases waiting with
        | zero =>
          have hlength : (bytes.take offset).reverse.length = offset := by
            rw [List.length_reverse, List.length_take_of_le hle]
          rw [unusedOpener_zero_cons _ hside, Option.map_some, hlength]
          simp only [hside, openerOffset?]
          rfl
        | succ waiting =>
          rw [unusedOpener_succ_cons _ _ hside]
          simpa only [hside] using ih waiting hle

/-- The search in bytes is the search for an opener in front of the offset. -/
theorem openerOffset?_eq_openerBefore {bytes : List UInt8} {close : Nat}
    (h : close ≤ bytes.length) :
    openerOffset? bytes 1 close =
      .ok ((openerBefore BracketSide.ofByte? (bytes.take close)).map fun found =>
        found.1.length) := by
  rw [openerOffset?_eq_unusedOpener 0 h, openerBefore, Option.map_map]
  refine congrArg (fun sizeOf => Except.ok (Option.map sizeOf _)) (funext fun found => ?_)
  exact List.length_reverse.symm

/-! ## Brackets in bytes and in characters -/

theorem le_of_mem_utf8EncodeChar {c : Char} (hc : 128 ≤ c.toNat) :
    ∀ b ∈ String.utf8EncodeChar c, 128 ≤ b.toNat := by
  have hlarge : ¬ c.val.toNat ≤ 127 := fun hle => absurd (Nat.le_trans hc hle) (by decide)
  intro b hb
  -- Each byte has its highest bit set, by the summand that marks its place in the character.
  have hbyte : ∃ n, 128 ≤ n ∧ n < 256 ∧ b = UInt8.ofNat n := by
    unfold String.utf8EncodeChar at hb
    simp only [hlarge, if_false] at hb
    repeat' split at hb
    all_goals
      simp only [List.mem_cons, List.not_mem_nil, or_false] at hb
    · rcases hb with rfl | rfl
      · exact ⟨_, by omega, by omega, rfl⟩
      · exact ⟨_, by omega, by omega, rfl⟩
    · rcases hb with rfl | rfl | rfl
      all_goals exact ⟨_, by omega, by omega, rfl⟩
    · rcases hb with rfl | rfl | rfl | rfl
      all_goals exact ⟨_, by omega, by omega, rfl⟩
  obtain ⟨n, hle, hlt, rfl⟩ := hbyte
  rwa [UInt8.toNat_ofNat', Nat.mod_eq_of_lt hlt]

theorem ofChar?_of_large {c : Char} (h : 128 ≤ c.toNat) : BracketSide.ofChar? c = none := by
  unfold BracketSide.ofChar?
  split
  all_goals first | rfl | exact absurd h (by decide)

theorem toNat_ofUInt8 (b : UInt8) : (Char.ofUInt8 b).toNat = b.toNat := UInt8.toNat_toUInt32 b

theorem ofUInt8_eq_iff {b : UInt8} {c : Char} (hc : c.toNat < 256) :
    Char.ofUInt8 b = c ↔ b = c.toUInt8 := by
  have hbyte : c.toUInt8.toNat = c.toNat := by
    show c.toNat % 256 = c.toNat
    exact Nat.mod_eq_of_lt hc
  rw [← Char.toNat_inj, toNat_ofUInt8, ← UInt8.toNat_inj, hbyte]

/-- The bytes of a character that is no bracket are no brackets. -/
theorem ofByte?_of_mem_utf8EncodeChar {c : Char} (h : BracketSide.ofChar? c = none) :
    ∀ b ∈ String.utf8EncodeChar c, BracketSide.ofByte? b = none := by
  intro b hb
  rcases Nat.lt_or_ge c.toNat 128 with hascii | hlarge
  · have hbytes : String.utf8EncodeChar c = [UInt8.ofNat c.toNat] := by
      unfold String.utf8EncodeChar
      exact if_pos (Nat.le_of_lt_succ hascii)
    rw [hbytes, List.mem_singleton] at hb
    have hback : Char.ofUInt8 b = c := (ofUInt8_eq_iff (Nat.lt_trans hascii (by decide))).mpr hb
    rw [BracketSide.ofByte?, hback, h]
  · refine ofChar?_of_large ?_
    rw [toNat_ofUInt8]
    exact le_of_mem_utf8EncodeChar hlarge b hb

/-- A bracket is one byte, and that byte is a bracket of the same side. -/
theorem exists_utf8EncodeChar_eq {c : Char} {side : BracketSide}
    (h : BracketSide.ofChar? c = some side) :
    ∃ b, String.utf8EncodeChar c = [b] ∧ BracketSide.ofByte? b = some side := by
  unfold BracketSide.ofChar? at h
  split at h <;> cases h
  all_goals exact ⟨_, rfl, by decide⟩

theorem unusedOpener_append_of_none {α : Type} {side : α → Option BracketSide} {passed : List α}
    (h : ∀ a ∈ passed, side a = none) (waiting : Nat) (rest : List α) :
    unusedOpener side waiting (passed ++ rest) = unusedOpener side waiting rest := by
  induction passed with
  | nil => rfl
  | cons a passed ih =>
    rw [List.cons_append, unusedOpener_cons_none _ _ (h a List.mem_cons_self)]
    exact ih fun b hb => h b (List.mem_cons_of_mem _ hb)

/-! ## The search in characters -/

/-- The bytes of characters, both read from the end. -/
def backwardBytes (cs : List Char) : List UInt8 :=
  cs.flatMap fun c => (String.utf8EncodeChar c).reverse

theorem length_backwardBytes (cs : List Char) : (backwardBytes cs).length = byteSize cs := by
  induction cs with
  | nil => exact byteSize_nil.symm
  | cons c cs ih =>
    rw [backwardBytes, List.flatMap_cons, List.length_append, List.length_reverse,
      String.length_utf8EncodeChar, byteSize_cons]
    exact congrArg _ ih

theorem unusedOpener_backwardBytes (waiting : Nat) (cs : List Char) :
    (unusedOpener BracketSide.ofByte? waiting (backwardBytes cs)).map
        (fun found => found.2.length) =
      (unusedOpener BracketSide.ofChar? waiting cs).map fun found => byteSize found.2 := by
  induction cs generalizing waiting with
  | nil => rfl
  | cons c cs ih =>
    rw [backwardBytes, List.flatMap_cons]
    cases hside : BracketSide.ofChar? c with
    | none =>
      have hfree : ∀ b ∈ (String.utf8EncodeChar c).reverse, BracketSide.ofByte? b = none :=
        fun b hb => ofByte?_of_mem_utf8EncodeChar hside b (List.mem_reverse.mp hb)
      rw [unusedOpener_append_of_none hfree, unusedOpener_cons_none _ _ hside]
      exact ih waiting
    | some side =>
      obtain ⟨b, hbytes, hb⟩ := exists_utf8EncodeChar_eq hside
      rw [hbytes, List.reverse_singleton, List.singleton_append]
      cases side with
      | closer =>
        rw [unusedOpener_cons_closer _ _ hb, unusedOpener_cons_closer _ _ hside]
        exact ih (waiting + 1)
      | opener =>
        cases waiting with
        | zero =>
          rw [unusedOpener_zero_cons _ hb, unusedOpener_zero_cons _ hside]
          exact congrArg some (length_backwardBytes cs)
        | succ waiting =>
          rw [unusedOpener_succ_cons _ _ hb, unusedOpener_succ_cons _ _ hside]
          exact ih waiting

theorem utf8Bytes_eq (text : String) :
    utf8Bytes text = text.toList.flatMap String.utf8EncodeChar := by
  have hbytes : text.toByteArray = text.toList.utf8Encode := by
    rw [← String.toByteArray_ofList, String.ofList_toList]
  rw [utf8Bytes, String.toUTF8_eq_toByteArray, hbytes, List.utf8Encode]
  simp

theorem reverse_flatMap_utf8EncodeChar (cs : List Char) :
    (cs.flatMap String.utf8EncodeChar).reverse = backwardBytes cs.reverse := by
  rw [List.reverse_flatMap]
  rfl

/-- In the bytes of a text, the search from the end of a front finds what the search in the
characters of that front finds. -/
theorem openerOffset?_eq {text : String} {front after : List Char}
    (h : text.toList = front ++ after) :
    openerOffset? (utf8Bytes text) 1 (byteSize front) =
      .ok ((openerBefore BracketSide.ofChar? front).map fun found => byteSize found.1) := by
  have hbytes : utf8Bytes text =
      front.flatMap String.utf8EncodeChar ++ after.flatMap String.utf8EncodeChar := by
    rw [utf8Bytes_eq, h, List.flatMap_append]
  have hsize : (front.flatMap String.utf8EncodeChar).length = byteSize front := by
    rw [← List.length_reverse, reverse_flatMap_utf8EncodeChar, length_backwardBytes,
      byteSize_reverse]
  have hfront : (utf8Bytes text).take (byteSize front) = front.flatMap String.utf8EncodeChar := by
    rw [hbytes, ← hsize, List.take_left]
  have hle : byteSize front ≤ (utf8Bytes text).length := by
    rw [hbytes, List.length_append, hsize]
    exact Nat.le_add_right _ _
  rw [openerOffset?_eq_unusedOpener 0 hle, hfront, reverse_flatMap_utf8EncodeChar,
    unusedOpener_backwardBytes, openerBefore, Option.map_map]
  refine congrArg (fun sizeOf => Except.ok (Option.map sizeOf _)) (funext fun found => ?_)
  exact (byteSize_reverse found.2).symm

end Remedy
