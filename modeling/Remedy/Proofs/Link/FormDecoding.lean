import Remedy.Link.FormEncoding

/-!
# Reading form encoding back

Every byte is written as one to three characters from a small alphabet. The
alphabet holds none of the characters that structure a query, and the written
form of a byte tells where it ends, so a run of written bytes is read back one
byte at a time. A value is its UTF-8 bytes, and those make up the value again.
-/

namespace Remedy

namespace FormEncoding

/-! ## The written alphabet -/

/-- The characters that a written value consists of. -/
def IsWritten (c : Char) : Prop := c.isAlphanum = true ∨ c ∈ ['.', '-', '*', '_', '+', '%']

instance (c : Char) : Decidable (IsWritten c) := inferInstanceAs (Decidable (_ ∨ _))

theorem isWritten_hexDigit : ∀ n < 16, IsWritten (hexDigit n) := by decide

theorem isWritten_of_isPlain {b : UInt8} (h : isPlain b = true) :
    IsWritten (Char.ofNat b.toNat) := by
  simp only [isPlain, Bool.or_eq_true, beq_iff_eq] at h
  rcases h with (((h | h) | h) | h) | h
  · exact .inl h
  all_goals exact .inr (by simp [h])

theorem isWritten_of_mem_encodeByte {b : UInt8} {c : Char} (h : c ∈ encodeByte b) :
    IsWritten c := by
  unfold encodeByte at h
  split at h
  next hplain =>
    rw [List.mem_singleton.mp h]
    exact isWritten_of_isPlain hplain
  next =>
    split at h
    next =>
      rw [List.mem_singleton.mp h]
      decide
    next =>
      have hb := b.toNat_lt
      simp only [List.mem_cons, List.not_mem_nil, or_false] at h
      rcases h with rfl | rfl | rfl
      · decide
      · exact isWritten_hexDigit _ (by omega)
      · exact isWritten_hexDigit _ (by omega)

theorem isWritten_of_mem_encode {value : String} {c : Char} (h : c ∈ (encode value).toList) :
    IsWritten c := by
  rw [encode, String.toList_ofList] at h
  obtain ⟨b, _, hc⟩ := List.mem_flatMap.mp h
  exact isWritten_of_mem_encodeByte hc

/-! ## One byte -/

theorem hexValue?_hexDigit : ∀ n < 16, hexValue? (hexDigit n) = some n := by decide

/-- A plain byte is an ASCII character, and neither of the two that reading
treats specially. -/
theorem plain_char : ∀ n < 256, isPlain (UInt8.ofNat n) = true →
    Char.ofNat n ≠ '+' ∧ Char.ofNat n ≠ '%' ∧
      String.utf8EncodeChar (Char.ofNat n) = [UInt8.ofNat n] := by
  decide +kernel

theorem decodeBytes_cons_of_ne {c : Char} (rest : List Char) (hplus : c ≠ '+')
    (hpercent : c ≠ '%') :
    decodeBytes (c :: rest) = (decodeBytes rest).map (String.utf8EncodeChar c ++ ·) := by
  rw [decodeBytes]
  · cases decodeBytes rest <;> simp [hplus, hpercent]
  · intro high low tail hc
    exact absurd hc hpercent

theorem decodeBytes_plus (rest : List Char) :
    decodeBytes ('+' :: rest) = (decodeBytes rest).map (0x20 :: ·) := by
  rw [decodeBytes]
  · cases decodeBytes rest <;> simp
  · simp

theorem decodeBytes_escape {h l : Nat} (hh : h < 16) (hl : l < 16) (rest : List Char) :
    decodeBytes ('%' :: hexDigit h :: hexDigit l :: rest) =
      (decodeBytes rest).map (UInt8.ofNat (16 * h + l) :: ·) := by
  rw [decodeBytes, hexValue?_hexDigit h hh, hexValue?_hexDigit l hl]
  cases decodeBytes rest <;> rfl

/-- A written byte is read back, and reading goes on right behind it. -/
theorem decodeBytes_encodeByte (b : UInt8) (rest : List Char) :
    decodeBytes (encodeByte b ++ rest) = (decodeBytes rest).map (b :: ·) := by
  -- One case for each way to write a byte: plain, as a plus sign, as an escape.
  have hb := b.toNat_lt
  unfold encodeByte
  split
  next hplain =>
    obtain ⟨hplus, hpercent, hbytes⟩ := plain_char b.toNat hb (by simpa using hplain)
    rw [List.singleton_append, decodeBytes_cons_of_ne rest hplus hpercent, hbytes]
    simp
  next =>
    split
    next hspace => rw [List.singleton_append, decodeBytes_plus, hspace]
    next =>
      have hsplit : 16 * (b.toNat / 16) + b.toNat % 16 = b.toNat := by omega
      rw [List.cons_append, List.cons_append, List.cons_append, List.nil_append,
        decodeBytes_escape (by omega) (by omega), hsplit, UInt8.ofNat_toNat]

/-! ## Whole values -/

theorem decodeBytes_flatMap_encodeByte (bytes : List UInt8) :
    decodeBytes (bytes.flatMap encodeByte) = some bytes := by
  induction bytes with
  | nil => rfl
  | cons b rest ih => rw [List.flatMap_cons, decodeBytes_encodeByte, ih, Option.map_some]

theorem fromUTF8?_utf8Bytes (s : String) : String.fromUTF8? ⟨(utf8Bytes s).toArray⟩ = some s := by
  have hbytes : (⟨(utf8Bytes s).toArray⟩ : ByteArray) = s.toByteArray := by
    rw [utf8Bytes, Array.toArray_toList, String.toUTF8_eq_toByteArray]
  rw [hbytes, String.fromUTF8?, dif_pos s.isValidUTF8]
  rfl

/-- Every value is read back from its written form. -/
theorem decode_encode (value : String) : decode (encode value) = some value := by
  rw [decode, encode, String.toList_ofList, decodeBytes_flatMap_encodeByte]
  exact fromUTF8?_utf8Bytes value

end FormEncoding

end Remedy
