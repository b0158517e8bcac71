/-!
# Digits

The numbers that decimal digits read as. Zeros may stand in front.
-/

namespace Remedy

theorem isDigit_of_mem_repr {n : Nat} {c : Char} (h : c ∈ n.repr.toList) : c.isDigit = true := by
  rw [Nat.toList_repr] at h
  exact Nat.isDigit_of_mem_toDigits (b := 10) (by decide) (by decide) h

/-- The text consists of decimal digits that read as the number. -/
structure IsDigits (text : String) (n : Nat) : Prop where
  nonempty : text ≠ ""
  digits : ∀ c ∈ text.toList, c.isDigit = true
  value : Nat.ofDigitChars 10 text.toList 0 = n

theorem isDigits_repr (n : Nat) : IsDigits n.repr n where
  nonempty := Nat.repr_ne_empty
  digits _ hc := isDigit_of_mem_repr hc
  value := by rw [Nat.toList_repr, Nat.ofDigitChars_ten_toDigits]

theorem IsDigits.append_repr {text : String} {n digit : Nat} (h : IsDigits text n)
    (hdigit : digit < 10) : IsDigits (text ++ digit.repr) (10 * n + digit) where
  nonempty hempty := h.nonempty (String.append_eq_empty_iff.mp hempty).1
  digits c hc := by
    rw [String.toList_append] at hc
    rcases List.mem_append.mp hc with hfront | hlast
    · exact h.digits c hfront
    · exact isDigit_of_mem_repr hlast
  value := by
    rw [String.toList_append, Nat.ofDigitChars_append, h.value, Nat.repr_of_lt hdigit,
      String.toList_singleton, Nat.ofDigitChars_cons_digitChar_of_lt_ten hdigit,
      Nat.ofDigitChars_nil]

end Remedy
