/-!
# Rounding fractions

Quotients of natural numbers rounded to the nearest whole number, with a tie
going to the even neighbour. A binary significand of limited length and a
decimal with limited places are both such quotients.
-/

namespace Remedy

/-- `num / den` rounded to the nearest whole number, ties to even. -/
def roundHalfEven (num den : Nat) : Nat :=
  let quotient := num / den
  let rest := num % den
  if 2 * rest < den then quotient
  else if den < 2 * rest then quotient + 1
  else quotient + quotient % 2

/-- The nearest number to `n` with at most `bits` significant bits, ties to
even. -/
def roundToBits (bits n : Nat) : Nat :=
  let unit := 1 <<< (n.log2 + 1 - bits)
  roundHalfEven n unit * unit

/-- A number of hundredths written with two places. -/
def hundredthsText (hundredths : Nat) : String :=
  let places := hundredths % 100
  toString (hundredths / 100) ++ "." ++ toString (places / 10) ++ toString (places % 10)

/-- The result lies within half a unit of the quotient. -/
theorem roundHalfEven_near {num den : Nat} (hden : 0 < den) :
    2 * num ≤ 2 * (den * roundHalfEven num den) + den ∧
      2 * (den * roundHalfEven num den) ≤ 2 * num + den := by
  have hnum := Nat.div_add_mod num den
  have hrest := Nat.mod_lt num hden
  unfold roundHalfEven
  generalize num / den = q at *
  simp only
  split
  · omega
  · split
    · rw [Nat.mul_add]
      omega
    · rcases Nat.mod_two_eq_zero_or_one q with h | h <;> rw [h, Nat.mul_add] <;> omega

/-- A quotient is not rounded past a whole number. -/
theorem roundHalfEven_le {num den bound : Nat} (hden : 0 < den) (h : num ≤ den * bound) :
    roundHalfEven num den ≤ bound := by
  have hnear : 2 * (den * roundHalfEven num den) ≤ 2 * num + den := (roundHalfEven_near hden).2
  have hlt : den * roundHalfEven num den < den * (bound + 1) := by
    rw [Nat.mul_add]
    omega
  exact Nat.lt_succ_iff.mp (Nat.lt_of_mul_lt_mul_left hlt)

/-- A number is not rounded past a multiple of the unit that its significand ends with. -/
theorem roundToBits_le {bits n bound : Nat} (h : n ≤ bound)
    (hunit : 1 <<< (n.log2 + 1 - bits) ∣ bound) : roundToBits bits n ≤ bound := by
  obtain ⟨steps, rfl⟩ := hunit
  have hpos : 0 < 1 <<< (n.log2 + 1 - bits) := by
    rw [Nat.one_shiftLeft]
    exact Nat.two_pow_pos _
  rw [roundToBits, Nat.mul_comm]
  exact Nat.mul_le_mul_left _ (roundHalfEven_le hpos h)

end Remedy
