import Remedy.Proofs.Advice.DemoTexts

/-!
# Demo values are literals of their types

Whatever words a source gives, a demo value reads as a value of the type it was asked for
(`LiteralOf`): a numeral for the whole types, a number with two places for the others, and so
on. A type that is not built in gets a creation, which is made from the name alone.

A fraction of one is drawn in steps of `2 ^ -53` and its tenfold is rounded twice, to a
significand of 53 bits and to two places. Neither rounding goes past ten, because ten is a
number of either kind. So the greatest value is `10.00`, and the greatest fractions do reach
it.
-/

namespace Remedy

/-! ## Tenfold fractions -/

/-- The tenfold of a fraction of one is at most ten when it is written. -/
theorem DemoForm.hundredthsOfTenfold_le {numerator : Nat} (h : numerator < 1 <<< 53) :
    hundredthsOfTenfold numerator ≤ 1000 := by
  have hbits : (10 * numerator).log2 < 57 := by
    rcases Nat.eq_zero_or_pos numerator with rfl | hpos
    · decide
    · rw [Nat.log2_lt (by omega)]
      omega
  -- The significand of such a tenfold ends with a unit of sixteen at most.
  have hunit : 1 <<< ((10 * numerator).log2 + 1 - 53) ∣ 10 * 1 <<< 53 := by
    rw [Nat.one_shiftLeft, Nat.one_shiftLeft]
    exact Nat.dvd_mul_left_of_dvd (Nat.pow_dvd_pow 2 (by omega)) 10
  have hproduct : roundToBits 53 (10 * numerator) ≤ 10 * 1 <<< 53 := roundToBits_le (by omega) hunit
  exact roundHalfEven_le (by decide) (by omega)

/-- The greatest fraction is written as ten. -/
example : hundredthsText (DemoForm.hundredthsOfTenfold (1 <<< 53 - 1)) = "10.00" := by decide

/-! ## Numerals -/

/-- The text is the numeral of the number: no zero stands in front of other digits. -/
structure IsNumeral (text : String) (n : Nat) : Prop extends IsDigits text n where
  no_leading_zero : text.toList.head? = some '0' → text = "0"

theorem eq_zero_of_head?_repr {n : Nat} (h : n.repr.toList.head? = some '0') : n = 0 := by
  rcases Nat.lt_or_ge n 10 with hlt | hge
  · rw [Nat.repr_of_lt hlt] at h
    simpa using h
  · have hfront : (n / 10).repr.toList.head? = some '0' := by
      rw [Nat.repr_of_ge hge, String.toList_append] at h
      rwa [List.head?_append_of_ne_nil] at h
      simp
    have := eq_zero_of_head?_repr hfront
    omega

theorem isNumeral_repr (n : Nat) : IsNumeral n.repr n where
  toIsDigits := isDigits_repr n
  no_leading_zero h := by rw [eq_zero_of_head?_repr h]; rfl

/-! ## Literals -/

/-- The literals that demo values of a type are taken from. -/
inductive LiteralOf : (type text : String) → Prop
  /-- A whole number below 100. -/
  | whole {type text : String} {n : Nat} (htype : type ∈ ["byte", "short", "int", "long"])
      (hn : n < 100) (htext : IsNumeral text n) : LiteralOf type text
  /-- One or two digits, a dot and two digits: `n` and `m` hundredths, ten at most. -/
  | decimal {type whole places : String} {n m : Nat} (htype : type ∈ ["float", "double"])
      (hwhole : IsNumeral whole n) (hlength : whole.length ≤ 2) (hplaces : IsDigits places m)
      (htwo : places.length = 2) (hten : 100 * n + m ≤ 1000) :
      LiteralOf type (whole ++ "." ++ places)
  /-- One of the two truth values. -/
  | truth {text : String} (htext : text = "true" ∨ text = "false") : LiteralOf "boolean" text
  /-- A lower-case letter other than `w`. -/
  | letter {c : Char} (hlower : c.isLower = true) (hw : c ≠ 'w') :
      LiteralOf "char" (String.singleton c)
  /-- The fixed text in quotes. -/
  | greeting : LiteralOf "String" "\"hello world\""
  /-- An object or array of any other type. -/
  | creation {type text : String} (htype : type ∉ "String" :: Snippet.primitiveTypes)
      (htext : "new ".toList <+: text.toList) : LiteralOf type text

variable {type text : String}

theorem LiteralOf.ne_empty (h : LiteralOf type text) : text ≠ "" := by
  cases h with
  | whole _ _ htext => exact htext.nonempty
  | decimal => exact fun hempty => by simp at hempty
  | truth htext => rcases htext with rfl | rfl <;> decide
  | letter => exact fun hempty => by simp at hempty
  | greeting => decide
  | creation _ htext =>
    rintro rfl
    exact absurd htext (by decide)

theorem literalOf_hundredthsText {hundredths : Nat} (htype : type ∈ ["float", "double"])
    (hten : hundredths ≤ 1000) : LiteralOf type (hundredthsText hundredths) := by
  have hlength : (hundredths / 100).repr.length ≤ 2 := by
    rw [Nat.length_repr_le_iff (by decide)]
    omega
  have htwo : ((hundredths % 100 / 10).repr ++ (hundredths % 100 % 10).repr).length = 2 := by
    rw [String.length_append, Nat.repr_of_lt (by omega), Nat.repr_of_lt (by omega),
      String.length_singleton, String.length_singleton]
  have hplaces := (isDigits_repr (hundredths % 100 / 10)).append_repr
    (Nat.mod_lt (hundredths % 100) (by decide))
  have hliteral := LiteralOf.decimal htype (isNumeral_repr (hundredths / 100)) hlength hplaces htwo
    (by omega)
  rwa [← String.append_assoc] at hliteral

theorem DemoForm.isLower_get_letters (i : Fin 25) : (letters.get i).isLower = true := by
  revert i
  decide

theorem DemoForm.get_letters_ne (i : Fin 25) : letters.get i ≠ 'w' := by
  revert i
  decide

/-- Each text of the form that a type asks for is a literal of the type. -/
theorem literalOf_of_writes (h : (DemoForm.ofType type).Writes text) : LiteralOf type text := by
  by_cases hunnamed : type ∉ "String" :: Snippet.primitiveTypes
  · rw [DemoForm.ofType_of_unnamed hunnamed] at h
    refine .creation hunnamed ?_
    split at h <;> cases h <;> simp
  unfold DemoForm.ofType at h
  split at h
  case isTrue htype =>
    cases h with
    | whole n => exact .whole htype n.isLt (isNumeral_repr n)
  split at h
  case isTrue htype =>
    cases h with
    | decimal hnumerator =>
      exact literalOf_hundredthsText htype (DemoForm.hundredthsOfTenfold_le hnumerator)
  split at h
  case isTrue htype =>
    subst htype
    cases h with
    | truth heads => exact .truth (by cases heads <;> simp)
  split at h
  case isTrue htype =>
    subst htype
    cases h with
    | letter i => exact .letter (DemoForm.isLower_get_letters i) (DemoForm.get_letters_ne i)
  split at h
  case isTrue htype =>
    subst htype
    cases h with
    | greeting => exact .greeting
  -- All names that are left have been told apart from the built-in ones.
  case isFalse =>
    refine absurd ?_ hunnamed
    simp_all [Snippet.primitiveTypes]

/-! ## Values -/

/-- **Demo values are literals.** Whatever a source of random words holds, the value of a type
is a literal of it, so it is not empty. Only the values of the built-in types are drawn. For
any other name, the empty one too, one text is given by every source, and no word is taken. -/
theorem Demo.literalOf_value (type : String) :
    (∀ {σ : Type} [RandomSource σ] (source : σ),
      LiteralOf type (value type source).1 ∧ (value type source).1 ≠ "") ∧
      (type ∈ Snippet.primitiveTypes ∨
        ∃ text, ∀ {σ : Type} [RandomSource σ] (source : σ),
          value type source = (text, source)) := by
  constructor
  · intro σ _ source
    have hliteral := literalOf_of_writes (DemoForm.ensures_writes (DemoForm.ofType type) source)
    exact ⟨hliteral, hliteral.ne_empty⟩
  · by_cases htype : type ∈ Snippet.primitiveTypes
    · exact .inl htype
    · exact .inr (DemoForm.fixed_ofType htype).exists_text

end Remedy
