import Remedy.Text.Blank

/-!
# Trimmed text

What trimming leaves of a text is the part that has only white space around it and neither
begins nor ends with white space. `IsPadded` says this without the two searches from the ends
(`trimBlanks_eq_iff`).
-/

namespace Remedy

/-- The text is the core with white space around it. -/
structure IsPadded (text left core right : List Char) : Prop where
  split : text = left ++ core ++ right
  left_blank : ∀ c ∈ left, isBlank c = true
  right_blank : ∀ c ∈ right, isBlank c = true

/-- The text neither begins nor ends with white space. -/
structure IsTight (core : List Char) : Prop where
  head : ∀ c ∈ core.head?, isBlank c = false
  last : ∀ c ∈ core.getLast?, isBlank c = false

variable {text left core right : List Char}

theorem IsTight.of_forall (h : ∀ c ∈ core, isBlank c = false) : IsTight core where
  head c hc := h c (List.mem_of_mem_head? hc)
  last c hc := h c (List.mem_of_mem_getLast? hc)

/-- White space is dropped up to a character of another kind. -/
theorem dropWhile_append_eq {blank rest : List Char} (hblank : ∀ c ∈ blank, isBlank c = true)
    (hrest : ∀ c ∈ rest.head?, isBlank c = false) : (blank ++ rest).dropWhile isBlank = rest := by
  rw [List.dropWhile_append_of_pos hblank]
  cases rest with
  | nil => rfl
  | cons c rest =>
    rw [List.dropWhile_cons_of_neg]
    rw [hrest c rfl]
    exact Bool.false_ne_true

/-- There is only white space around what is left of a text. -/
theorem exists_isPadded_trimBlanks (text : List Char) :
    ∃ left right, IsPadded text left (trimBlanks text) right := by
  let rest := text.dropWhile isBlank
  refine ⟨text.takeWhile isBlank, (rest.reverse.takeWhile isBlank).reverse, ?_, ?_, ?_⟩
  · have hrest : trimBlanks text ++ (rest.reverse.takeWhile isBlank).reverse = rest := by
      rw [trimBlanks, ← List.reverse_append, List.takeWhile_append_dropWhile, List.reverse_reverse]
    rw [List.append_assoc, hrest, List.takeWhile_append_dropWhile]
  · intro c hc
    exact List.all_eq_true.mp List.all_takeWhile c hc
  · intro c hc
    exact List.all_eq_true.mp List.all_takeWhile c (List.mem_reverse.mp hc)

theorem IsPadded.trimBlanks_eq (h : IsPadded text left core right) (htight : IsTight core) :
    trimBlanks text = core := by
  rw [trimBlanks, h.split]
  cases core with
  | nil =>
    have hall : ∀ c ∈ left ++ [] ++ right, isBlank c = true := by
      intro c hc
      rw [List.append_nil] at hc
      rcases List.mem_append.mp hc with hleft | hright
      · exact h.left_blank c hleft
      · exact h.right_blank c hright
    rw [← List.append_nil (left ++ [] ++ right), List.dropWhile_append_of_pos hall]
    rfl
  | cons c cs =>
    have hhead : ∀ d ∈ (c :: cs ++ right).head?, isBlank d = false := htight.head
    have hlast : ∀ d ∈ (c :: cs).reverse.head?, isBlank d = false := by
      rw [List.head?_reverse]
      exact htight.last
    have hright : ∀ d ∈ right.reverse, isBlank d = true :=
      fun d hd => h.right_blank d (List.mem_reverse.mp hd)
    rw [List.append_assoc, dropWhile_append_eq h.left_blank hhead, List.reverse_append,
      dropWhile_append_eq hright hlast, List.reverse_reverse]

/-- Trimming a text gives the core exactly if the text is the core with white space around
it. -/
theorem trimBlanks_eq_iff (htight : IsTight core) :
    trimBlanks text = core ↔ ∃ left right, IsPadded text left core right := by
  constructor
  · rintro rfl
    exact exists_isPadded_trimBlanks text
  · rintro ⟨left, right, h⟩
    exact h.trimBlanks_eq htight

/-- What only tight texts have, the trimmed text has exactly if the text is one of these with
white space around it. -/
theorem trimBlanks_iff_exists_isPadded {P : String → Prop} {text : String}
    (htight : ∀ core, P core → IsTight core.toList) :
    P (String.ofList (trimBlanks text.toList)) ↔
      ∃ left core right, IsPadded text.toList left core.toList right ∧ P core := by
  constructor
  · intro h
    obtain ⟨left, right, hpadded⟩ := exists_isPadded_trimBlanks text.toList
    refine ⟨left, _, right, ?_, h⟩
    rwa [String.toList_ofList]
  · rintro ⟨left, core, right, hpadded, h⟩
    have htrimmed := (trimBlanks_eq_iff (htight core h)).mpr ⟨left, right, hpadded⟩
    rwa [htrimmed, String.ofList_toList]

/-- The visible characters of ASCII are no white space. -/
theorem isBlank_of_visible {c : Char} (hlow : 0x20 < c.toNat) (hhigh : c.toNat < 0x7F) :
    isBlank c = false := by
  rw [Bool.eq_false_iff, isBlank]
  intro hblank
  obtain ⟨range, hrange, hle, hge⟩ := (inRanges_iff _ (by decide)).mp hblank
  simp only [blanks, List.mem_cons, List.not_mem_nil, or_false] at hrange
  rcases hrange with rfl | rfl | rfl | rfl | rfl | rfl | rfl | rfl | rfl | rfl
  all_goals
    dsimp only at hle hge
    omega

end Remedy
