/-!
# Cutting text at a character

Text is cut at the first or at the last occurrence of a character, and the
character itself is dropped. The two equivalences say that a cut is the one way
to split a text at that occurrence.
-/

namespace Remedy

/-- The text before and after the first `mark`. -/
def cutFirst (mark : Char) (cs : List Char) : Option (List Char × List Char) :=
  match cs.dropWhile (· != mark) with
  | [] => none
  | _ :: after => some (cs.takeWhile (· != mark), after)

/-- The text before and after the last `mark`. -/
def cutLast (mark : Char) (cs : List Char) : Option (List Char × List Char) :=
  (cutFirst mark cs.reverse).map fun (before, after) => (after.reverse, before.reverse)

/-- The text after the last `mark`, the whole text if there is none. -/
def afterLast (mark : Char) (cs : List Char) : List Char :=
  match cutLast mark cs with
  | some (_, after) => after
  | none => cs

/-- The pieces of a text between its marks; a text without one is one piece. -/
def cutAll (mark : Char) : List Char → List (List Char)
  | [] => [[]]
  | c :: rest =>
      if c = mark then [] :: cutAll mark rest
      else
        match cutAll mark rest with
        | [] => [[c]]
        | piece :: pieces => (c :: piece) :: pieces

theorem cutFirst_cons (mark c : Char) (rest : List Char) :
    cutFirst mark (c :: rest) =
      if c = mark then some ([], rest)
      else (cutFirst mark rest).map fun (before, after) => (c :: before, after) := by
  unfold cutFirst
  by_cases h : c = mark
  · simp [h]
  · rw [if_neg h, List.dropWhile_cons_of_pos (by simpa using h),
      List.takeWhile_cons_of_pos (by simpa using h)]
    split <;> simp_all

theorem cutFirst_eq_some_iff {mark : Char} {cs before after : List Char} :
    cutFirst mark cs = some (before, after) ↔ cs = before ++ mark :: after ∧ mark ∉ before := by
  induction cs generalizing before with
  | nil => simp [cutFirst]
  | cons c rest ih =>
    rw [cutFirst_cons]
    split
    next h =>
      subst h
      constructor
      · rintro ⟨⟩
        simp
      · rintro ⟨h, hnot⟩
        cases before with
        | nil => simpa [eq_comm] using h
        | cons b before => simp_all
    next h =>
      simp only [Option.map_eq_some_iff, Prod.mk.injEq, Prod.exists]
      constructor
      · rintro ⟨b, a, hcut, rfl, rfl⟩
        obtain ⟨rfl, hnot⟩ := ih.mp hcut
        simp [hnot, Ne.symm h]
      · rintro ⟨heq, hnot⟩
        cases before with
        | nil => simp_all
        | cons b before =>
          simp only [List.cons_append, List.cons.injEq] at heq
          obtain ⟨rfl, rfl⟩ := heq
          exact ⟨before, after, ih.mpr ⟨rfl, fun hm => hnot (List.mem_cons_of_mem _ hm)⟩, rfl, rfl⟩

theorem cutLast_eq_some_iff {mark : Char} {cs before after : List Char} :
    cutLast mark cs = some (before, after) ↔ cs = before ++ mark :: after ∧ mark ∉ after := by
  simp only [cutLast, Option.map_eq_some_iff, Prod.mk.injEq, Prod.exists, cutFirst_eq_some_iff]
  constructor
  · rintro ⟨b, a, ⟨h, hnot⟩, rfl, rfl⟩
    exact ⟨by simpa using congrArg List.reverse h, by simpa using hnot⟩
  · rintro ⟨rfl, hnot⟩
    exact ⟨after.reverse, before.reverse, by simpa using hnot, by simp, by simp⟩

theorem cutFirst_eq_none_iff {mark : Char} {cs : List Char} :
    cutFirst mark cs = none ↔ mark ∉ cs := by
  induction cs with
  | nil => simp [cutFirst]
  | cons c rest ih =>
    rw [cutFirst_cons]
    split
    next h => simp [h]
    next h => simp [ih, Ne.symm h]

theorem cutLast_eq_none_iff {mark : Char} {cs : List Char} :
    cutLast mark cs = none ↔ mark ∉ cs := by
  rw [cutLast, Option.map_eq_none_iff, cutFirst_eq_none_iff, List.mem_reverse]

/-- What stands after the last mark has no mark, and what is cut off before it is
nothing or ends with a mark. -/
theorem exists_append_afterLast (mark : Char) (cs : List Char) :
    ∃ before, cs = before ++ afterLast mark cs ∧ mark ∉ afterLast mark cs ∧
      (before = [] ∨ ∃ earlier, before = earlier ++ [mark]) := by
  cases hcut : cutLast mark cs with
  | none =>
    refine ⟨[], ?_, ?_, .inl rfl⟩
    · simp [afterLast, hcut]
    · simpa [afterLast, hcut] using cutLast_eq_none_iff.mp hcut
  | some parts =>
    obtain ⟨earlier, after⟩ := parts
    obtain ⟨hcs, hnot⟩ := cutLast_eq_some_iff.mp hcut
    refine ⟨earlier ++ [mark], ?_, ?_, .inr ⟨earlier, rfl⟩⟩
    · simpa [afterLast, hcut] using hcs
    · simpa [afterLast, hcut] using hnot

theorem cutAll_of_notMem {mark : Char} {piece : List Char} (h : mark ∉ piece) :
    cutAll mark piece = [piece] := by
  induction piece with
  | nil => rfl
  | cons c rest ih =>
    rw [List.mem_cons, not_or] at h
    rw [cutAll, if_neg (Ne.symm h.1), ih h.2]

theorem cutAll_append_mark {mark : Char} {piece rest : List Char} (h : mark ∉ piece) :
    cutAll mark (piece ++ mark :: rest) = piece :: cutAll mark rest := by
  induction piece with
  | nil => rw [List.nil_append, cutAll, if_pos rfl]
  | cons c piece ih =>
    rw [List.mem_cons, not_or] at h
    rw [List.cons_append, cutAll, if_neg (Ne.symm h.1), ih h.2]

/-- No piece of a text holds the mark. -/
theorem notMem_of_mem_cutAll {mark : Char} {cs piece : List Char} (h : piece ∈ cutAll mark cs) :
    mark ∉ piece := by
  induction cs generalizing piece with
  | nil =>
    rw [List.mem_singleton.mp h]
    exact List.not_mem_nil
  | cons c rest ih =>
    rw [cutAll] at h
    split at h
    next =>
      rcases List.mem_cons.mp h with rfl | hrest
      · exact List.not_mem_nil
      · exact ih hrest
    next hc =>
      split at h
      next =>
        rw [List.mem_singleton.mp h, List.mem_singleton]
        exact Ne.symm hc
      next first pieces hpieces =>
        rcases List.mem_cons.mp h with rfl | hrest
        · rw [List.mem_cons, not_or]
          exact ⟨Ne.symm hc, ih (hpieces ▸ List.mem_cons_self)⟩
        · exact ih (hpieces ▸ List.mem_cons_of_mem _ hrest)

/-- Pieces without the mark are what a text joined with marks is cut into. -/
theorem cutAll_intercalate {mark : Char} {pieces : List (List Char)} (hne : pieces ≠ [])
    (h : ∀ piece ∈ pieces, mark ∉ piece) : cutAll mark ([mark].intercalate pieces) = pieces := by
  induction pieces with
  | nil => exact absurd rfl hne
  | cons piece rest ih =>
    have hpiece := h piece List.mem_cons_self
    cases rest with
    | nil => rw [List.intercalate_singleton, cutAll_of_notMem hpiece]
    | cons next rest =>
      have htail := ih (by simp) fun other hother => h other (List.mem_cons_of_mem _ hother)
      rw [List.intercalate_cons_cons, List.append_assoc, List.singleton_append,
        cutAll_append_mark hpiece, htail]

/-- A joined text is cut into the pieces it was joined from exactly if none of them
holds the mark. -/
theorem cutAll_intercalate_eq_iff {mark : Char} {pieces : List (List Char)} (hne : pieces ≠ []) :
    cutAll mark ([mark].intercalate pieces) = pieces ↔ ∀ piece ∈ pieces, mark ∉ piece := by
  constructor
  · intro h piece hpiece
    rw [← h] at hpiece
    exact notMem_of_mem_cutAll hpiece
  · exact cutAll_intercalate hne

end Remedy
