import Remedy.TypeName

/-!
# Short names and dots

A short name is what a name is without its qualifiers, and a qualifier ends with a dot.
No dot is left in a short name (`dot_notMem_shortTypeName`), and a name that has none is
short already. So a dot tells the names that shortening changes from those it leaves as
they are, one by one and in a list that is written as one text, and shortening twice is
shortening once. Whatever a generic name holds besides names and dots is kept as it stands,
well-formed or not (`shortTypeName_settled`).
-/

namespace Remedy

/-! ## Dropped qualifiers -/

variable {inRun : Char → Bool} {xs ys : List Char}

theorem dropQualifiers_of_notMem {cs : List Char} (inRun : Char → Bool) (h : '.' ∉ cs) :
    dropQualifiers inRun cs = cs := by
  induction cs with
  | nil => rfl
  | cons c rest ih =>
    rw [List.mem_cons, not_or] at h
    have hrun : (rest.takeWhile inRun).contains '.' = false := by
      simpa using fun hdot => h.2 ((List.takeWhile_sublist inRun).mem hdot)
    rw [dropQualifiers_cons, ih h.2, hrun]
    simp [Ne.symm h.1]

/-- Texts are shortened one by one where the second one does not go on with a run that has
a dot. -/
theorem dropQualifiers_append (xs : List Char) (h : '.' ∉ ys.takeWhile inRun) :
    dropQualifiers inRun (xs ++ ys) = dropQualifiers inRun xs ++ dropQualifiers inRun ys := by
  induction xs with
  | nil => rfl
  | cons c rest ih =>
    have hrun : ((rest ++ ys).takeWhile inRun).contains '.' =
        (rest.takeWhile inRun).contains '.' := by
      rw [List.takeWhile_append]
      split
      next hall =>
        rw [(List.takeWhile_prefix inRun).eq_of_length hall]
        simpa using fun hmem => absurd hmem h
      next => rfl
    rw [List.cons_append, dropQualifiers_cons, dropQualifiers_cons, hrun, ih]
    split <;> rfl

theorem dropQualifiers_cons_of_mark {mark : Char} (hmark : inRun mark = false) :
    dropQualifiers inRun (mark :: ys) = mark :: dropQualifiers inRun ys := by
  rw [dropQualifiers_cons, hmark, Bool.false_and, if_neg Bool.false_ne_true]

/-- A character that belongs to no run parts the texts before and behind it. -/
theorem dropQualifiers_append_cons {mark : Char} (hmark : inRun mark = false) :
    dropQualifiers inRun (xs ++ mark :: ys) =
      dropQualifiers inRun xs ++ mark :: dropQualifiers inRun ys := by
  have hnone : (mark :: ys).takeWhile inRun = [] := by simp [hmark]
  rw [dropQualifiers_append xs (by simp [hnone]), dropQualifiers_cons_of_mark hmark]

/-- A run goes up to its last dot. -/
theorem dropQualifiers_append_dot (hdot : inRun '.' = true) (h : ∀ c ∈ xs, inRun c = true) :
    dropQualifiers inRun (xs ++ '.' :: ys) = dropQualifiers inRun ys := by
  induction xs with
  | nil => simp [dropQualifiers_cons, hdot]
  | cons c rest ih =>
    obtain ⟨hc, hrest⟩ := List.forall_mem_cons.mp h
    have hrun : ((rest ++ '.' :: ys).takeWhile inRun).contains '.' = true := by
      rw [List.takeWhile_append_of_pos hrest, List.takeWhile_cons_of_pos hdot]
      simp
    rw [List.cons_append, dropQualifiers_cons, hc, hrun, Bool.or_true, Bool.and_true, if_pos rfl,
      ih hrest]

/-- A text without dots is kept behind any other. -/
theorem dropQualifiers_append_of_notMem (h : '.' ∉ ys) :
    dropQualifiers inRun (xs ++ ys) = dropQualifiers inRun xs ++ ys := by
  have hrun : '.' ∉ ys.takeWhile inRun := fun hdot => h ((List.takeWhile_sublist inRun).mem hdot)
  rw [dropQualifiers_append xs hrun, dropQualifiers_of_notMem inRun h]

theorem dropQualifiers_sublist (inRun : Char → Bool) (cs : List Char) :
    (dropQualifiers inRun cs).Sublist cs := by
  induction cs with
  | nil => exact .slnil
  | cons c rest ih =>
    rw [dropQualifiers_cons]
    split
    · exact ih.cons c
    · exact ih.cons_cons c

/-- The characters outside the runs are kept, all of them and in their order. -/
theorem filter_dropQualifiers (inRun : Char → Bool) (cs : List Char) :
    (dropQualifiers inRun cs).filter (fun c => !inRun c) = cs.filter fun c => !inRun c := by
  induction cs with
  | nil => rfl
  | cons c rest ih =>
    rw [dropQualifiers_cons]
    split
    next hdropped =>
      -- Only a character of a run is dropped, and the filter does not let it through either.
      have hrun : inRun c = true := (Bool.and_eq_true_iff.mp hdropped).1
      rw [ih, List.filter_cons_of_neg (by simp [hrun])]
    next => rw [List.filter_cons, List.filter_cons, ih]

/-- A dot in a run goes, so none is left if dots are part of runs. -/
theorem dot_notMem_dropQualifiers {inRun : Char → Bool} (hdot : inRun '.' = true)
    (cs : List Char) : '.' ∉ dropQualifiers inRun cs := by
  induction cs with
  | nil => exact List.not_mem_nil
  | cons c rest ih =>
    rw [dropQualifiers_cons]
    split
    next => exact ih
    next hkept =>
      have hc : '.' ≠ c := by
        rintro rfl
        simp [hdot] at hkept
      rw [List.mem_cons, not_or]
      exact ⟨hc, ih⟩

/-! ## Runs of names -/

/-- The characters of names belong to runs, whether the name is generic or not. -/
theorem isRunPart_of_isIdentifierPart (generic : Bool) {c : Char} (h : isIdentifierPart c = true) :
    isRunPart generic c = true := by
  simp [isRunPart, isQualifiedNamePart, h]

theorem isRunPart_dot (generic : Bool) : isRunPart generic '.' = true := by
  cases generic <;> decide

theorem toList_angles (name arguments : String) :
    (name ++ "<" ++ arguments ++ ">").toList =
      name.toList ++ '<' :: (arguments.toList ++ ['>']) := by
  simp

theorem toList_comma_blank (item others : String) :
    (item ++ ", " ++ others).toList = item.toList ++ ',' :: ' ' :: others.toList := by
  simp

theorem toList_dot (owner member : String) :
    (owner ++ "." ++ member).toList = owner.toList ++ '.' :: member.toList := by
  simp

/-- Angle brackets part a name from its arguments, and these from what follows. -/
theorem dropQualifiers_append_angles (xs ys zs : List Char) :
    dropQualifiers (isRunPart true) (xs ++ '<' :: (ys ++ '>' :: zs)) =
      dropQualifiers (isRunPart true) xs ++
        '<' :: (dropQualifiers (isRunPart true) ys ++
          '>' :: dropQualifiers (isRunPart true) zs) := by
  have hopen : isRunPart true '<' = false := by decide
  have hclose : isRunPart true '>' = false := by decide
  rw [dropQualifiers_append_cons hopen, dropQualifiers_append_cons hclose]

/-- A comma with a blank behind it parts one argument from the next. -/
theorem dropQualifiers_append_comma_blank (xs ys : List Char) :
    dropQualifiers (isRunPart true) (xs ++ ',' :: ' ' :: ys) =
      dropQualifiers (isRunPart true) xs ++ ',' :: ' ' :: dropQualifiers (isRunPart true) ys := by
  have hcomma : isRunPart true ',' = false := by decide
  have hblank : isRunPart true ' ' = false := by decide
  rw [dropQualifiers_append_cons hcomma, dropQualifiers_cons_of_mark hblank]

/-- A word without dots stays as it is in front of a blank. -/
theorem dropQualifiers_append_blank (hword : '.' ∉ xs) :
    dropQualifiers (isRunPart true) (xs ++ ' ' :: ys) =
      xs ++ ' ' :: dropQualifiers (isRunPart true) ys := by
  have hblank : isRunPart true ' ' = false := by decide
  rw [dropQualifiers_append_cons hblank, dropQualifiers_of_notMem _ hword]

/-! ## Short names -/

theorem dot_notMem_shortTypeName (name : String) : '.' ∉ (shortTypeName name).toList := by
  rw [shortTypeName, String.toList_ofList]
  exact dot_notMem_dropQualifiers (isRunPart_dot _) name.toList

/-- A name is short exactly if it has no dot. -/
theorem shortTypeName_eq_self_iff {name : String} :
    shortTypeName name = name ↔ '.' ∉ name.toList := by
  constructor
  · intro h
    rw [← h]
    exact dot_notMem_shortTypeName name
  · intro h
    rw [shortTypeName, dropQualifiers_of_notMem _ h, String.ofList_toList]

/-- **Shortening settles a name.** Of any text, a type name or not, the short name has no dot
and is its own short name. If the text has a `<`, all characters that cannot stand in a
qualified name are in the short name as they are in the text, in the same order and no more
of them. -/
theorem shortTypeName_settled (name : String) :
    '.' ∉ (shortTypeName name).toList ∧
      shortTypeName (shortTypeName name) = shortTypeName name ∧
      ('<' ∈ name.toList →
        (shortTypeName name).toList.filter (fun c => !isQualifiedNamePart c) =
          name.toList.filter fun c => !isQualifiedNamePart c) := by
  have hdot := dot_notMem_shortTypeName name
  refine ⟨hdot, shortTypeName_eq_self_iff.mpr hdot, fun hangle => ?_⟩
  have hgeneric : name.toList.contains '<' = true := List.contains_iff_mem.mpr hangle
  have hruns : isRunPart true = isQualifiedNamePart := by
    funext c
    rw [isRunPart, Bool.not_true, Bool.false_or]
  rw [shortTypeName, String.toList_ofList, hgeneric, hruns]
  exact filter_dropQualifiers isQualifiedNamePart name.toList

/-- No brackets have to match, and no name has to stand in front of a dot. -/
theorem shortTypeName_settled_unmatched :
    '<' ∈ "a.<é.ö,.>>-.b".toList ∧ shortTypeName "a.<é.ö,.>>-.b" = "<ö,>>-b" ∧
      (shortTypeName "a.<é.ö,.>>-.b").toList.filter (fun c => !isQualifiedNamePart c) =
        ['<', ',', '>', '>', '-'] := by
  have hangle : '<' ∈ "a.<é.ö,.>>-.b".toList := by decide
  have hmarks : "a.<é.ö,.>>-.b".toList.filter (fun c => !isQualifiedNamePart c) =
      ['<', ',', '>', '>', '-'] := by decide
  exact ⟨hangle, by decide, ((shortTypeName_settled _).2.2 hangle).trans hmarks⟩

/-- Bracket pairs are no part of the name that is shortened. -/
theorem shortTypeName_append_bracketPairs (name : String) (n : Nat) :
    shortTypeName (name ++ bracketPairs n) = shortTypeName name ++ bracketPairs n := by
  have hdot : '.' ∉ (bracketPairs n).toList := notMem_bracketPairs (by decide) (by decide)
  have hangle : '<' ∉ (bracketPairs n).toList := notMem_bracketPairs (by decide) (by decide)
  have hgeneric : (name ++ bracketPairs n).toList.contains '<' = name.toList.contains '<' := by
    simp [hangle]
  rw [shortTypeName, hgeneric, String.toList_append, dropQualifiers_append_of_notMem hdot,
    String.ofList_append, String.ofList_toList]
  rfl

/-- The short name of an array type is that of its element type with the brackets. -/
theorem ResolvedType.shortName_eq (t : ResolvedType) :
    t.shortName = shortTypeName t.element ++ bracketPairs t.dimensions :=
  shortTypeName_append_bracketPairs t.element t.dimensions

/-! ## Lists of short names -/

/-- A character that the separator does not hold is in a joined text exactly if it is in an
item. -/
theorem notMem_intercalate_iff {c : Char} {separator : String} (hseparator : c ∉ separator.toList)
    {items : List String} :
    c ∉ (String.intercalate separator items).toList ↔ ∀ item ∈ items, c ∉ item.toList := by
  induction items with
  | nil => simp
  | cons first others ih =>
    cases others with
    | nil => simp
    | cons second others =>
      simp only [String.intercalate_cons_cons, String.toList_append, List.mem_append, not_or]
      constructor
      · rintro ⟨⟨hfirst, _⟩, hothers⟩
        exact List.forall_mem_cons.mpr ⟨hfirst, ih.mp hothers⟩
      · intro h
        obtain ⟨hfirst, hothers⟩ := List.forall_mem_cons.mp h
        exact ⟨⟨hfirst, hseparator⟩, ih.mpr hothers⟩

/-- Joined names do not change by shortening exactly if no name has a dot. -/
theorem intercalate_map_shortTypeName_eq_iff {separator : String}
    (hseparator : '.' ∉ separator.toList) {names : List String} :
    String.intercalate separator (names.map shortTypeName) = String.intercalate separator names ↔
      ∀ name ∈ names, '.' ∉ name.toList := by
  constructor
  · intro h
    rw [← notMem_intercalate_iff hseparator, ← h, notMem_intercalate_iff hseparator,
      List.forall_mem_map]
    exact fun name _ => dot_notMem_shortTypeName name
  · intro h
    have hsame : names.map shortTypeName = names.map id :=
      List.map_congr_left fun name hname => shortTypeName_eq_self_iff.mpr (h name hname)
    rw [hsame, List.map_id]

end Remedy
