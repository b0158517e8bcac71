import Remedy.Text.Cut

/-!
# Byte offsets

Texts are cut as lists of characters everywhere else, and such a cut cannot go wrong. A
text can be cut at offsets into its bytes as well, and then it can: an offset may lie behind
the end or inside a character, or the two offsets may stand the wrong way round.
`Cutting.between` is the part of a text between two offsets, and it fails in each of these
cases.

The offset of a character is the size in bytes of what stands before it (`byteSize`). So
offsets that are found by looking for characters are places where the text can be cut
(`between_eq_ok`, `lastWhere?_eq_some`, `lastOffset?_eq`).
-/

namespace Remedy

/-- Why a text cannot be cut at two offsets. -/
inductive CutFault where
  /-- The second offset lies behind the end of the text. -/
  | outOfRange
  /-- An offset lies inside a character. -/
  | insideCharacter
  /-- The first offset is greater than the second one. -/
  | reversed
deriving DecidableEq

/-- A computation that reads a text at byte offsets and may fail on its way. -/
abbrev Cutting := Except CutFault

@[simp] theorem Cutting.bind_ok {α β : Type} (a : α) (next : α → Cutting β) :
    (Except.ok a >>= next) = next a := rfl

@[simp] theorem Cutting.pure_eq_ok {α : Type} (a : α) : (pure a : Cutting α) = .ok a := rfl

/-- The offset lies in front of a character of the text or at its end. -/
def IsBoundary (text : String) (offset : Nat) : Prop :=
  (⟨offset⟩ : String.Pos.Raw).IsValid text

instance (text : String) (offset : Nat) : Decidable (IsBoundary text offset) :=
  inferInstanceAs (Decidable (String.Pos.Raw.IsValid _ _))

/-- The part of a text from one offset up to another. -/
def Cutting.between (text : String) (start stop : Nat) : Cutting String :=
  if stop < start then throw .reversed
  else if text.utf8ByteSize < stop then throw .outOfRange
  else if h : IsBoundary text start ∧ IsBoundary text stop then
    return text.extract (text.pos ⟨start⟩ h.1) (text.pos ⟨stop⟩ h.2)
  else throw .insideCharacter

/-- The characters of a text with the offsets at which they begin. -/
def charOffsets : (start : Nat) → List Char → List (Nat × Char)
  | _, [] => []
  | start, c :: rest => (start, c) :: charOffsets (start + c.utf8Size) rest

/-- The last character that passes a test, and its offset. -/
def lastWhere? (test : Char → Bool) (text : String) : Option (Nat × Char) :=
  (charOffsets 0 text.toList).reverse.find? fun found => test found.2

/-- The offset of the last `mark`. -/
def lastOffset? (mark : Char) (text : String) : Option Nat :=
  (lastWhere? (· == mark) text).map Prod.fst

/-! ## Sizes in bytes -/

/-- The size of characters in bytes. -/
def byteSize (cs : List Char) : Nat := (String.ofList cs).utf8ByteSize

theorem byteSize_nil : byteSize [] = 0 := by simp [byteSize]

theorem byteSize_append (cs ds : List Char) :
    byteSize (cs ++ ds) = byteSize cs + byteSize ds := by
  rw [byteSize, String.ofList_append, String.utf8ByteSize_append]
  rfl

theorem byteSize_singleton (c : Char) : byteSize [c] = c.utf8Size := by
  rw [byteSize, ← String.singleton_eq_ofList, String.utf8ByteSize_singleton]

theorem byteSize_cons (c : Char) (cs : List Char) :
    byteSize (c :: cs) = c.utf8Size + byteSize cs := by
  rw [← List.singleton_append, byteSize_append, byteSize_singleton]

theorem byteSize_append_singleton {c : Char} (hc : c.utf8Size = 1) (cs : List Char) :
    byteSize (cs ++ [c]) = byteSize cs + 1 := by
  rw [byteSize_append, byteSize_singleton, hc]

theorem byteSize_eq_zero_iff {cs : List Char} : byteSize cs = 0 ↔ cs = [] := by
  constructor
  · intro h
    cases cs with
    | nil => rfl
    | cons c cs =>
      rw [byteSize_cons] at h
      have hpos := c.utf8Size_pos
      omega
  · rintro rfl
    exact byteSize_nil

theorem byteSize_reverse (cs : List Char) : byteSize cs.reverse = byteSize cs := by
  induction cs with
  | nil => rfl
  | cons c cs ih =>
    rw [List.reverse_cons, byteSize_append, ih, byteSize_singleton, byteSize_cons, Nat.add_comm]

theorem byteSize_toList (text : String) : byteSize text.toList = text.utf8ByteSize := by
  rw [byteSize, String.ofList_toList]

/-! ## Cutting between characters -/

variable {text : String} {before part after : List Char}

theorem isBoundary_byteSize (h : text.toList = before ++ after) :
    IsBoundary text (byteSize before) := by
  refine String.Pos.Raw.isValid_iff_exists_append.mpr
    ⟨String.ofList before, String.ofList after, ?_, rfl⟩
  rw [← String.ofList_append, ← h, String.ofList_toList]

theorem isBoundary_of_prefix (h : before <+: text.toList) : IsBoundary text (byteSize before) := by
  obtain ⟨after, hsplit⟩ := h
  exact isBoundary_byteSize hsplit.symm

/-- Between the offsets of two characters the text can be cut. -/
theorem Cutting.between_eq_ok (h : before ++ part <+: text.toList) :
    between text (byteSize before) (byteSize (before ++ part)) = .ok (String.ofList part) := by
  have hstart : IsBoundary text (byteSize before) :=
    isBoundary_of_prefix ((List.prefix_append before part).trans h)
  have hstop : IsBoundary text (byteSize (before ++ part)) := isBoundary_of_prefix h
  have hle : byteSize before ≤ byteSize (before ++ part) := by
    rw [byteSize_append]
    exact Nat.le_add_right _ _
  have hsize : byteSize (before ++ part) ≤ text.utf8ByteSize := hstop.le_utf8ByteSize
  rw [between, if_neg (Nat.not_lt.mpr hle), if_neg (Nat.not_lt.mpr hsize),
    dif_pos ⟨hstart, hstop⟩]
  refine congrArg Except.ok (String.toByteArray_inj.mp ?_)
  rw [String.toByteArray_extract]
  show text.toByteArray.extract (byteSize before) (byteSize (before ++ part)) = _
  obtain ⟨after, hsplit⟩ := h
  have hbytes : text.toByteArray = (String.ofList (before ++ part)).toByteArray ++
      (String.ofList after).toByteArray := by
    rw [← String.toByteArray_append, ← String.ofList_append, hsplit, String.ofList_toList]
  have hfront : byteSize (before ++ part) = (String.ofList (before ++ part)).toByteArray.size := rfl
  rw [hbytes, hfront, ByteArray.extract_append_size_left, String.ofList_append,
    String.toByteArray_append]
  exact ByteArray.extract_append_eq_right rfl (by rw [ByteArray.size_append])

/-- The front of a text. -/
theorem Cutting.between_zero_eq_ok (h : text.toList = before ++ after) :
    between text 0 (byteSize before) = .ok (String.ofList before) := by
  have hfront : [] ++ before <+: text.toList := ⟨after, h.symm⟩
  rw [← byteSize_nil]
  exact between_eq_ok hfront

/-- The end of a text. -/
theorem Cutting.between_end_eq_ok (h : text.toList = before ++ part) :
    between text (byteSize before) text.utf8ByteSize = .ok (String.ofList part) := by
  have hall : before ++ part <+: text.toList := ⟨[], by rw [h, List.append_nil]⟩
  rw [← byteSize_toList, h]
  exact between_eq_ok hall

-- Any other cut is a fault.
example : Cutting.between "é" 0 1 = .error .insideCharacter := by rfl
example : Cutting.between "é" 2 1 = .error .reversed := by rfl
example : Cutting.between "é" 0 3 = .error .outOfRange := by rfl

/-! ## Looking for the last character -/

theorem charOffsets_append (start : Nat) (cs ds : List Char) :
    charOffsets start (cs ++ ds) =
      charOffsets start cs ++ charOffsets (start + byteSize cs) ds := by
  induction cs generalizing start with
  | nil => rw [byteSize_nil]; rfl
  | cons c cs ih =>
    rw [List.cons_append, charOffsets, ih, charOffsets, byteSize_cons, Nat.add_assoc]
    rfl

theorem mem_of_mem_charOffsets {start : Nat} {cs : List Char} {found : Nat × Char}
    (h : found ∈ charOffsets start cs) : found.2 ∈ cs := by
  induction cs generalizing start with
  | nil => cases h
  | cons c cs ih =>
    rcases List.mem_cons.mp h with rfl | hrest
    · exact List.mem_cons_self
    · exact List.mem_cons_of_mem _ (ih hrest)

variable (test : Char → Bool)

theorem find?_charOffsets_eq_none {cs : List Char} (start : Nat)
    (h : ∀ c ∈ cs, test c = false) :
    ((charOffsets start cs).reverse.find? fun found => test found.2) = none := by
  rw [List.find?_eq_none]
  intro found hfound
  rw [h _ (mem_of_mem_charOffsets (List.mem_reverse.mp hfound))]
  exact Bool.false_ne_true

theorem lastWhere?_eq_none (h : ∀ c ∈ text.toList, test c = false) : lastWhere? test text = none :=
  find?_charOffsets_eq_none test 0 h

theorem lastWhere?_eq_some {c : Char} (htext : text.toList = before ++ c :: after)
    (hc : test c = true) (hafter : ∀ d ∈ after, test d = false) :
    lastWhere? test text = some (byteSize before, c) := by
  rw [lastWhere?, htext, charOffsets_append, Nat.zero_add, charOffsets, List.reverse_append,
    List.reverse_cons, List.append_assoc, List.find?_append,
    find?_charOffsets_eq_none test _ hafter, Option.none_or, List.singleton_append,
    List.find?_cons_of_pos (by exact hc)]

theorem beq_eq_false_of_notMem {mark : Char} {cs : List Char} (h : mark ∉ cs) :
    ∀ c ∈ cs, (c == mark) = false := by
  intro c hc
  refine beq_false_of_ne fun heq => h ?_
  rwa [heq] at hc

/-- The last mark is found where the text is cut at it. -/
theorem lastOffset?_eq (mark : Char) (text : String) :
    lastOffset? mark text = (cutLast mark text.toList).map fun parts => byteSize parts.1 := by
  rw [lastOffset?]
  cases hcut : cutLast mark text.toList with
  | none =>
    have hnot := cutLast_eq_none_iff.mp hcut
    rw [lastWhere?_eq_none _ (beq_eq_false_of_notMem hnot)]
    rfl
  | some parts =>
    obtain ⟨before, after⟩ := parts
    obtain ⟨htext, hnot⟩ := cutLast_eq_some_iff.mp hcut
    rw [lastWhere?_eq_some (· == mark) htext (beq_self_eq_true mark)
      (beq_eq_false_of_notMem hnot)]
    rfl

end Remedy
