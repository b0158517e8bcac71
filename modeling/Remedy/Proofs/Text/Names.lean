import Remedy.Proofs.Text.ShortNames

/-!
# Names

Names of variables and methods are identifiers. The name of a type may be qualified: it is a
row of identifiers with dots between them, and only the last one names the type itself.
Shortening keeps that one.
-/

namespace Remedy

/-- A name of at least one character, all of them identifier characters. -/
@[ext]
structure Identifier where
  text : String
  nonempty : text ≠ ""
  parts : ∀ c ∈ text.toList, isIdentifierPart c = true
deriving DecidableEq

namespace Identifier

/-- A text all of whose characters pass for parts of a name. -/
def ofText (text : String) (nonempty : text ≠ "") (h : text.toList.all isIdentifierPart = true) :
    Identifier :=
  ⟨text, nonempty, List.all_eq_true.mp h⟩

theorem notMem_text (name : Identifier) {c : Char} (h : isIdentifierPart c = false) :
    c ∉ name.text.toList := by
  intro hmem
  rw [name.parts c hmem] at h
  cases h

theorem dot_notMem_text (name : Identifier) : '.' ∉ name.text.toList :=
  name.notMem_text (by decide)

theorem exists_head_text (name : Identifier) :
    ∃ c, name.text.toList.head? = some c ∧ isIdentifierPart c = true := by
  cases hname : name.text.toList with
  | nil => exact absurd (String.toList_eq_nil_iff.mp hname) name.nonempty
  | cons c rest => exact ⟨c, rfl, name.parts c (by simp [hname])⟩

theorem dropQualifiers_text (name : Identifier) (inRun : Char → Bool) :
    dropQualifiers inRun name.text.toList = name.text.toList :=
  dropQualifiers_of_notMem inRun name.dot_notMem_text

/-- In front of a dot a name is a qualifier. -/
theorem dropQualifiers_text_append_dot (name : Identifier) (generic : Bool) (behind : List Char) :
    dropQualifiers (isRunPart generic) (name.text.toList ++ '.' :: behind) =
      dropQualifiers (isRunPart generic) behind :=
  dropQualifiers_append_dot (isRunPart_dot generic) fun c hc =>
    isRunPart_of_isIdentifierPart generic (name.parts c hc)

end Identifier

/-- A name in full: its qualifiers, outermost first, and its last component. -/
structure DottedName where
  qualifiers : List Identifier
  last : Identifier

namespace DottedName

/-- Each qualifier with a dot behind it, and the last component. -/
def text (name : DottedName) : String :=
  name.qualifiers.foldr (fun qualifier behind => qualifier.text ++ "." ++ behind) name.last.text

/-- The last component alone. -/
def unqualified (name : DottedName) : DottedName := ⟨[], name.last⟩

theorem dropQualifiers_text (name : DottedName) (generic : Bool) :
    dropQualifiers (isRunPart generic) name.text.toList = name.unqualified.text.toList := by
  obtain ⟨qualifiers, last⟩ := name
  induction qualifiers with
  | nil => exact last.dropQualifiers_text _
  | cons qualifier rest ih =>
    show dropQualifiers _ (qualifier.text ++ "." ++ (DottedName.mk rest last).text).toList = _
    rw [toList_dot, qualifier.dropQualifiers_text_append_dot]
    exact ih

end DottedName

end Remedy
