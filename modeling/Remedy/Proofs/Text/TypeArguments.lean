import Remedy.Proofs.Text.Names

/-!
# Names with type arguments

The front end writes a type as a dotted name, possibly with type arguments in angle
brackets, and bracket pairs behind it. The arguments are types again or wildcards, so names
are nested to any depth. `TypeText` is this grammar, and `TypeText.text` writes a type of it.

The scan that shortens a name knows no grammar. It cuts the text at the characters that
stand in no name, and a text without `<` is not cut at all. On the types of the grammar both
ways come to the same: every dotted name gives way to its last component, and nothing else
changes.
-/

namespace Remedy

/-! ## Types -/

mutual

/-- A type as it is written. -/
inductive TypeText where
  | named (name : DottedName)
  | generic (name : DottedName) (arguments : TypeArguments)
  | array (element : TypeText)

/-- A type argument: a type, or a wildcard without a bound, with an upper or with a lower
one. -/
inductive TypeArgument where
  | type (type : TypeText)
  | wildcard
  | extending (bound : TypeText)
  | above (bound : TypeText)

/-- One type argument or more, with a comma between two of them. A blank may follow it. -/
inductive TypeArguments where
  | last (argument : TypeArgument)
  | cons (argument : TypeArgument) (blank : Bool) (others : TypeArguments)

end

mutual

def TypeText.text : TypeText → String
  | .named name => name.text
  | .generic name arguments => name.text ++ "<" ++ arguments.text ++ ">"
  | .array element => element.text ++ "[]"

def TypeArgument.text : TypeArgument → String
  | .type type => type.text
  | .wildcard => "?"
  | .extending bound => "? extends " ++ bound.text
  | .above bound => "? super " ++ bound.text

def TypeArguments.text : TypeArguments → String
  | .last argument => argument.text
  | .cons argument blank others =>
      argument.text ++ (if blank then ", " else ",") ++ others.text

end

mutual

/-- The type with each of its names replaced. -/
def TypeText.mapNames (f : DottedName → DottedName) : TypeText → TypeText
  | .named name => .named (f name)
  | .generic name arguments => .generic (f name) (arguments.mapNames f)
  | .array element => .array (element.mapNames f)

def TypeArgument.mapNames (f : DottedName → DottedName) : TypeArgument → TypeArgument
  | .type type => .type (type.mapNames f)
  | .wildcard => .wildcard
  | .extending bound => .extending (bound.mapNames f)
  | .above bound => .above (bound.mapNames f)

def TypeArguments.mapNames (f : DottedName → DottedName) : TypeArguments → TypeArguments
  | .last argument => .last (argument.mapNames f)
  | .cons argument blank others => .cons (argument.mapNames f) blank (others.mapNames f)

end

/-! ## Short types -/

-- One case per rule of the grammar. Only a type with arguments has its text cut, and it is
-- cut because the text holds the opening bracket.
mutual

theorem TypeText.dropQualifiers_text (t : TypeText) (generic : Bool)
    (h : '<' ∈ t.text.toList → generic = true) :
    dropQualifiers (isRunPart generic) t.text.toList =
      (t.mapNames DottedName.unqualified).text.toList := by
  cases t with
  | named name => exact name.dropQualifiers_text generic
  | generic name arguments =>
    obtain rfl : generic = true := h (by simp [TypeText.text])
    rw [TypeText.mapNames, TypeText.text, TypeText.text, toList_angles, toList_angles,
      dropQualifiers_append_angles, dropQualifiers_nil, name.dropQualifiers_text,
      arguments.dropQualifiers_text]
  | array element =>
    have helement := element.dropQualifiers_text generic fun hmem =>
      h (by simp [TypeText.text, hmem])
    simp only [TypeText.text, TypeText.mapNames, String.toList_append]
    rw [dropQualifiers_append_of_notMem (by decide), helement]

theorem TypeArgument.dropQualifiers_text (a : TypeArgument) :
    dropQualifiers (isRunPart true) a.text.toList =
      (a.mapNames DottedName.unqualified).text.toList := by
  cases a with
  | type type => exact type.dropQualifiers_text true fun _ => rfl
  | wildcard => decide
  | extending bound =>
    have hbound := bound.dropQualifiers_text true fun _ => rfl
    have hword : "? extends ".toList = "? extends".toList ++ [' '] := rfl
    simp only [TypeArgument.text, TypeArgument.mapNames, String.toList_append, hword,
      List.append_assoc, List.cons_append, List.nil_append]
    rw [dropQualifiers_append_blank (by decide), hbound]
  | above bound =>
    have hbound := bound.dropQualifiers_text true fun _ => rfl
    have hword : "? super ".toList = "? super".toList ++ [' '] := rfl
    simp only [TypeArgument.text, TypeArgument.mapNames, String.toList_append, hword,
      List.append_assoc, List.cons_append, List.nil_append]
    rw [dropQualifiers_append_blank (by decide), hbound]

theorem TypeArguments.dropQualifiers_text (as : TypeArguments) :
    dropQualifiers (isRunPart true) as.text.toList =
      (as.mapNames DottedName.unqualified).text.toList := by
  cases as with
  | last argument => exact argument.dropQualifiers_text
  | cons argument blank others =>
    have hargument := argument.dropQualifiers_text
    have hothers := others.dropQualifiers_text
    cases blank with
    | false =>
      have hcomma : isRunPart true ',' = false := by decide
      simp only [TypeArguments.text, TypeArguments.mapNames, String.toList_append,
        Bool.false_eq_true, if_false, String.reduceToList, List.append_assoc, List.cons_append,
        List.nil_append]
      rw [dropQualifiers_append_cons hcomma, hargument, hothers]
    | true =>
      simp only [TypeArguments.text, TypeArguments.mapNames, if_true, toList_comma_blank]
      rw [dropQualifiers_append_comma_blank, hargument, hothers]

end

/-- **Short names of types.** Shortening the text of a type gives the text of the same type
with every dotted name replaced by its last component. -/
theorem shortTypeName_text (t : TypeText) :
    shortTypeName t.text = (t.mapNames DottedName.unqualified).text := by
  have hgeneric : '<' ∈ t.text.toList → t.text.toList.contains '<' = true := by
    simp
  rw [shortTypeName, t.dropQualifiers_text _ hgeneric, String.ofList_toList]

end Remedy
