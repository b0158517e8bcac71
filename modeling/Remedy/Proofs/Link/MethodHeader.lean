import Remedy.Link.SourceText

/-!
# The name in a method header

The name that is reported for a malformed method header is cut out of the text by two
searches from its end: one for an opening parenthesis, and one for a character that cannot
belong to a name. `NameBefore` says what this name is, without either search. There is such a
name exactly if a character that can belong to one stands right before the last opening
parenthesis, and then there is no other.
-/

namespace Remedy

namespace SourceText

variable {text before name after : List Char} {test : Char → Bool}

/-! ## Runs at the end of a text -/

/-- A run of characters that pass the test begins here: there is nothing before it, or a
character that fails. -/
def BeginsRun (test : Char → Bool) (before : List Char) : Prop :=
  before = [] ∨ ∃ earlier c, before = earlier ++ [c] ∧ test c = false

/-- The characters at the end of a text that pass the test, as many as there are. -/
theorem exists_append_trailingRun (test : Char → Bool) (cs : List Char) :
    ∃ before, cs = before ++ (cs.reverse.takeWhile test).reverse ∧ BeginsRun test before := by
  refine ⟨(cs.reverse.dropWhile test).reverse, ?_, ?_⟩
  · rw [← List.reverse_append, List.takeWhile_append_dropWhile, List.reverse_reverse]
  · cases hrest : cs.reverse.dropWhile test with
    | nil => exact .inl rfl
    | cons c rest =>
      refine .inr ⟨rest.reverse, c, List.reverse_cons, ?_⟩
      have hstop := List.head?_dropWhile_not test cs.reverse
      rw [hrest] at hstop
      simpa using hstop

theorem of_mem_trailingRun {cs : List Char} {c : Char}
    (h : c ∈ (cs.reverse.takeWhile test).reverse) : test c = true :=
  List.all_eq_true.mp List.all_takeWhile c (List.mem_reverse.mp h)

theorem trailingRun_eq (hname : ∀ c ∈ name, test c = true) (hbegins : BeginsRun test before) :
    ((before ++ name).reverse.takeWhile test).reverse = name := by
  rw [List.reverse_append,
    List.takeWhile_append_of_pos fun c hc => hname c (List.mem_reverse.mp hc),
    List.reverse_append, List.reverse_reverse]
  rcases hbegins with rfl | ⟨earlier, c, rfl, hc⟩
  · rfl
  · have hstop : ¬ test c = true := Bool.eq_false_iff.mp hc
    rw [List.reverse_append, List.reverse_singleton, List.singleton_append,
      List.takeWhile_cons_of_neg hstop, List.reverse_nil, List.nil_append]

/-! ## The name before the last parenthesis -/

/-- Right before its last opening parenthesis the text holds a name: identifier characters, at
least one of them, and none left over before them. -/
structure NameBefore (text before name after : List Char) : Prop where
  split : text = before ++ name ++ '(' :: after
  only : '(' ∉ after
  nonempty : name ≠ []
  parts : ∀ c ∈ name, isIdentifierPart c = true
  begins : BeginsRun isIdentifierPart before

/-- Each run of identifier characters before the parenthesis is an ending of the name. -/
theorem NameBefore.longest (h : NameBefore text before name after) {run : List Char}
    (hrun : run <:+ before ++ name) (hparts : ∀ c ∈ run, isIdentifierPart c = true) :
    run <:+ name := by
  rcases h.begins with hnil | ⟨earlier, c, hbefore, hc⟩
  · rwa [hnil, List.nil_append] at hrun
  · rw [hbefore, List.append_assoc] at hrun
    rcases List.suffix_or_suffix_of_suffix hrun (List.suffix_append earlier _) with hin | hover
    · rcases List.suffix_cons_iff.mp hin with rfl | hin
      · rw [hparts c List.mem_cons_self] at hc
        cases hc
      · exact hin
    · -- A longer run holds the character that ends the name.
      have hmem : c ∈ run := hover.subset List.mem_cons_self
      rw [hparts c hmem] at hc
      cases hc

theorem nameBeforeParen?_eq_some_iff :
    nameBeforeParen? text = some name ↔ ∃ before after, NameBefore text before name after := by
  constructor
  · intro hfound
    obtain ⟨⟨front, after⟩, hcut, hname⟩ := Option.bind_eq_some_iff.mp hfound
    obtain ⟨htext, hafter⟩ := cutLast_eq_some_iff.mp hcut
    obtain ⟨before, hfront, hbegins⟩ := exists_append_trailingRun isIdentifierPart front
    dsimp only at hname
    split at hname
    · cases hname
    · rename_i hempty
      have hrun := Option.some.inj hname
      rw [hrun] at hfront hempty
      refine ⟨before, after, by rw [htext, ← hfront], hafter, by simpa using hempty, ?_, hbegins⟩
      intro c hc
      exact of_mem_trailingRun (hrun ▸ hc)
  · rintro ⟨before, after, h⟩
    have hcut : cutLast '(' text = some (before ++ name, after) :=
      cutLast_eq_some_iff.mpr ⟨h.split, h.only⟩
    refine Option.bind_eq_some_iff.mpr ⟨_, hcut, ?_⟩
    simp only [trailingRun_eq h.parts h.begins]
    rw [if_neg (by simpa using h.nonempty)]
    rfl

/-- There is a name exactly if an identifier character stands right before the last opening
parenthesis. -/
theorem exists_nameBefore_iff :
    (∃ before name after, NameBefore text before name after) ↔
      ∃ front c after, text = front ++ c :: '(' :: after ∧ '(' ∉ after ∧
        isIdentifierPart c = true := by
  constructor
  · rintro ⟨before, name, after, h⟩
    obtain ⟨front, c, hname⟩ : ∃ front c, name = front ++ [c] :=
      ⟨_, _, (List.dropLast_concat_getLast h.nonempty).symm⟩
    refine ⟨before ++ front, c, after, ?_, h.only, h.parts c (by simp [hname])⟩
    rw [h.split, hname]
    simp
  · rintro ⟨front, c, after, htext, hafter, hc⟩
    obtain ⟨before, hfront, hbegins⟩ := exists_append_trailingRun isIdentifierPart (front ++ [c])
    have hrun : ((front ++ [c]).reverse.takeWhile isIdentifierPart).reverse ≠ [] := by
      simp [hc]
    refine ⟨before, _, after, ?_, hafter, hrun, fun d => of_mem_trailingRun, hbegins⟩
    rw [← hfront, htext]
    simp

/-- **The reported method name.** There is a query exactly if the text holds an opening
parenthesis and an identifier character stands right before the last one. What it reports is
then the longest run of identifier characters that ends there: the run begins the text or
follows a character of another kind, and every run of identifier characters that ends at the
parenthesis is an ending of it. -/
theorem methodHeaderQuery?_names_run (text : String) :
    ((methodHeaderQuery? text).isSome ↔
      ∃ front c after, text.toList = front ++ c :: '(' :: after ∧ '(' ∉ after ∧
        isIdentifierPart c = true) ∧
    ∀ query, methodHeaderQuery? text = some query ↔
      ∃ before name after, NameBefore text.toList before name after ∧
        (∀ run, run <:+ before ++ name → (∀ c ∈ run, isIdentifierPart c = true) →
          run <:+ name) ∧
        query = { path := "incorrectmethoddeclaration"
                  parameters := [("methodname", String.ofList name)] } := by
  constructor
  · rw [← exists_nameBefore_iff, methodHeaderQuery?, Option.isSome_map, Option.isSome_iff_exists]
    simp only [nameBeforeParen?_eq_some_iff]
    exact ⟨fun ⟨name, before, after, h⟩ => ⟨before, name, after, h⟩,
      fun ⟨before, name, after, h⟩ => ⟨name, before, after, h⟩⟩
  · intro query
    rw [methodHeaderQuery?, Option.map_eq_some_iff]
    simp only [nameBeforeParen?_eq_some_iff]
    constructor
    · rintro ⟨name, ⟨before, after, h⟩, rfl⟩
      exact ⟨before, name, after, h, fun run => h.longest, rfl⟩
    · rintro ⟨before, name, after, h, -, rfl⟩
      exact ⟨name, ⟨before, after, h⟩, rfl⟩

end SourceText

end Remedy
