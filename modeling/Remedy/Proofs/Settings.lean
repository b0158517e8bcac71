import Mathlib
import Remedy.Proofs.Text.Digits
import Remedy.Proofs.Text.Trimming
import Remedy.Settings

/-!
# Settings read from variables

The two settings are read from two variables, and each from its own. A variable gives a setting
exactly if its value has one of the forms below, with any white space around it. For a seed the
form is a plus sign, which may be missing, and digits (`IsSeed`). For the embedding it is the
digit one, or the word `true` in letters of either case (`IsYes`).

The number that is read is the number that the digits stand for. A numeral that is too great
for a word of 64 bits is no seed.
-/

namespace Remedy

namespace Settings

/-! ## Seeds -/

/-- The text is a seed: digits that stand for the number, and perhaps a plus sign in front. -/
def IsSeed (text : String) (n : Nat) : Prop :=
  ∃ sign digits, text = sign ++ digits ∧ (sign = "" ∨ sign = "+") ∧ IsDigits digits n

theorem isBlank_of_isDigit {c : Char} (h : c.isDigit = true) : isBlank c = false := by
  have hdigit : 48 ≤ c.toNat ∧ c.toNat ≤ 57 := by
    simpa [Char.isDigit, UInt32.le_iff_toNat_le] using h
  exact isBlank_of_visible (by omega) (by omega)

theorem IsSeed.isTight {text : String} {n : Nat} (h : IsSeed text n) : IsTight text.toList := by
  obtain ⟨sign, digits, rfl, hsign, hdigits⟩ := h
  refine .of_forall fun c hc => ?_
  rw [String.toList_append] at hc
  rcases List.mem_append.mp hc with hleft | hright
  · rcases hsign with rfl | rfl
    · cases hleft
    · rw [List.mem_singleton.mp hleft]
      decide
  · exact isBlank_of_isDigit (hdigits.digits c hright)

theorem exists_append_dropPlus (cs : List Char) :
    ∃ sign, cs = sign ++ dropPlus cs ∧ (sign = [] ∨ sign = ['+']) := by
  unfold dropPlus
  split
  · exact ⟨['+'], rfl, .inr rfl⟩
  · exact ⟨[], rfl, .inl rfl⟩

theorem dropPlus_of_digits {digits : List Char} (h : ∀ c ∈ digits, c.isDigit = true) :
    dropPlus digits = digits := by
  unfold dropPlus
  split
  · cases h '+' List.mem_cons_self
  · rfl

theorem dropPlus_toList_of_sign {sign digits : String} (hsign : sign = "" ∨ sign = "+")
    (h : ∀ c ∈ digits.toList, c.isDigit = true) :
    dropPlus (sign ++ digits).toList = digits.toList := by
  rw [String.toList_append]
  rcases hsign with rfl | rfl
  · exact dropPlus_of_digits h
  · rfl

/-- A value is read as a seed if digits that stand for the seed are left of it. -/
theorem readSeed?_eq_some_iff_isDigits {value : String} {n : UInt64} :
    readSeed? value = some n ↔
      IsDigits (String.ofList (dropPlus (trimBlanks value.toList))) n.toNat := by
  unfold readSeed?
  dsimp only
  generalize dropPlus (trimBlanks value.toList) = digits
  have hvalue : numeralValue digits = Nat.ofDigitChars 10 (String.ofList digits).toList 0 := by
    rw [String.toList_ofList]
    rfl
  constructor
  · intro h
    obtain ⟨hnumeral, hn⟩ := Option.ite_none_right_eq_some.mp h
    simp only [Bool.and_eq_true, Bool.not_eq_true', List.isEmpty_eq_false_iff, List.all_eq_true,
      decide_eq_true_eq] at hnumeral
    obtain ⟨⟨hne, hall⟩, hlt⟩ := hnumeral
    -- Below the limit the word holds the value itself.
    have hword : n.toNat = numeralValue digits := by
      rw [← Option.some.inj hn]
      exact UInt64.toNat_ofNat_of_lt' hlt
    refine ⟨by simpa using hne, ?_, hvalue.symm.trans hword.symm⟩
    rw [String.toList_ofList]
    exact hall
  · intro h
    have hword : numeralValue digits = n.toNat := hvalue.trans h.value
    have hne : digits ≠ [] := by
      rintro rfl
      exact h.nonempty rfl
    have hall := h.digits
    rw [String.toList_ofList] at hall
    have hlt : numeralValue digits < UInt64.size := hword ▸ n.toNat_lt
    rw [if_pos (by simp [hne, hlt]; exact hall), hword, UInt64.ofNat_toNat]

theorem readSeed?_eq_some_iff_isSeed {value : String} {n : UInt64} :
    readSeed? value = some n ↔ IsSeed (String.ofList (trimBlanks value.toList)) n.toNat := by
  rw [readSeed?_eq_some_iff_isDigits]
  constructor
  · intro h
    obtain ⟨sign, hsplit, hsign⟩ := exists_append_dropPlus (trimBlanks value.toList)
    refine ⟨String.ofList sign, _, ?_, ?_, h⟩
    · rw [← String.ofList_append, ← hsplit]
    · rcases hsign with rfl | rfl
      · exact .inl rfl
      · exact .inr rfl
  · rintro ⟨sign, digits, heq, hsign, hdigits⟩
    have htrimmed : trimBlanks value.toList = (sign ++ digits).toList := by
      rw [← heq, String.toList_ofList]
    rwa [htrimmed, dropPlus_toList_of_sign hsign hdigits.digits, String.ofList_toList]

/-- A value is read as a seed exactly if it is one with white space around it. -/
theorem readSeed?_eq_some_iff {value : String} {n : UInt64} :
    readSeed? value = some n ↔
      ∃ left core right, IsPadded value.toList left core.toList right ∧ IsSeed core n.toNat := by
  rw [readSeed?_eq_some_iff_isSeed]
  exact trimBlanks_iff_exists_isPadded fun _ => IsSeed.isTight

/-! ## The embedding -/

/-- The text asks for something: the digit one, or `true` in letters of either case. -/
def IsYes (text : String) : Prop :=
  text = "1" ∨
    List.Forall₂ (fun c letter => c = letter ∨ c = letter.toUpper) text.toList "true".toList

theorem toLower_eq_iff {c letter : Char} (h : letter.isLower = true) :
    c.toLower = letter ↔ c = letter ∨ c = letter.toUpper := by
  constructor
  · rintro rfl
    by_cases hupper : c.isUpper = true
    · rw [Char.toUpper_toLower_eq_toUpper, Char.toUpper_eq_of_not_isLower]
      · exact .inr rfl
      · exact Char.not_isLower_of_isUpper hupper
    · exact .inl (Char.toLower_eq_of_not_isUpper hupper).symm
  · have hself : letter.toLower = letter :=
      Char.toLower_eq_of_not_isUpper (Char.not_isUpper_of_isLower h)
    rintro (rfl | rfl)
    · exact hself
    · rw [Char.toLower_toUpper_eq_toLower, hself]

/-- Letter by letter, two words are the same up to the case of the first one exactly if lowering
its letters gives the second one. -/
theorem map_toLower_eq_iff {word letters : List Char} (h : ∀ c ∈ letters, c.isLower = true) :
    word.map Char.toLower = letters ↔
      List.Forall₂ (fun c letter => c = letter ∨ c = letter.toUpper) word letters := by
  induction word generalizing letters with
  | nil =>
    cases letters with
    | nil => simp
    | cons letter letters => simp
  | cons c word ih =>
    cases letters with
    | nil => simp
    | cons letter letters =>
      rw [List.map_cons, List.cons.injEq, List.forall₂_cons,
        toLower_eq_iff (h letter List.mem_cons_self),
        ih fun d hd => h d (List.mem_cons_of_mem _ hd)]

theorem isYes_iff {text : String} :
    IsYes text ↔ text.toList = ['1'] ∨ text.toList.map Char.toLower = ['t', 'r', 'u', 'e'] := by
  have hlower : ∀ c ∈ "true".toList, c.isLower = true := List.all_eq_true.mp rfl
  rw [IsYes, ← map_toLower_eq_iff hlower, ← String.toList_inj]
  rfl

theorem isBlank_of_isAlpha {c : Char} (h : c.isAlpha = true) : isBlank c = false := by
  have hletter : (65 ≤ c.toNat ∧ c.toNat ≤ 90) ∨ (97 ≤ c.toNat ∧ c.toNat ≤ 122) := by
    simpa [Char.isAlpha, Char.isUpper, Char.isLower, UInt32.le_iff_toNat_le] using h
  exact isBlank_of_visible (by omega) (by omega)

theorem IsYes.isTight {text : String} (h : IsYes text) : IsTight text.toList := by
  rcases isYes_iff.mp h with hone | htrue
  · rw [hone]
    refine .of_forall fun c hc => ?_
    rw [List.mem_singleton.mp hc]
    rfl
  · refine .of_forall fun c hc => isBlank_of_isAlpha ?_
    have hlower : c.toLower ∈ ['t', 'r', 'u', 'e'] := htrue ▸ List.mem_map_of_mem hc
    have halpha : ∀ d ∈ ['t', 'r', 'u', 'e'], d.isAlpha = true := List.all_eq_true.mp rfl
    rw [← Char.isAlpha_toLower_eq_isAlpha]
    exact halpha _ hlower

/-- A value asks for the embedding exactly if it says yes with white space around it. -/
theorem isYes_eq_true_iff {value : String} :
    isYes value = true ↔
      ∃ left core right, IsPadded value.toList left core.toList right ∧ IsYes core := by
  have htrimmed : isYes value = true ↔ IsYes (String.ofList (trimBlanks value.toList)) := by
    rw [isYes_iff, String.toList_ofList]
    unfold isYes
    simp
  rw [htrimmed]
  exact trimBlanks_iff_exists_isPadded fun _ => IsYes.isTight

/-! ## Both settings -/

theorem seed_ofLookup_eq_some_iff {lookup : String → Option String} {n : UInt64} :
    (ofLookup lookup).seed = some n ↔
      ∃ value left core right, lookup seedVariable = some value ∧
        IsPadded value.toList left core.toList right ∧ IsSeed core n.toNat := by
  show (lookup seedVariable).bind readSeed? = some n ↔ _
  simp only [Option.bind_eq_some_iff, readSeed?_eq_some_iff]
  constructor
  · rintro ⟨value, hvalue, left, core, right, hread⟩
    exact ⟨value, left, core, right, hvalue, hread⟩
  · rintro ⟨value, left, core, right, hvalue, hread⟩
    exact ⟨value, hvalue, left, core, right, hread⟩

theorem embedded_ofLookup_iff {lookup : String → Option String} :
    (ofLookup lookup).embedded = true ↔
      ∃ value left core right, lookup embeddedVariable = some value ∧
        IsPadded value.toList left core.toList right ∧ IsYes core := by
  show (lookup embeddedVariable).any isYes = true ↔ _
  simp only [Option.any_eq_true, isYes_eq_true_iff]
  constructor
  · rintro ⟨value, hvalue, left, core, right, hread⟩
    exact ⟨value, left, core, right, hvalue, hread⟩
  · rintro ⟨value, left, core, right, hvalue, hread⟩
    exact ⟨value, hvalue, left, core, right, hread⟩

/-- **Reading the settings.** The seed is a number exactly if its variable is set and the value
is that number in decimal digits, with a plus sign or without one in front, zeros allowed, and
white space around it. No other value gives a seed, so a numeral of a number that has no word
gives none. The embedding is asked for exactly if its variable is set to the digit one or to
`true` in letters of either case, with white space around it. Neither variable has to do with
the other setting. The numeral of a seed, with white space around it, is read as this seed. -/
theorem ofLookup_reads_forms (lookup : String → Option String) :
    (∀ n, (ofLookup lookup).seed = some n ↔
      ∃ value left core right, lookup seedVariable = some value ∧
        IsPadded value.toList left core.toList right ∧ IsSeed core n.toNat) ∧
      ((ofLookup lookup).embedded = true ↔
        ∃ value left core right, lookup embeddedVariable = some value ∧
          IsPadded value.toList left core.toList right ∧ IsYes core) ∧
      (∀ other, (ofLookup (Function.update lookup embeddedVariable other)).seed =
        (ofLookup lookup).seed) ∧
      (∀ other, (ofLookup (Function.update lookup seedVariable other)).embedded =
        (ofLookup lookup).embedded) ∧
      ∀ (n : UInt64) (value : String) (left right : List Char),
        lookup seedVariable = some value → IsPadded value.toList left (toString n).toList right →
        (ofLookup lookup).seed = some n := by
  have hne : seedVariable ≠ embeddedVariable := by decide
  refine ⟨fun n => seed_ofLookup_eq_some_iff, embedded_ofLookup_iff, ?_, ?_, ?_⟩
  · intro other
    unfold ofLookup
    rw [Function.update_of_ne hne]
  · intro other
    unfold ofLookup
    rw [Function.update_of_ne hne.symm]
  · intro n value left right hvalue hpadded
    have hseed : IsSeed (toString n) n.toNat :=
      ⟨"", toString n, (String.empty_append).symm, .inl rfl, isDigits_repr n.toNat⟩
    exact seed_ofLookup_eq_some_iff.mpr ⟨value, left, _, right, hvalue, hpadded, hseed⟩

/-- Both variables are set, with white space that is not in ASCII around the seed. -/
def paddedVariables (name : String) : Option String :=
  if name = seedVariable then some "\u00a0+0042\u2028"
  else if name = embeddedVariable then some " tRUE\n"
  else none

theorem ofLookup_reads_forms_padded :
    (ofLookup paddedVariables).seed = some 42 ∧ (ofLookup paddedVariables).embedded = true ∧
      (ofLookup fun _ => some "\t18446744073709551615").seed = some 18446744073709551615 := by
  obtain ⟨hseed, hembedded, -, -, -⟩ := ofLookup_reads_forms paddedVariables
  refine ⟨?_, ?_, ?_⟩
  · have hdigits : IsDigits "0042" 42 := ⟨by simp, List.all_eq_true.mp rfl, rfl⟩
    have hpadded : IsPadded "\u00a0+0042\u2028".toList ['\u00a0'] "+0042".toList ['\u2028'] :=
      ⟨rfl, List.all_eq_true.mp rfl, List.all_eq_true.mp rfl⟩
    exact (hseed 42).mpr ⟨_, _, "+0042", _, rfl, hpadded, "+", "0042", rfl, .inr rfl, hdigits⟩
  · have hpadded : IsPadded " tRUE\n".toList [' '] "tRUE".toList ['\n'] :=
      ⟨rfl, List.all_eq_true.mp rfl, List.all_eq_true.mp rfl⟩
    have hyes : IsYes "tRUE" := isYes_iff.mpr (.inr rfl)
    exact hembedded.mpr ⟨_, _, "tRUE", _, rfl, hpadded, hyes⟩
  · obtain ⟨-, -, -, -, hnumeral⟩ := ofLookup_reads_forms fun _ => some "\t18446744073709551615"
    exact hnumeral _ _ ['\t'] [] rfl ⟨rfl, List.all_eq_true.mp rfl, List.all_eq_true.mp rfl⟩

/-- The least number without a word. -/
example : (ofLookup fun _ => some "18446744073709551616").seed = none := by rfl

end Settings

end Remedy
