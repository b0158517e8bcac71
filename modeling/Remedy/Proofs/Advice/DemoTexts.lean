import Mathlib.Data.List.Forall2
import Remedy.Demo
import Remedy.Proofs.Text.Digits
import Remedy.Proofs.Text.NestedCode
import Remedy.Random.Source
import Remedy.Text.Cut

/-!
# The texts of demo values

`DemoForm.Writes` lists the texts that a value of a form can be. Whatever a source
holds, what is drawn for a form is one of its texts, and each of its texts is what
some words give. No text belongs to two forms: `DemoForm.ofText` reads the form off
the text. So values of two types can only be the same text if the names of the types
ask for one form. The texts of arrays and objects and the fixed text need no word at all
(`DemoForm.Fixed`).
-/

namespace Remedy

namespace Draw

/-! ## Values from some words -/

/-- Some words give the value, and are used up by it. -/
def CanGive {α : Type} (x : Draw ListedWords α) (a : α) : Prop :=
  ∃ words, ∀ rest, x ⟨words ++ rest⟩ = (a, ⟨rest⟩)

theorem CanGive.pure {α : Type} (a : α) : (Pure.pure a : Draw ListedWords α).CanGive a :=
  ⟨[], fun _ => rfl⟩

theorem CanGive.bind {α β : Type} {x : Draw ListedWords α} {f : α → Draw ListedWords β} {a : α}
    {b : β} (hx : x.CanGive a) (hf : (f a).CanGive b) : (x >>= f).CanGive b := by
  obtain ⟨words, hwords⟩ := hx
  obtain ⟨more, hmore⟩ := hf
  refine ⟨words ++ more, fun rest => ?_⟩
  show f (x ⟨words ++ more ++ rest⟩).1 (x ⟨words ++ more ++ rest⟩).2 = _
  rw [List.append_assoc, hwords, hmore]

theorem canGive_word32 (v : BitVec 32) : word32.CanGive v := by
  -- A request for 32 bits takes the low half of a listed word.
  refine ⟨[UInt64.ofBitVec (v.setWidth 64)], fun rest => Prod.ext ?_ rfl⟩
  show (UInt64.ofBitVec (v.setWidth 64)).toUInt32.toBitVec = v
  simp

theorem canGive_word64 (v : BitVec 64) : word64.CanGive v :=
  ⟨[UInt64.ofBitVec v], fun _ => rfl⟩

/-- A word that may be kept is the first one that is tried. -/
theorem canGive_belowWithin {w : Nat} {word : Draw ListedWords (BitVec w)} {v : BitVec w} {n : Nat}
    (hn : 0 < n) (tries : Nat) (hword : word.CanGive v) (hfair : isFair v n = true) :
    (belowWithin word n hn (tries + 1)).CanGive (scale v n hn) := by
  refine hword.bind ?_
  rw [if_pos hfair]
  exact .pure _

/-- The least word that is scaled to `i`. -/
def wordFor (w n i : Nat) : BitVec w := BitVec.ofNat w ((i <<< w + (n - 1)) / n)

theorem canGive_below32_hundred (i : Fin 100) : (below32 100 (by decide)).CanGive i := by
  have hword : ∀ i : Fin 100, isFair (wordFor 32 100 i) 100 = true ∧
      scale (wordFor 32 100 i) 100 (by decide) = i := by decide +kernel
  obtain ⟨hfair, hscale⟩ := hword i
  have hgive := canGive_belowWithin (by decide) (patience - 1) (canGive_word32 _) hfair
  rwa [hscale] at hgive

theorem canGive_below64_letters (i : Fin 25) : (below64 25 (by decide)).CanGive i := by
  have hword : ∀ i : Fin 25, isFair (wordFor 64 25 i) 25 = true ∧
      scale (wordFor 64 25 i) 25 (by decide) = i := by decide +kernel
  obtain ⟨hfair, hscale⟩ := hword i
  have hgive := canGive_belowWithin (by decide) (patience - 1) (canGive_word64 _) hfair
  rwa [hscale] at hgive

theorem canGive_coin (heads : Bool) : coin.CanGive heads := by
  cases heads with
  | true => exact (canGive_word64 0).bind (.pure _)
  | false => exact (canGive_word64 (BitVec.twoPow 64 63)).bind (.pure _)

theorem canGive_fraction {numerator : Nat} (h : numerator < 1 <<< 53) :
    fraction.CanGive numerator := by
  have hgive : fraction.CanGive ((BitVec.ofNat 64 (numerator <<< 11)).toNat >>> 11) :=
    (canGive_word64 _).bind (.pure _)
  have hback : (BitVec.ofNat 64 (numerator <<< 11)).toNat >>> 11 = numerator := by
    simp only [BitVec.toNat_ofNat, Nat.shiftLeft_eq, Nat.shiftRight_eq_div_pow] at h ⊢
    omega
  rwa [hback] at hgive

theorem ensures_fraction {σ : Type} [RandomSource σ] :
    (fraction (σ := σ)).Ensures fun numerator => numerator < 1 <<< 53 := by
  refine .bind _ fun v => .pure ?_
  have hlt := v.isLt
  simp only [Nat.shiftLeft_eq, Nat.shiftRight_eq_div_pow]
  omega

end Draw

namespace DemoForm

/-! ## The texts of a form -/

/-- The texts that a value of a form can be. -/
inductive Writes : DemoForm → String → Prop
  | whole (n : Fin 100) : Writes whole (toString n.val)
  | decimal {numerator : Nat} (h : numerator < 1 <<< 53) :
      Writes decimal (hundredthsText (hundredthsOfTenfold numerator))
  | truth (heads : Bool) : Writes truth (if heads then "true" else "false")
  | letter (i : Fin 25) : Writes letter (String.singleton (letters.get i))
  | greeting : Writes greeting "\"hello world\""
  | array (element : String) (openPairs : Nat) :
      Writes (array element openPairs) ("new " ++ element ++ "[5]" ++ bracketPairs openPairs)
  | object (type : String) : Writes (object type) ("new " ++ type ++ "()")

variable {form : DemoForm} {text : String}

/-- Whatever the source holds, a text of the form is drawn. -/
theorem ensures_writes {σ : Type} [RandomSource σ] (form : DemoForm) :
    (form.draw (σ := σ)).Ensures form.Writes := by
  cases form with
  | whole => exact .bind _ fun n => .pure (.whole n)
  | decimal => exact .bind_of Draw.ensures_fraction fun _ h => .pure (.decimal h)
  | truth => exact .bind _ fun heads => .pure (.truth heads)
  | letter => exact .bind _ fun i => .pure (.letter i)
  | greeting => exact .pure .greeting
  | array element openPairs => exact .pure (.array element openPairs)
  | object type => exact .pure (.object type)

/-- Each text of the form is drawn from some words. -/
theorem Writes.canGive (h : form.Writes text) : (form.draw (σ := ListedWords)).CanGive text := by
  cases h with
  | whole n => exact (Draw.canGive_below32_hundred n).bind (.pure _)
  | decimal h => exact (Draw.canGive_fraction h).bind (.pure _)
  | truth heads => exact (Draw.canGive_coin heads).bind (.pure _)
  | letter i => exact (Draw.canGive_below64_letters i).bind (.pure _)
  | greeting => exact .pure _
  | array element openPairs => exact .pure _
  | object type => exact .pure _

/-- Every form has a text. -/
theorem exists_writes (form : DemoForm) : ∃ text, form.Writes text :=
  ⟨_, ensures_writes form (⟨[]⟩ : ListedWords)⟩

/-! ## Forms that need no random word -/

/-- The forms that need no random word. -/
inductive Fixed : DemoForm → Prop
  | greeting : Fixed .greeting
  | array (element : String) (openPairs : Nat) : Fixed (.array element openPairs)
  | object (type : String) : Fixed (.object type)

/-- One text is drawn from every source, and the source is left as it is. -/
theorem Fixed.exists_text (h : form.Fixed) :
    ∃ text, ∀ {σ : Type} [RandomSource σ] (source : σ), form.draw source = (text, source) := by
  cases h with
  | greeting => exact ⟨_, fun _ => rfl⟩
  | array element openPairs => exact ⟨_, fun _ => rfl⟩
  | object type => exact ⟨_, fun _ => rfl⟩

/-- A type that is neither built in nor the text type is an array or a class. -/
theorem ofType_of_unnamed {type : String} (h : type ∉ "String" :: Snippet.primitiveTypes) :
    ofType type =
      match trailingPairs 0 type.toList.reverse with
      | (0, _) => object (orObject type)
      | (pairs + 1, bare) => array (orObject (String.ofList bare.reverse)) pairs := by
  have hnamed : ∀ named ∈ "String" :: Snippet.primitiveTypes, type ≠ named :=
    fun named hmem heq => h (heq ▸ hmem)
  simp only [Snippet.primitiveTypes, List.forall_mem_cons] at hnamed
  obtain ⟨hstring, hbyte, hshort, hint, hlong, hfloat, hdouble, hboolean, hchar, -⟩ := hnamed
  have hwhole : type ∉ ["byte", "short", "int", "long"] := by
    simp [hbyte, hshort, hint, hlong]
  have hdecimal : type ∉ ["float", "double"] := by
    simp [hfloat, hdouble]
  calc
    ofType type = _ := if_neg hwhole
    _ = _ := if_neg hdecimal
    _ = _ := if_neg hboolean
    _ = _ := if_neg hchar
    _ = _ := if_neg hstring

/-- Only the built-in types need a random word. -/
theorem fixed_ofType {type : String} (h : type ∉ Snippet.primitiveTypes) :
    (ofType type).Fixed := by
  by_cases hstring : type = "String"
  · have hform : ofType "String" = greeting := by decide
    rw [hstring, hform]
    exact .greeting
  · rw [ofType_of_unnamed (List.not_mem_cons_of_ne_of_not_mem hstring h)]
    split
    · exact .object _
    · exact .array _ _

/-! ## Reading the form off a text -/

/-- What a text behind `new ` creates: an object if it ends in a parenthesis, and
otherwise an array, whose first size is written in three characters. -/
def ofCreated (rest : List Char) : DemoForm :=
  if rest.getLast? = some ')' then object (String.ofList rest.dropLast.dropLast)
  else
    let (pairs, bare) := trailingPairs 0 rest.reverse
    array (String.ofList (bare.drop 3).reverse) pairs

/-- The form that a text is a value of. -/
def ofText (text : String) : DemoForm :=
  let cs := text.toList
  if cs.head?.any Char.isDigit then if '.' ∈ cs then decimal else whole
  else if cs.head? = some '"' then greeting
  else if cs.length = 1 then letter
  else if cs.take 4 = ['n', 'e', 'w', ' '] then ofCreated (cs.drop 4)
  else truth

theorem trailingPairs_bracketPairs (counted n : Nat) (rest : List Char) :
    trailingPairs counted ((bracketPairs n).toList.reverse ++ rest) =
      trailingPairs (counted + n) rest := by
  induction n generalizing rest with
  | zero => rfl
  | succ n ih =>
    rw [toList_bracketPairs_succ, List.reverse_cons, List.reverse_cons, List.append_assoc,
      List.append_assoc, ih]
    show trailingPairs (counted + n + 1) rest = _
    rw [Nat.add_assoc]

/-- An array creation does not end in a parenthesis. -/
theorem getLast?_ne_of_bracketPairs (front : List Char) (n : Nat) :
    (front ++ ']' :: (bracketPairs n).toList).getLast? ≠ some ')' := by
  rw [List.getLast?_append_of_ne_nil _ (List.cons_ne_nil _ _)]
  intro hlast
  rcases List.mem_cons.mp (List.mem_of_getLast? hlast) with hfirst | hpairs
  · cases hfirst
  · exact notMem_bracketPairs (by decide) (by decide) hpairs

theorem ofCreated_array (element : List Char) (openPairs : Nat) :
    ofCreated (element ++ '[' :: '5' :: ']' :: (bracketPairs openPairs).toList) =
      array (String.ofList element) openPairs := by
  have hlast := getLast?_ne_of_bracketPairs (element ++ ['[', '5']) openPairs
  rw [List.append_assoc, List.cons_append, List.cons_append, List.nil_append] at hlast
  have hback : (element ++ '[' :: '5' :: ']' :: (bracketPairs openPairs).toList).reverse =
      (bracketPairs openPairs).toList.reverse ++ (']' :: '5' :: '[' :: element.reverse) := by
    simp
  have hcount : trailingPairs (0 + openPairs) (']' :: '5' :: '[' :: element.reverse) =
      (openPairs, ']' :: '5' :: '[' :: element.reverse) := by
    rw [Nat.zero_add]
    rfl
  rw [ofCreated, if_neg hlast, hback, trailingPairs_bracketPairs, hcount]
  simp

theorem ofCreated_object (type : List Char) :
    ofCreated (type ++ ['(', ')']) = object (String.ofList type) := by
  simp [ofCreated]

/-- A text that begins with a number is a number. -/
theorem ofText_number (n : Nat) (rest : String) :
    ofText (n.repr ++ rest) = if '.' ∈ rest.toList then decimal else whole := by
  have hdot : '.' ∉ n.repr.toList := by
    intro hmem
    cases isDigit_of_mem_repr hmem
  unfold ofText
  cases hn : n.repr.toList with
  | nil =>
    rw [Nat.toList_repr] at hn
    exact absurd hn Nat.toDigits_ne_nil
  | cons c cs =>
    have hfirst : c.isDigit = true := isDigit_of_mem_repr (n := n) (by rw [hn]; simp)
    rw [hn] at hdot
    simp only [String.toList_append, hn, List.cons_append, List.head?_cons, Option.any_some, hfirst,
      if_true]
    simp only [← List.cons_append, List.mem_append, hdot, false_or]

/-- The form can be read off each of its texts. -/
theorem Writes.ofText_eq (h : form.Writes text) : ofText text = form := by
  cases h with
  | whole n => simpa using ofText_number n.val ""
  | decimal h =>
    rw [hundredthsText, String.append_assoc, String.append_assoc]
    exact (ofText_number _ _).trans (by simp)
  | truth heads => cases heads <;> decide
  | letter i => revert i; decide
  | greeting => decide
  | array element openPairs =>
    have := ofCreated_array element.toList openPairs
    simpa [ofText] using this
  | object type =>
    have := ofCreated_object type.toList
    simpa [ofText] using this

/-- A text belongs to one form. -/
theorem Writes.unique {other : DemoForm} (h : form.Writes text) (h' : other.Writes text) :
    form = other :=
  h.ofText_eq.symm.trans h'.ofText_eq

/-! ## Texts behind an equals sign -/

theorem blank_notMem_repr (n : Nat) : ' ' ∉ n.repr.toList := by
  intro hmem
  cases isDigit_of_mem_repr hmem

theorem blank_notMem_hundredthsText (n : Nat) : ' ' ∉ (hundredthsText n).toList := by
  simp only [hundredthsText, String.toList_append, List.mem_append, not_or]
  exact ⟨⟨⟨blank_notMem_repr _, by decide⟩, blank_notMem_repr _⟩, blank_notMem_repr _⟩

/-- A form has one text only, or its texts have no blank in them. -/
theorem Writes.eq_or_blank_notMem {text' : String} (h : form.Writes text)
    (h' : form.Writes text') : text = text' ∨ ' ' ∉ text.toList ∧ ' ' ∉ text'.toList := by
  cases h with
  | whole n =>
    cases h' with
    | whole n' => exact .inr ⟨blank_notMem_repr _, blank_notMem_repr _⟩
  | decimal _ =>
    cases h' with
    | decimal _ =>
      exact .inr ⟨blank_notMem_hundredthsText _, blank_notMem_hundredthsText _⟩
  | truth heads =>
    cases h' with
    | truth heads' => cases heads <;> cases heads' <;> decide
  | letter i =>
    have hfree : ∀ i, ' ' ∉ (String.singleton (letters.get i)).toList := by decide
    cases h' with
    | letter i' => exact .inr ⟨hfree i, hfree i'⟩
  | greeting | array element openPairs | object type =>
    cases h'
    exact .inl rfl

/-- What stands before an equals sign can be told from two texts with values of one
form behind it. -/
theorem Writes.eq_of_append {text' front front' : String} (h : form.Writes text)
    (h' : form.Writes text') (heq : front ++ " = " ++ text = front' ++ " = " ++ text') :
    front = front' := by
  rcases h.eq_or_blank_notMem h' with rfl | ⟨hfree, hfree'⟩
  · simpa using heq
  · -- The last blank of either text is the one behind the equals sign.
    have hcut : ∀ front {text : String}, ' ' ∉ text.toList →
        cutLast ' ' (front ++ " = " ++ text).toList =
          some (front.toList ++ [' ', '='], text.toList) := by
      intro front text hfree
      exact cutLast_eq_some_iff.mpr ⟨by simp, hfree⟩
    have hsame := hcut front hfree
    rw [heq, hcut front' hfree'] at hsame
    simpa [String.toList_inj, eq_comm] using congrArg (Option.map Prod.fst) hsame

end DemoForm

namespace Demo

/-! ## Values and declarations -/

variable {σ : Type} [RandomSource σ]

/-- The value of each type is a text of its form. -/
def ValuesOf (types texts : List String) : Prop :=
  List.Forall₂ (fun type text => (DemoForm.ofType type).Writes text) types texts

theorem ensures_valuesOf (types : List String) :
    (values (σ := σ) types).Ensures (ValuesOf types) := by
  induction types with
  | nil => exact .pure .nil
  | cons type rest ih =>
    rw [values, List.mapM_cons]
    refine .bind_of (DemoForm.ensures_writes _) fun text htext => ?_
    exact .bind_of ih fun texts htexts => .pure (.cons htext htexts)

theorem exists_valuesOf (types : List String) : ∃ texts, ValuesOf types texts :=
  ⟨_, ensures_valuesOf types (⟨[]⟩ : ListedWords)⟩

theorem ValuesOf.canGive {types texts : List String} (h : ValuesOf types texts) :
    (values (σ := ListedWords) types).CanGive texts := by
  induction h with
  | nil => exact .pure _
  | cons hfirst _ ih =>
    rw [values, List.mapM_cons]
    exact hfirst.canGive.bind (ih.bind (.pure _))

/-- The text of a declaration with a value. -/
def declarationText (type name value : String) : String :=
  type ++ " " ++ name ++ " = " ++ value ++ ";"

theorem declarationText_value_inj {type name value value' : String} :
    declarationText type name value = declarationText type name value' ↔ value = value' := by
  simp [declarationText]

/-- The type can be read off a declaration with a value of a given form. -/
theorem declarationText_type_inj {form : DemoForm} {type type' name value value' : String}
    (h : form.Writes value) (h' : form.Writes value')
    (heq : declarationText type name value = declarationText type' name value') :
    type = type' := by
  have hvalue := (String.append_left_inj ";").mp heq
  simpa using h.eq_of_append h' hvalue

/-- A declaration shows a text of the form of its value. -/
theorem ensures_declareAs_writes (declared name valueType : String) :
    (declareAs (σ := σ) declared name valueType).Ensures fun code =>
      ∃ value, (DemoForm.ofType valueType).Writes value ∧
        code = declarationText declared name value :=
  .bind_of (DemoForm.ensures_writes _) fun value hvalue => .pure ⟨value, hvalue, rfl⟩

theorem canGive_declareAs {valueType value : String} (h : (DemoForm.ofType valueType).Writes value)
    (declared name : String) :
    (declareAs (σ := ListedWords) declared name valueType).CanGive
      (declarationText declared name value) :=
  h.canGive.bind (.pure _)

/-- A call has a text of its form for each parameter type. -/
theorem ensures_call_valuesOf (name : String) (parameterTypes : List String) :
    (call (σ := σ) name parameterTypes).Ensures fun code =>
      ∃ texts, ValuesOf parameterTypes texts ∧ code = Snippet.application name texts :=
  .bind_of (ensures_valuesOf _) fun texts htexts => .pure ⟨texts, htexts, rfl⟩

theorem canGive_call {parameterTypes texts : List String} (h : ValuesOf parameterTypes texts)
    (name : String) :
    (call (σ := ListedWords) name parameterTypes).CanGive (Snippet.application name texts) :=
  h.canGive.bind (.pure _)

end Demo

end Remedy
