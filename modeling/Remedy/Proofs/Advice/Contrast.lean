import Remedy.Proofs.Advice.DemoTexts
import Remedy.Proofs.Registry.Builtin
import Remedy.Syntax.Draft

/-!
# Incorrect against corrected code

A hint contrasts examples of incorrect code with examples of corrected code. Both
sides are filled with learner text, short type names, stand-in names and demo values,
and for some sites both sides come out as the same text. `Site.Echoes` lists these
sites. The learner's own name may be the stand-in for a corrected one, two types may
read the same once they are short, or a demo value may be the text that it is
contrasted with.

The main result says that the list is complete: the hints of a site contrast, whatever
the random source gives, exactly if the site is not on it.
-/

namespace Remedy

/-- No example of the incorrect code is also one of the corrected code. -/
def Hint.Contrasts (h : Hint) : Prop := ∀ code ∈ h.bad, code ∉ h.good

instance (h : Hint) : Decidable h.Contrasts := inferInstanceAs (Decidable (∀ code ∈ h.bad, _))

/-- Every hint of the list contrasts. -/
def AllContrast (hints : List Hint) : Prop := ∀ h ∈ hints, h.Contrasts

theorem Hint.contrasts_pair {problem suggestion bad good : String} :
    Contrasts { problem, suggestion, bad := [bad], good := [good] } ↔ bad ≠ good := by
  simp [Contrasts]

theorem allContrast_nil : AllContrast [] := by simp [AllContrast]

theorem allContrast_cons {h : Hint} {rest : List Hint} :
    AllContrast (h :: rest) ↔ h.Contrasts ∧ AllContrast rest := by
  simp [AllContrast]

theorem allContrast_append {hints more : List Hint} :
    AllContrast (hints ++ more) ↔ AllContrast hints ∧ AllContrast more :=
  List.forall_mem_append

/-- A text differs from a longer one. -/
theorem ne_of_length_lt {code other : String} (h : code.toList.length < other.toList.length) :
    code ≠ other := by
  rintro rfl
  exact Nat.lt_irrefl _ h

/-! ## Array creations -/

namespace ArrayCreation

variable {array : ArrayVariable}

theorem declaration_inj {pairs rest rest' : String} :
    declaration array pairs rest = declaration array pairs rest' ↔ rest = rest' := by
  simp [declaration]

theorem allContrast_missingSizeHints (array : ArrayVariable) :
    AllContrast (missingSizeHints array) := by
  simp [AllContrast, missingSizeHints, Hint.Contrasts, declaration_inj]

theorem allContrast_missingOuterSizeHints (array : ArrayVariable) :
    AllContrast (missingOuterSizeHints array) := by
  simp [AllContrast, missingOuterSizeHints, Hint.Contrasts, declaration_inj]

/-- Either way to write the array is shorter than both together. -/
theorem allContrast_sizeAndElementsHints (array : ArrayVariable) (elements : String) :
    AllContrast (sizeAndElementsHints array elements) := by
  have hsize : declaration array "[]" "[5]" ≠ declaration array "[]" ("[5] " ++ elements) :=
    ne_of_length_lt (by simp [declaration])
  have helements : array.elementType ++ "[] " ++ array.name ++ " = " ++ elements ++ ";" ≠
      declaration array "[]" ("[5] " ++ elements) :=
    ne_of_length_lt (by simp [declaration]; omega)
  simp only [AllContrast, sizeAndElementsHints, Hint.Contrasts, forall_eq, List.mem_cons,
    List.not_mem_nil, or_false, not_or]
  exact ⟨hsize.symm, helements.symm⟩

end ArrayCreation

/-! ## Method calls -/

theorem Snippet.application_name_inj {name name' : String} {items : List String} :
    application name items = application name' items ↔ name = name' := by
  simp [application]

namespace MethodCall

/-- Only a call of the stand-in itself is the same before and after the correction. -/
theorem allContrast_unknownMethodHints {call : CallFacts} {stringDecl objectDecl : String} :
    AllContrast (unknownMethodHints call stringDecl objectDecl) ↔ call.name ≠ "correctName" := by
  have hname : stringDecl ++ "\nstr." ++ call.text ++ ";" =
      stringDecl ++ "\nstr." ++ Snippet.application "correctName" call.arguments ++ ";" ↔
        call.name = "correctName" := by
    simp [CallFacts.text, Snippet.application_name_inj]
  have hdefined : ∀ method, call.text ++ ";" ≠ call.text ++ ";\n" ++ method :=
    fun method => ne_of_length_lt (by simp)
  have hobject : ∀ header, classWith header ++ call.text ++ ";" ≠
      classWith header ++ (objectDecl ++ "\nmyObject." ++ call.text ++ ";") :=
    fun header => ne_of_length_lt (by simp; omega)
  have hmember : ∀ header rest,
      "class YourClass \x7b\n\x7d\n" ++ rest ≠ classWith header ++ rest :=
    fun header rest => ne_of_length_lt (by simp [classWith, Snippet.braced]; omega)
  simp only [unknownMethodHints, allContrast_cons, Hint.contrasts_pair]
  constructor
  · intro h heq
    exact h.1 (hname.mpr heq)
  · intro hne
    exact ⟨fun heq => hne (hname.mp heq), hdefined _, hobject _, hmember _ _, allContrast_nil⟩

theorem program_call_inj {header call call' : String} :
    program header call = program header call' ↔ call = call' := by
  simp [program, Snippet.braced]

theorem program_header_inj {header header' call : String} :
    program header call = program header' call ↔ header = header' := by
  simp [program, Snippet.braced]

/-- The mended call has to differ from the learner's, and the mended method from the
one that the call is bound to. -/
theorem allContrast_mendEither {b : BoundCall} {onCall onMethod mendedCall : String} :
    AllContrast (mendEither b onCall onMethod mendedCall) ↔
      b.call.text ≠ mendedCall ∧ b.header b.requiredTypes ≠ b.header b.call.argumentTypes := by
  simp only [mendEither, allContrast_cons, Hint.contrasts_pair, ne_eq, program_call_inj,
    program_header_inj, allContrast_nil, and_true]

end MethodCall

/-! ## Missing results -/

theorem Snippet.braced_ne_of_length_lt {header body other : String}
    (h : body.toList.length < other.toList.length) : braced header body ≠ braced header other :=
  ne_of_length_lt (by simpa [braced] using h)

/-- The corrected method has a result more than the incorrect one. -/
theorem MethodResult.allContrast_missingResultHints (method : MethodFacts) (e : Examples) :
    AllContrast (missingResultHints method e) := by
  simp only [missingResultHints, allContrast_cons, Hint.contrasts_pair]
  refine ⟨Snippet.braced_ne_of_length_lt (by simp), ?_, allContrast_nil⟩
  simp only [Hint.Contrasts, forall_eq, List.mem_cons, List.not_mem_nil, or_false, not_or]
  have helse : ∀ branch value : String, branch.toList.length <
      (branch ++ " else \x7b\n    return " ++ value ++ ";\n  \x7d").toList.length :=
    fun branch value => by simp
  have hbehind : ∀ branch value : String,
      branch.toList.length < (branch ++ "\n  return " ++ value ++ ";").toList.length :=
    fun branch value => by simp
  exact ⟨Snippet.braced_ne_of_length_lt (helse _ _), Snippet.braced_ne_of_length_lt (hbehind _ _)⟩

/-! ## Types of variables -/

/-- A name with a capital C in front is of no built-in type. -/
theorem DemoForm.ofType_of_head?_eq {type : String} (h : type.toList.head? = some 'C') :
    ofType type = object type ∨ ∃ element pairs, ofType type = array element pairs := by
  have hnamed : ∀ named : String, named.toList.head? ≠ some 'C' → type ≠ named :=
    fun named hne heq => hne (heq ▸ h)
  have hwhole : type ∉ ["byte", "short", "int", "long"] := by
    simp only [List.mem_cons, List.not_mem_nil, or_false, not_or]
    exact ⟨hnamed _ (by decide), hnamed _ (by decide), hnamed _ (by decide), hnamed _ (by decide)⟩
  have hdecimal : type ∉ ["float", "double"] := by
    simp only [List.mem_cons, List.not_mem_nil, or_false, not_or]
    exact ⟨hnamed _ (by decide), hnamed _ (by decide)⟩
  rw [ofType, if_neg hwhole, if_neg hdecimal, if_neg (hnamed _ (by decide)),
    if_neg (hnamed _ (by decide)), if_neg (hnamed _ (by decide))]
  split
  next => exact .inl (by rw [orObject, if_neg (hnamed "" (by decide))])
  next pairs bare _ => exact .inr ⟨_, pairs, rfl⟩

namespace VariableType

variable {m : Mismatch}

theorem contrasts_returnTypeHint {declaration : String} :
    (returnTypeHint m declaration).Contrasts ↔ m.required ≠ m.provided := by
  simp [returnTypeHint, Hint.contrasts_pair, returningMethod, Snippet.braced]

theorem isFloatInInt_iff :
    m.isFloatInInt = true ↔ m.provided = "float" ∧ m.required = "int" := by
  rw [Mismatch.isFloatInInt, Bool.and_eq_true, beq_iff_eq, beq_iff_eq]

/-- The hint on arithmetic is about an integer that becomes a float. -/
theorem contrasts_arithmeticHint (hmixed : m.isFloatInInt = true) (badValue goodValue : String) :
    (arithmeticHint m (Demo.declarationText m.required m.variableName badValue)
      (Demo.declarationText m.provided m.variableName goodValue)).Contrasts := by
  obtain ⟨hprovided, hrequired⟩ := isFloatInInt_iff.mp hmixed
  simp [arithmeticHint, Hint.contrasts_pair, Demo.declarationText, hprovided, hrequired,
    ← String.toList_inj]

variable {σ : Type} [RandomSource σ]

/-- Where the two types ask for values of two forms, every hint contrasts. -/
theorem ensures_allContrast_mismatchHints
    (h : DemoForm.ofType m.provided ≠ DemoForm.ofType m.required) :
    (mismatchHints (σ := σ) m).Ensures AllContrast := by
  have hne : m.required ≠ m.provided := fun heq => h (by rw [heq])
  refine .bind_of (Demo.ensures_declareAs_writes _ _ _) ?_
  rintro _ ⟨retypeBad, hretypeBad, rfl⟩
  refine .bind_of (Demo.ensures_declareAs_writes _ _ _) ?_
  rintro _ ⟨retypeGood, hretypeGood, rfl⟩
  refine .bind_of (Demo.ensures_declareAs_writes _ _ _) ?_
  rintro _ ⟨revalueBad, hrevalueBad, rfl⟩
  refine .bind_of (Demo.ensures_declareAs_writes _ _ _) ?_
  rintro _ ⟨revalueGood, hrevalueGood, rfl⟩
  refine .bind _ fun returned => ?_
  have hretype : Demo.declarationText m.required m.variableName retypeBad ≠
      Demo.declarationText m.provided m.variableName retypeGood :=
    fun heq => hne (Demo.declarationText_type_inj hretypeBad hretypeGood heq)
  have hrevalue : revalueBad ≠ revalueGood := by
    rintro rfl
    exact h (hrevalueBad.unique hrevalueGood)
  have hthree : AllContrast
      [retypeHint m (Demo.declarationText m.required m.variableName retypeBad)
          (Demo.declarationText m.provided m.variableName retypeGood),
        revalueHint m (Demo.declarationText m.required m.variableName revalueBad)
          (Demo.declarationText m.required m.variableName revalueGood),
        returnTypeHint m returned] := by
    simp only [allContrast_cons, contrasts_returnTypeHint, retypeHint, revalueHint,
      Hint.contrasts_pair, ne_eq, Demo.declarationText_value_inj]
    exact ⟨hretype, hrevalue, hne, allContrast_nil⟩
  split
  next hmixed =>
    refine .bind_of (Demo.ensures_declareAs_writes _ _ _) ?_
    rintro _ ⟨badValue, _, rfl⟩
    refine .bind_of (Demo.ensures_declareAs_writes _ _ _) ?_
    rintro _ ⟨goodValue, _, rfl⟩
    have hlast := contrasts_arithmeticHint hmixed badValue goodValue
    exact .pure (allContrast_append.mpr ⟨hthree, allContrast_cons.mpr ⟨hlast, allContrast_nil⟩⟩)
  next => exact .pure hthree

/-- A float and an integer are values of two forms. -/
theorem not_isFloatInInt_of_ofType_eq (h : DemoForm.ofType m.provided = DemoForm.ofType m.required) :
    ¬ m.isFloatInInt = true := by
  intro hmixed
  obtain ⟨hprovided, hrequired⟩ := isFloatInInt_iff.mp hmixed
  rw [hprovided, hrequired] at h
  cases h

/-- Where the two types ask for values of one form, some words give a hint that
shows one value of the variable on both sides. -/
theorem exists_canGive_mismatchHints
    (h : DemoForm.ofType m.provided = DemoForm.ofType m.required) :
    ∃ hints, (mismatchHints m).CanGive hints ∧ ¬ AllContrast hints := by
  obtain ⟨value, hprovided⟩ := DemoForm.exists_writes (DemoForm.ofType m.provided)
  have hrequired := h ▸ hprovided
  refine ⟨?hints, ?draw, ?echo⟩
  case draw =>
    refine .bind (Demo.canGive_declareAs hprovided _ _) ?_
    refine .bind (Demo.canGive_declareAs hprovided _ _) ?_
    refine .bind (Demo.canGive_declareAs hprovided _ _) ?_
    refine .bind (Demo.canGive_declareAs hrequired _ _) ?_
    refine .bind (Demo.canGive_declareAs hprovided _ _) ?_
    rw [if_neg (not_isFloatInInt_of_ofType_eq h)]
    exact .pure _
  case echo =>
    simp only [allContrast_cons, revalueHint, Hint.contrasts_pair]
    intro hall
    exact hall.2.1 rfl

/-- A declaration that reads like one of the stand-in class is one. -/
theorem eq_standIn_of_declarationText_eq {type name value : String}
    (h : (DemoForm.ofType type).Writes value)
    (heq : Demo.declarationText type name value =
      Demo.declarationText "CorrectName" name "new CorrectName()") : type = "CorrectName" := by
  have hchars := congrArg String.toList ((String.append_left_inj ";").mp heq)
  simp only [String.toList_append, List.append_assoc] at hchars
  have hfirst : type.toList.head? = some 'C' := by
    cases htype : type.toList with
    | nil => simp [htype] at hchars
    | cons c rest => simpa [htype] using congrArg List.head? hchars
  rcases DemoForm.ofType_of_head?_eq hfirst with hform | ⟨element, pairs, hform⟩
  · rw [hform] at h
    cases h
    have hlength : type.toList.length = "CorrectName".toList.length := by
      have := congrArg List.length hchars
      simp at this ⊢
      omega
    exact String.toList_inj.mp (List.append_inj_left hchars hlength)
  · rw [hform] at h
    cases h
    have hlast := DemoForm.getLast?_ne_of_bracketPairs
      (type ++ " " ++ name ++ " = new " ++ element ++ "[5").toList pairs
    have hends : (type ++ " " ++ name ++ " = new " ++ element ++ "[5").toList ++
        ']' :: (bracketPairs pairs).toList =
          ("CorrectName " ++ name ++ " = new CorrectName(").toList ++ [')'] := by
      simpa using hchars
    rw [hends, List.getLast?_concat] at hlast
    exact absurd rfl hlast

variable {u : UnknownClass} {value : String}

/-- Only a variable of the stand-in class itself is declared the same before and after
the correction. -/
theorem allContrast_unknownClassHints (h : (DemoForm.ofType u.className).Writes value) :
    AllContrast (unknownClassHints u (Demo.declarationText u.className u.variableName value)
      (Demo.declarationText "CorrectName" u.variableName "new CorrectName()")) ↔
        u.className ≠ "CorrectName" := by
  have hlonger : ∀ front declaration : String, front.toList ≠ [] →
      declaration ≠ front ++ declaration := by
    intro front declaration hfront
    have := List.length_pos_iff.mpr hfront
    exact ne_of_length_lt (by simp; omega)
  simp only [unknownClassHints, allContrast_cons, Hint.contrasts_pair]
  constructor
  · intro hall heq
    rw [heq, show DemoForm.ofType "CorrectName" = .object "CorrectName" by decide] at h
    cases h
    exact hall.1 (by rw [heq]; rfl)
  · intro hne
    refine ⟨fun heq => hne (eq_standIn_of_declarationText_eq h heq), ?_, ?_, ?_, allContrast_nil⟩
    · exact hlonger _ _ (by simp)
    · exact hlonger _ _ (by simp)
    · exact hlonger _ _ (by simp [Snippet.braced])

end VariableType

/-! ## The built-in hints -/

/-- The kinds of diagnostics for which some hint at the site can show one text both as
incorrect and as corrected code. -/
inductive Site.Echoes (site : Site) : Diagnostic.Kind → Prop
  /-- The called method has the name that stands in for the right one. -/
  | methodName {call : CallFacts} (hcall : site.call = .ok call)
      (hname : call.name = "correctName") : site.Echoes .undefinedMethod
  /-- The unknown class has the name that stands in for the right one. -/
  | className {u : VariableType.UnknownClass} (hu : VariableType.unknownClassFacts site = .ok u)
      (hname : u.className = "CorrectName") : site.Echoes .undefinedType
  /-- The short names of the two types ask for values of one form. -/
  | valueForm {m : VariableType.Mismatch} (hm : VariableType.mismatch site = .ok m)
      (hform : DemoForm.ofType m.provided = DemoForm.ofType m.required) : site.Echoes .typeMismatch
  /-- The method has one header with the types of its parameters and with those of the
  arguments. -/
  | methodHeader {b : MethodCall.BoundCall} (hb : MethodCall.boundCall site = .ok b)
      (hheader : b.header b.requiredTypes = b.header b.call.argumentTypes) :
      site.Echoes .parameterMismatch
  /-- The learner's call reads like one with demo values. -/
  | callText {b : MethodCall.BoundCall} (hb : MethodCall.boundCall site = .ok b)
      {values : List String} (hvalues : Demo.ValuesOf b.requiredTypes values)
      (htext : Snippet.application b.call.name values = b.call.text) :
      site.Echoes .parameterMismatch

namespace Explainers

open MethodCall VariableType

variable {kind : Diagnostic.Kind} {site : Site}

section AllWords

variable {σ : Type} [RandomSource σ]

/-- Where no text can be on both sides, none is. -/
theorem ensures_allContrast (h : ¬ site.Echoes kind) :
    ((builtin : Explainers σ).hints kind site).Ensures AllContrast := by
  cases kind with
  | missingArrayDimension =>
    refine ensures_hints_builtin_of_facts rfl allContrast_nil fun array _ => .pure ?_
    exact ArrayCreation.allContrast_missingSizeHints array
  | illegalArrayDimension =>
    refine ensures_hints_builtin_of_facts rfl allContrast_nil fun array _ => .pure ?_
    exact ArrayCreation.allContrast_missingOuterSizeHints array
  | arrayDimensionWithInitializer =>
    refine ensures_hints_builtin_of_facts rfl allContrast_nil fun array _ => ?_
    exact .bind _ fun elements => .pure (ArrayCreation.allContrast_sizeAndElementsHints array _)
  | undefinedMethod =>
    refine ensures_hints_builtin_of_facts rfl allContrast_nil fun call hcall => ?_
    have hname : call.name ≠ "correctName" := fun hname => h (.methodName hcall hname)
    refine .bind _ fun stringDecl => .bind _ fun objectDecl => .pure ?_
    exact allContrast_unknownMethodHints.mpr hname
  | parameterMismatch =>
    refine ensures_hints_builtin_of_facts rfl allContrast_nil fun b hb => ?_
    have hheader : b.header b.requiredTypes ≠ b.header b.call.argumentTypes :=
      fun hheader => h (.methodHeader hb hheader)
    have hmend : ∀ {onCall onMethod : String} {values : List String},
        Demo.ValuesOf b.requiredTypes values →
          AllContrast (mendEither b onCall onMethod (Snippet.application b.call.name values)) :=
      fun hvalues => allContrast_mendEither.mpr
        ⟨fun htext => h (.callText hb hvalues htext.symm), hheader⟩
    refine .bind_of (Demo.ensures_call_valuesOf _ _) ?_
    rintro _ ⟨values, hvalues, rfl⟩
    split
    next => exact .pure (hmend hvalues)
    next =>
      refine .bind_of (Demo.ensures_call_valuesOf _ _) ?_
      rintro _ ⟨more, hmore, rfl⟩
      exact .pure (allContrast_append.mpr ⟨hmend hvalues, hmend hmore⟩)
  | missingReturn =>
    refine ensures_hints_builtin_of_facts rfl allContrast_nil fun method _ => ?_
    refine .bind _ fun declaration => .bind _ fun condition => ?_
    refine .bind _ fun first => .bind _ fun second => .pure ?_
    exact MethodResult.allContrast_missingResultHints method _
  | typeMismatch =>
    refine ensures_hints_builtin_of_facts rfl allContrast_nil fun m hm => ?_
    exact ensures_allContrast_mismatchHints fun hform => h (.valueForm hm hform)
  | undefinedType =>
    refine ensures_hints_builtin_of_facts rfl allContrast_nil fun u hu => ?_
    have hname : u.className ≠ "CorrectName" := fun hname => h (.className hu hname)
    refine .bind_of (Demo.ensures_declareAs_writes _ _ _) ?_
    rintro _ ⟨value, hvalue, rfl⟩
    refine .pure ?_
    exact (allContrast_unknownClassHints hvalue).mpr hname
  | _ =>
    intro source
    rw [hints_builtin_of_none rfl]
    exact allContrast_nil

end AllWords

section SomeWords

/-- What some words give for the facts of a site, they give for the site. -/
theorem exists_not_allContrast_of_facts {α : Type} {facts : Site → Except SiteError α}
    {write : α → Draw ListedWords (List Hint)} {found : α}
    (h : builtinFor? kind = some (.ofFacts kind facts write)) (hfound : facts site = .ok found)
    (hgive : ∃ hints, (write found).CanGive hints ∧ ¬ AllContrast hints) :
    ∃ source : ListedWords,
      ¬ AllContrast ((builtin : Explainers ListedWords).hints kind site source).1 := by
  obtain ⟨hints, ⟨words, hwords⟩, hecho⟩ := hgive
  refine ⟨⟨words ++ []⟩, ?_⟩
  rw [hints_builtin_of_facts h, hfound]
  show ¬ AllContrast (write found ⟨words ++ []⟩).1
  rwa [hwords]

/-- The hints on the types of the arguments come first, whatever their number is. -/
theorem exists_not_allContrast_of_boundCall {b : BoundCall} {values : List String}
    (hb : boundCall site = .ok b) (hvalues : Demo.ValuesOf b.requiredTypes values)
    (hecho : ¬ AllContrast (wrongTypesHints b (Snippet.application b.call.name values))) :
    ∃ source : ListedWords, ¬ AllContrast
      ((builtin : Explainers ListedWords).hints .parameterMismatch site source).1 := by
  have hcall := Demo.canGive_call hvalues b.call.name
  refine exists_not_allContrast_of_facts rfl hb ?_
  by_cases hcount : b.sameCount = true
  · refine ⟨_, hcall.bind ?_, hecho⟩
    rw [if_pos hcount]
    exact .pure _
  · refine ⟨?hints, ?draw, ?echo⟩
    case draw =>
      refine hcall.bind ?_
      rw [if_neg hcount]
      refine hcall.bind ?_
      exact .pure _
    case echo => exact fun hall => hecho (allContrast_append.mp hall).1

/-- Where a text can be on both sides, some words put it there. -/
theorem exists_not_allContrast (h : site.Echoes kind) :
    ∃ source : ListedWords,
      ¬ AllContrast ((builtin : Explainers ListedWords).hints kind site source).1 := by
  cases h with
  | methodName hcall hname =>
    obtain ⟨text, htext⟩ := DemoForm.exists_writes (.ofType "String")
    obtain ⟨object, hobject⟩ := DemoForm.exists_writes (.ofType "YourClass")
    refine exists_not_allContrast_of_facts rfl hcall ⟨?methodHints, ?methodDraw, ?methodEcho⟩
    case methodDraw =>
      refine .bind (Demo.canGive_declareAs htext _ _) ?_
      refine .bind (Demo.canGive_declareAs hobject _ _) ?_
      exact .pure _
    case methodEcho => exact fun hall => allContrast_unknownMethodHints.mp hall hname
  | @className u hu hname =>
    obtain ⟨value, hvalue⟩ := DemoForm.exists_writes (.ofType u.className)
    have hstandIn : (DemoForm.ofType "CorrectName").Writes "new CorrectName()" :=
      .object "CorrectName"
    refine exists_not_allContrast_of_facts rfl hu ⟨?classHints, ?classDraw, ?classEcho⟩
    case classDraw =>
      refine .bind (Demo.canGive_declareAs hvalue _ _) ?_
      refine .bind (Demo.canGive_declareAs hstandIn _ _) ?_
      exact .pure _
    case classEcho => exact fun hall => (allContrast_unknownClassHints hvalue).mp hall hname
  | valueForm hm hform =>
    exact exists_not_allContrast_of_facts rfl hm (exists_canGive_mismatchHints hform)
  | @methodHeader b hb hheader =>
    obtain ⟨values, hvalues⟩ := Demo.exists_valuesOf b.requiredTypes
    refine exists_not_allContrast_of_boundCall hb hvalues ?_
    exact fun hall => (allContrast_mendEither.mp hall).2 hheader
  | callText hb hvalues htext =>
    refine exists_not_allContrast_of_boundCall hb hvalues ?_
    exact fun hall => (allContrast_mendEither.mp hall).1 htext.symm

end SomeWords

/-- **Incorrect and corrected code contrast.** No hint of a built-in explainer has an
example of incorrect code that is also one of corrected code, whatever the source of
random words, exactly if the site is none of those that echo: where the learner's name
is the stand-in for a corrected one, where the short names of two mismatched types ask
for values of one form, or where a call or its method comes out as it was. -/
theorem contrasts_hints_builtin_iff (kind : Diagnostic.Kind) (site : Site) :
    (∀ (σ : Type) [RandomSource σ] (source : σ),
      ∀ hint ∈ ((builtin : Explainers σ).hints kind site source).1, hint.Contrasts) ↔
        ¬ site.Echoes kind := by
  constructor
  · intro hall hecho
    obtain ⟨source, hsource⟩ := exists_not_allContrast hecho
    exact hsource (hall ListedWords source)
  · intro hecho σ _ source
    exact ensures_allContrast hecho source

/-- A list of one package where a list of another one is declared. -/
def twoListsSite : Site where
  tree :=
    (Draft.toTree
      ⟨#[{ kind := .simpleName "names" }, { kind := .simpleName "shown" },
        { kind := .declarator 0 (some 1) (some { element := "java.util.List", dimensions := 0 }) }]⟩
      2).toOption.get (by decide +kernel)
  anchor := 1
  arguments := ["java.awt.List", "java.util.List"]

/-- Two types that differ are both called `List` once they are short, so all three hints
show one text twice. -/
theorem hints_twoLists_repeat :
    ∃ provided required, twoListsSite.arguments = [provided, required] ∧ provided ≠ required ∧
      let hints := ((builtin : Explainers ListedWords).hints .typeMismatch twoListsSite ⟨[]⟩).1
      hints.length = 3 ∧ ∀ hint ∈ hints, ∃ code ∈ hint.bad, code ∈ hint.good :=
  ⟨"java.awt.List", "java.util.List", by decide +kernel⟩

end Explainers

end Remedy
