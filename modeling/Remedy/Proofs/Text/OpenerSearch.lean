import Remedy.Proofs.Text.Partners

/-!
# What the search for an opener finds

The search is described on any symbols by counting them. It passes over symbols whose
openers are all used up by closers that it has met before, and it stops at the first
opener for which no closer is left (`unusedOpener_eq_some_iff`). Read in the usual
order, these symbols have as many openers as closers, and no ending of them has more
openers than closers (`openerBefore_eq_some_iff`).

The two kinds of brackets are not told apart, so that the opener which is found and
the closer may be of different kinds. `EvenPairs` is what has to be asked for in
addition: that each kind comes out even.
-/

namespace Remedy

variable {α : Type} {side : α → Option BracketSide}

/-! ## Symbols that are passed over -/

/-- The number of openers. -/
def openers (side : α → Option BracketSide) (cs : List α) : Nat :=
  cs.countP fun a => side a == some .opener

/-- The number of closers. -/
def closers (side : α → Option BracketSide) (cs : List α) : Nat :=
  cs.countP fun a => side a == some .closer

/-- Read nearest first, the symbols have an opener for each closer that waits and for
each closer of their own, and no opener comes where no closer is left for it. -/
structure UsesUp (side : α → Option BracketSide) (waiting : Nat) (passed : List α) : Prop where
  enough : ∀ front, front <+: passed → openers side front ≤ waiting + closers side front
  all : openers side passed = waiting + closers side passed

variable {waiting : Nat} {a : α} {rest cs : List α}

theorem openers_cons_opener (h : side a = some .opener) (cs : List α) :
    openers side (a :: cs) = openers side cs + 1 := by
  simp [openers, h]

theorem openers_cons_of_ne (h : side a ≠ some .opener) (cs : List α) :
    openers side (a :: cs) = openers side cs := by
  simp [openers, h]

theorem closers_cons_closer (h : side a = some .closer) (cs : List α) :
    closers side (a :: cs) = closers side cs + 1 := by
  simp [closers, h]

theorem closers_cons_of_ne (h : side a ≠ some .closer) (cs : List α) :
    closers side (a :: cs) = closers side cs := by
  simp [closers, h]

theorem usesUp_nil_iff : UsesUp side waiting [] ↔ waiting = 0 := by
  constructor
  · intro h
    have := h.all
    simp only [openers, closers, List.countP_nil] at this
    omega
  · rintro rfl
    refine ⟨fun front hfront => ?_, rfl⟩
    rw [List.prefix_nil.mp hfront]
    exact Nat.le_refl _

/-- What one symbol does to the number of waiting closers, it does to all the symbols
behind it. -/
theorem usesUp_cons_iff {after : Nat}
    (h : ∀ cs, openers side (a :: cs) + after + closers side cs =
      openers side cs + waiting + closers side (a :: cs)) :
    UsesUp side waiting (a :: rest) ↔ UsesUp side after rest := by
  constructor
  · intro hall
    refine ⟨fun front hfront => ?_, ?_⟩
    · have := hall.enough (a :: front) ((List.prefix_cons_inj a).mpr hfront)
      have := h front
      omega
    · have := hall.all
      have := h rest
      omega
  · intro hrest
    refine ⟨fun front hfront => ?_, ?_⟩
    · rcases List.prefix_cons_iff.mp hfront with rfl | ⟨inner, rfl, hinner⟩
      · exact Nat.zero_le _
      · have := hrest.enough inner hinner
        have := h inner
        omega
    · have := hrest.all
      have := h rest
      omega

theorem usesUp_cons_closer (h : side a = some .closer) :
    UsesUp side waiting (a :: rest) ↔ UsesUp side (waiting + 1) rest := by
  refine usesUp_cons_iff fun cs => ?_
  rw [openers_cons_of_ne (by simp [h]), closers_cons_closer h]
  omega

theorem usesUp_cons_none (h : side a = none) :
    UsesUp side waiting (a :: rest) ↔ UsesUp side waiting rest := by
  refine usesUp_cons_iff fun cs => ?_
  rw [openers_cons_of_ne (by simp [h]), closers_cons_of_ne (by simp [h])]

theorem usesUp_cons_opener (h : side a = some .opener) :
    UsesUp side (waiting + 1) (a :: rest) ↔ UsesUp side waiting rest := by
  refine usesUp_cons_iff fun cs => ?_
  rw [openers_cons_opener h, closers_cons_of_ne (by simp [h])]
  omega

/-- Where no closer waits, an opener is not passed over. -/
theorem not_usesUp_zero_cons (h : side a = some .opener) : ¬ UsesUp side 0 (a :: rest) := by
  intro hall
  have hfirst := hall.enough [a] ⟨rest, rfl⟩
  rw [openers_cons_opener h, closers_cons_of_ne (by simp [h])] at hfirst
  simp [closers] at hfirst

/-! ## What is found -/

theorem unusedOpener_of_usesUp {passed : List α} (h : UsesUp side waiting passed)
    (hopener : side a = some .opener) :
    unusedOpener side waiting (passed ++ a :: rest) = some (a, rest) := by
  induction passed generalizing waiting with
  | nil =>
    rw [usesUp_nil_iff] at h
    subst h
    simp [unusedOpener, hopener]
  | cons c passed ih =>
    cases hside : side c with
    | none => simpa [unusedOpener, hside] using ih ((usesUp_cons_none hside).mp h)
    | some s =>
      cases s with
      | closer => simpa [unusedOpener, hside] using ih ((usesUp_cons_closer hside).mp h)
      | opener =>
        cases waiting with
        | zero => exact absurd h (not_usesUp_zero_cons hside)
        | succ waiting => simpa [unusedOpener, hside] using ih ((usesUp_cons_opener hside).mp h)

theorem exists_usesUp_of_unusedOpener (h : unusedOpener side waiting cs = some (a, rest)) :
    ∃ passed, cs = passed ++ a :: rest ∧ side a = some .opener ∧ UsesUp side waiting passed := by
  fun_induction unusedOpener side waiting cs with
  | case1 => cases h
  | case2 c cs hside =>
    cases h
    exact ⟨[], rfl, hside, usesUp_nil_iff.mpr rfl⟩
  | case3 c cs waiting hside ih =>
    obtain ⟨passed, rfl, hopener, hused⟩ := ih h
    exact ⟨c :: passed, rfl, hopener, (usesUp_cons_opener hside).mpr hused⟩
  | case4 c cs waiting hside ih =>
    obtain ⟨passed, rfl, hopener, hused⟩ := ih h
    exact ⟨c :: passed, rfl, hopener, (usesUp_cons_closer hside).mpr hused⟩
  | case5 c cs waiting hside ih =>
    obtain ⟨passed, rfl, hopener, hused⟩ := ih h
    exact ⟨c :: passed, rfl, hopener, (usesUp_cons_none hside).mpr hused⟩

/-- The search finds an opener exactly if the symbols before it are used up. -/
theorem unusedOpener_eq_some_iff :
    unusedOpener side waiting cs = some (a, rest) ↔
      ∃ passed, cs = passed ++ a :: rest ∧ side a = some .opener ∧
        UsesUp side waiting passed := by
  constructor
  · exact exists_usesUp_of_unusedOpener
  · rintro ⟨passed, rfl, hopener, hused⟩
    exact unusedOpener_of_usesUp hused hopener

/-- In the usual order: the symbols have as many openers as closers, and no ending of
them has more openers than closers. -/
theorem usesUp_reverse_iff :
    UsesUp side 0 cs.reverse ↔
      openers side cs = closers side cs ∧
        ∀ back, back <:+ cs → openers side back ≤ closers side back := by
  have hopeners : ∀ xs : List α, openers side xs.reverse = openers side xs :=
    fun xs => List.countP_reverse
  have hclosers : ∀ xs : List α, closers side xs.reverse = closers side xs :=
    fun xs => List.countP_reverse
  constructor
  · intro h
    have hall := h.all
    rw [hopeners, hclosers, Nat.zero_add] at hall
    refine ⟨hall, fun back hback => ?_⟩
    have hle := h.enough back.reverse (List.reverse_prefix.mpr hback)
    rwa [hopeners, hclosers, Nat.zero_add] at hle
  · rintro ⟨hall, henough⟩
    refine ⟨fun front hfront => ?_, ?_⟩
    · have hback : front.reverse <:+ cs := by
        rwa [← List.reverse_prefix, List.reverse_reverse]
      have hle := henough front.reverse hback
      rwa [hopeners, hclosers, ← Nat.zero_add (closers side front)] at hle
    · rw [hopeners, hclosers, Nat.zero_add, hall]

theorem openerBefore_eq_some_iff {before above : List α} :
    openerBefore side before = some (above, a) ↔
      ∃ body, before = above ++ a :: body ∧ side a = some .opener ∧
        UsesUp side 0 body.reverse := by
  rw [openerBefore, Option.map_eq_some_iff]
  constructor
  · rintro ⟨⟨opener, rest⟩, hfound, heq⟩
    cases heq
    obtain ⟨passed, hsplit, hopener, hused⟩ := unusedOpener_eq_some_iff.mp hfound
    refine ⟨passed.reverse, ?_, hopener, by rwa [List.reverse_reverse]⟩
    rw [← List.reverse_inj, hsplit]
    simp
  · rintro ⟨body, rfl, hopener, hused⟩
    refine ⟨(a, above.reverse), ?_, by simp⟩
    exact unusedOpener_eq_some_iff.mpr ⟨body.reverse, by simp, hopener, hused⟩

/-- At most one opener of a text has only used up symbols behind it. -/
theorem eq_of_usesUp {above above' body body' : List α} {a' : α}
    (h : UsesUp side 0 body.reverse) (h' : UsesUp side 0 body'.reverse)
    (ha : side a = some .opener) (ha' : side a' = some .opener)
    (heq : above ++ a :: body = above' ++ a' :: body') :
    above = above' ∧ a = a' ∧ body = body' := by
  have hfound : openerBefore side (above ++ a :: body) = some (above, a) :=
    openerBefore_eq_some_iff.mpr ⟨body, rfl, ha, h⟩
  have hfound' : openerBefore side (above ++ a :: body) = some (above', a') :=
    openerBefore_eq_some_iff.mpr ⟨body', heq, ha', h'⟩
  cases hfound.symm.trans hfound'
  exact ⟨rfl, rfl, by simpa using heq⟩

/-! ## Braces and parentheses -/

theorem countP_side_eq_count_add [DecidableEq α] {s : BracketSide} {brace paren : α}
    (hne : brace ≠ paren) (h : ∀ c, side c = some s ↔ c = brace ∨ c = paren) (cs : List α) :
    cs.countP (fun c => side c == some s) = cs.count brace + cs.count paren := by
  induction cs with
  | nil => rfl
  | cons c cs ih =>
    rw [List.countP_cons, List.count_cons, List.count_cons, ih]
    simp only [beq_iff_eq, h]
    by_cases hbrace : c = brace
    · subst hbrace
      simp only [true_or, if_true, if_neg hne]
      omega
    · simp only [hbrace, false_or, if_false]
      omega

theorem ofChar?_eq_opener_iff {c : Char} :
    BracketSide.ofChar? c = some .opener ↔ c = '\x7b' ∨ c = '(' := by
  unfold BracketSide.ofChar?
  split <;> simp_all

theorem ofChar?_eq_closer_iff {c : Char} :
    BracketSide.ofChar? c = some .closer ↔ c = '\x7d' ∨ c = ')' := by
  unfold BracketSide.ofChar?
  split <;> simp_all

theorem openers_ofChar? (cs : List Char) :
    openers BracketSide.ofChar? cs = cs.count '\x7b' + cs.count '(' :=
  countP_side_eq_count_add (by decide) (fun _ => ofChar?_eq_opener_iff) cs

theorem closers_ofChar? (cs : List Char) :
    closers BracketSide.ofChar? cs = cs.count '\x7d' + cs.count ')' :=
  countP_side_eq_count_add (by decide) (fun _ => ofChar?_eq_closer_iff) cs

/-- Braces and parentheses come out even, each for themselves, and no ending of the text
has more openers than closers of both kinds together. -/
structure EvenPairs (body : List Char) : Prop where
  braces : body.count '\x7b' = body.count '\x7d'
  parens : body.count '(' = body.count ')'
  enough : ∀ back, back <:+ body →
    back.count '\x7b' + back.count '(' ≤ back.count '\x7d' + back.count ')'

variable {body : List Char}

theorem usesUp_ofChar?_iff :
    UsesUp BracketSide.ofChar? 0 body.reverse ↔
      body.count '\x7b' + body.count '(' = body.count '\x7d' + body.count ')' ∧
        ∀ back, back <:+ body →
          back.count '\x7b' + back.count '(' ≤ back.count '\x7d' + back.count ')' := by
  simp only [usesUp_reverse_iff, openers_ofChar?, closers_ofChar?]

theorem EvenPairs.usesUp (h : EvenPairs body) : UsesUp BracketSide.ofChar? 0 body.reverse := by
  refine usesUp_ofChar?_iff.mpr ⟨?_, h.enough⟩
  rw [h.braces, h.parens]

theorem evenPairs_of_usesUp (h : UsesUp BracketSide.ofChar? 0 body.reverse)
    (hbraces : body.count '\x7b' = body.count '\x7d') : EvenPairs body := by
  obtain ⟨hall, henough⟩ := usesUp_ofChar?_iff.mp h
  exact ⟨hbraces, by omega, henough⟩

/-- A text that nests is passed over. -/
theorem EvenPairs.of_nests (h : BracketKinds.counted.Nests body) : EvenPairs body := by
  have hopener : BracketSide.ofChar? '\x7b' = some .opener := rfl
  have hfound := BracketKinds.openerBefore_of_nests h hopener []
  obtain ⟨passed, hsplit, _, hused⟩ := openerBefore_eq_some_iff.mp hfound
  cases hsplit
  exact evenPairs_of_usesUp hused (BracesBalance.of_nests h).all_closed.symm

end Remedy
