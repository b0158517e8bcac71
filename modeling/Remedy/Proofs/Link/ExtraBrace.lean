import Remedy.Proofs.Link.CataloguePages
import Remedy.Proofs.Text.OpenerSearch

/-!
# The block before an extra brace

A text that nests is followed by one closing brace too many. The block shown for
it is the last one of the text (`SourceText.LastBlock`): it ends at the last
closing brace before the extra one, and begins at the opener that this brace
belongs to, with its header in front.

The header takes up the line of the opener and the line above. That line need not
belong to the block. Where it closes another block the shown snippet begins with
that brace, and then the snippet without the extra brace does not balance either.
`LinkWriter.bracesBalance_fixed_iff` says when it does: exactly if no block is open
where the header begins.
-/

namespace Remedy

open BracketKinds (counted)

namespace SourceText

/-- A text around its last block. The block ends at the last closing brace of the
text, which belongs to the brace behind `above`. -/
structure LastBlock (text above body between : List Char) : Prop where
  split : text = above ++ '\x7b' :: body ++ '\x7d' :: between
  body_nests : counted.Nests body
  last : '\x7d' ∉ between

/-- The text is empty or ends with a line break, so what follows it begins a
line. -/
def EndsLine (before : List Char) : Prop := before = [] ∨ ∃ earlier, before = earlier ++ ['\n']

variable {text above body between before header after : List Char} {block : ExtraBrace}

theorem exists_lastBlock (hnests : counted.Nests text) (hcloser : '\x7d' ∈ text) :
    ∃ above body between, LastBlock text above body between := by
  cases hcut : cutLast '\x7d' text with
  | none => exact absurd hcloser (cutLast_eq_none_iff.mp hcut)
  | some parts =>
    obtain ⟨front, between⟩ := parts
    obtain ⟨rfl, hlast⟩ := cutLast_eq_some_iff.mp hcut
    obtain ⟨above, opener, body, rfl, hopener, hbody⟩ := hnests.exists_opener rfl rfl
    rcases BracketKinds.lookup_counted_eq_some hopener with ⟨_, hne⟩ | ⟨rfl, _⟩
    · cases hne
    · exact ⟨above, body, between, rfl, hbody, hlast⟩

/-! ## The header -/

theorem headerLines_of_notMem (h : '\n' ∉ above) : headerLines above = above := by
  rw [headerLines, cutLast_eq_none_iff.mpr h]

/-- An empty first line is not shown. -/
theorem headerLines_of_first {line : List Char} (h : '\n' ∉ line) :
    headerLines ('\n' :: line) = line := by
  have hcut : cutLast '\n' ('\n' :: line) = some ([], line) := cutLast_eq_some_iff.mpr ⟨rfl, h⟩
  rw [headerLines, hcut]

theorem headerLines_of_lines {earlier line : List Char} (hne : earlier ≠ []) (h : '\n' ∉ line) :
    headerLines (earlier ++ '\n' :: line) = afterLast '\n' earlier ++ '\n' :: line := by
  have hcut : cutLast '\n' (earlier ++ '\n' :: line) = some (earlier, line) :=
    cutLast_eq_some_iff.mpr ⟨rfl, h⟩
  cases earlier with
  | nil => exact absurd rfl hne
  | cons c rest => rw [headerLines, hcut]

/-- The header lines begin a line and hold at most one line break. -/
theorem exists_append_headerLines (above : List Char) :
    ∃ before, above = before ++ headerLines above ∧ EndsLine before ∧
      (headerLines above).count '\n' ≤ 1 := by
  cases hcut : cutLast '\n' above with
  | none =>
    have hnone := cutLast_eq_none_iff.mp hcut
    rw [headerLines_of_notMem hnone, List.count_eq_zero.mpr hnone]
    exact ⟨[], rfl, .inl rfl, Nat.zero_le 1⟩
  | some parts =>
    obtain ⟨earlier, line⟩ := parts
    obtain ⟨rfl, hline⟩ := cutLast_eq_some_iff.mp hcut
    by_cases hfirst : earlier = []
    · subst hfirst
      rw [List.nil_append, headerLines_of_first hline, List.count_eq_zero.mpr hline]
      exact ⟨['\n'], rfl, .inr ⟨[], rfl⟩, Nat.zero_le 1⟩
    · obtain ⟨before, hsplit, hfree, hbefore⟩ := exists_append_afterLast '\n' earlier
      rw [headerLines_of_lines hfirst hline]
      refine ⟨before, ?_, hbefore, ?_⟩
      · rw [← List.append_assoc, ← hsplit]
      · simp [List.count_eq_zero.mpr hfree, List.count_eq_zero.mpr hline]

/-! ## The block that is found -/

/-- What is found is the last closing brace with the one before it, and the opener whose
search from there passes over all that stands between. -/
theorem extraBrace?_eq_some_iff :
    extraBrace? text = some block ↔
      ∃ above body after,
        text = above ++ block.opener :: body ++ '\x7d' :: block.between ++ '\x7d' :: after ∧
        '\x7d' ∉ block.between ∧ '\x7d' ∉ after ∧ block.header = headerLines above ∧
        BracketSide.ofChar? block.opener = some .opener ∧
        UsesUp BracketSide.ofChar? 0 body.reverse := by
  constructor
  · intro h
    obtain ⟨⟨kept, after⟩, hkept, h⟩ := Option.bind_eq_some_iff.mp h
    obtain ⟨⟨front, between⟩, hblock, h⟩ := Option.bind_eq_some_iff.mp h
    obtain ⟨⟨above, opener⟩, hfound, h⟩ := Option.bind_eq_some_iff.mp h
    cases h
    obtain ⟨rfl, hafter⟩ := cutLast_eq_some_iff.mp hkept
    obtain ⟨rfl, hbetween⟩ := cutLast_eq_some_iff.mp hblock
    obtain ⟨body, rfl, hopener, hused⟩ := openerBefore_eq_some_iff.mp hfound
    exact ⟨above, body, after, rfl, hbetween, hafter, rfl, hopener, hused⟩
  · rintro ⟨above, body, after, rfl, hbetween, hafter, hheader, hopener, hused⟩
    obtain ⟨header, opener, between⟩ := block
    subst hheader
    refine Option.bind_eq_some_iff.mpr ⟨_, cutLast_eq_some_iff.mpr ⟨rfl, hafter⟩, ?_⟩
    refine Option.bind_eq_some_iff.mpr ⟨_, cutLast_eq_some_iff.mpr ⟨rfl, hbetween⟩, ?_⟩
    refine Option.bind_eq_some_iff.mpr ⟨(above, opener), ?_, rfl⟩
    exact openerBefore_eq_some_iff.mpr ⟨body, rfl, hopener, hused⟩

/-- The last block is the one that is found before an extra brace, whatever stands
behind that brace. -/
theorem LastBlock.extraBrace?_eq (h : LastBlock text above body between) (hafter : '\x7d' ∉ after) :
    extraBrace? (text ++ '\x7d' :: after) =
      some { header := headerLines above, opener := '\x7b', between } := by
  have hused := (EvenPairs.of_nests h.body_nests).usesUp
  exact extraBrace?_eq_some_iff.mpr
    ⟨above, body, after, by rw [h.split], h.last, hafter, rfl, rfl, hused⟩

/-- **The quoted block.** Let a text nest in parentheses and braces and hold a
closing brace, and let an extra brace follow it, with anything but closing braces
behind. Then there is a last block in the text, and the query shows it: from a
point where a line begins, at most one line break before the opener, through the
opener, then a fixed line in place of the body, and from the closing brace of the
block through the extra brace. The second parameter leaves off the last character
of the first. -/
theorem extraBraceQuery?_quotes_lastBlock (u w : String) (nests : counted.Nests u.toList)
    (closer : '\x7d' ∈ u.toList) (only : '\x7d' ∉ w.toList) :
    (∃ above body between, LastBlock u.toList above body between) ∧
      ∀ above body between, LastBlock u.toList above body between →
        ∃ before header original,
          above = before ++ header ∧ EndsLine before ∧ header.count '\n' ≤ 1 ∧
          original = header ++ '\x7b' :: elidedBody ++ '\x7d' :: between ++ ['\x7d'] ∧
          extraBraceQuery? (u ++ "\x7d" ++ w) =
            some { path := "extraneousclosingcurlybrace"
                   parameters := [("original", String.ofList original),
                     ("fixed", String.ofList original.dropLast)] } := by
  refine ⟨exists_lastBlock nests closer, ?_⟩
  intro above body between hblock
  obtain ⟨before, hsplit, hbefore, hbreaks⟩ := exists_append_headerLines above
  have hfound := hblock.extraBrace?_eq only
  have htext : (u ++ "\x7d" ++ w).toList = u.toList ++ '\x7d' :: w.toList := by simp
  let shown : ExtraBrace := { header := headerLines above, opener := '\x7b', between }
  refine ⟨before, headerLines above, shown.asWritten, hsplit, hbefore, hbreaks, rfl, ?_⟩
  have hdrop : shown.asWritten.dropLast = shown.corrected := List.dropLast_concat
  rw [extraBraceQuery?, htext, hfound, hdrop]
  rfl

/-- Two methods, the second with a nested block and a line comment behind it. -/
def twoMethods : String :=
  "int é() \x7b\n\x7d\nvoid draw() \x7b\n  if (on(1)) \x7b \x7d\n\x7d // (end)\n"

theorem extraBraceQuery?_quotes_lastBlock_twoMethods :
    counted.Nests twoMethods.toList ∧ '\x7d' ∈ twoMethods.toList ∧
      '\x7d' ∉ " \x7b(".toList ∧
      LastBlock twoMethods.toList "int é() \x7b\n\x7d\nvoid draw() ".toList
        "\n  if (on(1)) \x7b \x7d\n".toList " // (end)\n".toList ∧
      ∃ original, extraBraceQuery? (twoMethods ++ "\x7d" ++ " \x7b(") =
        some { path := "extraneousclosingcurlybrace"
               parameters := [("original", String.ofList original),
                 ("fixed", String.ofList original.dropLast)] } := by
  have hnests : counted.Nests twoMethods.toList := by decide +kernel
  have hcloser : '\x7d' ∈ twoMethods.toList := by decide +kernel
  have honly : '\x7d' ∉ " \x7b(".toList := by decide
  have hblock : LastBlock twoMethods.toList "int é() \x7b\n\x7d\nvoid draw() ".toList
      "\n  if (on(1)) \x7b \x7d\n".toList " // (end)\n".toList :=
    ⟨by decide +kernel, by decide +kernel, by decide⟩
  obtain ⟨_, _, original, _, _, _, _, hquery⟩ :=
    (extraBraceQuery?_quotes_lastBlock _ _ hnests hcloser honly).2 _ _ _ hblock
  exact ⟨hnests, hcloser, honly, hblock, original, hquery⟩

/-! ## Balance -/

theorem LastBlock.count_closer (h : LastBlock text above body between) :
    text.count '\x7d' = above.count '\x7d' + body.count '\x7d' + 1 := by
  simp +arith [h.split, List.count_append, List.count_eq_zero.mpr h.last]

theorem LastBlock.count_opener (h : LastBlock text above body between) :
    text.count '\x7b' = above.count '\x7b' + body.count '\x7b' + 1 + between.count '\x7b' := by
  simp +arith [h.split, List.count_append]

/-- What stands above the last block closes every brace that it opens, and behind
the block no brace is opened. -/
theorem LastBlock.balances (h : LastBlock text above body between) (hnests : counted.Nests text) :
    BracesBalance above ∧ '\x7b' ∉ between := by
  have htext := BracesBalance.of_nests hnests
  have habove : above <+: text := ⟨_, by rw [h.split, List.append_assoc]⟩
  have hle := htext.no_early_closer above habove
  have hbody := (BracesBalance.of_nests h.body_nests).all_closed
  have hall := htext.all_closed
  rw [h.count_closer, h.count_opener] at hall
  refine ⟨⟨fun front hfront => htext.no_early_closer front (hfront.trans habove), by omega⟩, ?_⟩
  exact List.count_eq_zero.mp (by omega)

/-- The corrected block balances exactly if no block is open where its header
begins. -/
theorem LastBlock.bracesBalance_corrected_iff
    (h : LastBlock text (before ++ header) body between) (hnests : counted.Nests text) :
    BracesBalance (ExtraBrace.corrected { header, opener := '\x7b', between }) ↔
      before.count '\x7d' = before.count '\x7b' := by
  obtain ⟨habove, hbetween⟩ := h.balances hnests
  have helided : BracesBalance elidedBody := .of_free (by decide) (by decide)
  have hblock : BracesBalance ('\x7b' :: elidedBody ++ ['\x7d'] ++ between) :=
    helided.braced.append (.of_free hbetween h.last)
  have hcorrected : ExtraBrace.corrected { header, opener := '\x7b', between } =
      header ++ ('\x7b' :: elidedBody ++ ['\x7d'] ++ between) := by
    simp [ExtraBrace.corrected]
  rw [hcorrected, hblock.append_iff_left, habove.iff_of_append]

end SourceText

namespace LinkWriter

open SourceText

/-- **When the corrected snippet balances.** Let a text nest in parentheses and
braces and hold a closing brace, and let one extra brace follow it. There is a link,
which shows the last block of the text with its header, and it shows the corrected
snippet as header, opener, fixed body and the text from the closing brace of the
block on. The braces of the corrected snippet balance exactly if no block is open
where the header begins, and so they do if the header closes none. -/
theorem bracesBalance_fixed_iff (embedded : Bool) (u : String) (nests : counted.Nests u.toList)
    (closer : '\x7d' ∈ u.toList) :
    ∃ link before header body between original fixed,
      ({ embedded } : LinkWriter).extraBraceLink? (u ++ "\x7d") = some link ∧
      link.Shows extraBracePage [original, fixed] embedded ∧
      LastBlock u.toList (before ++ header) body between ∧ EndsLine before ∧
      fixed.toList = header ++ '\x7b' :: elidedBody ++ '\x7d' :: between ∧
      (BracesBalance fixed.toList ↔ before.count '\x7d' = before.count '\x7b') ∧
      ('\x7d' ∉ header → BracesBalance fixed.toList) := by
  obtain ⟨above, body, between, hblock⟩ := exists_lastBlock nests closer
  obtain ⟨before, hsplit, hbefore, _⟩ := exists_append_headerLines above
  have hfound : extraBrace? (u ++ "\x7d").toList =
      some { header := headerLines above, opener := '\x7b', between } := by
    have htext : (u ++ "\x7d").toList = u.toList ++ '\x7d' :: [] := by simp
    rw [htext]
    exact hblock.extraBrace?_eq (by simp)
  generalize headerLines above = header at hsplit hfound
  subst hsplit
  obtain ⟨link, hlink⟩ : ∃ link,
      ({ embedded } : LinkWriter).extraBraceLink? (u ++ "\x7d") = some link :=
    ⟨_, by rw [extraBraceLink?, extraBraceQuery?, hfound]; rfl⟩
  obtain ⟨shown, hshown, hpage⟩ := shows_of_extraBraceLink? hlink
  obtain rfl := Option.some.inj (hfound.symm.trans hshown)
  have hbalance := hblock.bracesBalance_corrected_iff nests
  refine ⟨link, before, header, body, between, _, _, hlink, hpage, hblock, hbefore, ?_, ?_, ?_⟩
  · rw [String.toList_ofList]
    rfl
  · rw [String.toList_ofList]
    exact hbalance
  · intro hfree
    rw [String.toList_ofList, hbalance]
    obtain ⟨habove, _⟩ := hblock.balances nests
    have hle := habove.no_early_closer before (List.prefix_append before header)
    have hall := habove.all_closed
    rw [List.count_append, List.count_append, List.count_eq_zero.mpr hfree] at hall
    omega

/-- A method under a comment. -/
def commentedMethod : String := "// shapes\nvoid draw() \x7b\n  rect(0, 0, 1, 1);\n\x7d\n"

theorem bracesBalance_fixed_iff_commentedMethod :
    counted.Nests commentedMethod.toList ∧ '\x7d' ∈ commentedMethod.toList ∧
      ∃ link original fixed,
        ({ embedded := true } : LinkWriter).extraBraceLink? (commentedMethod ++ "\x7d") =
          some link ∧
        link.Shows extraBracePage [original, fixed] true ∧ BracesBalance fixed.toList := by
  have hnests : counted.Nests commentedMethod.toList := by decide +kernel
  have hcloser : '\x7d' ∈ commentedMethod.toList := by decide +kernel
  obtain ⟨link, before, header, body, between, original, fixed, hlink, hpage, hblock, _, _, _,
    hbalance⟩ := bracesBalance_fixed_iff true commentedMethod hnests hcloser
  -- The only closing brace of the text is the one that ends its block.
  have honly : commentedMethod.toList.count '\x7d' = 1 := by decide +kernel
  have hheader : '\x7d' ∉ header := by
    rw [hblock.count_closer, List.count_append] at honly
    exact List.count_eq_zero.mp (by omega)
  exact ⟨hnests, hcloser, link, original, fixed, hlink, hpage, hbalance hheader⟩

/-- The line above the second method closes the first one, and that brace is kept
in the corrected snippet. -/
theorem fixed_twoMethods_unbalanced :
    counted.Nests twoMethods.toList ∧ '\x7d' ∈ twoMethods.toList ∧
      ∃ link original,
        ({ embedded := false } : LinkWriter).extraBraceLink? (twoMethods ++ "\x7d") = some link ∧
        link.Shows extraBracePage
          [original, "\x7d\nvoid draw() \x7b\n  /* your code */\n\x7d // (end)\n"] false ∧
        ¬ BracesBalance "\x7d\nvoid draw() \x7b\n  /* your code */\n\x7d // (end)\n".toList := by
  refine ⟨by decide +kernel, by decide +kernel, ?_⟩
  have hblock : extraBrace? (twoMethods ++ "\x7d").toList =
      some { header := "\x7d\nvoid draw() ".toList, opener := '\x7b',
             between := " // (end)\n".toList } := by
    decide +kernel
  obtain ⟨link, hlink⟩ : ∃ link,
      ({ embedded := false } : LinkWriter).extraBraceLink? (twoMethods ++ "\x7d") = some link :=
    ⟨_, by rw [extraBraceLink?, extraBraceQuery?, hblock]; rfl⟩
  obtain ⟨shown, hshown, hpage⟩ := shows_of_extraBraceLink? hlink
  obtain rfl := Option.some.inj (hblock.symm.trans hshown)
  refine ⟨link, _, hlink, hpage, ?_⟩
  intro hbalance
  have hfirst := hbalance.no_early_closer ['\x7d'] ⟨_, rfl⟩
  exact absurd hfirst (by decide)

end LinkWriter

end Remedy
