import Remedy.Proofs.Link.ExtraBrace

/-!
# The opener of the quoted block

A text with an extra brace is rarely one that nests, and what the link quotes then is
what the search for an opener makes of it. The search counts braces and parentheses in
one number. Where a parenthesis in the block has no partner it takes the place of a
brace: the header that is kept ends at that parenthesis, or reaches up to a brace
further above.

A brace closes a block if there is an opening brace before it and `EvenPairs` holds of
what stands between. There is at most one such block. The quoted block is opened by a
brace and its braces are even exactly if it is this block.
-/

namespace Remedy

namespace SourceText

variable {text above body between after : List Char} {opener : Char}

/-- Behind `above` the text holds a block in braces, which the last closing brace but one
closes. -/
structure BracedBlock (text above body between after : List Char) : Prop where
  split : text = above ++ '\x7b' :: body ++ '\x7d' :: between ++ '\x7d' :: after
  even : EvenPairs body
  last : '\x7d' ∉ between
  only : '\x7d' ∉ after

/-- The last two closing braces of a text cut it in one way. -/
theorem eq_of_last_closers {front front' between' after' : List Char}
    (hbetween : '\x7d' ∉ between) (hafter : '\x7d' ∉ after) (hbetween' : '\x7d' ∉ between')
    (hafter' : '\x7d' ∉ after')
    (heq : front ++ '\x7d' :: between ++ '\x7d' :: after =
      front' ++ '\x7d' :: between' ++ '\x7d' :: after') :
    front = front' ∧ between = between' ∧ after = after' := by
  have hkept := cutLast_eq_some_iff.mpr ⟨heq, hafter'⟩
  rw [cutLast_eq_some_iff.mpr ⟨rfl, hafter⟩, Option.some.injEq, Prod.mk.injEq] at hkept
  obtain ⟨hfront, rfl⟩ := hkept
  have hcut := cutLast_eq_some_iff.mpr ⟨hfront, hbetween'⟩
  rw [cutLast_eq_some_iff.mpr ⟨rfl, hbetween⟩, Option.some.injEq, Prod.mk.injEq] at hcut
  exact ⟨hcut.1, hcut.2, rfl⟩

theorem opener_of_ofChar? (h : BracketSide.ofChar? opener = some .opener) :
    opener = '\x7b' ∨ opener = '(' := by
  unfold BracketSide.ofChar? at h
  split at h
  · exact .inl rfl
  · exact .inr rfl
  all_goals cases h

/-- The opener that is found opens a block with even braces exactly if the text holds a
block in braces. -/
theorem opens_block_iff (hopener : BracketSide.ofChar? opener = some .opener)
    (hused : UsesUp BracketSide.ofChar? 0 body.reverse) (hbetween : '\x7d' ∉ between)
    (hafter : '\x7d' ∉ after)
    (hsplit : text = above ++ opener :: body ++ '\x7d' :: between ++ '\x7d' :: after) :
    opener = '\x7b' ∧ body.count '\x7b' = body.count '\x7d' ↔
      ∃ above' body' between' after', BracedBlock text above' body' between' after' := by
  constructor
  · rintro ⟨rfl, hbraces⟩
    exact ⟨above, body, between, after, hsplit, evenPairs_of_usesUp hused hbraces, hbetween, hafter⟩
  · rintro ⟨above', body', between', after', hblock⟩
    obtain ⟨hfront, -, -⟩ := eq_of_last_closers hbetween hafter hblock.last hblock.only
      (hsplit.symm.trans hblock.split)
    -- The search would have found the opener of that block.
    obtain ⟨-, rfl, rfl⟩ := eq_of_usesUp hused hblock.even.usesUp hopener rfl hfront
    exact ⟨rfl, hblock.even.braces⟩

end SourceText

namespace LinkWriter

open SourceText

/-- **What opens the quoted block.** A link for an extra brace shows a block of its text
that ends at the last closing brace but one. The header begins a line and is kept up to
an opening brace or parenthesis, and what the link leaves out between this opener and
the closing brace has as many openers as closers, both kinds taken together. The opener
is a brace and the braces by themselves are even exactly if the text holds a block in
braces that this closing brace closes. -/
theorem opener_of_extraBraceLink? (embedded : Bool) (text : String) (link : CatalogueLink)
    (made : ({ embedded } : LinkWriter).extraBraceLink? text = some link) :
    ∃ before header opener body between after original,
      text.toList =
        before ++ header ++ opener :: body ++ '\x7d' :: between ++ '\x7d' :: after ∧
      EndsLine before ∧ '\x7d' ∉ between ∧ '\x7d' ∉ after ∧
      original = header ++ opener :: elidedBody ++ '\x7d' :: between ++ ['\x7d'] ∧
      link.Shows extraBracePage [String.ofList original, String.ofList original.dropLast]
        embedded ∧
      (opener = '\x7b' ∨ opener = '(') ∧
      body.count '\x7b' + body.count '(' = body.count '\x7d' + body.count ')' ∧
      (opener = '\x7b' ∧ body.count '\x7b' = body.count '\x7d' ↔
        ∃ above' body' between' after',
          BracedBlock text.toList above' body' between' after') := by
  obtain ⟨block, hfound, hshows⟩ := shows_of_extraBraceLink? made
  obtain ⟨above, body, after, hsplit, hbetween, hafter, hheader, hopener, hused⟩ :=
    extraBrace?_eq_some_iff.mp hfound
  obtain ⟨before, habove, hbefore, _⟩ := exists_append_headerLines above
  rw [← hheader] at habove
  have hdrop : block.asWritten.dropLast = block.corrected := List.dropLast_concat
  refine ⟨before, block.header, block.opener, body, block.between, after, block.asWritten,
    ?_, hbefore, hbetween, hafter, rfl, ?_, opener_of_ofChar? hopener,
    (usesUp_ofChar?_iff.mp hused).1, opens_block_iff hopener hused hbetween hafter hsplit⟩
  · rw [← habove]
    exact hsplit
  · rw [hdrop]
    exact hshows

/-- A method that is closed twice, with an opening parenthesis above it that has no
partner. -/
def closedTwice : String := "text(\nvoid setup() \x7b\n  size(100, 100);\n\x7d\n\x7d"

theorem bracedBlock_closedTwice :
    BracedBlock closedTwice.toList "text(\nvoid setup() ".toList "\n  size(100, 100);\n".toList
      ['\n'] [] where
  split := by decide +kernel
  even := .of_nests (by decide +kernel)
  last := by decide
  only := by decide

theorem opener_of_extraBraceLink?_closedTwice :
    ∃ (link : CatalogueLink) (header body between original : List Char),
      ({ embedded := false } : LinkWriter).extraBraceLink? closedTwice = some link ∧
      original = header ++ '\x7b' :: elidedBody ++ '\x7d' :: between ++ ['\x7d'] ∧
      link.Shows extraBracePage [String.ofList original, String.ofList original.dropLast] false ∧
      body.count '\x7b' = body.count '\x7d' := by
  have hmade : (({ embedded := false } : LinkWriter).extraBraceLink? closedTwice).isSome := by
    decide +kernel
  obtain ⟨link, hlink⟩ := Option.isSome_iff_exists.mp hmade
  obtain ⟨_, header, opener, body, between, _, original, _, _, _, _, horiginal, hshows, _, _,
    hopens⟩ := opener_of_extraBraceLink? false closedTwice link hlink
  obtain ⟨rfl, hbraces⟩ := hopens.mpr ⟨_, _, _, _, bracedBlock_closedTwice⟩
  exact ⟨link, header, body, between, original, hlink, horiginal, hshows, hbraces⟩

/-- The learner has forgotten the brace of the method and a parenthesis. The text holds
no opening brace at all, and the link quotes a block that the parenthesis opens. -/
theorem extraBraceLink?_opened_by_paren :
    ∃ link,
      ({ embedded := false } : LinkWriter).extraBraceLink?
        "void setup()\n  size(100, 100;\n\x7d\n\x7d" = some link ∧
      link.Shows extraBracePage
        ["void setup()\n  size(\n  /* your code */\n\x7d\n\x7d",
          "void setup()\n  size(\n  /* your code */\n\x7d\n"] false ∧
      '\x7b' ∉ "void setup()\n  size(100, 100;\n\x7d\n\x7d".toList := by
  have hfound : extraBrace? "void setup()\n  size(100, 100;\n\x7d\n\x7d".toList =
      some { header := "void setup()\n  size".toList, opener := '(', between := ['\n'] } := by
    decide +kernel
  obtain ⟨link, hlink⟩ : ∃ link, ({ embedded := false } : LinkWriter).extraBraceLink?
      "void setup()\n  size(100, 100;\n\x7d\n\x7d" = some link :=
    ⟨_, by rw [extraBraceLink?, extraBraceQuery?, hfound]; rfl⟩
  obtain ⟨shown, hshown, hshows⟩ := shows_of_extraBraceLink? hlink
  obtain rfl := Option.some.inj (hfound.symm.trans hshown)
  exact ⟨link, hlink, hshows, by decide⟩

end LinkWriter

end Remedy
