import Remedy.Proofs.Link.MethodHeader
import Remedy.Proofs.Link.QuotedBlock
import Remedy.Proofs.Text.OpenerOffset

/-!
# Cutting snippets out at byte offsets

The block before an extra brace and the name in a method header can also be cut out of a
text at offsets into its bytes. `extraBraceCut?` and `methodHeaderCut?` do so, in the
order in which the offsets are found, and a cut at an offset that does not fit is a fault.

There is no text with a fault. Every offset that is found stands in front of a character or
right behind one (`blockOffsets?_cases`), and the queries are those that are made from
characters (`offset_cuts_succeed`).
-/

namespace Remedy

open FormEncoding (utf8Bytes)

namespace SourceText

/-! ## The cuts -/

/-- Where the block before an extra brace is cut: where its header begins, and where its
opener, its closing brace and the extra brace stand. -/
structure BlockOffsets where
  header : Nat
  opener : Nat
  closer : Nat
  extra : Nat
deriving DecidableEq

/-- Where the last line of a text begins. -/
def lastLineOffset (text : String) : Nat :=
  ((lastOffset? '\n' text).map (· + 1)).getD 0

/-- Where the header of the block with this opener begins: with the line above the opener, but
not with an empty first line. -/
def headerOffset (text : String) (opener : Nat) : Cutting Nat := do
  let above ← Cutting.between text 0 opener
  match lastOffset? '\n' above with
  | none => return 0
  | some 0 => return 0 + 1
  | some (line + 1) =>
      let earlier ← Cutting.between text 0 (line + 1)
      return lastLineOffset earlier

/-- The offsets of the block before the last closing brace of a text. -/
def blockOffsets? (text : String) : Cutting (Option BlockOffsets) := do
  let some extra := lastOffset? '\x7d' text | return none
  let kept ← Cutting.between text 0 extra
  let some closer := lastOffset? '\x7d' kept | return none
  let some opener ← openerOffset? (utf8Bytes text) 1 closer | return none
  let header ← headerOffset text opener
  return some { header, opener, closer, extra }

/-- A text without its last byte. -/
def dropLastByte (text : String) : Cutting String :=
  if text.utf8ByteSize = 0 then throw .outOfRange
  else Cutting.between text 0 (text.utf8ByteSize - 1)

/-- The query for an extra brace, cut out at offsets. -/
def extraBraceCut? (text : String) : Cutting (Option Query) := do
  let some offsets ← blockOffsets? text | return none
  let header ← Cutting.between text offsets.header (offsets.opener + 1)
  let block ← Cutting.between text offsets.closer (offsets.extra + 1)
  let original := header ++ String.ofList elidedBody ++ block
  let fixed ← dropLastByte original
  return some (({ path := "extraneousclosingcurlybrace" } : Query)
    |>.add "original" original
    |>.add "fixed" fixed)

/-- Where the run of identifier characters at the end of a text begins. -/
def nameOffset (before : String) : Nat :=
  ((lastWhere? (fun c => !isIdentifierPart c) before).map
    fun found => found.1 + found.2.utf8Size).getD 0

/-- The query for a malformed method header, cut out at offsets. -/
def methodHeaderCut? (text : String) : Cutting (Option Query) := do
  let some stop := lastOffset? '(' text | return none
  let before ← Cutting.between text 0 stop
  let name ← Cutting.between before (nameOffset before) before.utf8ByteSize
  if name.isEmpty then return none
  else return some (({ path := "incorrectmethoddeclaration" } : Query).add "methodname" name)

/-! ## Where the header begins -/

variable {text : String} {above after : List Char}

theorem byteSize_append_break (cs : List Char) : byteSize (cs ++ ['\n']) = byteSize cs + 1 :=
  byteSize_append_singleton (by decide) cs

theorem exists_lastLineOffset_eq (earlier : List Char) :
    ∃ before, earlier = before ++ afterLast '\n' earlier ∧
      lastLineOffset (String.ofList earlier) = byteSize before := by
  rw [lastLineOffset, lastOffset?_eq, String.toList_ofList, afterLast]
  cases hcut : cutLast '\n' earlier with
  | none => exact ⟨[], rfl, byteSize_nil.symm⟩
  | some parts =>
    obtain ⟨first, last⟩ := parts
    refine ⟨first ++ ['\n'], ?_, (byteSize_append_break first).symm⟩
    rw [(cutLast_eq_some_iff.mp hcut).1, List.append_cons]

/-- The header begins where the header lines of the text above it begin. -/
theorem exists_headerOffset_eq (h : text.toList = above ++ after) :
    ∃ before, above = before ++ headerLines above ∧
      headerOffset text (byteSize above) = .ok (byteSize before) := by
  have habove := Cutting.between_zero_eq_ok h
  have hline := lastOffset?_eq '\n' (String.ofList above)
  rw [String.toList_ofList] at hline
  cases hcut : cutLast '\n' above with
  | none =>
    refine ⟨[], ?_, ?_⟩
    · rw [headerLines_of_notMem (cutLast_eq_none_iff.mp hcut), List.nil_append]
    · rw [hcut, Option.map_none] at hline
      simp only [headerOffset, habove, Cutting.bind_ok, hline, byteSize_nil]
      rfl
  | some parts =>
    obtain ⟨earlier, line⟩ := parts
    rw [hcut, Option.map_some] at hline
    obtain ⟨hsplit, hfree⟩ := cutLast_eq_some_iff.mp hcut
    -- A line break at offset 0 has no line above it.
    by_cases hfirst : earlier = []
    · subst hfirst
      refine ⟨['\n'], ?_, ?_⟩
      · rw [hsplit, List.nil_append, headerLines_of_first hfree]
        rfl
      · simp only [headerOffset, habove, Cutting.bind_ok, hline, byteSize_nil]
        exact congrArg Except.ok (byteSize_append_break []).symm
    · obtain ⟨n, hn⟩ : ∃ n, byteSize earlier = n + 1 :=
        Nat.exists_eq_succ_of_ne_zero fun hzero => hfirst (byteSize_eq_zero_iff.mp hzero)
      have hfront : text.toList = earlier ++ ('\n' :: line ++ after) := by
        rw [h, hsplit, List.append_assoc]
      have hearlier := Cutting.between_zero_eq_ok hfront
      obtain ⟨before, hbefore, hoffset⟩ := exists_lastLineOffset_eq earlier
      rw [hn] at hline hearlier
      refine ⟨before, ?_, ?_⟩
      · rw [hsplit, headerLines_of_lines hfirst hfree, ← List.append_assoc, ← hbefore]
      · simp only [headerOffset, habove, Cutting.bind_ok, hline, hearlier, hoffset]
        rfl

/-! ## Where the block stands -/

/-- The block stands in the text at these offsets. -/
structure StandsAt (text : String) (block : ExtraBrace) (before body after : List Char)
    (offsets : BlockOffsets) : Prop where
  split : text.toList =
    before ++ block.header ++ block.opener :: body ++ '\x7d' :: block.between ++ '\x7d' :: after
  opens : BracketSide.ofChar? block.opener = some .opener
  header : offsets.header = byteSize before
  opener : offsets.opener = byteSize (before ++ block.header)
  closer : offsets.closer = byteSize (before ++ block.header ++ block.opener :: body)
  extra : offsets.extra =
    byteSize (before ++ block.header ++ block.opener :: body ++ '\x7d' :: block.between)

variable {block : ExtraBrace} {before body : List Char} {offsets : BlockOffsets}

/-- The search at offsets has no fault. It finds nothing where the search in characters finds
nothing, and the offsets of the block where that search finds a block. -/
theorem blockOffsets?_cases (text : String) :
    (extraBrace? text.toList = none ∧ blockOffsets? text = .ok none) ∨
      ∃ block before body after offsets, extraBrace? text.toList = some block ∧
        StandsAt text block before body after offsets ∧
        blockOffsets? text = .ok (some offsets) := by
  unfold blockOffsets?
  rw [lastOffset?_eq]
  -- Each cut is made at an offset that was just found, so it falls between two characters.
  cases hextra : cutLast '\x7d' text.toList with
  | none => exact .inl ⟨by simp [extraBrace?, hextra], rfl⟩
  | some parts =>
    obtain ⟨kept, after⟩ := parts
    obtain ⟨htext, -⟩ := cutLast_eq_some_iff.mp hextra
    have hkept := Cutting.between_zero_eq_ok htext
    simp only [Option.map_some, hkept, Cutting.bind_ok, lastOffset?_eq, String.toList_ofList]
    cases hcloser : cutLast '\x7d' kept with
    | none => exact .inl ⟨by simp [extraBrace?, hextra, hcloser], rfl⟩
    | some parts =>
      obtain ⟨front, between⟩ := parts
      obtain ⟨hfront, -⟩ := cutLast_eq_some_iff.mp hcloser
      have hclosers : text.toList = front ++ ('\x7d' :: between ++ '\x7d' :: after) := by
        rw [htext, hfront, List.append_assoc]
      have hopener := openerOffset?_eq hclosers
      simp only [Option.map_some, hopener, Cutting.bind_ok]
      cases hfound : openerBefore BracketSide.ofChar? front with
      | none => exact .inl ⟨by simp [extraBrace?, hextra, hcloser, hfound], rfl⟩
      | some found =>
        obtain ⟨above, opener⟩ := found
        have hblock : extraBrace? text.toList =
            some { header := headerLines above, opener, between } := by
          simp [extraBrace?, hextra, hcloser, hfound]
        obtain ⟨body, rfl, hopens, -⟩ := openerBefore_eq_some_iff.mp hfound
        have habove : text.toList =
            above ++ (opener :: body ++ ('\x7d' :: between ++ '\x7d' :: after)) := by
          rw [hclosers, List.append_assoc]
        obtain ⟨before, hheader, hoffset⟩ := exists_headerOffset_eq habove
        simp only [Option.map_some, hoffset, Cutting.bind_ok]
        refine .inr ⟨_, before, body, after, _, hblock, ?_, rfl⟩
        exact {
          split := by rw [← hheader, htext, hfront]
          opens := hopens
          header := rfl
          opener := by rw [← hheader]
          closer := by rw [← hheader]
          extra := by rw [← hheader, hfront] }

/-- The offsets stand in their order, and each place that is cut lies between two
characters. -/
structure BlockOffsets.Fits (offsets : BlockOffsets) (text : String) : Prop where
  header_le : offsets.header ≤ offsets.opener
  opener_lt : offsets.opener < offsets.closer
  closer_lt : offsets.closer < offsets.extra
  extra_lt : offsets.extra < text.utf8ByteSize
  boundaries : ∀ offset ∈ [offsets.header, offsets.opener, offsets.opener + 1, offsets.closer,
    offsets.extra, offsets.extra + 1], IsBoundary text offset

theorem utf8Size_opener {c : Char} (h : BracketSide.ofChar? c = some .opener) :
    c.utf8Size = 1 := by
  rcases opener_of_ofChar? h with rfl | rfl
  · decide
  · decide

theorem StandsAt.behind_opener (h : StandsAt text block before body after offsets) :
    offsets.opener + 1 = byteSize (before ++ block.header ++ [block.opener]) := by
  rw [h.opener, byteSize_append_singleton (utf8Size_opener h.opens)]

theorem StandsAt.behind_extra (h : StandsAt text block before body after offsets) :
    offsets.extra + 1 =
      byteSize (before ++ block.header ++ block.opener :: body ++ '\x7d' :: block.between ++
        ['\x7d']) := by
  have hbrace : ('\x7d' : Char).utf8Size = 1 := by decide
  rw [h.extra, byteSize_append_singleton hbrace]

/-- The offsets are the sizes of longer and longer fronts of the text. -/
theorem StandsAt.extra_prefix (h : StandsAt text block before body after offsets) :
    before ++ block.header ++ block.opener :: body ++ '\x7d' :: block.between ++ ['\x7d'] <+:
      text.toList :=
  ⟨after, by rw [h.split, ← List.append_cons]⟩

theorem StandsAt.closer_prefix (h : StandsAt text block before body after offsets) :
    before ++ block.header ++ block.opener :: body <+: text.toList :=
  (List.prefix_append _ _).trans ((List.prefix_append _ _).trans h.extra_prefix)

theorem StandsAt.opener_prefix (h : StandsAt text block before body after offsets) :
    before ++ block.header ++ [block.opener] <+: text.toList := by
  have hcloser := h.closer_prefix
  rw [List.append_cons] at hcloser
  exact (List.prefix_append _ _).trans hcloser

theorem StandsAt.fits (h : StandsAt text block before body after offsets) : offsets.Fits text := by
  have hopener := h.opener
  have hcloser := h.closer
  have hextra := h.extra
  have hsize := congrArg byteSize h.split
  rw [byteSize_toList] at hsize
  simp only [byteSize_append, byteSize_cons] at hopener hcloser hextra hsize
  have hopen := block.opener.utf8Size_pos
  have hclose := ('\x7d' : Char).utf8Size_pos
  refine ⟨?_, by omega, by omega, by omega, ?_⟩
  · rw [h.header]
    omega
  · intro offset hoffset
    simp only [List.mem_cons, List.not_mem_nil, or_false] at hoffset
    have hfront := (List.prefix_append _ _).trans h.closer_prefix
    rcases hoffset with rfl | rfl | rfl | rfl | rfl | rfl
    · exact h.header ▸ isBoundary_of_prefix ((List.prefix_append _ _).trans hfront)
    · exact h.opener ▸ isBoundary_of_prefix hfront
    · exact h.behind_opener ▸ isBoundary_of_prefix h.opener_prefix
    · exact h.closer ▸ isBoundary_of_prefix h.closer_prefix
    · exact h.extra ▸ isBoundary_of_prefix ((List.prefix_append _ _).trans h.extra_prefix)
    · exact h.behind_extra ▸ isBoundary_of_prefix h.extra_prefix

/-! ## The snippets -/

/-- The last byte of a text that ends with a character of one byte is that character. -/
theorem dropLastByte_eq_ok {front : List Char} {c : Char} (hc : c.utf8Size = 1)
    (h : text.toList = front ++ [c]) : dropLastByte text = .ok (String.ofList front) := by
  have hsize : text.utf8ByteSize = byteSize front + 1 := by
    rw [← byteSize_toList, h, byteSize_append_singleton hc]
  rw [dropLastByte, if_neg (by omega), hsize, Nat.add_sub_cancel]
  exact Cutting.between_zero_eq_ok h

theorem StandsAt.between_header (h : StandsAt text block before body after offsets) :
    Cutting.between text offsets.header (offsets.opener + 1) =
      .ok (String.ofList (block.header ++ [block.opener])) := by
  have hfront := h.opener_prefix
  rw [List.append_assoc] at hfront
  rw [h.header, h.behind_opener, List.append_assoc]
  exact Cutting.between_eq_ok hfront

theorem StandsAt.between_closers (h : StandsAt text block before body after offsets) :
    Cutting.between text offsets.closer (offsets.extra + 1) =
      .ok (String.ofList ('\x7d' :: block.between ++ ['\x7d'])) := by
  have hall := h.extra_prefix
  rw [List.append_assoc] at hall
  rw [h.closer, h.behind_extra, List.append_assoc _ ('\x7d' :: block.between)]
  exact Cutting.between_eq_ok hall

theorem dropLastByte_asWritten (block : ExtraBrace) :
    dropLastByte (String.ofList block.asWritten) = .ok (String.ofList block.corrected) :=
  dropLastByte_eq_ok (by decide) String.toList_ofList

theorem extraBraceCut?_eq (text : String) : extraBraceCut? text = .ok (extraBraceQuery? text) := by
  rcases blockOffsets?_cases text with ⟨hnone, hoffsets⟩ | ⟨block, before, body, after, offsets,
    hblock, hstands, hoffsets⟩
  · rw [extraBraceCut?, hoffsets, extraBraceQuery?, hnone]
    rfl
  · have hshown : String.ofList (block.header ++ [block.opener]) ++ String.ofList elidedBody ++
        String.ofList ('\x7d' :: block.between ++ ['\x7d']) = String.ofList block.asWritten := by
      rw [← String.ofList_append, ← String.ofList_append, ExtraBrace.asWritten,
        ExtraBrace.corrected]
      simp
    rw [extraBraceCut?, hoffsets, extraBraceQuery?, hblock]
    simp only [Cutting.bind_ok, hstands.between_header, hstands.between_closers, hshown,
      dropLastByte_asWritten]
    rfl

theorem exists_blockOffsets?_eq (text : String) :
    ∃ found, blockOffsets? text = .ok found ∧
      (found.isSome ↔ (extraBraceQuery? text).isSome) ∧
      ∀ offsets, found = some offsets → offsets.Fits text := by
  rcases blockOffsets?_cases text with ⟨hnone, hoffsets⟩ | ⟨block, before, body, after, offsets,
    hblock, hstands, hoffsets⟩
  · refine ⟨none, hoffsets, ?_, fun offsets hfound => by cases hfound⟩
    rw [extraBraceQuery?, hnone]
    rfl
  · refine ⟨some offsets, hoffsets, ?_, ?_⟩
    · rw [extraBraceQuery?, hblock]
      rfl
    · rintro _ ⟨⟩
      exact hstands.fits

/-! ## The name -/

/-- The run of identifier characters at the end of a text begins where nothing but such
characters follows. -/
theorem exists_nameOffset_eq (front : List Char) :
    ∃ before, front = before ++ (front.reverse.takeWhile isIdentifierPart).reverse ∧
      nameOffset (String.ofList front) = byteSize before := by
  obtain ⟨before, hfront, hbegins⟩ := exists_append_trailingRun isIdentifierPart front
  refine ⟨before, hfront, ?_⟩
  have hrun : ∀ c ∈ (front.reverse.takeWhile isIdentifierPart).reverse,
      (!isIdentifierPart c) = false := by
    intro c hc
    rw [of_mem_trailingRun hc]
    rfl
  rcases hbegins with rfl | ⟨earlier, c, rfl, hc⟩
  · have hnone : lastWhere? (fun c => !isIdentifierPart c) (String.ofList front) = none := by
      refine lastWhere?_eq_none _ ?_
      rw [String.toList_ofList, hfront]
      exact hrun
    rw [nameOffset, hnone, byteSize_nil]
    rfl
  · have htext : (String.ofList front).toList =
        earlier ++ c :: (front.reverse.takeWhile isIdentifierPart).reverse := by
      rw [String.toList_ofList, List.append_cons]
      exact hfront
    have hsome := lastWhere?_eq_some (fun c => !isIdentifierPart c) htext (by rw [hc]; rfl) hrun
    rw [nameOffset, hsome, byteSize_append, byteSize_singleton]
    rfl

theorem methodHeaderCut?_eq (text : String) :
    methodHeaderCut? text = .ok (methodHeaderQuery? text) := by
  rw [methodHeaderCut?, lastOffset?_eq, methodHeaderQuery?, nameBeforeParen?]
  cases hcut : cutLast '(' text.toList with
  | none => rfl
  | some parts =>
    obtain ⟨front, after⟩ := parts
    obtain ⟨htext, -⟩ := cutLast_eq_some_iff.mp hcut
    obtain ⟨before, hfront, hoffset⟩ := exists_nameOffset_eq front
    have hbefore := Cutting.between_zero_eq_ok htext
    have hname : Cutting.between (String.ofList front) (byteSize before)
        (String.ofList front).utf8ByteSize =
          .ok (String.ofList (front.reverse.takeWhile isIdentifierPart).reverse) := by
      refine Cutting.between_end_eq_ok ?_
      rw [String.toList_ofList]
      exact hfront
    simp only [Option.map_some, Cutting.bind_ok, hbefore, hoffset, hname, Option.bind_eq_bind,
      Option.bind_some]
    generalize (front.reverse.takeWhile isIdentifierPart).reverse = name
    cases name with
    | nil => rfl
    | cons c name => simp

/-- The name is cut between two characters of the text before the parenthesis, and ends where
that text ends. -/
theorem nameOffset_fits {stop : Nat} (h : lastOffset? '(' text = some stop) :
    stop < text.utf8ByteSize ∧ IsBoundary text stop ∧
      ∃ before, Cutting.between text 0 stop = .ok before ∧ nameOffset before ≤ stop ∧
        before.utf8ByteSize = stop ∧ IsBoundary before (nameOffset before) := by
  rw [lastOffset?_eq, Option.map_eq_some_iff] at h
  obtain ⟨⟨front, after⟩, hcut, rfl⟩ := h
  obtain ⟨htext, -⟩ := cutLast_eq_some_iff.mp hcut
  obtain ⟨before, hfront, hoffset⟩ := exists_nameOffset_eq front
  dsimp only
  refine ⟨?_, isBoundary_byteSize htext, String.ofList front,
    Cutting.between_zero_eq_ok htext, ?_, rfl, ?_⟩
  · have hparen := ('(' : Char).utf8Size_pos
    rw [← byteSize_toList, htext, byteSize_append, byteSize_cons]
    omega
  · have hsize := congrArg byteSize hfront
    rw [byteSize_append] at hsize
    omega
  · rw [hoffset]
    refine isBoundary_of_prefix ?_
    rw [String.toList_ofList]
    exact ⟨_, hfront.symm⟩

/-- **Cuts at offsets succeed.** For every text the two programs that cut at byte offsets come
to an end without a fault, and their queries are those made from characters. The offsets of a
block stand in their order, the header's at or before the opener's and the opener's before the
closer's, and each place that is cut lies between two characters; so does the beginning of a
method name, which is at or before its end. Without its last byte, the snippet with the extra
brace lacks just that brace. -/
theorem offset_cuts_succeed (text : String) :
    extraBraceCut? text = .ok (extraBraceQuery? text) ∧
      methodHeaderCut? text = .ok (methodHeaderQuery? text) ∧
      (∃ found, blockOffsets? text = .ok found ∧
        (found.isSome ↔ (extraBraceQuery? text).isSome) ∧
        ∀ offsets, found = some offsets → offsets.Fits text) ∧
      (∀ stop, lastOffset? '(' text = some stop →
        stop < text.utf8ByteSize ∧ IsBoundary text stop ∧
          ∃ before, Cutting.between text 0 stop = .ok before ∧ nameOffset before ≤ stop ∧
            before.utf8ByteSize = stop ∧ IsBoundary before (nameOffset before)) ∧
      ∀ query, extraBraceQuery? text = some query →
        ∃ original fixed,
          query = { path := "extraneousclosingcurlybrace"
                    parameters := [("original", original), ("fixed", fixed)] } ∧
          dropLastByte original = .ok fixed ∧ original.toList = fixed.toList ++ ['\x7d'] := by
  refine ⟨extraBraceCut?_eq text, methodHeaderCut?_eq text, exists_blockOffsets?_eq text,
    fun stop => nameOffset_fits, ?_⟩
  intro query hquery
  obtain ⟨block, -, rfl⟩ := Option.map_eq_some_iff.mp hquery
  refine ⟨String.ofList block.asWritten, String.ofList block.corrected, rfl,
    dropLastByte_asWritten block, ?_⟩
  rw [String.toList_ofList, String.toList_ofList]
  rfl

/-- A block with an extra brace, and characters of two, three and four bytes around its
brackets. -/
def wideText : String := "// é\nvoid ünï(\x7b\n  𝄞();\n\x7d // €\n\x7d"

theorem offset_cuts_succeed_wideText :
    (∃ offsets, blockOffsets? wideText = .ok (some offsets) ∧ offsets.Fits wideText) ∧
      ∃ query original fixed, extraBraceCut? wideText = .ok (some query) ∧
        query.parameters = [("original", original), ("fixed", fixed)] ∧
        original.toList = fixed.toList ++ ['\x7d'] := by
  obtain ⟨hbrace, -, ⟨found, hfound, hsome, hfits⟩, -, hquery⟩ := offset_cuts_succeed wideText
  have hmade : (extraBraceQuery? wideText).isSome := by decide +kernel
  obtain ⟨offsets, rfl⟩ := Option.isSome_iff_exists.mp (hsome.mpr hmade)
  obtain ⟨query, hmade⟩ := Option.isSome_iff_exists.mp hmade
  obtain ⟨original, fixed, hparameters, -, hlast⟩ := hquery query hmade
  refine ⟨⟨offsets, hfound, hfits offsets rfl⟩, query, original, fixed, ?_, ?_, hlast⟩
  · rw [hbrace, hmade]
  · rw [hparameters]

end SourceText

end Remedy
