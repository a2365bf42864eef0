import FencedHighlight.Proofs.CodeBlock.Lines

namespace FencedHighlight
namespace FenceScanner

/-!
Documents that grow at their end.

A block that has been read stays as it is, whatever comes after it.  A text added to the
document may complete an opening line, or close one that was open.  But an opening line in
front of a block is not open: the fence that closes the block closes that line as well, and so
nothing that is added can reach back over a block.
-/

variable {scanner : FenceScanner} {text rest added inner word after : Text}
  {written : Option Text} {offset : Nat} {block : CodeBlock}

/-! ## Readers and what comes after -/

theorem after?_append_iff :
    scanner.after? word (text ++ added) = some (rest ++ added) ↔
      scanner.after? word text = some rest := by
  simp only [after?_eq_some_iff, ← List.append_assoc, List.append_cancel_right_eq]

theorem afterOpening?_append_iff :
    scanner.afterOpening? (text ++ added) = some (inner ++ added) ↔
      scanner.afterOpening? text = some inner := by
  simp only [afterOpening?_eq_some_iff_openingLine, ← List.append_assoc,
    List.append_cancel_right_eq]

/-- A fence that is completed by what is added has no line break before that. -/
theorem after?_isSome_of_append (plain : '\n' ∉ word) (feeds : '\n' ∈ text)
    (found : (scanner.after? word (text ++ added)).isSome) : (scanner.after? word text).isSome := by
  rcases Option.isSome_iff_exists.mp found with ⟨rest, reached⟩
  rcases (after?_eq_some_iff).mp reached with ⟨spelled, split, spells⟩
  have unbroken := not_mem_of_spells isCaseless_lineFeed spells plain
  rcases List.append_eq_append_iff.mp split with ⟨between, inside, _⟩ | ⟨between, inside, _⟩
  · exact absurd (inside ▸ List.mem_append_left between feeds) unbroken
  · exact Option.isSome_of_eq_some ((after?_eq_some_iff).mpr ⟨spelled, inside, spells⟩)

/-- An opening line that ends in a text is read there. -/
theorem afterOpening?_isSome_of_append (single : scanner.OpensOnOneLine) (feeds : '\n' ∈ text)
    (found : (scanner.afterOpening? (text ++ added)).isSome) :
    (scanner.afterOpening? text).isSome := by
  rcases Option.isSome_iff_exists.mp found with ⟨inner, opened⟩
  rcases (afterOpening?_eq_some_iff_openingLine).mp opened with ⟨opening, split, opens⟩
  rcases opens.exists_line single with ⟨line, rfl, plain⟩
  rcases List.eq_append_cons_of_mem feeds with ⟨line', rest, rfl, plain'⟩
  rw [List.append_assoc, List.append_assoc, List.singleton_append, List.cons_append] at split
  rcases line_inj plain' plain split with ⟨rfl, _⟩
  have here : scanner.afterOpening? (line' ++ '\n' :: rest) = some rest := by
    refine (afterOpening?_eq_some_iff_openingLine).mpr ⟨line' ++ ['\n'], ?_, opens⟩
    rw [List.append_assoc, List.singleton_append]
  exact Option.isSome_of_eq_some here

theorem afterLineFence?_append (found : scanner.afterLineFence? text = some rest) :
    scanner.afterLineFence? (text ++ added) = some (rest ++ added) := by
  rcases Option.bind_eq_some_iff.mp found with ⟨after, ended, fence⟩
  rcases (afterBreak?_eq_some_iff).mp ended with ⟨lineBreak, breaks, rfl⟩
  refine Option.bind_eq_some_iff.mpr ⟨after ++ added, ?_, (after?_append_iff).mpr fence⟩
  exact (afterBreak?_eq_some_iff).mpr ⟨lineBreak, breaks, List.append_assoc _ _ _⟩

theorem lineFeed_mem_of_lineFence (fenced : (scanner.afterLineFence? text).isSome) :
    '\n' ∈ text := by
  rcases Option.isSome_iff_exists.mp fenced with ⟨found, reached⟩
  rcases Option.bind_eq_some_iff.mp reached with ⟨after, ended, _⟩
  rcases (afterBreak?_eq_some_iff).mp ended with ⟨lineBreak, breaks, rfl⟩
  cases breaks <;> simp

/-- A fence at the beginning of a line is not completed by what is added if another one comes
behind it. -/
theorem lineFence_of_append {stop : Text} (plain : '\n' ∉ scanner.fence)
    (fenced : (scanner.afterLineFence? stop).isSome) (suffix : stop <:+ text)
    (found : (scanner.afterLineFence? (text ++ added)).isSome) :
    (scanner.afterLineFence? text).isSome := by
  have feeds := suffix.subset (lineFeed_mem_of_lineFence fenced)
  rcases List.eq_append_cons_of_mem feeds with ⟨line, rest, rfl, unbroken⟩
  rcases Option.isSome_iff_exists.mp found with ⟨found, reached⟩
  rcases Option.bind_eq_some_iff.mp reached with ⟨after, ended, fence⟩
  have same : after = rest ++ added := by
    rw [List.append_assoc, List.cons_append] at ended
    exact eq_of_afterBreak? unbroken ended
  subst same
  have there : (scanner.after? scanner.fence rest).isSome := by
    rcases lineFence_of_suffix unbroken fenced suffix with atOnce | later
    · exact atOnce
    · exact after?_isSome_of_append plain (later.subset (lineFeed_mem_of_lineFence fenced))
        (Option.isSome_of_eq_some fence)
  rcases (afterBreak?_eq_some_iff).mp ended with ⟨lineBreak, breaks, split⟩
  rw [← List.append_assoc, List.append_cancel_right_eq] at split
  have here := (afterBreak?_eq_some_iff).mpr ⟨lineBreak, breaks, split⟩
  rw [afterLineFence?, here]
  exact there

/-! ## Blocks and what comes after -/

theorem body?_append (plain : '\n' ∉ scanner.fence)
    (closed : scanner.body? inner = some (written, after)) :
    scanner.body? (inner ++ added) = some (written, after ++ added) := by
  rcases body?_cases closed with ⟨rfl, atOnce⟩ | ⟨body, stop, rfl, missing, first⟩
  · rw [body?, (after?_append_iff).mpr atOnce]
  · have fenced : (scanner.afterLineFence? stop).isSome := Option.isSome_of_eq_some first.found
    have within : stop <:+ inner := ⟨body, first.split.symm⟩
    have notAtOnce : scanner.after? scanner.fence (inner ++ added) = none := by
      by_contra found
      have there := after?_isSome_of_append plain
        (within.subset (lineFeed_mem_of_lineFence fenced)) (Option.ne_none_iff_isSome.mp found)
      rw [missing] at there
      cases there
    have here : scanner.close? (inner ++ added) = some (body, after ++ added) := by
      rw [close?_eq_first?]
      refine (Text.first?_eq_some_iff).mpr
        ⟨stop ++ added, ?_, afterLineFence?_append first.found, ?_⟩
      · rw [first.split, List.append_assoc]
      · intro head tail split shorter
        rw [first.split, List.append_assoc] at split
        rcases Text.exists_append_of_size_le split.symm shorter.le with ⟨between, inside⟩
        rw [inside, List.append_assoc, List.append_cancel_left_eq] at split
        have missing := first.missing head (between ++ stop)
          (by rw [first.split, inside, List.append_assoc]) shorter
        by_contra found
        rw [← split, ← List.append_assoc] at found
        have there := lineFence_of_append plain fenced (List.suffix_append between stop)
          (Option.ne_none_iff_isSome.mp found)
        rw [afterLineFence?, missing] at there
        cases there
    rw [body?, notAtOnce, here]
    rfl

/-- A block stays as it is, whatever comes after it. -/
theorem blockAt?_append (plain : '\n' ∉ scanner.fence)
    (found : scanner.blockAt? offset text = some (block, after)) :
    scanner.blockAt? offset (text ++ added) = some (block, after ++ added) := by
  rcases (blockAt?_eq_some_iff_parts).mp found with
    ⟨opening, inner, body, raw, whole, whole', opened, closed, made⟩
  refine (blockAt?_eq_some_iff_parts).mpr ⟨opening, inner ++ added, body, raw, ?_, ?_,
    (afterOpening?_append_iff).mpr opened, body?_append plain closed, made⟩
  · rw [whole, List.append_assoc]
  · rw [whole', List.append_assoc]

/-- A body that is closed before what is added is closed there without it. -/
theorem body?_of_append (plain : '\n' ∉ scanner.fence)
    (closed : scanner.body? (inner ++ added) = some (written, after ++ added)) :
    scanner.body? inner = some (written, after) := by
  have there : (scanner.body? inner).isSome := by
    rcases closing_of_body? closed with ⟨lineBreak, closing, split, closes, apart⟩
    simp only [← List.append_assoc, List.append_cancel_right_eq] at split
    simp only [List.append_assoc] at split
    have fence : scanner.after? scanner.fence (closing ++ after) = some after :=
      (after?_eq_some_iff).mpr ⟨closing, rfl, closes⟩
    rw [body?_isSome_iff]
    rcases apart with ⟨rfl, rfl⟩ | ⟨_, breaks⟩
    · rw [split]
      exact Or.inl (Option.isSome_of_eq_some fence)
    · refine Or.inr ⟨lineBreak ++ (closing ++ after), ⟨written.getD [], split.symm⟩, ?_⟩
      have ended : afterBreak? (lineBreak ++ (closing ++ after)) = some (closing ++ after) :=
        (afterBreak?_eq_some_iff).mpr ⟨lineBreak, breaks, rfl⟩
      exact Option.isSome_of_eq_some (Option.bind_eq_some_iff.mpr ⟨_, ended, fence⟩)
  rcases Option.isSome_iff_exists.mp there with ⟨⟨other, behind⟩, here⟩
  rcases Prod.mk.inj (Option.some.inj ((body?_append plain here).symm.trans closed)) with
    ⟨rfl, same⟩
  rw [here, List.append_cancel_right same]

/-- A block that ends before what is added is there without it. -/
theorem blockAt?_of_append (plain : '\n' ∉ scanner.fence)
    (found : scanner.blockAt? offset (text ++ added) = some (block, after ++ added)) :
    scanner.blockAt? offset text = some (block, after) := by
  rcases (blockAt?_eq_some_iff_parts).mp found with
    ⟨opening, wider, body, raw, whole, whole', opened, closed, made⟩
  rcases suffix_body? closed with ⟨within, split⟩
  rw [← List.append_assoc] at split
  subst split
  rw [← List.append_assoc, List.append_cancel_right_eq] at whole whole'
  exact (blockAt?_eq_some_iff_parts).mpr ⟨opening, within ++ after, body, raw, whole, whole',
    (afterOpening?_append_iff).mp opened, body?_of_append plain closed, made⟩

/-! ## Documents that grow -/

/-- If an opening line becomes a block by what is added, there are no blocks behind it so far. -/
theorem blocksFrom_eq_nil_of_append (single : scanner.OpensOnOneLine)
    (missing : scanner.blockAt? offset text = none)
    (found : (scanner.blockAt? offset (text ++ added)).isSome) :
    scanner.blocksFrom offset text = [] := by
  refine List.eq_nil_iff_forall_not_mem.mpr fun block member => ?_
  rcases exists_place_of_mem member with ⟨before, place, after, split, _, read⟩
  rcases ((blockAt?_isSome_iff single).mp (Option.isSome_of_eq_some read)).2 with
    ⟨stop, suffix, fenced⟩
  have within : stop <:+ text := suffix.trans ⟨before, split.symm⟩
  have opened := afterOpening?_isSome_of_append single
    (within.subset (lineFeed_mem_of_lineFence fenced)) ((blockAt?_isSome_iff single).mp found).1
  have here := (@blockAt?_isSome_iff scanner text offset single).mpr ⟨opened, stop, within, fenced⟩
  rw [missing] at here
  cases here

/-- A block that begins before what is added, but is not there without it, ends in it. -/
theorem lt_stop_of_append (plain : '\n' ∉ scanner.fence)
    (missing : scanner.blockAt? offset text = none)
    (found : scanner.blockAt? offset (text ++ added) = some (block, after)) :
    offset + Text.size text < block.stop := by
  rcases parts_of_blockAt? found with ⟨whole, starts, _⟩
  by_contra shorter
  rw [CodeBlock.stop, starts, Nat.add_lt_add_iff_left, Nat.not_lt] at shorter
  rcases Text.exists_append_of_size_le whole shorter with ⟨between, inside⟩
  rw [inside, List.append_assoc, List.append_cancel_left_eq] at whole
  rw [whole] at found
  rw [blockAt?_of_append plain found] at missing
  cases missing

/-- The blocks of a text stay as they are, whatever is added to it.  Blocks that come with
what is added end in it. -/
theorem exists_more_blocksFrom (single : scanner.OpensOnOneLine) (offset : Nat)
    (text added : Text) :
    ∃ more, scanner.blocksFrom offset (text ++ added) = scanner.blocksFrom offset text ++ more ∧
      ∀ block ∈ more, offset + Text.size text < block.stop := by
  fun_induction blocksFrom scanner offset text with
  | case1 offset text block rest found ih =>
      rcases parts_of_blockAt? found with ⟨whole, starts, _⟩
      rcases ih with ⟨more, later, beyond⟩
      refine ⟨more, ?_, ?_⟩
      · rw [blocksFrom_of_found (blockAt?_append single.fence found), later]
        rfl
      · intro other member
        have behind := beyond other member
        rwa [CodeBlock.stop, starts, Nat.add_assoc, ← Text.size_append, whole] at behind
  | case2 offset missing =>
      refine ⟨scanner.blocksFrom offset added, rfl, fun block member => ?_⟩
      exact Nat.lt_of_le_of_lt (le_offset_of_mem_blocksFrom member) (offset_lt_stop_of_mem member)
  | case3 offset char rest missing ih =>
      cases found : scanner.blockAt? offset (char :: (rest ++ added)) with
      | none =>
          rcases ih with ⟨more, later, beyond⟩
          refine ⟨more, ?_, ?_⟩
          · rw [List.cons_append, blocksFrom_of_missing found, later]
          · intro other member
            rw [Text.size_cons, ← Nat.add_assoc]
            exact beyond other member
      | some result =>
          rcases result with ⟨block, after⟩
          rw [← List.cons_append] at found
          rw [← blocksFrom_of_missing missing,
            blocksFrom_eq_nil_of_append single missing (Option.isSome_of_eq_some found)]
          refine ⟨_, rfl, fun other member => ?_⟩
          rw [blocksFrom_of_found found] at member
          have beyond := lt_stop_of_append single.fence missing found
          rcases List.mem_cons.mp member with rfl | later
          · exact beyond
          · exact beyond.trans ((le_offset_of_mem_blocksFrom later).trans_lt
              (offset_lt_stop_of_mem later))

/-- A document that grows at its end keeps its blocks, and may only gain others behind them. -/
theorem blocks_append (fence : '\n' ∉ scanner.fence)
    (language : '\n' ∉ Text.ofString scanner.language) (document added : Text) :
    ∃ more, scanner.blocks (document ++ added) = scanner.blocks document ++ more ∧
      ∀ block ∈ more, Text.size document < block.stop := by
  have grown := exists_more_blocksFrom ⟨fence, language⟩ 0 document added
  rwa [Nat.zero_add] at grown

/-- A document that ends in an opening line whose line break is not complete, and one that
goes on from there. -/
theorem blocks_append_openingLine :
    let scanner : FenceScanner := ⟨Text.ofString defaultFence, "mips", true⟩
    let document := Text.ofString "```mips\nj\n```\n```MIPS:\r"
    let added := Text.ofString "\nli\n```"
    '\n' ∉ scanner.fence ∧ '\n' ∉ Text.ofString scanner.language ∧
      (scanner.blocks document).length = 1 ∧ (scanner.blocks (document ++ added)).length = 2 ∧
      ∃ more, scanner.blocks (document ++ added) = scanner.blocks document ++ more ∧
        ∀ block ∈ more, Text.size document < block.stop := by
  have fence : '\n' ∉ Text.ofString defaultFence := by decide
  have language : '\n' ∉ Text.ofString "mips" := by decide
  exact ⟨fence, language, by decide +kernel, by decide +kernel, blocks_append fence language _ _⟩

end FenceScanner
end FencedHighlight
