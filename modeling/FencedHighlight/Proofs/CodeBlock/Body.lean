import Mathlib.Data.List.TakeWhile
import FencedHighlight.Proofs.CodeBlock.Grammar
import FencedHighlight.Proofs.Text.Boundary

namespace FencedHighlight

/-!
The bodies of blocks.

A body that is written in a block is the part of its text between the opening line and the
line break before the closing fence.  Where the closing fence follows the opening line at
once, no body is written, and the place for it is reckoned back from the end of the block
by the size of the fence that the scanner has been told.  But a closing fence in another
case may take more bytes than that, or fewer.  Then the place is not the one before the
closing fence, and it may be inside a character of the fence, where nothing can be cut.
-/

namespace FenceScanner

variable {scanner : FenceScanner} {document text inner after opening closing : Text}
  {written : Option Text} {block : CodeBlock}

/-- The opening lines of blocks, with fence and language in any case that is allowed. -/
inductive OpeningLine (scanner : FenceScanner) : Text -> Prop where
  | line {fence language modifiers lineBreak : Text}
      (opens : scanner.Spells scanner.fence fence)
      (names : scanner.Spells (Text.ofString scanner.language) language)
      (marks : ∀ char ∈ modifiers, isModifier char = true)
      (breaks : IsBreak lineBreak) :
      OpeningLine scanner (fence ++ (language ++ (modifiers ++ lineBreak)))

/-- The parts of a block: its opening line, its body if one is written, and the closing
fence, which a line break sets apart from a written body. -/
structure Composed (scanner : FenceScanner) (block : CodeBlock) (opening : Text)
    (written : Option Text) (closing : Text) : Prop where
  opens : scanner.OpeningLine opening
  closes : scanner.Spells scanner.fence closing
  raw : ∃ lineBreak, block.raw = opening ++ (written.getD [] ++ (lineBreak ++ closing)) ∧
    (written = none ∧ lineBreak = [] ∨ written.isSome = true ∧ IsBreak lineBreak)
  body : block.body = scanner.bodySpan block.raw opening written

theorem openingLine_of_afterOpening? (opened : scanner.afterOpening? text = some inner) :
    ∃ opening, text = opening ++ inner ∧ scanner.OpeningLine opening := by
  simp only [afterOpening?, Option.bind_eq_bind, Option.bind_eq_some_iff] at opened
  rcases opened with ⟨afterFence, fenced, afterLanguage, named, ended⟩
  rcases (after?_eq_some_iff).mp fenced with ⟨fence, rfl, opens⟩
  rcases (after?_eq_some_iff).mp named with ⟨language, rfl, names⟩
  rcases (afterBreak?_eq_some_iff).mp ended with ⟨lineBreak, breaks, lineEnd⟩
  have marks : ∀ char ∈ afterLanguage.takeWhile isModifier, isModifier char = true :=
    fun char member => List.mem_takeWhile_imp member
  refine ⟨_, ?_, .line opens names marks breaks⟩
  rw [List.append_assoc, List.append_assoc, List.append_assoc, ← lineEnd,
    List.takeWhile_append_dropWhile]

/-- A closing fence comes at once, or after a body and a line break. -/
theorem closing_of_body? (closed : scanner.body? inner = some (written, after)) :
    ∃ lineBreak closing, inner = written.getD [] ++ (lineBreak ++ (closing ++ after)) ∧
      scanner.Spells scanner.fence closing ∧
      (written = none ∧ lineBreak = [] ∨ written.isSome = true ∧ IsBreak lineBreak) := by
  rcases body?_cases closed with ⟨rfl, atOnce⟩ | ⟨body, stop, rfl, _, first⟩
  · rcases (after?_eq_some_iff).mp atOnce with ⟨closing, rfl, closes⟩
    exact ⟨[], closing, rfl, closes, Or.inl ⟨rfl, rfl⟩⟩
  · rcases Option.bind_eq_some_iff.mp first.found with ⟨fenceOn, ended, fenced⟩
    rcases (afterBreak?_eq_some_iff).mp ended with ⟨lineBreak, breaks, rfl⟩
    rcases (after?_eq_some_iff).mp fenced with ⟨closing, rfl, closes⟩
    exact ⟨lineBreak, closing, first.split, closes, Or.inr ⟨rfl, breaks⟩⟩

theorem composed_of_blockAt? {offset : Nat}
    (found : scanner.blockAt? offset text = some (block, after)) :
    ∃ opening written closing, scanner.Composed block opening written closing := by
  rcases (blockAt?_eq_some_iff_parts).mp found with
    ⟨opening, inner, written, raw, whole, whole', opened, closed, rfl⟩
  rcases openingLine_of_afterOpening? opened with ⟨line, split, opens⟩
  rcases List.append_cancel_right (whole.symm.trans split) with rfl
  rcases closing_of_body? closed with ⟨lineBreak, closing, rest, closes, apart⟩
  refine ⟨opening, written, closing, opens, closes, ⟨lineBreak, ?_, apart⟩, rfl⟩
  apply List.append_cancel_right
  rw [← whole', whole, rest]
  simp only [List.append_assoc]

end FenceScanner

/-- What is expected of the body of a block with some parts. -/
structure CodeBlock.Usable (block : CodeBlock) (opening : Text) (written : Option Text)
    (closing : Text) : Prop where
  /-- The body is a part of the block, behind the opening line and ahead of the closing
  fence. -/
  range : ∃ span, block.body = some span ∧ Text.size opening ≤ span.start ∧
    span.start ≤ span.stop ∧ span.stop + Text.size closing ≤ Text.size block.raw ∧
    Text.isBoundary block.raw span.start = true ∧ Text.isBoundary block.raw span.stop = true
  /-- It can be cut out of the block, and is what is written there. -/
  text : block.bodyText? = some (written.getD [])
  /-- If none is written, its place is the one before the closing fence. -/
  adjacent : written = none -> block.bodyOffset? = some (block.stop - Text.size closing)

namespace FenceScanner

variable {scanner : FenceScanner} {document opening closing : Text} {written : Option Text}
  {block : CodeBlock}

theorem Composed.body_eq (composed : scanner.Composed block opening written closing)
    (sizes : written = none -> Text.size closing = Text.size scanner.fence) :
    block.body = some ⟨Text.size opening, Text.size opening + Text.size (written.getD [])⟩ := by
  rcases composed.raw with ⟨lineBreak, whole, apart⟩
  rw [composed.body]
  cases written with
  | some body => rfl
  | none =>
      rcases apart with ⟨_, rfl⟩ | ⟨impossible, _⟩
      · have extent : Text.size block.raw = Text.size opening + Text.size scanner.fence := by
          rw [whole, ← sizes rfl]
          simp
        rw [bodySpan, extent, if_pos (Nat.le_add_left _ _), Nat.add_sub_cancel]
        rfl
      · cases impossible

/-- The body of a block is as it should be exactly if the reckoning is right. -/
theorem Composed.usable_iff (composed : scanner.Composed block opening written closing) :
    block.Usable opening written closing ↔
      (written = none -> Text.size closing = Text.size scanner.fence) := by
  rcases composed.raw with ⟨lineBreak, whole, apart⟩
  have extent := congrArg Text.size whole
  simp only [Text.size_append] at extent
  constructor
  · rintro usable rfl
    have place := usable.adjacent rfl
    have span := composed.body
    simp only [bodySpan] at span
    split at span
    · rename_i fits
      simp only [CodeBlock.bodyOffset?, span, Option.map_some, Option.some.injEq,
        CodeBlock.stop] at place
      omega
    · rw [CodeBlock.bodyOffset?, span] at place
      cases place
  · intro sizes
    have span := composed.body_eq sizes
    have inside := (body_eq_some_iff whole).mp span
    have slice : Text.slice? block.raw (Text.size opening)
        (Text.size opening + Text.size (written.getD [])) = some (written.getD []) :=
      (Text.slice?_eq_some_iff).mpr
        ⟨opening, lineBreak ++ closing, by rw [whole, List.append_assoc], rfl, rfl⟩
    have ends := Text.isBoundary_of_slice? slice
    refine ⟨⟨_, span, Nat.le_refl _, Nat.le_add_right _ _, ?_, ends⟩, inside.1, ?_⟩
    · simp only
      omega
    · rintro rfl
      rcases apart with ⟨_, rfl⟩ | ⟨impossible, _⟩
      · rw [inside.2, CodeBlock.stop, extent]
        simp only [Option.getD_none, Text.size_nil, Option.some.injEq]
        omega
      · cases impossible

/-- Whether a fence takes the same number of bytes in every case that is allowed. -/
def KeepsSize (scanner : FenceScanner) : Prop :=
  ∀ letter ∈ scanner.fence, ∀ char, scanner.alike letter char = true ->
    char.utf8Size = letter.utf8Size

/-- A fence keeps its size if case counts, and also if no character of it has another case. -/
theorem keepsSize_of_caseless
    (caseless : scanner.anyCase = true -> ∀ char ∈ scanner.fence, Unicode.IsCaseless char) :
    scanner.KeepsSize := by
  intro letter member char fits
  unfold alike at fits
  split at fits
  · rename_i anyCase
    rw [caseless anyCase letter member char fits]
  · rw [beq_iff_eq.mp fits]

theorem size_of_spells {word spelled : Text} (spells : scanner.Spells word spelled)
    (keeps : ∀ letter ∈ word, ∀ char, scanner.alike letter char = true ->
      char.utf8Size = letter.utf8Size) : Text.size spelled = Text.size word := by
  induction spells with
  | nil => rfl
  | @cons letter char word spelled fits _ ih =>
      rw [Text.size_cons, Text.size_cons, keeps letter List.mem_cons_self char fits,
        ih fun other member => keeps other (List.mem_cons_of_mem _ member)]

/-- Every block is the part of the document that its offset tells.  Its body is as it should
be, unless the closing fence follows the opening line at once and has another size than the
fence.  So all is well with fences that keep their size in every case. -/
theorem usable_of_mem_blocks (scanner : FenceScanner) (document : Text) :
    (∀ block ∈ scanner.blocks document, block.LiesIn document ∧
      ∃ opening written closing, scanner.Composed block opening written closing ∧
        (block.Usable opening written closing ↔
          (written = none -> Text.size closing = Text.size scanner.fence))) ∧
    (scanner.KeepsSize -> ∀ block ∈ scanner.blocks document,
      ∃ opening written closing, scanner.Composed block opening written closing ∧
        block.Usable opening written closing) := by
  have composed : ∀ block ∈ scanner.blocks document,
      ∃ opening written closing, scanner.Composed block opening written closing := by
    intro block member
    rcases exists_blockAt?_of_mem member with ⟨start, place, after, found⟩
    exact composed_of_blockAt? found
  constructor
  · intro block member
    rcases composed block member with ⟨opening, written, closing, parts⟩
    exact ⟨liesIn_of_mem_blocks member, opening, written, closing, parts, parts.usable_iff⟩
  · intro keeps block member
    rcases composed block member with ⟨opening, written, closing, parts⟩
    exact ⟨opening, written, closing, parts,
      parts.usable_iff.mpr fun _ => size_of_spells parts.closes keeps⟩

/-- A block without a body in a document, with the fence as it is written. -/
def bodiless : CodeBlock :=
  { language := "mips"
    raw := Text.ofString "```mips\n```"
    offset := 2
    body := some ⟨8, 8⟩ }

theorem usable_of_mem_blocks_bodiless :
    (⟨Text.ofString defaultFence, "mips", true⟩ : FenceScanner).KeepsSize ∧
      bodiless ∈ (⟨Text.ofString defaultFence, "mips", true⟩ : FenceScanner).blocks
        (Text.ofString "é```mips\n```") ∧
      ∃ opening written closing,
        (⟨Text.ofString defaultFence, "mips", true⟩ : FenceScanner).Composed bodiless opening
          written closing ∧
        bodiless.Usable opening written closing := by
  have alone : (Text.ofString defaultFence).all Unicode.standsAlone = true := by decide +kernel
  have keeps : (⟨Text.ofString defaultFence, "mips", true⟩ : FenceScanner).KeepsSize :=
    keepsSize_of_caseless fun _ char member =>
      Unicode.isCaseless_of_standsAlone (List.all_eq_true.mp alone char member)
  have split : Text.ofString "é```mips\n```" = 'é' :: bodiless.raw := by decide
  have found : (⟨Text.ofString defaultFence, "mips", true⟩ : FenceScanner).blockAt? 2
      bodiless.raw = some (bodiless, []) := by
    decide +kernel
  have member : bodiless ∈ (⟨Text.ofString defaultFence, "mips", true⟩ : FenceScanner).blocks
      (Text.ofString "é```mips\n```") := by
    rw [blocks, split, blocksFrom_of_missing (by decide +kernel)]
    exact (blocksFrom_of_found found) ▸ List.mem_cons_self
  exact ⟨keeps, member, (usable_of_mem_blocks _ _).2 keeps bodiless member⟩

/-- The scanner for blocks of a language between fences that are single letters. -/
def letterScanner (letter : Char) : FenceScanner :=
  { fence := [letter], language := "x", anyCase := true }

/-- Such a block without a body. -/
def letterBlock (letter first last : Char) : CodeBlock :=
  { language := "x"
    raw := [first, 'x', '\n', last]
    offset := 0
    body := (letterScanner letter).bodySpan [first, 'x', '\n', last] [first, 'x', '\n'] none }

theorem composed_letterBlock {letter first last : Char}
    (opens : (letterScanner letter).alike letter first = true)
    (closes : (letterScanner letter).alike letter last = true) :
    (letterScanner letter).Composed (letterBlock letter first last) [first, 'x', '\n'] none
      [last] := by
  have language : Text.ofString "x" = ['x'] := by decide
  have names : (letterScanner letter).Spells (Text.ofString (letterScanner letter).language)
      ['x'] := by
    have itself : Unicode.sameUpToCase 'x' 'x' = true := by
      rw [Unicode.sameUpToCase, beq_self_eq_true, Bool.true_or]
    rw [letterScanner, language]
    exact .cons itself .nil
  exact
    { opens := @OpeningLine.line (letterScanner letter) [first] ['x'] [] ['\n']
        (.cons opens .nil) names (fun _ member => absurd member List.not_mem_nil) .lineFeed
      closes := .cons closes .nil
      raw := ⟨[], rfl, Or.inl ⟨rfl, rfl⟩⟩
      body := rfl }

/-- In another case, the letter K may take three bytes or one.  Reckoned back by the wrong
size, the place for the body lies inside the letter that closes the block, or else two bytes
ahead of it. -/
theorem not_usable_otherSize :
    ((letterScanner 'k').blocks ['k', 'x', '\n', '\u212a'] = [letterBlock 'k' 'k' '\u212a'] ∧
      (letterScanner 'k').Composed (letterBlock 'k' 'k' '\u212a') ['k', 'x', '\n'] none
        ['\u212a'] ∧
      (letterBlock 'k' 'k' '\u212a').body = some ⟨5, 5⟩ ∧
      (letterBlock 'k' 'k' '\u212a').bodyText? = none ∧
      ¬ (letterBlock 'k' 'k' '\u212a').Usable ['k', 'x', '\n'] none ['\u212a']) ∧
    (letterScanner '\u212a').blocks ['k', 'x', '\n', 'k'] = [letterBlock '\u212a' 'k' 'k'] ∧
      (letterScanner '\u212a').Composed (letterBlock '\u212a' 'k' 'k') ['k', 'x', '\n'] none
        ['k'] ∧
      (letterBlock '\u212a' 'k' 'k').bodyOffset? = some 1 ∧
      ¬ (letterBlock '\u212a' 'k' 'k').Usable ['k', 'x', '\n'] none ['k'] := by
  have scanned {letter last : Char}
      (found : (letterScanner letter).blockAt? 0 ['k', 'x', '\n', last] =
        some (letterBlock letter 'k' last, []))
      (ended : ∀ offset, (letterScanner letter).blockAt? offset [] = none) :
      (letterScanner letter).blocks ['k', 'x', '\n', last] = [letterBlock letter 'k' last] := by
    refine (blocksFrom_of_found found).trans ?_
    rw [blocksFrom_nil (ended _)]
  have wider := @composed_letterBlock 'k' 'k' '\u212a' (by decide +kernel) (by decide +kernel)
  have narrower := @composed_letterBlock '\u212a' 'k' 'k' (by decide +kernel) (by decide +kernel)
  refine ⟨⟨scanned (by decide +kernel) fun _ => rfl, wider, by decide, by decide, ?_⟩,
    scanned (by decide +kernel) fun _ => rfl, narrower, by decide, ?_⟩
  · intro usable
    exact absurd (wider.usable_iff.mp usable rfl) (by decide)
  · intro usable
    exact absurd (narrower.usable_iff.mp usable rfl) (by decide)

end FenceScanner
end FencedHighlight
