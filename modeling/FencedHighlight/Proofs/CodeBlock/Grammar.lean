import Mathlib.Data.List.Forall2
import FencedHighlight.Proofs.CodeBlock.Parse
import FencedHighlight.Proofs.CodeBlock.Preference
import FencedHighlight.Proofs.Unicode.Caseless

namespace FencedHighlight
namespace FenceScanner

/-!
The grammar of blocks.

A block is an opening line, a body and a closing fence, and each of these parts is
determined by the text at which the block begins.  The opening line is the fence, the
language, as many modifiers as there are, and a line break.  The closing is the fence if
it follows at once, or else the first line break that the fence follows.

A fence without case variants is the same text wherever it stands, so in either case the
place of the body can be told from the text of the block.
-/

variable {scanner : FenceScanner} {text rest word after inner : Text} {offset : Nat}

/-! ## The parts of a block -/

inductive IsBreak : Text -> Prop where
  | lineFeed : IsBreak ['\n']
  | carriageReturn : IsBreak ['\r', '\n']

/-- Whether a text reads as a word, in the case of the word or, where the scanner allows
it, in either case. -/
def Spells (scanner : FenceScanner) (word text : Text) : Prop :=
  List.Forall₂ (fun letter char => scanner.alike letter char = true) word text

/-- The opening lines before a text. -/
inductive Opens (scanner : FenceScanner) (inner : Text) : (opening : Text) -> Prop where
  | line {language modifiers lineBreak : Text}
      (spells : scanner.Spells (Text.ofString scanner.language) language)
      (longest : (modifiers ++ (lineBreak ++ inner)).takeWhile isModifier = modifiers)
      (breaks : IsBreak lineBreak) :
      Opens scanner inner (scanner.fence ++ (language ++ (modifiers ++ lineBreak)))

/-- Where the body ends that begins a text, and what is the closing after it. -/
inductive Closes (fence : Text) : (inner body closing after : Text) -> Prop where
  | atOnce (after : Text) : Closes fence (fence ++ after) [] fence after
  | later {inner body lineBreak after : Text}
      (notAtOnce : ¬ fence <+: inner) (breaks : IsBreak lineBreak)
      (split : inner = body ++ (lineBreak ++ (fence ++ after)))
      (least : ∀ other lineBreak after, IsBreak lineBreak ->
        inner = other ++ (lineBreak ++ (fence ++ after)) -> Text.size body ≤ Text.size other) :
      Closes fence inner body (lineBreak ++ fence) after

/-- Whether a text that begins `offset` bytes into a document reads as a block with
something after it. -/
def Reads (scanner : FenceScanner) (offset : Nat) (text : Text) (block : CodeBlock)
    (after : Text) : Prop :=
  ∃ opening inner body closing, text = opening ++ inner ∧ scanner.Opens inner opening ∧
    Closes scanner.fence inner body closing after ∧
    block.language = scanner.language ∧ block.raw = opening ++ (body ++ closing) ∧
    block.offset = offset ∧ block.bodyText? = some body ∧
    block.bodyOffset? = some (offset + Text.size opening)

/-! ## Reading the parts -/

theorem after?_eq_some_iff :
    scanner.after? word text = some rest ↔
      ∃ spelled, text = spelled ++ rest ∧ scanner.Spells word spelled := by
  constructor
  · intro found
    fun_induction after? scanner word text with
    | case1 text =>
        rcases Option.some.inj found with rfl
        exact ⟨[], rfl, .nil⟩
    | case2 => cases found
    | case3 letter word char text alike ih =>
        rcases ih found with ⟨spelled, rfl, spells⟩
        exact ⟨char :: spelled, rfl, .cons alike spells⟩
    | case4 => cases found
  · rintro ⟨spelled, rfl, spells⟩
    induction spells with
    | nil => rfl
    | cons alike _ ih =>
        rw [List.cons_append, after?, if_pos alike]
        exact ih

/-- Only the fence itself reads as a fence whose characters have no variants. -/
theorem spells_fence_iff (caseless : ∀ char ∈ word, Unicode.IsCaseless char) :
    scanner.Spells word text ↔ text = word := by
  constructor
  · intro spells
    induction spells with
    | nil => rfl
    | @cons letter char word text fits _ ih =>
        have same : char = letter := by
          unfold alike at fits
          split at fits
          · exact caseless letter List.mem_cons_self char fits
          · exact (beq_iff_eq.mp fits).symm
        rw [same, ih fun char member => caseless char (List.mem_cons_of_mem _ member)]
  · rintro rfl
    refine List.forall₂_same.mpr fun char _ => ?_
    unfold alike
    split
    · rw [Unicode.sameUpToCase, beq_self_eq_true, Bool.true_or]
    · exact beq_self_eq_true char

theorem afterFence?_eq_some_iff (caseless : ∀ char ∈ scanner.fence, Unicode.IsCaseless char) :
    scanner.after? scanner.fence text = some rest ↔ text = scanner.fence ++ rest := by
  rw [after?_eq_some_iff]
  constructor
  · rintro ⟨spelled, rfl, spells⟩
    rw [(spells_fence_iff caseless).mp spells]
  · rintro rfl
    exact ⟨scanner.fence, rfl, (spells_fence_iff caseless).mpr rfl⟩

theorem afterBreak?_eq_some_iff :
    afterBreak? text = some rest ↔ ∃ lineBreak, IsBreak lineBreak ∧ text = lineBreak ++ rest := by
  constructor
  · intro found
    unfold afterBreak? at found
    split at found
    · rcases Option.some.inj found with rfl
      exact ⟨['\n'], .lineFeed, rfl⟩
    · rcases Option.some.inj found with rfl
      exact ⟨['\r', '\n'], .carriageReturn, rfl⟩
    · cases found
  · rintro ⟨lineBreak, breaks, rfl⟩
    cases breaks <;> rfl

theorem afterOpening?_eq_some_iff
    (caseless : ∀ char ∈ scanner.fence, Unicode.IsCaseless char) :
    scanner.afterOpening? text = some inner ↔
      ∃ opening, text = opening ++ inner ∧ scanner.Opens inner opening := by
  simp only [afterOpening?, Option.bind_eq_bind, Option.bind_eq_some_iff,
    afterFence?_eq_some_iff caseless]
  constructor
  · rintro ⟨afterFence, rfl, afterLanguage, reached, ended⟩
    rcases (after?_eq_some_iff).mp reached with ⟨language, rfl, spells⟩
    rcases (afterBreak?_eq_some_iff).mp ended with ⟨lineBreak, breaks, lineEnd⟩
    have parts : afterLanguage.takeWhile isModifier ++ (lineBreak ++ inner) = afterLanguage := by
      rw [← lineEnd, List.takeWhile_append_dropWhile]
    refine ⟨scanner.fence ++ (language ++ (afterLanguage.takeWhile isModifier ++ lineBreak)), ?_,
      .line spells ?_ breaks⟩
    · simp only [List.append_assoc, parts]
    · rw [parts]
  · rintro ⟨opening, rfl, @⟨language, modifiers, lineBreak, spells, longest, breaks⟩⟩
    refine ⟨language ++ (modifiers ++ (lineBreak ++ inner)), by simp only [List.append_assoc],
      modifiers ++ (lineBreak ++ inner), (after?_eq_some_iff).mpr ⟨language, rfl, spells⟩, ?_⟩
    refine (afterBreak?_eq_some_iff).mpr ⟨lineBreak, breaks, ?_⟩
    have parts := @List.takeWhile_append_dropWhile Char isModifier
      (modifiers ++ (lineBreak ++ inner))
    rw [longest] at parts
    exact List.append_cancel_left parts

theorem closing?_eq_some_iff (caseless : ∀ char ∈ scanner.fence, Unicode.IsCaseless char) :
    (afterBreak? text).bind (scanner.after? scanner.fence) = some after ↔
      ∃ lineBreak, IsBreak lineBreak ∧ text = lineBreak ++ (scanner.fence ++ after) := by
  simp only [Option.bind_eq_some_iff, afterFence?_eq_some_iff caseless, afterBreak?_eq_some_iff]
  constructor
  · rintro ⟨_, ⟨lineBreak, breaks, rfl⟩, rfl⟩
    exact ⟨lineBreak, breaks, rfl⟩
  · rintro ⟨lineBreak, breaks, rfl⟩
    exact ⟨_, ⟨lineBreak, breaks, rfl⟩, rfl⟩

/-- If nothing closes the body at once, it is closed at the first line break that the
fence follows. -/
theorem close?_eq_some_iff (caseless : ∀ char ∈ scanner.fence, Unicode.IsCaseless char)
    (notAtOnce : ¬ scanner.fence <+: inner) {body : Text} :
    scanner.close? inner = some (body, after) ↔
      ∃ closing, Closes scanner.fence inner body closing after := by
  rw [close?_eq_first?, Text.first?_eq_some_iff]
  constructor
  · rintro ⟨rest, split, closes, missing⟩
    rcases (closing?_eq_some_iff caseless).mp closes with ⟨lineBreak, breaks, rfl⟩
    refine ⟨lineBreak ++ scanner.fence, .later notAtOnce breaks split ?_⟩
    intro other lineBreak' after' breaks' split'
    apply Nat.le_of_not_lt
    intro shorter
    have nothing := missing other _ split' shorter
    rw [(closing?_eq_some_iff caseless).mpr ⟨lineBreak', breaks', rfl⟩] at nothing
    cases nothing
  · rintro ⟨closing, closes⟩
    cases closes with
    | atOnce => exact absurd (List.prefix_append _ _) notAtOnce
    | @later _ _ lineBreak _ _ breaks split least =>
        refine ⟨lineBreak ++ (scanner.fence ++ after), split,
          (closing?_eq_some_iff caseless).mpr ⟨lineBreak, breaks, rfl⟩, ?_⟩
        intro head tail split' shorter
        apply Option.eq_none_iff_forall_not_mem.mpr
        intro after' closes'
        rcases (closing?_eq_some_iff caseless).mp closes' with ⟨lineBreak', breaks', rfl⟩
        exact absurd shorter (Nat.not_lt_of_le (least head lineBreak' after' breaks' split'))

theorem Closes.split {fence body closing : Text} (closes : Closes fence inner body closing after) :
    inner = body ++ (closing ++ after) := by
  cases closes with
  | atOnce => rfl
  | later _ _ split _ => rw [split, List.append_assoc]

theorem Closes.eq_of_prefix {fence body closing : Text}
    (closes : Closes fence (fence ++ rest) body closing after) :
    body = [] ∧ closing = fence ∧ after = rest := by
  generalize whole : fence ++ rest = inner at closes
  cases closes with
  | atOnce after => exact ⟨rfl, rfl, (List.append_cancel_left whole).symm⟩
  | later notAtOnce => exact absurd ⟨rest, whole⟩ notAtOnce

/-- There is no body in the sense of the scanner if the fence follows the opening line. -/
theorem body?_eq_some_iff (caseless : ∀ char ∈ scanner.fence, Unicode.IsCaseless char)
    {body : Option Text} :
    scanner.body? inner = some (body, after) ↔
      (∃ closing, Closes scanner.fence inner (body.getD []) closing after) ∧
        (body = none ↔ scanner.fence <+: inner) := by
  cases found : scanner.after? scanner.fence inner with
  | some rest =>
      rcases (afterFence?_eq_some_iff caseless).mp found with rfl
      simp only [body?, found]
      constructor
      · intro same
        rcases Prod.mk.inj (Option.some.inj same) with ⟨rfl, rfl⟩
        exact ⟨⟨scanner.fence, .atOnce rest⟩, by simp⟩
      · rintro ⟨⟨closing, closes⟩, atOnce⟩
        rw [atOnce.mpr (List.prefix_append _ _), closes.eq_of_prefix.2.2]
  | none =>
      have notAtOnce : ¬ scanner.fence <+: inner := by
        rintro ⟨rest, rfl⟩
        rw [(afterFence?_eq_some_iff caseless).mpr rfl] at found
        cases found
      simp only [body?, found, Option.map_eq_some_iff, Prod.exists, Prod.mk.injEq,
        close?_eq_some_iff caseless notAtOnce]
      constructor
      · rintro ⟨inside, rest, closes, rfl, rfl⟩
        exact ⟨closes, by simp [notAtOnce]⟩
      · rintro ⟨closes, atOnce⟩
        cases body with
        | none => exact absurd (atOnce.mp rfl) notAtOnce
        | some body => exact ⟨body, after, closes, rfl, rfl⟩

/-- A closing fence is the fence itself, so a body that is reckoned back from the end
begins where the opening line ends. -/
theorem bodySpan_eq {opening closing : Text} {body : Option Text}
    (atOnce : body = none -> closing = scanner.fence) :
    scanner.bodySpan (opening ++ (body.getD [] ++ closing)) opening body =
      some ⟨Text.size opening, Text.size opening + Text.size (body.getD [])⟩ := by
  cases body with
  | some body => rfl
  | none =>
      rw [atOnce rfl]
      simp [bodySpan, Text.size_append]

/-- A block knows its body by where it lies in the text of the block. -/
theorem body_eq_some_iff {block : CodeBlock} {opening body closing : Text}
    (raw : block.raw = opening ++ (body ++ closing)) :
    block.body = some ⟨Text.size opening, Text.size opening + Text.size body⟩ ↔
      block.bodyText? = some body ∧
        block.bodyOffset? = some (block.offset + Text.size opening) := by
  constructor
  · intro span
    have inside : Text.slice? block.raw (Text.size opening)
        (Text.size opening + Text.size body) = some body :=
      (Text.slice?_eq_some_iff).mpr ⟨opening, closing, by rw [raw, List.append_assoc], rfl, rfl⟩
    simp only [CodeBlock.bodyText?, CodeBlock.bodyOffset?, span, Option.bind_eq_bind,
      Option.bind_some, inside, Option.map_some, and_self]
  · rintro ⟨inside, starts⟩
    rcases Option.map_eq_some_iff.mp starts with ⟨⟨start, stop⟩, held, same⟩
    rcases Nat.add_left_cancel same with rfl
    simp only [CodeBlock.bodyText?, held, Option.bind_eq_bind, Option.bind_some] at inside
    rw [held, Text.size_of_slice? inside]

/-- What the scanner takes for a block is what the grammar reads as one. -/
theorem blockAt?_eq_some_iff (caseless : ∀ char ∈ scanner.fence, Unicode.IsCaseless char)
    {block : CodeBlock} :
    scanner.blockAt? offset text = some (block, after) ↔
      scanner.Reads offset text block after := by
  have atOnce {body : Option Text} {inner closing : Text}
      (closes : Closes scanner.fence inner (body.getD []) closing after)
      (follows : body = none ↔ scanner.fence <+: inner) (absent : body = none) :
      closing = scanner.fence := by
    rcases follows.mp absent with ⟨rest, rfl⟩
    exact closes.eq_of_prefix.2.1
  rw [blockAt?_eq_some_iff_parts]
  constructor
  · rintro ⟨opening, inner, body, raw, rfl, whole, opened, closed, rfl⟩
    rcases (afterOpening?_eq_some_iff caseless).mp opened with ⟨line, same, opens⟩
    rcases List.append_cancel_right same with rfl
    rcases (body?_eq_some_iff caseless).mp closed with ⟨⟨closing, closes⟩, follows⟩
    have parts : raw = opening ++ (body.getD [] ++ closing) := by
      apply List.append_cancel_right
      rw [← whole, closes.split]
      simp only [List.append_assoc]
    have span := @bodySpan_eq scanner opening closing body (atOnce closes follows)
    rw [← parts] at span
    exact ⟨opening, inner, body.getD [], closing, rfl, opens, closes, rfl, parts, rfl,
      (body_eq_some_iff parts).mp span⟩
  · rintro ⟨opening, inner, body, closing, rfl, opens, closes, language, raw, rfl, inside⟩
    have opened := (afterOpening?_eq_some_iff caseless).mpr ⟨opening, rfl, opens⟩
    have span := (body_eq_some_iff raw).mpr inside
    have chosen : ∃ found : Option Text, found.getD [] = body ∧
        (found = none ↔ scanner.fence <+: inner) := by
      by_cases follows : scanner.fence <+: inner
      · rcases follows with ⟨rest, rfl⟩
        exact ⟨none, closes.eq_of_prefix.1.symm, by simp⟩
      · exact ⟨some body, rfl, by simp [follows]⟩
    rcases chosen with ⟨found, rfl, follows⟩
    have closed := (body?_eq_some_iff caseless).mpr ⟨⟨closing, closes⟩, follows⟩
    refine ⟨opening, inner, found, block.raw, rfl, ?_, opened, closed, ?_⟩
    · rw [raw, List.append_assoc, List.append_assoc, ← closes.split]
    · cases block
      simp only at language raw span
      rw [language, span, raw, bodySpan_eq (atOnce closes follows)]

/-! ## The blocks of a document -/

/-- A scan finds exactly the blocks of a document: at the first place where one can be
read, and on from its end.  These are also the matches that the pattern of a block
prefers.  A block lies in the document with all its text, no two blocks overlap, and
there are no more of them than characters. -/
theorem blocks_eq_iff (caseless : ∀ char ∈ scanner.fence, Unicode.IsCaseless char)
    (document : Text) :
    (∀ blocks, scanner.blocks document = blocks ↔ Parse scanner.Reads 0 document blocks) ∧
      (∀ blocks, scanner.blocks document = blocks ↔ Parse scanner.Prefers 0 document blocks) ∧
      (∀ block ∈ scanner.blocks document, block.LiesIn document) ∧
      (scanner.blocks document).Pairwise (fun first second => first.stop ≤ second.offset) ∧
      (scanner.blocks document).length ≤ document.length := by
  refine ⟨fun blocks => ?_, fun blocks => ?_, fun block => liesIn_of_mem_blocks,
    pairwise_blocks scanner document, length_blocksFrom_le scanner 0 document⟩
  · exact (parse_iff fun _ _ _ _ => blockAt?_eq_some_iff caseless).symm
  · exact (parse_iff fun _ _ _ _ => blockAt?_eq_some_iff_prefers).symm

/-- A language in the other case, a modifier, and line breaks of two characters. -/
theorem blocks_eq_iff_otherCase :
    (∀ char ∈ Text.ofString defaultFence, Unicode.IsCaseless char) ∧
      (⟨Text.ofString defaultFence, "mips", true⟩ : FenceScanner).blocks
          (Text.ofString "x```MIPS !\r\nli\r\n```") =
        [⟨"mips", Text.ofString "```MIPS !\r\nli\r\n```", 1, some ⟨11, 13⟩⟩] ∧
      Parse (⟨Text.ofString defaultFence, "mips", true⟩ : FenceScanner).Reads 0
        (Text.ofString "x```MIPS !\r\nli\r\n```")
        [⟨"mips", Text.ofString "```MIPS !\r\nli\r\n```", 1, some ⟨11, 13⟩⟩] := by
  have alone : (Text.ofString defaultFence).all Unicode.standsAlone = true := by decide +kernel
  have caseless : ∀ char ∈ Text.ofString defaultFence, Unicode.IsCaseless char :=
    fun char member => Unicode.isCaseless_of_standsAlone (List.all_eq_true.mp alone char member)
  have split : Text.ofString "x```MIPS !\r\nli\r\n```" =
      'x' :: Text.ofString "```MIPS !\r\nli\r\n```" := by
    decide
  have found : (⟨Text.ofString defaultFence, "mips", true⟩ : FenceScanner).blockAt? 1
      (Text.ofString "```MIPS !\r\nli\r\n```") =
        some (⟨"mips", Text.ofString "```MIPS !\r\nli\r\n```", 1, some ⟨11, 13⟩⟩, []) := by
    decide +kernel
  have scanned : (⟨Text.ofString defaultFence, "mips", true⟩ : FenceScanner).blocks
      (Text.ofString "x```MIPS !\r\nli\r\n```") =
        [⟨"mips", Text.ofString "```MIPS !\r\nli\r\n```", 1, some ⟨11, 13⟩⟩] := by
    rw [blocks, split, blocksFrom_of_missing (by decide +kernel)]
    refine (blocksFrom_of_found found).trans ?_
    rw [blocksFrom_nil (by decide +kernel)]
  exact ⟨caseless, scanned, ((blocks_eq_iff caseless _).1 _).mp scanned⟩

end FenceScanner
end FencedHighlight
