import FencedHighlight.Proofs.CodeBlock.Parse
import FencedHighlight.Proofs.Engine.Locality
import FencedHighlight.Proofs.Projection.Enumeration

namespace FencedHighlight

/-!
Where a block lies decides only where its ranges lie.

The text of a block can be highlighted on its own, from the offset 0 on, or as a part of
a document.  Both make the same tokens, whose ranges are moved by the offset of the block.
What adjusts the ranges then reads either the text of the block or the whole document.
Under a range of the block these hold the same, so titles agree as well.
-/

namespace Engine

/-- Whether the adjustments make the same of ranges that have been moved, in a text that
holds under them what the other text holds under the ranges. -/
def Movable (engine : Engine) : Prop :=
  ∀ (source other : Text) (ranges : List StyleRange) (distance : Nat),
    (∀ range ∈ ranges, Text.slice? source (range.start + distance) (range.stop + distance) =
      Text.slice? other range.start range.stop) ->
    engine.adjust source (ranges.map (StyleRange.shift distance)) =
      (engine.adjust other ranges).map (StyleRange.shift distance)

theorem movable_ofSettings (settings : Settings) : (ofSettings settings).Movable := by
  intro source other ranges distance agree
  simp only [adjust, ofSettings, List.foldl_cons, List.foldl_nil, RangeTransform.entityTitle,
    List.map_map]
  apply List.map_congr_left
  intro range member
  simp only [Function.comp_apply, StyleRange.shift, agree range member]
  split
  · split <;> rfl
  · rfl

theorem movable_withoutTransforms (engine : Engine) : engine.withoutTransforms.Movable :=
  fun _ _ _ _ _ => rfl

/-- A block of a document has the ranges of its text, moved to the place of the block. -/
theorem highlightBlock_eq_shift {engine : Engine} (movable : engine.Movable)
    (registry : Registry) {block : CodeBlock} {document : Text}
    (lies : block.LiesIn document) :
    engine.highlightBlock registry document block =
      (engine.highlightAlone registry block.language block.raw).map
        (List.map (StyleRange.shift block.offset)) := by
  apply highlight_eq_map
  intro tokens covers
  have moved := Projection.project_add tokens 0 block.offset
  rw [Nat.zero_add] at moved
  rw [moved]
  apply movable
  intro range member
  have among : range.shift block.offset ∈ Projection.project tokens block.offset :=
    moved ▸ List.mem_map_of_mem member
  have held := slice?_of_liesIn lies covers among
  rwa [StyleRange.shift, Nat.add_sub_cancel, Nat.add_sub_cancel] at held

/-- Highlighting a block commutes with its position, whether entities get titles or not.
The block has the ranges of its text, moved by its offset, or fails as its text does.  So in
any document, blocks of one language with one text at one offset have the same ranges. -/
theorem highlightBlock_position (settings : Settings) (registry : Registry) {engine : Engine}
    (built : engine = ofSettings settings ∨ engine = (ofSettings settings).withoutTransforms)
    {language : String} {document : Text} {block : CodeBlock}
    (found : block ∈ (engine.scanner language).blocks document) :
    engine.highlightBlock registry document block =
        (engine.highlightAlone registry block.language block.raw).map
          (List.map (StyleRange.shift block.offset)) ∧
      ∀ (name : String) (other : Text), ∀ elsewhere ∈ (engine.scanner name).blocks other,
        elsewhere.language = block.language -> elsewhere.raw = block.raw ->
          elsewhere.offset = block.offset ->
          engine.highlightBlock registry other elsewhere =
            engine.highlightBlock registry document block := by
  have movable : engine.Movable := by
    rcases built with rfl | rfl
    · exact movable_ofSettings settings
    · exact movable_withoutTransforms _
  have here := highlightBlock_eq_shift movable registry
    (FenceScanner.liesIn_of_mem_blocks found)
  refine ⟨here, ?_⟩
  intro name other elsewhere foundThere sameLanguage sameText sameOffset
  have there := highlightBlock_eq_shift movable registry
    (FenceScanner.liesIn_of_mem_blocks foundThere)
  rw [there, here, sameLanguage, sameText, sameOffset]

/-- A registry whose only grammar knows one entity. -/
def entities : Registry :=
  Registry.register {} "html" (Grammar.empty.insert "entity"
    [{ matcher := .pattern (.literal "&amp;".toList) }])

/-- A block with that entity, behind a line with a letter of two bytes. -/
def entityBlock : CodeBlock :=
  { language := "html"
    raw := Text.ofString "```html\n&amp;\n```"
    offset := 3
    body := some ⟨8, 13⟩ }

theorem highlightBlock_position_entity :
    entityBlock ∈ ((ofSettings {}).scanner "html").blocks ('é' :: '\n' :: entityBlock.raw) ∧
      (ofSettings {}).highlightAlone entities "html" entityBlock.raw =
        .ok [⟨8, 13, "entity", some "&"⟩] ∧
      (ofSettings {}).highlightBlock entities ('é' :: '\n' :: entityBlock.raw) entityBlock =
        .ok [⟨11, 16, "entity", some "&"⟩] := by
  have recognized : ((ofSettings {}).scanner "html").blockAt? 3 entityBlock.raw =
      some (entityBlock, []) := by
    decide +kernel
  have found : entityBlock ∈
      ((ofSettings {}).scanner "html").blocks ('é' :: '\n' :: entityBlock.raw) := by
    rw [FenceScanner.blocks, FenceScanner.blocksFrom_of_missing (by decide +kernel),
      FenceScanner.blocksFrom_of_missing (by decide +kernel)]
    exact (FenceScanner.blocksFrom_of_found recognized) ▸ List.mem_cons_self
  have alone : (ofSettings {}).highlightAlone entities "html" entityBlock.raw =
      .ok [⟨8, 13, "entity", some "&"⟩] := by
    decide +kernel
  refine ⟨found, alone, ?_⟩
  have moved := (highlightBlock_position {} entities (Or.inl rfl) found).1
  rwa [show entityBlock.language = "html" from rfl, alone] at moved

end Engine
end FencedHighlight
