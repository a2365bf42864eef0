import FencedHighlight.Engine
import FencedHighlight.Proofs.CodeBlock.Placement
import FencedHighlight.Proofs.Projection.Preorder
import FencedHighlight.Proofs.Tokenizer.Coverage

namespace FencedHighlight

/-!
The ranges of a block depend on the document only through the block.

Tokens are made from the text of the block alone, and their ranges lie within the
block.  What is left are the adjustments, which may read all of the document.
Those of an engine for some settings read only what lies under a range.
-/

namespace Engine

/-- Whether the adjustments read nothing of a text but what lies under each
range. -/
def Local (engine : Engine) : Prop :=
  ∀ (source other : Text) (ranges : List StyleRange),
    (∀ range ∈ ranges, Text.slice? source range.start range.stop =
      Text.slice? other range.start range.stop) ->
    engine.adjust source ranges = engine.adjust other ranges

/-- The title of an entity is made from the text under its range. -/
theorem local_ofSettings (settings : Settings) : (ofSettings settings).Local := by
  intro source other ranges agree
  simp only [adjust, ofSettings, List.foldl_cons, List.foldl_nil,
    RangeTransform.entityTitle]
  apply List.map_congr_left
  intro range member
  rw [agree range member]

/-- What a text holds under the ranges of a block that lies in it can be read off
the block. -/
theorem slice?_of_liesIn {block : CodeBlock} {document : Text} {tokens : List Token}
    (lies : block.LiesIn document) (covers : Token.sizeOf tokens = Text.size block.raw)
    {range : StyleRange} (member : range ∈ Projection.project tokens block.offset) :
    Text.slice? document range.start range.stop =
      Text.slice? block.raw (range.start - block.offset) (range.stop - block.offset) := by
  have within := Projection.within_project member
  rw [covers] at within
  exact Text.slice?_of_slice? lies within.low_le_start within.low_le_stop
    within.stop_le_high

/-- What comes of a code depends on its place only by the ranges of its tokens, which cover
the code, and by the adjustments that are made to them. -/
theorem highlight_eq_map {engine : Engine} {registry : Registry} {language : String}
    {code source other : Text} {base elsewhere : Nat}
    {move : List StyleRange -> List StyleRange}
    (adjusts : ∀ tokens, Token.sizeOf tokens = Text.size code ->
      engine.adjust source (Projection.project tokens base) =
        move (engine.adjust other (Projection.project tokens elsewhere))) :
    engine.highlight registry language code source base =
      (engine.highlight registry language code other elsewhere).map move := by
  unfold highlight
  cases registry.lookup language with
  | error fault => rfl
  | ok grammar =>
      cases ends : registry.tokenize grammar code with
      | error fault => simp only [bind, Except.bind, ends, Except.map]
      | ok tokens =>
          have adjusted := adjusts tokens (Tokenizer.sizeOf_of_tokenize ends)
          simp only [bind, Except.bind, ends, adjusted]
          rfl

/-- All documents in which a block lies give it the same ranges. -/
theorem highlightBlock_congr {engine : Engine} (locality : engine.Local)
    (registry : Registry) {block : CodeBlock} {document other : Text}
    (lies : block.LiesIn document) (liesToo : block.LiesIn other) :
    engine.highlightBlock registry document block =
      engine.highlightBlock registry other block := by
  have same := @highlight_eq_map engine registry block.language block.raw document other
    block.offset block.offset id fun tokens covers => by
      apply locality
      intro range member
      rw [slice?_of_liesIn lies covers member, slice?_of_liesIn liesToo covers member]
  rwa [Except.map_id] at same

end Engine

end FencedHighlight
