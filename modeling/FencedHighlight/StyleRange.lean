import FencedHighlight.Text

namespace FencedHighlight

/-!
Style ranges.

A style range gives a tag to a stretch of a document.  Documents are never
changed; a transform only adjusts the ranges, for which it may read the text
that their offsets refer to.
-/

/-- A tagged stretch of a document, by the byte offsets of its ends. -/
structure StyleRange where
  start : Nat
  stop : Nat
  tag : String
  title : Option String := none
deriving DecidableEq

namespace StyleRange

def contains (range : StyleRange) (offset : Nat) : Bool :=
  range.start ≤ offset && offset < range.stop

/-- Whether the range shares an offset with the stretch from `start` to
`stop`. -/
def overlaps (range : StyleRange) (start stop : Nat) : Bool :=
  range.start < stop && start < range.stop

def length (range : StyleRange) : Nat :=
  range.stop - range.start

def isEmpty (range : StyleRange) : Bool :=
  range.stop ≤ range.start

/-- Whether one range may stand ahead of another: it starts earlier, or at the
same offset and is at least as wide. -/
def ahead (first second : StyleRange) : Bool :=
  first.start < second.start ||
    (first.start == second.start && second.stop ≤ first.stop)

/-- Sort ranges by their starts, wider ones first.  Ranges over the same
stretch keep their order. -/
def sort (ranges : List StyleRange) : List StyleRange :=
  ranges.mergeSort ahead

end StyleRange

/-- An adjustment of ranges, given the text that they refer to. -/
abbrev RangeTransform := Text -> List StyleRange -> List StyleRange

namespace RangeTransform

/-- A text with the first occurrence of `old` replaced. -/
def replaceFirst (old new : Text) : Text -> Text
  | [] => if old.isEmpty then new else []
  | char :: rest =>
      if old.isPrefixOf (char :: rest) then
        new ++ (char :: rest).drop old.length
      else
        char :: replaceFirst old new rest

/-- Give the ranges of entities their text as a title, with the first escaped
ampersand written plainly. -/
def entityTitle : RangeTransform := fun source ranges =>
  ranges.map fun range =>
    if range.tag = "entity" then
      match Text.slice? source range.start range.stop with
      | some text =>
          { range with
            title := some (Text.asString
              (replaceFirst (Text.ofString "&amp;") (Text.ofString "&") text)) }
      | none => range
    else
      range

end RangeTransform

end FencedHighlight
