import FencedHighlight.Pattern.Search

namespace FencedHighlight

/-!
Regions between an opening and a closing delimiter.

A region begins after an opening delimiter and ends where the closing delimiter
begins that balances it: openings inside the region have to be closed first.
An opening that is never balanced opens no region.  Delimiters that match the
empty text do not count.
-/

/-- The delimiters of a region that may be nested. -/
structure Delimiters where
  opening : Pattern
  closing : Pattern
  /-- What deepens the nesting inside a region, if not the opening. -/
  nested : Option Pattern := none
  /-- The name of the element, if the delimiters are its tags. -/
  tag : Option String := none

/-- The first stretch at or after an offset, for instance of a pattern. -/
abbrev Finder := Nat -> Option Span

namespace Finder

/-- Search again if what is remembered begins before the offset. -/
def refresh (finder : Finder) (offset : Nat) (remembered : Option Span) :
    Option Span :=
  match remembered with
  | some span => if span.start < offset then finder offset else some span
  | none => none

end Finder

namespace Balance

/-- Whether an opening deepens the nesting before the given closing: it must
not be empty, and must begin before the closing does. -/
def deepens (opening : Option Span) (closing : Span) : Option Span :=
  opening.filter fun span => span.start < closing.start && span.start < span.stop

/-- The start of the closing that balances a region, scanning from an offset
inside it.  `depth` counts the regions that have been opened inside and are
still open.  The next opening and closing are remembered until the scan has
passed them.  A delimiter may begin before the offset from which it is searched
for (a lookbehind with `\K` does that), so a scan may go back and count a
delimiter again, even for ever.  Only such a scan finds nothing for want of
steps if there are as many as the limit allows. -/
def closeFrom (text : Text) (opener closer : Finder) :
    (steps depth offset : Nat) -> (nextOpening nextClosing : Option Span) ->
      Option Nat
  | 0, _, _, _, _ => none
  | steps + 1, depth, offset, nextOpening, nextClosing => do
      let nextOpening := opener.refresh offset nextOpening
      let nextClosing := closer.refresh offset nextClosing
      let closing <- nextClosing
      match deepens nextOpening closing with
      | some opening =>
          closeFrom text opener closer steps (depth + 1) opening.stop
            nextOpening nextClosing
      | none =>
          if closing.stop = closing.start then
            if Text.size text ≤ closing.start then
              none
            else
              closeFrom text opener closer steps depth
                (Text.nextBoundary text closing.start) nextOpening nextClosing
          else
            match depth with
            | 0 => some closing.start
            | depth + 1 =>
                closeFrom text opener closer steps depth closing.stop
                  nextOpening nextClosing

/-- A number of steps that is enough for every scan that ends.  What a scan sees
at an offset is told by three offsets, its own and those from which the two
delimiters were searched for, and a scan that ends is never deeper than there
are such sights. -/
def stepLimit (text : Text) : Nat :=
  Nat.pow (Text.size text + 1) 6

/-- The start of the closing that balances a region which begins at an
offset. -/
def close? (text : Text) (opener closer : Finder) (offset : Nat) : Option Nat :=
  closeFrom text opener closer (stepLimit text) 0 offset
    (opener offset) (closer offset)

/-- The first region whose opening begins at or after an offset, with the
start of the opening, the start of the region and its end.  The search may go
back as a scan may, but it has no memory: if it comes to an offset once more, it
never ends, and finds nothing. -/
def regionFrom (text : Text) (opener deeper closer : Finder) :
    (steps offset : Nat) -> Option (Nat × Nat × Nat)
  | 0, _ => none
  | steps + 1, offset =>
      if Text.size text < offset then
        none
      else do
        let opening <- opener offset
        let region? :=
          if opening.start < opening.stop then
            close? text deeper closer opening.stop
          else
            none
        match region? with
        | some stop => return (opening.start, opening.stop, stop)
        | none =>
            regionFrom text opener deeper closer steps
              (Text.nextBoundary text opening.start)

end Balance

namespace Delimiters

def compile (opening closing : String) : Except HighlightError Delimiters := do
  let opening <- Pattern.compile opening
  let closing <- Pattern.compile closing
  return { opening, closing }

/-- Delimiters that stand for themselves.  They are searched for as literals, which is the
same as a search for their escaped texts.  Those texts always compile, unless one of them is
longer than the limit on programs allows. -/
def pair (opening closing : String) : Delimiters :=
  { opening := .literal (Text.ofString opening)
    closing := .literal (Text.ofString closing) }

/-- The delimiters with a pattern for what deepens the nesting. -/
def withNested (delimiters : Delimiters) (nested : String) :
    Except HighlightError Delimiters := do
  let nested <- Pattern.compile nested
  return { delimiters with nested := some nested }

/-- The characters that have a meaning of their own in patterns. -/
def specialChars : List Char :=
  ['\\', '.', '+', '*', '?', '(', ')', '|', '[', ']', '{', '}', '^', '$', '#', '&',
    '-', '~']

/-- A pattern for a text that stands for itself. -/
def escape (text : String) : String :=
  String.ofList (text.toList.flatMap fun char =>
    if specialChars.contains char then ['\\', char] else [char])

/-- The tags of an element.  The opening tag may have attributes but must not
close itself; letters match in either case. -/
def ofTag (name : String) : Except HighlightError Delimiters := do
  let delimiters <- compile
    ("(?i)<" ++ escape name ++ "\\b[^>]*(?<!/)>")
    ("(?i)</" ++ escape name ++ "\\s*>")
  return { delimiters with tag := some name }

/-- The first region between the delimiters whose opening begins at or after
an offset. -/
def region? (delimiters : Delimiters) (text : Text) (offset : Nat) :
    Option (Nat × Nat × Nat) :=
  let opener : Finder := fun offset => delimiters.opening.find? text offset
  let closer : Finder := fun offset => delimiters.closing.find? text offset
  let deeper : Finder := fun offset =>
    (delimiters.nested.getD delimiters.opening).find? text offset
  Balance.regionFrom text opener deeper closer (Text.size text + 2) offset

end Delimiters

end FencedHighlight
