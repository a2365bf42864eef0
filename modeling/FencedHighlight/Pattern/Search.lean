import FencedHighlight.Error
import FencedHighlight.Pattern.Machine
import FencedHighlight.Pattern.Reader

namespace FencedHighlight

/-!
Patterns and searches for them.

A pattern is either a literal text or one written in the language of patterns,
which is compiled to a program.  Searches take and give byte offsets; what lies
before the start of a search is visible to the pattern, but no match begins
there unless the pattern itself moves its beginning.
-/

/-- What a search found. -/
structure Found where
  span : Span
  /-- The stretch that the first group has matched, if it took part. -/
  firstGroup : Option Span

/-- Something that can be searched for. -/
inductive Pattern where
  | literal (text : Text)
  /-- A pattern with the text it was read from. -/
  | compiled (source : String) (program : Pattern.Program)

namespace Pattern

def source : Pattern -> String
  | literal text => Text.asString text
  | compiled source _ => source

def compile (source : String) : Except HighlightError Pattern :=
  match Reader.read (Text.ofString source) with
  | .ok reading =>
      match Program.ofTree? reading.tree reading.groups reading.referenced with
      | some program => .ok (.compiled source program)
      | none => .error (.invalidPattern source)
  | .error _ => .error (.invalidPattern source)

/-- The offset of the first occurrence of a literal in the rest of a text,
where the rest begins at `offset`. -/
def findLiteral (literal : Text) : (offset : Nat) -> (rest : Text) -> Option Nat
  | offset, [] => if literal.isEmpty then some offset else none
  | offset, char :: rest =>
      if literal.isPrefixOf (char :: rest) then
        some offset
      else
        findLiteral literal (offset + char.utf8Size) rest

/-- Search a text for the first match at or after an offset. -/
def search? (pattern : Pattern) (text : Text) (start : Nat) : Option Found :=
  match pattern with
  | literal wanted => do
      let (_, rest) <- Text.cut? text start
      let offset <- findLiteral wanted start rest
      return ⟨⟨offset, offset + Text.size wanted⟩, none⟩
  | compiled _ program => do
      let slots <- Machine.search? program text.toArray (Text.indexOf text start)
      let group (index : Nat) : Option Span := do
        let first <- slots.read (2 * index)
        let last <- slots.read (2 * index + 1)
        return ⟨Text.offsetOf text first, Text.offsetOf text last⟩
      let span <- group 0
      return ⟨span, group 1⟩

/-- The stretch of the first match at or after an offset. -/
def find? (pattern : Pattern) (text : Text) (start : Nat) : Option Span :=
  (pattern.search? text start).map Found.span

end Pattern

end FencedHighlight
