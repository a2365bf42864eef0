namespace FencedHighlight

/-!
Texts and the byte offsets that address them.

A text is a sequence of characters.  Offsets count the bytes of its UTF-8
form, so an offset is meaningful only where a character begins or the text
ends; such offsets are called boundaries.  A slice between two offsets exists
only if both are boundaries in order, which is why `slice?` is optional.
-/

/-- A text is the sequence of its characters. -/
abbrev Text := List Char

namespace Text

/-- The characters of a string, as a text. -/
def ofString (string : String) : Text :=
  string.toList

def asString (text : Text) : String :=
  String.ofList text

/-- The number of bytes that a text takes in UTF-8. -/
def size : Text -> Nat
  | [] => 0
  | char :: rest => char.utf8Size + size rest

@[simp] theorem size_nil : size [] = 0 := rfl

@[simp] theorem size_cons (char : Char) (rest : Text) :
    size (char :: rest) = char.utf8Size + size rest := rfl

@[simp] theorem size_append (left right : Text) :
    size (left ++ right) = size left + size right := by
  induction left with
  | nil => simp
  | cons char rest ih => simp [ih, Nat.add_assoc]

/-- Cut a text in two at a byte offset.  There is no such cut inside a
character or beyond the end. -/
def cut? : Text -> Nat -> Option (Text × Text)
  | text, 0 => some ([], text)
  | [], _ + 1 => none
  | char :: rest, offset + 1 =>
      if char.utf8Size ≤ offset + 1 then
        (cut? rest (offset + 1 - char.utf8Size)).map
          fun halves => (char :: halves.1, halves.2)
      else
        none

/-- Whether a character begins, or the text ends, at this byte offset. -/
def isBoundary (text : Text) (offset : Nat) : Bool :=
  (cut? text offset).isSome

/-- The part of a text between two byte offsets, if both are boundaries in
this order. -/
def slice? (text : Text) (start stop : Nat) : Option Text :=
  if start ≤ stop then do
    let (_, after) <- cut? text start
    let (middle, _) <- cut? after (stop - start)
    return middle
  else
    none

/-- The byte offset at which the character with this index begins; the size
of the text for every index past the last one. -/
def offsetOf (text : Text) (index : Nat) : Nat :=
  size (text.take index)

/-- The number of characters that begin before a byte offset. -/
def indexOf : Text -> Nat -> Nat
  | _, 0 => 0
  | [], _ + 1 => 0
  | char :: rest, offset + 1 => 1 + indexOf rest (offset + 1 - char.utf8Size)

/-- The least boundary of `text` after `offset`, where `text` itself begins
`origin` bytes into a longer text.  Beyond the end every offset counts as a
boundary. -/
def boundaryAfter (origin : Nat) : Text -> Nat -> Nat
  | [], offset => if offset < origin then origin else offset + 1
  | char :: rest, offset =>
      if offset < origin then
        origin
      else
        boundaryAfter (origin + char.utf8Size) rest offset

/-- The least boundary of a text after an offset. -/
def nextBoundary (text : Text) (offset : Nat) : Nat :=
  boundaryAfter 0 text offset

end Text

/-- A stretch of a text, by the byte offsets of its ends. -/
structure Span where
  start : Nat
  stop : Nat
deriving DecidableEq

namespace Span

def length (span : Span) : Nat :=
  span.stop - span.start

end Span

end FencedHighlight
