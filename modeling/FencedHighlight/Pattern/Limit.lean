import FencedHighlight.Pattern.Tree

namespace FencedHighlight
namespace Pattern

/-!
Limits on settled trees.

A settled tree is matched by an automaton that reads bytes.  The automaton must
not take up too much space, the written form of the tree must not be nested too
deeply, and the bounds of its repetitions must be in order and not too large.
A pattern with a part beyond these limits is no pattern.

The space for a class of characters depends on the ways in which their bytes
vary, which are counted here on the digits of code points to the base 64: apart
from some marks, these are the bytes.
-/

namespace CharClass

/-! ## Space for a class -/

/-- Whether the character of a code point belongs to the class. -/
def containsCode (members : CharClass) (code : Nat) : Bool :=
  if h : code.isValidChar then members.contains (Char.ofNatAux code h) else false

/-- The maximal stretches of members below a code point, in increasing order,
followed by those that have been found already. -/
def stretchesBelow (members : CharClass) :
    Nat -> List (Nat × Nat) -> List (Nat × Nat)
  | 0, found => found
  | code + 1, found =>
      if members.containsCode code then
        match found with
        | (low, high) :: rest =>
            if low = code + 1 then stretchesBelow members code ((code, high) :: rest)
            else stretchesBelow members code ((code, code) :: found)
        | [] => stretchesBelow members code [(code, code)]
      else
        stretchesBelow members code found

def stretches (members : CharClass) : List (Nat × Nat) :=
  stretchesBelow members 0x110000 []

/-- Cut a stretch of numbers into rows of digits to the base 64, each of which
may vary on its own.  There is one digit more than `digits`. -/
def digitRows : (digits low high : Nat) -> List (List (Nat × Nat))
  | 0, low, high => [[(low, high)]]
  | digits + 1, low, high =>
      let unit := 64 ^ (digits + 1)
      let first := low / unit
      let last := high / unit
      let under (heads : Nat × Nat) (low high : Nat) : List (List (Nat × Nat)) :=
        (digitRows digits low high).map (heads :: ·)
      if first = last then
        under (first, first) (low % unit) (high % unit)
      else
        let startsEven := low % unit = 0
        let endsEven := high % unit + 1 = unit
        let next := if startsEven then first else first + 1
        let stop := if endsEven then last + 1 else last
        (if startsEven then [] else under (first, first) (low % unit) (unit - 1)) ++
          (if next < stop then under (next, stop - 1) 0 (unit - 1) else []) ++
          (if endsEven then [] else under (last, last) 0 (high % unit))

/-- The rows of digits for a stretch of code points, where those that take the
same number of bytes stand together. -/
def byteRows (stretch : Nat × Nat) : List (List (Nat × Nat)) :=
  [(0, 0, 0x7f), (1, 0x80, 0x7ff), (2, 0x800, 0xffff), (3, 0x10000, 0x10ffff)].flatMap
    fun (digits, floor, ceiling) =>
      let low := max stretch.1 floor
      let high := min stretch.2 ceiling
      if low ≤ high then digitRows digits low high else []

/-- The number of places at the start where two rows agree. -/
def agreement : List (Nat × Nat) -> List (Nat × Nat) -> Nat
  | first :: rest, second :: others =>
      if first = second && rest.length = others.length then agreement rest others + 1
      else 0
  | _, _ => 0

/-- The number of places of rows that do not agree with the row before. -/
def freshPlaces : List (Nat × Nat) -> List (List (Nat × Nat)) -> Nat
  | _, [] => 0
  | before, row :: rows => row.length - agreement before row + freshPlaces row rows

/-- The space that a class takes up, in bytes. -/
def footprint (members : CharClass) : Nat :=
  match members.stretches with
  | [(low, high)] =>
      if low = high then 32 * (Char.ofNat low).utf8Size
      else ofStretches [(low, high)]
  | stretches => ofStretches stretches
where
  /-- The space for stretches of members. -/
  ofStretches (stretches : List (Nat × Nat)) : Nat :=
    if stretches.all (·.2 < 0x80) then
      64 + 8 * stretches.length
    else
      let rows := stretches.flatMap byteRows
      64 + 32 * freshPlaces [] rows + 4 * rows.length

/-- More than the space for a class, found at a glance. -/
def ampleFootprint : CharClass -> Nat
  | single char => 32 * char.utf8Size
  | anyCase (single _) => 1024
  | _ => 81920

end CharClass

namespace Tree

/-! ## Space for a tree -/

/-- Whether a tree takes up no character at all. -/
def takesNothing : Tree -> Bool
  | empty | anchor _ => true
  | seq first second | either first second => first.takesNothing && second.takesNothing
  | scope body | group _ body => body.takesNothing
  | repeated _ most _ body => most == some 0 || body.takesNothing
  | _ => false

/-- The bounds of a repetition that is settled.  One round that takes nothing is
as good as many. -/
def settledBounds (least : Nat) (most : Option Nat) (body : Tree) :
    Nat × Option Nat :=
  if body.takesNothing then (min least 1, some (min (most.getD 1) 1))
  else (least, most)

/-- The class that a tree of single characters and alternatives amounts to. -/
def asClass? : Tree -> Option CharClass
  | one member _ => some member
  | scope body => body.asClass?
  | either first second => do return .union (<- first.asClass?) (<- second.asClass?)
  | _ => none

/-- The space that a regular tree takes up, in bytes, where `measure` gives the
space for a class. -/
def footprint (measure : CharClass -> Nat) : Tree -> Nat
  | one member _ => measure member
  | seq first second => first.footprint measure + second.footprint measure
  | either first second =>
      match (either first second).asClass? with
      | some members => measure members
      | none =>
          first.footprint measure + second.footprint measure +
            (if second matches either _ _ then 4 else 72)
  | scope body => body.footprint measure
  | group _ body => body.footprint measure + 64
  | repeated least most _ body =>
      let round := body.footprint measure
      match settledBounds least most body with
      | (least, some most) =>
          if least = 1 && most = 1 then round
          else least * round + (most - least) * (round + 40) + 32
      | (least, none) =>
          if least = 0 && body.leastLength = 0 then round + 112
          else max least 1 * round + 40
  | _ => 32

/-! ## Nesting and bounds -/

/-- Where a tree is written, as far as it needs parentheses there. -/
inductive Setting where
  | group
  | alternative
  | laterAlternative
  | piece
  | laterPiece
  | round

/-- The setting of a tree that is kept apart from what stands before it. -/
def Setting.apart : Setting -> Setting
  | laterAlternative => alternative
  | laterPiece => piece
  | setting => setting

/-- How deeply the written form of a regular tree is nested: rows, alternatives,
repetitions, groups and parentheses count, and so do those around a line anchor. -/
def nesting : Tree -> Setting -> Nat
  | one _ nesting, _ => nesting
  | anchor .lineStart, _ | anchor .lineEnd, _ => 1
  | seq first second, setting =>
      let inner := max (first.nesting .piece) (second.nesting .laterPiece)
      match setting with
      | .laterPiece => inner
      | .piece | .round => inner + 2
      | _ => inner + 1
  | either first second, setting =>
      let inner := max (first.nesting .alternative) (second.nesting .laterAlternative)
      match setting with
      | .laterAlternative => inner
      | .group => inner + 1
      | _ => inner + 2
  | scope body, setting => body.nesting setting.apart
  | group _ body, _ => body.nesting .group + 1
  | repeated _ _ _ body, setting =>
      let inner := body.nesting .round + 1
      if setting matches .round then inner + 1 else inner
  | _, _ => 0

/-- The largest bound of a repetition in a settled tree. -/
def largestBound : Nat := Nat.pow 2 32 - 1

/-- Whether the bounds of all repetitions are in order and not too large. -/
def hasFairBounds : Tree -> Bool
  | seq first second | either first second => first.hasFairBounds && second.hasFairBounds
  | scope body | group _ body => body.hasFairBounds
  | repeated least most _ body =>
      least ≤ largestBound && most.all (fun most => least ≤ most && most ≤ largestBound) &&
        body.hasFairBounds
  | _ => true

/-! ## Admission -/

/-- Written forms may be nested this deep. -/
def deepestWriting : Nat := 250

/-- An automaton may take up this many bytes. -/
def largestFootprint : Nat := 10 * Nat.pow 2 20

/-- Whether a regular tree that is written in a setting may be settled. -/
def isAdmissible (tree : Tree) (setting : Setting) : Bool :=
  tree.hasFairBounds && tree.nesting setting ≤ deepestWriting &&
    (tree.footprint CharClass.ampleFootprint ≤ largestFootprint ||
      tree.footprint CharClass.footprint ≤ largestFootprint)

end Tree

end Pattern
end FencedHighlight
