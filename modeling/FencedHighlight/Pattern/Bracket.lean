import FencedHighlight.Pattern.CharClass

namespace FencedHighlight
namespace Pattern
namespace Bracket

/-!
Bracketed character classes.

The reader of patterns has already resolved escapes, so a bracketed class
arrives as a list of signs.  Inside the brackets stand characters, ranges,
properties, named ASCII classes and nested brackets, joined by union, or by
`&&`, `--` and `~~`, which all bind alike and to the left.

A bracket that ends a range is a character and opens nothing, so a class may
close before the signs are used up.
-/

/-- One element of the text between brackets. -/
inductive Sign where
  /-- A character as written, which may have a meaning of its own. -/
  | plain (char : Char)
  /-- A character that stands for itself. -/
  | literal (char : Char)
  /-- A class written as an escape. -/
  | set (members : CharClass)

/-- The ways to join two classes other than union. -/
inductive Joint where
  | inter
  | diff
  | symmDiff

/-- A class, and how deeply its written form is nested. -/
structure Part where
  members : CharClass
  nesting : Nat

/-- An open bracket whose end has not been reached. -/
structure Level where
  negated : Bool
  /-- The members since the bracket or the last joint. -/
  members : CharClass
  /-- The number of items that make up these members. -/
  items : Nat
  /-- How deeply the items are nested. -/
  nesting : Nat := 0
  /-- What stands before the last joint, and that joint. -/
  left : Option (Part × Joint) := none

/-- What is wrong with a bracketed class. -/
inductive Fault where
  | unclosed
  | reversedRange
  | rangeOfClass
deriving DecidableEq

namespace Level

/-- The items since the bracket or the last joint, as one part. -/
def right (level : Level) : Part :=
  ⟨level.members, if 1 < level.items then level.nesting + 1 else level.nesting⟩

/-- The class that has been read since the bracket opened.  Without regard for
case, both sides of a joint are widened before they are joined. -/
def value (folded : Bool) (level : Level) : Part :=
  match level.left with
  | none => level.right
  | some (left, joint) =>
      let first := CharClass.foldIf folded left.members
      let second := CharClass.foldIf folded level.right.members
      let joined := match joint with
        | .inter => CharClass.inter first second
        | .diff => CharClass.diff first second
        | .symmDiff => CharClass.symmDiff first second
      ⟨joined, max left.nesting level.right.nesting + 1⟩

/-- The class of a bracket that closes. -/
def close (folded : Bool) (level : Level) : Part :=
  let value := level.value folded
  ⟨CharClass.negateIf level.negated (CharClass.foldIf folded value.members),
    value.nesting + 1⟩

def add (level : Level) (item : Part) : Level :=
  { level with
    members := CharClass.union level.members item.members
    items := level.items + 1
    nesting := max level.nesting item.nesting }

def join (folded : Bool) (level : Level) (joint : Joint) : Level :=
  { level with
    members := .nothing
    items := 0
    nesting := 0
    left := some (level.value folded, joint) }

end Level

/-- Read the start of a bracket, just after `[`: a sign of negation, hyphens
that stand for themselves, and a closing bracket that stands for itself
because it comes first. -/
def openLevel (signs : List Sign) : Level × List Sign :=
  let (negated, signs) := match signs with
    | .plain '^' :: rest => (true, rest)
    | _ => (false, signs)
  let isHyphen : Sign -> Bool
    | .plain '-' => true
    | _ => false
  let hyphens := signs.takeWhile isHyphen
  let signs := signs.dropWhile isHyphen
  match hyphens, signs with
  | [], .plain ']' :: rest => ({ negated, members := .single ']', items := 1 }, rest)
  | [], _ => ({ negated, members := .nothing, items := 0 }, signs)
  | _ :: _, _ =>
      ({ negated, members := .single '-', items := hyphens.length }, signs)

/-- Read a named ASCII class such as `[:alpha:]`, just after its `[`. -/
def asciiClass? (folded : Bool) (signs : List Sign) :
    Option (CharClass × List Sign) :=
  match signs with
  | .plain ':' :: rest =>
      let (negated, rest) := match rest with
        | .plain '^' :: rest => (true, rest)
        | _ => (false, rest)
      let letter? : Sign -> Option Char
        | .plain ':' => none
        | .plain char => some char
        | _ => none
      let letters := rest.takeWhile fun sign => (letter? sign).isSome
      match rest.drop letters.length with
      | .plain ':' :: .plain ']' :: after =>
          (CharClass.ascii? (letters.filterMap letter?)).map fun members =>
            (CharClass.negateIf negated (CharClass.foldIf folded members), after)
      | _ => none
  | _ => none

/-- The character that a sign stands for as an end of a range. -/
def Sign.endpoint? : Sign -> Option Char
  | .plain char | .literal char => some char
  | .set _ => none

/-- Read a character, a class or a range that begins with the given sign. -/
def readItem (sign : Sign) (rest : List Sign) :
    Except Fault (CharClass × List Sign) :=
  let alone : CharClass := match sign with
    | .plain char | .literal char => .single char
    | .set members => members
  match rest with
  | [] => .error .unclosed
  | .plain '-' :: .plain ']' :: _ | .plain '-' :: .plain '-' :: _ =>
      .ok (alone, rest)
  | .plain '-' :: [] => .error .unclosed
  | .plain '-' :: last :: after =>
      match sign.endpoint?, last.endpoint? with
      | some low, some high =>
          if low ≤ high then .ok (.range low high, after)
          else .error .reversedRange
      | _, _ => .error .rangeOfClass
  | _ => .ok (alone, rest)

/-- Read signs up to the bracket that closes the outermost level, and give back
the signs after it.  Each step takes at least one sign, so as many steps as
signs suffice. -/
def readLevels (folded : Bool) :
    (steps : Nat) -> Level -> List Level -> List Sign ->
      Except Fault (Part × List Sign)
  | 0, _, _, _ => .error .unclosed
  | steps + 1, level, outer, signs =>
      match signs with
      | [] => .error .unclosed
      | .plain '[' :: rest =>
          match asciiClass? folded rest with
          | some (members, after) =>
              readLevels folded steps (level.add ⟨members, 0⟩) outer after
          | none =>
              let (inner, after) := openLevel rest
              readLevels folded steps inner (level :: outer) after
      | .plain ']' :: rest =>
          match outer with
          | [] => .ok (level.close folded, rest)
          | parent :: outer =>
              readLevels folded steps (parent.add (level.close folded)) outer rest
      | .plain '&' :: .plain '&' :: rest =>
          readLevels folded steps (level.join folded .inter) outer rest
      | .plain '-' :: .plain '-' :: rest =>
          readLevels folded steps (level.join folded .diff) outer rest
      | .plain '~' :: .plain '~' :: rest =>
          readLevels folded steps (level.join folded .symmDiff) outer rest
      | sign :: rest => do
          let (members, after) <- readItem sign rest
          readLevels folded steps (level.add ⟨members, 0⟩) outer after

/-- The class that the signs after the opening bracket describe, and the signs
after the bracket that closes it. -/
def read (folded : Bool) (signs : List Sign) : Except Fault (Part × List Sign) :=
  let (level, rest) := openLevel signs
  readLevels folded (signs.length + 1) level [] rest

end Bracket
end Pattern
end FencedHighlight
