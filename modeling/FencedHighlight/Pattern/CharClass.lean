import FencedHighlight.Unicode.CaseFolding
import FencedHighlight.Unicode.Property

namespace FencedHighlight
namespace Pattern

/-!
Character classes.

A class is an expression over single characters, ranges and property tables.
It is never expanded into a list of characters; membership is decided by
evaluating the expression at one character.
-/

/-- An expression for a set of characters. -/
inductive CharClass where
  | nothing
  | single (char : Char)
  | range (low high : Char)
  /-- What an odd number of tables contains. -/
  | tables (tables : List Unicode.RangeTable)
  | union (left right : CharClass)
  | inter (left right : CharClass)
  | compl (inner : CharClass)
  /-- The members of `inner` with all characters equal to one up to case. -/
  | anyCase (inner : CharClass)

namespace CharClass

def contains : CharClass -> Char -> Bool
  | nothing, _ => false
  | single member, char => member == char
  | range low high, char => low ≤ char && char ≤ high
  | tables entries, char => Unicode.RangeTable.oddlyContain entries char
  | union left right, char => left.contains char || right.contains char
  | inter left right, char => left.contains char && right.contains char
  | compl inner, char => !inner.contains char
  | anyCase inner, char =>
      inner.contains char ||
        (Unicode.caseVariants char).any fun variant => inner.contains variant

/-- The members of `left` that are not members of `right`. -/
def diff (left right : CharClass) : CharClass :=
  inter left (compl right)

def symmDiff (left right : CharClass) : CharClass :=
  union (diff left right) (diff right left)

def unionAll (classes : List CharClass) : CharClass :=
  classes.foldr union nothing

def negateIf (negated : Bool) (inner : CharClass) : CharClass :=
  if negated then compl inner else inner

def foldIf (folded : Bool) (inner : CharClass) : CharClass :=
  if folded then anyCase inner else inner

def everything : CharClass :=
  compl nothing

def withinLine : CharClass :=
  compl (single '\n')

def digit : CharClass :=
  union (range '0' '9') (tables [Unicode.Category.decimalNumber])

def space : CharClass :=
  tables [Unicode.Derived.whiteSpace]

def asciiLetter : CharClass :=
  union (range 'a' 'z') (range 'A' 'Z')

def hexDigit : CharClass :=
  union (range '0' '9') (union (range 'a' 'f') (range 'A' 'F'))

/-- Characters of words.  The ASCII ones stand first, as the common case. -/
def word : CharClass :=
  union (union asciiLetter (range '0' '9'))
    (union (single '_') (tables [Unicode.Derived.word]))

/-- The ASCII classes that may be named inside brackets. -/
def ascii? (name : List Char) : Option CharClass :=
  match String.ofList name with
  | "alnum" => some (union asciiLetter (range '0' '9'))
  | "alpha" => some asciiLetter
  | "ascii" => some (range '\x00' '\x7f')
  | "blank" => some (union (single '\t') (single ' '))
  | "cntrl" => some (union (range '\x00' '\x1f') (single '\x7f'))
  | "digit" => some (range '0' '9')
  | "graph" => some (range '!' '~')
  | "lower" => some (range 'a' 'z')
  | "print" => some (range ' ' '~')
  | "punct" => some (unionAll
      [range '!' '/', range ':' '@', range '[' '\x60', range '\x7b' '~'])
  | "space" => some (union (range '\t' '\r') (single ' '))
  | "upper" => some (range 'A' 'Z')
  | "word" => some (unionAll [asciiLetter, range '0' '9', single '_'])
  | "xdigit" => some hexDigit
  | _ => none

/-- The parts of a list before and after the first occurrence of `mark`. -/
def splitAtMark (mark : List Char) : List Char -> Option (List Char × List Char)
  | [] => none
  | char :: rest =>
      if mark.isPrefixOf (char :: rest) then
        some ([], (char :: rest).drop mark.length)
      else
        (splitAtMark mark rest).map fun parts => (char :: parts.1, parts.2)

/-- The class of a property.  It is given by a name alone, or by a kind and a
value joined by `!=`, `:` or `=`, where `!=` asks for the complement. -/
def property? (inside : List Char) (negated folded : Bool) : Option CharClass :=
  let close (negated : Bool) (entries : List Unicode.RangeTable) : CharClass :=
    negateIf negated (foldIf folded (tables entries))
  match splitAtMark ['!', '='] inside with
  | some (kind, value) =>
      (Unicode.Property.ofKind? kind value).map (close !negated)
  | none =>
      match (splitAtMark [':'] inside).orElse fun _ => splitAtMark ['='] inside with
      | some (kind, value) =>
          (Unicode.Property.ofKind? kind value).map (close negated)
      | none => (Unicode.Property.single? inside).map (close negated)

end CharClass

end Pattern
end FencedHighlight
