import FencedHighlight.Pattern.CharClass

namespace FencedHighlight
namespace Pattern

/-!
Pattern trees.

A tree says what a pattern matches, free of the way it was written.  Rows and
alternatives are joined in pairs, to the right; where parentheses without a
number keep one of them apart from its surroundings, a scope stands around it.

Trees without word boundaries, look-around, references, atomic groups and the
like are regular: what they match can be settled without ever coming back to
them.
-/

/-- A condition on a position of the text that consumes nothing. -/
inductive Anchor where
  | textStart
  | textEnd
  | lineStart
  | lineEnd
  /-- The end of the text, or a place with only line feeds after it. -/
  | lastLineEnd
  | wordBoundary
  | notWordBoundary
  | wordStart
  | wordEnd
  /-- No character of a word stands before. -/
  | wordStartHalf
  /-- No character of a word stands after. -/
  | wordEndHalf
deriving DecidableEq

namespace Anchor

/-- Whether the anchor belongs to regular trees. -/
def isRegular : Anchor -> Bool
  | textStart | textEnd | lineStart | lineEnd => true
  | _ => false

end Anchor

/-- On which side of the position a look-around examines the text. -/
inductive Side where
  | ahead
  | behind
deriving DecidableEq

/-- What a pattern matches. -/
inductive Tree where
  | empty
  /-- A character of a class, whose written form is nested to some depth. -/
  | one (member : CharClass) (nesting : Nat)
  | anchor (kind : Anchor)
  | seq (first second : Tree)
  | either (first second : Tree)
  /-- A row or alternatives kept apart from what stands around them. -/
  | scope (body : Tree)
  /-- A capturing group, by its number. -/
  | group (index : Nat) (body : Tree)
  /-- At least `least` and, if there is a bound, at most `most` rounds.  A
  greedy repetition prefers one more round, any other prefers to end. -/
  | repeated (least : Nat) (most : Option Nat) (greedy : Bool) (body : Tree)
  /-- The body matches, or does not match if not `wanted`, on one side. -/
  | look (side : Side) (wanted : Bool) (body : Tree)
  /-- The first way in which the body matches, and no other. -/
  | atomic (body : Tree)
  /-- A regular body, matched in its preferred way at once. -/
  | settled (body : Tree)
  /-- The text that a group has matched, once more.  The length is known only
  where the group has been closed before. -/
  | again (group : Nat) (anyCase : Bool) (least : Nat) (fixed : Bool)
  /-- A group has taken part in the match. -/
  | isSet (group : Nat)
  /-- One of two trees, depending on whether a condition matches before. -/
  | conditional (condition yes no : Tree)
  /-- Lets the match begin here. -/
  | beginHere
  /-- The position at which the search began.  Where a `decisive` one fails,
  the whole search does. -/
  | searchStart (decisive : Bool)

namespace Tree

def sequence : List Tree -> Tree
  | [] => empty
  | [tree] => tree
  | tree :: rest => seq tree (sequence rest)

def choice : List Tree -> Tree
  | [] => empty
  | [tree] => tree
  | tree :: rest => either tree (choice rest)

/-- The tree between parentheses without a number. -/
def enclosed : Tree -> Tree
  | seq first second => scope (seq first second)
  | either first second => scope (either first second)
  | tree => tree

/-- The tree without parentheses around it that have no number. -/
def bare : Tree -> Tree
  | scope body => body.bare
  | tree => tree

/-- The least number of characters that a tree takes up, or 0 where the tree
says nothing about it. -/
def leastLength : Tree -> Nat
  | one _ _ => 1
  | seq first second => first.leastLength + second.leastLength
  | either first second => min first.leastLength second.leastLength
  | scope body | group _ body | atomic body | settled body => body.leastLength
  | repeated least _ _ body => least * body.leastLength
  | again _ _ least _ => least
  | conditional condition yes no =>
      condition.leastLength + min yes.leastLength no.leastLength
  | empty | anchor _ | look _ _ _ | isSet _ | beginHere | searchStart _ => 0

/-- Whether a tree always takes up `leastLength` characters. -/
def hasFixedLength : Tree -> Bool
  | seq first second => first.hasFixedLength && second.hasFixedLength
  | either first second =>
      first.hasFixedLength && second.hasFixedLength &&
        first.leastLength == second.leastLength
  | scope body | group _ body | atomic body | settled body => body.hasFixedLength
  | repeated least most _ body => body.hasFixedLength && most == some least
  | again _ _ _ fixed => fixed
  | conditional condition yes no =>
      condition.hasFixedLength && yes.hasFixedLength && no.hasFixedLength &&
        condition.leastLength + yes.leastLength == no.leastLength
  | empty | one _ _ | anchor _ | look _ _ _ | isSet _ | beginHere | searchStart _ => true

/-- Whether a tree can be settled at once.  A group that is referred to cannot:
the reference may ask for another way to match it. -/
def isRegular (referenced : List Nat) : Tree -> Bool
  | empty | one _ _ => true
  | anchor kind => kind.isRegular
  | seq first second | either first second =>
      first.isRegular referenced && second.isRegular referenced
  | group index body =>
      !referenced.contains index && body.isRegular referenced
  | scope body | repeated _ _ _ body | settled body => body.isRegular referenced
  | look _ _ _ | atomic _ | again _ _ _ _ | isSet _ | conditional _ _ _ | beginHere
  | searchStart _ => false

def groups : Tree -> List Nat
  | seq first second | either first second => first.groups ++ second.groups
  | group index body => index :: body.groups
  | scope body | repeated _ _ _ body | look _ _ body | atomic body
  | settled body => body.groups
  | conditional condition yes no => condition.groups ++ yes.groups ++ no.groups
  | empty | one _ _ | anchor _ | again _ _ _ _ | isSet _ | beginHere
  | searchStart _ => []

/-- Whether the tree may be followed by a repetition sign. -/
def isRepeatable : Tree -> Bool
  | empty | look _ _ _ | isSet _ | beginHere | searchStart _ => false
  | _ => true

end Tree

end Pattern
end FencedHighlight
