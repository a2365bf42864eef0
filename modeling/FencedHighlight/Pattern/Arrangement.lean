import FencedHighlight.Pattern.Limit

namespace FencedHighlight
namespace Pattern
namespace Tree

/-!
Arranging a tree for matching.

Regular parts of a tree are settled: the machine finds the preferred way to
match such a part once, never asks for another, and does not count its work.
Where nothing depends on the way in which a tree matches, any regular part will
do.  Elsewhere only parts of a fixed length are settled, and only in a row at
the start or at the end of a sequence.
-/

/-- Where a tree stands in the tree around it. -/
inductive Place where
  /-- A part of its own.  If it is `free`, nothing that follows depends on the
  way in which it matches. -/
  | part (free : Bool)
  /-- The rest of a sequence that is `free` or not.  `leading` says that all
  its parts up to here have been settled. -/
  | rest (free leading : Bool)
  /-- The alternatives of a look-behind, each of which looks on its own. -/
  | behind (wanted : Bool)

namespace Place

/-- Whether a regular tree in this place is settled as a whole. -/
def settles : Place -> Bool
  | part free => free
  | rest _ _ | behind _ => false

/-- Whether a sequence in this place is free. -/
def isFree : Place -> Bool
  | part free | rest free _ => free
  | behind _ => false

/-- Whether a sequence in this place begins, or continues a settled row. -/
def isLeading : Place -> Bool
  | rest _ leading => leading
  | part _ | behind _ => true

end Place

def isChoice : Tree -> Bool
  | either _ _ => true
  | _ => false

/-- Whether a tree has been settled as a whole. -/
def isSettled : Tree -> Bool
  | settled _ => true
  | _ => false

/-- Settle the parts of a tree that can be settled.  A look-behind for
alternatives of different lengths becomes one for each: any of them will do if
the tree is wanted, and none may match if it is not. -/
def arrange (referenced : List Nat) : Tree -> Place -> Tree
  | seq first second, place =>
      if place.settles && (seq first second).isRegular referenced then
        settled (seq first second)
      else
        let begins := place.isLeading && first.isRegular referenced &&
          first.hasFixedLength
        let head := if begins then settled first
          else first.arrange referenced (.part false)
        let tail :=
          if second.isRegular referenced && (place.isFree || second.hasFixedLength) then
            settled second
          else
            second.arrange referenced (.rest place.isFree begins)
        seq head tail
  | either first second, .behind wanted =>
      let sooner := look .behind wanted (first.arrange referenced (.part true))
      let later :=
        if second.isChoice then second.arrange referenced (.behind wanted)
        else look .behind wanted (second.arrange referenced (.part true))
      if wanted then either sooner later else seq sooner later
  | either first second, place =>
      if place.settles && (either first second).isRegular referenced then
        settled (either first second)
      else
        either (first.arrange referenced (.part place.settles))
          (second.arrange referenced (.part place.settles))
  | scope body, place =>
      if place.settles && body.isRegular referenced then settled body
      else scope (body.arrange referenced (.part place.settles))
  | group index body, place =>
      if place.settles && (group index body).isRegular referenced then
        settled (group index body)
      else
        group index (body.arrange referenced (.part place.settles))
  | repeated least most greedy body, place =>
      if place.settles && body.isRegular referenced then
        settled (repeated least most greedy body)
      else
        let once := least == 0 && most == some 1
        repeated least most greedy
          (body.arrange referenced (.part (place.settles && once)))
  | look .ahead wanted body, _ =>
      look .ahead wanted (body.arrange referenced (.part true))
  | look .behind wanted body, _ =>
      if body.isChoice && !body.hasFixedLength then
        body.arrange referenced (.behind wanted)
      else
        look .behind wanted (body.arrange referenced (.part true))
  | atomic body, _ => atomic (body.arrange referenced (.part true))
  | conditional condition yes no, place =>
      conditional (condition.arrange referenced (.part place.settles))
        (yes.arrange referenced (.part place.settles))
        (no.arrange referenced (.part place.settles))
  | tree, place =>
      if place.settles && tree.isRegular referenced then settled tree else tree

/-- Whether an arranged tree can be compiled.  Settled parts must be within the
limits, and a tree that is looked for behind the position must be of a fixed
length or settled. -/
def isCompilable : Tree -> Bool
  | one _ nesting => nesting ≤ deepestWriting
  | seq first second | either first second => first.isCompilable && second.isCompilable
  | scope body | group _ body | repeated _ _ _ body | atomic body => body.isCompilable
  | look .ahead _ body => body.isCompilable
  | look .behind _ body => body.isCompilable && (body.hasFixedLength || body.isSettled)
  | settled body => body.isAdmissible .alternative
  | conditional condition yes no =>
      condition.isCompilable && yes.isCompilable && no.isCompilable
  | empty | anchor _ | again _ _ _ _ | isSet _ | beginHere | searchStart _ => true

end Tree
end Pattern
end FencedHighlight
