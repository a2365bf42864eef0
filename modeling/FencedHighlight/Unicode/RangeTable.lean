namespace FencedHighlight
namespace Unicode

/-!
Sets of characters as tables of code points.

A table lists, in increasing order, the code points at which membership
changes: the first entry enters the set, the second leaves it, and so on.  A
code point is a member exactly if an odd number of entries lie at or below it.

Several tables together describe the characters that an odd number of them
contains.  That is the union of tables that share no character, and what is
left of a table when parts of it are listed again.
-/

/-- A set of code points, given by the points where membership changes. -/
structure RangeTable where
  boundaries : Array Nat

namespace RangeTable

/-- The number of entries at or below `code` in the sorted stretch between the
indexes `low` and `high`, counted from the start of the table.  Every step
halves the stretch. -/
def rank (entries : Array Nat) (code : Nat) : (steps low high : Nat) -> Nat
  | 0, low, _ => low
  | steps + 1, low, high =>
      if low < high then
        let middle := (low + high) / 2
        if entries[middle]?.any (· ≤ code) then
          rank entries code steps (middle + 1) high
        else
          rank entries code steps low middle
      else
        low

def containsCode (table : RangeTable) (code : Nat) : Bool :=
  let entries := table.boundaries
  rank entries code entries.size 0 entries.size % 2 == 1

def contains (table : RangeTable) (char : Char) : Bool :=
  table.containsCode char.toNat

/-- Whether an odd number of tables contains a character. -/
def oddlyContain (tables : List RangeTable) (char : Char) : Bool :=
  tables.foldl (fun odd table => odd != table.contains char) false

end RangeTable

end Unicode
end FencedHighlight
