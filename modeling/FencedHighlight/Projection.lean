import FencedHighlight.StyleRange
import FencedHighlight.Token

namespace FencedHighlight
namespace Projection

/-!
Projecting token trees onto a document.

Every token other than plain text gives its tag to the stretch that it covers.
The range of a composite is noted before those inside it, and is completed when
its last child has been visited.
-/

/-- Tokens still to be visited, and the index of the range that is completed
after them. -/
structure Level where
  tokens : List Token
  opened : Option Nat

/-- The number of steps that it takes to visit the levels. -/
def visits (levels : List Level) : Nat :=
  levels.foldr (fun level total => Token.visitsAll level.tokens + 1 + total) 0

/-- Visit the tokens of all levels, the innermost first, from an offset on. -/
def visit : List Level -> (offset : Nat) -> Array StyleRange -> Array StyleRange
  | [], _, ranges => ranges
  | ⟨[], opened⟩ :: outer, offset, ranges =>
      let ranges := match opened with
        | some index => ranges.modify index fun range => { range with stop := offset }
        | none => ranges
      visit outer offset ranges
  | ⟨.text content :: rest, opened⟩ :: outer, offset, ranges =>
      visit (⟨rest, opened⟩ :: outer) (offset + Text.size content) ranges
  | ⟨.leaf kind synonym content :: rest, opened⟩ :: outer, offset, ranges =>
      let stop := offset + Text.size content
      visit (⟨rest, opened⟩ :: outer) stop
        (ranges.push { start := offset, stop, tag := synonym.getD kind })
  | ⟨.composite kind synonym children :: rest, opened⟩ :: outer, offset, ranges =>
      visit (⟨children, some ranges.size⟩ :: ⟨rest, opened⟩ :: outer) offset
        (ranges.push { start := offset, stop := offset, tag := synonym.getD kind })
termination_by levels => visits levels
decreasing_by
  all_goals
    simp only [visits, List.foldr_cons, Token.visitsAll, Token.visits]
    omega

/-- The ranges of a token tree whose text begins at the offset `base`. -/
def project (tokens : List Token) (base : Nat) : List StyleRange :=
  let ranges := visit [⟨tokens, none⟩] base #[]
  StyleRange.sort (ranges.toList.filter fun range => !range.isEmpty)

end Projection
end FencedHighlight
