import FencedHighlight.Proofs.Pattern.Evaluation
import FencedHighlight.Proofs.Pattern.Span
import FencedHighlight.Proofs.Text.Leftmost

namespace FencedHighlight
namespace Pattern

/-!
Patterns whose searches report leftmost matches.

For most patterns the match at a place has nothing to do with where the search began, and
a search reports the leftmost of these matches.  A literal is found that way in every
text.  A pattern that asks where the search began, or moves the beginning of its match, may
do otherwise.
-/

variable {pattern : Pattern} {text wanted rest : Text} {offset : Nat}

/-- The match of a pattern at a place, if a search from there reports one there. -/
def matchAt? (pattern : Pattern) (text : Text) : (place : Nat) -> Option Found :=
  Text.at? (fun found => found.span.start) (pattern.search? text)

/-- A match at a place is a stretch that begins there. -/
theorem span_of_matchAt? {place : Nat} {found : Found}
    (there : pattern.matchAt? text place = some found) :
    found.span.start = place ∧ Text.isBoundary text place = true ∧
      Text.isBoundary text found.span.stop = true := by
  rcases (Text.at?_eq_some_iff).mp there with ⟨searched, rfl⟩
  have ends := span_of_search? searched
  exact ⟨rfl, ends.1, ends.2.1⟩

/-- Whether the searches of a text for a pattern report its leftmost matches. -/
def SearchesLeftmost (pattern : Pattern) (text : Text) : Prop :=
  Text.SearchesLeftmost text (fun found => found.span.start) (pattern.search? text)

theorem SearchesLeftmost.find? (leftmost : pattern.SearchesLeftmost text) :
    Text.SearchesLeftmost text Span.start (pattern.find? text) :=
  Text.SearchesLeftmost.map leftmost fun _ => rfl

/-- Whether the searches of one text for a pattern report its leftmost matches. -/
def checksLeftmost (pattern : Pattern) (text : Text) : Bool :=
  (List.range (Text.size text + 1)).all fun offset =>
    !Text.isBoundary text offset ||
      decide (pattern.searchListed? text offset = Text.leftmost? text
        (Text.at? (fun found => found.span.start) (pattern.searchListed? text)) offset)

theorem searchesLeftmost_of_checks (checked : pattern.checksLeftmost text = true) :
    pattern.SearchesLeftmost text := by
  rw [SearchesLeftmost, search?_eq_searchListed?]
  exact Text.SearchesLeftmost.of_all checked

/-! ## Literals -/

/-- A literal that stands at a place. -/
def literalAt? (wanted text : Text) (place : Nat) : Option Found :=
  (Text.cut? text place).bind fun parts =>
    if wanted.isPrefixOf parts.2 then
      some ⟨⟨place, place + Text.size wanted⟩, none⟩
    else
      none

theorem placed_literalAt? (wanted text : Text) :
    Text.Placed (fun found => found.span.start) (literalAt? wanted text) := by
  intro place found stands
  rcases Option.bind_eq_some_iff.mp stands with ⟨parts, _, later⟩
  split at later
  · rcases Option.some.inj later with rfl
    rfl
  · cases later

theorem literalAt?_append (wanted before rest : Text) :
    literalAt? wanted (before ++ rest) (Text.size before) =
      if wanted.isPrefixOf rest then
        some ⟨⟨Text.size before, Text.size before + Text.size wanted⟩, none⟩
      else
        none := by
  rw [literalAt?, Text.cut?_append, Option.bind_some]

/-- The search for a literal goes on with the next character where it does not stand. -/
theorem findLiteral_eq_leftmost? (before : Text) :
    (findLiteral wanted (Text.size before) rest).map
        (fun place => (⟨⟨place, place + Text.size wanted⟩, none⟩ : Found)) =
      Text.leftmost? (before ++ rest) (literalAt? wanted (before ++ rest)) (Text.size before) := by
  have boundary := Text.isBoundary_append before rest
  induction rest generalizing before with
  | nil =>
      have here := literalAt?_append wanted before []
      cases wanted with
      | nil => exact (Text.isLeftmost_self boundary here).leftmost?.symm
      | cons first wanted =>
          rw [List.append_nil] at here ⊢
          exact (Text.leftmost?_size here).symm
  | cons char rest ih =>
      have here := literalAt?_append wanted before (char :: rest)
      rw [findLiteral]
      by_cases stands : wanted.isPrefixOf (char :: rest) = true
      · rw [if_pos stands] at here ⊢
        exact (Text.isLeftmost_self boundary here).leftmost?.symm
      · rw [if_neg stands] at here ⊢
        have onwards := ih (before ++ [char]) (Text.isBoundary_append _ rest)
        rw [List.append_assoc, List.singleton_append, Text.size_append, Text.size_cons,
          Text.size_nil, Nat.add_zero] at onwards
        rw [onwards, Text.leftmost?_append_cons here]

/-- In every text the searches for a literal report where it stands. -/
theorem searchesLeftmost_literal (wanted text : Text) :
    (literal wanted).SearchesLeftmost text := by
  refine Text.searchesLeftmost_of_eq (placed_literalAt? wanted text) fun offset boundary => ?_
  rcases (Text.isBoundary_iff).mp boundary with ⟨before, rest, rfl, rfl⟩
  rw [← findLiteral_eq_leftmost?, search?, Text.cut?_append]
  cases found : findLiteral wanted (Text.size before) rest <;> simp [found]

end Pattern
end FencedHighlight
