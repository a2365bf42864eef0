import FencedHighlight.Proofs.Tokenizer.Tiling
import FencedHighlight.Registry

namespace FencedHighlight
namespace Tokenizer

/-!
Tokenizing covers the text and gives a tree in canonical form.

At any time the innermost frame tiles its text up to its cursor.  Every other
frame tiles its text up to a match that it has passed already, whose content is
the text of the frame inside it.  So closing a frame fills the gap in the frame
around it exactly.
-/

variable {scope : Scope} {root : GrammarId} {whole : Text}

/-- What the frames around a frame with this grammar, text and label are waiting
for.  The outermost one tokenizes the whole text with the root grammar. -/
inductive Waiting (scope : Scope) (root : GrammarId) (whole : Text) :
    GrammarId -> Text -> Option Label -> List Frame -> Prop where
  | outermost : Waiting scope root whole root whole none []
  | inside {grammar : GrammarId} {content : Text} {parent : Frame} {below : List Frame}
      {candidate : Candidate}
      (tiling : Tiling scope parent.grammar parent.text candidate.found.contentStart
        parent.tokens)
      (matched : Matched scope parent.grammar parent.text candidate content)
      (resolved : scope.inner? candidate.rule = .ok (some grammar))
      (passed : parent.cursor = candidate.found.stop)
      (outer : Waiting scope root whole parent.grammar parent.text parent.label below) :
      Waiting scope root whole grammar content
        (some ⟨candidate.name, candidate.rule.synonym⟩) (parent :: below)

/-- All frames of a state tile their texts. -/
structure State.Tiled (scope : Scope) (root : GrammarId) (whole : Text) (state : State) :
    Prop where
  tiling : Tiling scope state.top.grammar state.top.text state.top.cursor state.top.tokens
  waiting : Waiting scope root whole state.top.grammar state.top.text state.top.label
    state.below

/-- A step leads to a state whose frames tile their texts, or to tokens that
tile the whole text. -/
def Step.Tiled (scope : Scope) (root : GrammarId) (whole : Text) : Step -> Prop
  | .running state => state.Tiled scope root whole
  | .done tokens => Tiling scope root whole (Text.size whole) tokens.reverse

/-- A frame that has reached the end of its text can be closed. -/
theorem tiled_close {state : State} (tiled : state.Tiled scope root whole)
    (complete : state.top.cursor = Text.size state.top.text) :
    (close state).Tiled scope root whole := by
  rcases state with ⟨top, below⟩
  rcases tiled with ⟨tiling, waiting⟩
  simp only at complete tiling waiting
  rw [complete] at tiling
  unfold close
  generalize labelled : top.label = label at waiting
  generalize grammarOf : top.grammar = grammar at waiting tiling
  generalize textOf : top.text = text at waiting tiling
  cases waiting with
  | outermost =>
      simp only [Step.Tiled, List.reverse_reverse]
      exact tiling
  | @inside _ _ parent below candidate before matched resolved passed outer =>
      constructor
      · have extended := Tiling.composite before matched resolved tiling
        rw [← passed] at extended
        exact extended
      · exact outer

/-- Plain text up to the start of a content leaves nothing out. -/
theorem State.Tiled.ahead {state : State} (tiled : state.Tiled scope root whole)
    {candidate : Candidate} {before content : Text}
    (taken : Taken scope state.top candidate before content) :
    Tiling scope state.top.grammar state.top.text candidate.found.contentStart
      (Token.pushText state.top.tokens before) :=
  tiled.tiling.pushText taken.ahead

theorem Taken.matched {frame : Frame} {candidate : Candidate} {before content : Text}
    (taken : Taken scope frame candidate before content) :
    Matched scope frame.grammar frame.text candidate content := by
  have order := Text.size_of_slice? taken.ahead
  exact ⟨⟨frame.cursor, by omega, taken.chosen⟩, taken.inside⟩

/-- Every move keeps the tilings. -/
theorem tiled_of_move {state : State} {next : Step} (tiled : state.Tiled scope root whole)
    (move : Move scope state next) : next.Tiled scope root whole := by
  cases move with
  | finish exhausted =>
      have within := tiled.tiling.offset_le
      exact tiled_close tiled (by omega)
  | finishPlain rest unfinished unmatched left =>
      have complete : State.Tiled scope root whole
          { state with top := state.top.advance rest (Text.size state.top.text) } :=
        ⟨tiled.tiling.pushText left, tiled.waiting⟩
      exact tiled_close complete rfl
  | leaf candidate before content taken plain =>
      exact ⟨.leaf (tiled.ahead taken) taken.matched, tiled.waiting⟩
  | descend candidate before content grammar taken resolved fresh =>
      refine ⟨.start grammar content, ?_⟩
      exact .inside (tiled.ahead taken) taken.matched resolved rfl tiled.waiting

/-- The tokens of a text tile it. -/
theorem tiling_of_tokenize {tokens : List Token}
    (ends : tokenize scope root whole = .ok tokens) :
    Tiling scope root whole (Text.size whole) tokens.reverse := by
  have start : State.Tiled scope root whole ⟨{ grammar := root, text := whole }, []⟩ :=
    ⟨.start root whole, .outermost⟩
  exact result_of_run? (fun _ _ => tiled_of_move) (fun _ _ => tiled_of_move) start
    (run?_of_tokenize ends)

/-- The leaves of a tree make up the text. -/
theorem textOf_of_tokenize {tokens : List Token}
    (ends : tokenize scope root whole = .ok tokens) : Token.textOf tokens = whole := by
  have covered := (tiling_of_tokenize ends).textOf_eq
  rwa [List.reverse_reverse] at covered

theorem sizeOf_of_tokenize {tokens : List Token}
    (ends : tokenize scope root whole = .ok tokens) :
    Token.sizeOf tokens = Text.size whole := by
  rw [Token.sizeOf_eq_size_textOf, textOf_of_tokenize ends]

/-- If tokenizing gives a tree at all, the tree covers the text, has no empty
leaf, and is in canonical form at every depth. -/
theorem tokenize_covers {tokens : List Token}
    (ends : tokenize scope root whole = .ok tokens) :
    Token.textOf tokens = whole ∧ Token.sizeOf tokens = Text.size whole ∧
      (∀ leaf ∈ Token.leaves tokens, leaf.ownText ≠ []) ∧
      (∀ siblings, Token.Siblings tokens siblings -> Canonical scope siblings) ∧
      Tiling scope root whole (Text.size whole) tokens.reverse := by
  have tiling := tiling_of_tokenize ends
  have filled := tiling.leaf_nonempty
  rw [List.reverse_reverse] at filled
  refine ⟨textOf_of_tokenize ends, sizeOf_of_tokenize ends, filled, ?_, tiling⟩
  intro siblings listed
  apply tiling.canonical
  rwa [List.reverse_reverse]

/-- A registry with one grammar, which embeds itself between parentheses. -/
def nesting : Registry :=
  Registry.register {} "nest" (Grammar.empty.insert "group"
    [Registry.embeddingRule (Delimiters.pair "(" ")") "nest"])

/-- The tokens of a text with an empty region, a region in a region and an
opening that is never closed. -/
def nestedTokens : List Token :=
  let tag := some (Registry.languageTag "nest")
  [.text "a()(".toList,
    .composite "group" tag
      [.text ['('], .composite "group" tag [.text ['x']], .text [')']],
    .text ")(".toList]

theorem tokenize_covers_nested :
    tokenize nesting.scope 0 "a()((x))(".toList = .ok nestedTokens ∧
      Token.textOf nestedTokens = "a()((x))(".toList ∧
      (∀ siblings, Token.Siblings nestedTokens siblings ->
        Canonical nesting.scope siblings) := by
  have ends : tokenize nesting.scope 0 "a()((x))(".toList = .ok nestedTokens := by rfl
  have covers := tokenize_covers ends
  exact ⟨ends, covers.1, covers.2.2.2.1⟩

end Tokenizer
end FencedHighlight
