import Mathlib.Data.List.Chain
import FencedHighlight.Proofs.Token.Leaves
import FencedHighlight.Proofs.Tokenizer.Move

namespace FencedHighlight

/-!
Token trees tile their texts.

The tokens of a frame cover its text up to the cursor without gaps and without
overlaps: plain text, leaves and composites follow one another, each matched
token covers the content of its match, and plain text never follows plain text.
`Tokenizer.Tiling` is this relation.  A run keeps it for every frame on the
stack, together with the promise that each frame covers exactly the content
that the frame around it is waiting for.  Nothing is assumed of what the rules
report.
-/

namespace Token

/-- No plain text next to plain text. -/
def Separated (siblings : List Token) : Prop :=
  siblings.IsChain fun first second => first.isText = false ∨ second.isText = false

end Token

namespace Tokenizer

/-- The content of a match: the candidate is what the rules of the grammar give
at some cursor in the text that is not beyond the content. -/
structure Matched (scope : Scope) (grammar : GrammarId) (text : Text)
    (candidate : Candidate) (content : Text) : Prop where
  chosen : ∃ cursor, cursor ≤ candidate.found.contentStart ∧
    next? scope.find (scope.store.get grammar) text cursor = some candidate
  slice : Text.slice? text candidate.found.contentStart candidate.found.stop = some content

theorem Matched.nonempty {scope : Scope} {grammar : GrammarId} {text content : Text}
    {candidate : Candidate} (matched : Matched scope grammar text candidate content) :
    content ≠ [] := by
  rcases matched.chosen with ⟨cursor, _, chosen⟩
  exact Text.ne_nil_of_slice? (content_of_next? chosen) matched.slice

/-- Tokens that cover a text up to an offset, the newest first. -/
inductive Tiling (scope : Scope) :
    GrammarId -> Text -> (offset : Nat) -> (tokens : List Token) -> Prop where
  | start (grammar : GrammarId) (text : Text) : Tiling scope grammar text 0 []
  | text {grammar : GrammarId} {text content : Text} {start stop : Nat} {tokens : List Token}
      (before : Tiling scope grammar text start tokens)
      (apart : ∀ token ∈ tokens.head?, token.isText = false)
      (slice : Text.slice? text start stop = some content) (nonempty : content ≠ []) :
      Tiling scope grammar text stop (.text content :: tokens)
  | leaf {grammar : GrammarId} {text content : Text} {candidate : Candidate}
      {tokens : List Token}
      (before : Tiling scope grammar text candidate.found.contentStart tokens)
      (matched : Matched scope grammar text candidate content) :
      Tiling scope grammar text candidate.found.stop
        (.leaf candidate.name candidate.rule.synonym content :: tokens)
  | composite {grammar inner : GrammarId} {text content : Text} {candidate : Candidate}
      {tokens children : List Token}
      (before : Tiling scope grammar text candidate.found.contentStart tokens)
      (matched : Matched scope grammar text candidate content)
      (resolved : scope.inner? candidate.rule = .ok (some inner))
      (inside : Tiling scope inner content (Text.size content) children) :
      Tiling scope grammar text candidate.found.stop
        (.composite candidate.name candidate.rule.synonym children.reverse :: tokens)

namespace Tiling

variable {scope : Scope} {grammar : GrammarId} {text : Text} {offset : Nat}
  {tokens : List Token}

/-- The text of the tokens is the part of the text that they cover. -/
theorem slice (tiling : Tiling scope grammar text offset tokens) :
    Text.slice? text 0 offset = some (Token.textOf tokens.reverse) := by
  induction tiling with
  | start grammar text =>
      rw [List.reverse_nil, Token.textOf_nil]
      exact Text.slice?_zero text
  | text before apart slice nonempty ih =>
      rw [List.reverse_cons, Token.textOf_append, Token.textOf_text]
      exact Text.slice?_append ih slice
  | leaf before matched ih =>
      rw [List.reverse_cons, Token.textOf_append, Token.textOf_leaf]
      exact Text.slice?_append ih matched.slice
  | composite before matched resolved inside ih ihInside =>
      rw [Text.slice?_whole] at ihInside
      rw [List.reverse_cons, Token.textOf_append, Token.textOf_composite,
        ← Option.some.inj ihInside]
      exact Text.slice?_append ih matched.slice

/-- Tokens that reach the end of the text cover it. -/
theorem textOf_eq (tiling : Tiling scope grammar text (Text.size text) tokens) :
    Token.textOf tokens.reverse = text := by
  have covered := tiling.slice
  rw [Text.slice?_whole] at covered
  exact (Option.some.inj covered).symm

/-- The tokens are as large as the part of the text that they cover. -/
theorem sizeOf_eq (tiling : Tiling scope grammar text offset tokens) :
    Token.sizeOf tokens.reverse = offset := by
  have extent := Text.size_of_slice? tiling.slice
  rw [Token.sizeOf_eq_size_textOf]
  omega

theorem offset_le (tiling : Tiling scope grammar text offset tokens) :
    offset ≤ Text.size text :=
  Text.le_size_of_slice? tiling.slice

/-- Plain text goes on with the plain text before it. -/
theorem pushText (tiling : Tiling scope grammar text offset tokens) {stop : Nat}
    {content : Text} (slice : Text.slice? text offset stop = some content) :
    Tiling scope grammar text stop (Token.pushText tokens content) := by
  cases content with
  | nil =>
      have same : offset = stop := Text.size_of_slice? slice
      subst same
      exact tiling
  | cons char rest =>
      have nonempty : char :: rest ≠ [] := List.cons_ne_nil _ _
      cases tiling with
      | start => exact .text (.start grammar text) (by simp) slice nonempty
      | text before apart earlier filled =>
          exact .text before apart (Text.slice?_append earlier slice) (by simp)
      | leaf before matched =>
          exact .text (.leaf before matched) (by simp [Token.isText]) slice nonempty
      | composite before matched resolved inside =>
          exact .text (.composite before matched resolved inside) (by simp [Token.isText])
            slice nonempty

/-- No leaf is empty. -/
theorem leaf_nonempty (tiling : Tiling scope grammar text offset tokens) :
    ∀ leaf ∈ Token.leaves tokens.reverse, leaf.ownText ≠ [] := by
  induction tiling with
  | start => simp
  | text before apart slice nonempty ih =>
      intro leaf member
      rw [List.reverse_cons, Token.leaves_append, Token.leaves_text] at member
      rcases List.mem_append.mp member with earlier | last
      · exact ih leaf earlier
      · rw [List.mem_singleton.mp last]
        exact nonempty
  | leaf before matched ih =>
      intro leaf member
      rw [List.reverse_cons, Token.leaves_append, Token.leaves_leaf] at member
      rcases List.mem_append.mp member with earlier | last
      · exact ih leaf earlier
      · rw [List.mem_singleton.mp last]
        exact matched.nonempty
  | composite before matched resolved inside ih ihInside =>
      intro leaf member
      rw [List.reverse_cons, Token.leaves_append, Token.leaves_composite] at member
      rcases List.mem_append.mp member with earlier | below
      · exact ih leaf earlier
      · exact ihInside leaf below

/-- A composite is never without children. -/
theorem nonempty (tiling : Tiling scope grammar text (Text.size text) tokens)
    (filled : text ≠ []) : tokens.reverse ≠ [] := by
  intro none
  have covered := tiling.textOf_eq
  rw [none, Token.textOf_nil] at covered
  exact filled covered.symm

/-- Plain text never follows plain text. -/
theorem separated (tiling : Tiling scope grammar text offset tokens) :
    Token.Separated tokens.reverse := by
  unfold Token.Separated
  rw [List.isChain_reverse]
  induction tiling with
  | start => exact List.IsChain.nil
  | text before apart slice nonempty ih =>
      exact List.isChain_cons.mpr ⟨fun token first => Or.inl (apart token first), ih⟩
  | leaf before matched ih =>
      exact List.isChain_cons.mpr ⟨fun token first => Or.inr rfl, ih⟩
  | composite before matched resolved inside ih ihInside =>
      exact List.isChain_cons.mpr ⟨fun token first => Or.inr rfl, ih⟩

end Tiling

/-- The children of a composite cover the content of a match of its rule. -/
def CoversMatch (scope : Scope) (kind : String) (synonym : Option String)
    (children : List Token) : Prop :=
  ∃ grammar text candidate, kind = candidate.name ∧ synonym = candidate.rule.synonym ∧
    Matched scope grammar text candidate (Token.textOf children)

/-- What holds of every list of siblings in a tree: plain text is merged, and
composites have children, which cover the contents of their matches. -/
structure Canonical (scope : Scope) (siblings : List Token) : Prop where
  separated : Token.Separated siblings
  composite : ∀ kind synonym children, .composite kind synonym children ∈ siblings ->
    children ≠ [] ∧ CoversMatch scope kind synonym children

namespace Tiling

variable {scope : Scope} {grammar : GrammarId} {text : Text} {offset : Nat}
  {tokens : List Token}

/-- The composites among the tokens, each with a tiling of its own. -/
theorem inside_of_mem (tiling : Tiling scope grammar text offset tokens) {kind : String}
    {synonym : Option String} {children : List Token}
    (member : .composite kind synonym children ∈ tokens) :
    ∃ candidate content inner, kind = candidate.name ∧ synonym = candidate.rule.synonym ∧
      Matched scope grammar text candidate content ∧
      Tiling scope inner content (Text.size content) children.reverse := by
  induction tiling with
  | start => cases member
  | text before apart slice nonempty ih =>
      rcases List.mem_cons.mp member with same | earlier
      · cases same
      · exact ih earlier
  | leaf before matched ih =>
      rcases List.mem_cons.mp member with same | earlier
      · cases same
      · exact ih earlier
  | @composite grammar inner text content candidate tokens reversed before matched resolved
      inside ih ihInside =>
      rcases List.mem_cons.mp member with same | earlier
      · cases same
        exact ⟨candidate, content, inner, rfl, rfl, matched, by rwa [List.reverse_reverse]⟩
      · exact ih earlier

/-- Siblings at every depth are a tiling of some text. -/
theorem of_siblings (tiling : Tiling scope grammar text offset tokens)
    {siblings : List Token} (listed : Token.Siblings tokens.reverse siblings) :
    ∃ grammar text offset, Tiling scope grammar text offset siblings.reverse := by
  induction listed with
  | roots => exact ⟨grammar, text, offset, by rwa [List.reverse_reverse]⟩
  | children outer member ih =>
      rcases ih with ⟨grammar, text, offset, around⟩
      rcases around.inside_of_mem (List.mem_reverse.mpr member) with
        ⟨candidate, content, inner, _, _, _, inside⟩
      exact ⟨inner, content, Text.size content, inside⟩

/-- Siblings at every depth are in canonical form. -/
theorem canonical (tiling : Tiling scope grammar text offset tokens)
    {siblings : List Token} (listed : Token.Siblings tokens.reverse siblings) :
    Canonical scope siblings := by
  rcases tiling.of_siblings listed with ⟨grammar, text, offset, around⟩
  constructor
  · have apart := around.separated
    rwa [List.reverse_reverse] at apart
  · intro kind synonym children member
    rcases around.inside_of_mem (List.mem_reverse.mpr member) with
      ⟨candidate, content, inner, named, styled, matched, inside⟩
    have filled := inside.nonempty matched.nonempty
    have covered := inside.textOf_eq
    rw [List.reverse_reverse] at filled covered
    rw [← covered] at matched
    exact ⟨filled, grammar, text, candidate, named, styled, matched⟩

end Tiling

end Tokenizer
end FencedHighlight
