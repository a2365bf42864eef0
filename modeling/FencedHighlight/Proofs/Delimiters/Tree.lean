import FencedHighlight.Proofs.Delimiters.Structure
import FencedHighlight.Proofs.Token.Leaves

namespace FencedHighlight

/-!
Trees that follow the brackets of a text.

The first pair of brackets with some text between them divides a text.  What is before
the text inside is plain, the text inside has a tree of its own, and another tree follows
from the closing on.  Such a tree has a composite for each pair, which is nested exactly as
deep as the pair is.
-/

namespace Token

/-- Whether a composite lies between two offsets of some tokens, inside `depth` others. -/
inductive CompositeAt : List Token -> (depth start stop : Nat) -> Prop where
  | here {kind : String} {synonym : Option String} {children rest : List Token} :
      CompositeAt (.composite kind synonym children :: rest) 0 0 (sizeOf children)
  | inside {kind : String} {synonym : Option String} {children rest : List Token}
      {depth start stop : Nat} (below : CompositeAt children depth start stop) :
      CompositeAt (.composite kind synonym children :: rest) (depth + 1) start stop
  | behind {token : Token} {rest : List Token} {depth start stop : Nat}
      (later : CompositeAt rest depth start stop) :
      CompositeAt (token :: rest) depth (sizeOf [token] + start) (sizeOf [token] + stop)

variable {depth start stop : Nat}

theorem not_compositeAt_nil : ¬ CompositeAt [] depth start stop := by
  intro impossible
  cases impossible

theorem compositeAt_text_iff {content : Text} {rest : List Token} :
    CompositeAt (.text content :: rest) depth start stop ↔
      ∃ start' stop', CompositeAt rest depth start' stop' ∧
        start = Text.size content + start' ∧ stop = Text.size content + stop' := by
  constructor
  · intro composite
    cases composite with
    | behind later => exact ⟨_, _, later, by rw [sizeOf_text], by rw [sizeOf_text]⟩
  · rintro ⟨start', stop', later, rfl, rfl⟩
    rw [← sizeOf_text content]
    exact .behind later

theorem compositeAt_composite_iff {kind : String} {synonym : Option String}
    {children rest : List Token} :
    CompositeAt (.composite kind synonym children :: rest) depth start stop ↔
      (depth = 0 ∧ start = 0 ∧ stop = sizeOf children) ∨
      (∃ less, depth = less + 1 ∧ CompositeAt children less start stop) ∨
      ∃ start' stop', CompositeAt rest depth start' stop' ∧
        start = sizeOf children + start' ∧ stop = sizeOf children + stop' := by
  constructor
  · intro composite
    cases composite with
    | here => exact Or.inl ⟨rfl, rfl, rfl⟩
    | inside below => exact Or.inr (Or.inl ⟨_, rfl, below⟩)
    | behind later =>
        exact Or.inr (Or.inr ⟨_, _, later, by rw [sizeOf_composite], by rw [sizeOf_composite]⟩)
  · rintro (⟨rfl, rfl, rfl⟩ | ⟨less, rfl, below⟩ | ⟨start', stop', later, rfl, rfl⟩)
    · exact .here
    · exact .inside below
    · rw [← sizeOf_composite kind synonym children]
      exact .behind later

end Token

namespace Brackets

/-- Whether tokens are the tree of a text by its brackets, with composites of one tag. -/
inductive BracketTree (opening closing : Char) (tag : String) : Text -> List Token -> Prop where
  | empty : BracketTree opening closing tag [] []
  | plain {text : Text} (present : text ≠ [])
      (unpaired : ∀ start stop, ¬ Filled opening closing text start stop) :
      BracketTree opening closing tag text [.text text]
  | pair {text before inner after : Text} {children rest : List Token}
      (first : FirstPair opening closing text before inner after)
      (inside : BracketTree opening closing tag inner children)
      (behind : BracketTree opening closing tag (closing :: after) rest) :
      BracketTree opening closing tag text
        (.text (before ++ [opening]) :: .composite tag (some tag) children :: rest)

variable {opening closing : Char} {tag : String} {text : Text} {tokens : List Token}

/-- Every text has such a tree. -/
theorem exists_bracketTree (distinct : opening ≠ closing) (tag : String) (text : Text) :
    ∃ tokens, BracketTree opening closing tag text tokens := by
  induction extent : text.length using Nat.strongRecOn generalizing text with
  | ind length ih =>
      rcases firstPair_cases distinct text with unpaired | ⟨before, inner, after, first⟩
      · by_cases present : text = []
        · rw [present]
          exact ⟨[], .empty⟩
        · exact ⟨_, .plain present unpaired⟩
      · have lengths := congrArg List.length first.split
        simp only [List.length_append, List.length_cons] at lengths
        have shorter : (closing :: after).length < length := by
          rw [List.length_cons]
          have nonempty := List.length_pos_iff.mpr first.filled
          omega
        rcases ih inner.length (by omega) inner rfl with ⟨children, inside⟩
        rcases ih _ shorter (closing :: after) rfl with ⟨rest, behind⟩
        exact ⟨_, .pair first inside behind⟩

namespace BracketTree

/-- Nothing of the text is left out. -/
theorem textOf_eq (tree : BracketTree opening closing tag text tokens) :
    Token.textOf tokens = text := by
  induction tree with
  | empty => exact Token.textOf_nil
  | plain present unpaired => exact Token.textOf_text _
  | @pair text before inner after children rest first inside behind ihInside ihBehind =>
      rw [Token.textOf_cons, Token.textOf_text, Token.textOf_cons, Token.textOf_composite,
        ihInside, ihBehind, List.append_assoc, List.singleton_append, ← first.split]

theorem sizeOf_eq (tree : BracketTree opening closing tag text tokens) :
    Token.sizeOf tokens = Text.size text := by
  rw [Token.sizeOf_eq_size_textOf, tree.textOf_eq]

/-- The composites of a tree are the pairs of brackets with some text between them, as far
inside each other as the pairs are. -/
theorem compositeAt_iff (distinct : opening ≠ closing)
    (tree : BracketTree opening closing tag text tokens) {depth start stop : Nat} :
    Token.CompositeAt tokens depth start stop ↔
      ∃ opened, Filled opening closing text opened stop ∧ start = opened + opening.utf8Size ∧
        (around opening closing text opened stop).encard = depth := by
  induction tree generalizing depth start stop with
  | empty =>
      constructor
      · intro composite
        exact (Token.not_compositeAt_nil composite).elim
      · rintro ⟨opened, pair, _⟩
        exact absurd pair.stop_lt (Nat.not_lt_zero stop)
  | plain present unpaired =>
      constructor
      · intro composite
        rcases (Token.compositeAt_text_iff).mp composite with ⟨_, _, impossible, _⟩
        exact (Token.not_compositeAt_nil impossible).elim
      · rintro ⟨opened, pair, _⟩
        exact (unpaired opened stop pair).elim
  | @pair text before inner after children rest first inside behind ihInside ihBehind =>
      have head : Text.size (before ++ [opening]) = Text.size before + opening.utf8Size := by
        rw [Text.size_append, Text.size_cons, Text.size_nil, Nat.add_zero]
      -- both sides fall into the first pair, what is inside it, and what is behind it
      rw [Token.compositeAt_text_iff]
      simp only [Token.compositeAt_composite_iff, inside.sizeOf_eq, head, ihInside, ihBehind]
      constructor
      · rintro ⟨start', stop', composite, rfl, rfl⟩
        rcases composite with ⟨rfl, rfl, rfl⟩ | ⟨less, rfl, opened, pair, rfl, depths⟩ |
          ⟨start', stop', ⟨opened, pair, rfl, depths⟩, rfl, rfl⟩
        · refine ⟨Text.size before, first.pair, rfl, ?_⟩
          rw [first.around_eq_empty, Set.encard_empty, Nat.cast_zero]
        · refine ⟨_, first.inside pair, (Nat.add_assoc _ _ _).symm, ?_⟩
          rw [first.encard_around_inside distinct pair, depths, Nat.cast_succ]
        · simp only [← Nat.add_assoc]
          refine ⟨_, first.behind pair, rfl, ?_⟩
          rw [first.encard_around_behind distinct, depths]
      · rintro ⟨opened, pair, rfl, depths⟩
        rcases first.pair_cases distinct pair with
          ⟨rfl, rfl⟩ | ⟨opened, closed, inner, rfl, rfl⟩ | ⟨opened, closed, later, rfl, rfl⟩
        · rw [first.around_eq_empty, Set.encard_empty] at depths
          exact ⟨0, _, Or.inl ⟨Nat.cast_eq_zero.mp depths.symm, rfl, rfl⟩, rfl, rfl⟩
        · rw [first.encard_around_inside distinct inner] at depths
          cases depth with
          | zero => exact absurd depths (by simp)
          | succ less =>
              rw [Nat.cast_succ] at depths
              have fewer := ENat.add_left_injective_of_ne_top ENat.one_ne_top depths
              exact ⟨_, _, Or.inr (Or.inl ⟨less, rfl, opened, inner, rfl, fewer⟩),
                Nat.add_assoc _ _ _, rfl⟩
        · rw [first.encard_around_behind distinct] at depths
          refine ⟨_, _, Or.inr (Or.inr ⟨_, _, ⟨opened, later, rfl, depths⟩, rfl, rfl⟩), ?_, ?_⟩
          · simp only [Nat.add_assoc]
          · simp only [Nat.add_assoc]

end BracketTree

end Brackets
end FencedHighlight
