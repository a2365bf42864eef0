import FencedHighlight.Proofs.Projection.Preorder
import FencedHighlight.Proofs.Text.Boundary
import FencedHighlight.Proofs.Tokenizer.Tiling

namespace FencedHighlight

/-!
The order of projected ranges.

In preorder, a range either contains a later one or lies wholly before it.  For
ranges that are not empty this is the order in which they are sorted, so sorting
the ranges of a tree changes nothing.  The tokens of a tree that tiles a text are
never empty, so nothing is filtered out either: projecting is enumerating.
-/

namespace StyleRange

/-- Whether one range may come before another in preorder: it contains the other
one or lies wholly before it. -/
def Precedes (first second : StyleRange) : Prop :=
  first.stop ≤ second.start ∨ (first.start ≤ second.start ∧ second.stop ≤ first.stop)

/-- Whether two ranges do not cross each other: they are disjoint, or one lies
within the other. -/
def Laminar (first second : StyleRange) : Prop :=
  (first.stop ≤ second.start ∨ second.stop ≤ first.start) ∨
    (first.start ≤ second.start ∧ second.stop ≤ first.stop) ∨
    (second.start ≤ first.start ∧ first.stop ≤ second.stop)

theorem ahead_iff {first second : StyleRange} :
    first.ahead second = true ↔
      first.start < second.start ∨ (first.start = second.start ∧ second.stop ≤ first.stop) := by
  simp only [ahead, Bool.or_eq_true, Bool.and_eq_true, decide_eq_true_eq, beq_iff_eq]

theorem ahead_trans (first second third : StyleRange) (before : first.ahead second = true)
    (after : second.ahead third = true) : first.ahead third = true := by
  rw [ahead_iff] at *
  omega

theorem ahead_total (first second : StyleRange) :
    (first.ahead second || second.ahead first) = true := by
  rw [Bool.or_eq_true, ahead_iff, ahead_iff]
  omega

/-- A range that is not empty is sorted before those that it may precede. -/
theorem Precedes.ahead {first second : StyleRange} (precedes : first.Precedes second)
    (filled : first.start < first.stop) : first.ahead second = true := by
  rw [ahead_iff]
  unfold Precedes at precedes
  omega

theorem Precedes.laminar {first second : StyleRange} (precedes : first.Precedes second) :
    first.Laminar second := by
  unfold Precedes at precedes
  unfold Laminar
  omega

theorem Laminar.symm {first second : StyleRange} (laminar : first.Laminar second) :
    second.Laminar first := by
  unfold Laminar at *
  omega

theorem Laminar.refl (range : StyleRange) : range.Laminar range :=
  Or.inr (Or.inl ⟨Nat.le_refl _, Nat.le_refl _⟩)

/-- Any two of the ranges in preorder do not cross each other. -/
theorem laminar_of_pairwise {ranges : List StyleRange} (ordered : ranges.Pairwise Precedes) :
    ∀ first ∈ ranges, ∀ second ∈ ranges, first.Laminar second := by
  induction ordered with
  | nil =>
      intro first member
      cases member
  | @cons range rest ahead ordered ih =>
      intro first firstMember second secondMember
      rcases List.mem_cons.mp firstMember with rfl | firstLater <;>
        rcases List.mem_cons.mp secondMember with rfl | secondLater
      · exact .refl _
      · exact (ahead second secondLater).laminar
      · exact (ahead first firstLater).laminar.symm
      · exact ih first firstLater second secondLater

/-- Ranges in preorder that are not empty are sorted. -/
theorem ahead_of_pairwise {ranges : List StyleRange} (ordered : ranges.Pairwise Precedes)
    (filled : ∀ range ∈ ranges, range.start < range.stop) :
    ranges.Pairwise fun first second => first.ahead second = true :=
  ordered.imp_of_mem fun member _ precedes => precedes.ahead (filled _ member)

/-- Sorting leaves the ranges in preorder that are not empty as they are. -/
theorem sort_filled {ranges : List StyleRange} (ordered : ranges.Pairwise Precedes) :
    sort (ranges.filter fun range => !range.isEmpty) =
      ranges.filter fun range => !range.isEmpty := by
  refine List.mergeSort_of_pairwise (ahead_of_pairwise (ordered.filter _) ?_)
  intro range member
  simpa [isEmpty] using (List.mem_filter.mp member).2

end StyleRange

namespace Projection

theorem preorder_append (offset : Nat) (left right : List Token) :
    preorder offset (left ++ right) =
      preorder offset left ++ preorder (offset + Token.sizeOf left) right := by
  induction left generalizing offset with
  | nil => rw [Token.sizeOf_nil]; rfl
  | cons token rest ih =>
      rw [List.cons_append, preorder, preorder, ih, List.append_assoc,
        Token.sizeOf_cons token rest, Nat.add_assoc]

/-- A token that is added to tokens, the newest of which comes first, adds its
ranges at the end. -/
theorem preorder_reverse_cons (offset : Nat) (token : Token) (tokens : List Token) :
    preorder offset (token :: tokens).reverse =
      preorder offset tokens.reverse ++
        rangesOf (offset + Token.sizeOf tokens.reverse) token := by
  rw [List.reverse_cons, preorder_append, preorder, preorder, List.append_nil]

mutual

theorem pairwise_rangesOf (offset : Nat) : (token : Token) ->
    (rangesOf offset token).Pairwise StyleRange.Precedes
  | .text content => List.Pairwise.nil
  | .leaf kind synonym content => List.pairwise_singleton _ _
  | .composite kind synonym children => by
      rw [rangesOf]
      refine List.pairwise_cons.mpr ⟨?_, pairwise_preorder offset children⟩
      intro range member
      have within := within_preorder offset children range member
      exact Or.inr ⟨within.low_le_start, within.stop_le_high⟩

/-- In preorder, a range contains a later one or lies wholly before it. -/
theorem pairwise_preorder (offset : Nat) : (tokens : List Token) ->
    (preorder offset tokens).Pairwise StyleRange.Precedes
  | [] => List.Pairwise.nil
  | token :: rest => by
      rw [preorder]
      refine List.pairwise_append.mpr
        ⟨pairwise_rangesOf offset token, pairwise_preorder _ rest, ?_⟩
      intro first firstMember second secondMember
      have before := within_rangesOf offset token first firstMember
      have after := within_preorder _ rest second secondMember
      exact Or.inl (Nat.le_trans before.stop_le_high after.low_le_start)

end

mutual

theorem boundaries_rangesOf (before : Text) : (token : Token) ->
    ∀ range ∈ rangesOf (Text.size before) token,
      Text.isBoundary (before ++ Token.textOf [token]) range.start = true ∧
        Text.isBoundary (before ++ Token.textOf [token]) range.stop = true
  | .text content => by
      intro range member
      cases member
  | .leaf kind synonym content => by
      intro range member
      rw [rangesOf, List.mem_singleton] at member
      subst member
      rw [Token.textOf_leaf, ← Text.size_append]
      exact ⟨Text.isBoundary_append before content, Text.isBoundary_size _⟩
  | .composite kind synonym children => by
      intro range member
      rw [Token.textOf_composite]
      rw [rangesOf] at member
      rcases List.mem_cons.mp member with same | inside
      · subst same
        rw [Token.sizeOf_eq_size_textOf, ← Text.size_append]
        exact ⟨Text.isBoundary_append before _, Text.isBoundary_size _⟩
      · exact boundaries_preorder before children range inside

/-- Every range begins and ends at boundaries of the text of the tokens. -/
theorem boundaries_preorder (before : Text) : (tokens : List Token) ->
    ∀ range ∈ preorder (Text.size before) tokens,
      Text.isBoundary (before ++ Token.textOf tokens) range.start = true ∧
        Text.isBoundary (before ++ Token.textOf tokens) range.stop = true
  | [] => by
      intro range member
      cases member
  | token :: rest => by
      intro range member
      have parts : before ++ Token.textOf (token :: rest) =
          before ++ Token.textOf [token] ++ Token.textOf rest := by
        rw [← List.singleton_append, Token.textOf_append, List.append_assoc]
      rw [preorder, Token.sizeOf_eq_size_textOf, ← Text.size_append] at member
      rw [parts]
      rcases List.mem_append.mp member with first | later
      · have inside := boundaries_rangesOf before token range first
        exact ⟨Text.isBoundary_append_left _ inside.1, Text.isBoundary_append_left _ inside.2⟩
      · exact boundaries_preorder _ rest range later

end

/-- The tokens of a forest, each with the offset at which its text begins. -/
inductive Occurs (base : Nat) (roots : List Token) : (place : Nat) -> Token -> Prop where
  | root {before after : List Token} {token : Token}
      (among : roots = before ++ token :: after) :
      Occurs base roots (base + Token.sizeOf before) token
  | child {place : Nat} {kind : String} {synonym : Option String}
      {before after : List Token} {token : Token}
      (outer : Occurs base roots place (.composite kind synonym (before ++ token :: after))) :
      Occurs base roots (place + Token.sizeOf before) token

theorem infix_preorder (base : Nat) (before after : List Token) (token : Token) :
    rangesOf (base + Token.sizeOf before) token <:+: preorder base (before ++ token :: after) := by
  rw [preorder_append, preorder]
  exact ⟨_, _, List.append_assoc _ _ _⟩

/-- The ranges of a token and of all those inside it follow one another. -/
theorem Occurs.contiguous {base place : Nat} {roots : List Token} {token : Token}
    (occurs : Occurs base roots place token) :
    rangesOf place token <:+: preorder base roots := by
  induction occurs with
  | @root before after token among =>
      rw [among]
      exact infix_preorder base before after token
  | @child place kind synonym before after token outer ih =>
      have inside : preorder place (before ++ token :: after) <:+
          rangesOf place (.composite kind synonym (before ++ token :: after)) := by
        rw [rangesOf]
        exact List.suffix_cons _ _
      exact (infix_preorder place before after token).trans (inside.isInfix.trans ih)

end Projection

namespace Tokenizer.Tiling

variable {scope : Scope} {grammar : GrammarId} {text : Text} {offset : Nat}
  {tokens : List Token}

/-- Tokens that tile a text have ranges that are not empty. -/
theorem filled_preorder (tiling : Tiling scope grammar text offset tokens) (base : Nat) :
    ∀ range ∈ Projection.preorder base tokens.reverse, range.start < range.stop := by
  induction tiling generalizing base with
  | start =>
      intro range member
      cases member
  | text before apart slice nonempty ih =>
      intro range member
      rw [Projection.preorder_reverse_cons] at member
      rcases List.mem_append.mp member with earlier | last
      · exact ih base range earlier
      · cases last
  | leaf before matched ih =>
      intro range member
      rw [Projection.preorder_reverse_cons] at member
      rcases List.mem_append.mp member with earlier | last
      · exact ih base range earlier
      · have extent := (Text.size_pos_iff _).mpr matched.nonempty
        rw [List.mem_singleton.mp last]
        exact Nat.lt_add_of_pos_right extent
  | @composite grammar inner text content candidate tokens children before matched resolved
      inside ih ihInside =>
      intro range member
      rw [Projection.preorder_reverse_cons] at member
      rcases List.mem_append.mp member with earlier | last
      · exact ih base range earlier
      · rcases List.mem_cons.mp last with same | deeper
        · have extent : 0 < Token.sizeOf children.reverse := by
            rw [Token.sizeOf_eq_size_textOf, inside.textOf_eq]
            exact (Text.size_pos_iff content).mpr matched.nonempty
          rw [same]
          exact Nat.lt_add_of_pos_right extent
        · exact ihInside _ range deeper

/-- Projecting tokens that tile a text is enumerating them in preorder. -/
theorem project_eq_preorder (tiling : Tiling scope grammar text offset tokens) (base : Nat) :
    Projection.project tokens.reverse base = Projection.preorder base tokens.reverse := by
  rw [Projection.project_eq, StyleRange.sort_filled (Projection.pairwise_preorder base _)]
  apply List.filter_eq_self.mpr
  intro range member
  simpa [StyleRange.isEmpty] using tiling.filled_preorder base range member

end Tokenizer.Tiling

end FencedHighlight
