import FencedHighlight.Projection
import FencedHighlight.Proofs.Token.Leaves

namespace FencedHighlight
namespace Projection

/-!
Projecting is preorder enumeration.

The ranges of a token tree are those of its tokens in preorder, each from where
the token begins to where it ends.  The visit of a tree comes to the same, as the
end that it fills in later for a composite is that of the children.  So all
ranges lie within the stretch that the tree covers.
-/

mutual

/-- The range of a token and those inside it, in preorder. -/
def rangesOf (offset : Nat) : Token -> List StyleRange
  | .text _ => []
  | .leaf kind synonym content =>
      [{ start := offset, stop := offset + Text.size content, tag := synonym.getD kind }]
  | .composite kind synonym children =>
      { start := offset, stop := offset + Token.sizeOf children, tag := synonym.getD kind } ::
        preorder offset children

/-- The ranges of tokens and those inside them, in preorder. -/
def preorder (offset : Nat) : List Token -> List StyleRange
  | [] => []
  | token :: rest =>
      rangesOf offset token ++ preorder (offset + Token.sizeOf [token]) rest

end

/-- Complete the range with an index. -/
def complete (opened : Option Nat) (stop : Nat) (ranges : Array StyleRange) :
    Array StyleRange :=
  match opened with
  | some index => ranges.modify index fun range => { range with stop }
  | none => ranges

theorem appendList_appendList (ranges : Array StyleRange) (first second : List StyleRange) :
    ranges ++ (first ++ second) = ranges ++ first ++ second := by
  apply Array.toList_inj.mp
  simp only [Array.toList_appendList, List.append_assoc]

/-- Completing a range changes it where it is, and none of those after it. -/
theorem complete_push (ranges : Array StyleRange) (opening : StyleRange) (stop : Nat)
    (inside : List StyleRange) :
    complete (some ranges.size) stop (ranges.push opening ++ inside) =
      ranges ++ ({ opening with stop } :: inside) := by
  apply Array.toList_inj.mp
  simp only [complete, Array.toList_modify, Array.toList_appendList, Array.toList_push,
    List.append_assoc, List.singleton_append]
  exact List.modifyTailIdx_add _ 0 ranges.toList (opening :: inside)

/-- What the visit of a level comes to: the offset at its end, and the ranges. -/
def cover (state : Nat × Array StyleRange) (level : Level) : Nat × Array StyleRange :=
  let stop := state.1 + Token.sizeOf level.tokens
  (stop, complete level.opened stop (state.2 ++ preorder state.1 level.tokens))

theorem cover_text (content : Text) (rest : List Token) (opened : Option Nat)
    (offset : Nat) (ranges : Array StyleRange) :
    cover (offset, ranges) ⟨.text content :: rest, opened⟩ =
      cover (offset + Text.size content, ranges) ⟨rest, opened⟩ := by
  have total := Token.sizeOf_cons (.text content) rest
  rw [Token.sizeOf_text] at total
  simp only [cover, preorder, rangesOf, total, Token.sizeOf_text, Nat.add_assoc,
    List.nil_append]

theorem cover_leaf (kind : String) (synonym : Option String) (content : Text)
    (rest : List Token) (opened : Option Nat) (offset : Nat) (ranges : Array StyleRange) :
    cover (offset, ranges) ⟨.leaf kind synonym content :: rest, opened⟩ =
      cover (offset + Text.size content, ranges.push
        { start := offset, stop := offset + Text.size content, tag := synonym.getD kind })
        ⟨rest, opened⟩ := by
  have total := Token.sizeOf_cons (.leaf kind synonym content) rest
  rw [Token.sizeOf_leaf] at total
  simp only [cover, preorder, rangesOf, total, Token.sizeOf_leaf, Nat.add_assoc,
    List.singleton_append, Array.appendList_cons]

/-- The children of a composite are covered before what follows it, and this
completes its range. -/
theorem cover_composite (kind : String) (synonym : Option String) (children rest : List Token)
    (opened : Option Nat) (offset : Nat) (ranges : Array StyleRange) :
    cover (offset, ranges) ⟨.composite kind synonym children :: rest, opened⟩ =
      cover (cover (offset, ranges.push
        { start := offset, stop := offset, tag := synonym.getD kind })
        ⟨children, some ranges.size⟩) ⟨rest, opened⟩ := by
  have total := Token.sizeOf_cons (.composite kind synonym children) rest
  rw [Token.sizeOf_composite] at total
  simp only [cover, preorder, rangesOf, total, Token.sizeOf_composite, complete_push,
    Nat.add_assoc, List.cons_append]
  rw [← List.cons_append, appendList_appendList]

/-- A visit covers one level after the other. -/
theorem visit_eq_foldl (levels : List Level) (offset : Nat) (ranges : Array StyleRange) :
    visit levels offset ranges = (levels.foldl cover (offset, ranges)).2 := by
  fun_induction visit levels offset ranges with
  | case1 => rfl
  | case2 opened outer offset ranges completed ih =>
      rw [ih, List.foldl_cons]
      simp only [cover, preorder, Token.sizeOf_nil, Nat.add_zero, Array.appendList_nil]
      rfl
  | case3 content rest opened outer offset ranges ih =>
      rw [ih, List.foldl_cons, List.foldl_cons, cover_text]
  | case4 kind synonym content rest opened outer offset ranges stop ih =>
      rw [ih, List.foldl_cons, List.foldl_cons, cover_leaf]
  | case5 kind synonym children rest opened outer offset ranges ih =>
      rw [ih, List.foldl_cons, List.foldl_cons, List.foldl_cons, cover_composite]

/-- Projecting sorts the ranges that are not empty, and these are enumerated in
preorder. -/
theorem project_eq (tokens : List Token) (base : Nat) :
    project tokens base =
      StyleRange.sort ((preorder base tokens).filter fun range => !range.isEmpty) := by
  unfold project
  rw [visit_eq_foldl]
  simp only [List.foldl_cons, List.foldl_nil, cover, complete]
  simp

/-- Whether a range lies between two offsets. -/
structure Within (low high : Nat) (range : StyleRange) : Prop where
  low_le_start : low ≤ range.start
  low_le_stop : low ≤ range.stop
  stop_le_high : range.stop ≤ high

theorem Within.widen {low low' high high' : Nat} {range : StyleRange}
    (within : Within low high range) (lower : low' ≤ low) (higher : high ≤ high') :
    Within low' high' range :=
  ⟨Nat.le_trans lower within.low_le_start, Nat.le_trans lower within.low_le_stop,
    Nat.le_trans within.stop_le_high higher⟩

mutual

theorem within_rangesOf (offset : Nat) : (token : Token) ->
    ∀ range ∈ rangesOf offset token, Within offset (offset + Token.sizeOf [token]) range
  | .text content => by
      intro range member
      cases member
  | .leaf kind synonym content => by
      intro range member
      rw [rangesOf, List.mem_singleton] at member
      subst member
      rw [Token.sizeOf_leaf]
      exact ⟨Nat.le_refl _, Nat.le_add_right _ _, Nat.le_refl _⟩
  | .composite kind synonym children => by
      intro range member
      rw [Token.sizeOf_composite]
      rw [rangesOf] at member
      rcases List.mem_cons.mp member with same | inside
      · subst same
        exact ⟨Nat.le_refl _, Nat.le_add_right _ _, Nat.le_refl _⟩
      · exact within_preorder offset children range inside

/-- Every range lies within the stretch that the tokens cover. -/
theorem within_preorder (offset : Nat) : (tokens : List Token) ->
    ∀ range ∈ preorder offset tokens, Within offset (offset + Token.sizeOf tokens) range
  | [] => by
      intro range member
      cases member
  | token :: rest => by
      intro range member
      rw [preorder] at member
      rw [Token.sizeOf_cons]
      rcases List.mem_append.mp member with first | later
      · exact (within_rangesOf offset token range first).widen (Nat.le_refl _) (by omega)
      · exact (within_preorder _ rest range later).widen (Nat.le_add_right _ _) (by omega)

end

/-- Every projected range lies within the stretch that the tree covers. -/
theorem within_project {tokens : List Token} {base : Nat} {range : StyleRange}
    (member : range ∈ project tokens base) :
    Within base (base + Token.sizeOf tokens) range := by
  rw [project_eq, StyleRange.sort, List.mem_mergeSort] at member
  exact within_preorder base tokens range (List.mem_filter.mp member).1

end Projection
end FencedHighlight
