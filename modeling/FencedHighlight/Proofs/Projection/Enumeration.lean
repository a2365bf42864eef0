import FencedHighlight.Proofs.Projection.Order

namespace FencedHighlight

/-!
What a projection lists.

A walk through a tree in preorder comes to each token with all the text before it.
That text and the token tell the range of the token, wherever the tree begins in a
document.  So the ranges of a tree can be listed without keeping track of offsets, and
they move along with the tree.  Empty tokens, of which there may be some at any depth of
a tree that was not made from a text, are left out.  The other ranges are listed in the
order in which they would be sorted.
-/

namespace Token

mutual

/-- A token and those inside it in preorder, each with the text before it. -/
def walkInto (before : Text) : Token -> List (Text × Token)
  | text content => [(before, text content)]
  | leaf kind synonym content => [(before, leaf kind synonym content)]
  | composite kind synonym children =>
      (before, composite kind synonym children) :: walk before children

/-- Tokens and those inside them in preorder, each with the text before it. -/
def walk (before : Text) : List Token -> List (Text × Token)
  | [] => []
  | token :: rest => walkInto before token ++ walk (before ++ textOf [token]) rest

end

end Token

namespace StyleRange

/-- The range that lies some distance farther on. -/
def shift (distance : Nat) (range : StyleRange) : StyleRange :=
  { range with start := range.start + distance, stop := range.stop + distance }

end StyleRange

namespace Projection

/-- The range of a token with this text before it, in a tree that begins at `base`. -/
def rangeAt (base : Nat) (place : Text × Token) : StyleRange :=
  { start := base + Text.size place.1
    stop := base + Text.size place.1 + Token.sizeOf [place.2]
    tag := place.2.tag }

/-- The tokens that are no plain text, in preorder, each with the text before it. -/
def tagged (tokens : List Token) : List (Text × Token) :=
  (Token.walk [] tokens).filter fun place => !place.2.isText

/-- The tagged tokens that are not empty. -/
def filled (tokens : List Token) : List (Text × Token) :=
  (tagged tokens).filter fun place => Token.sizeOf [place.2] != 0

theorem rangeAt_add (base distance : Nat) (place : Text × Token) :
    rangeAt (base + distance) place = (rangeAt base place).shift distance := by
  simp only [rangeAt, StyleRange.shift, StyleRange.mk.injEq, and_true]
  omega

theorem isEmpty_rangeAt (base : Nat) (place : Text × Token) :
    (rangeAt base place).isEmpty = (Token.sizeOf [place.2] == 0) := by
  rw [Bool.eq_iff_iff, StyleRange.isEmpty, decide_eq_true_eq, beq_iff_eq]
  simp only [rangeAt]
  omega

mutual

theorem rangesOf_eq_map_walkInto (base : Nat) (before : Text) : (token : Token) ->
    rangesOf (base + Text.size before) token =
      ((Token.walkInto before token).filter fun place => !place.2.isText).map (rangeAt base)
  | .text content => rfl
  | .leaf kind synonym content => by
      rw [rangesOf, ← Token.sizeOf_leaf kind synonym content]
      rfl
  | .composite kind synonym children => by
      rw [rangesOf, Token.walkInto, ← Token.sizeOf_composite kind synonym children,
        preorder_eq_map_walk base before children]
      rfl

/-- The offset at which a token begins stands for the text before it. -/
theorem preorder_eq_map_walk (base : Nat) (before : Text) : (tokens : List Token) ->
    preorder (base + Text.size before) tokens =
      ((Token.walk before tokens).filter fun place => !place.2.isText).map (rangeAt base)
  | [] => rfl
  | token :: rest => by
      have farther : base + Text.size before + Token.sizeOf [token] =
          base + Text.size (before ++ Token.textOf [token]) := by
        rw [Text.size_append, Token.sizeOf_eq_size_textOf, Nat.add_assoc]
      rw [preorder, Token.walk, List.filter_append, List.map_append, farther,
        rangesOf_eq_map_walkInto base before token,
        preorder_eq_map_walk base (before ++ Token.textOf [token]) rest]

end

/-- The visit of a tree notes the ranges of all its tokens that are no plain text, with the
ends that are filled in later. -/
theorem visit_eq_tagged (tokens : List Token) (base : Nat) :
    (visit [⟨tokens, none⟩] base #[]).toList = (tagged tokens).map (rangeAt base) := by
  have listed := preorder_eq_map_walk base [] tokens
  rw [Text.size_nil, Nat.add_zero] at listed
  rw [visit_eq_foldl, tagged, ← listed]
  simp [cover, complete]

theorem pairwise_tagged (tokens : List Token) (base : Nat) :
    ((tagged tokens).map (rangeAt base)).Pairwise StyleRange.Precedes := by
  have ordered := pairwise_preorder (base + Text.size []) tokens
  rwa [preorder_eq_map_walk] at ordered

theorem filter_tagged (tokens : List Token) (base : Nat) :
    (((tagged tokens).map (rangeAt base)).filter fun range => !range.isEmpty) =
      (filled tokens).map (rangeAt base) := by
  rw [List.filter_map, filled]
  congr 2
  funext place
  exact congrArg (! ·) (isEmpty_rangeAt base place)

/-- The ranges of a tree are those of its tokens that are neither plain text nor empty. -/
theorem project_eq_filled (tokens : List Token) (base : Nat) :
    project tokens base = (filled tokens).map (rangeAt base) := by
  rw [project, visit_eq_tagged, StyleRange.sort_filled (pairwise_tagged tokens base),
    filter_tagged]

/-- The ranges of a tree move along with it. -/
theorem project_add (tokens : List Token) (base distance : Nat) :
    project tokens (base + distance) = (project tokens base).map (StyleRange.shift distance) := by
  rw [project_eq_filled, project_eq_filled, List.map_map]
  exact List.map_congr_left fun place _ => rangeAt_add base distance place

/-- A projection is an enumeration in preorder.  The visit gives each token that is no plain
text its range, from the end of the text before it on; sorting leaves those that are not
empty as they are, and they are the result.  They lie in the stretch that the tree covers,
each encloses a later one or lies wholly before it, and they move along with the tree. -/
theorem project_enumerates (tokens : List Token) (base : Nat) :
    (visit [⟨tokens, none⟩] base #[]).toList = (tagged tokens).map (rangeAt base) ∧
      StyleRange.sort ((filled tokens).map (rangeAt base)) = (filled tokens).map (rangeAt base) ∧
      project tokens base = (filled tokens).map (rangeAt base) ∧
      (∀ range ∈ project tokens base,
        base ≤ range.start ∧ range.start < range.stop ∧
          range.stop ≤ base + Token.sizeOf tokens) ∧
      (project tokens base).Pairwise StyleRange.Precedes ∧
      ∀ distance, project tokens (base + distance) =
        (project tokens base).map (StyleRange.shift distance) := by
  have sorted := StyleRange.sort_filled (pairwise_tagged tokens base)
  have ordered := (pairwise_tagged tokens base).filter fun range => !range.isEmpty
  rw [filter_tagged] at sorted ordered
  refine ⟨visit_eq_tagged tokens base, sorted, project_eq_filled tokens base, ?_, ?_,
    project_add tokens base⟩
  · intro range member
    have within := within_project member
    rw [project_eq_filled, ← filter_tagged] at member
    have some : range.start < range.stop := by
      simpa [StyleRange.isEmpty] using (List.mem_filter.mp member).2
    exact ⟨within.low_le_start, some, within.stop_le_high⟩
  · rw [project_eq_filled]
    exact ordered

end Projection
end FencedHighlight
