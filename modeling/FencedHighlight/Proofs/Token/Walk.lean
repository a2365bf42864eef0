import Mathlib.Data.List.Basic
import FencedHighlight.Proofs.Token.Leaves

namespace FencedHighlight
namespace Token

/-!
Walking through the leaves of token trees.

The leaves of a tree can be told by recursion, by their places, or by a walk that needs no
recursion: it keeps the tokens that it has still to visit, the next one last, and a composite
gives way to its children, the first of them last.  All three come to the same leaves in the
same order.  So the text of a tree is that of its children put together, and its size is the
sum of theirs.
-/

/-- Whether a token has no tokens inside: plain text, or content that was not cut again. -/
def isLeaf : Token -> Bool
  | composite _ _ _ => false
  | _ => true

/-! ## Recursion -/

mutual

/-- The leaves of a token: itself, or those of its children. -/
def leavesOf : Token -> List Token
  | text content => [text content]
  | leaf kind synonym content => [leaf kind synonym content]
  | composite _ _ children => leavesOfAll children

/-- The leaves of some tokens, one token after the other. -/
def leavesOfAll : List Token -> List Token
  | [] => []
  | token :: rest => leavesOf token ++ leavesOfAll rest

end

theorem leavesOfAll_append (left right : List Token) :
    leavesOfAll (left ++ right) = leavesOfAll left ++ leavesOfAll right := by
  induction left with
  | nil => rfl
  | cons token rest ih => rw [List.cons_append, leavesOfAll, ih, leavesOfAll, List.append_assoc]

theorem leaves_eq_leavesOfAll (tokens : List Token) : leaves tokens = leavesOfAll tokens := by
  fun_induction leaves tokens with
  | case1 => rfl
  | case2 content rest ih => rw [ih]; rfl
  | case3 kind synonym content rest ih => rw [ih]; rfl
  | case4 kind synonym children rest ih => rw [ih, leavesOfAll_append]; rfl

/-! ## A walk without recursion -/

theorem visitsAll_reverse (tokens : List Token) :
    visitsAll tokens.reverse = visitsAll tokens := by
  induction tokens with
  | nil => rfl
  | cons token rest ih =>
      rw [List.reverse_cons, visitsAll_append, ih, visitsAll, visitsAll, visitsAll]
      omega

/-- The next leaf of a walk, and what is still to be visited after it.  The token to be
visited next is the last one. -/
def nextLeaf? (pending : List Token) : Option (Token × List Token) :=
  match _last : pending.getLast? with
  | none => none
  | some (composite _ _ children) => nextLeaf? (pending.dropLast ++ children.reverse)
  | some token => some (token, pending.dropLast)
termination_by visitsAll pending
decreasing_by
  rw [visitsAll_append, visitsAll_reverse, ← List.dropLast_append_getLast? _ _last,
    visitsAll_append, List.dropLast_concat, visitsAll, visits, visitsAll]
  omega

theorem nextLeaf?_nil : nextLeaf? [] = none := by
  rw [nextLeaf?]
  rfl

theorem nextLeaf?_of_isLeaf {token : Token} (plain : token.isLeaf = true)
    (pending : List Token) : nextLeaf? (pending ++ [token]) = some (token, pending) := by
  rw [nextLeaf?]
  split
  · rename_i ends
    simp at ends
  · rename_i kind synonym children ends
    cases Option.some.inj (List.getLast?_concat.symm.trans ends)
    cases plain
  · rename_i found _ ends
    cases Option.some.inj (List.getLast?_concat.symm.trans ends)
    rw [List.dropLast_concat]

theorem nextLeaf?_composite (kind : String) (synonym : Option String)
    (children pending : List Token) :
    nextLeaf? (pending ++ [composite kind synonym children]) =
      nextLeaf? (pending ++ children.reverse) := by
  rw [nextLeaf?]
  split
  · rename_i ends
    simp at ends
  · rename_i ends
    cases Option.some.inj (List.getLast?_concat.symm.trans ends)
    rw [List.dropLast_concat]
  · rename_i found other ends
    cases Option.some.inj (List.getLast?_concat.symm.trans ends)
    exact absurd rfl (other kind synonym children)

/-- A walk from some pending tokens yields these leaves, one after the other, and no more. -/
inductive Yields : List Token -> List Token -> Prop where
  | done {pending : List Token} (ends : nextLeaf? pending = none) : Yields pending []
  | next {pending rest later : List Token} {token : Token}
      (comes : nextLeaf? pending = some (token, rest)) (after : Yields rest later) :
      Yields pending (token :: later)

theorem Yields.unique {pending first second : List Token} (one : Yields pending first)
    (other : Yields pending second) : first = second := by
  induction one generalizing second with
  | done ends =>
      cases other with
      | done _ => rfl
      | next comes _ => cases ends.symm.trans comes
  | next comes after ih =>
      cases other with
      | done ends => cases ends.symm.trans comes
      | next comes' after' =>
          cases comes.symm.trans comes'
          rw [ih after']

theorem Yields.of_nextLeaf?_eq {pending other leaves : List Token}
    (same : nextLeaf? pending = nextLeaf? other) (yields : Yields other leaves) :
    Yields pending leaves := by
  cases yields with
  | done ends => exact .done (same.trans ends)
  | next comes after => exact .next (same.trans comes) after

/-- The walk yields what the recursion lists.  The measure of the walk is the number of its
visits: a leaf is dropped, and a composite costs more than its children. -/
theorem yields_leavesOfAll (pending : List Token) :
    Yields pending (leavesOfAll pending.reverse) := by
  induction left : visitsAll pending using Nat.strongRecOn generalizing pending with
  | ind visited ih =>
      rcases List.eq_nil_or_concat' pending with rfl | ⟨rest, token, rfl⟩
      · exact .done nextLeaf?_nil
      · rw [visitsAll_append, visitsAll, visitsAll] at left
        rw [List.reverse_concat', leavesOfAll]
        cases token with
        | text content =>
            rw [visits] at left
            exact .next (nextLeaf?_of_isLeaf rfl rest) (ih _ (by omega) rest rfl)
        | leaf kind synonym content =>
            rw [visits] at left
            exact .next (nextLeaf?_of_isLeaf rfl rest) (ih _ (by omega) rest rfl)
        | composite kind synonym children =>
            have cost := visitsAll_append rest children.reverse
            rw [visitsAll_reverse] at cost
            rw [visits] at left
            have later := ih _ (by omega) (rest ++ children.reverse) rfl
            rw [List.reverse_append, List.reverse_reverse, leavesOfAll_append] at later
            exact later.of_nextLeaf?_eq (nextLeaf?_composite kind synonym children rest)

/-! ## Places -/

/-- The token at a place inside a token.  A place tells which child to go to, then which child
of that one, and so on. -/
def inside? : Token -> List Nat -> Option Token
  | token, [] => some token
  | token, index :: place => (token.children[index]?).bind fun child => child.inside? place

/-- The token at a place among some tokens and inside them. -/
def at? (tokens : List Token) : List Nat -> Option Token
  | [] => none
  | index :: place => (tokens[index]?).bind fun token => token.inside? place

mutual

/-- The places of the leaves of a token. -/
def leafPlaces : Token -> List (List Nat)
  | text _ | leaf _ _ _ => [[]]
  | composite _ _ children => leafPlacesFrom 0 children

/-- The places of the leaves of some tokens, the first of which has this index. -/
def leafPlacesFrom (index : Nat) : List Token -> List (List Nat)
  | [] => []
  | token :: rest =>
      (leafPlaces token).map (index :: ·) ++ leafPlacesFrom (index + 1) rest

end

/-- A leaf among some tokens lies in one of them. -/
theorem mem_leafPlacesFrom_iff {tokens : List Token} {index : Nat} {place : List Nat} :
    place ∈ leafPlacesFrom index tokens ↔
      ∃ step token later, tokens[step]? = some token ∧ place = (index + step) :: later ∧
        later ∈ leafPlaces token := by
  induction tokens generalizing index with
  | nil => simp [leafPlacesFrom]
  | cons token rest ih =>
      rw [leafPlacesFrom, List.mem_append, List.mem_map, ih]
      constructor
      · rintro (⟨later, inner, rfl⟩ | ⟨step, other, later, found, rfl, inner⟩)
        · exact ⟨0, token, later, rfl, rfl, inner⟩
        · exact ⟨step + 1, other, later, found, by rw [Nat.add_right_comm, Nat.add_assoc], inner⟩
      · rintro ⟨step, other, later, found, rfl, inner⟩
        cases step with
        | zero =>
            rcases Option.some.inj found with rfl
            exact Or.inl ⟨later, inner, rfl⟩
        | succ step =>
            exact Or.inr ⟨step, other, later, found,
              by rw [Nat.add_right_comm, Nat.add_assoc], inner⟩

theorem nil_not_mem_leafPlacesFrom (index : Nat) (tokens : List Token) :
    [] ∉ leafPlacesFrom index tokens := by
  rw [mem_leafPlacesFrom_iff]
  rintro ⟨_, _, _, _, none, _⟩
  cases none

theorem cons_mem_leafPlacesFrom_iff {tokens : List Token} {index : Nat} {place : List Nat} :
    index :: place ∈ leafPlacesFrom 0 tokens ↔
      ∃ token, tokens[index]? = some token ∧ place ∈ leafPlaces token := by
  rw [mem_leafPlacesFrom_iff]
  constructor
  · rintro ⟨step, token, later, found, same, inner⟩
    rcases List.cons.inj same with ⟨rfl, rfl⟩
    exact ⟨token, by rwa [Nat.zero_add], inner⟩
  · rintro ⟨token, found, inner⟩
    exact ⟨index, token, place, found, by rw [Nat.zero_add], inner⟩

/-- The leaves of a token are listed by their places, and nothing else is. -/
theorem mem_leafPlaces_iff {token : Token} {place : List Nat} :
    place ∈ leafPlaces token ↔ ∃ found, token.inside? place = some found ∧ found.isLeaf = true := by
  induction place generalizing token with
  | nil =>
      cases token with
      | text content => simp [leafPlaces, inside?, isLeaf]
      | leaf kind synonym content => simp [leafPlaces, inside?, isLeaf]
      | composite kind synonym children =>
          refine iff_of_false (nil_not_mem_leafPlacesFrom 0 children) ?_
          rintro ⟨found, here, plain⟩
          rcases Option.some.inj here with rfl
          cases plain
  | cons index place ih =>
      cases token with
      | text content => simp [leafPlaces, inside?, children]
      | leaf kind synonym content => simp [leafPlaces, inside?, children]
      | composite kind synonym children =>
          rw [leafPlaces, cons_mem_leafPlacesFrom_iff, inside?]
          simp only [Option.bind_eq_some_iff, Token.children, ih]
          constructor
          · rintro ⟨child, known, found, inner, plain⟩
            exact ⟨found, ⟨child, known, inner⟩, plain⟩
          · rintro ⟨found, ⟨child, known, inner⟩, plain⟩
            exact ⟨child, known, found, inner, plain⟩

theorem mem_leafPlacesFrom_zero_iff {tokens : List Token} {place : List Nat} :
    place ∈ leafPlacesFrom 0 tokens ↔
      ∃ found, at? tokens place = some found ∧ found.isLeaf = true := by
  cases place with
  | nil => exact iff_of_false (nil_not_mem_leafPlacesFrom 0 tokens) (by simp [at?])
  | cons index place =>
      rw [cons_mem_leafPlacesFrom_iff, at?]
      simp only [Option.bind_eq_some_iff, mem_leafPlaces_iff]
      constructor
      · rintro ⟨child, known, found, inner, plain⟩
        exact ⟨found, ⟨child, known, inner⟩, plain⟩
      · rintro ⟨found, ⟨child, known, inner⟩, plain⟩
        exact ⟨child, known, found, inner, plain⟩

mutual

/-- Places are listed in the order of the document, each of them once. -/
theorem pairwise_leafPlaces : (token : Token) -> (leafPlaces token).Pairwise (· < ·)
  | text _ => List.pairwise_singleton _ _
  | leaf _ _ _ => List.pairwise_singleton _ _
  | composite _ _ children => pairwise_leafPlacesFrom 0 children

theorem pairwise_leafPlacesFrom (index : Nat) :
    (tokens : List Token) -> (leafPlacesFrom index tokens).Pairwise (· < ·)
  | [] => List.Pairwise.nil
  | token :: rest => by
      rw [leafPlacesFrom, List.pairwise_append]
      refine ⟨?_, pairwise_leafPlacesFrom (index + 1) rest, ?_⟩
      · refine List.pairwise_map.mpr ((pairwise_leafPlaces token).imp fun earlier => ?_)
        exact List.cons_lt_cons_iff.mpr (Or.inr ⟨rfl, earlier⟩)
      · intro first inFirst second inRest
        rcases List.mem_map.mp inFirst with ⟨here, _, rfl⟩
        rcases (mem_leafPlacesFrom_iff).mp inRest with ⟨step, _, later, _, rfl, _⟩
        exact List.cons_lt_cons_iff.mpr (Or.inl (by omega))

end

mutual

/-- The leaves are what stands at their places. -/
theorem map_inside?_leafPlaces : (token : Token) ->
    (leafPlaces token).map token.inside? = (leavesOf token).map some
  | text _ => rfl
  | leaf _ _ _ => rfl
  | composite _ _ children => by
      have listed := map_at?_leafPlacesFrom children 0 children fun step => by rw [Nat.zero_add]
      rw [leafPlaces, leavesOf, ← listed]
      refine List.map_congr_left fun place inside => ?_
      rcases (mem_leafPlacesFrom_iff).mp inside with ⟨_, _, _, _, rfl, _⟩
      rfl

theorem map_at?_leafPlacesFrom (all : List Token) (index : Nat) : (tokens : List Token) ->
    (∀ step, all[index + step]? = tokens[step]?) ->
      (leafPlacesFrom index tokens).map (at? all) = (leavesOfAll tokens).map some
  | [], _ => rfl
  | token :: rest, placed => by
      have first : all[index]? = some token := placed 0
      have later : ∀ step, all[index + 1 + step]? = rest[step]? := fun step => by
        rw [Nat.add_assoc, Nat.add_comm 1, placed, List.getElem?_cons_succ]
      rw [leafPlacesFrom, leavesOfAll, List.map_append, List.map_append, List.map_map,
        map_at?_leafPlacesFrom all (index + 1) rest later, ← map_inside?_leafPlaces token]
      congr 1
      refine List.map_congr_left fun place _ => ?_
      rw [Function.comp_apply, at?, first, Option.bind_some]

end

/-! ## Texts and sizes -/

theorem textOf_eq_flatMap (tokens : List Token) :
    textOf tokens = tokens.flatMap fun token => textOf [token] := by
  induction tokens with
  | nil => exact textOf_nil
  | cons token rest ih => rw [textOf_cons, ih, List.flatMap_cons]

theorem sizeOf_eq_foldr (tokens : List Token) :
    sizeOf tokens = tokens.foldr (fun token total => sizeOf [token] + total) 0 := by
  induction tokens with
  | nil => exact sizeOf_nil
  | cons token rest ih => rw [sizeOf_cons, ih, List.foldr_cons]

/-- The leaves of a tree are what a walk through it yields, and what the recursion lists: the
tokens at all places where there is no composite, in the order of the places, each of them
once.  The size of a tree is that of its text, its text is that of its topmost tokens put
together, as that of a composite is that of its children, and its size is the sum of
theirs. -/
theorem leaves_walk (roots : List Token) :
    (∀ yielded, Yields roots.reverse yielded ↔ yielded = leaves roots) ∧
      leaves roots = leavesOfAll roots ∧
      (∃ places : List (List Nat), places.Pairwise (· < ·) ∧
        (∀ place, place ∈ places ↔
          ∃ token, at? roots place = some token ∧ token.isLeaf = true) ∧
        (leaves roots).map some = places.map (at? roots)) ∧
      (∀ token, sizeOf [token] = Text.size (textOf [token])) ∧
      sizeOf roots = Text.size (textOf roots) ∧
      textOf roots = (roots.flatMap fun token => textOf [token]) ∧
      (∀ kind synonym, textOf [composite kind synonym roots] =
        roots.flatMap fun token => textOf [token]) ∧
      sizeOf roots = roots.foldr (fun token total => sizeOf [token] + total) 0 := by
  have walk := yields_leavesOfAll roots.reverse
  rw [List.reverse_reverse, ← leaves_eq_leavesOfAll] at walk
  refine ⟨fun yielded => ⟨fun other => other.unique walk, fun same => same ▸ walk⟩,
    leaves_eq_leavesOfAll roots, ⟨leafPlacesFrom 0 roots, pairwise_leafPlacesFrom 0 roots,
      fun place => mem_leafPlacesFrom_zero_iff, ?_⟩, fun token => sizeOf_eq_size_textOf [token],
    sizeOf_eq_size_textOf roots, textOf_eq_flatMap roots, ?_, sizeOf_eq_foldr roots⟩
  · rw [leaves_eq_leavesOfAll]
    exact (map_at?_leafPlacesFrom roots 0 roots fun step => by rw [Nat.zero_add]).symm
  · intro kind synonym
    rw [textOf_composite, textOf_eq_flatMap]

end Token
end FencedHighlight
