import FencedHighlight.Proofs.Element.Program
import FencedHighlight.Proofs.Element.Recognition
import FencedHighlight.Proofs.Pattern.Settled

namespace FencedHighlight
namespace Element

/-!
The search for a closing tag.

The whole search is settled, so it always comes to the first closing tag of the element.
-/

open Pattern Pattern.Reader
open Pattern.Machine (Hay Moment Slots Settled MatchesAs ended settled_ended settled_fork
  settled_stuck settled_take)

variable {code : Array Instruction} {hay : Hay} {slots : Slots} {before rest : Text}
  {entry finish : Nat}

/-- A row of characters is followed letter by letter, and then what comes behind it. -/
theorem settled_row {row : Text} (plain : ∀ char ∈ row, char.toNat < 128 ∧ char ≠ '\x00')
    {trees : List Tree} {result : Text × Text -> Option Moment}
    (stands : Tree.StandsAll code (row.map (rowTree folding) ++ trees) entry finish)
    (split : hay.chars.toList = before ++ rest)
    (later : ∀ spelled after middle, rest = spelled ++ after ->
      Tree.StandsAll code trees middle finish ->
      Settled code hay ⟨middle, before.length + spelled.length, slots, []⟩
        (result (spelled, after))) :
    Settled code hay ⟨entry, before.length, slots, []⟩ ((spelled? row rest).bind result) := by
  induction row generalizing entry before rest result with
  | nil => exact later [] rest entry rfl stands
  | cons char row ih =>
      have both := List.forall_mem_cons.mp plain
      rcases contains_rowTree both.1.1 both.1.2 with ⟨member, nesting, same, contains⟩
      rcases stands with ⟨middle, letter, others⟩
      rw [same] at letter
      cases letter with
      | one here =>
      cases rest with
      | nil => exact settled_stuck here split Bool.false_ne_true
      | cons other rest =>
          have split' := split.trans (List.append_cons before other rest)
          have onwards : Settled code hay ⟨middle, (before ++ [other]).length, slots, []⟩
              ((spelled? row rest).bind fun parts => result (other :: parts.1, parts.2)) :=
            ih both.2 others split' fun spelled after middle found stands => by
              have all := later (other :: spelled) after middle (by rw [found]; rfl) stands
              rw [List.length_cons, Nat.add_comm spelled.length, ← Nat.add_assoc] at all
              rw [List.length_append, List.length_singleton]
              exact all
          rw [List.length_append, List.length_singleton] at onwards
          have taken := settled_take here split onwards
          rw [List.head?_cons, Option.any_some, contains] at taken
          rw [spelled?]
          by_cases equal : Unicode.sameUpToCase char other = true
          · rw [if_pos equal] at taken ⊢
            rw [Option.bind_map]
            exact taken
          · rw [if_neg equal] at taken ⊢
            exact taken

/-- A closing bracket. -/
theorem settled_bracket (slots : Slots) (split : hay.chars.toList = before ++ rest)
    (marks : code[finish]? = some (.mark 1 0)) (accepts : code[0]? = some .accept)
    (stands : Tree.Stands code (letter '>') entry finish) :
    Settled code hay ⟨entry, before.length, slots, []⟩
      (if rest.head? = some '>' then some (ended slots (before.length + 1)) else none) := by
  cases stands with
  | one here =>
      have taken := settled_take here split
        (settled_ended slots marks accepts (before.length + 1))
      simp only [any_mark (Or.inr rfl), decide_eq_true_eq] at taken
      exact taken

/-- White space up to a closing bracket. -/
theorem settled_closingEnd (slots : Slots) (split : hay.chars.toList = before ++ rest)
    (marks : code[finish]? = some (.mark 1 0)) (accepts : code[0]? = some .accept)
    (stands : Tree.StandsAll code closingEnd entry finish) :
    Settled code hay ⟨entry, before.length, slots, []⟩
      ((blanks? rest).map fun tail => ended slots (before.length + tail.length)) := by
  rcases stands with ⟨middle, loops, _, brackets, rfl⟩
  cases loops with
  | @many _ _ _ _ round _ forks takes =>
  have here : code[entry]? = some (.fork round middle) := by
    simpa only [Instruction.forkRound, if_true] using forks
  have bracket : CharClass.space.contains '>' = false := by decide +kernel
  induction rest generalizing before with
  | nil =>
      exact settled_fork here (settled_stuck takes split Bool.false_ne_true)
        (settled_bracket slots split marks accepts brackets)
  | cons char rest ih =>
      have split' := split.trans (List.append_cons before char rest)
      have onwards := ih split'
      rw [List.length_append, List.length_singleton] at onwards
      have both := settled_fork here (settled_take takes split onwards)
        (settled_bracket slots split marks accepts brackets)
      simp only [List.head?_cons, Option.any_some, Option.some_inj] at both
      rw [blanks?]
      by_cases blank : CharClass.space.contains char = true
      · have apart : char ≠ '>' := by
          rintro rfl
          rw [bracket] at blank
          cases blank
        simp only [blank, apart, if_true, if_false, Option.or_none] at both
        have moved : (fun tail : Text => ended slots (before.length + tail.length)) ∘ (char :: ·) =
            fun tail => ended slots (before.length + 1 + tail.length) := by
          funext tail
          rw [Function.comp_apply, List.length_cons, Nat.add_assoc, Nat.add_comm 1]
        rw [if_pos blank, Option.map_map, moved]
        exact both
      · simp only [blank, Bool.false_eq_true, if_false, Option.none_or] at both ⊢
        by_cases closes : char = '>'
        · rw [if_pos closes] at both ⊢
          exact both
        · rw [if_neg closes] at both ⊢
          exact both

/-- The pattern for a closing tag matches the closing tag at the beginning of a text. -/
theorem matchesAs_closing {name : Text} (named : IsName name) :
    MatchesAs code hay (Tree.sequence (closingTrees name)) (closing? name) := by
  intro before rest entry finish slots split marks accepts stands
  have plain : ∀ char ∈ '<' :: '/' :: name, char.toNat < 128 ∧ char ≠ '\x00' :=
    List.forall_mem_cons.mpr ⟨by decide, List.forall_mem_cons.mpr ⟨by decide, plain_name named⟩⟩
  have row : Settled code hay ⟨entry, before.length, slots, []⟩
      ((spelled? ('<' :: '/' :: name) rest).bind fun parts => (blanks? parts.2).map fun tail =>
        ended slots (before.length + (parts.1 ++ tail).length)) := by
    refine settled_row plain stands.all split fun spelled after middle parts stands => ?_
    have split' : hay.chars.toList = (before ++ spelled) ++ after := by
      rw [split, parts, List.append_assoc]
    have tail := settled_closingEnd slots split' marks accepts stands
    simp only [List.length_append, ← Nat.add_assoc] at tail ⊢
    exact tail
  rw [closing?, Option.map_bind]
  simp only [Function.comp_def, Option.map_map]
  exact row

end Element
end FencedHighlight
