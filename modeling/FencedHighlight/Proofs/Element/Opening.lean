import FencedHighlight.Proofs.Element.Program
import FencedHighlight.Proofs.Element.Recognition
import FencedHighlight.Proofs.Pattern.Settled

namespace FencedHighlight
namespace Element

/-!
The search for an opening tag.

A run that looks for an opening tag comes to the first text that passes for one.  At each place it
goes back at least once, and where the name stands it may go back twice for each character up to
the next closing bracket.
-/

open Pattern Pattern.Reader
open Pattern.Machine (Hay Slots Effort ComesWithin comes_of_retreat comes_of_finish comes_of_abandon
  move noted noted_cons advance? settle? advance?_take settle?_take getElem?_of_split
  getElem?_pred_of_split)

variable {code : Array Instruction} {hay : Hay} {slots : Slots} {before rest : Text}
  {entry next finish : Nat}

/-! ## Single pieces -/

/-- How a run takes a character. -/
theorem move_take (slots : Slots) {member : CharClass} (here : code[entry]? = some (.take member next))
    (split : hay.chars.toList = before ++ rest) (kept : Nat) :
    move code hay kept ⟨entry, before.length, slots, []⟩ =
      if rest.head?.any member.contains then .go ⟨next, before.length + 1, slots, []⟩
      else .retreat := by
  simp only [move, here, advance?_take split]
  cases rest.head?.any member.contains
  · rfl
  · rfl

/-- How a run goes on from a settled character. -/
theorem move_settled (slots : Slots) {member : CharClass} {nesting : Nat}
    (stands : Tree.Stands code (.settled (.one member nesting)) entry next)
    (split : hay.chars.toList = before ++ rest) (kept : Nat) :
    move code hay kept ⟨entry, before.length, slots, []⟩ =
      if rest.head?.any member.contains then .go ⟨next, before.length + 1, slots, []⟩
      else .retreat := by
  cases stands with
  | settled here inner ends =>
      cases inner with
      | one takes =>
          simp only [move, here, settle?_take takes ends, advance?_take split]
          cases rest.head?.any member.contains
          · rfl
          · rfl

/-! ## The end of a tag -/

/-- What follows a match: its end is noted. -/
def Ends (code : Array Instruction) (finish : Nat) : Prop :=
  ∃ last, code[finish]? = some (.mark 1 last) ∧ code[last]? = some .accept

theorem comes_of_ends (ends : Ends code finish) (position : Nat) :
    ComesWithin code hay ⟨finish, position, slots, []⟩ ⟨2, 0, 0⟩ (some (slots.write 1 position)) := by
  rcases ends with ⟨last, marks, accepts⟩
  have finishes : ComesWithin code hay ⟨last, position, slots.write 1 position, []⟩ ⟨1, 0, 0⟩
      (some (slots.write 1 position)) :=
    (comes_of_finish fun kept => by simp only [move, accepts]).within
  exact finishes.go fun kept => by simp only [move, marks, advance?]

theorem comes_settled_bracket (split : hay.chars.toList = before ++ rest) (ends : Ends code finish)
    (stands : Tree.Stands code (.settled (letter '>')) entry finish) :
    ComesWithin code hay ⟨entry, before.length, slots, []⟩ ⟨3, 0, 0⟩
      (if rest.head? = some '>' then some (slots.write 1 (before.length + 1)) else none) := by
  have moves := move_settled slots stands split
  simp only [any_mark (Or.inr rfl), decide_eq_true_eq] at moves
  by_cases closes : rest.head? = some '>'
  · simp only [if_pos closes] at moves ⊢
    exact (comes_of_ends ends (before.length + 1)).go moves
  · simp only [if_neg closes] at moves ⊢
    exact (comes_of_retreat moves).within.mono ⟨by decide, Nat.le_refl _, Nat.le_refl _⟩

/-- A closing bracket with no slash before it. -/
theorem comes_bracket (slots : Slots) {last : Char} (split : hay.chars.toList = before ++ rest)
    (passed : before.getLast? = some last) (ends : Ends code finish)
    (stands : Tree.StandsAll code
      [.look .behind false (.settled (letter '/')), .settled (letter '>')] entry finish) :
    ComesWithin code hay ⟨entry, before.length, slots, []⟩ ⟨6, 1, 1⟩
      (if last ≠ '/' ∧ rest.head? = some '>' then some (slots.write 1 (before.length + 1))
        else none) := by
  rcases stands with ⟨middle, looks, _, brackets, rfl⟩
  rcases List.getLast?_eq_some_iff.mp passed with ⟨init, rfl⟩
  have split' := split.trans (List.append_cons init last rest).symm
  cases looks with
  | @notBehind _ _ start first close _ forks goes inner abandons =>
      have position : (init ++ [last]).length = init.length + 1 := List.length_append
      have examines (kept : Nat) : move code hay kept ⟨start, (init ++ [last]).length, slots, []⟩ =
          .go ⟨first, init.length, slots, []⟩ := by
        have goes : code[start]? = some (.goBack 1 first) := goes
        simp only [move, goes, advance?, position]
        rw [if_pos (Nat.le_add_left 1 _)]
        rfl
      have looks := move_settled slots inner split'
      have chooses (kept : Nat) : move code hay kept ⟨entry, (init ++ [last]).length, slots, []⟩ =
          .fork ⟨start, (init ++ [last]).length, slots, []⟩
            ⟨middle, (init ++ [last]).length, slots, []⟩ := by
        simp only [move, forks]
      simp only [any_mark (Or.inl rfl), List.head?_cons, Option.some_inj, decide_eq_true_eq] at looks
      by_cases slashed : last = '/'
      · rw [if_neg fun both => both.1 slashed]
        simp only [if_pos slashed] at looks
        have abandoned := comes_of_abandon chooses rfl examines looks
          fun kept => by simp only [move, abandons]
        exact abandoned.within.mono ⟨by decide, by decide, by decide⟩
      · simp only [if_neg slashed] at looks
        have fails := (comes_of_retreat looks).within.go examines
        have both := fails.fork (comes_settled_bracket split ends brackets) chooses
        rw [Option.none_or] at both
        simp only [ne_eq, slashed, not_false_eq_true, true_and]
        exact both

/-- The number of places up to the next closing bracket. -/
def reach (text : Text) : Nat :=
  (text.takeWhile (· ≠ '>')).length + 1

theorem reach_bracket (rest : Text) : reach ('>' :: rest) = 1 :=
  rfl

theorem reach_cons {char : Char} (closes : char ≠ '>') (rest : Text) :
    reach (char :: rest) = reach rest + 1 := by
  rw [reach, List.takeWhile_cons, if_pos (decide_eq_true closes), List.length_cons, reach]

/-- What is left of a tag behind a character of it. -/
theorem comes_unclosed (slots : Slots) {last : Char} (split : hay.chars.toList = before ++ rest)
    (passed : before.getLast? = some last) (ends : Ends code finish)
    (stands : Tree.StandsAll code
      [unclosed, .look .behind false (.settled (letter '/')), .settled (letter '>')] entry finish) :
    ComesWithin code hay ⟨entry, before.length, slots, []⟩
      ⟨8 * reach rest, 2 * reach rest, reach rest⟩
      ((bracket? last rest).map fun tail => slots.write 1 (before.length + tail.length)) := by
  rcases stands with ⟨middle, loops, shuts⟩
  cases loops with
  | @many _ _ _ _ round _ forks takes =>
  have chooses {position : Nat} (kept : Nat) : move code hay kept ⟨entry, position, slots, []⟩ =
      .fork ⟨round, position, slots, []⟩ ⟨middle, position, slots, []⟩ := by
    simp only [move, forks, Instruction.forkRound, if_true]
  have shut {before rest : Text} {last : Char} (split : hay.chars.toList = before ++ rest)
      (passed : before.getLast? = some last) :=
    comes_bracket slots split passed ends shuts
  -- the loop goes on up to the bracket, and back over all that it has taken
  induction rest generalizing before last with
  | nil =>
      have stops := (comes_of_retreat (move_take slots takes split)).within
      have both := stops.fork (shut split passed) chooses
      rw [Option.none_or, if_neg fun both => nomatch both.2] at both
      exact both
  | cons char rest ih =>
      have moves := move_take slots takes split
      simp only [List.head?_cons, Option.any_some, contains_unclosed, bne_iff_ne] at moves
      by_cases closes : char = '>'
      · subst closes
        simp only [ne_eq, not_true_eq_false, if_false] at moves
        have both := (comes_of_retreat moves).within.fork (shut split passed) chooses
        rw [Option.none_or] at both
        rw [reach_bracket, bracket?, if_pos rfl]
        by_cases slashed : last = '/'
        · rw [if_neg fun both => both.1 slashed] at both
          rw [if_pos slashed]
          exact both
        · rw [if_pos ⟨slashed, rfl⟩] at both
          rw [if_neg slashed]
          exact both
      · simp only [ne_eq, closes, not_false_eq_true, if_true] at moves
        have split' := split.trans (List.append_cons before char rest)
        have onwards := ih split' List.getLast?_concat
        rw [List.length_append, List.length_singleton] at onwards
        have both := (onwards.go moves).fork (shut split passed) chooses
        rw [if_neg fun both => closes (Option.some.inj both.2), Option.or_none] at both
        rw [reach_cons closes, bracket?, if_neg closes, Option.map_map]
        have same : ((fun tail => slots.write 1 (before.length + tail.length)) ∘ (char :: ·)) =
            fun tail : Text => slots.write 1 (before.length + 1 + tail.length) := by
          funext tail
          rw [Function.comp_apply, List.length_cons, Nat.add_assoc, Nat.add_comm 1]
        rw [same]
        refine both.mono ⟨?_, ?_, ?_⟩
        · simp only
          omega
        · simp only
          omega
        · simp only
          omega

/-! ## A tag at a place -/

theorem spelled?_cons {char other : Char} {row : Text} (same : Unicode.sameUpToCase char other = true) :
    spelled? (char :: row) (other :: rest) =
      (spelled? row rest).map fun parts => (other :: parts.1, parts.2) := by
  rw [spelled?, if_pos same]

/-- A row of settled characters is followed letter by letter, and then what comes behind it. -/
theorem comes_row {row : Text} (plain : ∀ char ∈ row, char.toNat < 128 ∧ char ≠ '\x00')
    {trees : List Tree} {bound : Effort} {result : Text × Text -> Option Slots}
    (stands : Tree.StandsAll code (row.map (.settled ∘ rowTree folding) ++ trees) entry finish)
    (split : hay.chars.toList = before ++ rest)
    (later : ∀ spelled after middle, spelled? row rest = some (spelled, after) ->
      Tree.StandsAll code trees middle finish ->
      ComesWithin code hay ⟨middle, before.length + spelled.length, slots, []⟩ bound
        (result (spelled, after))) :
    ComesWithin code hay ⟨entry, before.length, slots, []⟩
      ⟨rest.length + 1 + bound.steps, bound.retreats, bound.choices⟩
      ((spelled? row rest).bind result) := by
  induction row generalizing entry before rest result with
  | nil =>
      exact (later [] rest entry rfl stands).mono
        ⟨Nat.le_add_left _ _, Nat.le_refl _, Nat.le_refl _⟩
  | cons char row ih =>
      have both := List.forall_mem_cons.mp plain
      rcases contains_rowTree both.1.1 both.1.2 with ⟨member, nesting, same, contains⟩
      rcases stands with ⟨middle, letter, others⟩
      rw [Function.comp_apply, same] at letter
      have moves := move_settled slots letter split
      have stops (fails : ∀ kept, move code hay kept ⟨entry, before.length, slots, []⟩ = .retreat) :
          ComesWithin code hay ⟨entry, before.length, slots, []⟩
            ⟨rest.length + 1 + bound.steps, bound.retreats, bound.choices⟩ none :=
        (comes_of_retreat fails).within.mono ⟨by simp only; omega, Nat.zero_le _, Nat.zero_le _⟩
      cases rest with
      | nil => exact stops moves
      | cons other rest =>
          simp only [List.head?_cons, Option.any_some, contains] at moves
          by_cases equal : Unicode.sameUpToCase char other = true
          · simp only [if_pos equal] at moves
            have split' := split.trans (List.append_cons before other rest)
            have onwards : ComesWithin code hay ⟨middle, (before ++ [other]).length, slots, []⟩ _
                ((spelled? row rest).bind fun parts => result (other :: parts.1, parts.2)) :=
              ih both.2 others split' fun spelled after middle found stands => by
                have all := later (other :: spelled) after middle
                  (by rw [spelled?_cons equal, found]; rfl) stands
                rw [List.length_cons, Nat.add_comm spelled.length, ← Nat.add_assoc] at all
                rw [List.length_append, List.length_singleton]
                exact all
            rw [List.length_append, List.length_singleton] at onwards
            rw [spelled?_cons equal, Option.bind_map]
            refine (onwards.go moves).mono ⟨?_, Nat.le_refl _, Nat.le_refl _⟩
            simp only [List.length_cons]
            omega
          · simp only [if_neg equal] at moves
            rw [spelled?, if_neg equal]
            exact stops moves

theorem holds_wordBoundary (split : hay.chars.toList = before ++ rest) (filled : before ≠ []) :
    hay.holds before.length .wordBoundary =
      (before.getLast?.any isWord != rest.head?.any isWord) := by
  have inside := List.length_pos_iff.mpr filled
  rw [Hay.holds, Hay.isWordBefore, Hay.isWordAt, Hay.isWordAt, getElem?_of_split split,
    getElem?_pred_of_split split filled, decide_eq_true inside, Bool.true_and]
  rfl

/-- The places that a run goes through behind a name, if the name stands at the beginning of a
tag and a boundary of words behind it. -/
def passages (name text : Text) : Nat :=
  (spelled? ('<' :: name) text).elim 0 fun parts => if divides parts then reach parts.2 else 0

/-- What is left of a tag behind its name. -/
theorem comes_arrangedEnd (slots : Slots) {spelled after : Text} (filled : spelled ≠ [])
    (split : hay.chars.toList = before ++ spelled ++ after) (ends : Ends code finish)
    (stands : Tree.StandsAll code arrangedEnd entry finish) :
    ComesWithin code hay ⟨entry, (before ++ spelled).length, slots, []⟩
      (if divides (spelled, after) then ⟨8 * reach after + 1, 2 * reach after, reach after⟩
        else ⟨1, 0, 0⟩)
      ((whole? (spelled, after)).map fun tag => slots.write 1 (before.length + tag.length)) := by
  rcases stands with ⟨middle, checks, others⟩
  have last : spelled.getLast? = some (spelled.getLastD '<') := by
    rw [List.getLastD_eq_getLast?, List.getLast?_eq_some_getLast filled]
    rfl
  have passed : (before ++ spelled).getLast? = some (spelled.getLastD '<') := by
    rw [List.getLast?_append, last]
    rfl
  cases checks with
  | anchor here =>
      have moves (kept : Nat) : move code hay kept ⟨entry, (before ++ spelled).length, slots, []⟩ =
          if divides (spelled, after) then .go ⟨middle, (before ++ spelled).length, slots, []⟩
          else .retreat := by
        have holds : hay.holds (before ++ spelled).length .wordBoundary = divides (spelled, after) := by
          rw [holds_wordBoundary split (List.append_ne_nil_of_right_ne_nil _ filled), passed, ← last]
          rfl
        cases divided : divides (spelled, after)
        · simp only [move, here, advance?, holds, divided, Bool.false_eq_true, if_false]
        · simp only [move, here, advance?, holds, divided, if_true]
      rw [whole?]
      by_cases divided : divides (spelled, after) = true
      · simp only [if_pos divided] at moves ⊢
        have tail := (comes_unclosed slots split passed ends others).go moves
        rw [Option.map_map]
        have same : ((fun tag : Text => slots.write 1 (before.length + tag.length)) ∘ (spelled ++ ·)) =
            fun tail : Text => slots.write 1 ((before ++ spelled).length + tail.length) := by
          funext tail
          rw [Function.comp_apply, List.length_append, List.length_append, Nat.add_assoc]
        rw [same]
        exact tail
      · simp only [if_neg divided] at moves ⊢
        exact (comes_of_retreat moves).within

/-- What passes for an opening tag at a place is found there. -/
theorem comes_tag (slots : Slots) {name : Text} (named : IsName name)
    (split : hay.chars.toList = before ++ rest)
    (ends : Ends code finish) (stands : Tree.StandsAll code (openingTrees name) entry finish) :
    ComesWithin code hay ⟨entry, before.length, slots, []⟩
      ⟨rest.length + 2 + 8 * passages name rest, 2 * passages name rest, passages name rest⟩
      ((passing? name rest).map fun tag => slots.write 1 (before.length + tag.length)) := by
  have plain : ∀ char ∈ '<' :: name, char.toNat < 128 ∧ char ≠ '\x00' :=
    List.forall_mem_cons.mpr ⟨by decide, plain_name named⟩
  have row : ComesWithin code hay ⟨entry, before.length, slots, []⟩ _
      ((spelled? ('<' :: name) rest).bind fun parts =>
        (whole? parts).map fun tag => slots.write 1 (before.length + tag.length)) :=
    @comes_row code hay slots before rest entry finish _ plain arrangedEnd
      ⟨8 * passages name rest + 1, 2 * passages name rest, passages name rest⟩ _ stands split ?_
  · rw [passing?, Option.map_bind]
    exact row.mono ⟨by simp only; omega, Nat.le_refl _, Nat.le_refl _⟩
  · intro spelled after middle found stands
    have parts := (spelled?_eq_some_iff).mp found
    have filled : spelled ≠ [] := by
      rintro rfl
      cases parts.2
    have split' : hay.chars.toList = before ++ spelled ++ after := by
      rw [split, parts.1, List.append_assoc]
    have tail := comes_arrangedEnd slots filled split' ends stands
    rw [List.length_append] at tail
    refine tail.mono ?_
    rw [passages, found, Option.elim_some]
    by_cases divided : divides (spelled, after) = true
    · rw [if_pos divided, if_pos divided]
      exact ⟨Nat.le_refl _, Nat.le_refl _, Nat.le_refl _⟩
    · rw [if_neg divided, if_neg divided]
      exact ⟨Nat.le_refl _, Nat.le_refl _, Nat.le_refl _⟩

/-! ## The search -/

/-- How often a search of a text for an opening tag may have to go back. -/
def labour (name : Text) : Text -> Nat
  | [] => 1
  | char :: text => 2 * passages name (char :: text) + 1 + labour name text

theorem passages_le (name text : Text) : passages name text ≤ text.length := by
  rw [passages]
  cases found : spelled? ('<' :: name) text with
  | none => exact Nat.zero_le _
  | some parts =>
      rcases (spelled?_eq_some_iff).mp found with ⟨rfl, spells⟩
      have marked : 0 < parts.1.length := by
        rw [← spells.length_eq]
        exact Nat.zero_lt_succ _
      have within : reach parts.2 ≤ parts.2.length + 1 :=
        Nat.succ_le_succ (List.takeWhile_sublist _).length_le
      rw [Option.elim_some, List.length_append]
      split
      · omega
      · exact Nat.zero_le _

/-- The labour is at most quadratic. -/
theorem labour_le (name text : Text) : labour name text ≤ (text.length + 1) * (text.length + 1) := by
  induction text with
  | nil => exact Nat.le_refl 1
  | cons char text ih =>
      have here := passages_le name (char :: text)
      rw [List.length_cons] at here ⊢
      rw [labour, Nat.add_mul, Nat.mul_add]
      omega

/-- A rest of a text takes no more labour than the text. -/
theorem labour_le_append (name before rest : Text) :
    labour name rest ≤ labour name (before ++ rest) := by
  induction before with
  | nil => exact Nat.le_refl _
  | cons char before ih => exact Nat.le_trans ih (Nat.le_add_left _ _)

/-- A search comes to the first text that passes for an opening tag. -/
theorem comes_search {name : Text} (named : IsName name) {program : Program}
    (searches : program.Searches (.group 0 (Tree.sequence (openingTrees name))))
    (split : hay.chars.toList = before ++ rest) :
    ComesWithin program.code hay ⟨program.entry, before.length, slots, []⟩
      ⟨(rest.length + 1) * (rest.length + 5) + 4 * labour name rest, labour name rest,
        labour name rest⟩
      ((Text.first? (passing? name) rest).map (noted slots before.length)) := by
  rcases searches.stands with ⟨start, farther, forks, group, goes⟩
  have chooses {position : Nat} (kept : Nat) :
      move program.code hay kept ⟨program.entry, position, slots, []⟩ =
        .fork ⟨start, position, slots, []⟩ ⟨farther, position, slots, []⟩ := by
    simp only [move, forks]
  cases group with
  | @group _ _ _ first last _ opens inner closes =>
  have tag {before rest : Text} (split : hay.chars.toList = before ++ rest) :
      ComesWithin program.code hay ⟨start, before.length, slots, []⟩
        ⟨rest.length + 3 + 8 * passages name rest, 2 * passages name rest, passages name rest⟩
        ((passing? name rest).map fun tag => noted slots before.length ([], tag)) := by
    have inside := comes_tag (slots.write 0 before.length) named split
      ⟨0, closes, searches.ends⟩ inner.all
    refine (inside.go fun kept => ?_).mono ⟨?_, Nat.le_refl _, Nat.le_refl _⟩
    · simp only [move, opens, advance?]
    · simp only
      omega
  induction rest generalizing before with
  | nil =>
      have stops := (comes_of_retreat (move_take slots goes split)).within
      have both := (tag split).fork stops chooses
      have none : passing? name [] = none := rfl
      have still : passages name [] = 0 := rfl
      have once : labour name [] = 1 := rfl
      rw [none, still] at both
      rw [Text.first?, none, once]
      exact both.mono ⟨by decide, by decide, by decide⟩
  | cons char rest ih =>
      have split' := split.trans (List.append_cons before char rest)
      have onwards := ih split'
      rw [List.length_append, List.length_singleton] at onwards
      have both := (tag split).fork (onwards.go (move_take slots goes split)) chooses
      rw [Text.first?_map_cons (noted_cons slots before.length char)] at both
      refine both.mono ⟨?_, ?_, ?_⟩
      · have grows : (rest.length + 1 + 1) * (rest.length + 1 + 5) =
            (rest.length + 1) * (rest.length + 5) + 2 * rest.length + 7 := by
          simp only [Nat.add_mul, Nat.mul_add]
          omega
        simp only [labour, List.length_cons, grows]
        omega
      · simp only [labour]
        omega
      · simp only [labour]
        omega

end Element
end FencedHighlight
