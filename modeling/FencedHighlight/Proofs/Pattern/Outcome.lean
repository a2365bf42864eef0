import FencedHighlight.Pattern.Machine
import Mathlib.Logic.Basic

namespace FencedHighlight
namespace Pattern
namespace Machine

/-!
What a run comes to, and at what cost.

From a moment a run either finishes or goes back to the choices that were there before.
Which of the two does not depend on those choices, and neither do the steps and retreats that it
takes and the choices that it keeps meanwhile.  A run that is short of one of them finds
nothing.
-/

variable {code : Array Instruction} {hay : Hay} {moment first second : Moment}
  {result : Option Slots}

/-- What a run takes. -/
structure Effort where
  steps : Nat
  retreats : Nat
  /-- The number of choices that it keeps at once. -/
  choices : Nat

/-- Whether there is enough for a run. -/
def Effort.Fits (effort : Effort) (steps left kept : Nat) : Prop :=
  effort.steps ≤ steps ∧ effort.retreats ≤ left ∧ kept + effort.choices ≤ choiceLimit

instance (effort : Effort) (steps left kept : Nat) : Decidable (effort.Fits steps left kept) :=
  inferInstanceAs (Decidable (_ ∧ _ ∧ _))

/-- Go on with the choice kept last. -/
def resume (code : Array Instruction) (hay : Hay) (steps left kept : Nat) :
    List Moment -> Option Slots
  | [] => none
  | choice :: choices =>
      if left = 0 then none else run code hay steps (left - 1) choice (kept - 1) choices

/-- Whether a run from a moment finishes with some slots, or else goes back to the choices that
were there before. -/
def Comes (code : Array Instruction) (hay : Hay) (moment : Moment) (effort : Effort)
    (result : Option Slots) : Prop :=
  ∀ steps left kept choices, kept ≤ choiceLimit ->
    run code hay steps left moment kept choices =
      if effort.Fits steps left kept then
        result.or (resume code hay (steps - effort.steps) (left - effort.retreats) kept choices)
      else
        none

/-- It is enough to know what a run comes to that has a step to begin with. -/
theorem comes_of_succ {effort : Effort} (positive : 0 < effort.steps)
    (comes : ∀ steps left kept choices, kept ≤ choiceLimit ->
      run code hay (steps + 1) left moment kept choices =
        if effort.Fits (steps + 1) left kept then
          result.or
            (resume code hay (steps + 1 - effort.steps) (left - effort.retreats) kept choices)
        else
          none) :
    Comes code hay moment effort result := by
  intro steps left kept choices bounded
  cases steps with
  | zero => rw [run, if_neg fun fits => absurd fits.1 (Nat.not_le_of_lt positive)]
  | succ steps => exact comes steps left kept choices bounded

theorem run_retreat {steps left kept : Nat} {choices : List Moment}
    (moves : ∀ kept, move code hay kept moment = .retreat) :
    run code hay (steps + 1) left moment kept choices = resume code hay steps left kept choices := by
  rw [run, moves]
  simp only
  cases left <;> cases choices <;> rfl

theorem comes_of_retreat (moves : ∀ kept, move code hay kept moment = .retreat) :
    Comes code hay moment ⟨1, 0, 0⟩ none := by
  refine comes_of_succ Nat.zero_lt_one fun steps left kept choices bounded => ?_
  rw [run_retreat moves, if_pos ⟨Nat.le_add_left 1 steps, Nat.zero_le _, bounded⟩]
  rfl

theorem comes_of_finish (moves : ∀ kept, move code hay kept moment = .finish) :
    Comes code hay moment ⟨1, 0, 0⟩ (some moment.slots) := by
  refine comes_of_succ Nat.zero_lt_one fun steps left kept choices bounded => ?_
  rw [run, moves, if_pos ⟨Nat.le_add_left 1 steps, Nat.zero_le _, bounded⟩]
  rfl

theorem Comes.go {effort : Effort} (comes : Comes code hay first effort result)
    (moves : ∀ kept, move code hay kept moment = .go first) :
    Comes code hay moment { effort with steps := effort.steps + 1 } result := by
  refine comes_of_succ (Nat.succ_pos _) fun steps left kept choices bounded => ?_
  rw [run, moves]
  simp only [comes steps left kept choices bounded, Nat.succ_sub_succ]
  exact if_congr (by simp only [Effort.Fits]; omega) rfl rfl

/-- A fork comes to what its first way comes to, if that finishes. -/
theorem Comes.fork_first {effort : Effort} {slots : Slots}
    (comes : Comes code hay first effort (some slots))
    (moves : ∀ kept, move code hay kept moment = .fork first second) :
    Comes code hay moment ⟨effort.steps + 1, effort.retreats, effort.choices + 1⟩ (some slots) := by
  refine comes_of_succ (Nat.succ_pos _) fun steps left kept choices bounded => ?_
  rw [run, moves]
  simp only [Option.some_or]
  by_cases room : kept < choiceLimit
  · rw [if_pos room, comes steps left (kept + 1) _ room]
    exact if_congr (by simp only [Effort.Fits]; omega) rfl rfl
  · rw [if_neg room, if_neg fun fits => room (by have := fits.2.2; simp only at this; omega)]

/-- A fork comes to what its second way comes to, if the first one fails. -/
theorem Comes.fork_second {sooner later : Effort} (fails : Comes code hay first sooner none)
    (comes : Comes code hay second later result)
    (moves : ∀ kept, move code hay kept moment = .fork first second) :
    Comes code hay moment ⟨sooner.steps + later.steps + 1, sooner.retreats + later.retreats + 1,
      max (sooner.choices + 1) later.choices⟩ result := by
  refine comes_of_succ (Nat.succ_pos _) fun steps left kept choices bounded => ?_
  rw [run, moves]
  simp only
  by_cases room : kept < choiceLimit
  · rw [if_pos room, fails steps left (kept + 1) _ room, Option.none_or, resume]
    by_cases fits : sooner.Fits steps left (kept + 1)
    · rw [if_pos fits]
      by_cases spent : left - sooner.retreats = 0
      · rw [if_pos spent, if_neg fun fits => absurd fits.2.1 (by simp only; omega)]
      · rw [if_neg spent, Nat.add_sub_cancel, comes _ _ kept choices bounded]
        have steps' : steps - sooner.steps - later.steps =
            steps + 1 - (sooner.steps + later.steps + 1) := by omega
        have left' : left - sooner.retreats - 1 - later.retreats =
            left - (sooner.retreats + later.retreats + 1) := by omega
        rw [steps', left']
        refine if_congr ?_ rfl rfl
        simp only [Effort.Fits] at fits ⊢
        omega
    · rw [if_neg fits, if_neg fun whole => fits ?_]
      simp only [Effort.Fits] at whole ⊢
      omega
  · rw [if_neg room, if_neg fun fits => room ?_]
    simp only [Effort.Fits] at fits
    omega

/-- A fork fails if its first way abandons it. -/
theorem comes_of_abandon {middle last : Moment} {place : Nat}
    (forks : ∀ kept, move code hay kept moment = .fork first second) (here : second.place = place)
    (goes : ∀ kept, move code hay kept first = .go middle)
    (onwards : ∀ kept, move code hay kept middle = .go last)
    (abandons : ∀ kept, move code hay kept last = .abandon place) :
    Comes code hay moment ⟨4, 0, 1⟩ none := by
  intro steps left kept choices bounded
  match steps with
  | 0 | 1 | 2 | 3 =>
      rw [if_neg fun fits => absurd fits.1 (by simp only; omega)]
      simp only [run, forks, goes, onwards, ite_self]
  | steps + 4 =>
      simp only [run, forks, goes, onwards, abandons, choicesAfter, if_pos here]
      by_cases room : kept < choiceLimit
      · rw [if_pos room, if_pos ⟨Nat.le_add_left 4 steps, Nat.zero_le _, room⟩]
        cases left <;> cases choices <;> rfl
      · rw [if_neg room, if_neg fun fits => room fits.2.2]

/-! ## Bounds -/

/-- Whether a run takes no more than another one. -/
structure Effort.AtMost (effort bound : Effort) : Prop where
  steps : effort.steps ≤ bound.steps
  retreats : effort.retreats ≤ bound.retreats
  choices : effort.choices ≤ bound.choices

/-- What a run from a moment comes to, with no more than a certain effort. -/
def ComesWithin (code : Array Instruction) (hay : Hay) (moment : Moment) (bound : Effort)
    (result : Option Slots) : Prop :=
  ∃ effort, effort.AtMost bound ∧ Comes code hay moment effort result

variable {bound larger sooner later : Effort} {other : Option Slots}

theorem Comes.within (comes : Comes code hay moment bound result) :
    ComesWithin code hay moment bound result :=
  ⟨bound, ⟨Nat.le_refl _, Nat.le_refl _, Nat.le_refl _⟩, comes⟩

namespace ComesWithin

theorem mono (comes : ComesWithin code hay moment bound result) (ordered : bound.AtMost larger) :
    ComesWithin code hay moment larger result := by
  rcases comes with ⟨effort, small, comes⟩
  exact ⟨effort, ⟨Nat.le_trans small.steps ordered.steps,
    Nat.le_trans small.retreats ordered.retreats, Nat.le_trans small.choices ordered.choices⟩, comes⟩

theorem go (comes : ComesWithin code hay first bound result)
    (moves : ∀ kept, move code hay kept moment = .go first) :
    ComesWithin code hay moment ⟨bound.steps + 1, bound.retreats, bound.choices⟩ result := by
  rcases comes with ⟨effort, small, comes⟩
  exact ⟨{ effort with steps := effort.steps + 1 },
    ⟨Nat.add_le_add_right small.steps 1, small.retreats, small.choices⟩, comes.go moves⟩

/-- A fork comes to what its first way comes to, or else its second one. -/
theorem fork (before : ComesWithin code hay first sooner result)
    (after : ComesWithin code hay second later other)
    (moves : ∀ kept, move code hay kept moment = .fork first second) :
    ComesWithin code hay moment ⟨sooner.steps + later.steps + 1,
      sooner.retreats + later.retreats + 1, max (sooner.choices + 1) later.choices⟩
      (result.or other) := by
  rcases before with ⟨effort, ⟨steps, retreats, choices⟩, before⟩
  rcases after with ⟨effort', ⟨steps', retreats', choices'⟩, after⟩
  cases result with
  | some slots =>
      refine ⟨_, ⟨?_, ?_, ?_⟩, before.fork_first moves⟩
      · simp only
        omega
      · simp only
        omega
      · simp only
        omega
  | none =>
      refine ⟨_, ⟨?_, ?_, ?_⟩, before.fork_second after moves⟩
      · simp only
        omega
      · simp only
        omega
      · simp only
        omega

/-- A run finds what it comes to, or nothing if it is short of something. -/
theorem run_eq (comes : ComesWithin code hay moment bound result) (steps left : Nat) :
    (run code hay steps left moment 0 [] = result ∨ run code hay steps left moment 0 [] = none) ∧
      (bound.Fits steps left 0 -> run code hay steps left moment 0 [] = result) := by
  rcases comes with ⟨effort, small, comes⟩
  rw [comes steps left 0 [] (Nat.zero_le _)]
  have whole : result.or (resume code hay (steps - effort.steps) (left - effort.retreats) 0 []) =
      result := Option.or_none
  rw [whole]
  refine ⟨?_, fun fits => if_pos ?_⟩
  · split
    · exact Or.inl rfl
    · exact Or.inr rfl
  · exact ⟨Nat.le_trans small.steps fits.1, Nat.le_trans small.retreats fits.2.1,
      Nat.le_trans (Nat.add_le_add_left small.choices 0) fits.2.2⟩

end ComesWithin

/-! ## Characters of a text -/

variable {before rest : Text} {slots : Slots} {barriers : List Nat} {place next : Nat}

theorem getElem?_of_split (split : hay.chars.toList = before ++ rest) :
    hay.chars[before.length]? = rest.head? := by
  rw [← Array.getElem?_toList, split, List.getElem?_append_right (Nat.le_refl _), Nat.sub_self,
    List.head?_eq_getElem?]

/-- What stands just before a position of a text. -/
theorem getElem?_pred_of_split (split : hay.chars.toList = before ++ rest) (passed : before ≠ []) :
    hay.chars[before.length - 1]? = before.getLast? := by
  have inside := List.length_pos_iff.mpr passed
  rw [← Array.getElem?_toList, split, List.getElem?_append_left (by omega),
    List.getLast?_eq_getElem?]

/-- A character is taken if it belongs to the class. -/
theorem advance?_take (split : hay.chars.toList = before ++ rest) (member : CharClass) :
    advance? hay hay.chars.size ⟨place, before.length, slots, barriers⟩ (.take member next) =
      if rest.head?.any member.contains then some ⟨next, before.length + 1, slots, barriers⟩
      else none := by
  have here := getElem?_of_split split
  have size : hay.chars.size = before.length + rest.length := by
    rw [← Array.length_toList, split, List.length_append]
  rw [advance?, here, size]
  cases rest with
  | nil =>
      simp only [List.head?_nil, Option.any_none, Bool.and_false, Bool.false_eq_true, if_false]
  | cons char rest =>
      have inside : before.length < before.length + (char :: rest).length := by
        rw [List.length_cons]
        omega
      rw [decide_eq_true inside, Bool.true_and]

/-- A single character is settled by taking it. -/
theorem settle?_take {member : CharClass} {first last : Nat}
    (here : code[first]? = some (.take member last)) (ends : code[last]? = some .accept) :
    settle? code hay hay.chars.size first moment =
      advance? hay hay.chars.size moment (.take member last) := by
  have enough : 2 ≤ 2 * ((code.size + 1) * (hay.chars.size + 2)) * (code.size + 1) := by
    rw [Nat.mul_assoc]
    exact Nat.le_mul_of_pos_right 2
      (Nat.mul_pos (Nat.mul_pos (Nat.succ_pos _) (Nat.succ_pos _)) (Nat.succ_pos _))
  obtain ⟨steps, same⟩ := Nat.exists_eq_add_of_le' enough
  have moved : advance? hay hay.chars.size { moment with place := first } (.take member last) =
      advance? hay hay.chars.size moment (.take member last) := rfl
  simp only [settle?, same, follow, here, moved]
  cases advances : advance? hay hay.chars.size moment (.take member last) with
  | none => rfl
  | some arrived =>
      rw [advance?, Option.ite_none_right_eq_some] at advances
      rcases Option.some.inj advances.2 with rfl
      simp only [ends]

end Machine
end Pattern
end FencedHighlight
