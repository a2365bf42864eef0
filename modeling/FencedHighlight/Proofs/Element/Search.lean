import FencedHighlight.Proofs.Delimiters.Enclosure
import FencedHighlight.Proofs.Element.Closing
import FencedHighlight.Proofs.Element.Opening
import FencedHighlight.Proofs.Pattern.Span

namespace FencedHighlight
namespace Element

/-!
What the searches for tags report.

A search reports the first closing tag of the element, whatever the text.  The search for an
opening tag reports the first text that passes for one, or gives up.  It gives up at most where
the labour for the rest of the text is beyond the limit on retreats.
-/

open Pattern
open Pattern.Machine (Slots noted)
open Text (stretch)

variable {slots : Slots} {position : Nat} {found : Text × Text}

variable {name before rest tag : Text}

/-- The search for a closing tag reports the first one. -/
theorem find?_closing (named : IsName name) (source : String) (before rest : Text) :
    (compiled source (closingProgram name)).find? (before ++ rest) (Text.size before) =
      (Text.first? (closing? name) rest).map (stretch (Text.size before)) :=
  find?_of_matchesAs (plain_closing name)
    (fun _ _ found => ((closing?_eq_some_iff).mp found).2)
    (fun _ => matchesAs_closing named) source before rest

/-- Each place takes a retreat. -/
theorem length_lt_labour (name rest : Text) : rest.length < labour name rest := by
  induction rest with
  | nil => exact Nat.zero_lt_one
  | cons char rest ih =>
      rw [labour, List.length_cons]
      omega

/-- The steps of a search are enough if its retreats are. -/
theorem steps_le_stepLimit {program : Program} {hay : Machine.Hay} (size : 3 ≤ program.code.size)
    (within : rest.length ≤ hay.chars.size) (low : labour name rest ≤ Machine.retreatLimit) :
    (rest.length + 1) * (rest.length + 5) + 4 * labour name rest ≤
      Machine.stepLimit program hay := by
  have limit : Machine.retreatLimit = 1000000 := rfl
  have places := length_lt_labour name rest
  have steps : (rest.length + 1) * (rest.length + 5) ≤ (rest.length + 1) * 1000004 :=
    Nat.mul_le_mul_left _ (by omega)
  have room : 1000001 * 4 * (rest.length + 2) ≤ Machine.stepLimit program hay := by
    rw [Machine.stepLimit, limit]
    exact Nat.mul_le_mul (Nat.mul_le_mul_left _ (by omega)) (by omega)
  omega

/-- The search for an opening tag reports the first text that passes for one, or nothing. -/
theorem find?_opening (named : IsName name) (source : String) (before rest : Text) :
    ((compiled source (openingProgram name)).find? (before ++ rest) (Text.size before) = none ∨
      (compiled source (openingProgram name)).find? (before ++ rest) (Text.size before) =
        (Text.first? (passing? name) rest).map (stretch (Text.size before))) ∧
    (labour name rest ≤ Machine.retreatLimit ->
      (compiled source (openingProgram name)).find? (before ++ rest) (Text.size before) =
        (Text.first? (passing? name) rest).map (stretch (Text.size before))) := by
  have searches := searches_opening name
  let hay : Machine.Hay := ⟨(before ++ rest).toArray, before.length⟩
  let moment : Machine.Moment := ⟨(openingProgram name).entry, before.length,
    Slots.blank (openingProgram name).slots, []⟩
  have comes := @comes_search hay (Slots.blank (openingProgram name).slots) before rest name named _
    searches rfl
  have runs := comes.run_eq (Machine.stepLimit (openingProgram name) hay) Machine.retreatLimit
  have irregular : (openingProgram name).regular = false := rfl
  have reports {found? : Option (Text × Text)}
      (parts : ∀ found ∈ found?, ∃ after, rest = found.1 ++ found.2 ++ after)
      (result : Machine.run (openingProgram name).code hay
        (Machine.stepLimit (openingProgram name) hay) Machine.retreatLimit moment 0 [] =
          found?.map (noted (Slots.blank (openingProgram name).slots) before.length)) :
      (compiled source (openingProgram name)).find? (before ++ rest) (Text.size before) =
        found?.map (stretch (Text.size before)) := by
    refine find?_compiled rfl searches.room parts ?_
    rw [Machine.search?, irregular, if_neg Bool.false_ne_true]
    exact congrArg _ result
  have split (found : Text × Text) (first : found ∈ Text.first? (passing? name) rest) :
      ∃ after, rest = found.1 ++ found.2 ++ after :=
    exists_parts_of_first? (fun text tag found => ((passing?_eq_some_iff named).mp found).2) first
  refine ⟨?_, fun low => reports split (runs.2 ⟨?_, low, ?_⟩)⟩
  · rcases runs.1 with whole | short
    · exact Or.inr (reports split whole)
    · exact Or.inl (@reports none (fun _ member => absurd member (Option.not_mem_none _)) short)
  · refine steps_le_stepLimit searches.size_le ?_ low
    rw [List.size_toArray, List.length_append]
    exact Nat.le_add_left _ _
  · exact Nat.le_trans (Nat.le_of_eq (Nat.zero_add _)) low

end Element
end FencedHighlight
