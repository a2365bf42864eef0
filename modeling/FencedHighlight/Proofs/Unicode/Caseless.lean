import FencedHighlight.Unicode.CaseFolding

namespace FencedHighlight
namespace Unicode

/-!
Characters without case variants.

Two characters are equal up to case if they fold to the same code point, and a code point
that folds to another one is in one of the runs of the table.  So all that are equal to a
character can be listed, and it takes only a look at that list to see that a character has
no variants.
-/

/-- Whether no other character is equal to this one up to case. -/
def IsCaseless (char : Char) : Prop :=
  ∀ other, sameUpToCase char other = true -> other = char

theorem sameUpToCase_refl (char : Char) : sameUpToCase char char = true := by
  rw [sameUpToCase, beq_self_eq_true, Bool.true_or]

theorem sameUpToCase_iff {left right : Char} :
    sameUpToCase left right = true ↔ foldCode left.toNat = foldCode right.toNat := by
  rw [sameUpToCase, Bool.or_eq_true, beq_iff_eq, beq_iff_eq]
  refine ⟨?_, Or.inr⟩
  rintro (rfl | folds)
  · rfl
  · exact folds

theorem sameUpToCase_comm (left right : Char) : sameUpToCase left right = sameUpToCase right left := by
  rw [Bool.eq_iff_iff, sameUpToCase_iff, sameUpToCase_iff]
  exact eq_comm

namespace FoldRun

/-- A member of a run is what folds to its target. -/
theorem preimage?_apply {run : FoldRun} {code : Nat} (member : run.contains code = true) :
    run.preimage? (run.apply code) = some code := by
  have first : run.first ≤ code := by
    simp only [contains, Bool.and_eq_true, decide_eq_true_eq] at member
    exact member.1.1
  have place : run.first + (run.apply code - run.target) = code := by
    simp only [apply]
    omega
  rw [preimage?, place, if_pos]
  rw [member, Bool.and_true, decide_eq_true_eq]
  exact Nat.le_add_right _ _

end FoldRun

/-- All that is equal to a character up to case is among its variants. -/
theorem mem_caseVariants {char other : Char} (same : sameUpToCase char other = true) :
    other ∈ caseVariants char := by
  have folded : foldCode char.toNat = foldCode other.toNat := by
    rcases Bool.or_eq_true_iff.mp same with equal | folds
    · rw [beq_iff_eq.mp equal]
    · exact beq_iff_eq.mp folds
  rw [caseVariants, folded]
  refine List.mem_map.mpr ⟨other.toNat, ?_, Char.ofNat_toNat other⟩
  unfold foldCode
  split
  · rename_i run found
    have member := List.find?_some found
    have listed := List.mem_of_find?_eq_some found
    exact List.mem_cons_of_mem _
      (List.mem_filterMap.mpr ⟨run, listed, FoldRun.preimage?_apply member⟩)
  · exact List.mem_cons_self

/-- Whether a character is the only one in the list of its variants. -/
def standsAlone (char : Char) : Bool :=
  (caseVariants char).all (· == char)

theorem isCaseless_of_standsAlone {char : Char} (alone : standsAlone char = true) :
    IsCaseless char :=
  fun other same => beq_iff_eq.mp (List.all_eq_true.mp alone other (mem_caseVariants same))

end Unicode
end FencedHighlight
