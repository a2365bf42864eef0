import FencedHighlight.Pattern.CharClass
import FencedHighlight.Proofs.Unicode.Caseless

namespace FencedHighlight

/-!
Case folding of ASCII characters.

Three runs of the table have to do with ASCII: the capital letters, and two characters from
outside that fold to the letters `s` and `k`.  So an ASCII character is equal up to case to
itself, to the other form of the letter, and to no more than one character besides.
-/

namespace Unicode

/-- The runs that fold ASCII characters or fold to them. -/
def asciiRuns : List FoldRun :=
  [⟨65, 90, 1, 97⟩, ⟨383, 383, 1, 115⟩, ⟨8490, 8490, 1, 107⟩]

def FoldRun.beq (left right : FoldRun) : Bool :=
  left.first == right.first && left.last == right.last && left.step == right.step &&
    left.target == right.target

theorem FoldRun.eq_of_beq {left right : FoldRun} (same : left.beq right = true) : left = right := by
  simp only [beq, Bool.and_eq_true, beq_iff_eq] at same
  cases left
  cases right
  simp_all

theorem mem_asciiRuns {run : FoldRun} (listed : run ∈ foldRuns)
    (near : run.first < 128 ∨ run.target < 128) : run ∈ asciiRuns := by
  have checked : foldRuns.all (fun run => (128 ≤ run.first && 128 ≤ run.target) ||
      asciiRuns.any run.beq) = true := by
    decide +kernel
  have check := List.all_eq_true.mp checked run listed
  rw [Bool.or_eq_true, Bool.and_eq_true, decide_eq_true_eq, decide_eq_true_eq] at check
  rcases check with far | among
  · omega
  · rcases List.any_eq_true.mp among with ⟨other, listed, same⟩
    exact FoldRun.eq_of_beq same ▸ listed

/-- Where an ASCII code point folds to. -/
theorem foldCode_of_lt {code : Nat} (ascii : code < 128) :
    foldCode code = if 65 ≤ code ∧ code ≤ 90 then code + 32 else code := by
  have capitals : (⟨65, 90, 1, 97⟩ : FoldRun) ∈ foldRuns := List.mem_cons_self
  unfold foldCode
  split
  · rename_i run found
    have stands : run.contains code = true := by simpa using List.find?_some found
    have range := stands
    simp only [FoldRun.contains, Bool.and_eq_true, decide_eq_true_eq] at range
    have among := mem_asciiRuns (List.mem_of_find?_eq_some found) (Or.inl (by omega))
    simp only [asciiRuns, List.mem_cons, List.not_mem_nil, or_false] at among
    rcases among with rfl | rfl | rfl <;> simp only [FoldRun.apply] at range ⊢
    · rw [if_pos range.1]
      omega
    · omega
    · omega
  · rename_i missing
    have outside := List.find?_eq_none.mp missing _ capitals
    rw [if_neg fun inside => outside ?_]
    simp [FoldRun.contains, inside, Nat.mod_one]

/-- What folds to an ASCII code point is one, too, or is one of two others. -/
theorem of_foldCode_lt {code : Nat} (ascii : foldCode code < 128) :
    code < 128 ∨ (code = 383 ∧ foldCode code = 115) ∨ (code = 8490 ∧ foldCode code = 107) := by
  have unfolded : foldCode code = (foldRuns.find? (·.contains code)).elim code (·.apply code) := by
    unfold foldCode
    cases foldRuns.find? (·.contains code) <;> rfl
  cases found : foldRuns.find? (·.contains code) with
  | none =>
      rw [unfolded, found] at ascii
      exact Or.inl ascii
  | some run =>
      rw [found, Option.elim_some] at unfolded
      have stands : run.contains code = true := by simpa using List.find?_some found
      simp only [FoldRun.contains, Bool.and_eq_true, decide_eq_true_eq] at stands
      rw [unfolded] at ascii ⊢
      simp only [FoldRun.apply] at ascii ⊢
      have among := mem_asciiRuns (List.mem_of_find?_eq_some found) (Or.inr (by omega))
      simp only [asciiRuns, List.mem_cons, List.not_mem_nil, or_false] at among
      rcases among with rfl | rfl | rfl <;> simp only at stands ⊢ <;> omega

theorem FoldRun.apply_of_preimage? {run : FoldRun} {code folded : Nat}
    (found : run.preimage? folded = some code) :
    run.contains code = true ∧ run.apply code = folded := by
  rw [preimage?] at found
  split at found
  · rename_i stands
    rw [Bool.and_eq_true, decide_eq_true_eq] at stands
    rcases Option.some.inj found with rfl
    refine ⟨stands.2, ?_⟩
    rw [apply]
    omega
  · cases found

theorem toNat_of_ofNat {char : Char} {code : Nat} (same : Char.ofNat code = char)
    (filled : char ≠ '\x00') : char.toNat = code := by
  by_cases valid : code.isValidChar
  · have made : Char.ofNat code = Char.ofNatAux code valid := dif_pos valid
    rw [← same, made]
    rfl
  · have missing : Char.ofNat code = '\x00' := dif_neg valid
    exact absurd (same.symm.trans missing) filled

/-- The characters that have an ASCII one among their variants are equal to it up to case. -/
theorem sameUpToCase_of_mem_caseVariants {char other : Char} (ascii : char.toNat < 128)
    (filled : char ≠ '\x00') (listed : char ∈ caseVariants other) :
    sameUpToCase char other = true := by
  rcases List.mem_map.mp listed with ⟨code, member, same⟩
  rcases toNat_of_ofNat same filled with rfl
  rw [sameUpToCase_iff]
  rcases List.mem_cons.mp member with folded | preimage
  · -- what is folded to folds to itself
    have near := of_foldCode_lt (folded ▸ ascii)
    rcases near with near | ⟨_, folds⟩ | ⟨_, folds⟩
    · have folds := foldCode_of_lt near
      rw [← folded] at folds ⊢
      rw [foldCode_of_lt ascii]
      split at folds <;> split <;> omega
    · rw [folded, folds]
      rfl
    · rw [folded, folds]
      rfl
  · rcases List.mem_filterMap.mp preimage with ⟨run, among, found⟩
    have both := FoldRun.apply_of_preimage? found
    have stands := both.1
    simp only [FoldRun.contains, Bool.and_eq_true, decide_eq_true_eq] at stands
    have near := mem_asciiRuns among (Or.inl (Nat.lt_of_le_of_lt stands.1.1 ascii))
    rw [← both.2, foldCode_of_lt ascii]
    simp only [asciiRuns, List.mem_cons, List.not_mem_nil, or_false] at near
    rcases near with rfl | rfl | rfl <;> simp only [FoldRun.apply] at stands ⊢
    · rw [if_pos stands.1]
      omega
    · omega
    · omega

theorem isAlpha_iff {char : Char} :
    char.isAlpha = true ↔
      (65 ≤ char.toNat ∧ char.toNat ≤ 90) ∨ (97 ≤ char.toNat ∧ char.toNat ≤ 122) := by
  change (decide (65 ≤ char.val ∧ char.val ≤ 90) ||
    (decide (97 ≤ char.val) && decide (char.val ≤ 122))) = true ↔ _
  simp only [Bool.or_eq_true, decide_eq_true_eq, Bool.and_eq_true, UInt32.le_iff_toNat_le]
  rfl

/-- What is equal up to case to an ASCII character. -/
theorem cases_of_sameUpToCase {char other : Char} (ascii : char.toNat < 128)
    (same : sameUpToCase char other = true) :
    other = char ∨ (char.isAlpha = true ∧ other.isAlpha = true) ∨
      (char.isAlpha = true ∧ (other = '\u017f' ∨ other = '\u212a')) := by
  have folds := (sameUpToCase_iff).mp same
  have own := foldCode_of_lt ascii
  have low : foldCode char.toNat < 128 := by
    rw [own]
    split <;> omega
  rw [isAlpha_iff, isAlpha_iff]
  rcases of_foldCode_lt (folds ▸ low) with near | ⟨place, folded⟩ | ⟨place, folded⟩
  · rw [own, foldCode_of_lt near] at folds
    by_cases equal : other.toNat = char.toNat
    · exact Or.inl (Char.toNat_inj.mp equal)
    · refine Or.inr (Or.inl ?_)
      split at folds <;> split at folds <;> omega
  · rw [own, folded] at folds
    refine Or.inr (Or.inr ⟨?_, Or.inl (Char.toNat_inj.mp place)⟩)
    split at folds <;> omega
  · rw [own, folded] at folds
    refine Or.inr (Or.inr ⟨?_, Or.inr (Char.toNat_inj.mp place)⟩)
    split at folds <;> omega

/-- An ASCII character that is no letter has no other form. -/
theorem isCaseless_of_ascii {char : Char} (ascii : char.toNat < 128)
    (unlettered : char.isAlpha = false) : IsCaseless char := by
  intro other same
  rcases cases_of_sameUpToCase ascii same with rfl | ⟨letter, _⟩ | ⟨letter, _⟩
  · rfl
  · rw [unlettered] at letter
    cases letter
  · rw [unlettered] at letter
    cases letter

end Unicode

namespace Pattern
namespace CharClass

/-- The class of an ASCII character in either case. -/
theorem contains_anyCase_single {char : Char} (ascii : char.toNat < 128) (filled : char ≠ '\x00')
    (other : Char) : (anyCase (single char)).contains other = Unicode.sameUpToCase char other := by
  rw [Bool.eq_iff_iff, contains, Bool.or_eq_true, List.any_eq_true]
  constructor
  · rintro (same | ⟨variant, listed, same⟩)
    · rw [beq_iff_eq.mp same]
      exact Unicode.sameUpToCase_refl other
    · rw [← beq_iff_eq.mp same] at listed
      exact Unicode.sameUpToCase_of_mem_caseVariants ascii filled listed
  · intro same
    rw [Unicode.sameUpToCase_comm] at same
    exact Or.inr ⟨char, Unicode.mem_caseVariants same, beq_self_eq_true char⟩

end CharClass
end Pattern
end FencedHighlight
