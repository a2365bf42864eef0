import FencedHighlight.Proofs.Delimiters.Rounds

namespace FencedHighlight

/-!
What counts in a region.

Delimiters are patterns.  As long as their searches report leftmost matches, remembering
them makes no difference, and a region ends where a plain count of openings and closings
says.
-/

variable {text : Text} {offset : Nat}

namespace Delimiters

open Balance (Rounds remembering afresh firstRound)

/-- The search for what deepens the nesting inside a region. -/
def deeper (delimiters : Delimiters) (text : Text) : Finder :=
  (delimiters.nested.getD delimiters.opening).find? text

/-- The search for what closes a region. -/
def closer (delimiters : Delimiters) (text : Text) : Finder :=
  delimiters.closing.find? text

/-- The start of the closing that balances a region which begins at an offset. -/
def close? (delimiters : Delimiters) (text : Text) (offset : Nat) : Option Nat :=
  Balance.close? text (delimiters.deeper text) (delimiters.closer text) offset

/-- The rounds of a scan for the end of a region which begins at an offset, with the result
of the scan. -/
def Scans (delimiters : Delimiters) (text : Text) (look : Finder -> Finder -> Balance.Look)
    (offset : Nat) (rounds : List Balance.Round) (result : Option Nat) : Prop :=
  Rounds text (look (delimiters.deeper text) (delimiters.closer text))
    (firstRound (delimiters.deeper text) (delimiters.closer text) offset) rounds result

variable {delimiters : Delimiters}

/-- A region ends where a scan says that searches afresh at each step. -/
theorem close?_eq_iff
    (opens : (delimiters.nested.getD delimiters.opening).SearchesLeftmost text)
    (closes : delimiters.closing.SearchesLeftmost text)
    (boundary : Text.isBoundary text offset = true) {result : Option Nat} :
    delimiters.close? text offset = result ↔
      ∃ rounds, delimiters.Scans text afresh offset rounds result := by
  have steadily : (delimiters.deeper text).Steady text := opens.findsLeftmost.steady
  have surely : (delimiters.closer text).Steady text := closes.findsLeftmost.steady
  constructor
  · rintro rfl
    exact Balance.exists_rounds_close? steadily surely boundary
  · rintro ⟨rounds, run⟩
    exact Balance.close?_of_rounds steadily surely boundary run

/-- A closing counts where an opening begins at the same place. -/
theorem closes_of_tie {round : Balance.Round} {opening closing : Span}
    (opens : opening ∈ round.sight.opening) (closes : closing ∈ round.sight.closing)
    (tie : opening.start = closing.start) (extent : closing.start < closing.stop) :
    round.verdict text = .closes closing := by
  refine (Balance.verdict_eq_iff).mpr (.closes closes ?_ (Nat.ne_of_gt extent))
  refine Option.eq_none_iff_forall_ne_some.mpr fun other deeper => ?_
  have first := (Balance.deepens_eq_some_iff).mp deeper
  rcases Option.some.inj (first.1.symm.trans opens) with rfl
  exact absurd first.2.1 (by omega)

/-- Looking for the end of a region, a scan that remembers the next delimiters until it
has passed them goes through the same rounds as one that searches for both afresh at each
step, and comes to the same result.  It never closes more regions than are open, counts no
delimiter that begins inside another one that has counted, and where both begin at the
same place it counts the closing. -/
theorem close?_rounds
    (opens : (delimiters.nested.getD delimiters.opening).SearchesLeftmost text)
    (closes : delimiters.closing.SearchesLeftmost text)
    (boundary : Text.isBoundary text offset = true) :
    (∃ rounds, delimiters.Scans text remembering offset rounds (delimiters.close? text offset)) ∧
    ∀ rounds result, delimiters.Scans text remembering offset rounds result ->
      delimiters.Scans text afresh offset rounds result ∧
      (∀ others another, delimiters.Scans text afresh offset others another -> another = result) ∧
      (∀ round ∈ rounds, 1 ≤ round.depth) ∧
      (rounds.Pairwise fun earlier later =>
        ∀ first ∈ (earlier.verdict text).counted?, ∀ second ∈ (later.verdict text).counted?,
          first.stop ≤ second.start) ∧
      ∀ round ∈ rounds, ∀ opening ∈ round.sight.opening, ∀ closing ∈ round.sight.closing,
        opening.start = closing.start -> closing.start < closing.stop ->
          round.verdict text = .closes closing := by
  have steadily : (delimiters.deeper text).Steady text := opens.findsLeftmost.steady
  have surely : (delimiters.closer text).Steady text := closes.findsLeftmost.steady
  have fresh := @Balance.fresh_firstRound text (delimiters.deeper text) (delimiters.closer text)
    offset boundary
  constructor
  · rcases Balance.exists_rounds_close? steadily surely boundary with ⟨rounds, run⟩
    exact ⟨rounds, (Balance.rounds_remembering_iff steadily surely fresh).mpr run⟩
  · intro rounds result remembered
    have run := (Balance.rounds_remembering_iff steadily surely fresh).mp remembered
    have came := Balance.close?_of_rounds steadily surely boundary run
    refine ⟨run, fun others another run => ?_, run.depth_pos (Nat.le_refl 1),
      run.pairwise_counted steadily surely fresh,
      fun round _ opening opens closing closes tie extent => closes_of_tie opens closes tie extent⟩
    exact (Balance.close?_of_rounds steadily surely boundary run).symm.trans came

/-- Of three overlapping openings the one in the middle does not count. -/
theorem close?_rounds_overlapping :
    (pair "aa" "ab").close? "aaabab".toList 0 = some 4 ∧
    ∃ rounds, (pair "aa" "ab").Scans "aaabab".toList remembering 0 rounds (some 4) ∧
      (pair "aa" "ab").Scans "aaabab".toList afresh 0 rounds (some 4) ∧
      ∀ round ∈ rounds, 1 ≤ round.depth := by
  have result : (pair "aa" "ab").close? "aaabab".toList 0 = some 4 := by decide
  have scans := @close?_rounds "aaabab".toList 0 (pair "aa" "ab")
    (Pattern.searchesLeftmost_literal _ _) (Pattern.searchesLeftmost_literal _ _) (by decide)
  rcases scans.1 with ⟨rounds, run⟩
  rw [result] at run
  have same := scans.2 rounds (some 4) run
  exact ⟨result, rounds, run, same.1, same.2.2.1⟩

end Delimiters

end FencedHighlight
