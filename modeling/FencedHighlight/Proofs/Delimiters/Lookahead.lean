import FencedHighlight.Delimiters
import FencedHighlight.Proofs.Pattern.Leftmost

namespace FencedHighlight

/-!
Remembered delimiters.

While it looks for the end of a region, a scan remembers the next opening and the next
closing until it has passed them.  If a search reports the first of some stretches that
do not depend on where the search begins, then what is remembered is what a fresh
search would report, and the scan may as well search for both delimiters at each step.
-/

variable {text : Text}

namespace Finder

/-- Whether a search reports, from every boundary on, the first of some fixed stretches
of a text. -/
structure Steady (text : Text) (finder : Finder) : Prop where
  ahead : ∀ {offset span}, Text.isBoundary text offset = true -> finder offset = some span ->
    offset ≤ span.start
  ends : ∀ {offset span}, finder offset = some span ->
    Text.isBoundary text span.start = true ∧ Text.isBoundary text span.stop = true ∧
      span.start ≤ span.stop
  stays : ∀ {offset later span}, Text.isBoundary text offset = true ->
    Text.isBoundary text later = true -> offset ≤ later -> finder offset = some span ->
    later ≤ span.start -> finder later = some span
  stays_none : ∀ {offset later}, Text.isBoundary text offset = true ->
    Text.isBoundary text later = true -> offset ≤ later -> finder offset = none ->
    finder later = none

/-- Whether something has been reported by a search that began at an offset or before. -/
def Remembers (text : Text) (finder : Finder) (offset : Nat) (remembered : Option Span) : Prop :=
  ∃ earlier, earlier ≤ offset ∧ Text.isBoundary text earlier = true ∧ remembered = finder earlier

variable {finder : Finder} {offset : Nat} {remembered : Option Span}

theorem remembers_search (boundary : Text.isBoundary text offset = true) :
    Remembers text finder offset (finder offset) :=
  ⟨offset, Nat.le_refl _, boundary, rfl⟩

theorem Remembers.later (remembers : Remembers text finder offset remembered) {later : Nat}
    (ordered : offset ≤ later) : Remembers text finder later remembered := by
  rcases remembers with ⟨earlier, before, boundary, same⟩
  exact ⟨earlier, Nat.le_trans before ordered, boundary, same⟩

/-- Refreshing what a steady search has reported is as good as searching again. -/
theorem Steady.refresh_eq (steady : Steady text finder)
    (boundary : Text.isBoundary text offset = true)
    (remembers : Remembers text finder offset remembered) :
    finder.refresh offset remembered = finder offset := by
  rcases remembers with ⟨earlier, before, atBoundary, same⟩
  cases remembered with
  | none =>
      rw [refresh, steady.stays_none atBoundary boundary before same.symm]
  | some span =>
      rw [refresh]
      split
      · rfl
      · rename_i ahead
        exact (steady.stays atBoundary boundary before same.symm (by omega)).symm

/-- Whether a search reports leftmost stretches of a text. -/
structure FindsLeftmost (text : Text) (finder : Finder) : Prop where
  leftmost : Text.SearchesLeftmost text Span.start finder
  ends : ∀ {offset span}, finder offset = some span ->
    Text.isBoundary text span.start = true ∧ Text.isBoundary text span.stop = true ∧
      span.start ≤ span.stop

/-- A search for leftmost matches does not depend on where it begins. -/
theorem FindsLeftmost.steady (finds : finder.FindsLeftmost text) :
    finder.Steady text where
  ahead := fun boundary found => (finds.leftmost.isLeftmost boundary found).reached
  ends := finds.ends
  stays := by
    intro offset later span boundary place ordered found reached
    rw [finds.leftmost later place]
    exact ((finds.leftmost.isLeftmost boundary found).of_le ordered reached).leftmost?
  stays_none := by
    intro offset later boundary place ordered nothing
    rw [finds.leftmost offset boundary] at nothing
    rw [finds.leftmost later place]
    exact Text.leftmost?_eq_none_of_le nothing ordered

end Finder

theorem Pattern.SearchesLeftmost.findsLeftmost {pattern : Pattern}
    (leftmost : pattern.SearchesLeftmost text) :
    Finder.FindsLeftmost text (pattern.find? text) :=
  ⟨leftmost.find?, Pattern.span_of_find?⟩

namespace Balance

/-- The start of the closing that balances a region, where both delimiters are searched
for at each step. -/
def scan (text : Text) (opener closer : Finder) : (steps depth offset : Nat) -> Option Nat
  | 0, _, _ => none
  | steps + 1, depth, offset => do
      let closing <- closer offset
      match deepens (opener offset) closing with
      | some opening => scan text opener closer steps (depth + 1) opening.stop
      | none =>
          if closing.stop = closing.start then
            if Text.size text ≤ closing.start then none
            else scan text opener closer steps depth (Text.nextBoundary text closing.start)
          else
            match depth with
            | 0 => some closing.start
            | depth + 1 => scan text opener closer steps depth closing.stop

variable {opener closer : Finder} {steps depth offset : Nat} {closing opening : Span}

theorem scan_missing (missing : closer offset = none) :
    scan text opener closer (steps + 1) depth offset = none := by
  rw [scan, missing]
  rfl

theorem scan_deeper (closes : closer offset = some closing)
    (deeper : deepens (opener offset) closing = some opening) :
    scan text opener closer (steps + 1) depth offset =
      scan text opener closer steps (depth + 1) opening.stop := by
  simp only [scan, closes, Option.bind_eq_bind, Option.bind_some, deeper]

theorem scan_balanced (closes : closer offset = some closing)
    (flat : deepens (opener offset) closing = none) (extent : closing.stop ≠ closing.start) :
    scan text opener closer (steps + 1) 0 offset = some closing.start := by
  simp only [scan, closes, Option.bind_eq_bind, Option.bind_some, flat, if_neg extent]

theorem scan_shallower (closes : closer offset = some closing)
    (flat : deepens (opener offset) closing = none) (extent : closing.stop ≠ closing.start) :
    scan text opener closer (steps + 1) (depth + 1) offset =
      scan text opener closer steps depth closing.stop := by
  simp only [scan, closes, Option.bind_eq_bind, Option.bind_some, flat, if_neg extent]

/-- A scan that moves on at each step ends within the limit. -/
theorem size_lt_stepLimit (text : Text) : Text.size text < stepLimit text :=
  Nat.lt_of_lt_of_le (Nat.lt_succ_self _) (Nat.le_self_pow (by decide) _)

/-- An opening deepens the nesting if it is there, is not empty and comes first. -/
theorem deepens_eq_some_iff {found : Option Span} :
    deepens found closing = some opening ↔
      found = some opening ∧ opening.start < closing.start ∧ opening.start < opening.stop := by
  rw [deepens, Option.filter_eq_some_iff, Bool.and_eq_true, decide_eq_true_eq, decide_eq_true_eq]

/-- With steady searches, remembering makes no difference. -/
theorem closeFrom_eq_scan (opens : opener.Steady text) (closes : closer.Steady text)
    {nextOpening nextClosing : Option Span}
    (boundary : Text.isBoundary text offset = true)
    (opened : opener.Remembers text offset nextOpening)
    (closed : closer.Remembers text offset nextClosing) :
    closeFrom text opener closer steps depth offset nextOpening nextClosing =
      scan text opener closer steps depth offset := by
  induction steps generalizing depth offset nextOpening nextClosing with
  | zero => rfl
  | succ steps ih =>
      -- a step only moves on, so both searches stay remembered
      have onwards {depth later : Nat} (place : Text.isBoundary text later = true)
          (ordered : offset ≤ later) :
          closeFrom text opener closer steps depth later (opener offset) (closer offset) =
            scan text opener closer steps depth later :=
        ih place ((Finder.remembers_search boundary).later ordered)
          ((Finder.remembers_search boundary).later ordered)
      rw [closeFrom, scan, opens.refresh_eq boundary opened, closes.refresh_eq boundary closed]
      cases next : closer offset with
      | none => rfl
      | some found =>
          have reached := closes.ahead boundary next
          have ends := closes.ends next
          simp only [Option.bind_eq_bind, Option.bind_some]
          rw [← next]
          cases deeper : deepens (opener offset) found with
          | some opening =>
              have first := (deepens_eq_some_iff).mp deeper
              have place := opens.ends first.1
              exact onwards place.2.1 (Nat.le_trans (opens.ahead boundary first.1) place.2.2)
          | none =>
              simp only
              split
              · split
                · rfl
                · rename_i inside
                  have later := Text.lt_nextBoundary text found.start
                  exact onwards (Text.isBoundary_nextBoundary (Nat.lt_of_not_le inside)) (by omega)
              · cases depth with
                | zero => rfl
                | succ depth => exact onwards ends.2.1 (Nat.le_trans reached ends.2.2)

end Balance
end FencedHighlight
