import FencedHighlight.Proofs.Text.Boundary

namespace FencedHighlight
namespace Text

/-!
Leftmost matches.

What matches at a place of a text may depend on the text before it, so it is told by the
place and not by the rest of the text.  The leftmost match from an offset on stands at the
least boundary where anything matches.  A search that always reports it could as well
begin anywhere up to that place.
-/

variable {α β : Type} {text : Text} {start : α -> Nat} {matching : Nat -> Option α}
  {offset place : Nat} {found : α}

/-- The match at the least boundary, at or after an offset, where there is one. -/
def leftmost? (text : Text) (matching : Nat -> Option α) (offset : Nat) : Option α :=
  ((List.range (size text + 1)).find? fun place =>
    decide (offset ≤ place) && isBoundary text place && (matching place).isSome).bind matching

/-- Something matches at a boundary at or after an offset, and nothing does at those
before it. -/
structure IsLeftmost (text : Text) (matching : Nat -> Option α) (offset place : Nat)
    (found : α) : Prop where
  boundary : isBoundary text place = true
  reached : offset ≤ place
  found : matching place = some found
  missing : ∀ earlier, isBoundary text earlier = true -> offset ≤ earlier -> earlier < place ->
    matching earlier = none

theorem leftmost?_eq_some_iff :
    leftmost? text matching offset = some found ↔
      ∃ place, IsLeftmost text matching offset place found := by
  simp only [leftmost?, Option.bind_eq_some_iff, List.find?_range_eq_some, Bool.and_eq_true,
    decide_eq_true_eq, Bool.not_eq_true', Bool.and_eq_false_iff, decide_eq_false_iff_not,
    Option.isSome_eq_false_iff, Option.isNone_iff_eq_none]
  constructor
  · rintro ⟨place, ⟨⟨⟨reached, boundary⟩, _⟩, _, others⟩, matched⟩
    refine ⟨place, boundary, reached, matched, fun earlier atBoundary after before => ?_⟩
    rcases others earlier before with (short | inside) | nothing
    · exact absurd after short
    · rw [atBoundary] at inside
      cases inside
    · exact nothing
  · rintro ⟨place, first⟩
    have matched := first.found
    refine ⟨place, ⟨⟨⟨first.reached, first.boundary⟩, by rw [matched]; rfl⟩, ?_, ?_⟩, matched⟩
    · exact List.mem_range.mpr (Nat.lt_succ_of_le (le_size_of_isBoundary first.boundary))
    · intro earlier before
      by_cases after : offset ≤ earlier
      · cases atBoundary : isBoundary text earlier with
        | false => exact Or.inl (Or.inr rfl)
        | true => exact Or.inr (first.missing earlier atBoundary after before)
      · exact Or.inl (Or.inl after)

theorem leftmost?_eq_none_iff :
    leftmost? text matching offset = none ↔
      ∀ place, isBoundary text place = true -> offset ≤ place -> matching place = none := by
  constructor
  · intro nothing place boundary reached
    refine Option.eq_none_iff_forall_ne_some.mpr fun found matched => ?_
    rw [leftmost?, Option.bind_eq_none_iff] at nothing
    have some : ((List.range (size text + 1)).find? fun place =>
        decide (offset ≤ place) && isBoundary text place && (matching place).isSome).isSome := by
      refine List.find?_isSome.mpr ⟨place, ?_, ?_⟩
      · exact List.mem_range.mpr (Nat.lt_succ_of_le (le_size_of_isBoundary boundary))
      · rw [decide_eq_true reached, boundary, matched]
        rfl
    rcases Option.isSome_iff_exists.mp some with ⟨first, least⟩
    have stands := List.find?_some least
    rw [nothing first least, Option.isSome_none, Bool.and_false] at stands
    cases stands
  · intro missing
    refine Option.eq_none_iff_forall_ne_some.mpr fun found reported => ?_
    rcases (leftmost?_eq_some_iff).mp reported with ⟨place, first⟩
    have stands := first.found
    rw [missing place first.boundary first.reached] at stands
    cases stands

theorem leftmost?_eq_none_of_size_lt (beyond : size text < offset) :
    leftmost? text matching offset = none :=
  (leftmost?_eq_none_iff).mpr fun _ boundary reached =>
    absurd (Nat.le_trans reached (le_size_of_isBoundary boundary)) (Nat.not_le_of_lt beyond)

namespace IsLeftmost

/-- A leftmost match is so from every offset up to its place. -/
theorem of_le (first : IsLeftmost text matching offset place found) {later : Nat}
    (ordered : offset ≤ later) (reached : later ≤ place) :
    IsLeftmost text matching later place found :=
  { first with
    reached := reached
    missing := fun earlier boundary after before =>
      first.missing earlier boundary (Nat.le_trans ordered after) before }

theorem congr {other : Nat -> Option α} (first : IsLeftmost text matching offset place found)
    (same : ∀ place, isBoundary text place = true -> matching place = other place) :
    IsLeftmost text other offset place found where
  boundary := first.boundary
  reached := first.reached
  found := (same place first.boundary).symm.trans first.found
  missing := fun earlier boundary after before =>
    (same earlier boundary).symm.trans (first.missing earlier boundary after before)

theorem leftmost? (first : IsLeftmost text matching offset place found) :
    leftmost? text matching offset = some found :=
  (leftmost?_eq_some_iff).mpr ⟨place, first⟩

end IsLeftmost

/-- What matches at an offset itself is the leftmost match from there. -/
theorem isLeftmost_self (boundary : isBoundary text offset = true)
    (matched : matching offset = some found) :
    IsLeftmost text matching offset offset found where
  boundary := boundary
  reached := Nat.le_refl offset
  found := matched
  missing := fun _ _ after before => absurd after (Nat.not_le_of_lt before)

/-- If nothing matches from an offset on, nothing does farther on. -/
theorem leftmost?_eq_none_of_le {later : Nat} (nothing : leftmost? text matching offset = none)
    (ordered : offset ≤ later) : leftmost? text matching later = none :=
  (leftmost?_eq_none_iff).mpr fun place boundary reached =>
    (leftmost?_eq_none_iff).mp nothing place boundary (Nat.le_trans ordered reached)

/-- Where nothing matches, a search may as well begin behind it. -/
theorem leftmost?_skip {later : Nat} (ordered : offset ≤ later)
    (missing : ∀ place, isBoundary text place = true -> offset ≤ place -> place < later ->
      matching place = none) :
    leftmost? text matching offset = leftmost? text matching later := by
  refine Option.ext fun found => ?_
  rw [leftmost?_eq_some_iff, leftmost?_eq_some_iff]
  constructor
  · rintro ⟨place, first⟩
    refine ⟨place, first.of_le ordered (Nat.le_of_not_lt fun before => ?_)⟩
    have present := first.found
    rw [missing place first.boundary first.reached before] at present
    cases present
  · rintro ⟨place, first⟩
    refine ⟨place, first.boundary, Nat.le_trans ordered first.reached, first.found, ?_⟩
    intro earlier boundary after before
    rcases Nat.lt_or_ge earlier later with skipped | kept
    · exact missing earlier boundary after skipped
    · exact first.missing earlier boundary kept before

theorem leftmost?_congr {other : Nat -> Option α}
    (same : ∀ place, isBoundary text place = true -> matching place = other place) :
    leftmost? text matching offset = leftmost? text other offset := by
  refine Option.ext fun found => ?_
  rw [leftmost?_eq_some_iff, leftmost?_eq_some_iff]
  constructor
  · rintro ⟨place, first⟩
    exact ⟨place, first.congr same⟩
  · rintro ⟨place, first⟩
    exact ⟨place, first.congr fun place boundary => (same place boundary).symm⟩

/-- At the end of a text there is nothing to go on with. -/
theorem leftmost?_size (missing : matching (size text) = none) :
    leftmost? text matching (size text) = none := by
  refine (leftmost?_eq_none_iff).mpr fun place boundary reached => ?_
  rw [Nat.le_antisymm (le_size_of_isBoundary boundary) reached]
  exact missing

/-- Where nothing matches, a search may as well go on with the next character. -/
theorem leftmost?_append_cons {before rest : Text} {char : Char}
    (missing : matching (size before) = none) :
    leftmost? (before ++ char :: rest) matching (size before) =
      leftmost? (before ++ char :: rest) matching (size before + char.utf8Size) := by
  refine leftmost?_skip (Nat.le_add_right _ _) fun place boundary reached inside => ?_
  rcases Nat.lt_or_eq_of_le reached with beyond | rfl
  · have next := nextBoundary_le boundary beyond
    rw [nextBoundary_append] at next
    exact absurd next (Nat.not_le_of_lt inside)
  · exact missing

/-! ## Matches that are put to a test -/

/-- Whether matches tell the place where they stand. -/
def Placed (start : α -> Nat) (matching : Nat -> Option α) : Prop :=
  ∀ place found, matching place = some found -> start found = place

theorem leftmost?_bind_of_none {test : α -> Option β}
    (nothing : leftmost? text matching offset = none) :
    leftmost? text (fun place => (matching place).bind test) offset = none :=
  (leftmost?_eq_none_iff).mpr fun place boundary reached => by
    simp only [(leftmost?_eq_none_iff).mp nothing place boundary reached, Option.bind_none]

/-- The leftmost match that passes a test is found by going on with the next boundary as
long as the leftmost match does not pass. -/
theorem leftmost?_bind_of_some (placed : Placed start matching) {test : α -> Option β}
    (leftmost : leftmost? text matching offset = some found) :
    leftmost? text (fun place => (matching place).bind test) offset =
      (test found).or (leftmost? text (fun place => (matching place).bind test)
        (nextBoundary text (start found))) := by
  rcases (leftmost?_eq_some_iff).mp leftmost with ⟨place, first⟩
  rw [placed place found first.found]
  have tested : (matching place).bind test = test found := by
    rw [first.found, Option.bind_some]
  have untested : ∀ earlier, isBoundary text earlier = true -> offset ≤ earlier ->
      earlier < place -> (matching earlier).bind test = none := by
    intro earlier boundary after before
    rw [first.missing earlier boundary after before, Option.bind_none]
  cases passes : test found with
  | some result =>
      rw [Option.some_or]
      exact IsLeftmost.leftmost? ⟨first.boundary, first.reached, tested.trans passes, untested⟩
  | none =>
      rw [Option.none_or]
      have later := lt_nextBoundary text place
      have reached := first.reached
      refine leftmost?_skip (by omega) fun earlier boundary after before => ?_
      rcases Nat.lt_trichotomy earlier place with inside | rfl | beyond
      · exact untested earlier boundary after inside
      · exact tested.trans passes
      · exact absurd (nextBoundary_le boundary beyond) (Nat.not_le_of_lt before)

/-! ## Searches -/

/-- What a search reports at the very place where it begins. -/
def at? (start : α -> Nat) (search : Nat -> Option α) (place : Nat) : Option α :=
  (search place).filter fun found => start found = place

/-- Whether a search from a boundary always reports the leftmost of its matches.  What
matches at a place is then what the search from that place reports there. -/
def SearchesLeftmost (text : Text) (start : α -> Nat) (search : Nat -> Option α) : Prop :=
  ∀ offset, isBoundary text offset = true ->
    search offset = leftmost? text (at? start search) offset

variable {search : Nat -> Option α}

theorem at?_eq_some_iff :
    at? start search place = some found ↔ search place = some found ∧ start found = place := by
  rw [at?, Option.filter_eq_some_iff, decide_eq_true_eq]

theorem placed_at? (start : α -> Nat) (search : Nat -> Option α) :
    Placed start (at? start search) :=
  fun _ _ matched => ((at?_eq_some_iff).mp matched).2

/-- Searches for the leftmost match have the same matches at each place. -/
theorem at?_eq (placed : Placed start matching)
    (leftmost : ∀ offset, isBoundary text offset = true ->
      search offset = leftmost? text matching offset)
    (boundary : isBoundary text place = true) : at? start search place = matching place := by
  refine Option.ext fun found => ?_
  rw [at?_eq_some_iff, leftmost place boundary, leftmost?_eq_some_iff]
  constructor
  · rintro ⟨⟨other, first⟩, same⟩
    rw [← same, placed other found first.found]
    exact first.found
  · intro matched
    exact ⟨⟨place, isLeftmost_self boundary matched⟩, placed place found matched⟩

theorem searchesLeftmost_of_eq (placed : Placed start matching)
    (leftmost : ∀ offset, isBoundary text offset = true ->
      search offset = leftmost? text matching offset) : SearchesLeftmost text start search := by
  intro offset boundary
  rw [leftmost offset boundary]
  exact leftmost?_congr fun place atBoundary => (at?_eq placed leftmost atBoundary).symm

theorem at?_map {make : α -> β} {begins : β -> Nat}
    (same : ∀ found, begins (make found) = start found) :
    at? begins (fun offset => (search offset).map make) =
      fun place => (at? start search place).map make := by
  funext place
  rw [at?, at?, Option.filter_map]
  simp only [Function.comp_def, same]

/-- What is made of each match does not matter, as long as it tells where it stands. -/
theorem leftmost?_map (make : α -> β) :
    leftmost? text (fun place => (matching place).map make) offset =
      (leftmost? text matching offset).map make := by
  simp only [leftmost?, Option.isSome_map]
  cases (List.range (size text + 1)).find? _ <;> rfl

namespace SearchesLeftmost

theorem isLeftmost (leftmost : SearchesLeftmost text start search)
    (boundary : isBoundary text offset = true) (reported : search offset = some found) :
    IsLeftmost text (at? start search) offset (start found) found := by
  rw [leftmost offset boundary] at reported
  rcases (leftmost?_eq_some_iff).mp reported with ⟨place, first⟩
  rwa [placed_at? start search place found first.found]

theorem map (leftmost : SearchesLeftmost text start search) {make : α -> β}
    {begins : β -> Nat} (same : ∀ found, begins (make found) = start found) :
    SearchesLeftmost text begins fun offset => (search offset).map make := by
  intro offset boundary
  rw [at?_map same, leftmost?_map, ← leftmost offset boundary]

/-- What a search reports can be checked offset by offset. -/
theorem of_all [DecidableEq α]
    (checked : ((List.range (size text + 1)).all fun offset =>
      !isBoundary text offset ||
        decide (search offset = Text.leftmost? text (at? start search) offset)) = true) :
    SearchesLeftmost text start search := by
  intro offset boundary
  have within := List.mem_range.mpr (Nat.lt_succ_of_le (le_size_of_isBoundary boundary))
  have holds := List.all_eq_true.mp checked offset within
  rw [boundary, Bool.not_true, Bool.false_or] at holds
  exact of_decide_eq_true holds

end SearchesLeftmost

/-! ## Searches that are tried again -/

/-- How a search is tried again.  What is found is put to a test, and if it does not pass,
the search goes on at the boundary behind the place where it stands. -/
structure Retries (text : Text) (start : α -> Nat) (search : Nat -> Option α)
    (test : α -> Option β) (retry : (steps offset : Nat) -> Option β) : Prop where
  step : ∀ {steps offset}, isBoundary text offset = true ->
    retry (steps + 1) offset = (search offset).bind fun found =>
      (test found).or (retry steps (nextBoundary text (start found)))
  beyond : ∀ {steps offset}, size text < offset -> retry steps offset = none

/-- With enough steps the leftmost match is found that passes the test. -/
theorem Retries.eq_leftmost? {test : α -> Option β} {retry : (steps offset : Nat) -> Option β}
    (retries : Retries text start search test retry)
    (leftmost : SearchesLeftmost text start search) {steps : Nat}
    (boundary : isBoundary text offset = true ∨ size text < offset)
    (enough : size text < steps + offset) :
    retry steps offset =
      leftmost? text (fun place => (at? start search place).bind test) offset := by
  induction steps generalizing offset with
  | zero =>
      have beyond : size text < offset := by omega
      rw [retries.beyond beyond, leftmost?_eq_none_of_size_lt beyond]
  | succ steps ih =>
      rcases boundary with atBoundary | beyond
      · rw [retries.step atBoundary]
        have reports := leftmost offset atBoundary
        cases reported : search offset with
        | none =>
            rw [reported] at reports
            rw [Option.bind_none, leftmost?_bind_of_none reports.symm]
        | some found =>
            have reached := (leftmost.isLeftmost atBoundary reported).reached
            have later := lt_nextBoundary text (start found)
            rw [reported] at reports
            rw [Option.bind_some, leftmost?_bind_of_some (placed_at? start search) reports.symm,
              ih (nextBoundary_cases text (start found)) (by omega)]
      · rw [retries.beyond beyond, leftmost?_eq_none_of_size_lt beyond]

end Text
end FencedHighlight
