import FencedHighlight.Proofs.Delimiters.Counting
import FencedHighlight.Proofs.Pattern.Evaluation

namespace FencedHighlight

/-!
Empty delimiters.

An empty match of a delimiter never counts, but it may stand in the way.  A scan looks at the
next match of each pattern only.  So an empty opening hides the openings that follow it up to
the next closing, and an empty closing takes the scan past an opening that begins at its
place.  Where neither happens, a region ends as if there were no empty matches.
-/

variable {text : Text} {offset : Nat}

/-- A stretch, unless it is empty. -/
def Span.filled? : Span -> Option Span :=
  Option.guard fun span => span.start < span.stop

theorem Span.filled?_of_filled {span : Span} (filled : span.start < span.stop) :
    span.filled? = some span :=
  Option.guard_eq_some_iff.mpr ⟨rfl, decide_eq_true filled⟩

theorem Span.filled?_of_empty {span : Span} (empty : span.stop ≤ span.start) :
    span.filled? = none :=
  Option.guard_eq_none_iff.mpr (decide_eq_false (Nat.not_lt_of_le empty))

namespace Finder

variable {finder : Finder} {span : Span} {place : Nat}

/-- The match at a place, unless it is empty. -/
def filledAt? (finder : Finder) (place : Nat) : Option Span :=
  (Text.at? Span.start finder place).bind Span.filled?

/-- The search for the first match that is not empty. -/
def filled (finder : Finder) (text : Text) : Finder :=
  Text.leftmost? text finder.filledAt?

theorem filledAt?_eq_some_iff :
    finder.filledAt? place = some span ↔
      Text.at? Span.start finder place = some span ∧ span.start < span.stop := by
  rw [filledAt?, Span.filled?, Option.bind_guard, Option.filter_eq_some_iff, decide_eq_true_eq]

theorem placed_filledAt? (finder : Finder) : Text.Placed Span.start finder.filledAt? :=
  fun place span stands =>
    Text.placed_at? Span.start finder place span ((filledAt?_eq_some_iff).mp stands).1

namespace FindsLeftmost

variable (finds : finder.FindsLeftmost text)

include finds

theorem boundary_of_at? (stands : Text.at? Span.start finder place = some span) :
    Text.isBoundary text place = true := by
  have found := (Text.at?_eq_some_iff).mp stands
  exact found.2 ▸ (finds.ends found.1).1

/-- So does the search for those that are not empty. -/
theorem filled : (finder.filled text).FindsLeftmost text where
  leftmost := Text.searchesLeftmost_of_eq finder.placed_filledAt? fun _ _ => rfl
  ends := by
    intro offset span found
    rcases (Text.leftmost?_eq_some_iff).mp found with ⟨place, first⟩
    exact finds.ends ((Text.at?_eq_some_iff).mp ((filledAt?_eq_some_iff).mp first.found).1).1

variable (boundary : Text.isBoundary text offset = true)

include boundary

theorem filled_of_none (nothing : finder offset = none) : finder.filled text offset = none := by
  rw [finds.leftmost offset boundary] at nothing
  exact Text.leftmost?_bind_of_none nothing

/-- The first match that is not empty is the first match, or comes behind it. -/
theorem filled_of_some (found : finder offset = some span) :
    finder.filled text offset =
      span.filled?.or (finder.filled text (Text.nextBoundary text span.start)) := by
  rw [finds.leftmost offset boundary] at found
  exact Text.leftmost?_bind_of_some (Text.placed_at? Span.start finder) found

end FindsLeftmost

end Finder

namespace Balance

variable {opener closer : Finder} {closing : Span} {place : Nat}

/-- Whether no empty match from an offset on stands in the way of an opening that is not
empty. -/
structure Unobstructed (opener closer : Finder) (offset : Nat) : Prop where
  /-- Where such an opening begins, no closing is empty. -/
  apart : ∀ {place opening closing}, offset ≤ place ->
    opener.filledAt? place = some opening -> Text.at? Span.start closer place = some closing ->
    closing.start < closing.stop
  /-- Between an empty opening and such an opening behind it a closing begins. -/
  divided : ∀ {place later empty opening}, offset ≤ place ->
    Text.at? Span.start opener place = some empty -> empty.stop ≤ empty.start -> place < later ->
    opener.filledAt? later = some opening ->
    ∃ between closing, place ≤ between ∧ between ≤ later ∧
      Text.at? Span.start closer between = some closing

namespace Unobstructed

theorem of_le (clear : Unobstructed opener closer offset) {later : Nat} (ordered : offset ≤ later) :
    Unobstructed opener closer later where
  apart := fun reached => clear.apart (Nat.le_trans ordered reached)
  divided := fun reached => clear.divided (Nat.le_trans ordered reached)

/-- Whether no opening is empty and no empty closing stands where an opening begins. -/
def standsApart (opener closer : Finder) (text : Text) : Bool :=
  (List.range (Text.size text + 1)).all fun place =>
    (Text.at? Span.start opener place).all fun opening =>
      opening.start < opening.stop &&
        (Text.at? Span.start closer place).all fun closing => closing.start < closing.stop

/-- Then nothing is in the way of an opening. -/
theorem of_standsApart (opens : opener.FindsLeftmost text)
    (apart : standsApart opener closer text = true) : Unobstructed opener closer offset := by
  have checked {place : Nat} {opening : Span}
      (stands : Text.at? Span.start opener place = some opening) :
      opening.start < opening.stop ∧ ∀ closing, Text.at? Span.start closer place = some closing ->
        closing.start < closing.stop := by
    have within := Text.le_size_of_isBoundary (opens.boundary_of_at? stands)
    have holds := List.all_eq_true.mp apart place (List.mem_range.mpr (Nat.lt_succ_of_le within))
    rw [stands, Option.all_some, Bool.and_eq_true, decide_eq_true_eq] at holds
    refine ⟨holds.1, fun closing found => ?_⟩
    have extent := holds.2
    rw [found, Option.all_some, decide_eq_true_eq] at extent
    exact extent
  constructor
  · intro place opening closing _ stands found
    exact (checked ((Finder.filledAt?_eq_some_iff).mp stands).1).2 closing found
  · intro place later empty opening _ stands flat
    exact absurd (checked stands).1 (Nat.not_lt_of_le flat)

variable (clear : Unobstructed opener closer offset) (opens : opener.FindsLeftmost text)
  (closes : closer.FindsLeftmost text) (boundary : Text.isBoundary text offset = true)
  (next : closer offset = some closing) (flat : deepens (opener offset) closing = none)

include clear opens closes boundary next flat

/-- If the next opening does not come before the next closing, no other one does. -/
theorem le_of_filledAt? {opening : Span} (reached : offset ≤ place)
    (stands : opener.filledAt? place = some opening) : closing.start ≤ place := by
  refine Nat.le_of_not_lt fun inside => ?_
  have here := (Finder.filledAt?_eq_some_iff).mp stands
  have atBoundary := opens.boundary_of_at? here.1
  cases first : opener offset with
  | none =>
      rw [opens.leftmost offset boundary] at first
      rw [(Text.leftmost?_eq_none_iff).mp first place atBoundary reached] at here
      cases here.1
  | some front =>
      have leads := opens.leftmost.isLeftmost boundary first
      have ordered : front.start ≤ place := by
        refine Nat.le_of_not_lt fun before => ?_
        rw [leads.missing place atBoundary reached before] at here
        cases here.1
      have empty : front.stop ≤ front.start := by
        refine Nat.le_of_not_lt fun extent => ?_
        have deeper : deepens (opener offset) closing = some front :=
          (deepens_eq_some_iff).mpr ⟨first, Nat.lt_of_le_of_lt ordered inside, extent⟩
        rw [flat] at deeper
        cases deeper
      rcases Nat.lt_or_eq_of_le ordered with before | rfl
      · rcases clear.divided leads.reached leads.found empty before stands with
          ⟨between, other, after, upTo, closed⟩
        have absent := (closes.leftmost.isLeftmost boundary next).missing between
          (closes.boundary_of_at? closed) (Nat.le_trans leads.reached after) (by omega)
        rw [closed] at absent
        cases absent
      · rcases Option.some.inj (leads.found.symm.trans here.1) with rfl
        exact absurd here.2 (Nat.not_lt_of_le empty)

/-- A closing that is not empty then comes before every opening that is not. -/
theorem deepens_filled : deepens (opener.filled text offset) closing = none := by
  refine Option.eq_none_iff_forall_ne_some.mpr fun opening deeper => ?_
  have first := (deepens_eq_some_iff).mp deeper
  rcases (Text.leftmost?_eq_some_iff).mp first.1 with ⟨place, leads⟩
  have reached := clear.le_of_filledAt? opens closes boundary next flat leads.reached leads.found
  have place := opener.placed_filledAt? place opening leads.found
  exact absurd first.2.1 (by omega)

/-- Behind an empty closing the same openings are ahead. -/
theorem filled_skip (empty : closing.stop = closing.start) :
    opener.filled text offset = opener.filled text (Text.nextBoundary text closing.start) := by
  have reached := (closes.leftmost.isLeftmost boundary next).reached
  have beyond := Text.lt_nextBoundary text closing.start
  refine Text.leftmost?_skip (by omega) fun place atBoundary after before => ?_
  refine Option.eq_none_iff_forall_ne_some.mpr fun opening stands => ?_
  have behind := clear.le_of_filledAt? opens closes boundary next flat after stands
  rcases Nat.lt_or_eq_of_le behind with farther | rfl
  · exact absurd (Text.nextBoundary_le atBoundary farther) (Nat.not_le_of_lt before)
  · have extent := clear.apart after stands (closes.leftmost.isLeftmost boundary next).found
    exact absurd empty (Nat.ne_of_gt extent)

end Unobstructed

/-- A round of the scan that only sees matches that are not empty. -/
def Round.filled (text : Text) (opener closer : Finder) (round : Round) : Round :=
  ⟨round.depth, round.offset, ⟨opener.filled text round.offset, closer.filled text round.offset⟩⟩

/-- What a scan comes to depends on its depth and on what it sees, not on where it is. -/
theorem Rounds.relocate {look : Look} {round other : Round} {rounds : List Round}
    {result : Option Nat} (run : Rounds text look round rounds result)
    (depth : other.depth = round.depth) (sight : other.sight = round.sight) :
    ∃ rounds, Rounds text look other rounds result := by
  have verdict : other.verdict text = round.verdict text := by rw [Round.verdict, sight]; rfl
  cases run with
  | lost lost => exact ⟨_, .lost (verdict.trans lost)⟩
  | balanced closes last => exact ⟨_, .balanced (verdict.trans closes) (by rwa [depth])⟩
  | @next round next rounds result follows rest =>
      have moved (later : Nat) (deep : Nat) :
          round.move look deep later = other.move look deep later := by
        rw [Round.move, Round.move, sight]
      refine ⟨_, .next ?_ rest⟩
      cases follows with
      | deeper opens =>
          rw [moved, ← depth]
          exact .deeper (verdict.trans opens)
      | shallower closes more =>
          rw [moved, ← depth]
          exact .shallower (verdict.trans closes) (by rwa [depth])
      | skip skips =>
          rw [moved, ← depth]
          exact .skip (verdict.trans skips)

/-- A scan that is lost is lost without empty matches, too. -/
theorem verdict_filled_of_lost (closes : closer.FindsLeftmost text) {round : Round}
    (fresh : round.IsFresh text opener closer) (lost : round.verdict text = .lost) :
    (round.filled text opener closer).verdict text = .lost := by
  refine (verdict_eq_iff).mpr (.missing ?_)
  cases (verdict_eq_iff).mp lost with
  | missing unseen =>
      exact closes.filled_of_none fresh.boundary (fresh.closing.symm.trans unseen)
  | @ended closing sees flat empty atEnd =>
      have beyond := Text.lt_nextBoundary text closing.start
      have nothing : closing.filled? = none := Span.filled?_of_empty (Nat.le_of_eq empty)
      refine (closes.filled_of_some fresh.boundary (fresh.closing.symm.trans sees)).trans ?_
      rw [nothing, Option.none_or]
      refine (Text.leftmost?_eq_none_iff).mpr fun place boundary reached => ?_
      have within := Text.le_size_of_isBoundary boundary
      exact absurd reached (by omega)

section

variable (opens : opener.FindsLeftmost text) (closes : closer.FindsLeftmost text)

include opens closes

/-- A closing that counts is the first one that is not empty. -/
theorem filled_of_closes {round : Round} (fresh : round.IsFresh text opener closer)
    (shuts : round.verdict text = .closes closing) :
    closer.filled text round.offset = some closing := by
  have extent := (fresh.of_counted opens.steady closes.steady (by rw [shuts]; rfl)).2.1
  cases (verdict_eq_iff).mp shuts with
  | closes sees flat _ =>
      rw [closes.filled_of_some fresh.boundary (fresh.closing.symm.trans sees),
        Span.filled?_of_filled extent, Option.some_or]

/-- Without a closing that is not empty no region ends. -/
theorem result_of_unfilled {round : Round} {rounds : List Round} {result : Option Nat}
    (run : Rounds text (afresh opener closer) round rounds result)
    (fresh : round.IsFresh text opener closer)
    (unfilled : closer.filled text round.offset = none) : result = none := by
  induction run with
  | lost lost => rfl
  | balanced shuts last =>
      rw [filled_of_closes opens closes fresh shuts] at unfilled
      cases unfilled
  | next follows rest ih =>
      have farther := (fresh.of_later opens.steady closes.steady (later?_of_follows follows).1).1
      exact ih (fresh_of_follows opens.steady closes.steady fresh follows)
        (Text.leftmost?_eq_none_of_le unfilled (Nat.le_of_lt farther))

variable {round : Round} (fresh : round.IsFresh text opener closer)

include fresh

/-! What becomes of the verdict of a round if only matches that are not empty are seen. -/

theorem verdict_filled_of_opens {opening : Span} (deepens : round.verdict text = .opens opening)
    (filled : closer.filled text round.offset ≠ none) :
    (round.filled text opener closer).verdict text = .opens opening := by
  have extent := (fresh.of_counted opens.steady closes.steady (by rw [deepens]; rfl)).2.1
  rcases Option.ne_none_iff_exists'.mp filled with ⟨last, seen⟩
  refine (verdict_eq_iff).mpr (.opens seen ?_)
  cases (verdict_eq_iff).mp deepens with
  | @opens closing _ sees deeper =>
      have first := (deepens_eq_some_iff).mp deeper
      have front := opens.filled_of_some fresh.boundary (fresh.opening.symm.trans first.1)
      rw [Span.filled?_of_filled extent, Option.some_or] at front
      refine (deepens_eq_some_iff).mpr ⟨front, ?_, extent⟩
      -- the first closing that is not empty does not begin before the first closing
      rcases (Text.leftmost?_eq_some_iff).mp seen with ⟨place, leads⟩
      have stands := ((Finder.filledAt?_eq_some_iff).mp leads.found).1
      have ordered : closing.start ≤ place := by
        refine Nat.le_of_not_lt fun before => ?_
        have next := closes.leftmost.isLeftmost fresh.boundary (fresh.closing.symm.trans sees)
        rw [next.missing place leads.boundary leads.reached before] at stands
        cases stands
      rw [closer.placed_filledAt? place last leads.found]
      exact Nat.lt_of_lt_of_le first.2.1 ordered

variable (clear : Unobstructed opener closer round.offset)

include clear

theorem verdict_filled_of_closes (shuts : round.verdict text = .closes closing) :
    (round.filled text opener closer).verdict text = .closes closing := by
  have first := filled_of_closes opens closes fresh shuts
  cases (verdict_eq_iff).mp shuts with
  | closes sees flat extent =>
      rw [fresh.opening] at flat
      exact (verdict_eq_iff).mpr (.closes first (clear.deepens_filled opens closes fresh.boundary
        (fresh.closing.symm.trans sees) flat) extent)

/-- An empty closing that is passed over does not change what is seen. -/
theorem filled_of_skips {later : Nat} (skips : round.verdict text = .skips later) :
    (round.filled text opener closer).sight =
      ⟨opener.filled text later, closer.filled text later⟩ := by
  cases (verdict_eq_iff).mp skips with
  | @skips closing sees flat empty inside =>
      rw [fresh.opening] at flat
      have next := fresh.closing.symm.trans sees
      have nothing : closing.filled? = none := Span.filled?_of_empty (Nat.le_of_eq empty)
      rw [Round.filled, clear.filled_skip opens closes fresh.boundary next flat empty,
        closes.filled_of_some fresh.boundary next, nothing, Option.none_or]

end

/-- As long as no empty match is in the way, a scan comes to the same result as one that
sees no empty matches. -/
theorem Rounds.exists_filled (opens : opener.FindsLeftmost text)
    (closes : closer.FindsLeftmost text) {round : Round} {rounds : List Round}
    {result : Option Nat} (run : Rounds text (afresh opener closer) round rounds result)
    (fresh : round.IsFresh text opener closer)
    (clear : Unobstructed opener closer round.offset) :
    ∃ rounds, Rounds text (afresh (opener.filled text) (closer.filled text))
      (round.filled text opener closer) rounds result := by
  induction run with
  | lost lost => exact ⟨_, .lost (verdict_filled_of_lost closes fresh lost)⟩
  | balanced shuts last =>
      exact ⟨_, .balanced (verdict_filled_of_closes opens closes fresh clear shuts) last⟩
  | @next round next rounds result follows rest ih =>
      have later := fresh_of_follows opens.steady closes.steady fresh follows
      have farther := (fresh.of_later opens.steady closes.steady (later?_of_follows follows).1).1
      rcases ih later (clear.of_le (Nat.le_of_lt farther)) with ⟨others, onwards⟩
      cases follows with
      | deeper deepens =>
          by_cases unfilled : closer.filled text round.offset = none
          · rw [result_of_unfilled opens closes (.next (.deeper deepens) rest) fresh unfilled]
            exact ⟨_, .lost ((verdict_eq_iff).mpr (.missing unfilled))⟩
          · exact ⟨_, .next (.deeper (verdict_filled_of_opens opens closes fresh deepens unfilled))
              onwards⟩
      | shallower shuts more =>
          have counts := verdict_filled_of_closes opens closes fresh clear shuts
          exact ⟨_, .next (.shallower counts more) onwards⟩
      | skip skips =>
          exact onwards.relocate rfl (filled_of_skips opens closes fresh clear skips)

end Balance

namespace Delimiters

open Balance (Rounds Unobstructed afresh firstRound)

/-- The rounds of a count from an offset on that only looks at matches that are not empty,
with its result. -/
def CountsFilled (delimiters : Delimiters) (text : Text) (offset : Nat)
    (rounds : List Balance.Round) (result : Option Nat) : Prop :=
  Rounds text
    (afresh ((delimiters.deeper text).filled text) ((delimiters.closer text).filled text))
    (firstRound ((delimiters.deeper text).filled text) ((delimiters.closer text).filled text)
      offset) rounds result

variable {delimiters : Delimiters}

/-- A region ends where a count says that only looks at matches that are not empty, as long
as no empty match stands in the way of an opening. -/
theorem close?_filled
    (opens : (delimiters.nested.getD delimiters.opening).SearchesLeftmost text)
    (closes : delimiters.closing.SearchesLeftmost text)
    (boundary : Text.isBoundary text offset = true)
    (clear : Unobstructed (delimiters.deeper text) (delimiters.closer text) offset)
    (result : Option Nat) :
    (∃ rounds, delimiters.CountsFilled text offset rounds result) ↔
      delimiters.close? text offset = result := by
  have opener : (delimiters.deeper text).FindsLeftmost text := opens.findsLeftmost
  have closer : (delimiters.closer text).FindsLeftmost text := closes.findsLeftmost
  rcases Balance.exists_rounds_close? opener.steady closer.steady boundary with ⟨rounds, run⟩
  rcases run.exists_filled opener closer (Balance.fresh_firstRound boundary) clear with
    ⟨others, counted⟩
  have unique {rounds : List Balance.Round} {result : Option Nat}
      (counts : delimiters.CountsFilled text offset rounds result) :=
    Balance.close?_of_rounds opener.filled.steady closer.filled.steady boundary counts
  constructor
  · rintro ⟨rounds, counts⟩
    exact (unique counted).symm.trans (unique counts)
  · rintro rfl
    exact ⟨others, counted⟩

/-! ## Regions of a given text -/

/-- The search for a pattern, so that it can be evaluated. -/
def listed (pattern : Pattern) (text : Text) : Finder :=
  fun offset => (pattern.searchListed? text offset).map Found.span

theorem find?_eq_listed (pattern : Pattern) (text : Text) :
    pattern.find? text = listed pattern text := by
  funext offset
  rw [Pattern.find?, Pattern.search?_eq_searchListed?, listed]

/-- What a scan comes to, and what a count without empty matches comes to, if both patterns
are found leftmost in the text. -/
def ends? (delimiters : Delimiters) (text : Text) (offset : Nat) :
    Option (Option Nat × Option Nat) :=
  let deeper := delimiters.nested.getD delimiters.opening
  let opener := listed deeper text
  let closer := listed delimiters.closing text
  if deeper.checksLeftmost text && delimiters.closing.checksLeftmost text then
    some (Balance.close? text opener closer offset,
      Balance.close? text (opener.filled text) (closer.filled text) offset)
  else
    none

theorem of_ends? {scanned counted : Option Nat}
    (evaluated : delimiters.ends? text offset = some (scanned, counted))
    (boundary : Text.isBoundary text offset = true) :
    (delimiters.nested.getD delimiters.opening).SearchesLeftmost text ∧
      delimiters.closing.SearchesLeftmost text ∧
      delimiters.close? text offset = scanned ∧
      ∃ rounds, delimiters.CountsFilled text offset rounds counted := by
  rw [ends?] at evaluated
  split at evaluated
  · rename_i checked
    have checks := Bool.and_eq_true_iff.mp checked
    have opens := Pattern.searchesLeftmost_of_checks checks.1
    have closes := Pattern.searchesLeftmost_of_checks checks.2
    have results := Prod.mk.inj (Option.some.inj evaluated)
    have run := Balance.exists_rounds_close? opens.findsLeftmost.filled.steady
      closes.findsLeftmost.filled.steady boundary
    rw [find?_eq_listed, find?_eq_listed, results.2] at run
    refine ⟨opens, closes, ?_, ?_⟩
    · rw [close?, deeper, closer, find?_eq_listed, find?_eq_listed]
      exact results.1
    · simp only [CountsFilled, deeper, closer, find?_eq_listed]
      exact run
  · cases evaluated

/-- An empty closing that stands apart from all openings is passed over. -/
theorem close?_filled_apart :
    ∃ delimiters, compile "\\(" "\\)|(?=x)" = .ok delimiters ∧
      Unobstructed (delimiters.deeper "(x())".toList) (delimiters.closer "(x())".toList) 1 ∧
      delimiters.close? "(x())".toList 1 = some 4 ∧
      ∃ rounds, delimiters.CountsFilled "(x())".toList 1 rounds (some 4) := by
  have evaluated : (compile "\\(" "\\)|(?=x)").toOption.map (fun delimiters =>
      (delimiters.ends? "(x())".toList 1,
        Unobstructed.standsApart (listed (delimiters.nested.getD delimiters.opening) "(x())".toList)
          (listed delimiters.closing "(x())".toList) "(x())".toList)) =
      some (some (some 4, some 4), true) := by
    decide +kernel
  cases made : compile "\\(" "\\)|(?=x)" with
  | error fault =>
      rw [made] at evaluated
      cases evaluated
  | ok delimiters =>
      rw [made] at evaluated
      have facts := Prod.mk.inj (Option.some.inj evaluated)
      rcases of_ends? facts.1 (by decide) with ⟨opens, closes, result, _⟩
      have clear : Unobstructed (delimiters.deeper "(x())".toList)
          (delimiters.closer "(x())".toList) 1 := by
        refine .of_standsApart opens.findsLeftmost ?_
        rw [deeper, closer, find?_eq_listed, find?_eq_listed]
        exact facts.2
      exact ⟨delimiters, rfl, clear, result,
        (close?_filled opens closes (by decide) clear (some 4)).mpr result⟩

/-- Neither an empty opening nor an empty closing counts, but the one hides an opening
behind it and the other takes the scan past an opening at its place. -/
theorem close?_obstructed :
    (∃ delimiters, ((compile "\\(" "\\)").bind fun plain => plain.withNested "\\(?") =
        .ok delimiters ∧
      (delimiters.nested.getD delimiters.opening).SearchesLeftmost "(a())".toList ∧
      delimiters.closing.SearchesLeftmost "(a())".toList ∧
      delimiters.close? "(a())".toList 1 = some 3 ∧
      ∃ rounds, delimiters.CountsFilled "(a())".toList 1 rounds (some 4)) ∧
    ∃ delimiters, compile "\\(" "\\)?" = .ok delimiters ∧
      (delimiters.nested.getD delimiters.opening).SearchesLeftmost "(())".toList ∧
      delimiters.closing.SearchesLeftmost "(())".toList ∧
      delimiters.close? "(())".toList 1 = some 2 ∧
      ∃ rounds, delimiters.CountsFilled "(())".toList 1 rounds (some 3) := by
  constructor
  · have evaluated : ((compile "\\(" "\\)").bind fun plain =>
        plain.withNested "\\(?").toOption.map (fun delimiters =>
          delimiters.ends? "(a())".toList 1) = some (some (some 3, some 4)) := by
      decide +kernel
    cases made : (compile "\\(" "\\)").bind fun plain => plain.withNested "\\(?" with
    | error fault =>
        rw [made] at evaluated
        cases evaluated
    | ok delimiters =>
        rw [made] at evaluated
        exact ⟨delimiters, rfl, of_ends? (Option.some.inj evaluated) (by decide)⟩
  · have evaluated : (compile "\\(" "\\)?").toOption.map (fun delimiters =>
        delimiters.ends? "(())".toList 1) = some (some (some 2, some 3)) := by
      decide +kernel
    cases made : compile "\\(" "\\)?" with
    | error fault =>
        rw [made] at evaluated
        cases evaluated
    | ok delimiters =>
        rw [made] at evaluated
        exact ⟨delimiters, rfl, of_ends? (Option.some.inj evaluated) (by decide)⟩

end Delimiters

end FencedHighlight
