import FencedHighlight.Proofs.Delimiters.Lookahead

namespace FencedHighlight

/-!
The rounds of a scan for the end of a region.

In each round a scan looks at the next opening and at the next closing.  One of them
counts, or an empty closing is passed over, and the scan goes on behind it.  A scan that
searches for both afresh in every round has no memory.  With searches for leftmost matches
a scan that remembers what it has seen goes through the very same rounds.
-/

variable {text : Text} {opener closer : Finder}

namespace Balance

/-- The next opening and the next closing, as a scan sees them. -/
structure Sight where
  opening : Option Span
  closing : Option Span

/-- What a scan sees at an offset, after what it has seen before. -/
abbrev Look := (offset : Nat) -> (seen : Sight) -> Sight

/-- Search for both delimiters at each offset. -/
def afresh (opener closer : Finder) : Look :=
  fun offset _ => ⟨opener offset, closer offset⟩

/-- Keep what has been seen until it has been passed. -/
def remembering (opener closer : Finder) : Look :=
  fun offset seen =>
    ⟨opener.refresh offset seen.opening, closer.refresh offset seen.closing⟩

/-- What a scan makes of what it sees. -/
inductive Verdict where
  /-- There is no closing any more, or only an empty one at the end of the text. -/
  | lost
  | opens (opening : Span)
  | closes (closing : Span)
  /-- An empty closing does not count.  The scan goes on at the next boundary. -/
  | skips (later : Nat)

namespace Verdict

/-- The delimiter that counts. -/
def counted? : Verdict -> Option Span
  | opens span | closes span => some span
  | lost | skips _ => none

/-- The offset at which a scan goes on. -/
def later? : Verdict -> Option Nat
  | opens span | closes span => some span.stop
  | skips later => some later
  | lost => none

end Verdict

/-- A round of a scan.  `depth` counts the regions that are open, the outermost among
them. -/
structure Round where
  depth : Nat
  offset : Nat
  sight : Sight

namespace Round

def verdict (text : Text) (round : Round) : Verdict :=
  round.sight.closing.elim .lost fun closing =>
    (deepens round.sight.opening closing).elim
      (if closing.stop = closing.start then
        if Text.size text ≤ closing.start then .lost
        else .skips (Text.nextBoundary text closing.start)
      else
        .closes closing)
      .opens

/-- The round at another depth and offset. -/
def move (round : Round) (look : Look) (depth offset : Nat) : Round :=
  ⟨depth, offset, look offset round.sight⟩

end Round

/-- The round that follows another one, unless the scan ends. -/
inductive Follows (text : Text) (look : Look) (round : Round) : Round -> Prop where
  | deeper {opening : Span} (opens : round.verdict text = .opens opening) :
      Follows text look round (round.move look (round.depth + 1) opening.stop)
  | shallower {closing : Span} (closes : round.verdict text = .closes closing)
      (more : round.depth - 1 ≠ 0) :
      Follows text look round (round.move look (round.depth - 1) closing.stop)
  | skip {later : Nat} (skips : round.verdict text = .skips later) :
      Follows text look round (round.move look round.depth later)

/-- The rounds of a scan, and the start of the closing that balances the region if there
is one. -/
inductive Rounds (text : Text) (look : Look) : Round -> List Round -> Option Nat -> Prop where
  | lost {round : Round} (lost : round.verdict text = .lost) : Rounds text look round [round] none
  | balanced {round : Round} {closing : Span} (closes : round.verdict text = .closes closing)
      (last : round.depth - 1 = 0) : Rounds text look round [round] (some closing.start)
  | next {round next : Round} {rounds : List Round} {result : Option Nat}
      (follows : Follows text look round next) (rest : Rounds text look next rounds result) :
      Rounds text look round (round :: rounds) result

/-- The first round of the scan for the end of a region that begins at an offset. -/
def firstRound (opener closer : Finder) (offset : Nat) : Round :=
  ⟨1, offset, ⟨opener offset, closer offset⟩⟩

/-! ## What a round comes to -/

/-- How a round comes to its verdict. -/
inductive Judged (text : Text) (round : Round) : Verdict -> Prop where
  | missing (unseen : round.sight.closing = none) : Judged text round .lost
  | opens {closing opening : Span} (sees : round.sight.closing = some closing)
      (deeper : deepens round.sight.opening closing = some opening) :
      Judged text round (.opens opening)
  | ended {closing : Span} (sees : round.sight.closing = some closing)
      (flat : deepens round.sight.opening closing = none) (empty : closing.stop = closing.start)
      (atEnd : Text.size text ≤ closing.start) : Judged text round .lost
  | skips {closing : Span} (sees : round.sight.closing = some closing)
      (flat : deepens round.sight.opening closing = none) (empty : closing.stop = closing.start)
      (inside : closing.start < Text.size text) :
      Judged text round (.skips (Text.nextBoundary text closing.start))
  | closes {closing : Span} (sees : round.sight.closing = some closing)
      (flat : deepens round.sight.opening closing = none) (extent : closing.stop ≠ closing.start) :
      Judged text round (.closes closing)

theorem verdict_eq_iff {round : Round} {verdict : Verdict} :
    round.verdict text = verdict ↔ Judged text round verdict := by
  constructor
  · rintro rfl
    rw [Round.verdict]
    cases sees : round.sight.closing with
    | none => exact .missing sees
    | some closing =>
        rw [Option.elim_some]
        cases deeper : deepens round.sight.opening closing with
        | some opening => exact .opens sees deeper
        | none =>
            rw [Option.elim_none]
            split
            · rename_i empty
              split
              · rename_i atEnd
                exact .ended sees deeper empty atEnd
              · rename_i inside
                exact .skips sees deeper empty (Nat.lt_of_not_le inside)
            · rename_i extent
              exact .closes sees deeper extent
  · intro judged
    rw [Round.verdict]
    cases judged with
    | missing unseen => rw [unseen, Option.elim_none]
    | opens sees deeper => rw [sees, Option.elim_some, deeper, Option.elim_some]
    | ended sees flat empty atEnd =>
        rw [sees, Option.elim_some, flat, Option.elim_none, if_pos empty, if_pos atEnd]
    | skips sees flat empty inside =>
        rw [sees, Option.elim_some, flat, Option.elim_none, if_pos empty,
          if_neg (Nat.not_le_of_lt inside)]
    | closes sees flat extent =>
        rw [sees, Option.elim_some, flat, Option.elim_none, if_neg extent]

/-- What holds of the first round and is kept from each round to the next holds of all
rounds. -/
theorem Rounds.forall_mem {look : Look} {Holds : Round -> Prop}
    (keeps : ∀ round next, Holds round -> Follows text look round next -> Holds next)
    {round : Round} {rounds : List Round} {result : Option Nat}
    (run : Rounds text look round rounds result) (first : Holds round) :
    ∀ each ∈ rounds, Holds each := by
  induction run with
  | lost lost => exact fun each member => List.mem_singleton.mp member ▸ first
  | balanced closes last => exact fun each member => List.mem_singleton.mp member ▸ first
  | next follows rest ih =>
      intro each member
      rcases List.mem_cons.mp member with rfl | later
      · exact first
      · exact ih (keeps _ _ first follows) each later

/-- A region is open in every round. -/
theorem Rounds.depth_pos {look : Look} {round : Round} {rounds : List Round}
    {result : Option Nat} (run : Rounds text look round rounds result)
    (first : 1 ≤ round.depth) : ∀ each ∈ rounds, 1 ≤ each.depth := by
  refine run.forall_mem (fun round next inside follows => ?_) first
  cases follows with
  | deeper opens => exact Nat.le_add_left 1 round.depth
  | shallower closes more => exact Nat.one_le_iff_ne_zero.mpr more
  | skip skips => exact inside

/-! ## Rounds that see what a fresh search finds -/

/-- Whether a round stands at a boundary and sees what searches from there report. -/
structure Round.IsFresh (text : Text) (opener closer : Finder) (round : Round) : Prop where
  boundary : Text.isBoundary text round.offset = true
  opening : round.sight.opening = opener round.offset
  closing : round.sight.closing = closer round.offset

namespace Round.IsFresh

variable {round next : Round} {span : Span} {later : Nat}

/-- What counts does not begin before the round, and the scan goes on behind it. -/
theorem of_counted (fresh : round.IsFresh text opener closer) (opens : opener.Steady text)
    (closes : closer.Steady text) (counted : (round.verdict text).counted? = some span) :
    round.offset ≤ span.start ∧ span.start < span.stop ∧
      Text.isBoundary text span.stop = true ∧
      (round.verdict text).later? = some span.stop := by
  cases verdict : round.verdict text with
  | lost | skips =>
      rw [verdict] at counted
      cases counted
  | opens opening =>
      rw [verdict] at counted
      rcases Option.some.inj counted with rfl
      cases (verdict_eq_iff).mp verdict with
      | opens sees deeper =>
          have first := (deepens_eq_some_iff).mp deeper
          have found := fresh.opening.symm.trans first.1
          exact ⟨opens.ahead fresh.boundary found, first.2.2, (opens.ends found).2.1, rfl⟩
  | closes closing =>
      rw [verdict] at counted
      rcases Option.some.inj counted with rfl
      cases (verdict_eq_iff).mp verdict with
      | closes sees flat extent =>
          have found := fresh.closing.symm.trans sees
          have ends := closes.ends found
          exact ⟨closes.ahead fresh.boundary found,
            Nat.lt_of_le_of_ne ends.2.2 (Ne.symm extent), ends.2.1, rfl⟩

/-- The scan moves on to a boundary. -/
theorem of_later (fresh : round.IsFresh text opener closer) (opens : opener.Steady text)
    (closes : closer.Steady text) (goes : (round.verdict text).later? = some later) :
    round.offset < later ∧ Text.isBoundary text later = true := by
  cases verdict : round.verdict text with
  | lost =>
      rw [verdict] at goes
      cases goes
  | opens span | closes span =>
      have counts : (round.verdict text).counted? = some span := by rw [verdict]; rfl
      have extent := fresh.of_counted opens closes counts
      rcases Option.some.inj (extent.2.2.2.symm.trans goes) with rfl
      exact ⟨Nat.lt_of_le_of_lt extent.1 extent.2.1, extent.2.2.1⟩
  | skips later =>
      rw [verdict] at goes
      rcases Option.some.inj goes with rfl
      cases (verdict_eq_iff).mp verdict with
      | @skips closing sees flat empty inside =>
          have reached := closes.ahead fresh.boundary (fresh.closing.symm.trans sees)
          have beyond := Text.lt_nextBoundary text closing.start
          exact ⟨by omega, Text.isBoundary_nextBoundary inside⟩

end Round.IsFresh

theorem later?_of_follows {look : Look} {round next : Round}
    (follows : Follows text look round next) :
    (round.verdict text).later? = some next.offset ∧
      next = round.move look next.depth next.offset := by
  cases follows with
  | deeper verdict | shallower verdict more | skip verdict => exact ⟨by rw [verdict]; rfl, rfl⟩

theorem fresh_of_follows (opens : opener.Steady text) (closes : closer.Steady text)
    {round next : Round} (fresh : round.IsFresh text opener closer)
    (follows : Follows text (afresh opener closer) round next) :
    next.IsFresh text opener closer := by
  have goes := later?_of_follows follows
  rw [goes.2]
  exact ⟨(fresh.of_later opens closes goes.1).2, rfl, rfl⟩

/-- The rounds are the same with another way to look that sees the same wherever a round
may come to. -/
theorem Rounds.congr {look other : Look} {Holds : Round -> Prop}
    (keeps : ∀ round next, Holds round -> Follows text look round next -> Holds next)
    (same : ∀ round depth later, Holds round -> (round.verdict text).later? = some later ->
      round.move look depth later = round.move other depth later)
    {round : Round} {rounds : List Round} {result : Option Nat}
    (run : Rounds text look round rounds result) (first : Holds round) :
    Rounds text other round rounds result := by
  induction run with
  | lost lost => exact .lost lost
  | balanced closes last => exact .balanced closes last
  | @next round next rounds result follows rest ih =>
      refine .next ?_ (ih (keeps round next first follows))
      have moved := later?_of_follows follows
      rw [moved.2, same round _ _ first moved.1]
      cases follows with
      | deeper opens => exact .deeper opens
      | shallower closes more => exact .shallower closes more
      | skip skips => exact .skip skips

/-- What is remembered is what a fresh search would report. -/
theorem move_remembering (opens : opener.Steady text) (closes : closer.Steady text)
    {round : Round} (fresh : round.IsFresh text opener closer) (depth : Nat) {later : Nat}
    (goes : (round.verdict text).later? = some later) :
    round.move (remembering opener closer) depth later =
      round.move (afresh opener closer) depth later := by
  have onwards := fresh.of_later opens closes goes
  have opened : opener.Remembers text later round.sight.opening :=
    ⟨round.offset, Nat.le_of_lt onwards.1, fresh.boundary, fresh.opening⟩
  have closed : closer.Remembers text later round.sight.closing :=
    ⟨round.offset, Nat.le_of_lt onwards.1, fresh.boundary, fresh.closing⟩
  rw [Round.move, Round.move, remembering, opens.refresh_eq onwards.2 opened,
    closes.refresh_eq onwards.2 closed, afresh]

/-- A scan that remembers goes through the same rounds as one that searches afresh. -/
theorem rounds_remembering_iff (opens : opener.Steady text) (closes : closer.Steady text)
    {round : Round} {rounds : List Round} {result : Option Nat}
    (fresh : round.IsFresh text opener closer) :
    Rounds text (remembering opener closer) round rounds result ↔
      Rounds text (afresh opener closer) round rounds result := by
  constructor
  · intro run
    refine run.congr (fun round next fresh follows => ?_)
      (fun round depth later fresh goes => move_remembering opens closes fresh depth goes) fresh
    have moved := later?_of_follows follows
    rw [moved.2, move_remembering opens closes fresh _ moved.1]
    exact ⟨(fresh.of_later opens closes moved.1).2, rfl, rfl⟩
  · intro run
    exact run.congr (fun round next fresh follows => fresh_of_follows opens closes fresh follows)
      (fun round depth later fresh goes => (move_remembering opens closes fresh depth goes).symm)
      fresh

/-- There are no more rounds than boundaries ahead. -/
theorem Rounds.length_le (opens : opener.Steady text) (closes : closer.Steady text)
    {round : Round} {rounds : List Round} {result : Option Nat}
    (run : Rounds text (afresh opener closer) round rounds result)
    (fresh : round.IsFresh text opener closer) :
    rounds.length + round.offset ≤ Text.size text + 1 := by
  induction run with
  | lost lost | balanced closes last =>
      have within := Text.le_size_of_isBoundary fresh.boundary
      rw [List.length_singleton]
      omega
  | next follows rest ih =>
      have short := ih (fresh_of_follows opens closes fresh follows)
      have farther := (fresh.of_later opens closes (later?_of_follows follows).1).1
      rw [List.length_cons]
      omega

/-- Every scan comes to its end. -/
theorem exists_rounds (opens : opener.Steady text) (closes : closer.Steady text) (round : Round)
    (fresh : round.IsFresh text opener closer) :
    ∃ rounds result, Rounds text (afresh opener closer) round rounds result := by
  generalize left : Text.size text - round.offset = bound
  induction bound using Nat.strongRecOn generalizing round with
  | ind bound ih =>
      have onwards {next : Round} (follows : Follows text (afresh opener closer) round next) :
          ∃ rounds result, Rounds text (afresh opener closer) round rounds result := by
        have later := fresh_of_follows opens closes fresh follows
        have farther := (fresh.of_later opens closes (later?_of_follows follows).1).1
        have within := Text.le_size_of_isBoundary later.boundary
        rcases ih (Text.size text - next.offset) (by omega) next later rfl with
          ⟨rounds, result, rest⟩
        exact ⟨round :: rounds, result, .next follows rest⟩
      cases verdict : round.verdict text with
      | lost => exact ⟨[round], none, .lost verdict⟩
      | opens opening => exact onwards (.deeper verdict)
      | skips later => exact onwards (.skip verdict)
      | closes closing =>
          by_cases last : round.depth - 1 = 0
          · exact ⟨[round], some closing.start, .balanced verdict last⟩
          · exact onwards (.shallower verdict last)

/-- A delimiter that begins inside another one that has counted does not count. -/
theorem Rounds.pairwise_counted (opens : opener.Steady text) (closes : closer.Steady text)
    {round : Round} {rounds : List Round} {result : Option Nat}
    (run : Rounds text (afresh opener closer) round rounds result)
    (fresh : round.IsFresh text opener closer) :
    rounds.Pairwise fun earlier later =>
      ∀ first ∈ (earlier.verdict text).counted?, ∀ second ∈ (later.verdict text).counted?,
        first.stop ≤ second.start := by
  induction run with
  | lost lost | balanced closes last => exact List.pairwise_singleton _ _
  | @next round next rounds result follows rest ih =>
      have later := fresh_of_follows opens closes fresh follows
      refine List.pairwise_cons.mpr ⟨fun each member first counts second counted => ?_, ih later⟩
      -- all rounds from the next one on stand behind what counts now
      have keeps (round after : Round)
          (stands : round.IsFresh text opener closer ∧ next.offset ≤ round.offset)
          (follows : Follows text (afresh opener closer) round after) :
          after.IsFresh text opener closer ∧ next.offset ≤ after.offset := by
        have farther := (stands.1.of_later opens closes (later?_of_follows follows).1).1
        exact ⟨fresh_of_follows opens closes stands.1 follows, by omega⟩
      have stands := rest.forall_mem keeps ⟨later, Nat.le_refl _⟩ each member
      have goes := (fresh.of_counted opens closes counts).2.2.2
      rw [(later?_of_follows follows).1] at goes
      have reached := (stands.1.of_counted opens closes counted).1
      have place := Option.some.inj goes
      omega

/-! ## The end of the region -/

/-- What a scan comes to after a verdict, given what it comes to from another depth and
offset on.  `depth` counts the regions that are open inside the outermost one. -/
def Verdict.resume (onwards : (depth offset : Nat) -> Option Nat) : Verdict -> Nat -> Option Nat
  | lost, _ => none
  | opens opening, depth => onwards (depth + 1) opening.stop
  | skips later, depth => onwards depth later
  | closes closing, 0 => some closing.start
  | closes closing, depth + 1 => onwards depth closing.stop

/-- A step of the search for the end of a region is a round. -/
theorem closeFrom_succ {round : Round} {seen : Sight} {steps depth : Nat}
    (sees : round.sight = remembering opener closer round.offset seen) :
    closeFrom text opener closer (steps + 1) depth round.offset seen.opening seen.closing =
      (round.verdict text).resume (fun depth offset =>
        closeFrom text opener closer steps depth offset round.sight.opening round.sight.closing)
        depth := by
  have opened : opener.refresh round.offset seen.opening = round.sight.opening := by rw [sees]; rfl
  have closed : closer.refresh round.offset seen.closing = round.sight.closing := by rw [sees]; rfl
  rw [closeFrom, opened, closed]
  cases seen : round.sight.closing with
  | none =>
      rw [(verdict_eq_iff).mpr (.missing seen)]
      rfl
  | some closing =>
      simp only [Option.bind_eq_bind, Option.bind_some]
      cases deeper : deepens round.sight.opening closing with
      | some opening =>
          rw [(verdict_eq_iff).mpr (.opens seen deeper)]
          rfl
      | none =>
          by_cases empty : closing.stop = closing.start
          · by_cases atEnd : Text.size text ≤ closing.start
            · rw [(verdict_eq_iff).mpr (.ended seen deeper empty atEnd)]
              simp only [if_pos empty, if_pos atEnd, Verdict.resume]
            · rw [(verdict_eq_iff).mpr (.skips seen deeper empty (Nat.lt_of_not_le atEnd))]
              simp only [if_pos empty, if_neg atEnd, Verdict.resume]
          · rw [(verdict_eq_iff).mpr (.closes seen deeper empty)]
            simp only [if_neg empty]
            cases depth <;> rfl

/-- The search for the end of a region is a scan that remembers what it has seen. -/
theorem closeFrom_of_rounds {round : Round} {rounds : List Round} {result : Option Nat}
    (run : Rounds text (remembering opener closer) round rounds result) {steps depth : Nat}
    (seen : Sight) (inside : round.depth = depth + 1)
    (sees : round.sight = remembering opener closer round.offset seen)
    (enough : rounds.length ≤ steps) :
    closeFrom text opener closer steps depth round.offset seen.opening seen.closing = result := by
  induction run generalizing steps depth seen with
  | lost lost =>
      obtain ⟨steps, rfl⟩ := Nat.exists_eq_add_of_le' enough
      exact (closeFrom_succ sees).trans (by rw [lost]; rfl)
  | balanced closes last =>
      obtain ⟨steps, rfl⟩ := Nat.exists_eq_add_of_le' enough
      have outermost : depth = 0 := by omega
      subst outermost
      exact (closeFrom_succ sees).trans (by rw [closes]; rfl)
  | @next round next rounds result follows rest ih =>
      obtain ⟨steps, rfl⟩ := Nat.exists_eq_add_of_le' (Nat.le_of_add_left_le enough)
      have short : rounds.length ≤ steps := Nat.le_of_add_le_add_right enough
      refine (closeFrom_succ sees).trans ?_
      cases follows with
      | deeper opens =>
          rw [opens]
          exact ih _ (by rw [Round.move, inside]) rfl short
      | shallower closes more =>
          obtain ⟨depth, rfl⟩ := Nat.exists_eq_succ_of_ne_zero (n := depth) (by omega)
          rw [closes]
          exact ih _ (by rw [Round.move, inside]; rfl) rfl short
      | skip skips =>
          rw [skips]
          exact ih _ (by rw [Round.move, inside]) rfl short

variable {offset : Nat}

theorem fresh_firstRound (boundary : Text.isBoundary text offset = true) :
    (firstRound opener closer offset).IsFresh text opener closer :=
  ⟨boundary, rfl, rfl⟩

/-- Whatever the rounds, they come to what the search for the end of a region gives. -/
theorem close?_of_rounds (opens : opener.Steady text) (closes : closer.Steady text)
    (boundary : Text.isBoundary text offset = true) {rounds : List Round} {result : Option Nat}
    (run : Rounds text (afresh opener closer) (firstRound opener closer offset) rounds result) :
    close? text opener closer offset = result := by
  have fresh : (firstRound opener closer offset).IsFresh text opener closer :=
    fresh_firstRound boundary
  have short : rounds.length + offset ≤ Text.size text + 1 := run.length_le opens closes fresh
  have enough := size_lt_stepLimit text
  have remembered := (rounds_remembering_iff opens closes fresh).mpr run
  refine closeFrom_of_rounds remembered ⟨opener offset, closer offset⟩ rfl ?_ (by omega)
  rw [remembering, firstRound, opens.refresh_eq boundary (Finder.remembers_search boundary),
    closes.refresh_eq boundary (Finder.remembers_search boundary)]

theorem exists_rounds_close? (opens : opener.Steady text) (closes : closer.Steady text)
    (boundary : Text.isBoundary text offset = true) :
    ∃ rounds, Rounds text (afresh opener closer) (firstRound opener closer offset) rounds
      (close? text opener closer offset) := by
  rcases exists_rounds opens closes _ (fresh_firstRound boundary) with ⟨rounds, result, run⟩
  exact ⟨rounds, close?_of_rounds opens closes boundary run ▸ run⟩

end Balance

end FencedHighlight
