import FencedHighlight.Proofs.Delimiters.Empty
import FencedHighlight.Proofs.Rule.Least
import FencedHighlight.Proofs.Text.First

namespace FencedHighlight

/-!
Regions between marks.

Where a delimiter is told by what a text begins with, whatever stands before it, the nesting can
be read off the text: a reader goes on mark by mark, passes over the characters where none
begins, and counts up and down.  A region ends where the count would fall below its start, and
the first region is that of the first opening mark that is ever balanced.
-/

namespace Balance

open Text (stretch)

/-- What a text begins with up to the closing mark that balances a mark before it.  `depth` counts
the marks that have been opened and are still open. -/
inductive Encloses (opens closes : Text -> Prop) : (depth : Nat) -> (inside rest : Text) -> Prop where
  | ends {mark after : Text} (closing : closes mark) : Encloses opens closes 0 [] (mark ++ after)
  | deeper {depth : Nat} {mark inside rest : Text} (opening : opens mark)
      (onwards : Encloses opens closes (depth + 1) inside rest) :
      Encloses opens closes depth (mark ++ inside) (mark ++ rest)
  | shallower {depth : Nat} {mark inside rest : Text} (closing : closes mark)
      (onwards : Encloses opens closes depth inside rest) :
      Encloses opens closes (depth + 1) (mark ++ inside) (mark ++ rest)
  | skip {depth : Nat} {char : Char} {inside rest : Text}
      (unmarked : ∀ mark after, char :: rest = mark ++ after -> ¬opens mark ∧ ¬closes mark)
      (onwards : Encloses opens closes depth inside rest) :
      Encloses opens closes depth (char :: inside) (char :: rest)

/-- Whether a text has a region with these ends: an opening mark, and behind it what it
encloses. -/
def IsRegion (opens closes : Text -> Prop) (text : Text) (start inner stop : Nat) : Prop :=
  ∃ before mark inside after, text = before ++ mark ++ inside ++ after ∧ opens mark ∧
    Encloses opens closes 0 inside (inside ++ after) ∧ start = Text.size before ∧
    inner = start + Text.size mark ∧ stop = inner + Text.size inside

/-- Whether the first region at or after an offset has these ends. -/
structure IsFirstRegion (opens closes : Text -> Prop) (text : Text) (offset start inner stop : Nat) :
    Prop where
  region : IsRegion opens closes text start inner stop
  reached : offset ≤ start
  first : ∀ {earlier other last}, IsRegion opens closes text earlier other last ->
    offset ≤ earlier -> start ≤ earlier

/-- Whether a function finds the marks of a sort at the beginning of a text. -/
structure Recognises (mark? : Text -> Option Text) (IsMark : Text -> Prop) : Prop where
  filled : ¬IsMark []
  iff : ∀ {text mark}, mark? text = some mark ↔ IsMark mark ∧ ∃ after, text = mark ++ after

/-- Whether a search from a boundary reports the first mark. -/
def FindsFirst (mark? : Text -> Option Text) (text : Text) (finder : Finder) : Prop :=
  ∀ before rest, text = before ++ rest ->
    finder (Text.size before) = (Text.first? mark? rest).map (stretch (Text.size before))

/-! ## Marks at a place -/

variable {mark? : Text -> Option Text} {text before rest inside mark : Text} {finder : Finder}

/-- The mark that stands at a place of a text. -/
def standsAt? (mark? : Text -> Option Text) (text : Text) (place : Nat) : Option Span :=
  (Text.cut? text place).bind fun parts =>
    (mark? parts.2).map fun mark => ⟨place, place + Text.size mark⟩

theorem placed_standsAt? (mark? : Text -> Option Text) (text : Text) :
    Text.Placed Span.start (standsAt? mark? text) := by
  intro place span stands
  rcases Option.bind_eq_some_iff.mp stands with ⟨parts, _, found⟩
  rcases Option.map_eq_some_iff.mp found with ⟨mark, _, rfl⟩
  rfl

theorem standsAt?_append (before rest : Text) :
    standsAt? mark? (before ++ rest) (Text.size before) =
      (mark? rest).map fun mark => ⟨Text.size before, Text.size before + Text.size mark⟩ := by
  rw [standsAt?, Text.cut?_append, Option.bind_some]

theorem stop_stretch (before skipped mark : Text) :
    (stretch (Text.size before) (skipped, mark)).stop = Text.size (before ++ skipped ++ mark) := by
  rw [Text.size_append, Text.size_append]
  rfl

/-- The first mark of the rest of a text is the leftmost one from there on. -/
theorem first?_eq_leftmost? (before rest : Text) :
    (Text.first? mark? rest).map (stretch (Text.size before)) =
      Text.leftmost? (before ++ rest) (standsAt? mark? (before ++ rest)) (Text.size before) := by
  have boundary := Text.isBoundary_append before rest
  induction rest generalizing before with
  | nil =>
      have here := @standsAt?_append mark? before []
      cases stands : mark? [] with
      | some mark =>
          rw [stands] at here
          rw [Text.first?_of_found stands]
          exact (Text.isLeftmost_self boundary here).leftmost?.symm
      | none =>
          rw [stands] at here
          rw [Text.first?, stands]
          rw [List.append_nil] at here ⊢
          exact (Text.leftmost?_size here).symm
  | cons char rest ih =>
      have here := @standsAt?_append mark? before (char :: rest)
      cases stands : mark? (char :: rest) with
      | some mark =>
          rw [stands] at here
          rw [Text.first?_of_found stands]
          exact (Text.isLeftmost_self boundary here).leftmost?.symm
      | none =>
          rw [stands] at here
          have onwards := ih (before ++ [char]) (Text.isBoundary_append _ rest)
          rw [List.append_assoc, List.singleton_append, Text.size_append, Text.size_cons,
            Text.size_nil, Nat.add_zero] at onwards
          rw [Text.first?_of_missing stands, Option.map_map,
            ← show stretch (Text.size before + char.utf8Size) =
              stretch (Text.size before) ∘ fun found => (char :: found.1, found.2) from
                funext (Text.stretch_cons _ char), onwards, Text.leftmost?_append_cons here]

/-- Where no mark begins, the same marks are ahead from the next character on. -/
theorem FindsFirst.eq_of_missing (finds : FindsFirst mark? text finder) {char : Char}
    (missing : mark? (char :: rest) = none) (split : text = before ++ char :: rest) :
    finder (Text.size before) = finder (Text.size (before ++ [char])) := by
  have onwards := finds (before ++ [char]) rest (split.trans (List.append_cons before char rest))
  rw [finds before _ split, onwards, Text.first?_of_missing missing, Option.map_map,
    Text.size_append, Text.size_cons, Text.size_nil, Nat.add_zero]
  exact congrArg (Option.map · _) (funext fun found => (Text.stretch_cons _ char found).symm)

theorem FindsFirst.eq_leftmost? (finds : FindsFirst mark? text finder) {offset : Nat}
    (boundary : Text.isBoundary text offset = true) :
    finder offset = Text.leftmost? text (standsAt? mark? text) offset := by
  rcases (Text.isBoundary_iff).mp boundary with ⟨before, rest, rfl, rfl⟩
  rw [finds before rest rfl, first?_eq_leftmost?]

theorem FindsFirst.searchesLeftmost (finds : FindsFirst mark? text finder) :
    Text.SearchesLeftmost text Span.start finder :=
  Text.searchesLeftmost_of_eq (placed_standsAt? mark? text) fun _ => finds.eq_leftmost?

theorem size_passed (before mark inside : Text) :
    Text.size before + Text.size (mark ++ inside) =
      Text.size (before ++ mark) + Text.size inside := by
  simp only [Text.size_append, Nat.add_assoc]

/-- The round of a scan that searches afresh, at a depth and an offset. -/
def roundAt (opener closer : Finder) (depth offset : Nat) : Round :=
  ⟨depth, offset, ⟨opener offset, closer offset⟩⟩

theorem move_mark {opener closer : Finder} (round : Round) (depth : Nat) (before mark : Text) :
    round.move (afresh opener closer) depth (stretch (Text.size before) ([], mark)).stop =
      roundAt opener closer depth (Text.size (before ++ mark)) := by
  rw [stop_stretch, List.append_nil]
  rfl

/-! ## What a mark encloses -/

section

variable {open? close? : Text -> Option Text} {opens closes : Text -> Prop} {opener closer : Finder}
  {depth : Nat}

theorem Encloses.split (encloses : Encloses opens closes depth inside rest) :
    ∃ after, rest = inside ++ after := by
  induction encloses with
  | ends closing => exact ⟨_, rfl⟩
  | deeper opening onwards ih | shallower closing onwards ih =>
      rcases ih with ⟨after, rfl⟩
      exact ⟨after, (List.append_assoc _ _ _).symm⟩
  | skip unmarked onwards ih =>
      rcases ih with ⟨after, rfl⟩
      exact ⟨after, rfl⟩

/-- A region begins at a boundary. -/
theorem IsRegion.isBoundary {start inner stop : Nat}
    (region : IsRegion opens closes text start inner stop) :
    Text.isBoundary text start = true := by
  rcases region with ⟨before, mark, inside, after, rfl, _, _, rfl, _, _⟩
  rw [List.append_assoc, List.append_assoc]
  exact Text.isBoundary_append before _

/-- A part of a text where no mark begins is passed over. -/
theorem Encloses.skip_append {skipped : Text}
    (unmarked : ∀ head tail, skipped = head ++ tail -> tail ≠ [] ->
      ∀ mark after, tail ++ rest = mark ++ after -> ¬opens mark ∧ ¬closes mark)
    (onwards : Encloses opens closes depth inside rest) :
    Encloses opens closes depth (skipped ++ inside) (skipped ++ rest) := by
  induction skipped with
  | nil => exact onwards
  | cons char skipped ih =>
      have here := unmarked [] (char :: skipped) rfl (List.cons_ne_nil char skipped)
      exact .skip here (ih fun head tail split => unmarked (char :: head) tail (by rw [split]; rfl))

theorem Recognises.eq_none_iff {IsMark : Text -> Prop} (recognises : Recognises mark? IsMark) :
    mark? rest = none ↔ ∀ mark after, rest = mark ++ after -> ¬IsMark mark := by
  rw [Option.eq_none_iff_forall_ne_some]
  constructor
  · intro missing mark after split stands
    exact missing mark (recognises.iff.mpr ⟨stands, after, split⟩)
  · intro missing mark found
    rcases recognises.iff.mp found with ⟨stands, after, split⟩
    exact missing mark after split stands

theorem Recognises.size_pos {IsMark : Text -> Prop} (recognises : Recognises mark? IsMark)
    (stands : IsMark mark) : 0 < Text.size mark := by
  rw [Text.size_pos_iff]
  rintro rfl
  exact recognises.filled stands

/-- Whether a mark is found at none of the first places of a text. -/
def MissingBelow (mark? : Text -> Option Text) (rest : Text) (limit : Nat) : Prop :=
  ∀ head tail, rest = head ++ tail -> Text.size head < limit -> mark? tail = none

theorem missingBelow_of_first? {limit : Nat}
    (beyond : ∀ found ∈ Text.first? mark? rest, limit ≤ Text.size found.1) :
    MissingBelow mark? rest limit := by
  intro head tail split short
  cases found : Text.first? mark? rest with
  | none => exact (Text.first?_eq_none_iff).mp found head tail split
  | some first =>
      rcases (Text.first?_eq_some_iff).mp found with ⟨later, isFirst⟩
      exact isFirst.missing head tail split (Nat.lt_of_lt_of_le short (beyond first found))

/-- A mark that a search reports, in the text. -/
theorem FindsFirst.split {IsMark : Text -> Prop} (finds : FindsFirst mark? text finder)
    (recognises : Recognises mark? IsMark) (split : text = before ++ rest) {span : Span}
    (found : finder (Text.size before) = some span) :
    ∃ skipped mark after, rest = skipped ++ (mark ++ after) ∧ IsMark mark ∧
      span = stretch (Text.size before) (skipped, mark) ∧
      MissingBelow mark? rest (Text.size skipped) := by
  rw [finds before rest split] at found
  rcases Option.map_eq_some_iff.mp found with ⟨⟨skipped, mark⟩, first, rfl⟩
  rcases (Text.first?_eq_some_iff).mp first with ⟨later, isFirst⟩
  rcases recognises.iff.mp isFirst.found with ⟨stands, after, parts⟩
  exact ⟨skipped, mark, after, by rw [isFirst.split, parts], stands, rfl, isFirst.missing⟩

/-- No mark is found before the place that all that is reported has passed. -/
theorem FindsFirst.missingBelow (finds : FindsFirst mark? text finder)
    (split : text = before ++ rest) {limit : Nat}
    (beyond : ∀ span ∈ finder (Text.size before), Text.size before + limit ≤ span.start) :
    MissingBelow mark? rest limit := by
  refine missingBelow_of_first? fun found first => ?_
  rw [finds before rest split] at beyond
  exact Nat.le_of_add_le_add_left
    (beyond (stretch (Text.size before) found) (Option.mem_map_of_mem _ first))

variable (opening : Recognises open? opens) (closing : Recognises close? closes)

include opening closing

/-- What stands behind the first places, where no mark is found, is enclosed with them. -/
theorem Encloses.pass {skipped : Text}
    (unopened : MissingBelow open? (skipped ++ rest) (Text.size skipped))
    (unclosed : MissingBelow close? (skipped ++ rest) (Text.size skipped))
    (onwards : Encloses opens closes depth inside rest) :
    Encloses opens closes depth (skipped ++ inside) (skipped ++ rest) := by
  refine onwards.skip_append fun head tail split filled mark after stands => ?_
  have short : Text.size head < Text.size skipped := by
    rw [split, Text.size_append]
    exact Nat.lt_add_of_pos_right ((Text.size_pos_iff tail).mpr filled)
  have whole : skipped ++ rest = head ++ (tail ++ rest) := by rw [split, List.append_assoc]
  exact ⟨opening.eq_none_iff.mp (unopened head _ whole short) mark after stands,
    closing.eq_none_iff.mp (unclosed head _ whole short) mark after stands⟩

omit closing in
/-- An opening that does not deepen the nesting before a closing does not begin before it. -/
theorem le_of_flat (opens' : FindsFirst open? text opener) (split : text = before ++ rest)
    {shuts : Span} (flat : deepens (opener (Text.size before)) shuts = none) :
    ∀ span ∈ opener (Text.size before), shuts.start ≤ span.start := by
  intro span seen
  refine Nat.le_of_not_lt fun sooner => ?_
  rcases opens'.split opening split seen with ⟨skipped, mark, after, _, stands, rfl, _⟩
  have filled := opening.size_pos stands
  have deeper : deepens (opener (Text.size before)) shuts = some (stretch _ (skipped, mark)) :=
    (deepens_eq_some_iff).mpr ⟨seen, sooner, Nat.lt_add_of_pos_right filled⟩
  rw [flat] at deeper
  cases deeper

/-- A closing is where the next one is found, and no opening stands before it unless the
nesting deepens there. -/
theorem exists_closing_of_flat (opens' : FindsFirst open? text opener)
    (closes' : FindsFirst close? text closer) (split : text = before ++ rest) {span : Span}
    (sees : closer (Text.size before) = some span)
    (flat : deepens (opener (Text.size before)) span = none) :
    ∃ skipped mark after, rest = skipped ++ (mark ++ after) ∧ closes mark ∧
      span = stretch (Text.size before) (skipped, mark) ∧
      MissingBelow open? rest (Text.size skipped) ∧ MissingBelow close? rest (Text.size skipped) := by
  rcases closes'.split closing split sees with ⟨skipped, mark, after, parts, stands, rfl, missing⟩
  exact ⟨skipped, mark, after, parts, stands, rfl,
    opens'.missingBelow split (le_of_flat opening opens' split flat), missing⟩

omit closing in
/-- Where the nesting deepens, an opening stands, and no closing does before it. -/
theorem exists_opening_of_deepens (opens' : FindsFirst open? text opener)
    (closes' : FindsFirst close? text closer) (split : text = before ++ rest)
    {shuts span : Span} (sees : closer (Text.size before) = some shuts)
    (deeper : deepens (opener (Text.size before)) shuts = some span) :
    ∃ skipped mark after, rest = skipped ++ (mark ++ after) ∧ opens mark ∧
      span = stretch (Text.size before) (skipped, mark) ∧
      MissingBelow open? rest (Text.size skipped) ∧ MissingBelow close? rest (Text.size skipped) := by
  rcases (deepens_eq_some_iff).mp deeper with ⟨seen, sooner, _⟩
  rcases opens'.split opening split seen with ⟨skipped, mark, after, parts, stands, rfl, missing⟩
  refine ⟨skipped, mark, after, parts, stands, rfl, missing, ?_⟩
  refine closes'.missingBelow split fun other found => ?_
  rw [Option.mem_def.mp found] at sees
  rw [Option.some.inj sees]
  exact Nat.le_of_lt sooner

/-- What a scan passes on its way to the end of a region is enclosed by the region. -/
theorem encloses_of_rounds (opens' : FindsFirst open? text opener)
    (closes' : FindsFirst close? text closer) {round : Round} {rounds : List Round}
    {result : Option Nat} (run : Rounds text (afresh opener closer) round rounds result)
    {stop : Nat} (split : text = before ++ rest) (deep : round.depth = depth + 1)
    (sight : round.sight = ⟨opener (Text.size before), closer (Text.size before)⟩)
    (ends : result = some stop) :
    ∃ inside, Encloses opens closes depth inside rest ∧
      stop = Text.size before + Text.size inside := by
  have moved {before skipped mark after : Text} (split : text = before ++ (skipped ++ (mark ++ after))) :
      text = before ++ skipped ++ mark ++ after := by
    rw [split, List.append_assoc, List.append_assoc]
  induction run generalizing before rest depth with
  | lost lost => cases ends
  | @balanced round span shuts last =>
      cases (verdict_eq_iff).mp shuts with
      | closes sees flat extent =>
      rw [sight] at sees flat
      rcases exists_closing_of_flat opening closing opens' closes' split sees flat with
        ⟨skipped, mark, after, rfl, stands, rfl, unopened, unclosed⟩
      have outermost : depth = 0 := by omega
      subst outermost
      refine ⟨skipped ++ [], Encloses.pass opening closing unopened unclosed (.ends stands), ?_⟩
      rw [List.append_nil]
      exact (Option.some.inj ends).symm
  | @next round next rounds result follows rest' ih =>
      cases follows with
      | @deeper span deeper =>
          cases (verdict_eq_iff).mp deeper with
          | @opens shuts _ sees deeper =>
          rw [sight] at sees deeper
          rcases exists_opening_of_deepens opening opens' closes' split sees deeper with
            ⟨skipped, mark, after, rfl, stands, rfl, unopened, unclosed⟩
          have onwards := ih (moved split) (congrArg (· + 1) deep)
            (by rw [Round.move, stop_stretch]; rfl) ends
          rcases onwards with ⟨inside, encloses, rfl⟩
          refine ⟨skipped ++ (mark ++ inside), Encloses.pass opening closing unopened unclosed
            (.deeper stands encloses), ?_⟩
          simp only [Text.size_append, Nat.add_assoc]
      | @shallower span shuts more =>
          cases (verdict_eq_iff).mp shuts with
          | closes sees flat extent =>
          rw [sight] at sees flat
          rcases exists_closing_of_flat opening closing opens' closes' split sees flat with
            ⟨skipped, mark, after, rfl, stands, rfl, unopened, unclosed⟩
          obtain ⟨lower, rfl⟩ : ∃ lower, depth = lower + 1 :=
            Nat.exists_eq_succ_of_ne_zero (by omega)
          have onwards := ih (moved split) (congrArg (· - 1) deep)
            (by rw [Round.move, stop_stretch]; rfl) ends
          rcases onwards with ⟨inside, encloses, rfl⟩
          refine ⟨skipped ++ (mark ++ inside), Encloses.pass opening closing unopened unclosed
            (.shallower stands encloses), ?_⟩
          simp only [Text.size_append, Nat.add_assoc]
      | @skip later skips =>
          cases (verdict_eq_iff).mp skips with
          | skips sees flat empty inside =>
          rw [sight] at sees
          rcases closes'.split closing split sees with ⟨skipped, mark, after, _, stands, rfl, _⟩
          have filled := closing.size_pos stands
          simp only [stretch] at empty
          omega

omit opening in
/-- What is enclosed is followed by a closing mark. -/
theorem Encloses.first?_ne_none (encloses : Encloses opens closes depth inside rest) :
    Text.first? close? rest ≠ none := by
  rw [ne_eq, Text.first?_eq_none_iff]
  induction encloses with
  | @ends mark after stands =>
      intro missing
      have found := closing.iff.mpr ⟨stands, after, rfl⟩
      have nothing := missing [] (mark ++ after) rfl
      rw [nothing] at found
      cases found
  | @deeper depth mark inside rest _ _ ih | @shallower depth mark inside rest _ _ ih =>
      exact fun missing => ih fun head tail split =>
        missing (mark ++ head) tail (by rw [split, List.append_assoc])
  | @skip depth char inside rest _ _ ih =>
      exact fun missing => ih fun head tail split => missing (char :: head) tail (by rw [split]; rfl)

omit opening in
/-- A closing mark at the place of a scan closes. -/
theorem verdict_of_closes (opens' : FindsFirst open? text opener)
    (closes' : FindsFirst close? text closer) {mark after : Text} (stands : closes mark)
    (split : text = before ++ (mark ++ after)) (depth : Nat) :
    (roundAt opener closer depth (Text.size before)).verdict text =
      .closes (stretch (Text.size before) ([], mark)) := by
  have sees : closer (Text.size before) = some (stretch (Text.size before) ([], mark)) := by
    rw [closes' before _ split, Text.first?_of_found (closing.iff.mpr ⟨stands, after, rfl⟩)]
    rfl
  have filled := closing.size_pos stands
  refine (verdict_eq_iff).mpr (.closes sees ?_ ?_)
  · refine Option.eq_none_iff_forall_ne_some.mpr fun span deeper => ?_
    have both := (deepens_eq_some_iff).mp deeper
    have found := both.1
    rw [roundAt, opens' before _ split] at found
    rcases Option.map_eq_some_iff.mp found with ⟨first, _, rfl⟩
    exact absurd both.2.1 (by simp only [stretch, Text.size_nil]; omega)
  · simp only [stretch, Text.size_nil]
    omega

/-- An opening mark at the place of a scan deepens the nesting, if what follows is enclosed. -/
theorem verdict_of_opens (opens' : FindsFirst open? text opener)
    (closes' : FindsFirst close? text closer) (apart : ∀ text, open? text = none ∨ close? text = none)
    (stands : opens mark) (encloses : Encloses opens closes depth (mark ++ inside) (mark ++ rest))
    (split : text = before ++ (mark ++ rest)) (depth : Nat) :
    (roundAt opener closer depth (Text.size before)).verdict text =
      .opens (stretch (Text.size before) ([], mark)) := by
  have found := opening.iff.mpr ⟨stands, rest, rfl⟩
  have filled := opening.size_pos stands
  have sees : opener (Text.size before) = some (stretch (Text.size before) ([], mark)) := by
    rw [opens' before _ split, Text.first?_of_found found]
    rfl
  have unclosed : close? (mark ++ rest) = none :=
    (apart (mark ++ rest)).resolve_left fun nothing => by
      rw [found] at nothing
      cases nothing
  -- a closing mark follows, but not at this place
  obtain ⟨⟨skipped, last⟩, first⟩ := Option.ne_none_iff_exists'.mp (encloses.first?_ne_none closing)
  have later : 0 < Text.size skipped := by
    rw [Text.size_pos_iff]
    rintro rfl
    rcases (Text.first?_eq_some_iff).mp first with ⟨_, isFirst⟩
    have both := (Text.isFirst_nil_iff).mp isFirst
    rw [← both.1, unclosed] at both
    cases both.2
  have shuts : closer (Text.size before) = some (stretch (Text.size before) (skipped, last)) := by
    rw [closes' before _ split, first]
    rfl
  refine (verdict_eq_iff).mpr (.opens shuts ((deepens_eq_some_iff).mpr ⟨sees, ?_, ?_⟩))
  · simp only [stretch, Text.size_nil]
    omega
  · simp only [stretch, Text.size_nil]
    omega

/-- A scan comes to the end of what is enclosed. -/
theorem exists_rounds_of_encloses (opens' : FindsFirst open? text opener)
    (closes' : FindsFirst close? text closer) (apart : ∀ text, open? text = none ∨ close? text = none)
    (encloses : Encloses opens closes depth inside rest) (split : text = before ++ rest) :
    ∃ rounds, Rounds text (afresh opener closer) (roundAt opener closer (depth + 1) (Text.size before))
      rounds (some (Text.size before + Text.size inside)) := by
  induction encloses generalizing before with
  | ends stands =>
      exact ⟨_, .balanced (verdict_of_closes closing opens' closes' stands split _) rfl⟩
  | @deeper depth mark inside rest stands onwards ih =>
      have deepens := verdict_of_opens opening closing opens' closes' apart stands
        (.deeper stands onwards) split (depth + 1)
      have whole : text = before ++ mark ++ rest := by rw [split, List.append_assoc]
      rcases ih whole with ⟨rounds, run⟩
      rw [← move_mark (roundAt opener closer (depth + 1) (Text.size before))] at run
      rw [size_passed]
      exact ⟨_, .next (.deeper deepens) run⟩
  | @shallower depth mark inside rest stands onwards ih =>
      have shuts := verdict_of_closes closing opens' closes' stands split (depth + 1 + 1)
      have whole : text = before ++ mark ++ rest := by rw [split, List.append_assoc]
      rcases ih whole with ⟨rounds, run⟩
      rw [← move_mark (roundAt opener closer (depth + 1 + 1) (Text.size before))] at run
      rw [size_passed]
      exact ⟨_, .next (.shallower shuts (Nat.succ_ne_zero depth)) run⟩
  | @skip depth char inside rest unmarked onwards ih =>
      have whole := split.trans (List.append_cons before char rest)
      rcases ih whole with ⟨rounds, run⟩
      have unopened : open? (char :: rest) = none :=
        opening.eq_none_iff.mpr fun mark after split => (unmarked mark after split).1
      have unclosed : close? (char :: rest) = none :=
        closing.eq_none_iff.mpr fun mark after split => (unmarked mark after split).2
      rw [← List.singleton_append, size_passed]
      -- from either side of the character the same marks are ahead
      have ahead : (roundAt opener closer (depth + 1) (Text.size before)).sight =
          (roundAt opener closer (depth + 1) (Text.size (before ++ [char]))).sight := by
        rw [roundAt, roundAt, opens'.eq_of_missing unopened split,
          closes'.eq_of_missing unclosed split]
      exact run.relocate rfl ahead

end

/-! ## Regions -/

/-- Whether two searches of a text find the marks of two sorts, of which no two begin at one
place. -/
structure FindsMarks (open? close? : Text -> Option Text) (opens closes : Text -> Prop)
    (text : Text) (opener closer : Finder) : Prop where
  opening : Recognises open? opens
  closing : Recognises close? closes
  apart : ∀ text, open? text = none ∨ close? text = none
  openings : FindsFirst open? text opener
  closings : FindsFirst close? text closer
  steadyOpener : opener.Steady text
  steadyCloser : closer.Steady text

section

variable {open? close? : Text -> Option Text} {opens closes : Text -> Prop} {opener closer : Finder}
  (marks : FindsMarks open? close? opens closes text opener closer)

include marks

/-- A region ends behind what its opening encloses. -/
theorem close?_eq_some_iff_encloses (split : text = before ++ rest) {stop : Nat} :
    Balance.close? text opener closer (Text.size before) = some stop ↔
      ∃ inside, Encloses opens closes 0 inside rest ∧
        stop = Text.size before + Text.size inside := by
  have boundary : Text.isBoundary text (Text.size before) = true := by
    rw [split]
    exact Text.isBoundary_append before rest
  constructor
  · intro balanced
    rcases exists_rounds_close? marks.steadyOpener marks.steadyCloser boundary with ⟨rounds, run⟩
    exact encloses_of_rounds marks.opening marks.closing marks.openings marks.closings run split rfl
      rfl balanced
  · rintro ⟨inside, encloses, rfl⟩
    rcases exists_rounds_of_encloses marks.opening marks.closing marks.openings marks.closings
      marks.apart encloses split with ⟨rounds, run⟩
    exact close?_of_rounds marks.steadyOpener marks.steadyCloser boundary run

/-- Whether a region begins at a place. -/
theorem regionOf?_iff_isRegion {place start inner stop : Nat}
    (boundary : Text.isBoundary text place = true) :
    (Text.at? Span.start opener place).bind (regionOf? text opener closer) =
        some (start, inner, stop) ↔ place = start ∧ IsRegion opens closes text start inner stop := by
  have here : Text.at? Span.start opener place = standsAt? open? text place :=
    Text.at?_eq (placed_standsAt? open? text) (fun _ => marks.openings.eq_leftmost?) boundary
  rw [here, Option.bind_eq_some_iff]
  constructor
  · rintro ⟨span, stands, region⟩
    rcases (Text.isBoundary_iff).mp boundary with ⟨before, rest, rfl, rfl⟩
    rw [standsAt?_append] at stands
    rcases Option.map_eq_some_iff.mp stands with ⟨mark, found, rfl⟩
    rcases marks.opening.iff.mp found with ⟨isOpening, after, rfl⟩
    rcases (regionOf?_eq_some_iff).mp region with ⟨_, last, balanced, same⟩
    cases same
    rw [← Text.size_append] at balanced
    rcases (close?_eq_some_iff_encloses marks (List.append_assoc before mark after).symm).mp balanced
      with ⟨inside, encloses, rfl⟩
    rcases encloses.split with ⟨beyond, rfl⟩
    refine ⟨rfl, before, mark, inside, beyond, ?_, isOpening, encloses, rfl, rfl, ?_⟩
    · simp only [List.append_assoc]
    · rw [Text.size_append]
  · rintro ⟨rfl, before, mark, inside, after, rfl, isOpening, encloses, rfl, rfl, rfl⟩
    have whole : before ++ mark ++ inside ++ after = before ++ (mark ++ (inside ++ after)) := by
      simp only [List.append_assoc]
    have found := marks.opening.iff.mpr ⟨isOpening, inside ++ after, rfl⟩
    have balanced := (close?_eq_some_iff_encloses marks (List.append_assoc _ inside after)).mpr
      ⟨inside, encloses, rfl⟩
    have filled := marks.opening.size_pos isOpening
    refine ⟨⟨Text.size before, Text.size before + Text.size mark⟩, ?_, ?_⟩
    · rw [whole, standsAt?_append, found, Option.map_some]
    · rw [Text.size_append] at balanced
      exact (regionOf?_eq_some_iff).mpr ⟨Nat.lt_add_of_pos_right filled, _, balanced, rfl⟩

/-- A search for a region reports the first one. -/
theorem regionFrom_eq_some_iff {steps offset start inner stop : Nat}
    (boundary : Text.isBoundary text offset = true) (enough : Text.size text < steps + offset) :
    regionFrom text opener opener closer steps offset = some (start, inner, stop) ↔
      IsFirstRegion opens closes text offset start inner stop := by
  rw [retries_regionFrom.eq_leftmost? marks.openings.searchesLeftmost (Or.inl boundary) enough,
    Text.leftmost?_eq_some_iff]
  constructor
  · rintro ⟨place, leads⟩
    rcases (regionOf?_iff_isRegion marks leads.boundary).mp leads.found with ⟨rfl, region⟩
    refine ⟨region, leads.reached, fun {earlier other last} region reached => ?_⟩
    refine Nat.le_of_not_lt fun before => ?_
    have found := (regionOf?_iff_isRegion marks region.isBoundary).mpr ⟨rfl, region⟩
    rw [leads.missing earlier region.isBoundary reached before] at found
    cases found
  · intro isFirst
    have boundary := isFirst.region.isBoundary
    refine ⟨start, boundary, isFirst.reached,
      (regionOf?_iff_isRegion marks boundary).mpr ⟨rfl, isFirst.region⟩, ?_⟩
    intro earlier atBoundary reached before
    refine Option.eq_none_iff_forall_ne_some.mpr fun (place, other, last) found => ?_
    rcases (regionOf?_iff_isRegion marks atBoundary).mp found with ⟨rfl, region⟩
    exact absurd (isFirst.first region reached) (Nat.not_le_of_lt before)

end

/-! ## Other readings of the marks -/

section

variable {opens others closes : Text -> Prop} {depth : Nat}

/-- Whether two sorts of marks are the same in a text. -/
def AgreeIn (text : Text) (opens others : Text -> Prop) : Prop :=
  ∀ before mark after, text = before ++ mark ++ after -> (opens mark ↔ others mark)

theorem AgreeIn.symm (agree : AgreeIn text opens others) : AgreeIn text others opens :=
  fun before mark after split => (agree before mark after split).symm

theorem AgreeIn.of_append (agree : AgreeIn (before ++ rest) opens others) :
    AgreeIn rest opens others := by
  intro head mark after split
  exact agree (before ++ head) mark after (by rw [split]; simp only [List.append_assoc])

theorem Encloses.congr (agree : AgreeIn rest opens others)
    (encloses : Encloses opens closes depth inside rest) :
    Encloses others closes depth inside rest := by
  induction encloses with
  | ends closing => exact .ends closing
  | deeper opening onwards ih => exact .deeper ((agree [] _ _ rfl).mp opening) (ih agree.of_append)
  | shallower closing onwards ih => exact .shallower closing (ih agree.of_append)
  | @skip depth char inside rest unmarked onwards ih =>
      refine .skip (fun mark after split => ?_) (ih (@AgreeIn.of_append [char] rest opens others agree))
      have free := unmarked mark after split
      exact ⟨fun other => free.1 ((agree [] mark after split).mpr other), free.2⟩

theorem IsRegion.congr {start inner stop : Nat} (agree : AgreeIn text opens others)
    (region : IsRegion opens closes text start inner stop) :
    IsRegion others closes text start inner stop := by
  rcases region with ⟨before, mark, inside, after, rfl, opening, encloses, extent⟩
  rw [List.append_assoc] at agree ⊢
  exact ⟨before, mark, inside, after, (List.append_assoc _ _ _).symm,
    (agree before mark (inside ++ after) rfl).mp opening, encloses.congr agree.of_append, extent⟩

/-- Which of two sorts of marks is looked at does not matter where they are the same. -/
theorem isFirstRegion_congr {offset start inner stop : Nat} (agree : AgreeIn text opens others) :
    IsFirstRegion opens closes text offset start inner stop ↔
      IsFirstRegion others closes text offset start inner stop :=
  ⟨fun isFirst => ⟨isFirst.region.congr agree, isFirst.reached,
      fun region => isFirst.first (region.congr agree.symm)⟩,
    fun isFirst => ⟨isFirst.region.congr agree.symm, isFirst.reached,
      fun region => isFirst.first (region.congr agree)⟩⟩

end

end Balance
end FencedHighlight
