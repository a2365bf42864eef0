import FencedHighlight.Proofs.Pattern.Span
import FencedHighlight.Rule

namespace FencedHighlight

/-!
Where the matches of a rule lie.

Of the offsets that a rule reports, the ends of the match are always boundaries
of the text.  Two things depend on the patterns.  A match begins at or after the
start of the search if no pattern moves its beginning backwards.  And since the
content is taken to begin as many bytes after the start of the match as the first
group takes up, it begins at a boundary if the group stands at that start.
-/

namespace RuleMatch

/-- Whether a match begins at or after an offset of a text, and all its offsets
are boundaries of the text in order. -/
structure LiesIn (found : RuleMatch) (text : Text) (offset : Nat) : Prop where
  offset_le_start : offset ≤ found.start
  start_le_content : found.start ≤ found.contentStart
  start_boundary : Text.isBoundary text found.start = true
  content_boundary : Text.isBoundary text found.contentStart = true
  stop_boundary : Text.isBoundary text found.stop = true

namespace LiesIn

variable {found : RuleMatch} {text : Text} {offset : Nat}

theorem of_le {earlier : Nat} (lies : found.LiesIn text offset) (le : earlier ≤ offset) :
    found.LiesIn text earlier :=
  { lies with offset_le_start := Nat.le_trans le lies.offset_le_start }

theorem append_left (lies : found.LiesIn text offset) (right : Text) :
    found.LiesIn (text ++ right) offset :=
  { lies with
    start_boundary := Text.isBoundary_append_left right lies.start_boundary
    content_boundary := Text.isBoundary_append_left right lies.content_boundary
    stop_boundary := Text.isBoundary_append_left right lies.stop_boundary }

end LiesIn

end RuleMatch

/-! ## Regions -/

namespace Balance

variable {text : Text}

/-- Whether what a search finds begins at a boundary of a text. -/
def Finds (text : Text) (finder : Finder) : Prop :=
  ∀ offset span, finder offset = some span -> Text.isBoundary text span.start = true

theorem Finds.refresh {finder : Finder} (finds : Finds text finder) (offset : Nat)
    {remembered : Option Span}
    (known : ∀ span ∈ remembered, Text.isBoundary text span.start = true) :
    ∀ span ∈ finder.refresh offset remembered, Text.isBoundary text span.start = true := by
  intro span found
  unfold Finder.refresh at found
  split at found
  · split at found
    · exact finds offset span found
    · exact known span found
  · cases found

/-- A region ends where a closing begins. -/
theorem isBoundary_of_closeFrom {opener closer : Finder} (finds : Finds text closer)
    {steps depth offset stop : Nat} {nextOpening nextClosing : Option Span}
    (known : ∀ span ∈ nextClosing, Text.isBoundary text span.start = true)
    (result : closeFrom text opener closer steps depth offset nextOpening nextClosing =
      some stop) : Text.isBoundary text stop = true := by
  induction steps generalizing depth offset nextOpening nextClosing with
  | zero => cases result
  | succ steps ih =>
      have refreshed := finds.refresh offset known
      simp only [closeFrom] at result
      rcases Option.bind_eq_some_iff.mp result with ⟨closing, found, rest⟩
      split at rest
      · exact ih refreshed rest
      · split at rest
        · split at rest
          · cases rest
          · exact ih refreshed rest
        · split at rest
          · rw [← Option.some.inj rest]
            exact refreshed closing found
          · exact ih refreshed rest

/-- A step of the search finds an opening.  Either it begins the region, or the search goes on
behind the place where it stands. -/
theorem regionFrom_succ {opener deeper closer : Finder} {steps offset start content stop : Nat}
    (result : regionFrom text opener deeper closer (steps + 1) offset =
      some (start, content, stop)) :
    ∃ opening, offset ≤ Text.size text ∧ opener offset = some opening ∧
      (opening = ⟨start, content⟩ ∧ start < content ∧ close? text deeper closer content = some stop ∨
        regionFrom text opener deeper closer steps (Text.nextBoundary text opening.start) =
          some (start, content, stop)) := by
  simp only [regionFrom] at result
  split at result
  · cases result
  · rename_i inside
    rcases Option.bind_eq_some_iff.mp result with ⟨opening, found, rest⟩
    refine ⟨opening, Nat.le_of_not_lt inside, found, ?_⟩
    split at rest
    · rename_i balanced closed
      rcases Option.some.inj rest with ⟨rfl, rfl, rfl⟩
      split at closed
      · rename_i filled
        exact Or.inl ⟨rfl, filled, closed⟩
      · cases closed
    · exact Or.inr rest

/-- No region begins before the search for it, if no opening does from where the search
stands. -/
theorem le_start_of_regionFrom {opener deeper closer : Finder} (Stands : Nat -> Prop)
    (ahead : ∀ {offset span}, Stands offset -> offset ≤ Text.size text ->
      opener offset = some span -> offset ≤ span.start)
    (onwards : ∀ place, Stands (Text.nextBoundary text place))
    {steps offset start content stop : Nat} (stands : Stands offset)
    (result : regionFrom text opener deeper closer steps offset = some (start, content, stop)) :
    offset ≤ start := by
  induction steps generalizing offset with
  | zero => cases result
  | succ steps ih =>
      rcases regionFrom_succ result with ⟨opening, inside, found, ⟨rfl, _⟩ | rest⟩
      · exact ahead stands inside found
      · have reached := ahead stands inside found
        have farther := ih (onwards opening.start) rest
        have later := Text.lt_nextBoundary text opening.start
        omega

/-- A region has an opening that is not empty, and a balancing closing. -/
theorem exists_of_regionFrom {opener deeper closer : Finder} {steps offset start content stop : Nat}
    (result : regionFrom text opener deeper closer steps offset = some (start, content, stop)) :
    start < content ∧ (∃ offset, opener offset = some ⟨start, content⟩) ∧
      close? text deeper closer content = some stop := by
  induction steps generalizing offset with
  | zero => cases result
  | succ steps ih =>
      rcases regionFrom_succ result with ⟨opening, _, found, ⟨rfl, filled, closed⟩ | rest⟩
      · exact ⟨filled, ⟨offset, found⟩, closed⟩
      · exact ih rest

end Balance

namespace Delimiters

/-- All offsets of a region are boundaries. -/
theorem boundaries_of_region? {delimiters : Delimiters} {text : Text}
    {offset start content stop : Nat}
    (result : delimiters.region? text offset = some (start, content, stop)) :
    Text.isBoundary text start = true ∧ Text.isBoundary text content = true ∧
      Text.isBoundary text stop = true ∧ start < content := by
  rcases Balance.exists_of_regionFrom result with ⟨filled, ⟨place, opened⟩, closed⟩
  have opening := Pattern.span_of_find? opened
  have finds : Balance.Finds text fun offset => delimiters.closing.find? text offset :=
    fun _ _ found => (Pattern.span_of_find? found).1
  exact ⟨opening.1, opening.2.1,
    Balance.isBoundary_of_closeFrom finds (fun span found => finds _ span found) closed, filled⟩

end Delimiters

/-! ## Rules -/

namespace Pattern

/-- The ends of the first group are boundaries. -/
theorem firstGroup_of_search? {pattern : Pattern} {text : Text} {offset : Nat} {found : Found}
    {group : Span} (result : pattern.search? text offset = some found)
    (took : found.firstGroup = some group) : Text.isBoundary text group.stop = true := by
  cases pattern with
  | literal wanted =>
      rw [firstGroup_of_literal result] at took
      cases took
  | compiled source program =>
      rcases group_of_compiled result took with
        ⟨slots, start, stop, first, last, _, _, _, _, _, _, rfl⟩
      exact Text.isBoundary_offsetOf text last

/-- Whether the first group, where it takes part, begins with the match. -/
def OpensWithGroup (pattern : Pattern) : Prop :=
  ∀ (text : Text) (offset : Nat) (found : Found) (group : Span),
    pattern.search? text offset = some found -> found.firstGroup = some group ->
    group.start = found.span.start

end Pattern

namespace Rule

/-- The pattern that tells where the matches of a rule begin. -/
def startPattern (rule : Rule) : Pattern :=
  match rule.matcher with
  | .pattern pattern => pattern
  | .balanced delimiters => delimiters.opening

/-- Whether the context of a rule, if it is taken from a group, opens the match. -/
def OpensWithContext (rule : Rule) : Prop :=
  ∀ pattern, rule.matcher = .pattern pattern -> rule.lookbehind = true ->
    pattern.OpensWithGroup

variable {rule : Rule} {text : Text} {offset : Nat} {found : RuleMatch}

/-- A pattern's match as a match of the rule. -/
def ofFound (rule : Rule) (searched : Found) : RuleMatch :=
  ⟨searched.span.start,
    if rule.lookbehind then
      min (searched.span.start + searched.firstGroup.elim 0 Span.length) searched.span.stop
    else searched.span.start,
    searched.span.stop⟩

/-- A region as a match of the rule. -/
def ofRegion (rule : Rule) (region : Nat × Nat × Nat) : RuleMatch :=
  ⟨region.1, if rule.lookbehind then region.2.1 else region.1, region.2.2⟩

theorem findAny?_pattern {pattern : Pattern} (kind : rule.matcher = .pattern pattern) :
    rule.findAny? text = fun offset => (pattern.search? text offset).map rule.ofFound := by
  funext offset
  simp only [findAny?, kind, Option.map_eq_bind]
  refine Option.bind_congr fun searched _ => ?_
  cases behind : rule.lookbehind <;> simp [ofFound, behind]

theorem findAny?_balanced {delimiters : Delimiters}
    (kind : rule.matcher = .balanced delimiters) :
    rule.findAny? text = fun offset => (delimiters.region? text offset).map rule.ofRegion := by
  funext offset
  simp only [findAny?, kind, Option.map_eq_bind]
  rfl

/-- A match of a rule is one of its pattern, or a region between its delimiters. -/
theorem findAny?_cases (result : rule.findAny? text offset = some found) :
    (∃ pattern searched, rule.matcher = .pattern pattern ∧
      pattern.search? text offset = some searched ∧ rule.ofFound searched = found) ∨
    ∃ delimiters start content stop, rule.matcher = .balanced delimiters ∧
      delimiters.region? text offset = some (start, content, stop) ∧
      rule.ofRegion (start, content, stop) = found := by
  cases kind : rule.matcher with
  | pattern pattern =>
      rw [findAny?_pattern kind] at result
      rcases Option.map_eq_some_iff.mp result with ⟨searched, search, same⟩
      exact Or.inl ⟨pattern, searched, rfl, search, same⟩
  | balanced delimiters =>
      rw [findAny?_balanced kind] at result
      rcases Option.map_eq_some_iff.mp result with ⟨⟨start, content, stop⟩, region, same⟩
      exact Or.inr ⟨delimiters, start, content, stop, rfl, region, same⟩

/-- The ends of a match are boundaries, and its content does not begin before
it. -/
theorem ends_of_findAny? (result : rule.findAny? text offset = some found) :
    Text.isBoundary text found.start = true ∧ Text.isBoundary text found.stop = true ∧
      (found.contentStart < found.stop -> found.start ≤ found.contentStart) := by
  rcases findAny?_cases result with
    ⟨pattern, searched, _, search, rfl⟩ | ⟨delimiters, start, content, stop, _, region, rfl⟩
  · have span := Pattern.span_of_search? search
    refine ⟨span.1, span.2.1, fun filled => ?_⟩
    simp only [ofFound] at filled ⊢
    split
    · have ordered := span.2.2
      omega
    · exact Nat.le_refl _
  · have boundaries := Delimiters.boundaries_of_region? region
    refine ⟨boundaries.1, boundaries.2.2.1, fun _ => ?_⟩
    simp only [ofRegion]
    split
    · exact Nat.le_of_lt boundaries.2.2.2
    · exact Nat.le_refl _

/-- A match begins at or after the start of the search, if those of its pattern do from
where the search stands. -/
theorem le_start_of_findAny? (Stands : Nat -> Prop)
    (ahead : ∀ {offset searched}, Stands offset -> offset ≤ Text.size text ->
      rule.startPattern.search? text offset = some searched -> offset ≤ searched.span.start)
    (onwards : ∀ place, Stands (Text.nextBoundary text place)) (stands : Stands offset)
    (within : offset ≤ Text.size text) (result : rule.findAny? text offset = some found) :
    offset ≤ found.start := by
  unfold startPattern at ahead
  rcases findAny?_cases result with
    ⟨pattern, searched, kind, search, rfl⟩ | ⟨delimiters, start, content, stop, kind, region, rfl⟩
  · rw [kind] at ahead
    exact ahead stands within search
  · rw [kind] at ahead
    refine Balance.le_start_of_regionFrom Stands (fun stands within opened => ?_) onwards stands
      region
    rcases Option.map_eq_some_iff.mp opened with ⟨searched, search, rfl⟩
    exact ahead stands within search

/-- A match begins at or after the boundary where the search started, if its pattern does. -/
theorem start_of_findAny? (ahead : rule.startPattern.StartsAhead)
    (boundary : Text.isBoundary text offset = true)
    (result : rule.findAny? text offset = some found) : offset ≤ found.start := by
  refine le_start_of_findAny?
    (fun offset => Text.isBoundary text offset = true ∨ Text.size text < offset)
    (fun stands within search => ?_) (Text.nextBoundary_cases text) (Or.inl boundary)
    (Text.le_size_of_isBoundary boundary) result
  exact ahead text _ _ (stands.resolve_right (Nat.not_lt_of_le within)) search

/-- The content begins at a boundary, if the context opens the match. -/
theorem content_of_findAny? (opens : rule.OpensWithContext)
    (result : rule.findAny? text offset = some found) :
    Text.isBoundary text found.contentStart = true := by
  rcases findAny?_cases result with
    ⟨pattern, searched, kind, search, rfl⟩ | ⟨delimiters, start, content, stop, _, region, rfl⟩
  · have span := Pattern.span_of_search? search
    cases behind : rule.lookbehind with
    | false =>
        simp only [ofFound, behind, Bool.false_eq_true, if_false]
        exact span.1
    | true =>
        simp only [ofFound, behind, if_true]
        cases took : searched.firstGroup with
        | none =>
            simp only [Option.elim, Nat.add_zero, Nat.min_eq_left span.2.2]
            exact span.1
        | some group =>
            have atStart := opens pattern kind behind text offset searched group search took
            have groupStop := Pattern.firstGroup_of_search? search took
            simp only [Option.elim, Span.length, ← atStart]
            by_cases ordered : group.start ≤ group.stop
            · rw [Nat.add_sub_cancel' ordered]
              rcases Nat.le_total group.stop searched.span.stop with within | beyond
              · rwa [Nat.min_eq_left within]
              · rw [Nat.min_eq_right beyond]
                exact span.2.1
            · rw [Nat.sub_eq_zero_of_le (by omega), Nat.add_zero, atStart,
                Nat.min_eq_left span.2.2]
              exact span.1
  · have boundaries := Delimiters.boundaries_of_region? region
    simp only [ofRegion]
    split
    · exact boundaries.2.1
    · exact boundaries.1

/-- What a rule reports lies in the text, if neither of its patterns interferes. -/
theorem liesIn_of_findAny? (ahead : rule.startPattern.StartsAhead)
    (opens : rule.OpensWithContext) (boundary : Text.isBoundary text offset = true)
    (result : rule.findAny? text offset = some found)
    (filled : found.contentStart < found.stop) : found.LiesIn text offset :=
  { offset_le_start := start_of_findAny? ahead boundary result
    start_le_content := (ends_of_findAny? result).2.2 filled
    start_boundary := (ends_of_findAny? result).1
    content_boundary := content_of_findAny? opens result
    stop_boundary := (ends_of_findAny? result).2.1 }

/-! ## Searches with a limit -/

/-- The match that a search settles on is one that is reported from where it stands, at or
after its start. -/
theorem position_of_firstContent {findAny : Nat -> Option RuleMatch} {steps : Nat}
    (Stands : Nat -> Prop) (onwards : ∀ place, Stands (Text.nextBoundary text place))
    (stands : Stands offset) (result : firstContent text findAny steps offset = some found) :
    ∃ position, offset ≤ position ∧ position < Text.size text ∧ Stands position ∧
      findAny position = some found ∧ found.contentStart < found.stop := by
  induction steps generalizing offset with
  | zero => cases result
  | succ steps ih =>
      simp only [firstContent] at result
      split at result
      · cases result
      · rename_i inside
        rcases Option.bind_eq_some_iff.mp result with ⟨reported, report, kept⟩
        split at kept
        · rcases ih (onwards _) kept with ⟨position, later, place⟩
          have farther := Text.lt_nextBoundary text (max reported.start offset)
          exact ⟨position, by omega, place⟩
        · rename_i filled
          rcases Option.some.inj kept with rfl
          refine ⟨offset, Nat.le_refl _, Nat.lt_of_not_le inside, stands, report, ?_⟩
          simpa [RuleMatch.isEmpty] using filled

theorem exists_of_firstContent {findAny : Nat -> Option RuleMatch} {steps : Nat}
    (boundary : Text.isBoundary text offset = true ∨ Text.size text < offset)
    (result : firstContent text findAny steps offset = some found) :
    ∃ position, offset ≤ position ∧ Text.isBoundary text position = true ∧
      findAny position = some found ∧ found.contentStart < found.stop := by
  rcases position_of_firstContent
    (fun offset => Text.isBoundary text offset = true ∨ Text.size text < offset)
    (Text.nextBoundary_cases text) boundary result with
    ⟨position, later, inside, stands, place⟩
  exact ⟨position, later, stands.resolve_right (Nat.lt_asymm inside), place⟩

/-- To a search with a limit the text ends there. -/
theorem firstContent_of_findWithin {findAny : Text -> Nat -> Option RuleMatch} {limit : Nat}
    (result : findWithin findAny text offset limit = some found) :
    ∃ left right, text = left ++ right ∧ Text.size left = limit ∧ offset < limit ∧
      firstContent left (findAny left) (Text.size left + 1) offset = some found := by
  unfold findWithin at result
  split at result
  · cases result
  · rename_i ordered
    rcases Option.bind_eq_some_iff.mp result with ⟨⟨left, right⟩, cut, inner⟩
    rcases (Text.cut?_eq_some_iff).mp cut with ⟨whole, limited⟩
    exact ⟨left, right, whole, limited, Nat.lt_of_not_le ordered, inner⟩

/-- A match that a search settles on has some content, whatever is reported. -/
theorem content_of_findWithin {findAny : Text -> Nat -> Option RuleMatch} {limit : Nat}
    (result : findWithin findAny text offset limit = some found) :
    found.contentStart < found.stop := by
  rcases firstContent_of_findWithin result with ⟨left, right, _, _, _, inner⟩
  rcases position_of_firstContent (fun _ => True) (fun _ => trivial) trivial inner with
    ⟨position, _, _, _, _, filled⟩
  exact filled

/-- The match that a limited search settles on is one that is reported for the
text up to the limit. -/
theorem exists_of_findWithin {findAny : Text -> Nat -> Option RuleMatch} {limit : Nat}
    (boundary : Text.isBoundary text offset = true)
    (result : findWithin findAny text offset limit = some found) :
    ∃ left right position, text = left ++ right ∧ Text.size left = limit ∧
      offset ≤ position ∧ Text.isBoundary left position = true ∧
      findAny left position = some found ∧ found.contentStart < found.stop := by
  rcases firstContent_of_findWithin result with ⟨left, right, whole, limited, ordered, inner⟩
  rw [whole] at boundary
  have inLeft := Text.isBoundary_of_append boundary (by omega)
  rcases exists_of_firstContent (Or.inl inLeft) inner with ⟨position, place⟩
  exact ⟨left, right, position, whole, limited, place⟩

/-- If all that is reported lies in the text, so does the match that a limited
search settles on. -/
theorem liesIn_of_findWithin {findAny : Text -> Nat -> Option RuleMatch} {limit : Nat}
    (inside : ∀ text offset found, Text.isBoundary text offset = true ->
      findAny text offset = some found -> found.contentStart < found.stop ->
      found.LiesIn text offset)
    (boundary : Text.isBoundary text offset = true)
    (result : findWithin findAny text offset limit = some found) :
    found.LiesIn text offset ∧ found.contentStart < found.stop ∧ found.stop ≤ limit := by
  rcases exists_of_findWithin boundary result with
    ⟨left, right, position, rfl, limited, later, atBoundary, report, filled⟩
  have lies := inside left position found atBoundary report filled
  refine ⟨(lies.of_le later).append_left right, filled, ?_⟩
  rw [← limited]
  exact Text.le_size_of_isBoundary lies.stop_boundary

end Rule

end FencedHighlight
