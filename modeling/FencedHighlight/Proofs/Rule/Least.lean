import FencedHighlight.Proofs.Delimiters.Counting
import FencedHighlight.Proofs.Rule.Inside

namespace FencedHighlight

/-!
The least match of a rule.

A search for a rule has two loops.  It goes on one character farther after an opening that
opens no region, and after a match without content.  What it settles on can be told without
them: of all the places where the rule matches with some content, at or after the start of
the search, it is the match at the least one.
-/

variable {text : Text} {offset place : Nat}

/-! ## Regions -/

namespace Balance

variable {opener deeper closer : Finder}

/-- The region of an opening that is not empty, if some closing balances it. -/
def regionOf? (text : Text) (deeper closer : Finder) (opening : Span) :
    Option (Nat × Nat × Nat) :=
  if opening.start < opening.stop then
    (close? text deeper closer opening.stop).map fun stop => (opening.start, opening.stop, stop)
  else
    none

theorem regionOf?_eq_some_iff {opening : Span} {region : Nat × Nat × Nat} :
    regionOf? text deeper closer opening = some region ↔
      opening.start < opening.stop ∧ ∃ stop,
        close? text deeper closer opening.stop = some stop ∧
          (opening.start, opening.stop, stop) = region := by
  rw [regionOf?]
  split
  · rename_i filled
    rw [Option.map_eq_some_iff, and_iff_right filled]
  · rename_i empty
    exact iff_of_false (Option.some_ne_none region).symm fun found => empty found.1

theorem placed_regionOf? (finder : Finder) :
    Text.Placed Prod.fst fun place =>
      (Text.at? Span.start finder place).bind (regionOf? text deeper closer) := by
  intro place region found
  rcases Option.bind_eq_some_iff.mp found with ⟨opening, opens, balanced⟩
  rcases (regionOf?_eq_some_iff).mp balanced with ⟨_, stop, _, rfl⟩
  exact Text.placed_at? Span.start finder place opening opens

/-- The search for a region is tried again behind an opening that opens none. -/
theorem retries_regionFrom :
    Text.Retries text Span.start opener (regionOf? text deeper closer)
      (regionFrom text opener deeper closer) where
  step := by
    intro steps offset boundary
    have inside := Nat.not_lt_of_le (Text.le_size_of_isBoundary boundary)
    rw [regionFrom, if_neg inside]
    refine Option.bind_congr fun opening _ => ?_
    by_cases filled : opening.start < opening.stop
    · simp only [regionOf?, if_pos filled]
      cases close? text deeper closer opening.stop <;> rfl
    · simp only [regionOf?, if_neg filled, Option.none_or]
  beyond := by
    intro steps offset beyond
    cases steps with
    | zero => rfl
    | succ steps => rw [regionFrom, if_pos beyond]

end Balance

namespace Delimiters

variable {delimiters : Delimiters}

/-- The first region is the one of the leftmost opening that opens any. -/
theorem region?_eq_leftmost? (opens : delimiters.opening.SearchesLeftmost text)
    (boundary : Text.isBoundary text offset = true) :
    delimiters.region? text offset =
      Text.leftmost? text (fun place =>
        (Text.at? Span.start (delimiters.opening.find? text) place).bind
          (Balance.regionOf? text (delimiters.deeper text) (delimiters.closer text))) offset :=
  Balance.retries_regionFrom.eq_leftmost? opens.find? (Or.inl boundary) (by omega)

end Delimiters

/-! ## The matches of a rule -/

namespace Rule

open Balance (afresh)

variable {rule : Rule} {found : RuleMatch}

/-- The match of a rule at a place.  Before its content comes as much context as the first
group takes up, or the opening of the region, if the rule looks behind. -/
inductive MatchesAt (rule : Rule) (text : Text) (place : Nat) : RuleMatch -> Prop where
  | plain {pattern : Pattern} {searched : Found} (kind : rule.matcher = .pattern pattern)
      (ahead : rule.lookbehind = false) (there : pattern.matchAt? text place = some searched) :
      MatchesAt rule text place ⟨place, place, searched.span.stop⟩
  | behindGroup {pattern : Pattern} {searched : Found} (kind : rule.matcher = .pattern pattern)
      (behind : rule.lookbehind = true) (there : pattern.matchAt? text place = some searched) :
      MatchesAt rule text place
        ⟨place, min (place + searched.firstGroup.elim 0 Span.length) searched.span.stop,
          searched.span.stop⟩
  | region {delimiters : Delimiters} {opening : Found} {rounds : List Balance.Round}
      {stop : Nat} (kind : rule.matcher = .balanced delimiters)
      (there : delimiters.opening.matchAt? text place = some opening)
      (filled : opening.span.start < opening.span.stop)
      (closes : delimiters.Scans text afresh opening.span.stop rounds (some stop)) :
      MatchesAt rule text place
        ⟨place, if rule.lookbehind then opening.span.stop else place, stop⟩

/-- Whether the searches of a text for the patterns of a rule report leftmost matches. -/
inductive SearchesLeftmost (rule : Rule) (text : Text) : Prop where
  | pattern {pattern : Pattern} (kind : rule.matcher = .pattern pattern)
      (leftmost : pattern.SearchesLeftmost text)
  | balanced {delimiters : Delimiters} (kind : rule.matcher = .balanced delimiters)
      (opens : delimiters.opening.SearchesLeftmost text)
      (deepens : (delimiters.nested.getD delimiters.opening).SearchesLeftmost text)
      (closes : delimiters.closing.SearchesLeftmost text)

/-- A rule searches for leftmost matches if its patterns do. -/
theorem SearchesLeftmost.findAny? (leftmost : rule.SearchesLeftmost text) :
    Text.SearchesLeftmost text RuleMatch.start (rule.findAny? text) := by
  cases leftmost with
  | pattern kind leftmost =>
      rw [findAny?_pattern kind]
      exact Text.SearchesLeftmost.map leftmost fun _ => rfl
  | balanced kind opens deepens closes =>
      rw [findAny?_balanced kind]
      have regions := Text.searchesLeftmost_of_eq
        (Balance.placed_regionOf? _) fun _ => Delimiters.region?_eq_leftmost? opens
      exact regions.map fun _ => rfl

theorem MatchesAt.place_eq (matched : rule.MatchesAt text place found) :
    found.start = place ∧ Text.isBoundary text place = true := by
  cases matched with
  | plain kind ahead there | behindGroup kind behind there | region kind there filled closes =>
      exact ⟨rfl, (Pattern.span_of_matchAt? there).2.1⟩

theorem matchesAt_pattern_iff {pattern : Pattern} (kind : rule.matcher = .pattern pattern) :
    rule.MatchesAt text place found ↔
      ∃ searched, pattern.matchAt? text place = some searched ∧ rule.ofFound searched = found := by
  have plain {searched : Found} (ahead : rule.lookbehind = false)
      (there : pattern.matchAt? text place = some searched) :
      rule.ofFound searched = ⟨place, place, searched.span.stop⟩ := by
    simp [ofFound, ahead, (Pattern.span_of_matchAt? there).1]
  have behindGroup {searched : Found} (behind : rule.lookbehind = true)
      (there : pattern.matchAt? text place = some searched) :
      rule.ofFound searched =
        ⟨place, min (place + searched.firstGroup.elim 0 Span.length) searched.span.stop,
          searched.span.stop⟩ := by
    simp [ofFound, behind, (Pattern.span_of_matchAt? there).1]
  constructor
  · intro matched
    cases matched with
    | plain same ahead there =>
        rcases Matcher.pattern.inj (kind.symm.trans same) with rfl
        exact ⟨_, there, plain ahead there⟩
    | behindGroup same behind there =>
        rcases Matcher.pattern.inj (kind.symm.trans same) with rfl
        exact ⟨_, there, behindGroup behind there⟩
    | region same there filled closes => cases kind.symm.trans same
  · rintro ⟨searched, there, rfl⟩
    cases lookbehind : rule.lookbehind with
    | false => exact plain lookbehind there ▸ .plain kind lookbehind there
    | true => exact behindGroup lookbehind there ▸ .behindGroup kind lookbehind there

theorem matchesAt_balanced_iff {delimiters : Delimiters}
    (kind : rule.matcher = .balanced delimiters)
    (deepens : (delimiters.nested.getD delimiters.opening).SearchesLeftmost text)
    (closes : delimiters.closing.SearchesLeftmost text) :
    rule.MatchesAt text place found ↔
      ∃ region, ((Text.at? Span.start (delimiters.opening.find? text) place).bind
          (Balance.regionOf? text (delimiters.deeper text) (delimiters.closer text))) =
            some region ∧ rule.ofRegion region = found := by
  have opens : Text.at? Span.start (delimiters.opening.find? text) place =
      (delimiters.opening.matchAt? text place).map Found.span :=
    congrFun (Text.at?_map fun _ => rfl) place
  simp only [opens, Option.bind_eq_some_iff, Option.map_eq_some_iff,
    Balance.regionOf?_eq_some_iff]
  constructor
  · intro matched
    cases matched with
    | plain same ahead there | behindGroup same behind there => cases kind.symm.trans same
    | @region delimiters opening rounds stop same there filled run =>
        rcases Matcher.balanced.inj (kind.symm.trans same) with rfl
        have span := Pattern.span_of_matchAt? there
        have closed := (Delimiters.close?_eq_iff deepens closes span.2.2).mpr ⟨rounds, run⟩
        refine ⟨_, ⟨_, ⟨opening, there, rfl⟩, filled, stop, closed, rfl⟩, ?_⟩
        rw [ofRegion, span.1]
  · rintro ⟨_, ⟨_, ⟨opening, there, rfl⟩, filled, stop, closed, rfl⟩, rfl⟩
    have span := Pattern.span_of_matchAt? there
    rcases (Delimiters.close?_eq_iff deepens closes span.2.2).mp closed with ⟨rounds, run⟩
    rw [ofRegion, span.1]
    exact .region kind there filled run

/-- What a search reports at the very place where it begins is the match there. -/
theorem findAny?_at_iff (leftmost : rule.SearchesLeftmost text)
    (boundary : Text.isBoundary text place = true) :
    Text.at? RuleMatch.start (rule.findAny? text) place = some found ↔
      rule.MatchesAt text place found := by
  cases leftmost with
  | pattern kind leftmost =>
      rw [findAny?_pattern kind, Text.at?_map fun _ => rfl, Option.map_eq_some_iff,
        matchesAt_pattern_iff kind]
      rfl
  | @balanced delimiters kind opens deepens closes =>
      have starts (region : Nat × Nat × Nat) : (rule.ofRegion region).start = region.1 := rfl
      have regions := Text.at?_eq (Balance.placed_regionOf? (delimiters.opening.find? text))
        (fun _ => Delimiters.region?_eq_leftmost? opens) boundary
      rw [findAny?_balanced kind, Text.at?_map starts, Option.map_eq_some_iff,
        matchesAt_balanced_iff kind deepens closes]
      exact exists_congr fun region => and_congr_left' (by rw [← regions])

/-! ## The first match with content -/

theorem isEmpty_eq_false_iff : found.isEmpty = false ↔ found.contentStart < found.stop := by
  rw [RuleMatch.isEmpty, decide_eq_false_iff_not, Nat.not_le]

/-- A match, if it has some content. -/
def filled? : RuleMatch -> Option RuleMatch :=
  Option.guard fun found => !found.isEmpty

/-- The search for a match is tried again behind one without content. -/
theorem retries_firstContent {findAny : Nat -> Option RuleMatch}
    (leftmost : Text.SearchesLeftmost text RuleMatch.start findAny)
    (atEnd : ∀ found, findAny (Text.size text) = some found -> found.isEmpty = true) :
    Text.Retries text RuleMatch.start findAny filled? (firstContent text findAny) := by
  have beyond {steps offset : Nat} (ended : Text.size text ≤ offset) :
      firstContent text findAny steps offset = none := by
    cases steps with
    | zero => rfl
    | succ steps => rw [firstContent, if_pos ended]
  refine ⟨fun {steps offset} boundary => ?_, fun outside => beyond (Nat.le_of_lt outside)⟩
  rcases Nat.lt_or_eq_of_le (Text.le_size_of_isBoundary boundary) with inside | rfl
  · rw [firstContent, if_neg (Nat.not_le_of_lt inside)]
    refine Option.bind_congr fun found reported => ?_
    have reached := (leftmost.isLeftmost boundary reported).reached
    rw [Nat.max_eq_left reached, filled?, Option.guard]
    cases found.isEmpty <;> rfl
  · -- the search is given up at the end, where to go on would not find anything either
    rw [beyond (Nat.le_refl _)]
    refine (Option.bind_eq_none_iff.mpr fun found reported => ?_).symm
    have reached := (leftmost.isLeftmost boundary reported).reached
    have later := Text.lt_nextBoundary text found.start
    rw [filled?, Option.guard, atEnd found reported, beyond (by omega)]
    rfl

/-- At the end of a text nothing matches with content. -/
theorem isEmpty_atEnd (leftmost : rule.SearchesLeftmost text)
    (reported : rule.findAny? text (Text.size text) = some found) : found.isEmpty = true := by
  refine (Bool.not_eq_false _).mp fun full => ?_
  have extent := (isEmpty_eq_false_iff).mp full
  have ends := ends_of_findAny? reported
  have reached := (leftmost.findAny?.isLeftmost (Text.isBoundary_size text) reported).reached
  have ordered := ends.2.2 extent
  have within := Text.le_size_of_isBoundary ends.2.1
  omega

/-- Whether a match with some content is the first one from an offset on. -/
structure IsFirst (rule : Rule) (text : Text) (offset : Nat) (found : RuleMatch) : Prop where
  reached : offset ≤ found.start
  matched : rule.MatchesAt text found.start found
  filled : found.contentStart < found.stop
  least : ∀ place other, rule.MatchesAt text place other -> other.contentStart < other.stop ->
    offset ≤ place -> found.start ≤ place

/-- The first match with content from an offset on is so from every later offset up to its
start. -/
theorem IsFirst.of_le {later : Nat} (first : rule.IsFirst text offset found)
    (ordered : offset ≤ later) (reached : later ≤ found.start) : rule.IsFirst text later found :=
  { first with
    reached := reached
    least := fun place other matched extent after =>
      first.least place other matched extent (Nat.le_trans ordered after) }

/-- The match with content at a place. -/
def contentAt? (rule : Rule) (text : Text) (place : Nat) : Option RuleMatch :=
  (Text.at? RuleMatch.start (rule.findAny? text) place).bind filled?

theorem contentAt?_eq_some_iff (leftmost : rule.SearchesLeftmost text)
    (boundary : Text.isBoundary text place = true) :
    rule.contentAt? text place = some found ↔
      rule.MatchesAt text place found ∧ found.contentStart < found.stop := by
  rw [contentAt?, filled?, Option.bind_guard, Option.filter_eq_some_iff,
    findAny?_at_iff leftmost boundary, Bool.not_eq_true', isEmpty_eq_false_iff]

theorem isFirst_iff (leftmost : rule.SearchesLeftmost text) :
    rule.IsFirst text offset found ↔
      ∃ place, Text.IsLeftmost text (rule.contentAt? text) offset place found := by
  constructor
  · intro first
    have boundary := first.matched.place_eq.2
    refine ⟨found.start, boundary, first.reached,
      (contentAt?_eq_some_iff leftmost boundary).mpr ⟨first.matched, first.filled⟩, ?_⟩
    intro earlier atBoundary after before
    refine Option.eq_none_iff_forall_ne_some.mpr fun other stands => ?_
    have matched := (contentAt?_eq_some_iff leftmost atBoundary).mp stands
    exact absurd (first.least earlier other matched.1 matched.2 after) (Nat.not_le_of_lt before)
  · rintro ⟨place, first⟩
    have matched := (contentAt?_eq_some_iff leftmost first.boundary).mp first.found
    rcases matched.1.place_eq.1 with rfl
    refine ⟨first.reached, matched.1, matched.2, fun other another stands extent after => ?_⟩
    refine Nat.le_of_not_lt fun before => ?_
    have boundary := stands.place_eq.2
    have absent := first.missing other boundary after before
    rw [(contentAt?_eq_some_iff leftmost boundary).mpr ⟨stands, extent⟩] at absent
    cases absent

variable {left right : Text} {limit : Nat}

/-- A search up to a limit reports the leftmost match with content in the text up to
there. -/
theorem find?_eq_leftmost? (leftmost : rule.SearchesLeftmost left)
    (cut : Text.cut? text limit = some (left, right))
    (boundary : Text.isBoundary text offset = true) :
    rule.find? text offset limit = Text.leftmost? left (rule.contentAt? left) offset := by
  have parts := (Text.cut?_eq_some_iff).mp cut
  rcases parts with ⟨rfl, rfl⟩
  have within : Text.isBoundary left offset = true ∨ Text.size left < offset := by
    rcases Nat.lt_or_ge (Text.size left) offset with beyond | inside
    · exact Or.inr beyond
    · exact Or.inl (Text.isBoundary_of_append boundary inside)
  have retries := retries_firstContent leftmost.findAny? fun _ => isEmpty_atEnd leftmost
  have reports := retries.eq_leftmost? leftmost.findAny? within
    (Nat.lt_of_lt_of_le (Nat.lt_succ_self _) (Nat.le_add_right _ _))
  refine Eq.trans ?_ reports
  -- a limit that is not ahead is the end of the text that is searched
  rw [find?, findWithin, cut]
  split
  · rename_i ended
    rw [firstContent, if_pos ended]
  · rfl

/-- Of all places from an offset on where a rule matches the text up to a limit with some
content, a search reports the match at the least one, and nothing if there is no such place.
The search may as well begin at any boundary up to the match. -/
theorem find?_least (leftmost : rule.SearchesLeftmost left)
    (cut : Text.cut? text limit = some (left, right))
    (boundary : Text.isBoundary text offset = true) :
    (∀ found, rule.find? text offset limit = some found ↔ rule.IsFirst left offset found) ∧
    (rule.find? text offset limit = none ↔
      ∀ place found, rule.MatchesAt left place found -> offset ≤ place ->
        found.stop ≤ found.contentStart) ∧
    ∀ found later, rule.find? text offset limit = some found ->
      Text.isBoundary text later = true -> offset ≤ later -> later ≤ found.start ->
        rule.find? text later limit = some found := by
  have first {offset : Nat} (boundary : Text.isBoundary text offset = true)
      (found : RuleMatch) :
      rule.find? text offset limit = some found ↔ rule.IsFirst left offset found := by
    rw [find?_eq_leftmost? leftmost cut boundary, Text.leftmost?_eq_some_iff,
      isFirst_iff leftmost]
  refine ⟨first boundary, ?_, fun found later reported atBoundary ordered reached => ?_⟩
  · rw [find?_eq_leftmost? leftmost cut boundary, Text.leftmost?_eq_none_iff]
    constructor
    · intro missing place found matched after
      refine Nat.le_of_not_lt fun extent => ?_
      have stands := matched.place_eq.2
      have absent := missing place stands after
      rw [(contentAt?_eq_some_iff leftmost stands).mpr ⟨matched, extent⟩] at absent
      cases absent
    · intro without place stands after
      refine Option.eq_none_iff_forall_ne_some.mpr fun found present => ?_
      have matched := (contentAt?_eq_some_iff leftmost stands).mp present
      exact absurd (without place found matched.1 after) (Nat.not_le_of_lt matched.2)
  · have settled := (first boundary found).mp reported
    exact (first atBoundary found).mpr (settled.of_le ordered reached)

/-- Up to the limit the first region is empty and the second one is not closed. -/
theorem find?_least_retried :
    (balanced (.pair "(" ")")).find? "()(é(x))".toList 0 8 = some ⟨5, 6, 7⟩ ∧
    (balanced (.pair "(" ")")).IsFirst "()(é(x)".toList 0 ⟨5, 6, 7⟩ ∧
    ∀ later, Text.isBoundary "()(é(x))".toList later = true -> later ≤ 5 ->
      (balanced (.pair "(" ")")).find? "()(é(x))".toList later 8 = some ⟨5, 6, 7⟩ := by
  have leftmost : (balanced (.pair "(" ")")).SearchesLeftmost "()(é(x)".toList :=
    .balanced rfl (Pattern.searchesLeftmost_literal _ _) (Pattern.searchesLeftmost_literal _ _)
      (Pattern.searchesLeftmost_literal _ _)
  have cut : Text.cut? "()(é(x))".toList 8 = some ("()(é(x)".toList, [')']) := by decide
  have least := @find?_least "()(é(x))".toList 0 _ _ _ 8 leftmost cut (by decide)
  have found : (balanced (.pair "(" ")")).find? "()(é(x))".toList 0 8 = some ⟨5, 6, 7⟩ := by
    decide
  exact ⟨found, (least.1 _).mp found, fun later boundary reached =>
    least.2.2 _ later found boundary (Nat.zero_le later) reached⟩

end Rule

end FencedHighlight
