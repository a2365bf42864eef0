import Mathlib.Data.List.ReduceOption
import FencedHighlight.Proofs.Rule.Inside
import FencedHighlight.Tokenizer

namespace FencedHighlight

/-!
The choice of the next token.

Every rule is searched for from the cursor on, a rule that is not greedy only up to the
least start of a match of the rules before it.  Of all that is reported, the match with the
least start gives the next token, and of several the one whose rule was declared first.
A match at the cursor ends the choice, since no match begins before the cursor and of two
that begin there the one declared first is taken.
-/

/-! ## Matches that do not begin before the search -/

namespace Rule

variable {rule : Rule} {text : Text} {offset limit : Nat} {found : RuleMatch}

/-- A match lies between the offset where its search was to start and the limit, be they
boundaries or not. -/
theorem extent_of_find? (never : rule.startPattern.NeverBehind)
    (result : rule.find? text offset limit = some found) :
    offset ≤ found.start ∧ found.start < found.stop ∧ found.stop ≤ limit ∧
      limit ≤ Text.size text := by
  rcases firstContent_of_findWithin result with ⟨left, right, rfl, rfl, _, inner⟩
  rcases position_of_firstContent (fun _ => True) (fun _ => trivial) trivial inner with
    ⟨position, later, inside, _, report, filled⟩
  have reached := le_start_of_findAny? (fun _ => True)
    (fun _ within search => never left _ _ within search) (fun _ => trivial) trivial
    (Nat.le_of_lt inside) report
  have ends := ends_of_findAny? report
  have ordered := ends.2.2 filled
  refine ⟨Nat.le_trans later reached, by omega, Text.le_size_of_isBoundary ends.2.1, ?_⟩
  rw [Text.size_append]
  exact Nat.le_add_right _ _

end Rule

/-! ## What the rules report -/

namespace Tokenizer

/-- How a rule is searched for between an offset and a limit. -/
abbrev Search := Rule -> Text -> (offset limit : Nat) -> Option RuleMatch

/-- The least start of the matches that have been reported, or the end of the text if there
is none. -/
def leastStart (text : Text) (reports : List (Option RuleMatch)) : Nat :=
  (reports.reduceOption.map RuleMatch.start).min?.getD (Text.size text)

/-- What a rule reports from the cursor on, after what the rules before it have reported. -/
def report (find : Search) (text : Text) (cursor : Nat) (earlier : List (Option RuleMatch))
    (rule : Rule) : Option RuleMatch :=
  find rule text cursor (if rule.greedy then Text.size text else leastStart text earlier)

/-- What the rules report one after the other. -/
def reportsFrom (find : Search) (text : Text) (cursor : Nat) :
    (earlier : List (Option RuleMatch)) -> List (String × Rule) -> List (Option RuleMatch)
  | _, [] => []
  | earlier, entry :: rest =>
      report find text cursor earlier entry.2 ::
        reportsFrom find text cursor (earlier ++ [report find text cursor earlier entry.2]) rest

/-- What the rules of a grammar report from the cursor on, in the order of declaration. -/
def reports (find : Search) (grammar : Grammar) (text : Text) (cursor : Nat) :
    List (Option RuleMatch) :=
  reportsFrom find text cursor [] grammar.rules

variable {find : Search} {text : Text} {cursor : Nat}

theorem getElem?_reportsFrom (earlier : List (Option RuleMatch))
    (rules : List (String × Rule)) (index : Nat) :
    (reportsFrom find text cursor earlier rules)[index]? =
      rules[index]?.map fun entry => report find text cursor
        (earlier ++ (reportsFrom find text cursor earlier rules).take index) entry.2 := by
  induction rules generalizing earlier index with
  | nil => rfl
  | cons entry rest ih =>
      cases index with
      | zero => simp [reportsFrom]
      | succ index => simp [reportsFrom, ih, List.append_assoc]

/-- A rule is searched for up to the least start of what the rules before it report. -/
theorem getElem?_reports (grammar : Grammar) (index : Nat) :
    (reports find grammar text cursor)[index]? = grammar.rules[index]?.map fun entry =>
      report find text cursor ((reports find grammar text cursor).take index) entry.2 :=
  getElem?_reportsFrom [] grammar.rules index

/-! ## The least start so far -/

@[simp] theorem leastStart_missing (earlier : List (Option RuleMatch)) :
    leastStart text (earlier ++ [none]) = leastStart text earlier := by
  simp [leastStart, List.reduceOption_append]

theorem leastStart_found (earlier : List (Option RuleMatch)) {found : RuleMatch}
    (within : found.start ≤ Text.size text) :
    leastStart text (earlier ++ [some found]) = min (leastStart text earlier) found.start := by
  simp only [leastStart, List.reduceOption_append, List.map_append]
  cases starts : earlier.reduceOption.map RuleMatch.start with
  | nil => simp [within]
  | cons first others =>
      simp [List.min?_cons', List.foldl_append, -List.min?_cons]

theorem leastStart_le {reports : List (Option RuleMatch)} {found : RuleMatch}
    (member : some found ∈ reports) : leastStart text reports ≤ found.start := by
  have listed : found.start ∈ reports.reduceOption.map RuleMatch.start :=
    List.mem_map_of_mem (List.reduceOption_mem_iff.mpr member)
  rw [leastStart]
  cases least : (reports.reduceOption.map RuleMatch.start).min? with
  | none =>
      rw [List.min?_eq_none_iff.mp least] at listed
      cases listed
  | some start => exact (List.min?_eq_some_iff.mp least).2 _ listed

/-! ## The match that is chosen -/

/-- Whether the match of a rule is the choice among all that is reported.  None begins before
it, and those of rules declared before its own begin after it. -/
structure IsChosen (rules : List (String × Rule)) (reports : List (Option RuleMatch))
    (index : Nat) (candidate : Candidate) : Prop where
  declared : rules[index]? = some (candidate.name, candidate.rule)
  reported : reports[index]? = some (some candidate.found)
  least : ∀ (other : Nat) (found : RuleMatch), reports[other]? = some (some found) ->
    candidate.found.start ≤ found.start
  first : ∀ (earlier : Nat) (found : RuleMatch), reports[earlier]? = some (some found) ->
    earlier < index -> candidate.found.start < found.start

/-- What is chosen from all that is reported. -/
inductive Chooses (rules : List (String × Rule)) (reports : List (Option RuleMatch)) :
    Option Candidate -> Prop where
  | nothing (missing : ∀ report ∈ reports, report = none) : Chooses rules reports none
  | chosen {index : Nat} {candidate : Candidate}
      (chosen : IsChosen rules reports index candidate) : Chooses rules reports (some candidate)

variable {rules : List (String × Rule)} {earlier : List (Option RuleMatch)}

/-- There is only one choice. -/
theorem IsChosen.unique {index other : Nat} {candidate another : Candidate}
    (one : IsChosen rules earlier index candidate) (two : IsChosen rules earlier other another) :
    candidate = another := by
  have same : index = other := by
    rcases Nat.lt_trichotomy index other with before | same | after
    · exact absurd (one.least _ _ two.reported)
        (Nat.not_le_of_lt (two.first _ _ one.reported before))
    · exact same
    · exact absurd (two.least _ _ one.reported)
        (Nat.not_le_of_lt (one.first _ _ two.reported after))
  subst same
  have entries := Prod.mk.inj (Option.some.inj (one.declared.symm.trans two.declared))
  have found := Option.some.inj (Option.some.inj (one.reported.symm.trans two.reported))
  cases candidate
  cases another
  simp only at entries found
  rw [entries.1, entries.2, found]

theorem Chooses.eq_some_iff {choice : Option Candidate} (chooses : Chooses rules earlier choice)
    {candidate : Candidate} :
    choice = some candidate ↔ ∃ index, IsChosen rules earlier index candidate := by
  constructor
  · rintro rfl
    cases chooses with
    | chosen chosen => exact ⟨_, chosen⟩
  · rintro ⟨index, chosen⟩
    cases chooses with
    | nothing missing => cases missing _ (List.mem_of_getElem? chosen.reported)
    | chosen other => rw [other.unique chosen]

theorem Chooses.eq_none_iff {choice : Option Candidate} (chooses : Chooses rules earlier choice) :
    choice = none ↔ ∀ report ∈ earlier, report = none := by
  cases chooses with
  | nothing missing => exact iff_of_true rfl missing
  | chosen chosen =>
      refine iff_of_false (Option.some_ne_none _) fun missing => ?_
      cases missing _ (List.mem_of_getElem? chosen.reported)

/-! ## One rule more -/

theorem reported_concat_iff {reported : Option RuleMatch} {index : Nat} {found : RuleMatch} :
    (earlier ++ [reported])[index]? = some (some found) ↔
      earlier[index]? = some (some found) ∨ index = earlier.length ∧ reported = some found := by
  rcases Nat.lt_trichotomy index earlier.length with inside | rfl | beyond
  · rw [List.getElem?_append_left inside, or_iff_left fun last => Nat.ne_of_lt inside last.1]
  · simp
  · rw [List.getElem?_eq_none (by simp; omega), List.getElem?_eq_none (Nat.le_of_lt beyond)]
    simp [Nat.ne_of_gt beyond]

/-- A choice stays as long as nothing is reported that begins before it. -/
theorem IsChosen.concat {index : Nat} {candidate : Candidate}
    (chosen : IsChosen rules earlier index candidate) (entry : String × Rule)
    {reported : Option RuleMatch}
    (later : ∀ found ∈ reported, candidate.found.start ≤ found.start) :
    IsChosen (rules ++ [entry]) (earlier ++ [reported]) index candidate where
  declared := by
    rw [List.getElem?_append_left (List.getElem?_eq_some_iff.mp chosen.declared).1]
    exact chosen.declared
  reported := (reported_concat_iff).mpr (Or.inl chosen.reported)
  least := by
    intro other found stands
    rcases (reported_concat_iff).mp stands with before | ⟨_, last⟩
    · exact chosen.least other found before
    · exact later found last
  first := by
    intro other found stands before
    rcases (reported_concat_iff).mp stands with listed | ⟨rfl, _⟩
    · exact chosen.first other found listed before
    · have inside := (List.getElem?_eq_some_iff.mp chosen.reported).1
      exact absurd before (Nat.lt_asymm inside)

/-- What begins before all that has been reported is the choice. -/
theorem isChosen_concat (length : earlier.length = rules.length) (entry : String × Rule)
    {found : RuleMatch}
    (before : ∀ other ∈ earlier.reduceOption, found.start < other.start) :
    IsChosen (rules ++ [entry]) (earlier ++ [some found]) earlier.length
      ⟨entry.1, entry.2, found⟩ where
  declared := by rw [length, List.getElem?_concat_length]
  reported := List.getElem?_concat_length
  least := by
    intro other another stands
    rcases (reported_concat_iff).mp stands with listed | ⟨_, last⟩
    · exact Nat.le_of_lt (before another
        (List.reduceOption_mem_iff.mpr (List.mem_of_getElem? listed)))
    · exact Nat.le_of_eq (congrArg RuleMatch.start (Option.some.inj last))
  first := by
    intro other another stands inside
    rcases (reported_concat_iff).mp stands with listed | ⟨rfl, _⟩
    · exact before another (List.reduceOption_mem_iff.mpr (List.mem_of_getElem? listed))
    · exact absurd inside (Nat.lt_irrefl _)

/-- The better one of the best match so far and another one. -/
def better (best : Option Candidate) (entry : String × Rule) (found : RuleMatch) :
    Option Candidate :=
  if best.all fun best => found.start < best.found.start then
    some ⟨entry.1, entry.2, found⟩
  else
    best

/-- What is chosen so far, and what the next rule reports, tell what is chosen then. -/
theorem Chooses.concat {best : Option Candidate} (chooses : Chooses rules earlier best)
    (length : earlier.length = rules.length) (entry : String × Rule)
    (reported : Option RuleMatch) :
    Chooses (rules ++ [entry]) (earlier ++ [reported])
      (reported.elim best (better best entry)) := by
  cases chooses with
  | nothing missing =>
      cases reported with
      | none =>
          refine .nothing fun report member => ?_
          rcases List.mem_append.mp member with before | last
          · exact missing report before
          · exact List.mem_singleton.mp last
      | some found =>
          refine .chosen (isChosen_concat length entry fun other listed => ?_)
          cases missing _ (List.reduceOption_mem_iff.mp listed)
  | @chosen index candidate chosen =>
      cases reported with
      | none =>
          refine .chosen (chosen.concat entry fun found reported => ?_)
          exact absurd reported (Option.not_mem_none found)
      | some found =>
          rw [Option.elim_some, better]
          by_cases before : found.start < candidate.found.start
          · rw [if_pos (by simpa using before)]
            refine .chosen (isChosen_concat length entry fun other listed => ?_)
            rcases List.mem_iff_getElem?.mp (List.reduceOption_mem_iff.mp listed) with
              ⟨place, stands⟩
            exact Nat.lt_of_lt_of_le before (chosen.least place other stands)
          · rw [if_neg (by simpa using before)]
            refine .chosen (chosen.concat entry fun other last => ?_)
            rcases Option.some.inj last with rfl
            exact Nat.le_of_not_lt before

/-! ## All rules in turn -/

/-- Try rules in turn as long as there are any, wherever their matches start. -/
def nextOfAll (find : Search) (text : Text) (cursor : Nat) :
    (limit : Nat) -> Option Candidate -> List (String × Rule) -> Option Candidate
  | _, best, [] => best
  | limit, best, entry :: rest =>
      (find entry.2 text cursor (if entry.2.greedy then Text.size text else limit)).elim
        (nextOfAll find text cursor limit best rest) fun found =>
          nextOfAll find text cursor (min limit found.start) (better best entry found) rest

theorem nextFrom_cons (limit : Nat) (best : Option Candidate) (entry : String × Rule)
    (rest : List (String × Rule)) :
    nextFrom find text cursor limit best (entry :: rest) =
      (find entry.2 text cursor (if entry.2.greedy then Text.size text else limit)).elim
        (nextFrom find text cursor limit best rest) fun found =>
          if found.start = cursor then
            better best entry found
          else
            nextFrom find text cursor (min limit found.start) (better best entry found) rest := by
  rw [nextFrom]
  cases find entry.2 text cursor (if entry.2.greedy then Text.size text else limit) <;> rfl

theorem exists_better (best : Option Candidate) (entry : String × Rule) (found : RuleMatch) :
    ∃ candidate, better best entry found = some candidate ∧
      candidate.found.start ≤ found.start := by
  cases best with
  | none => exact ⟨_, rfl, Nat.le_refl _⟩
  | some best =>
      rw [better]
      by_cases before : found.start < best.found.start
      · exact ⟨_, if_pos (by simpa using before), Nat.le_refl _⟩
      · exact ⟨_, if_neg (by simpa using before), Nat.le_of_not_lt before⟩

/-- Whether rules report nothing that begins before the cursor or reaches beyond the
limit. -/
def Ahead (find : Search) (text : Text) (cursor : Nat) (rules : List (String × Rule)) : Prop :=
  ∀ entry ∈ rules, ∀ limit found, find entry.2 text cursor limit = some found ->
    cursor ≤ found.start ∧ found.start ≤ Text.size text ∧ found.stop ≤ limit

theorem Ahead.of_cons {entry : String × Rule} {rest : List (String × Rule)}
    (ahead : Ahead find text cursor (entry :: rest)) : Ahead find text cursor rest :=
  fun each listed => ahead each (List.mem_cons_of_mem entry listed)

/-- No rule has a better match than one at the cursor. -/
theorem nextOfAll_of_start_le (ahead : Ahead find text cursor rules) {limit : Nat}
    {candidate : Candidate} (atCursor : candidate.found.start ≤ cursor) :
    nextOfAll find text cursor limit (some candidate) rules = some candidate := by
  induction rules generalizing limit with
  | nil => rfl
  | cons entry rest ih =>
      rw [nextOfAll]
      cases reported : find entry.2 text cursor
          (if entry.2.greedy then Text.size text else limit) with
      | none => exact ih ahead.of_cons
      | some found =>
          have later := (ahead entry List.mem_cons_self _ found reported).1
          have kept : better (some candidate) entry found = some candidate :=
            if_neg (by simp; omega)
          rw [Option.elim_some, kept]
          exact ih ahead.of_cons

/-- To stop at the first match that begins at the cursor makes no difference. -/
theorem nextFrom_eq_nextOfAll (ahead : Ahead find text cursor rules) (limit : Nat)
    (best : Option Candidate) :
    nextFrom find text cursor limit best rules = nextOfAll find text cursor limit best rules := by
  induction rules generalizing limit best with
  | nil => rfl
  | cons entry rest ih =>
      rw [nextFrom_cons, nextOfAll]
      cases find entry.2 text cursor (if entry.2.greedy then Text.size text else limit) with
      | none => exact ih ahead.of_cons limit best
      | some found =>
          rw [Option.elim_some, Option.elim_some]
          split
          · rename_i atCursor
            -- the best match begins at the cursor, even if it is an earlier one
            rcases exists_better best entry found with ⟨candidate, wins, start⟩
            rw [wins, nextOfAll_of_start_le ahead.of_cons (atCursor ▸ start)]
          · exact ih ahead.of_cons _ _

/-- From what the rules so far have reported the others go on to choose among all. -/
theorem chooses_nextOfAll {best : Option Candidate} {rest : List (String × Rule)}
    (ahead : Ahead find text cursor rest) (chooses : Chooses rules earlier best)
    (length : earlier.length = rules.length) :
    Chooses (rules ++ rest) (earlier ++ reportsFrom find text cursor earlier rest)
      (nextOfAll find text cursor (leastStart text earlier) best rest) := by
  induction rest generalizing rules earlier best with
  | nil => simpa [nextOfAll, reportsFrom] using chooses
  | cons entry rest ih =>
      have chosen := chooses.concat length entry (report find text cursor earlier entry.2)
      have later := ih ahead.of_cons chosen (by simp [length])
      rw [List.append_assoc, List.append_assoc, List.singleton_append,
        List.singleton_append] at later
      -- the limit of the loop is the least start among all that has been reported
      rw [reportsFrom, nextOfAll]
      cases reported : report find text cursor earlier entry.2 with
      | none =>
          rw [reported, leastStart_missing] at later
          rw [report] at reported
          rw [reported]
          exact later
      | some found =>
          have within := (ahead entry List.mem_cons_self _ found reported).2.1
          rw [reported, leastStart_found earlier within] at later
          rw [report] at reported
          rw [reported]
          exact later

/-! ## The next token -/

variable {grammar : Grammar}

theorem ahead_of_neverBehind
    (never : ∀ entry ∈ rules, entry.2.startPattern.NeverBehind) :
    Ahead Rule.find? text cursor rules := by
  intro entry listed limit found reported
  have extent := Rule.extent_of_find? (never entry listed) reported
  exact ⟨extent.1, by omega, extent.2.2.1⟩

/-- A match of a rule that is not greedy ends where those of the rules before it begin, or
before. -/
theorem stop_le_of_reported (ahead : Ahead find text cursor grammar.rules) {index : Nat}
    {candidate : Candidate}
    (chosen : IsChosen grammar.rules (reports find grammar text cursor) index candidate)
    (bounded : candidate.rule.greedy = false) {earlier : Nat} {found : RuleMatch}
    (before : earlier < index)
    (reported : (reports find grammar text cursor)[earlier]? = some (some found)) :
    candidate.found.stop ≤ found.start := by
  have own := chosen.reported
  rw [getElem?_reports, chosen.declared, Option.map_some, Option.some.injEq, report,
    bounded] at own
  have listed := List.mem_of_getElem? chosen.declared
  have within := (ahead _ listed _ _ own).2.2
  have member : some found ∈ (reports find grammar text cursor).take index :=
    List.mem_of_getElem? (by rw [List.getElem?_take_of_lt before, reported])
  exact Nat.le_trans within (leastStart_le member)

/-- The next token is given by the match with the least start among all that the rules
report from the cursor on, and by the one declared first where several begin there.  There is
none only if no rule reports any.  It makes no difference that the choice ends with a match at
the cursor.  The match of a rule that is not greedy does not reach beyond the start of one
that a rule before it has reported. -/
theorem next?_choice (never : ∀ entry ∈ grammar.rules, entry.2.startPattern.NeverBehind) :
    (∀ candidate, next? Rule.find? grammar text cursor = some candidate ↔
      ∃ index,
        IsChosen grammar.rules (reports Rule.find? grammar text cursor) index candidate) ∧
    (next? Rule.find? grammar text cursor = none ↔
      ∀ report ∈ reports Rule.find? grammar text cursor, report = none) ∧
    next? Rule.find? grammar text cursor =
      nextOfAll Rule.find? text cursor (Text.size text) none grammar.rules ∧
    ∀ index candidate,
      IsChosen grammar.rules (reports Rule.find? grammar text cursor) index candidate ->
        candidate.rule.greedy = false -> ∀ earlier found, earlier < index ->
          (reports Rule.find? grammar text cursor)[earlier]? = some (some found) ->
            candidate.found.stop ≤ found.start := by
  have ahead : Ahead Rule.find? text cursor grammar.rules := ahead_of_neverBehind never
  have same := nextFrom_eq_nextOfAll ahead (Text.size text) none
  have nothing : Chooses [] [] none := .nothing fun _ none => absurd none List.not_mem_nil
  have chooses : Chooses grammar.rules (reports Rule.find? grammar text cursor)
      (next? Rule.find? grammar text cursor) := by
    rw [next?, same]
    exact chooses_nextOfAll ahead nothing rfl
  exact ⟨fun _ => chooses.eq_some_iff, chooses.eq_none_iff, same,
    fun index candidate chosen bounded earlier found before reported =>
      stop_le_of_reported ahead chosen bounded before reported⟩

/-- Of these rules only the one for strings is greedy. -/
def mixedRules : Grammar where
  entries :=
    [("number", [{ matcher := .pattern (.literal ['1']) }]),
      ("block", [Rule.balanced (.pair "(" ")")]),
      ("string", [{ Rule.balanced (.pair "[" "]") with greedy := true }]),
      ("word", [{ matcher := .pattern (.literal ['a']) }])]
  nodup := by decide

/-- A block would have to reach across the number.  The string does, but the word begins
before both. -/
theorem next?_choice_mixed :
    reports Rule.find? mixedRules "(a[1])".toList 0 =
      [some ⟨3, 3, 4⟩, none, some ⟨2, 3, 4⟩, some ⟨1, 1, 2⟩] ∧
    next? Rule.find? mixedRules "(a[1])".toList 0 =
      some ⟨"word", { matcher := .pattern (.literal ['a']) }, ⟨1, 1, 2⟩⟩ ∧
    nextOfAll Rule.find? "(a[1])".toList 0 6 none mixedRules.rules =
      some ⟨"word", { matcher := .pattern (.literal ['a']) }, ⟨1, 1, 2⟩⟩ ∧
    ∀ earlier found, earlier < 3 ->
      (reports Rule.find? mixedRules "(a[1])".toList 0)[earlier]? = some (some found) ->
        2 ≤ found.start := by
  have never : ∀ entry ∈ mixedRules.rules, entry.2.startPattern.NeverBehind := by
    intro entry listed
    have literal : ∃ wanted, entry.2.startPattern = .literal wanted := by
      simp only [mixedRules, Grammar.rules, List.flatMap_cons, List.map_cons, List.map_nil,
        List.flatMap_nil, List.append_nil, List.singleton_append, List.mem_cons,
        List.not_mem_nil, or_false] at listed
      rcases listed with rfl | rfl | rfl | rfl <;> exact ⟨_, rfl⟩
    rcases literal with ⟨wanted, same⟩
    rw [same]
    exact Pattern.neverBehind_literal wanted
  have evaluated : reports Rule.find? mixedRules "(a[1])".toList 0 =
      [some ⟨3, 3, 4⟩, none, some ⟨2, 3, 4⟩, some ⟨1, 1, 2⟩] := by
    decide
  have chosen : IsChosen mixedRules.rules (reports Rule.find? mixedRules "(a[1])".toList 0) 3
      ⟨"word", { matcher := .pattern (.literal ['a']) }, ⟨1, 1, 2⟩⟩ := by
    rw [evaluated]
    have starts : ∀ found : RuleMatch, some found ∈
        [some ⟨3, 3, 4⟩, none, some ⟨2, 3, 4⟩, some ⟨1, 1, 2⟩] -> 1 ≤ found.start := by
      intro found listed
      simp only [List.mem_cons, Option.some.injEq, reduceCtorEq, List.not_mem_nil, or_false,
        false_or] at listed
      rcases listed with rfl | rfl | rfl <;> decide
    refine ⟨rfl, rfl, fun other found stands => starts found (List.mem_of_getElem? stands), ?_⟩
    intro earlier found stands before
    rcases earlier with _ | _ | _ | earlier
    · cases stands
      decide
    · cases stands
    · cases stands
      decide
    · exact absurd before (by omega)
  have choice := @next?_choice "(a[1])".toList 0 mixedRules never
  have next := (choice.1 _).mpr ⟨3, chosen⟩
  exact ⟨evaluated, next, choice.2.2.1.symm.trans next, choice.2.2.2 3 _ chosen rfl⟩

end Tokenizer

end FencedHighlight
