import FencedHighlight.Tokenizer
import FencedHighlight.Proofs.Rule.Inside

namespace FencedHighlight

/-!
What one step of the tokenizer can do.

A candidate for the next token is always a match with some content.  A step
that does not fail closes the innermost frame, perhaps after taking what is
left of its text, or it takes a match off the frame, which becomes a leaf or
opens a frame of its own.  `Tokenizer.Move` lists these possibilities together
with all that the step has checked, and `Tokenizer.Breaks` the ways in which a
step fails, so that nothing else has to look into the definition of a step.
-/

namespace Tokenizer

/-- The rule that is chosen is the best so far, or else one of those that are
still to be tried; then it has been found, up to some limit. -/
theorem found_of_nextFrom {find : Rule -> Text -> (offset limit : Nat) -> Option RuleMatch}
    {text : Text} {cursor limit : Nat} {best : Option Candidate}
    {rules : List (String × Rule)} {candidate : Candidate}
    (chosen : nextFrom find text cursor limit best rules = some candidate) :
    best = some candidate ∨ ((candidate.name, candidate.rule) ∈ rules ∧
      ∃ bound, find candidate.rule text cursor bound = some candidate.found) := by
  fun_induction nextFrom find text cursor limit best rules with
  | case1 => exact Or.inl chosen
  | case2 limit best name rule rest bound missing ih =>
      rcases ih chosen with earlier | ⟨listed, later⟩
      · exact Or.inl earlier
      · exact Or.inr ⟨List.mem_cons_of_mem _ listed, later⟩
  | case3 limit best name rule rest bound found reported earlier better atCursor =>
      cases wins : earlier with
      | true =>
          simp only [better, wins, if_true] at chosen
          rcases Option.some.inj chosen with rfl
          exact Or.inr ⟨List.mem_cons_self, bound, reported⟩
      | false =>
          simp only [better, wins, Bool.false_eq_true, if_false] at chosen
          exact Or.inl chosen
  | case4 limit best name rule rest bound found reported earlier better atCursor ih =>
      rcases ih chosen with kept | ⟨listed, later⟩
      · cases wins : earlier with
        | true =>
            simp only [better, wins, if_true] at kept
            rcases Option.some.inj kept with rfl
            exact Or.inr ⟨List.mem_cons_self, bound, reported⟩
        | false =>
            simp only [better, wins, Bool.false_eq_true, if_false] at kept
            exact Or.inl kept
      · exact Or.inr ⟨List.mem_cons_of_mem _ listed, later⟩

/-- The next token is found by one of the rules of the grammar. -/
theorem found_of_next? {find : Rule -> Text -> (offset limit : Nat) -> Option RuleMatch}
    {grammar : Grammar} {text : Text} {cursor : Nat} {candidate : Candidate}
    (chosen : next? find grammar text cursor = some candidate) :
    (candidate.name, candidate.rule) ∈ grammar.rules ∧
      ∃ bound, find candidate.rule text cursor bound = some candidate.found := by
  rcases found_of_nextFrom chosen with impossible | found
  · cases impossible
  · exact found

/-- The next token is never empty. -/
theorem content_of_next? {scope : Scope} {grammar : Grammar} {text : Text} {cursor : Nat}
    {candidate : Candidate} (chosen : next? scope.find grammar text cursor = some candidate) :
    candidate.found.contentStart < candidate.found.stop := by
  rcases found_of_next? chosen with ⟨_, bound, found⟩
  exact Rule.content_of_findWithin found

/-- The rule that gives the next token of a frame. -/
def Frame.next? (scope : Scope) (frame : Frame) : Option Candidate :=
  Tokenizer.next? scope.find (scope.store.get frame.grammar) frame.text frame.cursor

/-- What it takes to get a match off a frame: it is the next token, and `before`
and `content` are the plain text ahead of it and the text of the token. -/
structure Taken (scope : Scope) (frame : Frame) (candidate : Candidate)
    (before content : Text) : Prop where
  unfinished : frame.cursor < Text.size frame.text
  chosen : frame.next? scope = some candidate
  ahead : Text.slice? frame.text frame.cursor candidate.found.contentStart = some before
  inside : Text.slice? frame.text candidate.found.contentStart candidate.found.stop =
    some content

/-- What a step that does not fail has done. -/
inductive Move (scope : Scope) (state : State) : Step -> Prop where
  /-- The innermost frame is at the end of its text. -/
  | finish (exhausted : Text.size state.top.text ≤ state.top.cursor) :
      Move scope state (close state)
  /-- Nothing matches any more in the innermost frame. -/
  | finishPlain (rest : Text) (unfinished : state.top.cursor < Text.size state.top.text)
      (unmatched : state.top.next? scope = none)
      (left : Text.slice? state.top.text state.top.cursor (Text.size state.top.text) =
        some rest) :
      Move scope state
        (close { state with top := state.top.advance rest (Text.size state.top.text) })
  /-- The content of a match is a leaf: its rule has no grammar for it, or one
  that is being applied to a text of this size already. -/
  | leaf (candidate : Candidate) (before content : Text)
      (taken : Taken scope state.top candidate before content)
      (plain : scope.inner? candidate.rule = .ok none ∨ ∃ grammar,
        scope.inner? candidate.rule = .ok (some grammar) ∧
          state.isRepeat grammar (Text.size content) = true) :
      Move scope state (.running { state with
        top := (state.top.advance before candidate.found.stop).push
          (.leaf candidate.name candidate.rule.synonym content) })
  /-- The content of a match is to be tokenized. -/
  | descend (candidate : Candidate) (before content : Text) (grammar : GrammarId)
      (taken : Taken scope state.top candidate before content)
      (resolved : scope.inner? candidate.rule = .ok (some grammar))
      (fresh : state.isRepeat grammar (Text.size content) = false) :
      Move scope state (.running {
        top :=
          { grammar, text := content, label := some ⟨candidate.name, candidate.rule.synonym⟩ }
        below := state.top.advance before candidate.found.stop :: state.below })

theorem take_eq_ok {frame rest : Frame} {start stop : Nat} {content : Text}
    (result : frame.take start stop = .ok (rest, content)) :
    ∃ before, Text.slice? frame.text frame.cursor start = some before ∧
      Text.slice? frame.text start stop = some content ∧ rest = frame.advance before stop := by
  unfold Frame.take at result
  split at result
  · rename_i before inner ahead inside
    rcases Prod.mk.inj (Except.ok.inj result) with ⟨rfl, rfl⟩
    exact ⟨before, ahead, inside, rfl⟩
  · cases result

theorem takeRest_eq_ok {frame rest : Frame} (result : frame.takeRest = .ok rest) :
    ∃ left, Text.slice? frame.text frame.cursor (Text.size frame.text) = some left ∧
      rest = frame.advance left (Text.size frame.text) := by
  simp only [Frame.takeRest] at result
  split at result
  · rename_i left slice
    exact ⟨left, slice, (Except.ok.inj result).symm⟩
  · cases result

/-- Once a match has been taken off the innermost frame, entering it is a move. -/
theorem move_of_enter {scope : Scope} {state after : State} {candidate : Candidate}
    {before content : Text} (taken : Taken scope state.top candidate before content)
    (entered : enter scope
      { state with top := state.top.advance before candidate.found.stop }
      candidate.name candidate.rule content = .ok after) :
    Move scope state (.running after) := by
  rcases HighlightError.ok_of_bind entered with ⟨inner, resolved, result⟩
  cases inner with
  | none =>
      rcases Except.ok.inj result with rfl
      exact .leaf candidate before content taken (Or.inl resolved)
  | some grammar =>
      cases repeated : state.isRepeat grammar (Text.size content) with
      | true =>
          have kept : Except.ok _ = Except.ok after := (if_pos repeated).symm.trans result
          rcases Except.ok.inj kept with rfl
          exact .leaf candidate before content taken (Or.inr ⟨grammar, resolved, repeated⟩)
      | false =>
          have refused : ¬ state.isRepeat grammar (Text.size content) = true := by
            rw [repeated]
            exact Bool.false_ne_true
          have opened : Except.ok _ = Except.ok after := (if_neg refused).symm.trans result
          rcases Except.ok.inj opened with rfl
          exact .descend candidate before content grammar taken resolved repeated

/-- Every step that does not fail is one of the moves. -/
theorem move_of_step {scope : Scope} {state : State} {next : Step}
    (result : step scope state = .ok next) : Move scope state next := by
  unfold step at result
  by_cases exhausted : Text.size state.top.text ≤ state.top.cursor
  · simp only [if_pos exhausted] at result
    rcases Except.ok.inj result with rfl
    exact .finish exhausted
  · have unfinished : state.top.cursor < Text.size state.top.text := by omega
    simp only [if_neg exhausted] at result
    split at result
    · rename_i unmatched
      rcases HighlightError.ok_of_bind result with ⟨frame, taken, closed⟩
      rcases takeRest_eq_ok taken with ⟨rest, left, rfl⟩
      rcases Except.ok.inj closed with rfl
      exact .finishPlain rest unfinished unmatched left
    · rename_i candidate chosen
      rcases HighlightError.ok_of_bind result with ⟨⟨frame, content⟩, pass, result⟩
      rcases take_eq_ok pass with ⟨before, ahead, inside, rfl⟩
      rcases HighlightError.ok_of_bind result with ⟨after, entered, same⟩
      rcases Except.ok.inj same with rfl
      exact move_of_enter ⟨unfinished, chosen, ahead, inside⟩ entered

/-! ## Steps that fail -/

theorem inner?_eq_error_iff {scope : Scope} {rule : Rule} {fault : HighlightError} :
    scope.inner? rule = .error fault ↔ ∃ missing, rule.inside = some (.named missing) ∧
      scope.resolve missing = none ∧ fault = .grammarNotFound missing := by
  unfold Scope.inner?
  constructor
  · intro fails
    split at fails
    · cases fails
    · cases fails
    · rename_i missing named
      split at fails
      · cases fails
      · rename_i unbound
        exact ⟨missing, named, unbound, (Except.error.inj fails).symm⟩
  · rintro ⟨missing, named, unbound, rfl⟩
    rw [named]
    simp only [unbound]

/-- Entering a match fails only where its rule does not lead to a grammar. -/
theorem missing_of_enter {scope : Scope} {state : State} {name : String} {rule : Rule} {content : Text}
    {fault : HighlightError} (fails : enter scope state name rule content = .error fault) :
    scope.inner? rule = .error fault := by
  rcases HighlightError.error_of_bind fails with unresolved | ⟨inner, resolved, later⟩
  · exact unresolved
  · cases inner with
    | none => cases later
    | some grammar =>
        simp only at later
        split at later <;> cases later

/-- How a step fails.  What is left of a frame or its next match cannot be cut out of the
text, or the rule of the match does not lead to a grammar. -/
inductive Breaks (scope : Scope) (state : State) (fault : HighlightError) : Prop where
  | rest (unfinished : state.top.cursor < Text.size state.top.text)
      (unmatched : state.top.next? scope = none)
      (broken : state.top.takeRest = .error fault) : Breaks scope state fault
  | cut (candidate : Candidate) (unfinished : state.top.cursor < Text.size state.top.text)
      (chosen : state.top.next? scope = some candidate)
      (broken : state.top.take candidate.found.contentStart candidate.found.stop =
        .error fault) : Breaks scope state fault
  | missing (candidate : Candidate) (before content : Text)
      (taken : Taken scope state.top candidate before content)
      (refused : scope.inner? candidate.rule = .error fault) : Breaks scope state fault

/-- Every step that fails does so in one of these ways. -/
theorem breaks_of_step {scope : Scope} {state : State} {fault : HighlightError}
    (fails : step scope state = .error fault) : Breaks scope state fault := by
  unfold step at fails
  by_cases exhausted : Text.size state.top.text ≤ state.top.cursor
  · simp only [if_pos exhausted] at fails
    cases fails
  · have unfinished : state.top.cursor < Text.size state.top.text := Nat.lt_of_not_le exhausted
    simp only [if_neg exhausted] at fails
    split at fails
    · rename_i unmatched
      rcases HighlightError.error_of_bind fails with broken | ⟨frame, _, closed⟩
      · exact .rest unfinished unmatched broken
      · cases closed
    · rename_i candidate chosen
      rcases HighlightError.error_of_bind fails with broken | ⟨⟨frame, content⟩, pass, later⟩
      · exact .cut candidate unfinished chosen broken
      · rcases take_eq_ok pass with ⟨before, ahead, inside, rfl⟩
        rcases HighlightError.error_of_bind later with refused | ⟨after, _, running⟩
        · exact .missing candidate before content ⟨unfinished, chosen, ahead, inside⟩
            (missing_of_enter refused)
        · cases running

/-! ## Steps that are known -/

/-- A match that is taken off a frame leaves the frame behind its content. -/
theorem Taken.take {scope : Scope} {frame : Frame} {candidate : Candidate}
    {before content : Text} (taken : Taken scope frame candidate before content) :
    frame.take candidate.found.contentStart candidate.found.stop =
      .ok (frame.advance before candidate.found.stop, content) := by
  simp only [Frame.take, taken.ahead, taken.inside]

/-- What a step does with a match that can be taken off the innermost frame. -/
theorem step_of_taken {scope : Scope} {state : State} {candidate : Candidate}
    {before content : Text} (taken : Taken scope state.top candidate before content) :
    step scope state = (enter scope
      { state with top := state.top.advance before candidate.found.stop }
      candidate.name candidate.rule content).map .running := by
  have chosen : next? scope.find (scope.store.get state.top.grammar) state.top.text
      state.top.cursor = some candidate := taken.chosen
  simp only [step, if_neg (Nat.not_le.mpr taken.unfinished), chosen, taken.take]
  rfl

/-- Every move is what the step does. -/
theorem step_of_move {scope : Scope} {state : State} {next : Step}
    (move : Move scope state next) : step scope state = .ok next := by
  cases move with
  | finish exhausted =>
      simp only [step, if_pos exhausted]
      rfl
  | finishPlain rest unfinished unmatched left =>
      have nothing : next? scope.find (scope.store.get state.top.grammar) state.top.text
          state.top.cursor = none := unmatched
      simp only [step, if_neg (Nat.not_le.mpr unfinished), nothing, Frame.takeRest, left]
      rfl
  | leaf candidate before content taken plain =>
      rw [step_of_taken taken, enter]
      rcases plain with none | ⟨grammar, resolved, repeated⟩
      · rw [none]
        rfl
      · rw [resolved]
        exact congrArg (Except.map Step.running) (if_pos repeated)
  | descend candidate before content grammar taken resolved fresh =>
      have refused : ¬ state.isRepeat grammar (Text.size content) = true := by
        rw [fresh]
        exact Bool.false_ne_true
      rw [step_of_taken taken, enter, resolved]
      exact congrArg (Except.map Step.running) (if_neg refused)

/-- What moves keep holds along a run, and so what they promise at its end holds
of its result. -/
theorem result_of_run? {scope : Scope} {Keeps : State -> Prop} {Gives : List Token -> Prop}
    (keeps : ∀ state next, Keeps state -> Move scope state (.running next) -> Keeps next)
    (gives : ∀ state tokens, Keeps state -> Move scope state (.done tokens) -> Gives tokens)
    {steps : Nat} {state : State} {tokens : List Token} (start : Keeps state)
    (ends : run? scope steps state = some (.ok tokens)) : Gives tokens := by
  fun_induction run? scope steps state with
  | case1 => cases ends
  | case2 steps state next result ih =>
      exact ih (keeps state next start (move_of_step result)) ends
  | case3 steps state made result =>
      cases ends
      exact gives state tokens start (move_of_step result)
  | case4 => cases ends

/-- The end of a run that tokenizes a text. -/
theorem run?_of_tokenize {scope : Scope} {grammar : GrammarId} {text : Text}
    {tokens : List Token} (ends : tokenize scope grammar text = .ok tokens) :
    run? scope (stepLimit scope.store text) ⟨{ grammar, text }, []⟩ = some (.ok tokens) := by
  unfold tokenize at ends
  cases result : run? scope (stepLimit scope.store text) ⟨{ grammar, text }, []⟩ with
  | none =>
      rw [result] at ends
      cases ends
  | some outcome =>
      rw [result] at ends
      exact congrArg some ends

end Tokenizer
end FencedHighlight
