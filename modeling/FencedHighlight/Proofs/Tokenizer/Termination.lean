import FencedHighlight.Proofs.Rule.Inside
import FencedHighlight.Proofs.Tokenizer.Nesting
import Mathlib.Tactic.Linarith

namespace FencedHighlight
namespace Tokenizer

/-!
Every run comes to its end.

A frame opens others only over contents that it has passed for good.  So the text
that is left to a frame pays for all that happens below it, as long as frames that
may still nest more deeply pay more for each byte.  How deeply they may nest is
limited, since frames differ in their grammars or in the sizes of their texts.
-/

variable {scope : Scope} {root : GrammarId} {whole : Text}

/-- An upper bound of the steps that some frames still take, if no more than
`depth` frames lie around any other.  Each byte that is left to a frame pays for
opening and closing a frame at each level farther in. -/
def cost (depth : Nat) : List Frame -> Nat
  | [] => 0
  | frame :: below =>
      2 * (depth + 1 - below.length) * (Text.size frame.text - frame.cursor) + 1 +
        cost depth below

/-- The cost of a frame does not depend on its tokens. -/
theorem cost_push (depth : Nat) (frame : Frame) (token : Token) (below : List Frame) :
    cost depth (frame.push token :: below) = cost depth (frame :: below) := rfl

theorem cost_close {depth : Nat} {state next : State} {top : Frame}
    (closed : close { state with top } = .running next) :
    cost depth next.frames < cost depth state.frames := by
  rcases close_eq_running closed with ⟨parent, below, token, around, rfl⟩
  have rest : state.below = parent :: below := around
  have pushed := cost_push depth parent token below
  simp only [State.frames, rest, pushed, cost]
  omega

/-- A frame that moves on pays for it. -/
theorem cost_advance {depth : Nat} {frame : Frame} {below : List Frame} (before : Text)
    {cursor : Nat} (deep : below.length ≤ depth) (farther : frame.cursor < cursor)
    (within : cursor ≤ Text.size frame.text) :
    cost depth (frame.advance before cursor :: below) < cost depth (frame :: below) := by
  have rate : 0 < 2 * (depth + 1 - below.length) := by omega
  have shorter : Text.size frame.text - cursor < Text.size frame.text - frame.cursor := by
    omega
  have paid := Nat.mul_lt_mul_of_pos_left shorter rate
  simp only [cost, Frame.advance]
  omega

/-- A frame that has passed a content can pay for the frame over it. -/
theorem cost_descend {depth rate size cursor start stop : Nat} (positive : start < stop)
    (passed : cursor ≤ start) (within : stop ≤ size) :
    2 * rate * (stop - start) + 1 + (2 * (rate + 1) * (size - stop) + 1 + depth) <
      2 * (rate + 1) * (size - cursor) + 1 + depth := by
  obtain ⟨content, rfl⟩ : ∃ content, stop = start + 1 + content :=
    ⟨stop - start - 1, by omega⟩
  obtain ⟨skipped, rfl⟩ : ∃ skipped, start = cursor + skipped := ⟨start - cursor, by omega⟩
  obtain ⟨left, rfl⟩ : ∃ left, size = cursor + skipped + 1 + content + left :=
    ⟨size - (cursor + skipped + 1 + content), by omega⟩
  have first : cursor + skipped + 1 + content - (cursor + skipped) = content + 1 := by omega
  have second : cursor + skipped + 1 + content + left - (cursor + skipped + 1 + content) =
      left := by omega
  have third : cursor + skipped + 1 + content + left - cursor =
      skipped + (content + 1) + left := by omega
  rw [first, second, third]
  have skip : 0 ≤ 2 * (rate + 1) * skipped := Nat.zero_le _
  nlinarith

/-- Each step is paid for. -/
theorem cost_lt_of_move {depth : Nat} {state next : State}
    (move : Move scope state (.running next)) (deep : next.below.length ≤ depth) :
    cost depth next.frames < cost depth state.frames := by
  generalize result : Step.running next = step at move
  cases move with
  | finish exhausted => exact cost_close result.symm
  | finishPlain rest unfinished unmatched left => exact cost_close result.symm
  | leaf candidate before content taken plain =>
      rcases Step.running.inj result with rfl
      have order := Text.size_of_slice? taken.ahead
      have filled := content_of_next? taken.chosen
      exact cost_advance before deep (by omega) (Text.le_size_of_slice? taken.inside)
  | descend candidate before content grammar taken resolved fresh =>
      rcases Step.running.inj result with rfl
      have order := Text.size_of_slice? taken.ahead
      have filled := content_of_next? taken.chosen
      have extent := Text.size_of_slice? taken.inside
      have levels : state.below.length + 1 ≤ depth := deep
      obtain ⟨rate, rated⟩ : ∃ rate, depth + 1 - state.below.length = rate + 1 :=
        ⟨depth - state.below.length, by omega⟩
      have inner : depth + 1 - (state.below.length + 1) = rate := by omega
      have size : Text.size content - 0 = candidate.found.stop - candidate.found.contentStart := by
        omega
      simp only [State.frames, cost, Frame.advance, List.length_cons, rated, inner, size]
      exact cost_descend filled (by omega) (Text.le_size_of_slice? taken.inside)

/-- A run ends within the steps that its frames are known to take. -/
theorem run?_isSome_of_cost {steps : Nat} {state : State}
    (nested : state.Nested scope root whole)
    (enough : cost (scope.store.grammars.size * Text.size whole) state.frames ≤ steps) :
    (run? scope steps state).isSome = true := by
  induction steps generalizing state with
  | zero =>
      rw [State.frames, cost] at enough
      omega
  | succ steps ih =>
      rw [run?]
      split
      · rename_i next result
        have move := move_of_step result
        have later := nested_of_move nested move
        have paid := cost_lt_of_move move later.length_below_le
        exact ih later (by omega)
      · rfl
      · rfl

/-- The limit pays for a whole run. -/
theorem cost_start_le (store : GrammarStore) (root : GrammarId) (whole : Text) :
    cost (store.grammars.size * Text.size whole) (State.start root whole).frames ≤
      stepLimit store whole := by
  simp only [State.frames, State.start, cost, stepLimit, List.length_nil, Nat.sub_zero]
  generalize Text.size whole = size
  generalize store.grammars.size = count
  nlinarith [Nat.zero_le (count * size), Nat.zero_le (size * size),
    Nat.zero_le (count * size * size)]

/-- Tokenizing is a run that comes to its end. -/
theorem run?_eq_some_tokenize (scope : Scope) (root : GrammarId) (whole : Text) :
    run? scope (stepLimit scope.store whole) (State.start root whole) =
      some (tokenize scope root whole) := by
  have ends := run?_isSome_of_cost (nested_start scope root whole)
    (cost_start_le scope.store root whole)
  rcases Option.isSome_iff_exists.mp ends with ⟨result, finished⟩
  rw [finished, tokenize]
  exact congrArg some (congrArg (Option.getD · _) finished).symm

/-! ## What a run comes to -/

/-- The states that a run comes to. -/
inductive Reached (scope : Scope) (root : GrammarId) (whole : Text) : State -> Prop where
  | start : Reached scope root whole (State.start root whole)
  | step {state next : State} (reached : Reached scope root whole state)
      (result : step scope state = .ok (.running next)) : Reached scope root whole next

theorem Reached.nested {state : State} (reached : Reached scope root whole state) :
    state.Nested scope root whole := by
  induction reached with
  | start => exact nested_start scope root whole
  | step reached result ih => exact nested_of_move ih (move_of_step result)

/-- A run that fails has come to a state in which it does. -/
theorem reached_of_run? {steps : Nat} {state : State} {fault : HighlightError}
    (reached : Reached scope root whole state)
    (fails : run? scope steps state = some (.error fault)) :
    ∃ last, Reached scope root whole last ∧ step scope last = .error fault := by
  fun_induction run? scope steps state with
  | case1 => cases fails
  | case2 steps state next result ih => exact ih (reached.step result) fails
  | case3 => cases fails
  | case4 steps state other refused =>
      cases fails
      exact ⟨state, reached, refused⟩

/-- Whether the matches that the rules of a store report lie in the text that has
been searched, as far as they have any content. -/
def Scope.ReportsInside (scope : Scope) : Prop :=
  ∀ grammar, ∀ entry ∈ (scope.store.get grammar).rules, ∀ text offset found,
    Text.isBoundary text offset = true -> scope.findAny entry.2 text offset = some found ->
    found.contentStart < found.stop -> found.LiesIn text offset

/-- The next token of a frame lies ahead of its cursor. -/
theorem liesIn_of_next? (inside : scope.ReportsInside) {grammar : GrammarId} {text : Text}
    {cursor : Nat} {candidate : Candidate} (boundary : Text.isBoundary text cursor = true)
    (chosen : next? scope.find (scope.store.get grammar) text cursor = some candidate) :
    candidate.found.LiesIn text cursor := by
  rcases found_of_next? chosen with ⟨listed, limit, found⟩
  exact (Rule.liesIn_of_findWithin (inside grammar _ listed) boundary found).1

/-- The cursor of a frame that tiles its text is a boundary. -/
theorem Tiling.isBoundary {grammar : GrammarId} {text : Text} {offset : Nat}
    {tokens : List Token} (tiling : Tiling scope grammar text offset tokens) :
    Text.isBoundary text offset = true :=
  (Text.isBoundary_of_slice? tiling.slice).2

theorem takeRest_ne_error {frame : Frame} {fault : HighlightError}
    (boundary : Text.isBoundary frame.text frame.cursor = true) :
    frame.takeRest ≠ .error fault := by
  rcases Text.exists_slice? (Text.le_size_of_isBoundary boundary) boundary
    (Text.isBoundary_size frame.text) with ⟨rest, slice⟩
  simp only [Frame.takeRest, slice]
  intro impossible
  cases impossible

theorem take_ne_error {frame : Frame} {found : RuleMatch} {fault : HighlightError}
    (boundary : Text.isBoundary frame.text frame.cursor = true)
    (lies : found.LiesIn frame.text frame.cursor) (filled : found.contentStart < found.stop) :
    frame.take found.contentStart found.stop ≠ .error fault := by
  have ordered := Nat.le_trans lies.offset_le_start lies.start_le_content
  rcases Text.exists_slice? ordered boundary lies.content_boundary with ⟨before, ahead⟩
  rcases Text.exists_slice? (Nat.le_of_lt filled) lies.content_boundary lies.stop_boundary with
    ⟨content, inside⟩
  simp only [Frame.take, ahead, inside]
  intro impossible
  cases impossible

/-- No slice ever fails if all that is reported lies inside. -/
theorem fault_of_step (inside : scope.ReportsInside) {state : State}
    (tiled : state.Tiled scope root whole) {fault : HighlightError}
    (fails : step scope state = .error fault) : ∃ missing, fault = .grammarNotFound missing := by
  have boundary := tiled.tiling.isBoundary
  cases breaks_of_step fails with
  | rest unfinished unmatched broken => exact absurd broken (takeRest_ne_error boundary)
  | cut candidate unfinished chosen broken =>
      have lies := liesIn_of_next? inside boundary chosen
      exact absurd broken (take_ne_error boundary lies (content_of_next? chosen))
  | missing candidate before content taken refused =>
      rcases (inner?_eq_error_iff).mp refused with ⟨name, _, _, rfl⟩
      exact ⟨name, rfl⟩

/-- Tokenizing gives a tree, unless a grammar is missing. -/
theorem tokenize_cases (inside : scope.ReportsInside) :
    (∃ tokens, tokenize scope root whole = .ok tokens) ∨
      ∃ missing, tokenize scope root whole = .error (.grammarNotFound missing) := by
  have ends := run?_eq_some_tokenize scope root whole
  cases result : tokenize scope root whole with
  | ok tokens => exact Or.inl ⟨tokens, rfl⟩
  | error fault =>
      rw [result] at ends
      rcases reached_of_run? .start ends with ⟨state, reached, refused⟩
      rcases fault_of_step inside reached.nested.toTiled refused with ⟨missing, rfl⟩
      exact Or.inr ⟨missing, rfl⟩

/-! ## What holds at any time of a run -/

/-- Whether a frame has moved on in its text. -/
structure Frame.MovesTo (before after : Frame) : Prop where
  grammar : after.grammar = before.grammar
  text : after.text = before.text
  farther : before.cursor < after.cursor
  within : after.cursor ≤ Text.size before.text

/-- What a step does with the innermost frame.  Unless the frame is at its end it
moves on, and is then closed, gets a token, or is left for a frame inside it. -/
inductive Progress (state : State) : Step -> Prop where
  | finish (exhausted : Text.size state.top.text ≤ state.top.cursor) :
      Progress state (close state)
  | finishPlain (frame : Frame) (moves : state.top.MovesTo frame) :
      Progress state (close { state with top := frame })
  | leaf (frame : Frame) (token : Token) (moves : state.top.MovesTo frame) :
      Progress state (.running { state with top := frame.push token })
  | descend (frame inner : Frame) (moves : state.top.MovesTo frame) :
      Progress state (.running ⟨inner, frame :: state.below⟩)

theorem Taken.movesTo {frame : Frame} {candidate : Candidate} {before content : Text}
    (taken : Taken scope frame candidate before content) :
    frame.MovesTo (frame.advance before candidate.found.stop) := by
  have order := Text.size_of_slice? taken.ahead
  have filled := content_of_next? taken.chosen
  refine ⟨rfl, rfl, ?_, Text.le_size_of_slice? taken.inside⟩
  simp only [Frame.advance]
  omega

theorem progress_of_move {state : State} {next : Step} (move : Move scope state next) :
    Progress state next := by
  cases move with
  | finish exhausted => exact .finish exhausted
  | finishPlain rest unfinished unmatched left =>
      exact .finishPlain _ ⟨rfl, rfl, unfinished, Nat.le_refl _⟩
  | leaf candidate before content taken plain => exact .leaf _ _ taken.movesTo
  | descend candidate before content grammar taken resolved fresh =>
      exact .descend _ _ taken.movesTo

/-- What holds of the frames of a run at any time. -/
structure Stacked (scope : Scope) (root : GrammarId) (whole : Text) (state : State) :
    Prop where
  /-- Each frame covers the part of the text that the frames around it tell. -/
  slices : ∀ place ∈ placed state.frames,
    Text.slice? whole place.2.start place.2.stop = some place.1.text
  /-- Each frame lies within those around it. -/
  nested : (placed state.frames).Pairwise fun inner outer => Within inner.2 outer.2
  /-- No two frames apply one grammar to the same part of the text. -/
  distinct : (placed state.frames).Pairwise fun inner outer =>
    ¬ (inner.1.grammar = outer.1.grammar ∧ inner.2 = outer.2)
  /-- A grammar counts as repeated on the content of the next match exactly if some
  frame applies it to that part of the text. -/
  repeats : ∀ candidate before content grammar, Taken scope state.top candidate before content ->
    (state.isRepeat grammar (Text.size content) = true ↔
      ∃ place ∈ placed state.frames, place.1.grammar = grammar ∧
        place.2 = ⟨origin state.top.text state.below + candidate.found.contentStart,
          origin state.top.text state.below + candidate.found.stop⟩)
  /-- There are no more frames than the root and a pair for each grammar and size. -/
  limited : state.frames.length ≤
    {grammar | Reachable scope root grammar}.ncard * Text.size whole + 1

theorem length_frames_le {state : State} (nested : state.Nested scope root whole) :
    state.frames.length ≤
      {grammar | Reachable scope root grammar}.ncard * Text.size whole + 1 := by
  have finite := finite_reachable scope root
  have fits := nested.size_le
  rw [Set.ncard_eq_toFinset_card _ finite]
  refine Nat.succ_le_succ (length_le_of_distinct _ _ (List.nodup_cons.mp nested.distinct).2 ?_)
  intro frame member
  rcases nested.waiting.of_mem_below frame member with ⟨reachable, _, filled⟩
  exact ⟨finite.mem_toFinset.mpr reachable, filled, fits frame (List.mem_cons_of_mem _ member)⟩

theorem stacked_of_reached {state : State} (reached : Reached scope root whole state) :
    Stacked scope root whole state :=
  { slices := reached.nested.slice_placed
    nested := reached.nested.pairwise_placed
    distinct := reached.nested.pairwise_distinct
    repeats := fun _ _ _ grammar taken => reached.nested.isRepeat_iff taken grammar
    limited := length_frames_le reached.nested }

/-- Tokenizing comes to its end with every grammar: within the limit of steps it
gives a tree, or finds a grammar missing.  Each step moves a frame on or closes
it, and the frames nest without repeating each other. -/
theorem tokenize_terminates (inside : scope.ReportsInside) :
    (∃ result, run? scope (stepLimit scope.store whole) (State.start root whole) = some result ∧
      tokenize scope root whole = result ∧
      ((∃ tokens, result = .ok tokens) ∨
        ∃ missing, result = .error (.grammarNotFound missing))) ∧
    {grammar | Reachable scope root grammar}.Finite ∧
    ∀ state, Reached scope root whole state ->
      (∀ next, step scope state = .ok next -> Progress state next) ∧
        Stacked scope root whole state := by
  refine ⟨⟨_, run?_eq_some_tokenize scope root whole, rfl, tokenize_cases inside⟩,
    finite_reachable scope root, ?_⟩
  intro state reached
  exact ⟨fun next result => progress_of_move (move_of_step result), stacked_of_reached reached⟩

/-- The rules of a registry report what lies inside, if their patterns do. -/
theorem reportsInside_of_rules {registry : Registry}
    (rules : ∀ grammar, ∀ entry ∈ (registry.store.get grammar).rules,
      entry.2.startPattern.StartsAhead ∧ entry.2.OpensWithContext) :
    registry.scope.ReportsInside := by
  intro grammar entry listed text offset found boundary report filled
  have sound := rules grammar entry listed
  exact Rule.liesIn_of_findAny? sound.1 sound.2 boundary report filled

theorem reportsInside_nesting : nesting.scope.ReportsInside := by
  apply reportsInside_of_rules
  intro grammar entry listed
  have kept : grammar = 0 := Nat.lt_one_iff.mp (lt_size_of_mem_rules listed)
  subst kept
  rcases List.mem_singleton.mp listed with rfl
  exact ⟨Pattern.startsAhead_literal _, fun pattern kind => nomatch kind⟩

theorem tokenize_terminates_nested :
    nesting.scope.ReportsInside ∧
      (∃ tokens, tokenize nesting.scope 0 "a()((x))(".toList = .ok tokens) ∧
      ∀ state, Reached nesting.scope 0 "a()((x))(".toList state ->
        Stacked nesting.scope 0 "a()((x))(".toList state := by
  have terminates := @tokenize_terminates nesting.scope 0 "a()((x))(".toList reportsInside_nesting
  refine ⟨reportsInside_nesting, ⟨nestedTokens, rfl⟩, ?_⟩
  exact fun state reached => (terminates.2.2 state reached).2

end Tokenizer
end FencedHighlight
