import FencedHighlight.Proofs.Tokenizer.Termination

namespace FencedHighlight
namespace Tokenizer

/-!
When a run looks up a name.

A name is looked up only once a match has been taken off a frame and its rule refers to
the name.  So a run fails for want of a grammar exactly if it comes to such a match, and
the name is one to which some rule refers that the root grammar leads to.  A run that
comes to its end has found all the grammars that it asked for.  It does not notice others,
so it comes to the same end where more names are bound.
-/

variable {scope larger : Scope} {root : GrammarId} {whole : Text} {state : State}
  {fault : HighlightError}

/-! ## Failing steps -/

/-- A content has a grammar that is written inside the rule or bound to the name there. -/
theorem inner?_eq_some_iff {rule : Rule} {inner : GrammarId} :
    scope.inner? rule = .ok (some inner) ↔ rule.inside = some (.inline inner) ∨
      ∃ name, rule.inside = some (.named name) ∧ scope.resolve name = some inner := by
  unfold Scope.inner?
  constructor
  · intro resolved
    split at resolved
    · cases resolved
    · rename_i grammar written
      cases resolved
      exact Or.inl written
    · rename_i name named
      split at resolved
      · rename_i bound
        cases resolved
        exact Or.inr ⟨name, named, bound⟩
      · cases resolved
  · rintro (written | ⟨name, named, bound⟩)
    · rw [written]
    · rw [named]
      simp only [bound]

theorem brokenSpan_of_take {frame : Frame} {start stop : Nat}
    (fails : frame.take start stop = .error fault) : fault = .brokenSpan := by
  unfold Frame.take at fails
  split at fails
  · cases fails
  · exact (Except.error.inj fails).symm

theorem brokenSpan_of_takeRest {frame : Frame} (fails : frame.takeRest = .error fault) :
    fault = .brokenSpan := by
  simp only [Frame.takeRest] at fails
  split at fails
  · cases fails
  · exact (Except.error.inj fails).symm

/-- Whether the next match of a frame refers to a name that is not bound. -/
def Lacks (scope : Scope) (frame : Frame) (missing : String) : Prop :=
  scope.resolve missing = none ∧ ∃ candidate before content,
    Taken scope frame candidate before content ∧
      candidate.rule.inside = some (.named missing)

/-- Unless a span is broken, a step fails for want of a grammar. -/
theorem lacks_of_step (fails : step scope state = .error fault) :
    fault = .brokenSpan ∨
      ∃ missing, fault = .grammarNotFound missing ∧ Lacks scope state.top missing := by
  cases breaks_of_step fails with
  | rest unfinished unmatched broken => exact Or.inl (brokenSpan_of_takeRest broken)
  | cut candidate unfinished chosen broken => exact Or.inl (brokenSpan_of_take broken)
  | missing candidate before content taken refused =>
      rcases (inner?_eq_error_iff).mp refused with ⟨missing, named, unbound, rfl⟩
      exact Or.inr ⟨missing, rfl, unbound, candidate, before, content, taken, named⟩

/-- A step fails if the next match refers to a name that is not bound. -/
theorem step_of_lacks {missing : String} (lacks : Lacks scope state.top missing) :
    step scope state = .error (.grammarNotFound missing) := by
  rcases lacks with ⟨unbound, candidate, before, content, taken, named⟩
  rw [step_of_taken taken, enter, (inner?_eq_error_iff).mpr ⟨missing, named, unbound, rfl⟩]
  rfl

/-! ## Failing runs -/

/-- From every state that it comes to, a run goes on to its end. -/
theorem run?_of_reached (reached : Reached scope root whole state) :
    ∃ steps, run? scope steps state = some (tokenize scope root whole) := by
  induction reached with
  | start => exact ⟨_, run?_eq_some_tokenize scope root whole⟩
  | @step state next reached result ih =>
      rcases ih with ⟨steps, ends⟩
      cases steps with
      | zero => cases ends
      | succ steps =>
          rw [run?, result] at ends
          exact ⟨steps, ends⟩

theorem tokenize_eq_error_iff :
    tokenize scope root whole = .error fault ↔
      ∃ last, Reached scope root whole last ∧ step scope last = .error fault := by
  constructor
  · intro fails
    have ends := run?_eq_some_tokenize scope root whole
    rw [fails] at ends
    exact reached_of_run? .start ends
  · rintro ⟨last, reached, fails⟩
    rcases run?_of_reached reached with ⟨steps, ends⟩
    cases steps with
    | zero => cases ends
    | succ steps =>
        rw [run?, fails] at ends
        exact (Option.some.inj ends).symm

/-- A name is missing exactly if a run comes to a match whose rule refers to it. -/
theorem tokenize_eq_missing_iff {missing : String} :
    tokenize scope root whole = .error (.grammarNotFound missing) ↔
      ∃ state, Reached scope root whole state ∧ Lacks scope state.top missing := by
  rw [tokenize_eq_error_iff]
  refine exists_congr fun state => and_congr_right fun _ => ⟨fun fails => ?_, step_of_lacks⟩
  rcases lacks_of_step fails with broken | ⟨other, same, lacks⟩
  · cases broken
  · cases same
    exact lacks

/-- Whether a rule that a grammar leads to refers to a name. -/
def RefersTo (scope : Scope) (root : GrammarId) (missing : String) : Prop :=
  ∃ outer name rule, Reachable scope root outer ∧ (name, rule) ∈ (scope.store.get outer).rules ∧
    rule.inside = some (.named missing)

/-- Unless a span is broken, tokenizing fails only for want of a grammar to which some
rule refers. -/
theorem refersTo_of_tokenize (fails : tokenize scope root whole = .error fault) :
    fault = .brokenSpan ∨ ∃ missing, fault = .grammarNotFound missing ∧
      scope.resolve missing = none ∧ RefersTo scope root missing := by
  rcases (tokenize_eq_error_iff).mp fails with ⟨last, reached, refused⟩
  rcases lacks_of_step refused with broken | ⟨missing, rfl, unbound, candidate, _, _, taken, named⟩
  · exact Or.inl broken
  · exact Or.inr ⟨missing, rfl, unbound, last.top.grammar, candidate.name, candidate.rule,
      reached.nested.waiting.reachable, (found_of_next? taken.chosen).1, named⟩

/-! ## Runs with more names -/

/-- Whether a scope has the same rules and bindings as another one, as far as the grammar
can tell that the other one begins with. -/
structure Scope.Agrees (larger scope : Scope) (root : GrammarId) : Prop where
  grammars : ∀ id, Reachable scope root id -> larger.store.get id = scope.store.get id
  resolve : ∀ name id, scope.resolve name = some id -> larger.resolve name = some id
  findAny : larger.findAny = scope.findAny

theorem Scope.Agrees.inner? (agrees : larger.Agrees scope root) {rule : Rule}
    {inner : Option GrammarId} (resolved : scope.inner? rule = .ok inner) :
    larger.inner? rule = .ok inner := by
  unfold Scope.inner? at resolved ⊢
  split at resolved
  · exact resolved
  · exact resolved
  · split at resolved
    · rename_i id bound
      rw [agrees.resolve _ id bound]
      exact resolved
    · cases resolved

theorem Scope.Agrees.next? (agrees : larger.Agrees scope root) {frame : Frame}
    (reachable : Reachable scope root frame.grammar) : frame.next? larger = frame.next? scope := by
  have find : larger.find = scope.find := by
    funext rule text offset limit
    rw [Scope.find, Scope.find, agrees.findAny]
  rw [Frame.next?, Frame.next?, find, agrees.grammars _ reachable]

theorem Scope.Agrees.taken (agrees : larger.Agrees scope root) {frame : Frame}
    {candidate : Candidate} {before content : Text}
    (reachable : Reachable scope root frame.grammar)
    (taken : Taken scope frame candidate before content) :
    Taken larger frame candidate before content :=
  { taken with chosen := (agrees.next? reachable).trans taken.chosen }

/-- A step that does not fail is the same with more names. -/
theorem Scope.Agrees.move (agrees : larger.Agrees scope root) {next : Step}
    (reachable : Reachable scope root state.top.grammar) (move : Move scope state next) :
    Move larger state next := by
  cases move with
  | finish exhausted => exact .finish exhausted
  | finishPlain rest unfinished unmatched left =>
      exact .finishPlain rest unfinished ((agrees.next? reachable).trans unmatched) left
  | leaf candidate before content taken plain =>
      refine .leaf candidate before content (agrees.taken reachable taken) ?_
      rcases plain with none | ⟨grammar, resolved, repeated⟩
      · exact Or.inl (agrees.inner? none)
      · exact Or.inr ⟨grammar, agrees.inner? resolved, repeated⟩
  | descend candidate before content grammar taken resolved fresh =>
      exact .descend candidate before content grammar (agrees.taken reachable taken)
        (agrees.inner? resolved) fresh

/-- A run with more names comes to the same states and to the same end. -/
theorem run?_of_agrees (agrees : larger.Agrees scope root) {steps : Nat} {tokens : List Token}
    (nested : state.Nested scope root whole)
    (ends : run? scope steps state = some (.ok tokens)) :
    run? larger steps state = some (.ok tokens) := by
  fun_induction run? scope steps state with
  | case1 => cases ends
  | case2 steps state next result ih =>
      have move := move_of_step result
      rw [run?, step_of_move (agrees.move nested.waiting.reachable move)]
      exact ih (nested_of_move nested move) ends
  | case3 steps state made result =>
      have move := move_of_step result
      rw [run?, step_of_move (agrees.move nested.waiting.reachable move)]
      exact ends
  | case4 => cases ends

/-- A run with a result has the same one within more steps. -/
theorem run?_of_le {steps more : Nat} {result : Except HighlightError (List Token)}
    (ends : run? scope steps state = some result) (longer : steps ≤ more) :
    run? scope more state = some result := by
  fun_induction run? scope steps state generalizing more with
  | case1 => cases ends
  | case2 steps state next moved ih =>
      rcases Nat.exists_eq_add_of_lt longer with ⟨extra, rfl⟩
      rw [run?, moved]
      exact ih ends (Nat.le_add_right steps extra)
  | case3 steps state tokens moved =>
      rcases Nat.exists_eq_add_of_lt longer with ⟨extra, rfl⟩
      rw [run?, moved]
      exact ends
  | case4 steps state fault refused =>
      rcases Nat.exists_eq_add_of_lt longer with ⟨extra, rfl⟩
      rw [run?, refused]
      exact ends

/-- However many steps a run is given, it can only come to what tokenizing gives. -/
theorem tokenize_of_run? {steps : Nat} {result : Except HighlightError (List Token)}
    (ends : run? scope steps (State.start root whole) = some result) :
    tokenize scope root whole = result := by
  have limited := run?_eq_some_tokenize scope root whole
  rcases Nat.le_total steps (stepLimit scope.store whole) with fewer | more
  · exact Option.some.inj (limited.symm.trans (run?_of_le ends fewer))
  · exact Option.some.inj ((run?_of_le limited more).symm.trans ends)

theorem tokenize_of_agrees (agrees : larger.Agrees scope root) {tokens : List Token}
    (ends : tokenize scope root whole = .ok tokens) :
    tokenize larger root whole = .ok tokens :=
  tokenize_of_run? (run?_of_agrees agrees (nested_start scope root whole) (run?_of_tokenize ends))

end Tokenizer
end FencedHighlight
