import FencedHighlight.Proofs.Tokenizer.Termination

namespace FencedHighlight
namespace Tokenizer

/-!
Tokenizing by recursion.

A text can be tokenized without a stack: wherever a content has a grammar of its
own, the same is done for the content first.  What the stack is needed for, apart
from its frames, is to tell which grammars are being applied to which sizes, so
the recursion takes the chain of these pairs along.  It comes to its end because
every content adds a pair that has not been on the chain.

A stack of frames then stands for what is still to be done once the innermost
frame has its tokens.  No step changes what a stack stands for.
-/

/-- The pairs of a kept grammar and a size that are not on a chain. -/
def unused (store : GrammarStore) (chain : List (GrammarId × Nat)) (size : Nat) :
    Finset (GrammarId × Nat) :=
  (Finset.range store.grammars.size ×ˢ Finset.range (size + 1)).filter (· ∉ chain)

/-- How much deeper contents can be nested.  A grammar that is not kept has no
rules, so nothing is nested in it. -/
def levelsLeft (store : GrammarStore) (chain : List (GrammarId × Nat)) (grammar : GrammarId)
    (size : Nat) : Nat :=
  if grammar < store.grammars.size then (unused store chain size).card + 1 else 0

/-- A pair that has not been on the chain takes one level away. -/
theorem levelsLeft_lt {store : GrammarStore} {chain : List (GrammarId × Nat)}
    {outer inner : GrammarId} {size contentSize : Nat} (kept : outer < store.grammars.size)
    (fresh : (inner, contentSize) ∉ chain) (fits : contentSize ≤ size) :
    levelsLeft store ((inner, contentSize) :: chain) inner contentSize <
      levelsLeft store chain outer size := by
  rw [levelsLeft, levelsLeft, if_pos kept]
  split
  · rename_i known
    apply Nat.succ_lt_succ
    apply Finset.card_lt_card
    apply Finset.ssubset_iff_subset_ne.mpr
    constructor
    · intro pair free
      rcases Finset.mem_filter.mp free with ⟨inside, off⟩
      rcases Finset.mem_product.mp inside with ⟨first, second⟩
      have bounded := Finset.mem_range.mp second
      exact Finset.mem_filter.mpr
        ⟨Finset.mem_product.mpr ⟨first, Finset.mem_range.mpr (by omega)⟩,
          fun listed => off (List.mem_cons_of_mem _ listed)⟩
    · intro same
      have taken : (inner, contentSize) ∈ unused store chain size :=
        Finset.mem_filter.mpr ⟨Finset.mem_product.mpr
          ⟨Finset.mem_range.mpr known, Finset.mem_range.mpr (by omega)⟩, fresh⟩
      rw [← same] at taken
      exact (Finset.mem_filter.mp taken).2 List.mem_cons_self
  · exact Nat.succ_pos _

/-- A match that is taken off a text leaves less of it. -/
theorem rest_lt {scope : Scope} {grammar : Grammar} {text before : Text} {cursor : Nat}
    {candidate : Candidate} (unfinished : ¬ Text.size text ≤ cursor)
    (chosen : next? scope.find grammar text cursor = some candidate)
    (ahead : Text.slice? text cursor candidate.found.contentStart = some before) :
    Text.size text - candidate.found.stop < Text.size text - cursor := by
  have order := Text.size_of_slice? ahead
  have filled := content_of_next? chosen
  omega

/-- The tokens of a text from a cursor on, after those that have been made, the
newest of which comes first.  `chain` holds the grammars that are being applied,
with the sizes of their texts, this text included. -/
def tokensFrom (scope : Scope) (chain : List (GrammarId × Nat)) (grammar : GrammarId)
    (text : Text) (cursor : Nat) (tokens : List Token) :
    Except HighlightError (List Token) :=
  if _unfinished : Text.size text ≤ cursor then
    .ok tokens.reverse
  else
    match _chosen : next? scope.find (scope.store.get grammar) text cursor with
    | none =>
        match Text.slice? text cursor (Text.size text) with
        | some rest => .ok (Token.pushText tokens rest).reverse
        | none => .error .brokenSpan
    | some candidate =>
        match _ahead : Text.slice? text cursor candidate.found.contentStart,
          _inside : Text.slice? text candidate.found.contentStart candidate.found.stop with
        | some before, some content => do
            let leaf := Token.leaf candidate.name candidate.rule.synonym content
            let token <- match <- scope.inner? candidate.rule with
              | none => pure leaf
              | some inner =>
                  if _fresh : (inner, Text.size content) ∈ chain then
                    pure leaf
                  else do
                    let children <- tokensFrom scope ((inner, Text.size content) :: chain)
                      inner content 0 []
                    pure (.composite candidate.name candidate.rule.synonym children)
            tokensFrom scope chain grammar text candidate.found.stop
              (token :: Token.pushText tokens before)
        | _, _ => .error .brokenSpan
termination_by (levelsLeft scope.store chain grammar (Text.size text), Text.size text - cursor)
decreasing_by
  · exact Prod.Lex.right _ (rest_lt _unfinished _chosen _ahead)
  · apply Prod.Lex.left
    have extent := Text.size_of_slice? _inside
    have within := Text.le_size_of_slice? _inside
    exact levelsLeft_lt (lt_size_of_mem_rules (found_of_next? _chosen).1) _fresh (by omega)

section Equations

variable {scope : Scope} {chain : List (GrammarId × Nat)} {grammar : GrammarId} {text : Text}
  {cursor : Nat} {tokens : List Token}

theorem tokensFrom_of_exhausted (exhausted : Text.size text ≤ cursor) :
    tokensFrom scope chain grammar text cursor tokens = .ok tokens.reverse := by
  rw [tokensFrom, dif_pos exhausted]

theorem tokensFrom_of_unmatched (unfinished : ¬ Text.size text ≤ cursor)
    (unmatched : next? scope.find (scope.store.get grammar) text cursor = none) :
    tokensFrom scope chain grammar text cursor tokens =
      match Text.slice? text cursor (Text.size text) with
      | some rest => .ok (Token.pushText tokens rest).reverse
      | none => .error .brokenSpan := by
  rw [tokensFrom, dif_neg unfinished]
  split
  · rfl
  · rename_i candidate chosen
    rw [unmatched] at chosen
    cases chosen

theorem tokensFrom_of_broken (unfinished : ¬ Text.size text ≤ cursor) {candidate : Candidate}
    (chosen : next? scope.find (scope.store.get grammar) text cursor = some candidate)
    (broken : ∀ before content,
      Text.slice? text cursor candidate.found.contentStart = some before ->
      Text.slice? text candidate.found.contentStart candidate.found.stop = some content -> False) :
    tokensFrom scope chain grammar text cursor tokens = .error .brokenSpan := by
  rw [tokensFrom, dif_neg unfinished]
  split
  · rename_i unmatched
    rw [unmatched] at chosen
    cases chosen
  · rename_i other same
    rw [chosen] at same
    rcases Option.some.inj same with rfl
    split
    · rename_i before content ahead inside
      exact (broken before content ahead inside).elim
    · rfl

/-- The token of a match, and then those of what follows it. -/
theorem tokensFrom_of_taken (unfinished : ¬ Text.size text ≤ cursor) {candidate : Candidate}
    {before content : Text}
    (chosen : next? scope.find (scope.store.get grammar) text cursor = some candidate)
    (ahead : Text.slice? text cursor candidate.found.contentStart = some before)
    (inside : Text.slice? text candidate.found.contentStart candidate.found.stop = some content) :
    tokensFrom scope chain grammar text cursor tokens = (do
      let leaf := Token.leaf candidate.name candidate.rule.synonym content
      let token <- match <- scope.inner? candidate.rule with
        | none => pure leaf
        | some inner =>
            if (inner, Text.size content) ∈ chain then
              pure leaf
            else do
              let children <- tokensFrom scope ((inner, Text.size content) :: chain)
                inner content 0 []
              pure (.composite candidate.name candidate.rule.synonym children)
      tokensFrom scope chain grammar text candidate.found.stop
        (token :: Token.pushText tokens before)) := by
  rw [tokensFrom, dif_neg unfinished]
  split
  · rename_i unmatched
    rw [unmatched] at chosen
    cases chosen
  · rename_i other same
    rw [chosen] at same
    rcases Option.some.inj same with rfl
    split
    · rename_i before' content' ahead' inside'
      rcases Option.some.inj (ahead.symm.trans ahead') with rfl
      rcases Option.some.inj (inside.symm.trans inside') with rfl
      rfl
    · rename_i broken
      exact absurd inside (broken before content ahead)

end Equations

/-! ## What a stack of frames stands for -/

/-- Put the tokens of a frame into the frames around it and finish these, one after
the other. -/
def handOver (scope : Scope) : (label : Option Label) -> (below : List Frame) ->
    (tokens : List Token) -> Except HighlightError (List Token)
  | some label, parent :: below, tokens => do
      let tokens <- tokensFrom scope ((parent :: below).map Frame.key) parent.grammar
        parent.text parent.cursor (.composite label.kind label.synonym tokens :: parent.tokens)
      handOver scope parent.label below tokens
  | _, _, tokens => .ok tokens

/-- Finish all frames by recursion, the innermost first. -/
def resume (scope : Scope) (state : State) : Except HighlightError (List Token) := do
  let tokens <- tokensFrom scope (state.frames.map Frame.key) state.top.grammar
    state.top.text state.top.cursor state.top.tokens
  handOver scope state.top.label state.below tokens

/-- What is still to come after a step. -/
def Step.resume (scope : Scope) : Step -> Except HighlightError (List Token)
  | running state => Tokenizer.resume scope state
  | done tokens => .ok tokens

variable {scope : Scope} {state : State}

theorem resume_close (scope : Scope) (state : State) :
    (close state).resume scope =
      handOver scope state.top.label state.below state.top.tokens.reverse := by
  rcases state with ⟨⟨grammar, text, cursor, tokens, label⟩, below⟩
  cases label <;> cases below <;> rfl

/-- A match that has been taken off the innermost frame stands for its token and
what follows it. -/
theorem resume_enter {candidate : Candidate} {before content : Text}
    (taken : Taken scope state.top candidate before content) :
    (enter scope { state with top := state.top.advance before candidate.found.stop }
        candidate.name candidate.rule content >>= resume scope) = resume scope state := by
  conv_rhs =>
    rw [resume, tokensFrom_of_taken (Nat.not_le_of_lt taken.unfinished) taken.chosen
      taken.ahead taken.inside]
  simp only [enter, bind_assoc]
  congr 1
  funext inner
  cases inner with
  | none => rfl
  | some grammar =>
      by_cases repeated : state.isRepeat grammar (Text.size content) = true
      · have listed := State.isRepeat_iff.mp repeated
        have again : State.isRepeat
            { state with top := state.top.advance before candidate.found.stop } grammar
            (Text.size content) = true := repeated
        simp only [if_pos again, if_pos listed, pure_bind]
        rfl
      · have free := mt State.isRepeat_iff.mpr repeated
        have fresh : ¬ State.isRepeat
            { state with top := state.top.advance before candidate.found.stop } grammar
            (Text.size content) = true := repeated
        simp only [if_neg fresh, if_neg free, pure_bind, bind_assoc]
        rfl

/-- No step changes what the frames stand for. -/
theorem resume_step (scope : Scope) (state : State) :
    (step scope state >>= Step.resume scope) = resume scope state := by
  by_cases exhausted : Text.size state.top.text ≤ state.top.cursor
  · rw [step_of_move (.finish exhausted), resume, tokensFrom_of_exhausted exhausted]
    exact resume_close scope state
  · cases chosen : state.top.next? scope with
    | none =>
        rw [resume, tokensFrom_of_unmatched exhausted chosen]
        cases slice : Text.slice? state.top.text state.top.cursor (Text.size state.top.text) with
        | none =>
            have fails : step scope state = .error .brokenSpan := by
              rw [Frame.next?] at chosen
              simp only [step, if_neg exhausted, chosen, Frame.takeRest, slice]
              rfl
            rw [fails]
            rfl
        | some rest =>
            rw [step_of_move (.finishPlain rest (Nat.lt_of_not_le exhausted) chosen slice)]
            exact resume_close scope _
    | some candidate =>
        have steps : step scope state =
            (state.top.take candidate.found.contentStart candidate.found.stop >>=
              fun passed => enter scope { state with top := passed.1 } candidate.name
                candidate.rule passed.2 >>= fun after => pure (.running after)) := by
          rw [Frame.next?] at chosen
          simp only [step, if_neg exhausted, chosen]
        rw [steps]
        unfold Frame.take
        split
        · rename_i before content ahead inside
          have entered := resume_enter ⟨Nat.lt_of_not_le exhausted, chosen, ahead, inside⟩
          exact (bind_assoc (enter _ _ _ _ _) _ _).trans entered
        · rename_i broken
          rw [resume, tokensFrom_of_broken exhausted chosen broken]
          rfl

/-- A run that ends has the result that its first state stands for. -/
theorem resume_of_run? {steps : Nat} {result : Except HighlightError (List Token)}
    (ends : run? scope steps state = some result) : resume scope state = result := by
  fun_induction run? scope steps state with
  | case1 => cases ends
  | case2 steps state next moved ih =>
      rw [← resume_step, moved]
      exact ih ends
  | case3 steps state tokens finished =>
      rw [← resume_step, finished]
      exact Option.some.inj ends
  | case4 steps state fault refused =>
      rw [← resume_step, refused]
      exact Option.some.inj ends

/-- The stack of frames gives the same tree as the recursion, or fails in the same
way. -/
theorem tokenize_eq_tokensFrom (scope : Scope) (root : GrammarId) (whole : Text) :
    tokenize scope root whole =
      tokensFrom scope [(root, Text.size whole)] root whole 0 [] := by
  rw [← resume_of_run? (run?_eq_some_tokenize scope root whole)]
  exact bind_pure _

end Tokenizer
end FencedHighlight
