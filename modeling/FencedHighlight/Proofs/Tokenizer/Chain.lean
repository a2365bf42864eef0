import FencedHighlight.Proofs.Tokenizer.Recursion

namespace FencedHighlight
namespace Tokenizer

/-!
What the recursion reads of its chain.

The chain of grammars and sizes is asked only about contents that are still ahead, and
these are no larger than what is left of the text.  So two chains that hold the same pairs
up to that size are as good as each other, and whatever is larger may be left out.

For this the recursion is taken apart once: nothing can be taken off what is left of the
text, or there is a match, which gives its token, and then what follows it.  Whatever is to
be shown of the recursion can be shown along these two calls, without looking into its
definition again.
-/

variable {scope : Scope} {chain : List (GrammarId × Nat)} {grammar : GrammarId} {text : Text}
  {cursor : Nat} {made : List Token}

/-- What a run stands for at its start: the whole text, alone on the chain. -/
theorem resume_start (scope : Scope) (root : GrammarId) (whole : Text) :
    resume scope (State.start root whole) =
      tokensFrom scope [(root, Text.size whole)] root whole 0 [] :=
  bind_pure _

theorem tokenize_eq_resume (scope : Scope) (root : GrammarId) (whole : Text) :
    tokenize scope root whole = resume scope (State.start root whole) :=
  (resume_of_run? (run?_eq_some_tokenize scope root whole)).symm

/-- The token of a match: a leaf, unless its content has a grammar that is not being
applied to a text of that size already. -/
def tokenOf (scope : Scope) (chain : List (GrammarId × Nat)) (candidate : Candidate)
    (content : Text) : Except HighlightError Token := do
  let leaf := Token.leaf candidate.name candidate.rule.synonym content
  let found <- scope.inner? candidate.rule
  found.elim (pure leaf) fun inner =>
    if chain.contains (inner, Text.size content) then
      pure leaf
    else do
      let children <- tokensFrom scope ((inner, Text.size content) :: chain) inner content 0 []
      return .composite candidate.name candidate.rule.synonym children

/-- The next match of what is left of a text. -/
abbrev TakenFrom (scope : Scope) (grammar : GrammarId) (text : Text) (cursor : Nat)
    (candidate : Candidate) (before content : Text) : Prop :=
  Taken scope { grammar, text, cursor } candidate before content

section Matches

variable {candidate : Candidate} {before content : Text}

/-- A content lies in what is left of the text. -/
theorem extent_of_taken (taken : TakenFrom scope grammar text cursor candidate before content) :
    cursor ≤ candidate.found.contentStart ∧
      candidate.found.contentStart + Text.size content = candidate.found.stop ∧
      candidate.found.stop ≤ Text.size text := by
  have ahead : cursor + Text.size before = candidate.found.contentStart :=
    Text.size_of_slice? taken.ahead
  exact ⟨by omega, Text.size_of_slice? taken.inside, Text.le_size_of_slice? taken.inside⟩

/-- A content is no larger than what is left of the text. -/
theorem size_le_of_taken (taken : TakenFrom scope grammar text cursor candidate before content) :
    Text.size content ≤ Text.size text - cursor := by
  rcases extent_of_taken taken with ⟨after, extent, within⟩
  omega

theorem TakenFrom.of_same {twin : GrammarId}
    (taken : TakenFrom scope grammar text cursor candidate before content)
    (same : scope.store.get twin = scope.store.get grammar) :
    TakenFrom scope twin text cursor candidate before content :=
  { taken with
    chosen := (congrArg (next? scope.find · text cursor) same).trans taken.chosen }

theorem lt_stop_of_taken (taken : TakenFrom scope grammar text cursor candidate before content) :
    cursor < candidate.found.stop :=
  taken.movesTo.farther

/-- A match is made a token, and then what follows it is tokenized. -/
theorem tokensFrom_eq_bind (taken : TakenFrom scope grammar text cursor candidate before content) :
    tokensFrom scope chain grammar text cursor made =
      tokenOf scope chain candidate content >>= fun token =>
        tokensFrom scope chain grammar text candidate.found.stop
          (token :: Token.pushText made before) := by
  rw [tokensFrom_of_taken (Nat.not_le_of_lt taken.unfinished) taken.chosen taken.ahead
    taken.inside]
  simp only [tokenOf, bind_assoc]
  congr 1
  funext inner
  cases inner with
  | none => rfl
  | some inner =>
      by_cases repeated : (inner, Text.size content) ∈ chain
      · simp only [Option.elim_some, List.contains_iff_mem, if_pos repeated, pure_bind]
      · simp only [Option.elim_some, List.contains_iff_mem, if_neg repeated, bind_assoc, pure_bind]

theorem tokenOf_of_missing {fault : HighlightError}
    (missing : scope.inner? candidate.rule = .error fault) :
    tokenOf scope chain candidate content = .error fault := by
  rw [tokenOf, missing]
  rfl

theorem tokenOf_of_plain (plain : scope.inner? candidate.rule = .ok none) :
    tokenOf scope chain candidate content =
      .ok (.leaf candidate.name candidate.rule.synonym content) := by
  rw [tokenOf, plain]
  rfl

variable {inner : GrammarId} (resolved : scope.inner? candidate.rule = .ok (some inner))
include resolved

theorem tokenOf_of_repeated (repeated : (inner, Text.size content) ∈ chain) :
    tokenOf scope chain candidate content =
      .ok (.leaf candidate.name candidate.rule.synonym content) := by
  rw [tokenOf, resolved]
  exact if_pos (List.contains_iff_mem.mpr repeated)

theorem tokenOf_of_fresh (fresh : (inner, Text.size content) ∉ chain) :
    tokenOf scope chain candidate content =
      (tokensFrom scope ((inner, Text.size content) :: chain) inner content 0 []).map
        (.composite candidate.name candidate.rule.synonym) := by
  rw [tokenOf, resolved]
  refine (if_neg (mt List.contains_iff_mem.mp fresh)).trans ?_
  cases tokensFrom scope ((inner, Text.size content) :: chain) inner content 0 [] <;> rfl

end Matches

/-- What holds of every text if it holds where it does of what follows the next match and of
the content of that match.  The recursion makes no other calls. -/
theorem tokensFrom_induction (scope : Scope)
    {Holds : List (GrammarId × Nat) -> GrammarId -> Text -> Nat -> Prop}
    (step : ∀ chain grammar text cursor,
      (∀ candidate before content, TakenFrom scope grammar text cursor candidate before content ->
        Holds chain grammar text candidate.found.stop ∧
          ∀ inner, scope.inner? candidate.rule = .ok (some inner) ->
            (inner, Text.size content) ∉ chain ->
            Holds ((inner, Text.size content) :: chain) inner content 0) ->
      Holds chain grammar text cursor)
    (chain : List (GrammarId × Nat)) (grammar : GrammarId) (text : Text) (cursor : Nat) :
    Holds chain grammar text cursor :=
  step chain grammar text cursor fun candidate _ content _taken =>
    ⟨tokensFrom_induction scope step chain grammar text candidate.found.stop,
      fun inner _ _fresh =>
        tokensFrom_induction scope step ((inner, Text.size content) :: chain) inner content 0⟩
termination_by (levelsLeft scope.store chain grammar (Text.size text), Text.size text - cursor)
decreasing_by
  · exact Prod.Lex.right _ (rest_lt (Nat.not_le_of_lt _taken.unfinished) _taken.chosen _taken.ahead)
  · have fits := Nat.le_trans (size_le_of_taken _taken) (Nat.sub_le _ _)
    exact Prod.Lex.left _ _
      (levelsLeft_lt (lt_size_of_mem_rules (found_of_next? _taken.chosen).1) _fresh fits)

/-! ## What comes of the recursion -/

/-- A match has no token for want of a grammar, or a leaf, or whatever comes of its content. -/
theorem tokenOf_cases (scope : Scope) (chain : List (GrammarId × Nat)) (candidate : Candidate)
    (content : Text) :
    (∃ fault, scope.inner? candidate.rule = .error fault ∧
      tokenOf scope chain candidate content = .error fault) ∨
    tokenOf scope chain candidate content =
      .ok (.leaf candidate.name candidate.rule.synonym content) ∨
    ∃ inner, scope.inner? candidate.rule = .ok (some inner) ∧
      (inner, Text.size content) ∉ chain ∧
      tokenOf scope chain candidate content =
        (tokensFrom scope ((inner, Text.size content) :: chain) inner content 0 []).map
          (.composite candidate.name candidate.rule.synonym) := by
  cases resolved : scope.inner? candidate.rule with
  | error fault => exact Or.inl ⟨fault, rfl, tokenOf_of_missing resolved⟩
  | ok found =>
      cases found with
      | none => exact Or.inr (Or.inl (tokenOf_of_plain resolved))
      | some inner =>
          by_cases repeated : (inner, Text.size content) ∈ chain
          · exact Or.inr (Or.inl (tokenOf_of_repeated resolved repeated))
          · exact Or.inr (Or.inr ⟨inner, rfl, repeated, tokenOf_of_fresh resolved repeated⟩)

section Results

variable {candidate : Candidate} {content : Text}

theorem tokenOf_eq_ok {token : Token}
    (result : tokenOf scope chain candidate content = .ok token) :
    token = .leaf candidate.name candidate.rule.synonym content ∨
      ∃ inner children, scope.inner? candidate.rule = .ok (some inner) ∧
        (inner, Text.size content) ∉ chain ∧
        tokensFrom scope ((inner, Text.size content) :: chain) inner content 0 [] =
          .ok children ∧
        token = .composite candidate.name candidate.rule.synonym children := by
  rcases tokenOf_cases scope chain candidate content with
    ⟨fault, _, same⟩ | same | ⟨inner, resolved, fresh, same⟩
  · rw [same] at result
    cases result
  · rw [same] at result
    exact Or.inl (Except.ok.inj result).symm
  · rw [same] at result
    cases inside : tokensFrom scope ((inner, Text.size content) :: chain) inner content 0 [] with
    | error fault =>
        rw [inside] at result
        cases result
    | ok children =>
        rw [inside] at result
        exact Or.inr ⟨inner, children, resolved, fresh, inside, (Except.ok.inj result).symm⟩

theorem isText_of_tokenOf {token : Token}
    (result : tokenOf scope chain candidate content = .ok token) : token.isText = false := by
  rcases tokenOf_eq_ok result with rfl | ⟨inner, children, _, _, _, rfl⟩ <;> rfl

theorem tokenOf_eq_error {fault : HighlightError}
    (fails : tokenOf scope chain candidate content = .error fault) :
    scope.inner? candidate.rule = .error fault ∨
      ∃ inner, scope.inner? candidate.rule = .ok (some inner) ∧
        (inner, Text.size content) ∉ chain ∧
        tokensFrom scope ((inner, Text.size content) :: chain) inner content 0 [] =
          .error fault := by
  rcases tokenOf_cases scope chain candidate content with
    ⟨other, missing, same⟩ | same | ⟨inner, resolved, fresh, same⟩
  · rw [same] at fails
    rcases Except.error.inj fails with rfl
    exact Or.inl missing
  · rw [same] at fails
    cases fails
  · rw [same] at fails
    cases inside : tokensFrom scope ((inner, Text.size content) :: chain) inner content 0 [] with
    | error other =>
        rw [inside] at fails
        rcases Except.error.inj fails with rfl
        exact Or.inr ⟨inner, resolved, fresh, inside⟩
    | ok children =>
        rw [inside] at fails
        cases fails

end Results

/-- What the recursion has done if it has not failed. -/
inductive Ending (scope : Scope) (chain : List (GrammarId × Nat)) (grammar : GrammarId)
    (text : Text) (cursor : Nat) (made : List Token) : List Token -> Prop where
  /-- Nothing is left of the text. -/
  | finish (exhausted : Text.size text ≤ cursor) :
      Ending scope chain grammar text cursor made made.reverse
  /-- Nothing matches any more, so what is left is plain text. -/
  | finishPlain (rest : Text) (left : Text.slice? text cursor (Text.size text) = some rest) :
      Ending scope chain grammar text cursor made (Token.pushText made rest).reverse
  | token {siblings : List Token} (candidate : Candidate) (before content : Text) (token : Token)
      (taken : TakenFrom scope grammar text cursor candidate before content)
      (result : tokenOf scope chain candidate content = .ok token)
      (behind : tokensFrom scope chain grammar text candidate.found.stop
        (token :: Token.pushText made before) = .ok siblings) :
      Ending scope chain grammar text cursor made siblings

theorem ending_of_tokensFrom {siblings : List Token}
    (ends : tokensFrom scope chain grammar text cursor made = .ok siblings) :
    Ending scope chain grammar text cursor made siblings := by
  by_cases exhausted : Text.size text ≤ cursor
  · rw [tokensFrom_of_exhausted exhausted] at ends
    rcases Except.ok.inj ends with rfl
    exact .finish exhausted
  · cases chosen : next? scope.find (scope.store.get grammar) text cursor with
    | none =>
        rw [tokensFrom_of_unmatched exhausted chosen] at ends
        cases left : Text.slice? text cursor (Text.size text) with
        | none =>
            rw [left] at ends
            cases ends
        | some rest =>
            rw [left] at ends
            rcases Except.ok.inj ends with rfl
            exact .finishPlain rest left
    | some candidate =>
        by_cases cut : ∃ before content,
            TakenFrom scope grammar text cursor candidate before content
        · rcases cut with ⟨before, content, taken⟩
          rw [tokensFrom_eq_bind taken] at ends
          rcases HighlightError.ok_of_bind ends with ⟨token, result, behind⟩
          exact .token candidate before content token taken result behind
        · rw [tokensFrom_of_broken exhausted chosen fun before content ahead inside =>
            cut ⟨before, content, Nat.lt_of_not_le exhausted, chosen, ahead, inside⟩] at ends
          cases ends

/-! ## Chains that are as good as each other -/

/-- Whether two chains hold the same pairs up to a size. -/
def AgreeUpTo (size : Nat) (chain other : List (GrammarId × Nat)) : Prop :=
  ∀ pair, pair.2 ≤ size -> (pair ∈ chain ↔ pair ∈ other)

section Chains

variable {size : Nat} {other : List (GrammarId × Nat)} {twin : GrammarId}

theorem AgreeUpTo.mono {smaller : Nat} (agree : AgreeUpTo size chain other)
    (fits : smaller ≤ size) : AgreeUpTo smaller chain other :=
  fun pair small => agree pair (Nat.le_trans small fits)

theorem AgreeUpTo.cons (agree : AgreeUpTo size chain other) (pair : GrammarId × Nat) :
    AgreeUpTo size (pair :: chain) (pair :: other) := by
  intro asked small
  rw [List.mem_cons, List.mem_cons, agree asked small]

/-- Where nothing can be taken off a text, no chain is asked. -/
theorem tokensFrom_of_untaken
    (untaken : ¬ ∃ candidate before content,
      TakenFrom scope grammar text cursor candidate before content)
    (same : scope.store.get twin = scope.store.get grammar) :
    tokensFrom scope chain grammar text cursor made =
      tokensFrom scope other twin text cursor made := by
  by_cases exhausted : Text.size text ≤ cursor
  · rw [tokensFrom_of_exhausted exhausted, tokensFrom_of_exhausted exhausted]
  · cases chosen : next? scope.find (scope.store.get grammar) text cursor with
    | none =>
        have alike := chosen
        rw [← same] at alike
        rw [tokensFrom_of_unmatched exhausted chosen, tokensFrom_of_unmatched exhausted alike]
    | some candidate =>
        have broken : ∀ before content,
            Text.slice? text cursor candidate.found.contentStart = some before ->
            Text.slice? text candidate.found.contentStart candidate.found.stop = some content ->
            False :=
          fun before content ahead inside => untaken
            ⟨candidate, before, content, Nat.lt_of_not_le exhausted, chosen, ahead, inside⟩
        have alike := chosen
        rw [← same] at alike
        rw [tokensFrom_of_broken exhausted chosen broken,
          tokensFrom_of_broken exhausted alike broken]

/-- A match has the same token with a chain that agrees up to the size of its content. -/
theorem tokenOf_congr {candidate : Candidate} {content : Text}
    (agree : AgreeUpTo (Text.size content) chain other)
    (inside : ∀ inner, scope.inner? candidate.rule = .ok (some inner) ->
      (inner, Text.size content) ∉ chain ->
      tokensFrom scope ((inner, Text.size content) :: chain) inner content 0 [] =
        tokensFrom scope ((inner, Text.size content) :: other) inner content 0 []) :
    tokenOf scope chain candidate content = tokenOf scope other candidate content := by
  cases result : scope.inner? candidate.rule with
  | error fault => rw [tokenOf_of_missing result, tokenOf_of_missing result]
  | ok found =>
      cases found with
      | none => rw [tokenOf_of_plain result, tokenOf_of_plain result]
      | some inner =>
          have asked := agree (inner, Text.size content) (Nat.le_refl _)
          by_cases repeated : (inner, Text.size content) ∈ chain
          · rw [tokenOf_of_repeated result repeated,
              tokenOf_of_repeated result (asked.mp repeated)]
          · rw [tokenOf_of_fresh result repeated, tokenOf_of_fresh result (mt asked.mpr repeated),
              inside inner result repeated]

/-- What is left of a text has the same tokens with a chain that agrees up to its size, and
with a grammar of the same rules. -/
theorem tokensFrom_congr (agree : AgreeUpTo (Text.size text - cursor) chain other)
    (same : scope.store.get twin = scope.store.get grammar) :
    tokensFrom scope chain grammar text cursor made =
      tokensFrom scope other twin text cursor made := by
  induction chain, grammar, text, cursor using tokensFrom_induction scope
    generalizing other twin made with
  | step chain grammar text cursor ih =>
      by_cases more : ∃ candidate before content,
          TakenFrom scope grammar text cursor candidate before content
      · rcases more with ⟨candidate, before, content, taken⟩
        have alike : TakenFrom scope twin text cursor candidate before content :=
          taken.of_same same
        -- Neither the content nor the rest is larger than what is left, so the chains agree
        -- for both; inside the content both have one pair more.
        have contents := agree.mono (size_le_of_taken taken)
        have rest := agree.mono (Nat.sub_le_sub_left (Nat.le_of_lt (lt_stop_of_taken taken)) _)
        rcases ih candidate before content taken with ⟨behind, inside⟩
        have token : tokenOf scope chain candidate content =
            tokenOf scope other candidate content :=
          tokenOf_congr contents fun inner resolved fresh =>
            inside inner resolved fresh (contents.cons _) rfl
        rw [tokensFrom_eq_bind taken, tokensFrom_eq_bind alike, token]
        congr 1
        funext token
        exact behind rest same
      · exact tokensFrom_of_untaken more same

end Chains

end Tokenizer
end FencedHighlight
