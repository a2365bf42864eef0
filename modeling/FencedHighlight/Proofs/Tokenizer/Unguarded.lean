import FencedHighlight.Proofs.Tokenizer.Termination
import Mathlib.Logic.Relation

namespace FencedHighlight
namespace Tokenizer

/-!
What the guard against repetition leaves out.

Without the guard, every match of a rule with a grammar for its content has the
content tokenized.  This recursion need not come to an end.  It is given fuel here,
and it ends if some amount of fuel is enough for it.

Contents are parts of each other, so a content of the size of a text around it is
that text.  Then each frame from the one to the other has found its whole text with
its first match and can do nothing but hand it on.  If the grammar is the same as
well, the text comes back to it over and over, and no fuel is enough.  So the guard
never stands in the way of a recursion that ends.
-/

/-- The frame for the content of a match. -/
def Candidate.frame (candidate : Candidate) (grammar : GrammarId) (content : Text) : Frame :=
  { grammar, text := content, label := some ⟨candidate.name, candidate.rule.synonym⟩ }

/-- Tokenize what is left of the text of a frame.  Every content with a grammar of its
own is tokenized, whatever is being tokenized around it.  The result is missing if the
fuel does not last. -/
def unguarded? (scope : Scope) : (fuel : Nat) -> Frame ->
    Option (Except HighlightError (List Token))
  | 0, _ => none
  | fuel + 1, frame =>
      if Text.size frame.text ≤ frame.cursor then
        some (.ok frame.tokens.reverse)
      else
        match frame.next? scope with
        | none => some (frame.takeRest.map fun frame => frame.tokens.reverse)
        | some candidate =>
            match frame.take candidate.found.contentStart candidate.found.stop with
            | .error fault => some (.error fault)
            | .ok (frame, content) =>
                match scope.inner? candidate.rule with
                | .error fault => some (.error fault)
                | .ok none =>
                    unguarded? scope fuel
                      (frame.push (.leaf candidate.name candidate.rule.synonym content))
                | .ok (some grammar) =>
                    match unguarded? scope fuel (candidate.frame grammar content) with
                    | some (.ok children) =>
                        unguarded? scope fuel (frame.push
                          (.composite candidate.name candidate.rule.synonym children))
                    | stopped => stopped

/-- Whether some fuel is enough for a frame, and what comes of it. -/
def Finishes (scope : Scope) (frame : Frame) (result : Except HighlightError (List Token)) :
    Prop :=
  ∃ fuel, unguarded? scope fuel frame = some result

variable {scope : Scope} {root : GrammarId} {whole : Text}

theorem taken_of_take {frame passed : Frame} {candidate : Candidate} {content : Text}
    (unfinished : ¬ Text.size frame.text ≤ frame.cursor)
    (chosen : frame.next? scope = some candidate)
    (cut : frame.take candidate.found.contentStart candidate.found.stop =
      .ok (passed, content)) :
    ∃ before, Taken scope frame candidate before content ∧
      passed = frame.advance before candidate.found.stop := by
  rcases take_eq_ok cut with ⟨before, ahead, inside, same⟩
  exact ⟨before, ⟨Nat.lt_of_not_le unfinished, chosen, ahead, inside⟩, same⟩

section Equations

variable {frame : Frame} {candidate : Candidate} {before content : Text} {fuel : Nat}

theorem unguarded?_of_exhausted (exhausted : Text.size frame.text ≤ frame.cursor) :
    unguarded? scope (fuel + 1) frame = some (.ok frame.tokens.reverse) := by
  rw [unguarded?, if_pos exhausted]

theorem unguarded?_of_unmatched (unfinished : ¬ Text.size frame.text ≤ frame.cursor)
    (unmatched : frame.next? scope = none) :
    unguarded? scope (fuel + 1) frame =
      some (frame.takeRest.map fun frame => frame.tokens.reverse) := by
  simp only [unguarded?, if_neg unfinished, unmatched]

theorem unguarded?_of_broken (unfinished : ¬ Text.size frame.text ≤ frame.cursor)
    (chosen : frame.next? scope = some candidate) {fault : HighlightError}
    (broken : frame.take candidate.found.contentStart candidate.found.stop = .error fault) :
    unguarded? scope (fuel + 1) frame = some (.error fault) := by
  simp only [unguarded?, if_neg unfinished, chosen, broken]

variable (taken : Taken scope frame candidate before content)
include taken

/-- A match that can be cut out of the text is a leaf if its rule has no grammar for it.
Otherwise its content is tokenized first. -/
theorem unguarded?_of_taken :
    unguarded? scope (fuel + 1) frame =
      match scope.inner? candidate.rule with
      | .error fault => some (.error fault)
      | .ok none =>
          unguarded? scope fuel ((frame.advance before candidate.found.stop).push
            (.leaf candidate.name candidate.rule.synonym content))
      | .ok (some grammar) =>
          match unguarded? scope fuel (candidate.frame grammar content) with
          | some (.ok children) =>
              unguarded? scope fuel ((frame.advance before candidate.found.stop).push
                (.composite candidate.name candidate.rule.synonym children))
          | stopped => stopped := by
  simp only [unguarded?, if_neg (Nat.not_le_of_lt taken.unfinished), taken.chosen, taken.take]

theorem unguarded?_of_missing {fault : HighlightError}
    (missing : scope.inner? candidate.rule = .error fault) :
    unguarded? scope (fuel + 1) frame = some (.error fault) := by
  simp only [unguarded?_of_taken taken, missing]

theorem unguarded?_of_leaf (plain : scope.inner? candidate.rule = .ok none) :
    unguarded? scope (fuel + 1) frame = unguarded? scope fuel
      ((frame.advance before candidate.found.stop).push
        (.leaf candidate.name candidate.rule.synonym content)) := by
  simp only [unguarded?_of_taken taken, plain]

variable {grammar : GrammarId} (resolved : scope.inner? candidate.rule = .ok (some grammar))
include resolved

theorem unguarded?_of_children {children : List Token}
    (made : unguarded? scope fuel (candidate.frame grammar content) = some (.ok children)) :
    unguarded? scope (fuel + 1) frame = unguarded? scope fuel
      ((frame.advance before candidate.found.stop).push
        (.composite candidate.name candidate.rule.synonym children)) := by
  simp only [unguarded?_of_taken taken, resolved, made]

theorem unguarded?_of_stopped
    (stopped : ∀ children,
      unguarded? scope fuel (candidate.frame grammar content) = some (.ok children) -> False) :
    unguarded? scope (fuel + 1) frame =
      unguarded? scope fuel (candidate.frame grammar content) := by
  simp only [unguarded?_of_taken taken, resolved]

end Equations

/-- More fuel does not change a result. -/
theorem unguarded?_succ {fuel : Nat} {frame : Frame}
    {result : Except HighlightError (List Token)}
    (ends : unguarded? scope fuel frame = some result) :
    unguarded? scope (fuel + 1) frame = some result := by
  fun_induction unguarded? scope fuel frame generalizing result with
  | case1 => cases ends
  | case2 fuel frame exhausted =>
      rwa [unguarded?_of_exhausted exhausted]
  | case3 fuel frame unfinished unmatched =>
      rwa [unguarded?_of_unmatched unfinished unmatched]
  | case4 fuel frame unfinished candidate chosen fault broken =>
      rwa [unguarded?_of_broken unfinished chosen broken]
  | case5 fuel frame unfinished candidate chosen passed content cut fault missing =>
      rcases taken_of_take unfinished chosen cut with ⟨before, taken, rfl⟩
      rwa [unguarded?_of_missing taken missing]
  | case6 fuel frame unfinished candidate chosen passed content cut plain ih =>
      rcases taken_of_take unfinished chosen cut with ⟨before, taken, rfl⟩
      rw [unguarded?_of_leaf taken plain]
      exact ih ends
  | case7 fuel frame unfinished candidate chosen passed content cut grammar resolved children
      made ihInside ih =>
      rcases taken_of_take unfinished chosen cut with ⟨before, taken, rfl⟩
      rw [unguarded?_of_children taken resolved (ihInside made)]
      exact ih ends
  | case8 fuel frame unfinished candidate chosen passed content cut grammar resolved stopped
      ihInside =>
      rcases taken_of_take unfinished chosen cut with ⟨before, taken, rfl⟩
      have later := ihInside ends
      rw [unguarded?_of_stopped taken resolved, later]
      intro children made
      rw [later] at made
      cases made
      exact stopped children ends

theorem unguarded?_mono {fuel more : Nat} (enough : fuel ≤ more) {frame : Frame}
    {result : Except HighlightError (List Token)}
    (ends : unguarded? scope fuel frame = some result) :
    unguarded? scope more frame = some result := by
  induction enough with
  | refl => exact ends
  | step _ ih => exact unguarded?_succ ih

/-! ## What comes of a frame -/

section Results

variable {frame : Frame} {candidate : Candidate} {before content : Text}
  {result : Except HighlightError (List Token)}

/-- A frame that every amount of fuel from one on brings to the same result comes to that
result. -/
theorem finishes_iff_of_succ {outcome : Except HighlightError (List Token)}
    (ends : ∀ fuel, unguarded? scope (fuel + 1) frame = some outcome) :
    Finishes scope frame result ↔ result = outcome := by
  constructor
  · rintro ⟨fuel, finished⟩
    have later := unguarded?_succ finished
    rw [ends fuel] at later
    exact (Option.some.inj later).symm
  · rintro rfl
    exact ⟨1, ends 0⟩

/-- A frame that hands its fuel on, less some, comes to what the other frame comes to. -/
theorem finishes_iff_of_next {next : Frame}
    (moves : ∀ fuel, unguarded? scope (fuel + 1) frame = unguarded? scope fuel next) :
    Finishes scope frame result ↔ Finishes scope next result := by
  constructor
  · rintro ⟨fuel, finished⟩
    have later := unguarded?_succ finished
    exact ⟨fuel, (moves fuel).symm.trans later⟩
  · rintro ⟨fuel, finished⟩
    exact ⟨fuel + 1, (moves fuel).trans finished⟩

/-- A frame over a content comes first.  What comes of the frame around it is what comes
of it with the tokens of the content, or else the fault. -/
theorem finishes_iff_of_inside (taken : Taken scope frame candidate before content)
    {grammar : GrammarId} (resolved : scope.inner? candidate.rule = .ok (some grammar)) :
    Finishes scope frame result ↔
      (∃ children, Finishes scope (candidate.frame grammar content) (.ok children) ∧
        Finishes scope ((frame.advance before candidate.found.stop).push
          (.composite candidate.name candidate.rule.synonym children)) result) ∨
      ∃ fault, Finishes scope (candidate.frame grammar content) (.error fault) ∧
        result = .error fault := by
  constructor
  · rintro ⟨fuel, finished⟩
    have later := unguarded?_succ finished
    by_cases made : ∃ children,
        unguarded? scope fuel (candidate.frame grammar content) = some (.ok children)
    · rcases made with ⟨children, made⟩
      rw [unguarded?_of_children taken resolved made] at later
      exact Or.inl ⟨children, ⟨fuel, made⟩, fuel, later⟩
    · have stopped := unguarded?_of_stopped taken resolved
        (fun children ends => made ⟨children, ends⟩)
      rw [stopped] at later
      cases result with
      | ok children => exact (made ⟨children, later⟩).elim
      | error fault => exact Or.inr ⟨fault, ⟨fuel, later⟩, rfl⟩
  · rintro (⟨children, ⟨first, made⟩, second, finished⟩ | ⟨fault, ⟨fuel, failed⟩, rfl⟩)
    · refine ⟨max first second + 1, ?_⟩
      rw [unguarded?_of_children taken resolved (unguarded?_mono (Nat.le_max_left _ _) made)]
      exact unguarded?_mono (Nat.le_max_right _ _) finished
    · refine ⟨fuel + 1, ?_⟩
      rw [unguarded?_of_stopped taken resolved, failed]
      intro children made
      rw [failed] at made
      cases made

end Results

/-! ## What comes of a stack of frames -/

/-- What comes of a frame and of those around it, if the frame itself has come to some
result.  Its tokens are put into the frame around it, and a fault ends everything. -/
def Delivers (scope : Scope) : (label : Option Label) -> (below : List Frame) ->
    (outcome result : Except HighlightError (List Token)) -> Prop
  | some label, parent :: below, .ok tokens, result =>
      ∃ outcome,
        Finishes scope (parent.push (.composite label.kind label.synonym tokens)) outcome ∧
        Delivers scope parent.label below outcome result
  | _, _, outcome, result => result = outcome

/-- What comes of all frames of a state, the innermost first. -/
def Resumes (scope : Scope) (state : State) (result : Except HighlightError (List Token)) :
    Prop :=
  ∃ outcome, Finishes scope state.top outcome ∧
    Delivers scope state.top.label state.below outcome result

/-- What is still to come after a step. -/
def Step.Resumes (scope : Scope) : Step -> Except HighlightError (List Token) -> Prop
  | running state, result => Tokenizer.Resumes scope state result
  | done tokens, result => result = .ok tokens

/-- Whether the next match of a state is kept as a leaf although its content has a grammar,
because the grammar is being applied to a text of this size already. -/
def Repeats (scope : Scope) (state : State) (grammar : GrammarId) (content : Text) : Prop :=
  ∃ candidate before, Taken scope state.top candidate before content ∧
    scope.inner? candidate.rule = .ok (some grammar) ∧
    state.isRepeat grammar (Text.size content) = true

section Steps

variable {state : State} {result : Except HighlightError (List Token)}

theorem delivers_error (label : Option Label) (below : List Frame) (fault : HighlightError) :
    Delivers scope label below (.error fault) result ↔ result = .error fault := by
  cases label <;> cases below <;> exact Iff.rfl

theorem resumes_close (state : State) :
    (close state).Resumes scope result ↔
      Delivers scope state.top.label state.below (.ok state.top.tokens.reverse) result := by
  rcases state with ⟨⟨grammar, text, cursor, tokens, label⟩, below⟩
  cases label <;> cases below <;> exact Iff.rfl

theorem resumes_start (root : GrammarId) (whole : Text) :
    Resumes scope (State.start root whole) result ↔
      Finishes scope { grammar := root, text := whole } result := by
  constructor
  · rintro ⟨outcome, finished, rfl⟩
    exact finished
  · intro finished
    exact ⟨result, finished, rfl⟩

theorem resumes_iff_of_finishes {outcome : Except HighlightError (List Token)}
    (ends : ∀ result, Finishes scope state.top result ↔ result = outcome) :
    Resumes scope state result ↔ Delivers scope state.top.label state.below outcome result := by
  simp only [Resumes, ends, exists_eq_left]

/-- A step that keeps no repeated match as a leaf does not change what comes of the
frames. -/
theorem resumes_iff_of_move (free : ∀ grammar content, ¬ Repeats scope state grammar content)
    {next : Step} (move : Move scope state next) :
    Resumes scope state result ↔ next.Resumes scope result := by
  cases move with
  | finish exhausted =>
      rw [resumes_close]
      exact resumes_iff_of_finishes fun result =>
        finishes_iff_of_succ fun fuel => unguarded?_of_exhausted exhausted
  | finishPlain rest unfinished unmatched left =>
      have passed : state.top.takeRest =
          .ok (state.top.advance rest (Text.size state.top.text)) := by
        simp only [Frame.takeRest, left]
      rw [resumes_close]
      refine resumes_iff_of_finishes fun result => finishes_iff_of_succ fun fuel => ?_
      rw [unguarded?_of_unmatched (Nat.not_le_of_lt unfinished) unmatched, passed]
      rfl
  | leaf candidate before content taken plain =>
      rcases plain with plain | ⟨grammar, resolved, repeated⟩
      · have moves : ∀ result, Finishes scope state.top result ↔ _ := fun result =>
          finishes_iff_of_next fun _ => unguarded?_of_leaf taken plain
        exact exists_congr fun outcome => and_congr_left fun _ => moves outcome
      · exact (free grammar content ⟨candidate, before, taken, resolved, repeated⟩).elim
  | descend candidate before content grammar taken resolved fresh =>
      constructor
      · rintro ⟨outcome, finished, delivered⟩
        rcases (finishes_iff_of_inside taken resolved).mp finished with
          ⟨children, made, later⟩ | ⟨fault, failed, rfl⟩
        · exact ⟨.ok children, made, outcome, later, delivered⟩
        · rw [delivers_error] at delivered
          exact ⟨.error fault, failed, delivered⟩
      · rintro ⟨outcome, made, delivered⟩
        cases outcome with
        | ok children =>
            rcases delivered with ⟨outcome, later, delivered⟩
            exact ⟨outcome, (finishes_iff_of_inside taken resolved).mpr
              (Or.inl ⟨children, made, later⟩), delivered⟩
        | error fault =>
            rw [delivers_error] at delivered
            exact ⟨.error fault, (finishes_iff_of_inside taken resolved).mpr
              (Or.inr ⟨fault, made, rfl⟩), (delivers_error _ _ _).mpr delivered⟩

/-- Where a step fails, so does the recursion. -/
theorem resumes_iff_of_error {fault : HighlightError} (fails : step scope state = .error fault) :
    Resumes scope state result ↔ result = .error fault := by
  have ends : ∀ fuel, unguarded? scope (fuel + 1) state.top = some (.error fault) := by
    intro fuel
    cases breaks_of_step fails with
    | rest unfinished unmatched broken =>
        rw [unguarded?_of_unmatched (Nat.not_le_of_lt unfinished) unmatched, broken]
        rfl
    | cut candidate unfinished chosen broken =>
        exact unguarded?_of_broken (Nat.not_le_of_lt unfinished) chosen broken
    | missing candidate before content taken refused => exact unguarded?_of_missing taken refused
  rw [resumes_iff_of_finishes fun result => finishes_iff_of_succ ends, delivers_error]

end Steps

/-! ## Repeated grammars -/

/-- Whether a grammar finds a whole text with its first match there, and its rule has a
grammar for it. -/
def HandsOn (scope : Scope) (text : Text) (outer inner : GrammarId) : Prop :=
  ∃ candidate, next? scope.find (scope.store.get outer) text 0 = some candidate ∧
    candidate.found.contentStart = 0 ∧ candidate.found.stop = Text.size text ∧
    scope.inner? candidate.rule = .ok (some inner)

/-- A match whose content is as large as the text is the whole text, found from its
beginning. -/
theorem Matched.handsOn {outer inner : GrammarId} {text content : Text} {candidate : Candidate}
    (matched : Matched scope outer text candidate content)
    (resolved : scope.inner? candidate.rule = .ok (some inner))
    (sizes : Text.size text = Text.size content) :
    content = text ∧ HandsOn scope text outer inner := by
  have extent := Text.size_of_slice? matched.slice
  have fits := Text.le_size_of_slice? matched.slice
  rcases matched.chosen with ⟨cursor, ahead, chosen⟩
  have first : candidate.found.contentStart = 0 := by omega
  have last : candidate.found.stop = Text.size text := by omega
  have beginning : cursor = 0 := by omega
  subst beginning
  have same := matched.slice
  rw [first, last, Text.slice?_whole] at same
  exact ⟨(Option.some.inj same).symm, candidate, chosen, first, last, resolved⟩

/-- Around a text of some size no frame is smaller, and those of the same size have the
same text, which the grammars have handed on from the one to the other. -/
theorem Waiting.handsOn {grammar : GrammarId} {text : Text} {label : Option Label}
    {below : List Frame} (waiting : Waiting scope root whole grammar text label below) :
    ∀ frame ∈ below, Text.size text ≤ Text.size frame.text ∧
      (Text.size frame.text = Text.size text ->
        frame.text = text ∧ Relation.TransGen (HandsOn scope text) frame.grammar grammar) := by
  induction waiting with
  | outermost =>
      intro frame member
      cases member
  | @inside grammar content parent below candidate tiling matched resolved passed outer ih =>
      have extent := Text.size_of_slice? matched.slice
      have fits := Text.le_size_of_slice? matched.slice
      intro frame member
      rcases List.mem_cons.mp member with rfl | farther
      · refine ⟨by omega, fun sizes => ?_⟩
        rcases matched.handsOn resolved sizes with ⟨rfl, hands⟩
        exact ⟨rfl, .single hands⟩
      · have around := ih frame farther
        refine ⟨by omega, fun sizes => ?_⟩
        rcases matched.handsOn resolved (by omega) with ⟨rfl, hands⟩
        have chain := around.2 sizes
        exact ⟨chain.1, chain.2.tail hands⟩

/-- A text that is handed on takes fuel before the other grammar has it. -/
theorem HandsOn.takes_fuel {text : Text} {outer inner : GrammarId}
    (hands : HandsOn scope text outer inner) {fuel : Nat} {label : Option Label}
    {result : Except HighlightError (List Token)}
    (ends : unguarded? scope fuel { grammar := outer, text, label } = some result) :
    ∃ less label result, less < fuel ∧
      unguarded? scope less { grammar := inner, text, label } = some result := by
  rcases hands with ⟨candidate, chosen, first, last, resolved⟩
  have filled := content_of_next? chosen
  have taken : Taken scope { grammar := outer, text, label } candidate [] text :=
    { unfinished := by
        show 0 < Text.size text
        omega
      chosen := chosen
      ahead := by
        rw [first]
        exact Text.slice?_zero text
      inside := by
        rw [first, last]
        exact Text.slice?_whole text }
  cases fuel with
  | zero => cases ends
  | succ fuel =>
      cases inside : unguarded? scope fuel (candidate.frame inner text) with
      | some outcome => exact ⟨fuel, _, outcome, Nat.lt_succ_self fuel, inside⟩
      | none =>
          rw [unguarded?_of_stopped taken resolved, inside] at ends
          · cases ends
          · intro children made
            rw [inside] at made
            cases made

theorem takes_fuel_of_transGen {text : Text} {outer inner : GrammarId}
    (hands : Relation.TransGen (HandsOn scope text) outer inner) {fuel : Nat}
    {label : Option Label} {result : Except HighlightError (List Token)}
    (ends : unguarded? scope fuel { grammar := outer, text, label } = some result) :
    ∃ less label result, less < fuel ∧
      unguarded? scope less { grammar := inner, text, label } = some result := by
  induction hands with
  | single hands => exact hands.takes_fuel ends
  | tail earlier hands ih =>
      rcases ih with ⟨less, label, result, fewer, later⟩
      rcases hands.takes_fuel later with ⟨least, label, result, fewest, last⟩
      exact ⟨least, label, result, Nat.lt_trans fewest fewer, last⟩

/-- A text that is handed on from a grammar to itself takes more fuel than there is,
however much that is. -/
theorem unguarded?_eq_none_of_cycle {text : Text} {grammar : GrammarId}
    (cycle : Relation.TransGen (HandsOn scope text) grammar grammar) (fuel : Nat)
    (label : Option Label) : unguarded? scope fuel { grammar, text, label } = none := by
  induction fuel using Nat.strong_induction_on generalizing label with
  | h fuel ih =>
      cases ends : unguarded? scope fuel { grammar, text, label } with
      | none => rfl
      | some result =>
          rcases takes_fuel_of_transGen cycle ends with ⟨less, label, outcome, fewer, later⟩
          rw [ih less fewer label] at later
          cases later

namespace Repeats

variable {state : State} {grammar : GrammarId} {content : Text}

/-- A repeated grammar is being applied to the very text of the match already, and hands it
on until it has it again. -/
theorem cycle (repeats : Repeats scope state grammar content)
    (nested : state.Nested scope root whole) :
    (∃ frame ∈ state.frames, frame.grammar = grammar ∧ frame.text = content) ∧
      Relation.TransGen (HandsOn scope content) grammar grammar := by
  rcases repeats with ⟨candidate, before, taken, resolved, repeated⟩
  -- Were the content tokenized, its frame would be inside all the others.
  have waiting : Waiting scope root whole grammar content _
      (state.top.advance before candidate.found.stop :: state.below) :=
    .inside (nested.toTiled.ahead taken) taken.matched resolved rfl nested.waiting
  have around := waiting.handsOn
  rcases List.mem_map.mp (State.isRepeat_iff.mp repeated) with ⟨frame, member, same⟩
  rcases Prod.mk.inj same with ⟨rfl, sizes⟩
  rcases List.mem_cons.mp member with rfl | farther
  · have chain := (around _ List.mem_cons_self).2 sizes
    exact ⟨⟨state.top, List.mem_cons_self, rfl, chain.1⟩, chain.2⟩
  · have chain := (around frame (List.mem_cons_of_mem _ farther)).2 sizes
    exact ⟨⟨frame, member, rfl, chain.1⟩, chain.2⟩

/-- Nothing comes of a state in which a match is repeated. -/
theorem not_resumes (repeats : Repeats scope state grammar content)
    (nested : state.Nested scope root whole) (result : Except HighlightError (List Token)) :
    ¬ Resumes scope state result := by
  have endless := unguarded?_eq_none_of_cycle (repeats.cycle nested).2
  rcases repeats with ⟨candidate, before, taken, resolved, repeated⟩
  rintro ⟨outcome, finished, delivered⟩
  have never : ∀ inside, ¬ Finishes scope (candidate.frame grammar content) inside := by
    rintro inside ⟨fuel, ends⟩
    rw [Candidate.frame, endless fuel] at ends
    cases ends
  rcases (finishes_iff_of_inside taken resolved).mp finished with
    ⟨children, made, _⟩ | ⟨fault, failed, _⟩
  · exact never _ made
  · exact never _ failed

end Repeats

/-- A state of which something comes repeats nothing. -/
theorem Resumes.free {state : State} {result : Except HighlightError (List Token)}
    (resumes : Resumes scope state result) (nested : state.Nested scope root whole) :
    ∀ grammar content, ¬ Repeats scope state grammar content :=
  fun _ _ repeats => repeats.not_resumes nested result resumes

/-! ## Runs -/

/-- What the recursion gives for the frames of a state is what the run ends with. -/
theorem eq_of_resumes {steps : Nat} {state : State}
    {outcome result : Except HighlightError (List Token)}
    (nested : state.Nested scope root whole) (resumes : Resumes scope state result)
    (ends : run? scope steps state = some outcome) : outcome = result := by
  fun_induction run? scope steps state with
  | case1 => cases ends
  | case2 steps state next moved ih =>
      have move := move_of_step moved
      have later := (resumes_iff_of_move (resumes.free nested) move).mp resumes
      exact ih (nested_of_move nested move) later ends
  | case3 steps state tokens finished =>
      have move := move_of_step finished
      have last := (resumes_iff_of_move (resumes.free nested) move).mp resumes
      exact (Option.some.inj ends).symm.trans last.symm
  | case4 steps state fault refused =>
      have last := (resumes_iff_of_error refused).mp resumes
      exact (Option.some.inj ends).symm.trans last.symm

/-- If nothing is repeated in the states that a run comes to from some state on, the
recursion gives what the run ends with. -/
theorem resumes_of_run? {steps : Nat} {state : State}
    {outcome : Except HighlightError (List Token)} (reached : Reached scope root whole state)
    (free : ∀ state, Reached scope root whole state ->
      ∀ grammar content, ¬ Repeats scope state grammar content)
    (ends : run? scope steps state = some outcome) : Resumes scope state outcome := by
  fun_induction run? scope steps state with
  | case1 => cases ends
  | case2 steps state next moved ih =>
      have later := ih (.step reached moved) ends
      exact (resumes_iff_of_move (free state reached) (move_of_step moved)).mpr later
  | case3 steps state tokens finished =>
      refine (resumes_iff_of_move (free state reached) (move_of_step finished)).mpr ?_
      exact (Option.some.inj ends).symm
  | case4 steps state fault refused =>
      exact (resumes_iff_of_error refused).mpr (Option.some.inj ends).symm

/-- If the recursion comes to its end on the whole text, something comes of every state
that the run comes to. -/
theorem Reached.resumes {state : State} (reached : Reached scope root whole state)
    {result : Except HighlightError (List Token)}
    (finished : Finishes scope { grammar := root, text := whole } result) :
    Resumes scope state result := by
  induction reached with
  | start => exact (resumes_start root whole).mpr finished
  | @step state next reached moved ih =>
      exact (resumes_iff_of_move (ih.free reached.nested) (move_of_step moved)).mp ih

/-- The guard is exact.  Wherever the recursion without it comes to an end, tokenizing
gives the same tree or fails in the same way.  The guard keeps a match as a leaf only if
its grammar is being applied to the very same text, and then the recursion would never get
to the end of that text.  So some match is kept back exactly if the recursion does not come
to an end on the whole text. -/
theorem tokenize_eq_unguarded (scope : Scope) (root : GrammarId) (whole : Text) :
    (∀ fuel result, unguarded? scope fuel { grammar := root, text := whole } = some result ->
      tokenize scope root whole = result) ∧
    (∀ state grammar content, Reached scope root whole state ->
      Repeats scope state grammar content ->
        (∃ frame ∈ state.frames, frame.grammar = grammar ∧ frame.text = content) ∧
        ∀ fuel label, unguarded? scope fuel { grammar, text := content, label } = none) ∧
    ((∃ state grammar content, Reached scope root whole state ∧
        Repeats scope state grammar content) ↔
      ∀ fuel, unguarded? scope fuel { grammar := root, text := whole } = none) := by
  refine ⟨?_, ?_, ?_, ?_⟩
  · intro fuel result ends
    exact eq_of_resumes (nested_start scope root whole)
      ((resumes_start root whole).mpr ⟨fuel, ends⟩) (run?_eq_some_tokenize scope root whole)
  · intro state grammar content reached repeats
    have cycle := repeats.cycle reached.nested
    exact ⟨cycle.1, unguarded?_eq_none_of_cycle cycle.2⟩
  · rintro ⟨state, grammar, content, reached, repeats⟩ fuel
    cases ends : unguarded? scope fuel { grammar := root, text := whole } with
    | none => rfl
    | some result =>
        have resumes := reached.resumes ⟨fuel, ends⟩
        exact (resumes.free reached.nested grammar content repeats).elim
  · intro endless
    by_contra none
    have free : ∀ state, Reached scope root whole state ->
        ∀ grammar content, ¬ Repeats scope state grammar content :=
      fun state reached grammar content repeats =>
        none ⟨state, grammar, content, reached, repeats⟩
    have resumes := resumes_of_run? .start free (run?_eq_some_tokenize scope root whole)
    rcases (resumes_start root whole).mp resumes with ⟨fuel, ends⟩
    rw [endless fuel] at ends
    cases ends

/-- A rule for a word whose content is in another language. -/
def wordIn (language : String) : Rule :=
  { matcher := .pattern (.literal "ab".toList)
    inside := some (.named language) }

/-- A registry with two grammars that hand a word on to each other. -/
def alternating : Registry :=
  Registry.register
    (Registry.register {} "even" (Grammar.empty.insert "word" [wordIn "odd"]))
    "odd" (Grammar.empty.insert "word" [wordIn "even"])

/-- The match of the whole word. -/
def wholeWord (language : String) : Candidate :=
  ⟨"word", wordIn language, ⟨0, 0, 2⟩⟩

theorem tokenize_eq_unguarded_nested :
    tokenize nesting.scope 0 "a()((x))(".toList = .ok nestedTokens ∧
      tokenize alternating.scope 0 "ab".toList =
        .ok [.composite "word" none [.leaf "word" none "ab".toList]] ∧
      ∀ fuel, unguarded? alternating.scope fuel { grammar := 0, text := "ab".toList } = none := by
  have enough : unguarded? nesting.scope 9 { grammar := 0, text := "a()((x))(".toList } =
      some (.ok nestedTokens) := by
    rfl
  have opened : Reached alternating.scope 0 "ab".toList
      ⟨(wholeWord "odd").frame 1 "ab".toList,
        [Frame.advance { grammar := 0, text := "ab".toList } [] 2]⟩ :=
    .step .start rfl
  have repeated : Repeats alternating.scope
      ⟨(wholeWord "odd").frame 1 "ab".toList,
        [Frame.advance { grammar := 0, text := "ab".toList } [] 2]⟩ 0 "ab".toList :=
    ⟨wholeWord "even", [], ⟨by decide, rfl, rfl, rfl⟩, rfl, rfl⟩
  refine ⟨(tokenize_eq_unguarded _ _ _).1 9 _ enough, rfl, ?_⟩
  exact (tokenize_eq_unguarded _ _ _).2.2.mp ⟨_, _, _, opened, repeated⟩

end Tokenizer
end FencedHighlight
