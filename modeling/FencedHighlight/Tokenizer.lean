import FencedHighlight.Grammar
import FencedHighlight.Token

namespace FencedHighlight
namespace Tokenizer

/-!
Tokenizing a text with a grammar.

From the left to the right, every rule is searched for from the cursor on.  The
match that starts first gives the next token, and of several the one declared
first.  The text before it becomes plain text.  If the rule has a grammar for
its content, the content is tokenized in turn.

Texts that are being tokenized are kept on a stack of frames, the innermost
first.  A grammar that reaches itself over the very same text would never come
to an end, so such a match stays a leaf.
-/

/-- What tokenizing depends on besides the grammar and the text. -/
structure Scope where
  store : GrammarStore
  /-- The grammar that is registered under a name. -/
  resolve : String -> Option GrammarId
  /-- The first match of a rule in a text from an offset on, empty or not. -/
  findAny : Rule -> Text -> (offset : Nat) -> Option RuleMatch

namespace Scope

/-- The first match of a rule in a text with some content, between an offset
and a limit. -/
def find (scope : Scope) (rule : Rule) (text : Text) (offset limit : Nat) :
    Option RuleMatch :=
  Rule.findWithin (scope.findAny rule) text offset limit

/-- The grammar for the content of a match, if its rule has one. -/
def inner? (scope : Scope) (rule : Rule) : Except HighlightError (Option GrammarId) :=
  match rule.inside with
  | none => .ok none
  | some (.inline grammar) => .ok (some grammar)
  | some (.named name) =>
      match scope.resolve name with
      | some grammar => .ok (some grammar)
      | none => .error (.grammarNotFound name)

end Scope

/-- A rule that has matched, with its name. -/
structure Candidate where
  name : String
  rule : Rule
  found : RuleMatch

/-- Try rules in turn, given the best match of those before them.  A rule that
is not greedy must not match across `limit`, the least start of a match so far.
Once a match starts at the cursor, no other can be better. -/
def nextFrom (find : Rule -> Text -> (offset limit : Nat) -> Option RuleMatch)
    (text : Text) (cursor : Nat) :
    (limit : Nat) -> Option Candidate -> List (String × Rule) -> Option Candidate
  | _, best, [] => best
  | limit, best, (name, rule) :: rest =>
      let bound := if rule.greedy then Text.size text else limit
      match find rule text cursor bound with
      | none => nextFrom find text cursor limit best rest
      | some found =>
          let earlier := best.all fun best => found.start < best.found.start
          let best := if earlier then some ⟨name, rule, found⟩ else best
          if found.start = cursor then
            best
          else
            nextFrom find text cursor (min limit found.start) best rest

/-- The rule that gives the next token at or after the cursor. -/
def next? (find : Rule -> Text -> (offset limit : Nat) -> Option RuleMatch)
    (grammar : Grammar) (text : Text) (cursor : Nat) : Option Candidate :=
  nextFrom find text cursor (Text.size text) none grammar.rules

/-- The name and the alias of the rule whose content a frame covers. -/
structure Label where
  kind : String
  synonym : Option String

/-- A text that is being tokenized. -/
structure Frame where
  grammar : GrammarId
  text : Text
  /-- The offset up to which tokens have been made. -/
  cursor : Nat := 0
  /-- The tokens so far, the newest first. -/
  tokens : List Token := []
  /-- What the frame becomes in the frame around it, if there is one. -/
  label : Option Label := none

namespace Frame

def push (frame : Frame) (token : Token) : Frame :=
  { frame with tokens := token :: frame.tokens }

/-- Pass on to an offset, with `before` as plain text on the way. -/
def advance (frame : Frame) (before : Text) (cursor : Nat) : Frame :=
  { frame with cursor, tokens := Token.pushText frame.tokens before }

/-- Take the text up to `start` as plain text and pass over the content from
there to `stop`. -/
def take (frame : Frame) (start stop : Nat) : Except HighlightError (Frame × Text) :=
  match Text.slice? frame.text frame.cursor start, Text.slice? frame.text start stop with
  | some before, some content => .ok (frame.advance before stop, content)
  | _, _ => .error .brokenSpan

def takeRest (frame : Frame) : Except HighlightError Frame :=
  let stop := Text.size frame.text
  match Text.slice? frame.text frame.cursor stop with
  | some rest => .ok (frame.advance rest stop)
  | none => .error .brokenSpan

end Frame

/-- The frames of a run; there is always an innermost one. -/
structure State where
  top : Frame
  below : List Frame

namespace State

/-- Whether a grammar is being applied to a text of this size already.  The
texts of the frames are parts of each other, so texts of equal sizes are the
same. -/
def isRepeat (state : State) (grammar : GrammarId) (size : Nat) : Bool :=
  (state.top :: state.below).any fun frame =>
    Text.size frame.text == size && frame.grammar == grammar

end State

/-- How a step of a run goes on. -/
inductive Step where
  | running (state : State)
  | done (tokens : List Token)

def close (state : State) : Step :=
  let tokens := state.top.tokens.reverse
  match state.top.label, state.below with
  | some label, parent :: below =>
      .running ⟨parent.push (.composite label.kind label.synonym tokens), below⟩
  | _, _ => .done tokens

/-- Make a leaf of the content of a match, or open a frame for it. -/
def enter (scope : Scope) (state : State) (name : String) (rule : Rule)
    (content : Text) : Except HighlightError State := do
  let leaf := { state with top := state.top.push (.leaf name rule.synonym content) }
  match <- scope.inner? rule with
  | none => return leaf
  | some grammar =>
      if state.isRepeat grammar (Text.size content) then
        return leaf
      else
        return {
          top := { grammar, text := content, label := some ⟨name, rule.synonym⟩ }
          below := state.top :: state.below }

/-- One step of a run: make a token, open a frame, or close one. -/
def step (scope : Scope) (state : State) : Except HighlightError Step := do
  let frame := state.top
  if Text.size frame.text ≤ frame.cursor then
    return close state
  else
    match next? scope.find (scope.store.get frame.grammar) frame.text frame.cursor with
    | none =>
        let frame <- frame.takeRest
        return close { state with top := frame }
    | some candidate =>
        let (frame, content) <-
          frame.take candidate.found.contentStart candidate.found.stop
        let state <-
          enter scope { state with top := frame } candidate.name candidate.rule content
        return .running state

/-- The result of a run, if it comes to its end within a number of steps. -/
def run? (scope : Scope) : (steps : Nat) -> State ->
    Option (Except HighlightError (List Token))
  | 0, _ => none
  | steps + 1, state =>
      match step scope state with
      | .ok (.running state) => run? scope steps state
      | .ok (.done tokens) => some (.ok tokens)
      | .error fault => some (.error fault)

/-- A number of steps that no run exceeds.  Frames over the same stretch of
text differ in their grammars, so along any chain of frames there are at most as
many as there are pairs of a grammar and a size; frames of the same depth cover
disjoint stretches; and each step within a frame takes some of its text. -/
def stepLimit (store : GrammarStore) (text : Text) : Nat :=
  let size := Text.size text
  (2 * size + 2) * ((store.grammars.size + 1) * size + 3)

/-- Tokenize a text with the grammar of a number.  The run comes to its end
within the limit. -/
def tokenize (scope : Scope) (grammar : GrammarId) (text : Text) :
    Except HighlightError (List Token) :=
  (run? scope (stepLimit scope.store text) ⟨{ grammar, text }, []⟩).getD
    (.error .brokenSpan)

end Tokenizer
end FencedHighlight
