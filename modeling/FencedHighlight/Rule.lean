import FencedHighlight.Delimiters

namespace FencedHighlight

/-!
Rules of a grammar.

A rule recognises one construct, by a pattern or by a pair of delimiters.  What
it matches may begin with context that does not belong to the token, such as
the first group of a pattern or the opening delimiter of a region.
-/

/-- What a rule has matched.  Up to `contentStart` lies context, from there on
the content of the token. -/
structure RuleMatch where
  start : Nat
  contentStart : Nat
  stop : Nat
deriving DecidableEq

namespace RuleMatch

def isEmpty (found : RuleMatch) : Bool :=
  found.stop ≤ found.contentStart

end RuleMatch

/-- How a rule recognises its construct. -/
inductive Matcher where
  | pattern (pattern : Pattern)
  | balanced (delimiters : Delimiters)

/-- The number under which a grammar is kept. -/
abbrev GrammarId := Nat

/-- The grammar for the content of a token. -/
inductive Inside where
  /-- A registered grammar, looked up when the content is reached. -/
  | named (name : String)
  /-- A grammar that belongs to the rule. -/
  | inline (id : GrammarId)
deriving DecidableEq

/-- A rule of a grammar. -/
structure Rule where
  matcher : Matcher
  /-- The tag of its tokens, if it is not the name of the rule. -/
  synonym : Option String := none
  inside : Option Inside := none
  /-- Whether matches may reach beyond the start of another rule's match. -/
  greedy : Bool := false
  /-- Whether the first group, or the opening delimiter, is only context. -/
  lookbehind : Bool := false

namespace Rule

def ofPattern (source : String) : Except HighlightError Rule := do
  let pattern <- Pattern.compile source
  return { matcher := .pattern pattern }

/-- A rule for the regions between delimiters.  The opening delimiter is
context, and the closing one is left to other rules. -/
def balanced (delimiters : Delimiters) : Rule :=
  { matcher := .balanced delimiters, lookbehind := true }

/-- The first match of a rule at or after an offset, empty or not. -/
def findAny? (rule : Rule) (text : Text) (offset : Nat) : Option RuleMatch :=
  match rule.matcher with
  | .pattern pattern => do
      let found <- pattern.search? text offset
      let start := found.span.start
      let context := if rule.lookbehind then found.firstGroup.elim 0 Span.length else 0
      let contentStart :=
        if rule.lookbehind then min (start + context) found.span.stop else start
      return ⟨start, contentStart, found.span.stop⟩
  | .balanced delimiters => do
      let (start, contentStart, stop) <- delimiters.region? text offset
      return ⟨start, if rule.lookbehind then contentStart else start, stop⟩

/-- The first match that is not empty.  After an empty one the search goes on
one character farther.  Each step moves on, so the size of the text bounds the
number of steps. -/
def firstContent (text : Text) (findAny : Nat -> Option RuleMatch) :
    (steps offset : Nat) -> Option RuleMatch
  | 0, _ => none
  | steps + 1, offset =>
      if Text.size text ≤ offset then
        none
      else do
        let found <- findAny offset
        if found.isEmpty then
          firstContent text findAny steps
            (Text.nextBoundary text (max found.start offset))
        else
          return found

/-- The first match with some content between an offset and a limit, given what
is reported for a text from an offset on.  To the search the text ends at the
limit. -/
def findWithin (findAny : Text -> Nat -> Option RuleMatch) (text : Text)
    (offset limit : Nat) : Option RuleMatch :=
  if limit ≤ offset then
    none
  else do
    let (text, _) <- Text.cut? text limit
    firstContent text (findAny text) (Text.size text + 1) offset

/-- The first match of a rule with some content, between an offset and a
limit. -/
def find? (rule : Rule) (text : Text) (offset limit : Nat) : Option RuleMatch :=
  findWithin rule.findAny? text offset limit

end Rule

end FencedHighlight
