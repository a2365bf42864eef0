namespace FencedHighlight

/-!
Grammar files.

A grammar file defines one grammar: its name, the grammar that it extends, its
rules in order and what it embeds.  Patterns are still texts here; nothing has
been compiled or looked up.
-/

/-- The plain parts of a rule as they are written. -/
structure RuleFields where
  pattern : Option String := none
  opening : Option String := none
  closing : Option String := none
  nested : Option String := none
  synonym : Option String := none
  greedy : Bool := false
  lookbehind : Bool := false

/-- A rule as it is written. -/
inductive RuleDefinition where
  | plain (fields : RuleFields)
  /-- A rule whose content is tokenized by the grammar of this name. -/
  | named (fields : RuleFields) (grammar : String)
  /-- A rule whose content is tokenized by rules of its own. -/
  | inline (fields : RuleFields) (rules : List (String × List RuleDefinition))

/-- Alternatives under their names, in the order of the file. -/
abbrev RuleEntries := List (String × List RuleDefinition)

/-- An embedding of another language as it is written. -/
structure EmbeddingDefinition where
  language : String
  tag : Option String := none
  opening : Option String := none
  closing : Option String := none
  nested : Option String := none
  /-- The rule that the embedding goes before; without one it goes first. -/
  before : Option String := none

/-- A grammar as it is written. -/
structure GrammarFile where
  name : String
  /-- The grammar that the rules are layered onto. -/
  base : Option String := none
  rules : RuleEntries := []
  embeddings : List EmbeddingDefinition := []

end FencedHighlight
