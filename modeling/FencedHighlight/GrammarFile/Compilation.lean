import FencedHighlight.Grammar
import FencedHighlight.GrammarFile.Definition

namespace FencedHighlight

/-!
Compiling the rules of grammar files.

Rules are compiled in the order of the file, and the first fault ends it all.
The own patterns of a rule come before the grammar for its content.  Inline
grammars are kept in the store, each as a new one.
-/

/-- Delimiters with a pattern for what deepens the nesting, if there is one. -/
def Delimiters.withNested? (delimiters : Delimiters) (nested : Option String) :
    Except HighlightError Delimiters :=
  match nested with
  | some pattern => delimiters.withNested pattern
  | none => .ok delimiters

namespace RuleFields

/-- The rule that the plain parts describe: for a pattern, or else for
delimiters, of which neither may be missing.  An opening delimiter is always
context. -/
def compile (fields : RuleFields) (name : String) : Except HighlightError Rule := do
  let rule <- match fields.pattern, fields.opening, fields.closing with
    | some pattern, none, none => do
        let rule <- Rule.ofPattern pattern
        pure { rule with lookbehind := fields.lookbehind }
    | none, some opening, some closing => do
        let delimiters <- Delimiters.compile opening closing
        let delimiters <- delimiters.withNested? fields.nested
        pure (Rule.balanced delimiters)
    | _, _, _ =>
        throw (.other ("rule " ++ name ++
          " needs either `pattern` or both `open` and `close`"))
  return { rule with synonym := fields.synonym, greedy := fields.greedy }

end RuleFields

namespace RuleDefinition

mutual

def compile (store : GrammarStore) (name : String) :
    RuleDefinition -> Except HighlightError (GrammarStore × Rule)
  | plain fields => do
      let rule <- fields.compile name
      return (store, rule)
  | named fields grammar => do
      let rule <- fields.compile name
      return (store, { rule with inside := some (.named grammar) })
  | inline fields rules => do
      let rule <- fields.compile name
      let (store, grammar) <- compileEntries store Grammar.empty rules
      let (store, id) := store.add grammar
      return (store, { rule with inside := some (.inline id) })

def compileList (store : GrammarStore) (name : String) :
    List RuleDefinition -> Except HighlightError (GrammarStore × List Rule)
  | [] => .ok (store, [])
  | definition :: rest => do
      let (store, rule) <- compile store name definition
      let (store, rules) <- compileList store name rest
      return (store, rule :: rules)

/-- Compile the rules under several names and add them to a grammar. -/
def compileEntries (store : GrammarStore) (grammar : Grammar) :
    List (String × List RuleDefinition) -> Except HighlightError (GrammarStore × Grammar)
  | [] => .ok (store, grammar)
  | (name, definitions) :: rest => do
      let (store, rules) <- compileList store name definitions
      compileEntries store (grammar.insert name rules) rest

end

end RuleDefinition

namespace EmbeddingDefinition

/-- The delimiters of an embedding: the tags of an element, or else an opening
and a closing, of which neither may be missing. -/
def delimiters (embedding : EmbeddingDefinition) : Except HighlightError Delimiters := do
  let delimiters <- match embedding.tag, embedding.opening, embedding.closing with
    | some tag, none, none => Delimiters.ofTag tag
    | none, some opening, some closing => Delimiters.compile opening closing
    | _, _, _ =>
        throw (.other ("embedding of " ++ embedding.language ++
          " needs either `tag` or both `open` and `close`"))
  delimiters.withNested? embedding.nested

end EmbeddingDefinition

end FencedHighlight
