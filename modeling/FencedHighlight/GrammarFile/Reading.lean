import FencedHighlight.GrammarFile.Definition
import FencedHighlight.Toml.Reader

namespace FencedHighlight
namespace GrammarFile

open Toml (Value)

/-!
Reading grammar files.

A file is a TOML document.  Under the name of a rule stands its pattern, a
table of its fields, an array with the values of its fields in their fixed
order, or an array of alternatives; an array is taken for field values as long
as that makes sense.  Unknown keys are refused in files, rules and embeddings,
and ignored beside the rules of inline grammars.
-/

/-! ## Rules -/

/-- What has been read of a rule. -/
structure RuleParts where
  fields : RuleFields := {}
  /-- The name of the grammar for the content, or its rules. -/
  inside : Option (String ⊕ RuleEntries) := none

namespace RuleParts

def rule (parts : RuleParts) : RuleDefinition :=
  match parts.inside with
  | none => .plain parts.fields
  | some (.inl grammar) => .named parts.fields grammar
  | some (.inr rules) => .inline parts.fields rules

end RuleParts

/-- The keys of a rule, in the order in which an array gives their values. -/
def ruleKeys : List String :=
  ["pattern", "open", "close", "nested", "alias", "inside", "greedy", "lookbehind"]

/-- Set the plain field of a rule under a key. -/
def setField? (fields : RuleFields) (key : String) (value : Value) : Option RuleFields :=
  match key with
  | "pattern" => value.text?.map fun text => { fields with pattern := some text }
  | "open" => value.text?.map fun text => { fields with opening := some text }
  | "close" => value.text?.map fun text => { fields with closing := some text }
  | "nested" => value.text?.map fun text => { fields with nested := some text }
  | "alias" => value.text?.map fun text => { fields with synonym := some text }
  | "greedy" => value.boolean?.map fun greedy => { fields with greedy }
  | "lookbehind" => value.boolean?.map fun lookbehind => { fields with lookbehind }
  | _ => none

/-- Set the field of a rule under a key to a value, given how that is read as the
grammar for the content. -/
def setPart? (parts : RuleParts) (key : String) (value : Value)
    (inside : Option (String ⊕ RuleEntries)) : Option RuleParts :=
  if key = "inside" then
    inside.map fun inside => { parts with inside := some inside }
  else
    (setField? parts.fields key value).map fun fields => { parts with fields }

mutual

/-- Read the fields of a rule from a table. -/
def readFields (parts : RuleParts) : List (String × Value) -> Option RuleParts
  | [] => some parts
  | (key, value) :: rest => do
      let parts <- setPart? parts key value (readInside value)
      readFields parts rest

/-- Read the fields of a rule from an array, given the keys of its items. -/
def readItems (parts : RuleParts) : (keys : List String) -> List Value -> Option RuleParts
  | _, [] => some parts
  | [], _ :: _ => none
  | key :: keys, value :: rest => do
      let parts <- setPart? parts key value (readInside value)
      readItems parts keys rest

def readRule : Value -> Option RuleDefinition
  | .table entries => (readFields {} entries).map RuleParts.rule
  | .array items => (readItems {} ruleKeys items).map RuleParts.rule
  | _ => none

def readRuleList : List Value -> Option (List RuleDefinition)
  | [] => some []
  | value :: rest => do
      let rule <- readRule value
      let rules <- readRuleList rest
      return rule :: rules

/-- Read what stands under the name of a rule. -/
def readAlternatives : Value -> Option (List RuleDefinition)
  | .string pattern => some [.plain { pattern := some pattern }]
  | .table entries => (readFields {} entries).map fun parts => [parts.rule]
  | .array items =>
      match readItems {} ruleKeys items with
      | some parts => some [parts.rule]
      | none => readRuleList items
  | _ => none

def readEntries : List (String × Value) -> Option RuleEntries
  | [] => some []
  | (name, value) :: rest => do
      let rules <- readAlternatives value
      let entries <- readEntries rest
      return (name, rules) :: entries

/-- Read the rules of a grammar.  A moment counts as a table with a single
entry. -/
def readRules : Value -> Option RuleEntries
  | .table entries => readEntries entries
  | .moment text =>
      some [("$__toml_private_datetime", [.plain { pattern := some text }])]
  | _ => none

/-- Read the rules among the entries of an inline grammar. -/
def readRulesAmong : List (String × Value) -> Option RuleEntries
  | [] => some []
  | (key, value) :: rest =>
      if key = "rules" then readRules value else readRulesAmong rest

/-- Read the grammar for the content of a rule. -/
def readInside : Value -> Option (String ⊕ RuleEntries)
  | .string grammar => some (.inl grammar)
  | .table entries => (readRulesAmong entries).map .inr
  | .array [] | .moment _ => some (.inr [])
  | .array [rules] => (readRules rules).map .inr
  | _ => none

end

/-! ## Embeddings and files -/

def hasOnly (known : List String) (entries : List (String × Value)) : Bool :=
  entries.all fun entry => known.contains entry.1

/-- Read the value under a key that must be there. -/
def required? (key : String) (entries : List (String × Value)) : Option String :=
  (entries.lookup key).bind Value.text?

/-- Read the value under a key that may be missing. -/
def optional? (key : String) (entries : List (String × Value)) :
    Option (Option String) :=
  Toml.field? (fun value => value.text?.map some) none key entries

/-- The keys of an embedding, in the order in which an array gives their
values. -/
def embeddingKeys : List String :=
  ["language", "tag", "open", "close", "nested", "before"]

def ofEmbeddingEntries? (entries : List (String × Value)) :
    Option EmbeddingDefinition :=
  if hasOnly embeddingKeys entries then do
    let language <- required? "language" entries
    let tag <- optional? "tag" entries
    let opening <- optional? "open" entries
    let closing <- optional? "close" entries
    let nested <- optional? "nested" entries
    let before <- optional? "before" entries
    return { language, tag, opening, closing, nested, before }
  else
    none

/-- Read an embedding.  Of an array only as many items count as there are
keys. -/
def readEmbedding : Value -> Option EmbeddingDefinition
  | .table entries => ofEmbeddingEntries? entries
  | .array items => ofEmbeddingEntries? (embeddingKeys.zip items)
  | _ => none

/-- Read a grammar file from the entries of its document. -/
def ofEntries? (entries : List (String × Value)) : Option GrammarFile :=
  if hasOnly ["name", "extends", "rules", "embed"] entries then do
    let name <- required? "name" entries
    let base <- optional? "extends" entries
    let rules <- Toml.field? readRules [] "rules" entries
    let embeddings <-
      Toml.field? (fun value => do (<- value.items?).mapM readEmbedding) [] "embed" entries
    return { name, base, rules, embeddings }
  else
    none

def parse? (text : String) : Option GrammarFile :=
  (Toml.parse text.toList).bind ofEntries?

end GrammarFile
end FencedHighlight
