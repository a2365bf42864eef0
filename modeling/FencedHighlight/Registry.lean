import FencedHighlight.Tokenizer

namespace FencedHighlight

/-!
The registry of grammars.

A registry binds names to grammars.  Names inside rules are looked up only when
a text is tokenized, so grammars may refer to themselves, to each other and to
grammars that are registered later.  Every change of a binding makes a new
version; a change of a grammar binds a changed copy.
-/

/-- Grammars under names. -/
structure Registry where
  store : GrammarStore := {}
  bindings : List (String × GrammarId) := []
  /-- The number of changes so far, which is taken to fit into 64 bits. -/
  version : Nat := 0

namespace Registry

def lookup? (registry : Registry) (name : String) : Option GrammarId :=
  registry.bindings.lookup name

/-- The grammar that must be bound to a name. -/
def lookup (registry : Registry) (name : String) : Except HighlightError GrammarId :=
  match registry.lookup? name with
  | some id => .ok id
  | none => .error (.grammarNotFound name)

def contains (registry : Registry) (name : String) : Bool :=
  (registry.lookup? name).isSome

/-- The rules of the grammar that must be bound to a name. -/
def grammar (registry : Registry) (name : String) : Except HighlightError Grammar := do
  let id <- registry.lookup name
  return registry.store.get id

/-- The names in use, in the order of their characters. -/
def names (registry : Registry) : List String :=
  (registry.bindings.map Prod.fst).mergeSort fun first second => decide (first ≤ second)

/-- Bind a name to a new grammar with these rules. -/
def register (registry : Registry) (name : String) (grammar : Grammar) : Registry :=
  let (store, id) := registry.store.add grammar
  { store
    bindings := (name, id) :: registry.bindings.filter fun binding => binding.1 != name
    version := registry.version + 1 }

/-- Unbind a name.  Nothing changes if no grammar is bound to it. -/
def remove (registry : Registry) (name : String) : Registry :=
  if registry.contains name then
    { registry with
      bindings := registry.bindings.filter fun binding => binding.1 != name
      version := registry.version + 1 }
  else
    registry

/-- The rules of a registered grammar with others layered onto them. -/
def extended (registry : Registry) (base : String) (overrides : Grammar) :
    Except HighlightError Grammar := do
  let grammar <- registry.grammar base
  return grammar.extended overrides

/-- Bind a name to a changed copy of its grammar. -/
def modify (registry : Registry) (name : String) (change : Grammar -> Grammar) :
    Except HighlightError Registry := do
  let grammar <- registry.grammar name
  return registry.register name (change grammar)

/-- Put rules before another one in a registered grammar. -/
def insertBefore (registry : Registry) (host before name : String)
    (rules : List Rule) : Except HighlightError Registry :=
  registry.modify host fun grammar => grammar.insertBefore before name rules

/-- The tag of regions in another language. -/
def languageTag (language : String) : String :=
  "language-" ++ language

/-- The name of the rule for an embedding: the element whose tags delimit it,
or else the tag of its regions. -/
def embeddingName (delimiters : Delimiters) (language : String) : String :=
  delimiters.tag.getD (languageTag language)

/-- The rule for an embedding: what the delimiters enclose is tokenized by the
grammar of the language. -/
def embeddingRule (delimiters : Delimiters) (language : String) : Rule :=
  { Rule.balanced delimiters with
    synonym := some (languageTag language)
    inside := some (.named language)
    greedy := true }

/-- Embed a language in a registered grammar, ahead of all its rules. -/
def embed (registry : Registry) (host : String) (delimiters : Delimiters)
    (language : String) : Except HighlightError Registry :=
  registry.modify host fun grammar =>
    grammar.insertFirst (embeddingName delimiters language)
      [embeddingRule delimiters language]

/-- Embed a language in a registered grammar, before one of its rules. -/
def embedBefore (registry : Registry) (host before : String) (delimiters : Delimiters)
    (language : String) : Except HighlightError Registry :=
  registry.insertBefore host before (embeddingName delimiters language)
    [embeddingRule delimiters language]

/-- What tokenizing with the grammars of a registry depends on. -/
def scope (registry : Registry) : Tokenizer.Scope :=
  { store := registry.store
    resolve := registry.lookup?
    findAny := Rule.findAny? }

/-- Tokenize a text with some grammar of the registry's store. -/
def tokenize (registry : Registry) (id : GrammarId) (text : Text) :
    Except HighlightError (List Token) :=
  Tokenizer.tokenize registry.scope id text

end Registry

end FencedHighlight
