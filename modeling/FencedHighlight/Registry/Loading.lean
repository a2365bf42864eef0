import FencedHighlight.Files
import FencedHighlight.GrammarFile.Compilation
import FencedHighlight.GrammarFile.Reading
import FencedHighlight.Registry

namespace FencedHighlight
namespace Registry

/-!
Loading grammar files into a registry.

The grammar of a file is registered first, and the embeddings are installed one
after the other.  A fault in an embedding does not undo what has been done
before it, so every operation here gives back a registry, faulty or not.
-/

/-- Compile the rules of a file, layer them onto its base and register them. -/
def registerFile (registry : Registry) (file : GrammarFile) :
    Except HighlightError Registry := do
  let (store, rules) <-
    RuleDefinition.compileEntries registry.store Grammar.empty file.rules
  let registry := { registry with store }
  let grammar <- match file.base with
    | some base => registry.extended base rules
    | none => pure rules
  return registry.register file.name grammar

/-- Install one embedding of a file in its grammar. -/
def installEmbedding (registry : Registry) (host : String)
    (embedding : EmbeddingDefinition) : Except HighlightError Registry := do
  let delimiters <- embedding.delimiters
  match embedding.before with
  | some before => registry.embedBefore host before delimiters embedding.language
  | none => registry.embed host delimiters embedding.language

/-- Install embeddings in order, up to the first fault. -/
def installEmbeddings (host : String) (registry : Registry) :
    List EmbeddingDefinition -> Registry × Except HighlightError Unit
  | [] => (registry, .ok ())
  | embedding :: rest =>
      match registry.installEmbedding host embedding with
      | .ok registry => installEmbeddings host registry rest
      | .error fault => (registry, .error fault)

/-- Install a grammar file, and give the name of its grammar. -/
def install (registry : Registry) (file : GrammarFile) :
    Registry × Except HighlightError String :=
  match registry.registerFile file with
  | .error fault => (registry, .error fault)
  | .ok registry =>
      let (registry, result) := installEmbeddings file.name registry file.embeddings
      (registry, result.map fun _ => file.name)

def loadToml (registry : Registry) (text : String) :
    Registry × Except HighlightError String :=
  match GrammarFile.parse? text with
  | some file => registry.install file
  | none => (registry, .error .malformedFile)

/-- Install the grammar files at some paths in order, up to the first fault.  A
fault in a file is reported with its path. -/
def loadPaths {m : Type -> Type} [Monad m] (files : Files m) (registry : Registry) :
    (paths : List String) -> m (Registry × Except HighlightError (List String))
  | [] => return (registry, .ok [])
  | path :: paths => do
      match <- files.read path with
      | .error fault => return (registry, .error (.file fault))
      | .ok text =>
          match registry.loadToml text with
          | (registry, .error fault) =>
              return (registry, .error (.other (path ++ ": " ++ fault.message)))
          | (registry, .ok name) =>
              let (registry, result) <- loadPaths files registry paths
              return (registry, result.map fun names => name :: names)

/-- Install all grammar files in a directory, in the order of their names, and
give the names of their grammars. -/
def loadDirectory {m : Type -> Type} [Monad m] (files : Files m) (registry : Registry)
    (directory : String) : m (Registry × Except HighlightError (List String)) := do
  match <- files.list directory with
  | .error fault => return (registry, .error (.file fault))
  | .ok names =>
      let names := Files.sortNames (names.filter (Files.hasExtension "toml"))
      loadPaths files registry (names.map (Files.join directory))

end Registry
end FencedHighlight
