import FencedHighlight.CodeBlock
import FencedHighlight.Files
import FencedHighlight.Toml.Reader
import FencedHighlight.Unicode.Derived

namespace FencedHighlight

/-!
Settings and the file that holds them.

A settings file is a TOML document.  Whatever it does not mention keeps its
default, and keys without a meaning are ignored.
-/

/-- The settings of the highlighter. -/
structure Settings where
  /-- What opens and closes code blocks. -/
  fence : String := FenceScanner.defaultFence
  /-- Whether fences and languages may be written in either case. -/
  anyCase : Bool := true
  enabled : Bool := true
  /-- The directory of further grammar files. -/
  grammarDirectory : Option String := none
deriving DecidableEq

namespace Settings

def isBlank (text : String) : Bool :=
  text.toList.all Unicode.Derived.whiteSpace.contains

/-- The settings with the default in the place of a blank fence. -/
def sanitized (settings : Settings) : Settings :=
  if isBlank settings.fence then
    { settings with fence := FenceScanner.defaultFence }
  else
    settings

/-- The settings that the entries of a document give. -/
def ofEntries? (entries : List (String × Toml.Value)) : Option Settings := do
  let defaults : Settings := {}
  let fence <- Toml.field? Toml.Value.text? defaults.fence "fence" entries
  let anyCase <-
    Toml.field? Toml.Value.boolean? defaults.anyCase "case-insensitive" entries
  let enabled <- Toml.field? Toml.Value.boolean? defaults.enabled "enabled" entries
  let grammarDirectory <-
    Toml.field? (fun value => value.text?.map some) defaults.grammarDirectory
      "grammar-dir" entries
  return { fence, anyCase, enabled, grammarDirectory }

def parse (text : String) : Except HighlightError Settings :=
  match (Toml.parse text.toList).bind ofEntries? with
  | some settings => .ok settings.sanitized
  | none => .error .malformedFile

/-- Read the settings file at a path.  If there is none, everything keeps its
default. -/
def load {m : Type -> Type} [Monad m] (files : Files m) (path : String) :
    m (Except HighlightError Settings) := do
  match <- files.read path with
  | .ok text => return parse text
  | .error .notFound => return .ok {}
  | .error fault => return .error (.file fault)

end Settings

end FencedHighlight
