import FencedHighlight.Engine
import FencedHighlight.Registry.Builtin

namespace FencedHighlight
namespace CommandLine

/-!
The command line.

The program prints the ranges of the code blocks in a file, one range on a
line.  Everything it reads, it reads by the means given, so a run on a tree of
files is a plain value.
-/

/-- What the arguments ask for. -/
inductive Command where
  | help
  | version
  /-- Highlight a file; without languages, highlight all there are. -/
  | highlight (languages : List String) (file : String)
  /-- No file is named. -/
  | nothing

/-- What the program leaves behind. -/
structure Outcome where
  exitCode : Nat
  output : String
  /-- The words for the failure, if there is one. -/
  failure : Option String

/-- Read arguments in order, given the languages and the file so far.  Of
several files the last one counts, and the first request for help or for the
version ends it. -/
def readArguments (languages : List String) (file : Option String) :
    List String -> Except HighlightError Command
  | [] => .ok (file.elim .nothing (.highlight languages))
  | argument :: rest =>
      if argument = "--help" || argument = "-h" then
        .ok .help
      else if argument = "--version" || argument = "-V" then
        .ok .version
      else if argument = "--lang" || argument = "-l" then
        match rest with
        | [] => .error (.other "--lang needs a value")
        | language :: rest => readArguments (languages ++ [language]) file rest
      else if argument.toList.head? = some '-' then
        .error (.other ("unknown option " ++ argument))
      else
        readArguments languages (some argument) rest

def nameAndVersion : String :=
  "glint 0.1.0"

def usage : String :=
  nameAndVersion ++ " - highlight fenced code blocks\n\n" ++
  "Usage: glint [OPTIONS] FILE\n\n" ++
  "Prints one line per style range: start, end and tag, tab separated.\n\n" ++
  "Options:\n" ++
  "  -l, --lang ID  Highlight blocks of this language (repeatable;\n" ++
  "                 default: every registered grammar)\n" ++
  "  -h, --help     Show this help message\n" ++
  "  -V, --version  Show version information\n\n" ++
  "Settings are read from ~/.glint.toml\n"

def rangeLine (range : StyleRange) : String :=
  toString range.start ++ "\t" ++ toString range.stop ++ "\t" ++ range.tag ++ "\n"

/-- The settings in a home directory.  They are the defaults if there is no such
directory, or if its settings file is of no use. -/
def settings {m : Type -> Type} [Monad m] (files : Files m) (home : Option String) :
    m Settings := do
  match home with
  | none => return {}
  | some directory =>
      let result <- Settings.load files (Files.join directory ".glint.toml")
      return result.toOption.getD {}

/-- The built-in grammars with those of the chosen directory. -/
def registry {m : Type -> Type} [Monad m] (files : Files m) (settings : Settings) :
    m (Except HighlightError Registry) := do
  match settings.grammarDirectory with
  | none => return .ok Registry.withBuiltins
  | some directory =>
      let (registry, result) <- Registry.withBuiltins.loadDirectory files directory
      return result.map fun _ => registry

def highlight {m : Type -> Type} [Monad m] (files : Files m) (home : Option String)
    (languages : List String) (file : String) : m (Except HighlightError String) := do
  let settings <- settings files home
  match <- registry files settings with
  | .error fault => return .error fault
  | .ok registry =>
      match <- files.read file with
      | .error fault => return .error (.file fault)
      | .ok text =>
          let languages := if languages.isEmpty then registry.names else languages
          let ranges := (Engine.ofSettings settings).highlightDocument registry languages
            (Text.ofString text)
          return ranges.map fun ranges => String.join (ranges.map rangeLine)

/-- What the program leaves behind once it has tried to highlight a file.  A broken span ends it
without a report of its own. -/
def outcome : Except HighlightError String -> Outcome
  | .ok output => { exitCode := 0, output, failure := none }
  | .error .brokenSpan => { exitCode := 101, output := "", failure := none }
  | .error fault => { exitCode := 1, output := "", failure := some fault.message }

def run {m : Type -> Type} [Monad m] (files : Files m) (home : Option String)
    (arguments : List String) : m Outcome := do
  match readArguments [] none arguments with
  | .error fault => return outcome (.error fault)
  | .ok .help => return outcome (.ok usage)
  | .ok .version => return outcome (.ok (nameAndVersion ++ "\n"))
  | .ok .nothing => return { exitCode := 2, output := usage, failure := none }
  | .ok (.highlight languages file) => return outcome (<- highlight files home languages file)

end CommandLine
end FencedHighlight
