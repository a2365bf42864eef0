namespace FencedHighlight

/-!
What can go wrong, and how it is put into words.
-/

/-- Why a file or a directory could not be read. -/
inductive FileFault where
  | notFound
  | notADirectory
  | isADirectory
  | notUtf8
  /-- A failure that the system reports by some other number. -/
  | system (words : String) (number : Nat)
deriving DecidableEq

namespace FileFault

/-- The words for a failure that the system reports, with its number. -/
def systemMessage (words : String) (number : Nat) : String :=
  words ++ " (os error " ++ toString number ++ ")"

def message : FileFault -> String
  | notFound => systemMessage "No such file or directory" 2
  | notADirectory => systemMessage "Not a directory" 20
  | isADirectory => systemMessage "Is a directory" 21
  | notUtf8 => "stream did not contain valid UTF-8"
  | system words number => systemMessage words number

end FileFault

/-- A failure of some operation. -/
inductive HighlightError where
  | grammarNotFound (name : String)
  /-- A failure that is described by its words alone. -/
  | other (words : String)
  | engineUnavailable (reason : String)
  | file (fault : FileFault)
  /-- A pattern that cannot be read or compiled. -/
  | invalidPattern (pattern : String)
  /-- A settings or grammar file that cannot be read as such. -/
  | malformedFile
  /-- A span that does not consist of whole characters of its text.  All work that needs the
  text of the span is lost with it. -/
  | brokenSpan
deriving DecidableEq

namespace HighlightError

/-- The words for a failure.  Of an unreadable file or pattern they give only
the kind, not the details. -/
def message : HighlightError -> String
  | grammarNotFound name => "Grammar not found: " ++ name
  | other words => words
  | engineUnavailable reason => "Highlighting engine unavailable: " ++ reason
  | file fault => "I/O error: " ++ fault.message
  | invalidPattern _ => "Invalid pattern"
  | malformedFile => "Parse error"
  | brokenSpan => "Broken span"

/-- Go on after a failure, with `default` for what has failed.  There is no going on after a
broken span. -/
def skip {α : Type} (default : α) : Except HighlightError α -> Except HighlightError α
  | .ok value => .ok value
  | .error brokenSpan => .error brokenSpan
  | .error _ => .ok default

/-- Operations one after the other succeed only if each of them does. -/
theorem ok_of_bind {ε α β : Type} {first : Except ε α} {next : α -> Except ε β} {result : β}
    (succeeds : (first >>= next) = .ok result) :
    ∃ value, first = .ok value ∧ next value = .ok result := by
  cases first with
  | error fault => cases succeeds
  | ok value => exact ⟨value, rfl, succeeds⟩

/-- Operations one after the other fail where the first of them does that fails. -/
theorem error_of_bind {ε α β : Type} {first : Except ε α} {next : α -> Except ε β} {fault : ε}
    (fails : (first >>= next) = .error fault) :
    first = .error fault ∨ ∃ value, first = .ok value ∧ next value = .error fault := by
  cases first with
  | error other =>
      cases fails
      exact Or.inl rfl
  | ok value => exact Or.inr ⟨value, rfl, fails⟩

end HighlightError

end FencedHighlight
