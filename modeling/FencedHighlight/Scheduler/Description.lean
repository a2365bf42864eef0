import FencedHighlight.QuotedText
import FencedHighlight.Scheduler

namespace FencedHighlight

/-!
Schedulers and messages in words, for reports on their state.

A value is written as its name with its parts, which stand in braces with
their names or in parentheses without.
-/

namespace Description

def commaSeparated (parts : List String) : String :=
  String.intercalate ", " parts

def record (name : String) (parts : List (String × String)) : String :=
  name ++ " \x7b " ++
    commaSeparated (parts.map fun part => part.1 ++ ": " ++ part.2) ++ " \x7d"

def applied (name part : String) : String :=
  name ++ "(" ++ part ++ ")"

end Description

namespace HighlightError

def describe : HighlightError -> String
  | grammarNotFound name => Description.applied "GrammarNotFound" (QuotedText.encode name)
  | other words => Description.applied "Message" (QuotedText.encode words)
  | engineUnavailable reason =>
      Description.applied "EngineUnavailable" (QuotedText.encode reason)
  | file fault => Description.applied "Io" (QuotedText.encode fault.message)
  | invalidPattern pattern =>
      Description.applied "InvalidPattern" (QuotedText.encode pattern)
  | malformedFile => "Parse"
  | brokenSpan => "BrokenSpan"

end HighlightError

namespace Engine

def describe (engine : Engine) : String :=
  Description.record "Engine"
    [("fence", QuotedText.encode engine.fence),
      ("case_insensitive", toString engine.anyCase),
      ("enabled", toString engine.enabled),
      ("transforms", toString engine.transforms.length)]

end Engine

namespace EngineState

def name : EngineState -> String
  | idle => "Idle"
  | loading => "Loading"
  | ready _ => "Ready"
  | failed => "Failed"

def describe (state : EngineState) : String :=
  match state with
  | ready engine => Description.applied state.name engine.describe
  | _ => state.name

end EngineState

namespace Message

/-- A message with the number of its ranges, or with the failure. -/
def describe : Message -> String
  | engineLoaded (.ok _) =>
      Description.applied "EngineLoaded"
        (Description.applied "Ok" (QuotedText.encode "engine"))
  | engineLoaded (.error fault) =>
      Description.applied "EngineLoaded" (Description.applied "Err" fault.describe)
  | passCompleted revision ranges _ =>
      Description.record "PassCompleted"
        [("revision", toString revision), ("ranges", toString ranges.length)]

end Message

namespace Scheduler

/-- A scheduler with the number of its active ranges. -/
def describe (scheduler : Scheduler) : String :=
  let languages := scheduler.languages.map QuotedText.encode
  Description.record "HighlightScheduler"
    [("state", scheduler.engine.describe),
      ("languages", "[" ++ Description.commaSeparated languages ++ "]"),
      ("revision", toString scheduler.revision),
      ("applied", toString scheduler.applied),
      ("active", toString scheduler.active.length)]

end Scheduler

end FencedHighlight
