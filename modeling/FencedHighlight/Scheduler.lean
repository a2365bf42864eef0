import FencedHighlight.Scheduler.Pass

namespace FencedHighlight

/-!
The scheduler of a document.

The scheduler keeps the ranges of a document current while it is being edited.
Every change counts as a new revision.  The first change has an engine loaded;
with an engine, each change starts a pass.  Loads and passes run elsewhere and
report back by messages, in any order.  Only the result of a pass for the
newest revision is taken over, and it replaces the ranges as a whole.

Passes do not see the scheduler.  They see a counter, on which each change
publishes its revision before it starts a pass.
-/

/-- Whether there is an engine. -/
inductive EngineState where
  /-- Nothing has changed so far. -/
  | idle
  | loading
  | ready (engine : Engine)
  /-- The engine could not be loaded. -/
  | failed

/-- What is reported to a scheduler. -/
inductive Message where
  | engineLoaded (result : Except HighlightError Engine)
  | passCompleted (revision : Nat) (ranges : List StyleRange) (cache : BlockCache)

/-- What a scheduler has done elsewhere. -/
inductive Task where
  | load
  /-- A pass, with the revisions that its looks have shown so far. -/
  | pass (pass : Pass) (seen : List Nat)

/-- What a step of a scheduler does besides changing the scheduler. -/
inductive Effect where
  /-- Let the counter show a revision. -/
  | publish (revision : Nat)
  | start (task : Task)

/-- The state of a document that is kept highlighted. -/
structure Scheduler where
  engine : EngineState := .idle
  registry : Registry := {}
  /-- The languages whose blocks are highlighted, in the order of enabling. -/
  languages : List String := []
  document : Text := []
  /-- The number of changes, which is taken to fit into 64 bits. -/
  revision : Nat := 0
  /-- The revision that the active ranges are for. -/
  applied : Nat := 0
  active : List StyleRange := []
  cache : BlockCache := {}
  /-- Why the engine could not be loaded. -/
  loadError : Option String := none

/-- What becomes of a scheduler in a step. -/
structure Update where
  scheduler : Scheduler
  /-- What the step does besides, in this order. -/
  effects : List Effect := []
  /-- Whether the step has replaced the active ranges. -/
  changed : Bool := false

namespace Scheduler

/-- Enable a language, unless it is enabled. -/
def enable (scheduler : Scheduler) (language : String) : Scheduler :=
  if scheduler.languages.contains language then
    scheduler
  else
    { scheduler with languages := scheduler.languages ++ [language] }

/-- Register a grammar without highlighting its blocks. -/
def addGrammar (scheduler : Scheduler) (name : String) (grammar : Grammar) : Scheduler :=
  { scheduler with registry := scheduler.registry.register name grammar }

/-- Register a grammar and highlight its blocks from the next pass on. -/
def registerLanguage (scheduler : Scheduler) (language : String) (grammar : Grammar) :
    Scheduler :=
  (scheduler.addGrammar language grammar).enable language

/-- Highlight the blocks of a registered grammar from the next pass on. -/
def enableLanguage (scheduler : Scheduler) (language : String) :
    Except HighlightError Scheduler :=
  if scheduler.registry.contains language then
    .ok (scheduler.enable language)
  else
    .error (.grammarNotFound language)

/-- Highlight the blocks of a language no longer.  Its grammar stays. -/
def disableLanguage (scheduler : Scheduler) (language : String) : Scheduler :=
  { scheduler with languages := scheduler.languages.filter fun other => other != language }

def pass (scheduler : Scheduler) (engine : Engine) : Pass :=
  { revision := scheduler.revision
    engine
    registry := scheduler.registry
    languages := scheduler.languages
    document := scheduler.document
    previous := scheduler.cache }

/-- Count a change, publish its revision, and start what it takes to follow it. -/
def noteChange (scheduler : Scheduler) : Update :=
  let scheduler := { scheduler with revision := scheduler.revision + 1 }
  let publish : Effect := .publish scheduler.revision
  match scheduler.engine with
  | .idle =>
      { scheduler := { scheduler with engine := .loading }
        effects := [publish, .start .load] }
  | .loading | .failed => { scheduler, effects := [publish] }
  | .ready engine =>
      { scheduler, effects := [publish, .start (.pass (scheduler.pass engine) [])] }

def changeDocument (scheduler : Scheduler) (text : Text) : Update :=
  noteChange { scheduler with document := text }

def changeViewport (scheduler : Scheduler) : Update :=
  scheduler.noteChange

/-- Whether the result of a pass has been overtaken, by a change or by the
result of another pass. -/
def isStale (scheduler : Scheduler) (revision : Nat) : Bool :=
  revision < scheduler.revision || revision ≤ scheduler.applied

def handle (scheduler : Scheduler) : Message -> Update
  | .engineLoaded (.ok engine) =>
      match scheduler.engine with
      | .loading =>
          let scheduler := { scheduler with engine := .ready engine }
          if scheduler.applied < scheduler.revision then
            { scheduler, effects := [.start (.pass (scheduler.pass engine) [])] }
          else
            { scheduler }
      | _ => { scheduler }
  | .engineLoaded (.error fault) =>
      { scheduler :=
          { scheduler with
            engine := .failed
            active := []
            loadError := some fault.message }
        changed := !scheduler.active.isEmpty }
  | .passCompleted revision ranges cache =>
      if scheduler.isStale revision then
        { scheduler }
      else
        { scheduler :=
            { scheduler with active := ranges, cache, applied := revision }
          changed := true }

/-- Whether the newest change has been followed, or never will be. -/
def isSettled (scheduler : Scheduler) : Bool :=
  match scheduler.engine with
  | .idle => scheduler.revision == 0
  | .loading => false
  | .ready _ => scheduler.applied == scheduler.revision
  | .failed => true

end Scheduler

end FencedHighlight
