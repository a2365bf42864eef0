import FencedHighlight.Scheduler

namespace FencedHighlight

/-!
Schedulers together with the work that they have started.

Tasks run beside the scheduler and leave their messages in its inbox, where
they wait in the order of their arrival.
-/

/-- A scheduler, its unfinished tasks and the messages that wait for it. -/
structure Session where
  scheduler : Scheduler
  /-- The revision that the counter shows to the passes. -/
  latest : Nat := 0
  tasks : List Task := []
  inbox : List Message := []
  /-- The passes that have come to a broken span.  They leave no message. -/
  broken : List Pass := []
  /-- The number of blocks that finished passes have highlighted. -/
  highlighted : Nat := 0

namespace Session

def perform (session : Session) : Effect -> Session
  | .publish revision => { session with latest := revision }
  | .start task => { session with tasks := session.tasks ++ [task] }

/-- Take over a step of the scheduler, with all that it does besides. -/
def apply (session : Session) (update : Update) : Session :=
  update.effects.foldl perform { session with scheduler := update.scheduler }

/-- Handle messages in order; and whether one has replaced the active ranges. -/
def handleAll (session : Session) : List Message -> Session × Bool
  | [] => (session, false)
  | message :: rest =>
      let update := session.scheduler.handle message
      let (session, changed) := handleAll (session.apply update) rest
      (session, update.changed || changed)

/-- Handle one message that has not come through the inbox. -/
def handle (session : Session) (message : Message) : Session × Bool :=
  session.handleAll [message]

def processMessages (session : Session) : Session × Bool :=
  handleAll { session with inbox := [] } session.inbox

def isLoad : Task -> Bool
  | .load => true
  | .pass _ _ => false

/-- The pass of a task, if it is for this revision. -/
def passFor? (revision : Nat) : Task -> Option Pass
  | .load => none
  | .pass pass _ => if pass.revision = revision then some pass else none

/-- Finish the load that is under way, if there is one, with this result. -/
def finishLoad (session : Session) (result : Except HighlightError Engine) : Session :=
  if session.tasks.any isLoad then
    { session with
      tasks := session.tasks.filter fun task => !isLoad task
      inbox := session.inbox ++ [.engineLoaded result] }
  else
    session

/-- Finish the pass for the revision on the counter, if there is one.  All other
passes have been superseded and are given up. -/
def finishPass (session : Session) : Session :=
  let loads := session.tasks.filter isLoad
  match session.tasks.findSome? (passFor? session.latest) with
  | none => { session with tasks := loads }
  | some pass =>
      match pass.run fun _ => some session.latest with
      | .ok result =>
          { session with
            tasks := loads
            inbox := session.inbox ++
              [.passCompleted pass.revision result.ranges result.record.cache]
            highlighted := session.highlighted + result.record.highlighted }
      | .error .broken => { session with tasks := loads, broken := session.broken ++ [pass] }
      | .error _ => { session with tasks := loads }

/-- Wait until the scheduler is settled, and tell whether it is.  A load that is
under way comes to its end only if its result is given. -/
def settle (session : Session) (loaded : Option (Except HighlightError Engine)) :
    Session × Bool :=
  let session := match loaded with
    | some result => session.finishLoad result
    | none => session
  let session := session.processMessages.1
  let session :=
    if session.scheduler.isSettled then session
    else session.finishPass.processMessages.1
  (session, session.scheduler.isSettled)

end Session

end FencedHighlight
