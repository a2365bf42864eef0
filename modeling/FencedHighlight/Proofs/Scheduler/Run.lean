import FencedHighlight.Proofs.Registry.History
import FencedHighlight.Scheduler.Session

namespace FencedHighlight

/-!
Runs of a session.

A session goes on by requests from outside, by tasks that come to an end, and by
messages that are handled.  Any of these may happen in any order.  What the scheduler
does besides changing itself takes time: while it publishes a revision and starts a
pass, other passes go on.  Whenever a pass looks at the newest revision, it is shown
what has been published by then.
-/

namespace Scheduler

/-- What is asked of a scheduler from outside. -/
inductive Request where
  | changeDocument (text : Text)
  | changeViewport
  | registerLanguage (language : String) (inner : List Grammar) (grammar : Grammar)
  | addGrammar (name : String) (inner : List Grammar) (grammar : Grammar)
  | enableLanguage (language : String)
  | disableLanguage (language : String)
  | changeRegistry (operation : Registry.Operation)

/-- Keep grammars that the rules of a grammar refer to. -/
def keep (scheduler : Scheduler) (grammars : List Grammar) : Scheduler :=
  { scheduler with registry := scheduler.registry.keep grammars }

/-- Do what is asked.  A language without a grammar is not enabled. -/
def perform (scheduler : Scheduler) : Request -> Update
  | .changeDocument text => scheduler.changeDocument text
  | .changeViewport => scheduler.changeViewport
  | .registerLanguage language inner grammar =>
      { scheduler := (scheduler.keep inner).registerLanguage language grammar }
  | .addGrammar name inner grammar =>
      { scheduler := (scheduler.keep inner).addGrammar name grammar }
  | .enableLanguage language =>
      { scheduler := (scheduler.enableLanguage language).toOption.getD scheduler }
  | .disableLanguage language => { scheduler := scheduler.disableLanguage language }
  | .changeRegistry operation =>
      { scheduler := { scheduler with registry := scheduler.registry.after operation } }

/-- Whether a scheduler differs from another one only in what the next pass will
work on, and its registry is the same or comes by an operation. -/
structure Prepared (before after : Scheduler) : Prop where
  engine : after.engine = before.engine
  revision : after.revision = before.revision
  applied : after.applied = before.applied
  active : after.active = before.active
  cache : after.cache = before.cache
  registry : after.registry = before.registry ∨
    ∃ operation, after.registry = before.registry.after operation

theorem Prepared.refl (scheduler : Scheduler) : Prepared scheduler scheduler :=
  ⟨rfl, rfl, rfl, rfl, rfl, Or.inl rfl⟩

theorem prepared_enable {before after : Scheduler} (prepared : Prepared before after)
    (language : String) : Prepared before (after.enable language) := by
  unfold enable
  split
  · exact prepared
  · exact ⟨prepared.engine, prepared.revision, prepared.applied, prepared.active,
      prepared.cache, prepared.registry⟩

theorem prepared_addGrammar (scheduler : Scheduler) (name : String)
    (inner : List Grammar) (grammar : Grammar) :
    Prepared scheduler ((scheduler.keep inner).addGrammar name grammar) :=
  ⟨rfl, rfl, rfl, rfl, rfl, Or.inr ⟨.register name inner grammar, rfl⟩⟩

theorem prepared_enableLanguage (scheduler : Scheduler) (language : String) :
    Prepared scheduler ((scheduler.enableLanguage language).toOption.getD scheduler) := by
  unfold enableLanguage
  split
  · exact prepared_enable (Prepared.refl scheduler) language
  · exact Prepared.refl scheduler

/-- A request prepares the next pass, and may count as a change. -/
theorem perform_cases (scheduler : Scheduler) (request : Request) :
    ∃ after, Prepared scheduler after ∧
      (scheduler.perform request = { scheduler := after } ∨
        scheduler.perform request = after.noteChange) := by
  cases request with
  | changeDocument text =>
      exact ⟨{ scheduler with document := text },
        ⟨rfl, rfl, rfl, rfl, rfl, Or.inl rfl⟩, Or.inr rfl⟩
  | changeViewport => exact ⟨scheduler, Prepared.refl scheduler, Or.inr rfl⟩
  | registerLanguage language inner grammar =>
      have added := prepared_addGrammar scheduler language inner grammar
      exact ⟨_, prepared_enable added language, Or.inl rfl⟩
  | addGrammar name inner grammar =>
      exact ⟨_, prepared_addGrammar scheduler name inner grammar, Or.inl rfl⟩
  | enableLanguage language =>
      exact ⟨_, prepared_enableLanguage scheduler language, Or.inl rfl⟩
  | disableLanguage language =>
      exact ⟨scheduler.disableLanguage language,
        ⟨rfl, rfl, rfl, rfl, rfl, Or.inl rfl⟩, Or.inl rfl⟩
  | changeRegistry operation =>
      exact ⟨{ scheduler with registry := scheduler.registry.after operation },
        ⟨rfl, rfl, rfl, rfl, rfl, Or.inr ⟨operation, rfl⟩⟩, Or.inl rfl⟩

/-- The scheduler with one more revision. -/
def advance (scheduler : Scheduler) : Scheduler :=
  { scheduler with revision := scheduler.revision + 1 }

theorem noteChange_of_idle {scheduler : Scheduler} (state : scheduler.engine = .idle) :
    scheduler.noteChange =
      { scheduler := { scheduler.advance with engine := .loading }
        effects := [.publish scheduler.advance.revision, .start .load] } := by
  simp only [noteChange, state, advance]

theorem noteChange_of_waiting {scheduler : Scheduler}
    (state : scheduler.engine = .loading ∨ scheduler.engine = .failed) :
    scheduler.noteChange =
      { scheduler := scheduler.advance, effects := [.publish scheduler.advance.revision] } := by
  rcases state with state | state <;> simp only [noteChange, state, advance]

theorem noteChange_of_ready {scheduler : Scheduler} {engine : Engine}
    (state : scheduler.engine = .ready engine) :
    scheduler.noteChange =
      { scheduler := scheduler.advance
        effects := [.publish scheduler.advance.revision,
          .start (.pass (scheduler.advance.pass engine) [])] } := by
  simp only [noteChange, state, advance]

/-- The first engine is taken over, and follows what has changed meanwhile. -/
theorem handle_engine {scheduler : Scheduler} (state : scheduler.engine = .loading)
    (engine : Engine) :
    scheduler.handle (.engineLoaded (.ok engine)) =
      { scheduler := { scheduler with engine := .ready engine }
        effects := if scheduler.applied < scheduler.revision then
          [.start (.pass (pass { scheduler with engine := .ready engine } engine) [])] else [] } := by
  simp only [handle, state]
  split <;> rfl

/-- An engine that nobody waits for is ignored. -/
theorem handle_unasked {scheduler : Scheduler} (unasked : scheduler.engine ≠ .loading)
    (engine : Engine) : scheduler.handle (.engineLoaded (.ok engine)) = { scheduler } := by
  simp only [handle]

theorem handle_stale {scheduler : Scheduler} {revision : Nat}
    (stale : scheduler.isStale revision = true) (ranges : List StyleRange)
    (cache : BlockCache) :
    scheduler.handle (.passCompleted revision ranges cache) = { scheduler } := by
  simp only [handle, stale, if_true]

theorem handle_fresh {scheduler : Scheduler} {revision : Nat}
    (fresh : scheduler.isStale revision = false) (ranges : List StyleRange)
    (cache : BlockCache) :
    scheduler.handle (.passCompleted revision ranges cache) =
      { scheduler := { scheduler with active := ranges, cache, applied := revision }
        changed := true } := by
  simp only [handle, fresh, Bool.false_eq_true, if_false]

theorem isStale_iff (scheduler : Scheduler) (revision : Nat) :
    scheduler.isStale revision = true ↔
      revision < scheduler.revision ∨ revision ≤ scheduler.applied := by
  unfold isStale
  rw [Bool.or_eq_true, decide_eq_true_eq, decide_eq_true_eq]

theorem isStale_eq_false_iff (scheduler : Scheduler) (revision : Nat) :
    scheduler.isStale revision = false ↔
      scheduler.revision ≤ revision ∧ scheduler.applied < revision := by
  rw [← Bool.not_eq_true, isStale_iff]
  omega

end Scheduler

/-- What a loader gives: an engine for some settings, or none. -/
inductive Loaded : Except HighlightError Engine -> Prop where
  | engine (settings : Settings) : Loaded (.ok (Engine.ofSettings settings))
  | failure (fault : HighlightError) : Loaded (.error fault)

/-- What a pass has come to when its looks have shown these revisions. -/
def Pass.outcome (pass : Pass) (seen : List Nat) : Except PassStop PassResult :=
  pass.run fun look => seen[look]?

namespace Session

/-- A session at any moment, also in the middle of a step of the scheduler. -/
structure Ongoing extends Session where
  /-- What the scheduler has still to do in its step. -/
  pending : List Effect := []

namespace Ongoing

/-- The session after the scheduler has changed in a step. -/
def undertake (session : Ongoing) (update : Update) : Ongoing :=
  { session with scheduler := update.scheduler, pending := update.effects }

/-- Nothing that the scheduler decides. -/
def rest (session : Ongoing) : Update :=
  { scheduler := session.scheduler }

end Ongoing

/-- One step of a session, with what the scheduler decides in it.  The scheduler takes
on nothing new before it has done all that it has decided before. -/
inductive Step : Ongoing -> Update -> Ongoing -> Prop where
  | request {session : Ongoing} (done : session.pending = []) (request : Scheduler.Request) :
      Step session (session.scheduler.perform request)
        (session.undertake (session.scheduler.perform request))
  | handle {session : Ongoing} {before after : List Message} {message : Message}
      (done : session.pending = []) (waiting : session.inbox = before ++ message :: after) :
      Step session (session.scheduler.handle message)
        (Ongoing.undertake { session with inbox := before ++ after }
          (session.scheduler.handle message))
  | perform {session : Ongoing} {effect : Effect} {later : List Effect}
      (next : session.pending = effect :: later) :
      Step session session.rest
        { toSession := session.toSession.perform effect, pending := later }
  | finishLoad {session : Ongoing} {before after : List Task}
      {result : Except HighlightError Engine}
      (running : session.tasks = before ++ .load :: after) (loaded : Loaded result) :
      Step session session.rest
        { session with
          tasks := before ++ after
          inbox := session.inbox ++ [.engineLoaded result] }
  | look {session : Ongoing} {before after : List Task} {pass : Pass} {seen : List Nat}
      (running : session.tasks = before ++ .pass pass seen :: after)
      (looking : pass.outcome seen = .error .looking) :
      Step session session.rest
        { session with tasks := before ++ .pass pass (seen ++ [session.latest]) :: after }
  | finishPass {session : Ongoing} {before after : List Task} {pass : Pass} {seen : List Nat}
      {result : PassResult} (running : session.tasks = before ++ .pass pass seen :: after)
      (ends : pass.outcome seen = .ok result) :
      Step session session.rest
        { session with
          tasks := before ++ after
          inbox := session.inbox ++
            [.passCompleted pass.revision result.ranges result.record.cache]
          highlighted := session.highlighted + result.record.highlighted }
  | abandonPass {session : Ongoing} {before after : List Task} {pass : Pass} {seen : List Nat}
      (running : session.tasks = before ++ .pass pass seen :: after)
      (superseded : pass.outcome seen = .error .superseded) :
      Step session session.rest { session with tasks := before ++ after }
  | breakPass {session : Ongoing} {before after : List Task} {pass : Pass} {seen : List Nat}
      (running : session.tasks = before ++ .pass pass seen :: after)
      (breaks : pass.outcome seen = .error .broken) :
      Step session session.rest
        { session with tasks := before ++ after, broken := session.broken ++ [pass] }

/-- Runs that begin with a new scheduler over some registry.  The updates of all
steps are kept, newest first. -/
inductive Run (registry : Registry) : List Update -> Ongoing -> Prop where
  | start : Run registry [] { scheduler := { registry } }
  | step {updates : List Update} {session next : Ongoing} {update : Update}
      (run : Run registry updates session) (step : Step session update next) :
      Run registry (update :: updates) next

@[simp]
theorem scheduler_perform (session : Session) (effect : Effect) :
    (session.perform effect).scheduler = session.scheduler := by
  cases effect <;> rfl

@[simp]
theorem inbox_perform (session : Session) (effect : Effect) :
    (session.perform effect).inbox = session.inbox := by
  cases effect <;> rfl

@[simp]
theorem broken_perform (session : Session) (effect : Effect) :
    (session.perform effect).broken = session.broken := by
  cases effect <;> rfl

/-- Besides changing itself, a scheduler changes the counter and the tasks alone. -/
theorem exists_foldl_perform (effects : List Effect) (session : Session) :
    ∃ latest tasks, effects.foldl perform session = { session with latest, tasks } := by
  induction effects generalizing session with
  | nil => exact ⟨session.latest, session.tasks, rfl⟩
  | cons effect later ih =>
      rcases ih (session.perform effect) with ⟨latest, tasks, same⟩
      refine ⟨latest, tasks, same.trans ?_⟩
      cases effect <;> rfl

theorem exists_apply_eq (session : Session) (update : Update) :
    ∃ latest tasks, session.apply update =
      { session with scheduler := update.scheduler, latest, tasks } :=
  exists_foldl_perform update.effects { session with scheduler := update.scheduler }

theorem scheduler_apply (session : Session) (update : Update) :
    (session.apply update).scheduler = update.scheduler := by
  rcases exists_apply_eq session update with ⟨latest, tasks, same⟩
  rw [same]

/-- The update of a step tells the scheduler after it. -/
theorem Step.scheduler_eq {session next : Ongoing} {update : Update}
    (step : Step session update next) : next.scheduler = update.scheduler := by
  cases step with
  | perform next => exact scheduler_perform _ _
  | _ => rfl

end Session

/-! ## Work under way -/

/-- What a step of a scheduler starts. -/
def Effect.task? : Effect -> Option Task
  | .publish _ => none
  | .start task => some task

def Task.pass? : Task -> Option Pass
  | .load => none
  | .pass started _ => some started

/-- The tasks that an update starts. -/
def Update.tasks (update : Update) : List Task :=
  update.effects.filterMap Effect.task?

/-- The passes that an update starts. -/
def Update.passes (update : Update) : List Pass :=
  update.tasks.filterMap Task.pass?

/-- Work that is under way, be it a task or the message that it has left. -/
inductive Job where
  | load
  | pass (revision : Nat)
deriving DecidableEq

/-- What a task works on. -/
def Task.job : Task -> Job
  | .load => .load
  | .pass started _ => .pass started.revision

/-- What a message reports on. -/
def Message.job : Message -> Job
  | .engineLoaded _ => .load
  | .passCompleted revision _ _ => .pass revision

namespace Session
namespace Ongoing

/-- The tasks that are being started, and those that have been. -/
def underway (session : Ongoing) : List Task :=
  session.pending.filterMap Effect.task? ++ session.tasks

/-- The passes among these tasks. -/
def passes (session : Ongoing) : List Pass :=
  session.underway.filterMap Task.pass?

/-- All work under way. -/
def jobs (session : Ongoing) : List Job :=
  session.underway.map Task.job ++ session.inbox.map Message.job

/-- All work under way, and the work that has been lost on broken spans. -/
def entries (session : Ongoing) : List Job :=
  session.jobs ++ session.broken.map fun pass => .pass pass.revision

variable {session : Ongoing} {before after : List Task}

/-- A step of the scheduler adds the jobs that it starts. -/
theorem entries_undertake (done : session.pending = []) (update : Update) :
    (session.undertake update).entries = update.tasks.map Task.job ++ session.entries := by
  unfold entries jobs underway undertake Update.tasks
  simp only [done, List.filterMap_nil, List.nil_append, List.map_append, List.append_assoc]

/-- To start a task makes it a task and no other job. -/
theorem underway_perform {effect : Effect} {later : List Effect}
    (next : session.pending = effect :: later) :
    (underway { toSession := session.toSession.perform effect, pending := later }).Perm
      session.underway := by
  unfold underway
  rw [next]
  cases effect with
  | publish revision => exact List.Perm.refl _
  | start task =>
      change (_ ++ (session.tasks ++ [task])).Perm (task :: _ ++ session.tasks)
      rw [← List.append_assoc]
      exact List.perm_append_singleton _ _

theorem entries_perform {effect : Effect} {later : List Effect}
    (next : session.pending = effect :: later) :
    (entries { toSession := session.toSession.perform effect, pending := later }).Perm
      session.entries := by
  unfold entries jobs
  simp only [inbox_perform, broken_perform]
  exact (((underway_perform next).map _).append_right _).append_right _

/-- A task that is left is under way no longer. -/
theorem underway_leave {task : Task} (running : session.tasks = before ++ task :: after) :
    session.underway.Perm (task :: underway { session with tasks := before ++ after }) := by
  unfold underway
  rw [running]
  simp only [← List.append_assoc]
  exact List.perm_middle

theorem entries_leave {task : Task} (running : session.tasks = before ++ task :: after) :
    session.entries.Perm (task.job :: entries { session with tasks := before ++ after }) := by
  unfold entries jobs
  exact (((underway_leave running).map _).append_right _).append_right _

/-- A task that ends with a message remains a job. -/
theorem entries_finish {task : Task} {message : Message}
    (running : session.tasks = before ++ task :: after) (same : message.job = task.job)
    (highlighted : Nat) :
    (entries { session with
      tasks := before ++ after
      inbox := session.inbox ++ [message]
      highlighted }).Perm session.entries := by
  refine List.Perm.trans ?_ (entries_leave running).symm
  unfold entries jobs underway
  simp only [List.map_append, List.map_cons, List.map_nil, same, ← List.append_assoc]
  exact (List.perm_append_singleton _ _).append_right _

/-- A pass that comes to a broken span is lost, but remains an entry. -/
theorem entries_break {pass : Pass} {seen : List Nat}
    (running : session.tasks = before ++ .pass pass seen :: after) :
    (entries { session with
      tasks := before ++ after
      broken := session.broken ++ [pass] }).Perm session.entries := by
  refine List.Perm.trans ?_ (entries_leave running).symm
  unfold entries jobs underway
  simp only [List.map_append, List.map_cons, List.map_nil, ← List.append_assoc]
  exact List.perm_append_singleton _ _

/-- A look does not change what a task works on. -/
theorem entries_look {task other : Task} (running : session.tasks = before ++ task :: after)
    (same : other.job = task.job) :
    entries { session with tasks := before ++ other :: after } = session.entries := by
  unfold entries jobs underway
  simp only [running, List.map_append, List.map_cons, same]

/-- A message that is taken in is a job no longer. -/
theorem entries_take {before after : List Message} {message : Message}
    (waiting : session.inbox = before ++ message :: after) :
    session.entries.Perm (message.job :: entries { session with inbox := before ++ after }) := by
  unfold entries jobs underway
  simp only [waiting, List.map_append, List.map_cons, ← List.append_assoc]
  exact List.perm_middle.append_right _

end Ongoing
end Session

end FencedHighlight
