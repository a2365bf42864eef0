import FencedHighlight.Proofs.Scheduler.Settling

namespace FencedHighlight
namespace Session

/-!
What a session does is a run.

The operations of a session take one of the orders in which tasks may end and messages
may be handled: each step of the scheduler at once, messages as they have arrived, and of
the passes only the newest one, which then makes all its looks.  So all that holds of runs
holds of sessions that go on by these operations.
-/

open Scheduler (Ledger)

variable {registry : Registry} {updates : List Update} {session : Session}
  {before after : List Task} {pass : Pass}

/-- A session between two steps of its scheduler. -/
def ongoing (session : Session) : Ongoing :=
  { toSession := session }

/-- Whether no pass among these tasks has looked yet. -/
def Unlooked (tasks : List Task) : Prop :=
  ∀ pass seen, .pass pass seen ∈ tasks -> seen = []

theorem perform_inbox (session : Session) (inbox : List Message) (effect : Effect) :
    perform { session with inbox } effect = { session.perform effect with inbox } := by
  cases effect <;> rfl

theorem foldl_inbox (effects : List Effect) (session : Session) (inbox : List Message) :
    effects.foldl perform { session with inbox } =
      { effects.foldl perform session with inbox } := by
  induction effects generalizing session with
  | nil => rfl
  | cons effect later ih =>
      rw [List.foldl_cons, perform_inbox]
      exact ih (session.perform effect)

/-- What the scheduler does besides does not depend on the messages that wait for it. -/
theorem apply_inbox (session : Session) (inbox : List Message) (update : Update) :
    apply { session with inbox } update = { session.apply update with inbox } :=
  foldl_inbox update.effects { session with scheduler := update.scheduler } inbox

/-- The scheduler does what it has decided. -/
theorem exists_run_effects {effects : List Effect}
    (run : Run registry updates { toSession := session, pending := effects }) :
    ∃ more, Run registry (more ++ updates) (effects.foldl perform session).ongoing := by
  induction effects generalizing session updates with
  | nil => exact ⟨[], run⟩
  | cons effect later ih =>
      rcases ih (run.step (.perform rfl)) with ⟨more, done⟩
      exact ⟨more ++ [_], List.append_cons more _ updates ▸ done⟩

/-- A message is handled, and all is done that the scheduler decides upon it. -/
theorem exists_run_handle {message : Message} {rest : List Message}
    (run : Run registry updates (ongoing { session with inbox := message :: rest })) :
    ∃ more, Run registry (more ++ updates)
      (ongoing { session.apply (session.scheduler.handle message) with inbox := rest }) := by
  have decided := run.step (@Step.handle _ [] rest message rfl rfl)
  rcases exists_run_effects decided with ⟨doing, done⟩
  rw [← apply_inbox]
  exact ⟨doing ++ [_], List.append_cons doing _ updates ▸ done⟩

/-- Messages that are handled in order are handled one after the other. -/
theorem exists_run_handleAll {messages : List Message}
    (run : Run registry updates (ongoing { session with inbox := messages })) :
    ∃ more, Run registry (more ++ updates)
      (ongoing (handleAll { session with inbox := [] } messages).1) := by
  induction messages generalizing session updates with
  | nil => exact ⟨[], run⟩
  | cons message rest ih =>
      rcases exists_run_handle run with ⟨doing, done⟩
      rcases ih done with ⟨more, later⟩
      rw [← apply_inbox, ← List.append_assoc] at later
      exact ⟨more ++ doing, later⟩

theorem exists_run_processMessages (run : Run registry updates session.ongoing) :
    ∃ more, Run registry (more ++ updates) session.processMessages.1.ongoing :=
  exists_run_handleAll run

/-- The load that is under way is the only task. -/
theorem tasks_of_load (ledger : session.scheduler.Ledger session.ongoing.entries)
    (running : .load ∈ session.tasks) : session.tasks = [.load] := by
  have listed : Job.load ∈ session.tasks.map Task.job := List.mem_map_of_mem running
  have member : Job.load ∈ session.ongoing.entries :=
    List.mem_append_left _ (List.mem_append_left _ listed)
  have only := (ledger.loading_of_load member).2.1
  rcases List.append_of_mem running with ⟨before, after, split⟩
  have length := congrArg List.length only
  unfold Ongoing.entries Ongoing.jobs Ongoing.underway ongoing at length
  simp only [split, List.filterMap_nil, List.nil_append, List.length_append, List.length_map,
    List.length_cons, List.length_nil] at length
  have first : before = [] := List.length_eq_zero_iff.mp (by omega)
  have last : after = [] := List.length_eq_zero_iff.mp (by omega)
  rw [split, first, last]
  rfl

theorem exists_run_finishLoad (run : Run registry updates session.ongoing)
    {result : Except HighlightError Engine} (loaded : Loaded result) :
    ∃ more, Run registry (more ++ updates) (session.finishLoad result).ongoing := by
  unfold finishLoad
  by_cases running : session.tasks.any isLoad = true
  · rcases List.any_eq_true.mp running with ⟨task, member, load⟩
    cases task with
    | pass pass seen => cases load
    | load =>
        have only : session.tasks = [.load] := tasks_of_load (ledger_of_run run) member
        rw [if_pos running, only]
        exact ⟨[_], run.step (@Step.finishLoad _ [] [] _ only loaded)⟩
  · rw [if_neg running]
    exact ⟨[], run⟩

/-! ## Finishing a pass -/

/-- The pass of a task for a revision is found only in a task that is one. -/
theorem passFor?_eq_some {revision : Nat} {task : Task} :
    passFor? revision task = some pass ↔
      (∃ seen, task = .pass pass seen) ∧ pass.revision = revision := by
  cases task with
  | load =>
      simp only [passFor?, reduceCtorEq, exists_false, false_and]
  | pass other seen =>
      simp only [passFor?, Task.pass.injEq]
      by_cases same : other.revision = revision
      · rw [if_pos same, Option.some.injEq]
        constructor
        · rintro rfl
          exact ⟨⟨seen, rfl, rfl⟩, same⟩
        · exact fun found => found.1.choose_spec.1
      · rw [if_neg same]
        constructor
        · intro impossible
          cases impossible
        · rintro ⟨⟨_, rfl, _⟩, newest⟩
          exact absurd newest same

/-- Whether a task is still of use: it is a load, or a pass for this revision. -/
def isCurrent (revision : Nat) (task : Task) : Bool :=
  isLoad task || (passFor? revision task).isSome

theorem eq_pass_of_not_current {revision : Nat} {task : Task}
    (unused : ¬ isCurrent revision task = true) :
    ∃ pass seen, task = .pass pass seen ∧ revision ≠ pass.revision := by
  cases task with
  | load => exact absurd rfl unused
  | pass pass seen =>
      refine ⟨pass, seen, rfl, ?_⟩
      intro newest
      apply unused
      simp only [isCurrent, isLoad, passFor?, if_pos newest.symm, Option.isSome_some,
        Bool.or_true]

theorem outcome_nil (pass : Pass) : pass.outcome [] = .error .looking :=
  rfl

/-- A pass that sees another revision at its first look gives up. -/
theorem outcome_of_other {revision : Nat} (other : revision ≠ pass.revision) :
    pass.outcome [revision] = .error .superseded := by
  unfold Pass.outcome Pass.run Pass.look
  simp only [List.getElem?_cons_zero, if_neg other]
  rfl

/-- All passes for other revisions than the one on the counter can be given up. -/
theorem exists_run_abandon (run : Run registry updates
      (ongoing { session with tasks := before ++ after })) (unlooked : Unlooked after) :
    ∃ more, Run registry (more ++ updates)
      (ongoing { session with tasks := before ++ after.filter (isCurrent session.latest) }) := by
  induction after generalizing before updates with
  | nil => exact ⟨[], run⟩
  | cons task rest ih =>
      have others : Unlooked rest :=
        fun pass seen running => unlooked pass seen (List.mem_cons_of_mem _ running)
      by_cases current : isCurrent session.latest task = true
      · rw [List.filter_cons, if_pos current, List.append_cons]
        rw [List.append_cons] at run
        exact ih run others
      · rw [List.filter_cons, if_neg current]
        rcases eq_pass_of_not_current current with ⟨pass, seen, rfl, other⟩
        rcases unlooked pass seen List.mem_cons_self with rfl
        have looked := run.step (.look rfl (outcome_nil pass))
        have dropped := looked.step (.abandonPass rfl (outcome_of_other other))
        rcases ih dropped others with ⟨more, later⟩
        rw [List.append_cons, List.append_cons] at later
        exact ⟨_, later⟩

/-- Without a pass for the newest revision, only loads are still of use. -/
theorem filter_isCurrent {revision : Nat} {tasks : List Task}
    (none : Job.pass revision ∉ tasks.map Task.job) :
    tasks.filter (isCurrent revision) = tasks.filter isLoad := by
  apply List.filter_congr
  intro task running
  cases task with
  | load => rfl
  | pass pass seen =>
      have other : pass.revision ≠ revision := by
        intro same
        apply none
        rw [← same]
        exact List.mem_map_of_mem running
      simp only [isCurrent, isLoad, passFor?, if_neg other, Option.isSome_none, Bool.or_false]

/-- Once the pass for the newest revision has ended, all others can be given up. -/
theorem exists_run_abandonAll (run : Run registry updates session.ongoing)
    (unlooked : Unlooked session.tasks)
    (none : Job.pass session.latest ∉ session.tasks.map Task.job) :
    ∃ more, Run registry (more ++ updates)
      (ongoing { session with tasks := session.tasks.filter isLoad }) := by
  rcases @exists_run_abandon registry updates session [] _ run unlooked with ⟨more, later⟩
  rw [List.nil_append, filter_isCurrent none] at later
  exact ⟨more, later⟩

/-- There is no second pass for the newest revision. -/
theorem not_mem_of_split {session : Ongoing} {seen : List Nat}
    (ledger : session.scheduler.Ledger session.entries)
    (split : session.tasks = before ++ .pass pass seen :: after)
    (newest : pass.revision = session.scheduler.revision) :
    Job.pass session.scheduler.revision ∉ (before ++ after).map Task.job := by
  have taken := ledger.perm (Ongoing.entries_leave split)
  rcases taken.ready_of_pass List.mem_cons_self with ⟨engine, _, _, owed⟩
  intro member
  have left : Job.pass session.scheduler.revision ∈
      Ongoing.entries { session with tasks := before ++ after } := by
    refine List.mem_append_left _ (List.mem_append_left _ ?_)
    rw [Ongoing.underway, List.map_append]
    exact List.mem_append_right _ member
  have again := List.count_pos_iff.mpr left
  simp only [Task.job, newest, List.count_cons_self] at owed
  omega

/-- A pass for a revision is found if there is one. -/
theorem not_mem_of_missing {revision : Nat} {tasks : List Task}
    (missing : tasks.findSome? (passFor? revision) = none) :
    Job.pass revision ∉ tasks.map Task.job := by
  intro member
  rcases List.mem_map.mp member with ⟨task, running, same⟩
  have other := List.findSome?_eq_none_iff.mp missing task running
  cases task with
  | load => cases same
  | pass pass seen =>
      rw [passFor?_eq_some.mpr ⟨⟨seen, rfl⟩, Job.pass.inj same⟩] at other
      cases other

/-- The pass for the revision on the counter, with the tasks around it. -/
theorem split_of_found (unlooked : Unlooked session.tasks)
    (found : session.tasks.findSome? (passFor? session.latest) = some pass) :
    pass.revision = session.latest ∧
      ∃ before after, session.tasks = before ++ .pass pass [] :: after := by
  rcases List.findSome?_eq_some_iff.mp found with ⟨before, task, after, split, same, _⟩
  rcases passFor?_eq_some.mp same with ⟨⟨seen, rfl⟩, newest⟩
  have running : .pass pass seen ∈ session.tasks := by
    rw [split]
    exact List.mem_append_cons_self
  rcases unlooked pass seen running with rfl
  exact ⟨newest, before, after, split⟩

/-- The pass for the revision on the counter makes all its looks, and comes to its result
or to a broken span.  All others have been superseded. -/
theorem exists_run_finishPass (run : Run registry updates session.ongoing)
    (unlooked : Unlooked session.tasks) :
    ∃ more, Run registry (more ++ updates) session.finishPass.ongoing := by
  have current : session.latest = session.scheduler.revision :=
    (counted_of_run run).latest_eq rfl
  unfold finishPass
  cases found : session.tasks.findSome? (passFor? session.latest) with
  | none => exact exists_run_abandonAll run unlooked (not_mem_of_missing found)
  | some pass =>
      rcases split_of_found unlooked found with ⟨newest, before, after, split⟩
      rcases exists_run_looks run split with ⟨more, shown, same, ends, looked⟩
      have rested : Unlooked (before ++ after) :=
        fun pass seen running => unlooked pass seen (mem_of_mem_without split running)
      have unowed : Job.pass session.latest ∉ (before ++ after).map Task.job := by
        rw [current]
        exact not_mem_of_split (ledger_of_run looked) rfl (newest.trans current)
      have loads : session.tasks.filter isLoad = (before ++ after).filter isLoad := by
        rw [split, List.filter_append, List.filter_cons_of_neg Bool.false_ne_true,
          ← List.filter_append]
      have outcome : pass.run (fun _ => some session.latest) = pass.outcome shown := by
        refine Pass.run_of_kept ?_ ends
        intro look revision made
        exact congrArg some (same revision (List.mem_of_getElem? made)).symm
      simp only [outcome, loads]
      cases come : pass.outcome shown with
      | ok result =>
          have finished := looked.step (.finishPass rfl come)
          rcases @exists_run_abandonAll registry _ { session with
              tasks := before ++ after
              inbox := session.inbox ++
                [.passCompleted pass.revision result.ranges result.record.cache]
              highlighted := session.highlighted + result.record.highlighted }
            finished rested unowed with ⟨dropping, later⟩
          rw [List.append_cons, ← List.append_assoc] at later
          exact ⟨_, later⟩
      | error stop =>
          cases stop with
          | looking => exact absurd come ends
          | superseded =>
              rcases Pass.exists_look_of_superseded come with ⟨look, revision, made, other⟩
              exact absurd ((same revision (List.mem_of_getElem? made)).trans newest.symm) other
          | broken =>
              have broken := looked.step (.breakPass rfl come)
              rcases @exists_run_abandonAll registry _ { session with
                  tasks := before ++ after
                  broken := session.broken ++ [pass] }
                broken rested unowed with ⟨dropping, later⟩
              rw [List.append_cons, ← List.append_assoc] at later
              exact ⟨_, later⟩

/-! ## Waiting -/

/-- No step of a scheduler starts a pass that has looked. -/
theorem unlooked_apply {update : Update} {revision latest : Nat}
    (unlooked : Unlooked session.tasks) (tells : Tells revision latest update.effects) :
    Unlooked (session.apply update).tasks := by
  have performed : ∀ effects (session : Session) latest, Unlooked session.tasks ->
      Tells revision latest effects -> Unlooked (effects.foldl perform session).tasks := by
    intro effects
    induction effects with
    | nil => exact fun _ _ unlooked _ => unlooked
    | cons effect later ih =>
        intro session latest unlooked tells
        cases effect with
        | publish published => exact ih _ published unlooked tells.2
        | start task =>
            refine ih _ latest ?_ tells.2
            intro pass seen running
            rcases List.mem_append.mp running with old | new
            · exact unlooked pass seen old
            · exact (tells.1 pass seen (List.mem_singleton.mp new).symm).2
  exact performed update.effects { session with scheduler := update.scheduler } latest unlooked
    tells

theorem unlooked_handleAll {messages : List Message} (unlooked : Unlooked session.tasks) :
    Unlooked (session.handleAll messages).1.tasks := by
  induction messages generalizing session with
  | nil => exact unlooked
  | cons message rest ih =>
      exact ih (unlooked_apply unlooked (tells_handle session.scheduler message))

theorem unlooked_finishLoad {result : Except HighlightError Engine}
    (unlooked : Unlooked session.tasks) : Unlooked (session.finishLoad result).tasks := by
  unfold finishLoad
  split
  · exact fun pass seen running => unlooked pass seen (List.mem_filter.mp running).1
  · exact unlooked

/-- Once the load has had its time, the newest pass is awaited if it is owed. -/
theorem exists_run_settleNone (run : Run registry updates session.ongoing)
    (unlooked : Unlooked session.tasks) :
    ∃ more, Run registry (more ++ updates) (session.settle none).1.ongoing := by
  rcases exists_run_processMessages run with ⟨handling, handled⟩
  by_cases settled : session.processMessages.1.scheduler.isSettled = true
  · simp only [settle, if_pos settled]
    exact ⟨handling, handled⟩
  · have rested : Unlooked session.processMessages.1.tasks :=
      @unlooked_handleAll { session with inbox := [] } _ unlooked
    rcases exists_run_finishPass handled rested with ⟨finishing, finished⟩
    rcases exists_run_processMessages finished with ⟨taking, taken⟩
    simp only [settle, if_neg settled]
    refine ⟨taking ++ finishing ++ handling, ?_⟩
    simp only [List.append_assoc]
    exact taken

/-- Waiting for a scheduler is a run. -/
theorem exists_run_settle (run : Run registry updates session.ongoing)
    (unlooked : Unlooked session.tasks) {loaded : Option (Except HighlightError Engine)}
    (given : ∀ result, loaded = some result -> Loaded result) :
    ∃ more, Run registry (more ++ updates) (session.settle loaded).1.ongoing := by
  cases loaded with
  | none => exact exists_run_settleNone run unlooked
  | some result =>
      rcases exists_run_finishLoad run (given result rfl) with ⟨loading, finished⟩
      rcases exists_run_settleNone finished (unlooked_finishLoad unlooked) with ⟨settling, later⟩
      exact ⟨settling ++ loading, List.append_assoc settling loading updates ▸ later⟩

theorem inbox_apply (session : Session) (update : Update) :
    (session.apply update).inbox = session.inbox := by
  rcases exists_apply_eq session update with ⟨latest, tasks, same⟩
  rw [same]

theorem broken_apply (session : Session) (update : Update) :
    (session.apply update).broken = session.broken := by
  rcases exists_apply_eq session update with ⟨latest, tasks, same⟩
  rw [same]

theorem inbox_handleAll (session : Session) (messages : List Message) :
    (session.handleAll messages).1.inbox = session.inbox := by
  induction messages generalizing session with
  | nil => rfl
  | cons message rest ih => exact (ih _).trans (inbox_apply session _)

/-- No message starts the loader. -/
theorem load_not_mem_handle (scheduler : Scheduler) (message : Message) :
    .start .load ∉ (scheduler.handle message).effects := by
  intro starts
  cases message with
  | engineLoaded result =>
      cases result with
      | error fault => cases starts
      | ok engine =>
          by_cases state : scheduler.engine = .loading
          · rw [Scheduler.handle_engine state] at starts
            by_cases behind : scheduler.applied < scheduler.revision
            · simp only [if_pos behind] at starts
              cases List.mem_singleton.mp starts
            · simp only [if_neg behind] at starts
              cases starts
          · rw [Scheduler.handle_unasked state] at starts
            cases starts
  | passCompleted revision ranges cache =>
      cases stale : scheduler.isStale revision with
      | true =>
          rw [Scheduler.handle_stale stale] at starts
          cases starts
      | false =>
          rw [Scheduler.handle_fresh stale] at starts
          cases starts

theorem load_not_mem_foldl {effects : List Effect} (unloaded : .load ∉ session.tasks)
    (unstarted : .start .load ∉ effects) : .load ∉ (effects.foldl perform session).tasks := by
  induction effects generalizing session with
  | nil => exact unloaded
  | cons effect later ih =>
      rw [List.mem_cons, not_or] at unstarted
      refine ih ?_ unstarted.2
      cases effect with
      | publish published => exact unloaded
      | start task =>
          intro running
          rcases List.mem_append.mp running with old | new
          · exact unloaded old
          · exact unstarted.1 (congrArg Effect.start (List.mem_singleton.mp new))

theorem load_not_mem_handleAll {messages : List Message} (unloaded : .load ∉ session.tasks) :
    .load ∉ (session.handleAll messages).1.tasks := by
  induction messages generalizing session with
  | nil => exact unloaded
  | cons message rest ih =>
      exact ih (load_not_mem_foldl unloaded (load_not_mem_handle session.scheduler message))

theorem load_not_mem_finishLoad (session : Session) (result : Except HighlightError Engine) :
    .load ∉ (session.finishLoad result).tasks := by
  unfold finishLoad
  intro running
  split_ifs at running with load
  · have kept := (List.mem_filter.mp running).2
    cases kept
  · exact load (List.any_eq_true.mpr ⟨.load, running, rfl⟩)

theorem broken_handleAll (session : Session) (messages : List Message) :
    (session.handleAll messages).1.broken = session.broken := by
  induction messages generalizing session with
  | nil => rfl
  | cons message rest ih => exact (ih _).trans (broken_apply session _)

theorem broken_processMessages (session : Session) :
    session.processMessages.1.broken = session.broken :=
  broken_handleAll { session with inbox := [] } session.inbox

/-- What is left unsettled without a load and without messages is the newest pass. -/
theorem newest_of_unsettled (ledger : session.scheduler.Ledger session.ongoing.entries)
    (unloaded : .load ∉ session.tasks) (handled : session.inbox = [])
    (unbroken : session.broken = []) (unsettled : ¬ session.scheduler.isSettled = true) :
    Job.pass session.scheduler.revision ∈ session.tasks.map Task.job := by
  have same : session.ongoing.entries = session.tasks.map Task.job := by
    unfold Ongoing.entries Ongoing.jobs Ongoing.underway ongoing
    simp only [handled, unbroken, List.filterMap_nil, List.nil_append, List.map_nil,
      List.append_nil]
  rw [same] at ledger
  cases ledger.account with
  | idle state _ unchanged =>
      apply absurd _ unsettled
      simp only [Scheduler.isSettled, state, unchanged, beq_self_eq_true]
  | loading state load _ =>
      have member : Job.load ∈ session.tasks.map Task.job := load ▸ List.mem_singleton_self _
      rcases List.mem_map.mp member with ⟨task, member, same⟩
      cases task with
      | load => exact absurd member unloaded
      | pass pass seen => cases same
  | ready engine state _ _ =>
      have behind : session.scheduler.applied ≠ session.scheduler.revision := by
        intro same
        apply unsettled
        simp only [Scheduler.isSettled, state, same, beq_self_eq_true]
      apply List.count_pos_iff.mp
      rw [ledger.count_newest state behind]
      exact Nat.one_pos
  | failed state _ _ =>
      apply absurd _ unsettled
      simp only [Scheduler.isSettled, state]

/-- The newest pass settles the scheduler unless its span breaks. -/
theorem settled_of_finishPass (run : Run registry updates session.ongoing)
    (unlooked : Unlooked session.tasks) (unloaded : .load ∉ session.tasks)
    (handled : session.inbox = []) (unbroken : session.finishPass.broken = [])
    (unsettled : ¬ session.scheduler.isSettled = true) :
    session.finishPass.processMessages.1.scheduler.isSettled = true := by
  have current : session.latest = session.scheduler.revision :=
    (counted_of_run run).latest_eq rfl
  rcases exists_run_finishPass run unlooked with ⟨_, finished⟩
  have ledger := ledger_of_run finished
  unfold finishPass at unbroken ledger ⊢
  cases found : session.tasks.findSome? (passFor? session.latest) with
  | none =>
      simp only [found] at unbroken
      have owed : Job.pass session.scheduler.revision ∈ session.tasks.map Task.job :=
        newest_of_unsettled (ledger_of_run run) unloaded handled unbroken unsettled
      rw [← current] at owed
      exact absurd owed (not_mem_of_missing found)
  | some pass =>
      rcases split_of_found unlooked found with ⟨newest, _⟩
      simp only [found] at unbroken ledger ⊢
      rcases @Pass.run_of_shown pass (fun _ => some session.latest)
        (fun _ => congrArg some newest.symm) with breaks | ⟨result, ends⟩
      · simp only [breaks] at unbroken
        exact absurd unbroken (List.append_ne_nil_of_right_ne_nil _ (List.cons_ne_nil _ _))
      · simp only [ends, handled, List.nil_append] at ledger ⊢
        simp only [processMessages, handleAll, scheduler_apply]
        exact settled_of_result ledger (List.mem_singleton_self _) (newest.trans current)

/-- Waiting settles the scheduler if the load may come to its end and no pass is lost. -/
theorem settle_settled (run : Run registry updates session.ongoing)
    (unlooked : Unlooked session.tasks) {result : Except HighlightError Engine}
    (loaded : Loaded result) (unbroken : (session.settle (some result)).1.broken = []) :
    (session.settle (some result)).2 = true := by
  rcases exists_run_finishLoad run loaded with ⟨loading, finished⟩
  rcases exists_run_processMessages finished with ⟨handling, handled⟩
  by_cases settled : (session.finishLoad result).processMessages.1.scheduler.isSettled = true
  · simp only [settle, if_pos settled]
    exact settled
  · simp only [settle, if_neg settled] at unbroken ⊢
    refine settled_of_finishPass handled ?_ ?_ (inbox_handleAll _ _) ?_ settled
    · exact unlooked_handleAll (unlooked_finishLoad unlooked)
    · exact load_not_mem_handleAll (load_not_mem_finishLoad session result)
    · rw [← unbroken]
      exact (broken_processMessages _).symm

end Session
end FencedHighlight
