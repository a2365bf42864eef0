import FencedHighlight.Proofs.Scheduler.Provenance

namespace FencedHighlight
namespace Session

/-!
A scheduler settles.

The loader is started once, and whatever is owed has one job that cannot be lost:
the pass for the newest revision is never superseded, and its result is never
stale.  Unless its span breaks, it comes to its end after no more looks than there are
blocks.  When no job is left, the scheduler is settled.
-/

open Scheduler (Ledger)

variable {registry : Registry} {updates : List Update} {session next : Ongoing}
  {update : Update} {before after : List Task} {pass : Pass} {seen : List Nat}

/-- Only an idle scheduler starts the loader, once, and then it is idle no longer. -/
theorem loads_of_change (change : Change session update) :
    (update.tasks.countP isLoad = 0 ∧
        (update.scheduler.engine = .idle -> session.scheduler.engine = .idle)) ∨
      (update.tasks.countP isLoad = 1 ∧ session.scheduler.engine = .idle ∧
        update.scheduler.engine = .loading) := by
  cases change with
  | prepare prepared => exact Or.inl ⟨rfl, prepared.engine.symm.trans⟩
  | load prepared state => exact Or.inr ⟨rfl, prepared.engine.symm.trans state, rfl⟩
  | wait prepared state => exact Or.inl ⟨rfl, prepared.engine.symm.trans⟩
  | follow prepared state => exact Or.inl ⟨rfl, prepared.engine.symm.trans⟩
  | @ready engine waiting state unapplied =>
      left
      constructor
      · unfold Update.tasks
        split <;> rfl
      · intro idle
        cases idle
  | fail state unapplied =>
      left
      refine ⟨rfl, ?_⟩
      intro idle
      cases idle
  | take waiting newest behind => exact Or.inl ⟨rfl, id⟩

/-- The loader is started at most once, and not before the first change. -/
theorem countP_isLoad (run : Run registry updates session) :
    (session.scheduler.engine = .idle -> (updates.flatMap Update.tasks).countP isLoad = 0) ∧
      (updates.flatMap Update.tasks).countP isLoad ≤ 1 := by
  induction run with
  | start => exact ⟨fun _ => rfl, Nat.zero_le 1⟩
  | @step updates session next update run step ih =>
      rw [step.scheduler_eq, List.flatMap_cons, List.countP_append]
      rcases loads_of_change (change_of_step (ledger_of_run run) step) with
        ⟨none, remains⟩ | ⟨once, idle, loading⟩
      · rw [none, Nat.zero_add]
        exact ⟨fun idle => ih.1 (remains idle), ih.2⟩
      · rw [once, ih.1 idle]
        refine ⟨?_, Nat.le_refl 1⟩
        intro idleAfter
        cases loading.symm.trans idleAfter

/-- The message that reports on the newest revision settles the scheduler. -/
theorem settled_of_result (ledger : session.scheduler.Ledger session.entries) {revision : Nat}
    {ranges : List StyleRange} {cache : BlockCache}
    (waiting : .passCompleted revision ranges cache ∈ session.inbox)
    (newest : revision = session.scheduler.revision) :
    (session.scheduler.handle (.passCompleted revision ranges cache)).scheduler.isSettled =
      true := by
  rcases List.append_of_mem waiting with ⟨before, after, split⟩
  have first := ledger.perm (Ongoing.entries_take split)
  rcases first.ready_of_pass List.mem_cons_self with ⟨engine, state, _, _⟩
  rcases first.handle_result with ⟨other, _⟩ | ⟨_, _, taken⟩
  · exact absurd newest other
  · rw [taken]
    simp only [Scheduler.isSettled, state, beq_iff_eq]
    exact newest

/-- If nothing is under way and nothing has been lost, nothing is owed. -/
theorem settled_of_quiet (ledger : session.scheduler.Ledger session.entries)
    (quiet : session.entries = []) :
    session.scheduler.isSettled = true ∧
      ∀ engine, session.scheduler.engine = .ready engine ->
        session.scheduler.applied = session.scheduler.revision := by
  unfold Scheduler.isSettled
  rw [quiet] at ledger
  cases ledger.account with
  | idle state _ unchanged =>
      rw [state, unchanged]
      refine ⟨rfl, ?_⟩
      intro engine impossible
      cases impossible
  | loading _ load _ => cases load
  | ready engine state _ owed =>
      have applied : session.scheduler.applied = session.scheduler.revision := by
        by_contra behind
        rw [if_neg behind] at owed
        cases owed
      rw [state, applied]
      exact ⟨beq_self_eq_true _, fun _ _ => rfl⟩
  | failed state _ _ =>
      rw [state]
      refine ⟨rfl, ?_⟩
      intro engine impossible
      cases impossible

/-! ## Passes that come to their end -/

/-- Whether the spans of all these passes are sound. -/
def Sound (passes : List Pass) : Prop :=
  ∀ pass ∈ passes, ∃ ranges, pass.plain = .ok ranges

/-- A pass of a run does not come to a broken span if its document can be highlighted. -/
theorem outcome_ne_broken (run : Run registry updates session) (listed : pass ∈ started updates)
    (sound : ∃ ranges, pass.plain = .ok ranges) : pass.outcome seen ≠ .error .broken := by
  intro breaks
  rcases history_of_run run with ⟨earlier, past, history⟩
  rw [← past] at history
  have broken := Pass.broken_of_run ((provenance_of_run run).faithful history listed) breaks
  rcases sound with ⟨ranges, sound⟩
  cases broken.symm.trans sound

theorem entries_of_sound (run : Run registry updates session) (sound : Sound (started updates)) :
    session.entries = session.jobs := by
  have unbroken : session.broken = [] := by
    apply List.eq_nil_iff_forall_not_mem.mpr
    intro pass lost
    rcases (provenance_of_run run).broken pass lost with ⟨listed, broken⟩
    rcases sound pass listed with ⟨ranges, sound⟩
    cases broken.symm.trans sound
  unfold Ongoing.entries
  rw [unbroken]
  exact List.append_nil _

/-- A pass that is about to look has made fewer looks than it has to make at most. -/
theorem length_le_of_looking (looking : pass.outcome seen = .error .looking) :
    seen.length ≤ (pass.languages.flatMap pass.blocks).length := by
  rcases Pass.exists_look_of_looking looking with ⟨look, few, missing⟩
  exact Nat.le_trans (List.getElem?_eq_none_iff.mp missing) few

/-- The pass for the newest revision is not given up. -/
theorem outcome_newest (run : Run registry updates session) (sound : Sound (started updates))
    (running : .pass pass seen ∈ session.tasks)
    (newest : pass.revision = session.scheduler.revision) :
    pass.outcome seen = .error .looking ∨ ∃ result, pass.outcome seen = .ok result := by
  rcases List.append_of_mem running with ⟨before, after, split⟩
  have listed := (provenance_of_run run).running pass (mem_passes_of_running split)
  cases outcome : pass.outcome seen with
  | ok result => exact Or.inr ⟨result, rfl⟩
  | error stop =>
      cases stop with
      | looking => exact Or.inl rfl
      | superseded =>
          have older := (counted_of_run run).older_of_superseded running outcome
          exact absurd newest (Nat.ne_of_lt older)
      | broken => exact absurd outcome (outcome_ne_broken run listed (sound pass listed))

/-- A pass may look until it need not look any more. -/
theorem exists_run_looks (run : Run registry updates session)
    (running : session.tasks = before ++ .pass pass seen :: after) :
    ∃ more shown, (∀ revision ∈ shown, revision = session.latest) ∧
      pass.outcome (seen ++ shown) ≠ .error .looking ∧
      Run registry (more ++ updates)
        { session with tasks := before ++ .pass pass (seen ++ shown) :: after } := by
  induction rounds : (pass.languages.flatMap pass.blocks).length + 1 - seen.length
    generalizing seen session updates with
  | zero =>
      refine ⟨[], [], fun revision none => absurd none List.not_mem_nil, ?_, ?_⟩
      · intro looking
        rw [List.append_nil] at looking
        have few := length_le_of_looking looking
        omega
      · rw [List.append_nil, ← running]
        exact run
  | succ fewer ih =>
      by_cases looking : pass.outcome seen = .error .looking
      · have looked := run.step (.look running looking)
        have left : (pass.languages.flatMap pass.blocks).length + 1 -
            (seen ++ [session.latest]).length = fewer := by
          rw [List.length_append, List.length_singleton]
          omega
        rcases ih looked rfl left with ⟨more, shown, same, ends, later⟩
        rw [List.append_assoc] at ends later
        refine ⟨more ++ [session.rest], session.latest :: shown,
          List.forall_mem_cons.mpr ⟨rfl, same⟩, ends, ?_⟩
        exact List.append_cons more _ updates ▸ later
      · refine ⟨[], [], fun revision none => absurd none List.not_mem_nil, ?_, ?_⟩
        · rwa [List.append_nil]
        · rw [List.append_nil, ← running]
          exact run

/-- A pass that has not looked yet, and is for the revision on the counter, comes to its
result if nobody makes a change. -/
theorem exists_run_result (run : Run registry updates session)
    (running : session.tasks = before ++ .pass pass [] :: after)
    (current : pass.revision = session.latest) (sound : ∃ ranges, pass.plain = .ok ranges) :
    ∃ more seen result, pass.outcome seen = .ok result ∧
      Run registry (more ++ updates)
        { session with tasks := before ++ .pass pass seen :: after } := by
  rcases exists_run_looks run running with ⟨more, shown, same, ends, later⟩
  have listed := (provenance_of_run run).running pass (mem_passes_of_running running)
  cases outcome : pass.outcome shown with
  | ok result => exact ⟨more, shown, result, outcome, later⟩
  | error stop =>
      cases stop with
      | looking => exact absurd outcome ends
      | superseded =>
          rcases Pass.exists_look_of_superseded outcome with ⟨look, revision, made, other⟩
          exact absurd ((same revision (List.mem_of_getElem? made)).trans current.symm) other
      | broken => exact absurd outcome (outcome_ne_broken run listed sound)

/-- With an engine, a change of the document starts a pass for it. -/
theorem Run.changeDocument (run : Run registry updates session) (done : session.pending = [])
    {engine : Engine} (ready : session.scheduler.engine = .ready engine) (text : Text)
    {scheduler : Scheduler}
    (changed : scheduler = Scheduler.advance { session.scheduler with document := text }) :
    ∃ more, started more = [scheduler.pass engine] ∧
      Run registry (more ++ updates)
        { session with
          scheduler
          latest := scheduler.revision
          tasks := session.tasks ++ [.pass (scheduler.pass engine) []]
          pending := [] } := by
  have noted : session.scheduler.perform (.changeDocument text) =
      { scheduler
        effects := [.publish scheduler.revision, .start (.pass (scheduler.pass engine) [])] } := by
    rw [changed]
    exact Scheduler.noteChange_of_ready ready
  have requested := run.step (.request done (.changeDocument text))
  rw [noted] at requested
  have published := requested.step (.perform rfl)
  have followed := published.step (.perform rfl)
  exact ⟨[_, _, _], rfl, followed⟩

/-- A session with an engine and a pass for its first change. -/
def changedOnce (registry : Registry) (settings : Settings) (language : String) (text : Text) :
    Ongoing :=
  let engine := Engine.ofSettings settings
  let scheduler : Scheduler :=
    { engine := .ready engine, registry, languages := [language], document := text, revision := 1 }
  { scheduler, latest := 1, tasks := [.pass (scheduler.pass engine) []] }

theorem exists_run_changedOnce (registry : Registry) (settings : Settings)
    (language : String) (grammar : Grammar) (text : Text) :
    ∃ updates, started updates = [Scheduler.pass (changedOnce
        (registry.register language grammar) settings language text).scheduler
        (Engine.ofSettings settings)] ∧
      Run registry updates
        (changedOnce (registry.register language grammar) settings language text) := by
  have registered :=
    (@Run.start registry).step (.request rfl (.registerLanguage language [] grammar))
  have changed := registered.step (.request rfl (.changeDocument text))
  have published := changed.step (.perform rfl)
  have loading := published.step (.perform rfl)
  have loaded := loading.step (@Step.finishLoad _ [] [] _ rfl (.engine settings))
  have handled := loaded.step (@Step.handle _ [] [] _ rfl rfl)
  have followed := handled.step (.perform rfl)
  exact ⟨_, rfl, followed⟩

/-- If a document is changed a second time while the pass for the first change is at its
last block, the second pass may be the faster one.  Then its ranges are active while the
result of the first pass is still waiting. -/
theorem exists_run_overtaken (registry : Registry) (settings : Settings)
    (language : String) (grammar : Grammar) {first second : Text}
    (sound : ∀ document ∈ [first, second], ∃ ranges,
      (Engine.ofSettings settings).highlightDocument (registry.register language grammar)
        [language] document = .ok ranges) :
    ∃ updates session, Run registry updates session ∧
      session.scheduler.engine = .ready (Engine.ofSettings settings) ∧
      session.scheduler.registry = registry.register language grammar ∧
      session.scheduler.languages = [language] ∧ session.scheduler.document = second ∧
      session.scheduler.applied = 2 ∧ session.tasks = [] ∧
      ∃ ranges cache, session.inbox = [.passCompleted 1 ranges cache] := by
  have firstSound := sound first List.mem_cons_self
  have secondSound := sound second (List.mem_cons_of_mem _ List.mem_cons_self)
  rcases exists_run_changedOnce registry settings language grammar first with ⟨_, _, changed⟩
  rcases @exists_run_result _ _ _ [] _ _ changed rfl rfl firstSound with
    ⟨_, _, late, slow, watched⟩
  rcases watched.changeDocument rfl rfl second rfl with ⟨_, _, followed⟩
  rcases @exists_run_result _ _ _ [_] _ _ followed rfl rfl secondSound with
    ⟨_, _, result, fast, watched⟩
  have finished := watched.step (@Step.finishPass _ [_] [] _ _ _ rfl fast)
  have applied := finished.step (@Step.handle _ [] [] _ rfl rfl)
  have reported := applied.step (@Step.finishPass _ [] [] _ _ _ rfl slow)
  exact ⟨_, _, reported, rfl, rfl, rfl, rfl, rfl, rfl, _, _, rfl⟩

/-- No change is ever lost, unless the span of a pass breaks.  While the engine is
awaited, one load is under way, and there is never another one.  As long as the newest
revision has not been applied by a scheduler with an engine, exactly one of its tasks and
messages is for it.  The task has seen no revision but its own, so it is not given up and
comes to its end after some looks, and its message settles the scheduler.  So the scheduler
is settled when all work is done. -/
theorem run_settles (run : Run registry updates session) (sound : Sound (started updates)) :
    (session.scheduler.engine = .loading -> session.jobs.count .load = 1) ∧
      (updates.flatMap Update.tasks).countP isLoad ≤ 1 ∧
      (∀ engine, session.scheduler.engine = .ready engine ->
        session.scheduler.applied ≠ session.scheduler.revision ->
        session.jobs.count (.pass session.scheduler.revision) = 1) ∧
      (session.pending = [] -> session.latest = session.scheduler.revision) ∧
      (∀ pass seen, .pass pass seen ∈ session.tasks ->
        pass.revision = session.scheduler.revision ->
        session.latest = pass.revision ∧ (∀ revision ∈ seen, revision = pass.revision) ∧
          ((pass.outcome seen = .error .looking ∧
              seen.length ≤ (pass.languages.flatMap pass.blocks).length) ∨
            ∃ result, pass.outcome seen = .ok result)) ∧
      (∀ revision ranges cache, .passCompleted revision ranges cache ∈ session.inbox ->
        revision = session.scheduler.revision ->
        (session.scheduler.handle (.passCompleted revision ranges cache)).scheduler.isSettled =
          true) ∧
      (session.pending = [] -> session.tasks = [] -> session.inbox = [] ->
        session.scheduler.isSettled = true ∧
          ∀ engine, session.scheduler.engine = .ready engine ->
            session.scheduler.applied = session.scheduler.revision) := by
  have ledger := ledger_of_run run
  have counted := counted_of_run run
  have same := entries_of_sound run sound
  refine ⟨?_, (countP_isLoad run).2, ?_, counted.latest_eq, ?_, ?_, ?_⟩
  · intro loading
    rw [← same]
    exact ledger.count_load loading
  · intro engine ready behind
    rw [← same]
    exact ledger.count_newest ready behind
  · intro pass seen running newest
    rcases counted.shown_newest running newest with ⟨latest, shown⟩
    refine ⟨latest, shown, ?_⟩
    rcases outcome_newest run sound running newest with looking | ends
    · exact Or.inl ⟨looking, length_le_of_looking looking⟩
    · exact Or.inr ends
  · intro revision ranges cache waiting newest
    exact settled_of_result ledger waiting newest
  · intro done finished handled
    apply settled_of_quiet ledger
    rw [same, Ongoing.jobs, Ongoing.underway, done, finished, handled]
    rfl

/-- A session in which a document has been changed twice, and both passes are still
under way. -/
def changedTwice (first second : Text) : Ongoing :=
  let engine := Engine.ofSettings {}
  let before : Scheduler :=
    (changedOnce (Registry.register {} "a" Grammar.empty) {} "a" first).scheduler
  let after : Scheduler := { before with document := second, revision := 2 }
  { scheduler := after
    latest := 2
    tasks := [.pass (before.pass engine) [], .pass (after.pass engine) []] }

theorem run_settles_changedTwice :
    ∃ updates, Sound (started updates) ∧ Run {} updates (changedTwice ['x'] []) ∧
      (updates.flatMap Update.tasks).countP isLoad ≤ 1 ∧
      (changedTwice ['x'] []).jobs.count (.pass 2) = 1 := by
  rcases exists_run_changedOnce {} {} "a" Grammar.empty ['x'] with ⟨updates, once, changed⟩
  rcases changed.changeDocument rfl rfl [] rfl with ⟨more, again, run⟩
  have sound : Sound (started (more ++ updates)) := by
    unfold started at once again ⊢
    rw [List.flatMap_append, once, again]
    refine List.forall_mem_cons.mpr ⟨⟨[], ?_⟩, List.forall_mem_singleton.mpr ⟨[], ?_⟩⟩
    · decide +kernel
    · decide +kernel
  have settles := run_settles run sound
  exact ⟨_, sound, run, settles.2.1, settles.2.2.1 _ rfl (by decide)⟩

end Session

end FencedHighlight
