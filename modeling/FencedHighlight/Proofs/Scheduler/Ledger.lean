import FencedHighlight.Proofs.Scheduler.Counter

namespace FencedHighlight
namespace Scheduler

/-!
No change is lost.

A ledger compares what the scheduler still owes with the work under way, and with what
has been lost on broken spans.  While the engine is being loaded there is the load and
nothing else.  With an engine, the newest revision has been applied or has exactly one
job, and never both.  Older passes may be under way in any number, but they are owed to
nobody.
-/

/-- What is under way, by the state of the engine. -/
inductive Account (scheduler : Scheduler) (jobs : List Job) : Prop where
  | idle (state : scheduler.engine = .idle) (jobless : jobs = [])
      (unchanged : scheduler.revision = 0)
  | loading (state : scheduler.engine = .loading) (load : jobs = [.load])
      (unapplied : scheduler.applied = 0)
  | ready (engine : Engine) (state : scheduler.engine = .ready engine)
      (loaded : Job.load ∉ jobs)
      (owed : jobs.count (.pass scheduler.revision) +
        (if scheduler.applied = scheduler.revision then 1 else 0) = 1)
  | failed (state : scheduler.engine = .failed) (jobless : jobs = [])
      (unapplied : scheduler.applied = 0)

/-- The books of a scheduler. -/
structure Ledger (scheduler : Scheduler) (jobs : List Job) : Prop where
  applied_le : scheduler.applied ≤ scheduler.revision
  pass_le : ∀ revision, Job.pass revision ∈ jobs -> revision ≤ scheduler.revision
  account : scheduler.Account jobs

namespace Ledger

variable {scheduler : Scheduler} {jobs : List Job}

/-- The order of the jobs does not matter. -/
theorem perm {others : List Job} (ledger : scheduler.Ledger jobs)
    (same : jobs.Perm others) : scheduler.Ledger others := by
  refine ⟨ledger.applied_le, ?_, ?_⟩
  · intro revision member
    exact ledger.pass_le revision (same.mem_iff.mpr member)
  · cases ledger.account with
    | idle state jobless unchanged =>
        exact .idle state (List.nil_perm.mp (jobless ▸ same)) unchanged
    | loading state load unapplied =>
        exact .loading state (List.singleton_perm.mp (load ▸ same)).symm unapplied
    | ready engine state loaded owed =>
        refine .ready engine state ?_ ?_
        · rwa [← same.mem_iff]
        · rwa [← same.count_eq]
    | failed state jobless unapplied =>
        exact .failed state (List.nil_perm.mp (jobless ▸ same)) unapplied

/-- Preparing the next pass owes nothing new. -/
theorem prepared {after : Scheduler} (ledger : scheduler.Ledger jobs)
    (prepared : Prepared scheduler after) : after.Ledger jobs := by
  rcases ledger with ⟨applied_le, pass_le, account⟩
  rw [← prepared.applied, ← prepared.revision] at applied_le
  refine ⟨applied_le, ?_, ?_⟩
  · intro revision member
    rw [prepared.revision]
    exact pass_le revision member
  · cases account with
    | idle state jobless unchanged =>
        exact .idle (prepared.engine.trans state) jobless (prepared.revision.trans unchanged)
    | loading state load unapplied =>
        exact .loading (prepared.engine.trans state) load (prepared.applied.trans unapplied)
    | ready engine state loaded owed =>
        rw [← prepared.applied, ← prepared.revision] at owed
        exact .ready engine (prepared.engine.trans state) loaded owed
    | failed state jobless unapplied =>
        exact .failed (prepared.engine.trans state) jobless (prepared.applied.trans unapplied)

/-- A revision that has not been made has no job. -/
theorem count_next (ledger : scheduler.Ledger jobs) :
    jobs.count (.pass (scheduler.revision + 1)) = 0 := by
  apply List.count_eq_zero.mpr
  intro member
  have early := ledger.pass_le _ member
  omega

/-- A change is owed, and gets its job as soon as there is an engine. -/
theorem noteChange (ledger : scheduler.Ledger jobs) :
    scheduler.noteChange.scheduler.Ledger
      (scheduler.noteChange.tasks.map Task.job ++ jobs) := by
  have applied_le : scheduler.applied ≤ scheduler.advance.revision :=
    Nat.le_succ_of_le ledger.applied_le
  have pass_le : ∀ revision, Job.pass revision ∈ jobs -> revision ≤ scheduler.advance.revision :=
    fun revision member => Nat.le_succ_of_le (ledger.pass_le revision member)
  cases ledger.account with
  | idle state jobless unchanged =>
      rw [noteChange_of_idle state, jobless]
      refine ⟨applied_le, ?_, .loading rfl rfl ?_⟩
      · intro revision member
        cases List.mem_singleton.mp member
      · have none := ledger.applied_le
        rw [unchanged] at none
        exact Nat.le_zero.mp none
  | loading state load unapplied =>
      rw [noteChange_of_waiting (Or.inl state)]
      exact ⟨applied_le, pass_le, .loading state load unapplied⟩
  | ready engine state loaded owed =>
      rw [noteChange_of_ready state]
      have behind : scheduler.applied ≠ scheduler.advance.revision :=
        Nat.ne_of_lt (Nat.lt_succ_of_le ledger.applied_le)
      refine ⟨applied_le, ?_, .ready engine state ?_ ?_⟩
      · intro revision member
        rcases List.mem_cons.mp member with new | old
        · cases new
          exact Nat.le_refl _
        · exact pass_le revision old
      · intro member
        rcases List.mem_cons.mp member with new | old
        · cases new
        · exact loaded old
      · have once : (Job.pass scheduler.advance.revision :: jobs).count
            (.pass scheduler.advance.revision) = 1 := by
          rw [List.count_cons_self]
          exact congrArg Nat.succ ledger.count_next
        exact (congrArg (_ + ·) (if_neg behind)).trans once
  | failed state jobless unapplied =>
      rw [noteChange_of_waiting (Or.inr state)]
      exact ⟨applied_le, pass_le, .failed state jobless unapplied⟩

/-- A pass for another revision than the newest one is owed to nobody. -/
theorem drop {revision : Nat} (ledger : scheduler.Ledger (.pass revision :: jobs))
    (other : revision ≠ scheduler.revision) : scheduler.Ledger jobs := by
  refine ⟨ledger.applied_le, ?_, ?_⟩
  · intro revision member
    exact ledger.pass_le revision (List.mem_cons_of_mem _ member)
  · cases ledger.account with
    | idle state jobless unchanged => cases jobless
    | loading state load unapplied => cases load
    | ready engine state loaded owed =>
        refine .ready engine state ?_ ?_
        · exact fun member => loaded (List.mem_cons_of_mem _ member)
        · rwa [List.count_cons_of_ne] at owed
          intro same
          exact other (Job.pass.inj same)
    | failed state jobless unapplied => cases jobless

/-- If some pass is under way, there is an engine. -/
theorem ready_of_pass {revision : Nat} (ledger : scheduler.Ledger jobs)
    (member : Job.pass revision ∈ jobs) :
    ∃ engine, scheduler.engine = .ready engine ∧ Job.load ∉ jobs ∧
      jobs.count (.pass scheduler.revision) +
        (if scheduler.applied = scheduler.revision then 1 else 0) = 1 := by
  cases ledger.account with
  | idle state jobless unchanged =>
      rw [jobless] at member
      cases member
  | loading state load unapplied =>
      rw [load] at member
      cases List.mem_singleton.mp member
  | ready engine state loaded owed => exact ⟨engine, state, loaded, owed⟩
  | failed state jobless unapplied =>
      rw [jobless] at member
      cases member

/-- If the load is under way, there is nothing else. -/
theorem loading_of_load (ledger : scheduler.Ledger jobs) (member : Job.load ∈ jobs) :
    scheduler.engine = .loading ∧ jobs = [.load] ∧ scheduler.applied = 0 := by
  cases ledger.account with
  | idle state jobless unchanged =>
      rw [jobless] at member
      cases member
  | loading state load unapplied => exact ⟨state, load, unapplied⟩
  | ready engine state loaded owed => exact absurd member loaded
  | failed state jobless unapplied =>
      rw [jobless] at member
      cases member

/-- While the engine is awaited, there is one load. -/
theorem count_load (ledger : scheduler.Ledger jobs) (awaited : scheduler.engine = .loading) :
    jobs.count .load = 1 := by
  cases ledger.account with
  | idle state _ _ => exact absurd (state.symm.trans awaited) EngineState.noConfusion
  | loading _ load _ =>
      rw [load]
      exact List.count_singleton_self
  | ready engine state _ _ => exact absurd (state.symm.trans awaited) EngineState.noConfusion
  | failed state _ _ => exact absurd (state.symm.trans awaited) EngineState.noConfusion

/-- As long as the newest revision has not been applied, there is one pass for it. -/
theorem count_newest {engine : Engine} (ledger : scheduler.Ledger jobs)
    (ready : scheduler.engine = .ready engine)
    (behind : scheduler.applied ≠ scheduler.revision) :
    jobs.count (.pass scheduler.revision) = 1 := by
  cases ledger.account with
  | idle state _ _ => exact absurd (state.symm.trans ready) EngineState.noConfusion
  | loading state _ _ => exact absurd (state.symm.trans ready) EngineState.noConfusion
  | ready _ _ _ owed =>
      rw [if_neg behind] at owed
      exact owed
  | failed state _ _ => exact absurd (state.symm.trans ready) EngineState.noConfusion

/-- With the load, all that is owed to the scheduler comes in. -/
theorem handle_load {result : Except HighlightError Engine}
    (ledger : scheduler.Ledger (.load :: jobs)) :
    (scheduler.handle (.engineLoaded result)).scheduler.Ledger
      ((scheduler.handle (.engineLoaded result)).tasks.map Task.job ++ jobs) := by
  have applied_le := ledger.applied_le
  rcases ledger.loading_of_load List.mem_cons_self with ⟨state, load, unapplied⟩
  have jobless : jobs = [] := (List.cons.inj load).2
  cases result with
  | error fault =>
      rw [jobless]
      refine ⟨applied_le, ?_, .failed rfl rfl unapplied⟩
      intro revision member
      cases member
  | ok engine =>
      rw [handle_engine state, jobless]
      by_cases behind : scheduler.applied < scheduler.revision
      · simp only [if_pos behind]
        refine ⟨applied_le, ?_, .ready engine rfl ?_ ?_⟩
        · intro revision member
          cases List.mem_singleton.mp member
          exact Nat.le_refl _
        · intro member
          cases List.mem_singleton.mp member
        · exact (congrArg (_ + ·) (if_neg (Nat.ne_of_lt behind))).trans List.count_cons_self
      · simp only [if_neg behind]
        refine ⟨applied_le, ?_, .ready engine rfl List.not_mem_nil ?_⟩
        · intro revision member
          cases member
        · exact congrArg (0 + ·) (if_pos (Nat.le_antisymm applied_le (Nat.le_of_not_lt behind)))

/-- The result for the newest revision settles it, and any other result is for an
older revision and changes nothing. -/
theorem handle_result {revision : Nat} {ranges : List StyleRange} {cache : BlockCache}
    (ledger : scheduler.Ledger (.pass revision :: jobs)) :
    (revision ≠ scheduler.revision ∧
        scheduler.handle (.passCompleted revision ranges cache) = { scheduler }) ∨
      (revision = scheduler.revision ∧ scheduler.applied < revision ∧
        scheduler.handle (.passCompleted revision ranges cache) =
          { scheduler := { scheduler with active := ranges, cache, applied := revision }
            changed := true }) := by
  have early := ledger.pass_le revision List.mem_cons_self
  rcases ledger.ready_of_pass List.mem_cons_self with ⟨engine, state, loaded, owed⟩
  by_cases newest : revision = scheduler.revision
  · right
    rw [newest, List.count_cons_self] at owed
    have unapplied : scheduler.applied ≠ scheduler.revision := by
      intro same
      rw [if_pos same] at owed
      omega
    have behind : scheduler.applied < revision := by
      rw [newest]
      exact Nat.lt_of_le_of_ne ledger.applied_le unapplied
    refine ⟨newest, behind, handle_fresh ?_ ranges cache⟩
    apply Bool.eq_false_iff.mpr
    intro stale
    rcases (isStale_iff scheduler revision).mp stale with older | overtaken
    · omega
    · omega
  · left
    refine ⟨newest, handle_stale ?_ ranges cache⟩
    exact (isStale_iff scheduler revision).mpr (Or.inl (Nat.lt_of_le_of_ne early newest))

theorem handle {message : Message} (ledger : scheduler.Ledger (message.job :: jobs)) :
    (scheduler.handle message).scheduler.Ledger
      ((scheduler.handle message).tasks.map Task.job ++ jobs) := by
  cases message with
  | engineLoaded result => exact ledger.handle_load
  | passCompleted revision ranges cache =>
      rcases ledger.handle_result with ⟨other, unchanged⟩ | ⟨newest, behind, taken⟩
      · rw [unchanged]
        exact ledger.drop other
      · rw [taken]
        rcases ledger.ready_of_pass List.mem_cons_self with ⟨engine, state, loaded, owed⟩
        refine ⟨Nat.le_of_eq newest, ?_, .ready engine state ?_ ?_⟩
        · intro other member
          exact ledger.pass_le other (List.mem_cons_of_mem _ member)
        · exact fun member => loaded (List.mem_cons_of_mem _ member)
        · have before : scheduler.applied ≠ scheduler.revision := by omega
          rw [if_neg before, newest] at owed
          have none : jobs.count (.pass scheduler.revision) = 0 := by
            simp only [Message.job, List.count_cons_self] at owed
            omega
          exact (congrArg (_ + ·) (if_pos newest)).trans (congrArg (· + 1) none)

end Ledger

end Scheduler

namespace Session

open Scheduler (Ledger)

variable {registry : Registry} {updates : List Update} {session next : Ongoing}
  {update : Update}

/-- Every step keeps the books. -/
theorem ledger_of_step (ledger : session.scheduler.Ledger session.entries)
    (counted : Counted session) (step : Step session update next) :
    next.scheduler.Ledger next.entries := by
  cases step with
  | request done request =>
      rw [Ongoing.entries_undertake done]
      rcases session.scheduler.perform_cases request with ⟨after, prepared, quiet | noted⟩
      · rw [quiet]
        exact ledger.prepared prepared
      · rw [noted]
        exact (ledger.prepared prepared).noteChange
  | @handle before after message done waiting =>
      rw [@Ongoing.entries_undertake { session with inbox := before ++ after } done]
      exact (ledger.perm (Ongoing.entries_take waiting)).handle
  | perform next =>
      rw [scheduler_perform]
      exact ledger.perm (Ongoing.entries_perform next).symm
  | finishLoad running loaded =>
      exact ledger.perm (Ongoing.entries_finish running rfl session.highlighted).symm
  | look running looking =>
      rw [Ongoing.entries_look running (by rfl)]
      exact ledger
  | finishPass running ends => exact ledger.perm (Ongoing.entries_finish running rfl _).symm
  | @abandonPass before after pass seen running superseded =>
      have listed : .pass pass seen ∈ session.tasks := by
        rw [running]
        exact List.mem_append_cons_self
      exact (ledger.perm (Ongoing.entries_leave running)).drop
        (Nat.ne_of_lt (counted.older_of_superseded listed superseded))
  | breakPass running breaks => exact ledger.perm (Ongoing.entries_break running).symm

/-- The books are right at all times. -/
theorem ledger_of_run (run : Run registry updates session) :
    session.scheduler.Ledger session.entries := by
  induction run with
  | start =>
      refine ⟨Nat.le_refl _, ?_, .idle rfl rfl rfl⟩
      intro revision member
      cases member
  | step run step ih => exact ledger_of_step ih (counted_of_run run) step

end Session
end FencedHighlight
