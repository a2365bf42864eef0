import FencedHighlight.Proofs.Scheduler.Provenance
import FencedHighlight.Proofs.Scheduler.Settling

namespace FencedHighlight
namespace Session

/-!
The active ranges belong to one snapshot.

For every revision at most one pass is started, with the registry, the languages and
the document that the scheduler has when the step has been made.  The active ranges
are those of this snapshot for the applied revision.  So they are never put together
from two states of the document, in whatever order passes and messages overtake each
other.
-/

variable {registry : Registry} {updates : List Update} {session next : Ongoing}
  {update : Update}

/-- Among passes of different revisions, the revision selects the pass. -/
theorem filter_revision {passes : List Pass}
    (distinct : passes.Pairwise fun later earlier => earlier.revision < later.revision)
    {pass : Pass} (listed : pass ∈ passes) :
    (passes.filter fun other => other.revision == pass.revision) = [pass] := by
  induction passes with
  | nil => cases listed
  | cons first rest ih =>
      rcases List.pairwise_cons.mp distinct with ⟨newer, others⟩
      rcases List.mem_cons.mp listed with same | later
      · subst same
        rw [List.filter_cons, if_pos (beq_self_eq_true _), List.filter_eq_nil_iff.mpr]
        intro other older
        rw [beq_iff_eq]
        exact Nat.ne_of_lt (newer other older)
      · rw [List.filter_cons_of_neg, ih others later]
        rw [beq_iff_eq]
        exact (Nat.ne_of_lt (newer pass later)).symm

/-- Every pass is started with the snapshot of the scheduler that the step leads
to. -/
theorem snapshot_of_started (run : Run registry updates session) {pass : Pass}
    (listed : pass ∈ started updates) :
    ∃ update ∈ updates, update.tasks = [.pass pass []] ∧
      pass = update.scheduler.pass pass.engine := by
  induction run with
  | start => cases listed
  | @step updates session next update run step ih =>
      rcases List.mem_append.mp listed with newest | older
      · have change := change_of_step (ledger_of_run run) step
        rcases change.pass_cases newest with ⟨engine, _, same, starts, _⟩
        refine ⟨update, List.mem_cons_self, starts, ?_⟩
        rw [same]
        rfl
      · rcases ih older with ⟨earlier, kept, found⟩
        exact ⟨earlier, List.mem_cons_of_mem _ kept, found⟩

/-- The active ranges are empty as long as nothing has been applied.  Otherwise they
are what plain highlighting gives for the snapshot that was taken when the only pass
for the applied revision was started.  A step never goes back to an earlier revision,
and it replaces the ranges only by those of the newest one. -/
theorem active_of_snapshot (run : Run registry updates session) :
    session.scheduler.applied ≤ session.scheduler.revision ∧
      ((session.scheduler.active = [] ∧ session.scheduler.applied = 0) ∨
        ∃ update ∈ updates, ∃ engine, session.scheduler.engine = .ready engine ∧
          update.tasks = [.pass (update.scheduler.pass engine) []] ∧
          update.scheduler.revision = session.scheduler.applied ∧
          ((started updates).filter fun pass => pass.revision == session.scheduler.applied) =
            [update.scheduler.pass engine] ∧
          engine.highlightDocument update.scheduler.registry update.scheduler.languages
            update.scheduler.document = .ok session.scheduler.active) ∧
      (∀ update next, Step session update next ->
        session.scheduler.applied ≤ next.scheduler.applied ∧
          (next.scheduler.active ≠ session.scheduler.active ∨
              next.scheduler.applied ≠ session.scheduler.applied ->
            next.scheduler.applied = session.scheduler.revision ∧
              next.scheduler.revision = session.scheduler.revision)) ∧
      (∀ revision ranges cache, .passCompleted revision ranges cache ∈ session.inbox ->
        revision < session.scheduler.revision ->
        (session.scheduler.handle (.passCompleted revision ranges cache)).scheduler =
          session.scheduler) := by
  have ledger := ledger_of_run run
  have provenance := provenance_of_run run
  refine ⟨ledger.applied_le, ?_, ?_, ?_⟩
  · rcases provenance.active with ⟨applied, active, _⟩ | ⟨pass, listed, yields⟩
    · exact Or.inl ⟨active, applied⟩
    · rcases snapshot_of_started run listed with ⟨update, member, starts, same⟩
      have only := filter_revision provenance.distinct listed
      rw [← yields.revision] at only
      have snapshot : update.scheduler.revision = pass.revision := by rw [same]; rfl
      refine Or.inr ⟨update, member, pass.engine, (provenance.origin pass listed).engine, ?_⟩
      rw [← same]
      refine ⟨starts, snapshot.trans yields.revision.symm, only, ?_⟩
      rw [← yields.ranges, Pass.plain]
      generalize pass.engine = engine at same
      rw [same]
      rfl
  · intro update next step
    rw [step.scheduler_eq]
    rcases (change_of_step ledger step).active_cases with ⟨applied, active, _⟩ |
      ⟨loading, unapplied, applied, active, _⟩ | ⟨behind, applied, revision, _⟩
    · refine ⟨Nat.le_of_eq applied.symm, ?_⟩
      rintro (other | other)
      · exact absurd active other
      · exact absurd applied other
    · have none := (provenance.unstarted (unready_of_loading loading)).2.1
      refine ⟨Nat.le_of_eq (unapplied.trans applied.symm), ?_⟩
      rintro (other | other)
      · exact absurd (active.trans none.symm) other
      · exact absurd (applied.trans unapplied.symm) other
    · exact ⟨by omega, fun _ => ⟨applied, revision⟩⟩
  · intro revision ranges cache waiting older
    have stale := (Scheduler.isStale_iff session.scheduler revision).mpr (Or.inl older)
    rw [Scheduler.handle_stale stale]

theorem active_of_snapshot_overtaken :
    ∃ updates session, Run {} updates session ∧ session.scheduler.applied = 2 ∧
      (∃ ranges cache, session.inbox = [.passCompleted 1 ranges cache]) ∧
      ∃ update ∈ updates, ∃ engine : Engine, update.scheduler.revision = 2 ∧
        engine.highlightDocument update.scheduler.registry update.scheduler.languages
          update.scheduler.document = .ok session.scheduler.active := by
  have sound : ∀ document ∈ [[], "```a\nx\n```".toList], ∃ ranges,
      (Engine.ofSettings {}).highlightDocument (Registry.register {} "a" Grammar.empty) ["a"]
        document = .ok ranges := by
    refine List.forall_mem_cons.mpr ⟨⟨[], ?_⟩, List.forall_mem_singleton.mpr ⟨[], ?_⟩⟩
    · decide +kernel
    · decide +kernel
  rcases exists_run_overtaken {} {} "a" Grammar.empty sound with
    ⟨updates, session, run, _, _, _, _, applied, _, waiting⟩
  refine ⟨updates, session, run, applied, waiting, ?_⟩
  rcases (active_of_snapshot run).2.1 with ⟨_, unapplied⟩ |
    ⟨update, member, engine, _, _, revision, _, active⟩
  · rw [applied] at unapplied
    cases unapplied
  · exact ⟨update, member, engine, revision.trans applied, active⟩

end Session
end FencedHighlight
