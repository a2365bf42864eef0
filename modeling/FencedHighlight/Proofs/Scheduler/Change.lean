import FencedHighlight.Proofs.Scheduler.Ledger

namespace FencedHighlight
namespace Session

/-!
What a step can change.

With the books in order there are few ways in which a step changes the scheduler.
The loader reports while the engine is awaited and nothing has been applied, and a
result is taken over only if it is for the newest revision.
-/

open Scheduler (Ledger Prepared)

variable {registry : Registry} {updates : List Update} {session next : Ongoing}
  {update : Update}

/-- What the scheduler can decide in a step, and what it does besides. -/
inductive Change (session : Ongoing) : Update -> Prop where
  | prepare {after : Scheduler} (prepared : Prepared session.scheduler after) :
      Change session { scheduler := after }
  | load {after : Scheduler} (prepared : Prepared session.scheduler after)
      (state : after.engine = .idle) :
      Change session
        { scheduler := { after.advance with engine := .loading }
          effects := [.publish after.advance.revision, .start .load] }
  | wait {after : Scheduler} (prepared : Prepared session.scheduler after)
      (state : after.engine = .loading ∨ after.engine = .failed) :
      Change session
        { scheduler := after.advance, effects := [.publish after.advance.revision] }
  | follow {after : Scheduler} {engine : Engine}
      (prepared : Prepared session.scheduler after) (state : after.engine = .ready engine) :
      Change session
        { scheduler := after.advance
          effects := [.publish after.advance.revision,
            .start (.pass (after.advance.pass engine) [])] }
  | ready {engine : Engine} (waiting : .engineLoaded (.ok engine) ∈ session.inbox)
      (state : session.scheduler.engine = .loading) (unapplied : session.scheduler.applied = 0) :
      Change session
        { scheduler := { session.scheduler with engine := .ready engine }
          effects := if session.scheduler.applied < session.scheduler.revision then
            [.start (.pass
              (Scheduler.pass { session.scheduler with engine := .ready engine } engine) [])]
            else [] }
  | fail {fault : HighlightError} (state : session.scheduler.engine = .loading)
      (unapplied : session.scheduler.applied = 0) :
      Change session (session.scheduler.handle (.engineLoaded (.error fault)))
  | take {revision : Nat} {ranges : List StyleRange} {cache : BlockCache}
      (waiting : .passCompleted revision ranges cache ∈ session.inbox)
      (newest : revision = session.scheduler.revision)
      (behind : session.scheduler.applied < revision) :
      Change session
        { scheduler := { session.scheduler with active := ranges, cache, applied := revision }
          changed := true }

theorem change_of_request (session : Ongoing) (request : Scheduler.Request) :
    Change session (session.scheduler.perform request) := by
  rcases session.scheduler.perform_cases request with ⟨after, prepared, quiet | noted⟩
  · rw [quiet]
    exact .prepare prepared
  · rw [noted]
    cases state : after.engine with
    | idle =>
        rw [Scheduler.noteChange_of_idle state]
        exact .load prepared state
    | loading =>
        rw [Scheduler.noteChange_of_waiting (Or.inl state)]
        exact .wait prepared (Or.inl state)
    | ready engine =>
        rw [Scheduler.noteChange_of_ready state]
        exact .follow prepared state
    | failed =>
        rw [Scheduler.noteChange_of_waiting (Or.inr state)]
        exact .wait prepared (Or.inr state)

theorem change_of_message {message : Message} (waiting : message ∈ session.inbox)
    {others : List Job} (ledger : session.scheduler.Ledger (message.job :: others)) :
    Change session (session.scheduler.handle message) := by
  cases message with
  | engineLoaded result =>
      rcases ledger.loading_of_load List.mem_cons_self with ⟨state, _, unapplied⟩
      cases result with
      | error fault => exact .fail state unapplied
      | ok engine =>
          rw [Scheduler.handle_engine state]
          exact .ready waiting state unapplied
  | passCompleted revision ranges cache =>
      rcases ledger.handle_result with ⟨other, unchanged⟩ | ⟨newest, behind, taken⟩
      · rw [unchanged]
        exact .prepare (Prepared.refl session.scheduler)
      · rw [taken]
        exact .take waiting newest behind

/-- Every step is one of these changes. -/
theorem change_of_step (ledger : session.scheduler.Ledger session.entries)
    (step : Step session update next) : Change session update := by
  cases step with
  | request done request => exact change_of_request session request
  | @handle before after message done waiting =>
      refine change_of_message ?_ (ledger.perm (Ongoing.entries_take waiting))
      rw [waiting]
      exact List.mem_append_cons_self
  | _ => exact .prepare (Prepared.refl session.scheduler)

namespace Change

/-- An engine is never exchanged. -/
theorem engine_eq {engine : Engine} (change : Change session update)
    (ready : session.scheduler.engine = .ready engine) :
    update.scheduler.engine = .ready engine := by
  cases change with
  | prepare prepared => exact prepared.engine.trans ready
  | load prepared state =>
      exact absurd ((prepared.engine.symm.trans state).symm.trans ready) EngineState.noConfusion
  | wait prepared state => exact prepared.engine.trans ready
  | follow prepared state => exact prepared.engine.trans ready
  | ready waiting state unapplied =>
      exact absurd (state.symm.trans ready) EngineState.noConfusion
  | fail state unapplied => exact absurd (state.symm.trans ready) EngineState.noConfusion
  | take waiting newest behind => exact ready

/-- Where the engine of a scheduler comes from. -/
theorem engine_origin {engine : Engine} (change : Change session update)
    (ready : update.scheduler.engine = .ready engine) :
    session.scheduler.engine = .ready engine ∨
      .engineLoaded (.ok engine) ∈ session.inbox := by
  cases change with
  | prepare prepared => exact Or.inl (prepared.engine.symm.trans ready)
  | load prepared state => cases ready
  | wait prepared state => exact Or.inl (prepared.engine.symm.trans ready)
  | follow prepared state => exact Or.inl (prepared.engine.symm.trans ready)
  | ready waiting state unapplied =>
      cases ready
      exact Or.inr waiting
  | fail state unapplied => cases ready
  | take waiting newest behind => exact Or.inl ready

theorem revision_le (change : Change session update) :
    session.scheduler.revision ≤ update.scheduler.revision := by
  cases change with
  | prepare prepared => exact Nat.le_of_eq prepared.revision.symm
  | load prepared state => exact Nat.le_succ_of_le (Nat.le_of_eq prepared.revision.symm)
  | wait prepared state => exact Nat.le_succ_of_le (Nat.le_of_eq prepared.revision.symm)
  | follow prepared state => exact Nat.le_succ_of_le (Nat.le_of_eq prepared.revision.symm)
  | ready waiting state unapplied => exact Nat.le_refl _
  | fail state unapplied => exact Nat.le_refl _
  | take waiting newest behind => exact Nat.le_refl _

/-- The registry changes by operations alone. -/
theorem registry_cases (change : Change session update) :
    update.scheduler.registry = session.scheduler.registry ∨
      ∃ operation, update.scheduler.registry = session.scheduler.registry.after operation := by
  cases change with
  | prepare prepared => exact prepared.registry
  | load prepared state => exact prepared.registry
  | wait prepared state => exact prepared.registry
  | follow prepared state => exact prepared.registry
  | ready waiting state unapplied => exact Or.inl rfl
  | fail state unapplied => exact Or.inl rfl
  | take waiting newest behind => exact Or.inl rfl

/-- The active ranges change only when a result for the newest revision is taken
over.  A load that fails has no ranges to remove. -/
theorem active_cases (change : Change session update) :
    (update.scheduler.applied = session.scheduler.applied ∧
        update.scheduler.active = session.scheduler.active ∧
        update.scheduler.cache = session.scheduler.cache) ∨
      (session.scheduler.engine = .loading ∧ session.scheduler.applied = 0 ∧
        update.scheduler.applied = 0 ∧ update.scheduler.active = [] ∧
        update.scheduler.cache = session.scheduler.cache) ∨
      (session.scheduler.applied < session.scheduler.revision ∧
        update.scheduler.applied = session.scheduler.revision ∧
        update.scheduler.revision = session.scheduler.revision ∧
        .passCompleted update.scheduler.applied update.scheduler.active
          update.scheduler.cache ∈ session.inbox) := by
  cases change with
  | prepare prepared => exact Or.inl ⟨prepared.applied, prepared.active, prepared.cache⟩
  | load prepared state => exact Or.inl ⟨prepared.applied, prepared.active, prepared.cache⟩
  | wait prepared state => exact Or.inl ⟨prepared.applied, prepared.active, prepared.cache⟩
  | follow prepared state => exact Or.inl ⟨prepared.applied, prepared.active, prepared.cache⟩
  | ready waiting state unapplied => exact Or.inl ⟨rfl, rfl, rfl⟩
  | fail state unapplied => exact Or.inr (Or.inl ⟨state, unapplied, unapplied, rfl, rfl⟩)
  | take waiting newest behind =>
      rw [newest] at behind
      exact Or.inr (Or.inr ⟨behind, newest, rfl, waiting⟩)

/-- A pass is started with what the scheduler has at this moment, either for a new
revision or when the engine comes in. -/
theorem pass_cases {pass : Pass} (change : Change session update)
    (starts : pass ∈ update.passes) :
    ∃ engine, update.scheduler.engine = .ready engine ∧
      pass = update.scheduler.pass engine ∧ update.tasks = [.pass pass []] ∧
      update.scheduler.cache = session.scheduler.cache ∧
      ((session.scheduler.engine = .ready engine ∧
          session.scheduler.revision < update.scheduler.revision) ∨
        session.scheduler.engine = .loading) := by
  cases change with
  | prepare prepared => exact absurd starts List.not_mem_nil
  | load prepared state => exact absurd starts List.not_mem_nil
  | wait prepared state => exact absurd starts List.not_mem_nil
  | @follow after engine prepared state =>
      cases List.mem_singleton.mp starts
      refine ⟨engine, state, rfl, rfl, prepared.cache, Or.inl ⟨?_, ?_⟩⟩
      · exact prepared.engine.symm.trans state
      · exact Nat.lt_succ_of_le (Nat.le_of_eq prepared.revision.symm)
  | @ready engine waiting state unapplied =>
      by_cases behind : session.scheduler.applied < session.scheduler.revision
      · rw [if_pos behind] at starts ⊢
        cases List.mem_singleton.mp starts
        exact ⟨engine, rfl, rfl, rfl, rfl, Or.inr state⟩
      · rw [if_neg behind] at starts
        exact absurd starts List.not_mem_nil
  | fail state unapplied => exact absurd starts List.not_mem_nil
  | take waiting newest behind => exact absurd starts List.not_mem_nil

/-- A step starts one pass at most. -/
theorem passes_eq {pass : Pass} (change : Change session update)
    (starts : pass ∈ update.passes) : update.passes = [pass] := by
  rcases change.pass_cases starts with ⟨_, _, _, started, _⟩
  unfold Update.passes
  rw [started]
  rfl

end Change

/-- The passes after a step are among those before it and those that it starts. -/
theorem mem_passes_of_step (step : Step session update next) {pass : Pass}
    (member : pass ∈ next.passes) : pass ∈ session.passes ∨ pass ∈ update.passes := by
  have left : ∀ {before after : List Task} {task : Task},
      session.tasks = before ++ task :: after ->
      pass ∈ Ongoing.passes { session with tasks := before ++ after } -> pass ∈ session.passes := by
    intro before after task running among
    rcases List.mem_filterMap.mp among with ⟨other, listed, same⟩
    exact List.mem_filterMap.mpr
      ⟨other, (Ongoing.underway_leave running).mem_iff.mpr (List.mem_cons_of_mem _ listed), same⟩
  have started : ∀ {session : Ongoing} {update : Update}, session.pending = [] ->
      pass ∈ (session.undertake update).passes -> pass ∈ session.passes ∨ pass ∈ update.passes := by
    intro session update done among
    unfold Ongoing.passes Ongoing.underway at among ⊢
    rw [List.filterMap_append] at among
    rw [done]
    exact (List.mem_append.mp among).symm
  cases step with
  | request done request => exact started done member
  | handle done waiting => exact @started { session with inbox := _ } _ done member
  | perform next =>
      exact Or.inl (((Ongoing.underway_perform next).filterMap Task.pass?).mem_iff.mp member)
  | finishLoad running loaded => exact Or.inl (left running member)
  | look running looking =>
      unfold Ongoing.passes Ongoing.underway at member ⊢
      rw [running]
      simp only [List.filterMap_append, List.filterMap_cons, Task.pass?] at member ⊢
      exact Or.inl member
  | finishPass running ends => exact Or.inl (left running member)
  | abandonPass running superseded => exact Or.inl (left running member)
  | breakPass running breaks => exact Or.inl (left running member)

theorem mem_passes_of_running {pass : Pass} {seen : List Nat} {before after : List Task}
    (running : session.tasks = before ++ .pass pass seen :: after) : pass ∈ session.passes := by
  refine List.mem_filterMap.mpr ⟨.pass pass seen, List.mem_append_right _ ?_, rfl⟩
  rw [running]
  exact List.mem_append_cons_self

/-- Messages come from the loader and from passes that have come to their end. -/
theorem mem_inbox_of_step (step : Step session update next) {message : Message}
    (member : message ∈ next.inbox) :
    message ∈ session.inbox ∨ (∃ result, Loaded result ∧ message = .engineLoaded result) ∨
      ∃ pass seen result, pass ∈ session.passes ∧ pass.outcome seen = .ok result ∧
        message = .passCompleted pass.revision result.ranges result.record.cache := by
  cases step with
  | @finishLoad before after result running loaded =>
      rcases List.mem_append.mp member with old | new
      · exact Or.inl old
      · exact Or.inr (Or.inl ⟨result, loaded, List.mem_singleton.mp new⟩)
  | @finishPass before after pass seen result running ends =>
      rcases List.mem_append.mp member with old | new
      · exact Or.inl old
      · exact Or.inr (Or.inr
          ⟨pass, seen, result, mem_passes_of_running running, ends, List.mem_singleton.mp new⟩)
  | handle done waiting => exact Or.inl (mem_of_mem_without waiting member)
  | perform next =>
      rw [inbox_perform] at member
      exact Or.inl member
  | _ => exact Or.inl member

/-- Only a pass that comes to a broken span is lost. -/
theorem mem_broken_of_step (step : Step session update next) {pass : Pass}
    (member : pass ∈ next.broken) :
    pass ∈ session.broken ∨
      ∃ seen, pass ∈ session.passes ∧ pass.outcome seen = .error .broken := by
  cases step with
  | @breakPass before after broken seen running breaks =>
      rcases List.mem_append.mp member with old | new
      · exact Or.inl old
      · rw [List.mem_singleton.mp new]
        exact Or.inr ⟨seen, mem_passes_of_running running, breaks⟩
  | perform next =>
      rw [broken_perform] at member
      exact Or.inl member
  | _ => exact Or.inl member

end Session
end FencedHighlight
