import FencedHighlight.Proofs.Scheduler.Change
import FencedHighlight.Proofs.Scheduler.Recompute

namespace FencedHighlight

/-!
Where the active ranges come from.

Every task, every message and the active ranges go back to a pass that a step has
started with the state of the scheduler at that moment.  As the caches in question
are all valid, a pass yields the ranges of its snapshot and of nothing else, and is
lost only if a span of its snapshot breaks.
-/

/-- Whether a result is the one of a pass. -/
structure Pass.Yields (pass : Pass) (revision : Nat) (ranges : List StyleRange)
    (cache : BlockCache) : Prop where
  revision : revision = pass.revision
  ranges : pass.plain = .ok ranges
  cache : cache = pass.newCache

namespace Session

open Scheduler (Ledger)

variable {registry : Registry} {updates : List Update} {session next : Ongoing}
  {update : Update} {registries : List Registry} {passes : List Pass}

/-- The passes that have been started, newest first. -/
def started (updates : List Update) : List Pass :=
  updates.flatMap Update.passes

/-- The registries that the scheduler has had, newest first. -/
def pastRegistries (registry : Registry) (updates : List Update) : List Registry :=
  updates.map (fun update => update.scheduler.registry) ++ [registry]

/-- What holds of a pass from its start on. -/
structure Origin (registries : List Registry) (session : Ongoing) (pass : Pass) : Prop where
  engine : session.scheduler.engine = .ready pass.engine
  registry : pass.registry ∈ registries
  previous : pass.previous.Valid pass.engine registries
  revision_le : pass.revision ≤ session.scheduler.revision

/-- Where everything in a session comes from. -/
structure Provenance (registries : List Registry) (passes : List Pass) (session : Ongoing) :
    Prop where
  engine : ∀ engine, session.scheduler.engine = .ready engine -> engine.Local
  loaded : ∀ engine, .engineLoaded (.ok engine) ∈ session.inbox -> engine.Local
  origin : ∀ pass ∈ passes, Origin registries session pass
  distinct : passes.Pairwise fun later earlier => earlier.revision < later.revision
  running : ∀ pass ∈ session.passes, pass ∈ passes
  broken : ∀ pass ∈ session.broken, pass ∈ passes ∧ pass.plain = .error .brokenSpan
  result : ∀ revision ranges cache, .passCompleted revision ranges cache ∈ session.inbox ->
    ∃ pass ∈ passes, pass.Yields revision ranges cache
  active : (session.scheduler.applied = 0 ∧ session.scheduler.active = [] ∧
      session.scheduler.cache = {}) ∨
    ∃ pass ∈ passes, pass.Yields session.scheduler.applied session.scheduler.active
      session.scheduler.cache

theorem unready_of_loading (loading : session.scheduler.engine = .loading) :
    ∀ engine, session.scheduler.engine ≠ .ready engine := by
  intro engine ready
  cases loading.symm.trans ready

namespace Provenance

/-- Without an engine, nothing has been started or applied. -/
theorem unstarted (provenance : Provenance registries passes session)
    (unready : ∀ engine, session.scheduler.engine ≠ .ready engine) :
    passes = [] ∧ session.scheduler.active = [] ∧ session.scheduler.cache = {} := by
  have none : passes = [] := by
    apply List.eq_nil_iff_forall_not_mem.mpr
    intro pass listed
    exact unready pass.engine (provenance.origin pass listed).engine
  refine ⟨none, ?_⟩
  rcases provenance.active with ⟨_, active, cache⟩ | ⟨pass, listed, _⟩
  · exact ⟨active, cache⟩
  · rw [none] at listed
    cases listed

/-- The cache of the scheduler is valid for its engine. -/
theorem valid (provenance : Provenance registries passes session) {engine : Engine}
    (ready : session.scheduler.engine = .ready engine) :
    session.scheduler.cache.Valid engine registries := by
  rcases provenance.active with ⟨_, _, empty⟩ | ⟨pass, listed, yields⟩
  · rw [empty]
    exact BlockCache.valid_empty engine registries
  · have origin := provenance.origin pass listed
    have same : engine = pass.engine := EngineState.ready.inj (ready.symm.trans origin.engine)
    rw [yields.cache, same]
    exact Pass.valid_newCache (provenance.engine _ origin.engine) origin.registry

/-- The cache that a pass has been given is faithful. -/
theorem faithful (provenance : Provenance registries passes session)
    (history : Registry.History registries) {pass : Pass} (listed : pass ∈ passes) :
    pass.Faithful := by
  have origin := provenance.origin pass listed
  exact Pass.faithful_of_valid history origin.registry origin.previous

/-- What a pass yields when it comes to its end. -/
theorem yields (provenance : Provenance registries passes session)
    (history : Registry.History registries) {pass : Pass} (listed : pass ∈ passes)
    {seen : List Nat} {result : PassResult} (ends : pass.outcome seen = .ok result) :
    pass.Yields pass.revision result.ranges result.record.cache := by
  rcases Pass.of_run (provenance.faithful history listed) ends with ⟨ranges, cache⟩
  exact ⟨rfl, ranges, cache⟩

/-- Older passes keep their origin. -/
theorem origin_of_change (provenance : Provenance registries passes session)
    (change : Change session update) (after : next.scheduler = update.scheduler) {pass : Pass}
    (listed : pass ∈ passes) :
    Origin (next.scheduler.registry :: registries) next pass := by
  have origin := provenance.origin pass listed
  refine ⟨?_, ?_, ?_, ?_⟩
  · rw [after]
    exact change.engine_eq origin.engine
  · exact List.mem_cons_of_mem _ origin.registry
  · exact origin.previous.mono (List.subset_cons_self _ _)
  · rw [after]
    exact Nat.le_trans origin.revision_le change.revision_le

/-- A new pass has its origin in the state that the step leads to. -/
theorem origin_of_start (provenance : Provenance registries passes session)
    (change : Change session update) (after : next.scheduler = update.scheduler) {pass : Pass}
    (starts : pass ∈ update.passes) :
    Origin (next.scheduler.registry :: registries) next pass ∧
      ∀ earlier ∈ passes, earlier.revision < pass.revision := by
  rcases change.pass_cases starts with ⟨engine, ready, same, _, cache, reason⟩
  subst same
  constructor
  · refine ⟨?_, ?_, ?_, ?_⟩
    · rw [after]
      exact ready
    · rw [after]
      exact List.mem_cons_self
    · change update.scheduler.cache.Valid engine _
      rw [cache]
      rcases reason with ⟨before, _⟩ | loading
      · exact (provenance.valid before).mono (List.subset_cons_self _ _)
      · rw [(provenance.unstarted (unready_of_loading loading)).2.2]
        exact BlockCache.valid_empty _ _
    · rw [after]
      exact Nat.le_refl _
  · intro earlier listed
    rcases reason with ⟨_, newer⟩ | loading
    · exact Nat.lt_of_le_of_lt (provenance.origin earlier listed).revision_le newer
    · rw [(provenance.unstarted (unready_of_loading loading)).1] at listed
      cases listed

/-- New ranges are those of a pass. -/
theorem active_of_change (provenance : Provenance registries passes session)
    (change : Change session update) (after : next.scheduler = update.scheduler) :
    (next.scheduler.applied = 0 ∧ next.scheduler.active = [] ∧ next.scheduler.cache = {}) ∨
      ∃ pass ∈ passes, pass.Yields next.scheduler.applied next.scheduler.active
        next.scheduler.cache := by
  rw [after]
  rcases change.active_cases with ⟨applied, active, cache⟩ | ⟨loading, _, applied, active, cache⟩ |
    ⟨_, _, _, waiting⟩
  · rw [applied, active, cache]
    exact provenance.active
  · rw [applied, active, cache]
    exact Or.inl ⟨rfl, rfl, (provenance.unstarted (unready_of_loading loading)).2.2⟩
  · exact Or.inr (provenance.result _ _ _ waiting)

/-- Every step keeps the origins. -/
theorem of_step (provenance : Provenance registries passes session)
    (history : Registry.History registries) (change : Change session update)
    (step : Step session update next) :
    Provenance (next.scheduler.registry :: registries) (update.passes ++ passes) next := by
  have after := step.scheduler_eq
  have message : ∀ {message : Message}, message ∈ next.inbox -> message ∈ session.inbox ∨ _ :=
    mem_inbox_of_step step
  constructor
  case engine =>
    intro engine ready
    rw [after] at ready
    rcases change.engine_origin ready with before | waiting
    · exact provenance.engine engine before
    · exact provenance.loaded engine waiting
  case loaded =>
    intro engine waiting
    rcases message waiting with old | ⟨result, loaded, same⟩ | ⟨pass, seen, result, _, _, same⟩
    · exact provenance.loaded engine old
    · cases same
      cases loaded with
      | engine settings => exact Engine.local_ofSettings settings
    · cases same
  case origin =>
    intro pass listed
    rcases List.mem_append.mp listed with new | old
    · exact (provenance.origin_of_start change after new).1
    · exact provenance.origin_of_change change after old
  case distinct =>
    refine List.pairwise_append.mpr ⟨?_, provenance.distinct, ?_⟩
    · cases listed : update.passes with
      | nil => exact List.Pairwise.nil
      | cons pass others =>
          have only := change.passes_eq (listed ▸ List.mem_cons_self)
          rw [← listed, only]
          exact List.pairwise_singleton _ pass
    · intro pass new earlier old
      exact (provenance.origin_of_start change after new).2 earlier old
  case running =>
    intro pass running
    rcases mem_passes_of_step step running with old | new
    · exact List.mem_append_right _ (provenance.running pass old)
    · exact List.mem_append_left _ new
  case broken =>
    intro pass lost
    rcases mem_broken_of_step step lost with old | ⟨seen, running, breaks⟩
    · rcases provenance.broken pass old with ⟨listed, broken⟩
      exact ⟨List.mem_append_right _ listed, broken⟩
    · have listed := provenance.running pass running
      exact ⟨List.mem_append_right _ listed,
        Pass.broken_of_run (provenance.faithful history listed) breaks⟩
  case result =>
    intro revision ranges cache waiting
    rcases message waiting with old | ⟨result, _, same⟩ | ⟨pass, seen, result, running, ends, same⟩
    · rcases provenance.result _ _ _ old with ⟨pass, listed, yields⟩
      exact ⟨pass, List.mem_append_right _ listed, yields⟩
    · cases same
    · cases same
      have listed := provenance.running pass running
      exact ⟨pass, List.mem_append_right _ listed, provenance.yields history listed ends⟩
  case active =>
    rcases provenance.active_of_change change after with none | ⟨pass, listed, yields⟩
    · exact Or.inl none
    · exact Or.inr ⟨pass, List.mem_append_right _ listed, yields⟩

end Provenance

/-- The registries of a run are a history, and the newest is the present one. -/
theorem history_of_run (run : Run registry updates session) :
    ∃ earlier, pastRegistries registry updates = session.scheduler.registry :: earlier ∧
      Registry.History (session.scheduler.registry :: earlier) := by
  induction run with
  | start => exact ⟨[], rfl, .start registry⟩
  | @step updates session next update run step ih =>
      rcases ih with ⟨earlier, listed, history⟩
      have change := change_of_step (ledger_of_run run) step
      refine ⟨session.scheduler.registry :: earlier, ?_, ?_⟩
      · rw [step.scheduler_eq, ← listed]
        rfl
      · rw [step.scheduler_eq]
        rcases change.registry_cases with same | ⟨operation, changed⟩
        · rw [same]
          exact .same history
        · rw [changed]
          exact .operation operation history

/-- All that is in a session has its origin in the run. -/
theorem provenance_of_run (run : Run registry updates session) :
    Provenance (pastRegistries registry updates) (started updates) session := by
  induction run with
  | start =>
      constructor
      case distinct => exact .nil
      case active => exact Or.inl ⟨rfl, rfl, rfl⟩
      case engine =>
        intro engine ready
        cases ready
      case loaded =>
        intro engine waiting
        cases waiting
      case origin =>
        intro pass listed
        cases listed
      case running =>
        intro pass running
        cases running
      case broken =>
        intro pass lost
        cases lost
      case result =>
        intro revision ranges cache waiting
        cases waiting
  | @step updates session next update run step ih =>
      rcases history_of_run run with ⟨earlier, listed, history⟩
      have change := change_of_step (ledger_of_run run) step
      rw [← listed] at history
      have later := ih.of_step history change step
      have seen : pastRegistries registry (update :: updates) =
          next.scheduler.registry :: pastRegistries registry updates := by
        rw [step.scheduler_eq]
        rfl
      rw [started, List.flatMap_cons, seen]
      exact later

end Session

end FencedHighlight
