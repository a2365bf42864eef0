import FencedHighlight.Proofs.Scheduler.Provenance
import FencedHighlight.Proofs.Scheduler.Settling

namespace FencedHighlight

/-!
Caching changes nothing but the work.

A pass with a valid cache gives the ranges of plain highlighting, and a new cache that
does not depend on the one it was given.  It is lost exactly where plain highlighting comes
to a broken span.  So all caches that a scheduler ever has are valid, and its active ranges
are those that the same pass gives with an empty cache.
-/

namespace Pass

/-- What is to be expected of the result of a pass, given the registries so far. -/
structure Recomputes (registries : List Registry) (pass : Pass) (result : PassResult) :
    Prop where
  /-- The ranges are those of plain highlighting. -/
  ranges : pass.engine.highlightDocument pass.registry pass.languages pass.document =
    .ok result.ranges
  /-- The new cache is valid again. -/
  valid : result.record.cache.Valid pass.engine registries
  /-- With any other valid cache and any other looks, the pass leaves the same cache. -/
  independent : ∀ previous looks other, BlockCache.Valid pass.engine registries previous ->
    run { pass with previous } looks = .ok other -> other.record.cache = result.record.cache
  /-- The keys are for the present version and for blocks that the document has. -/
  current : ∀ key ∈ result.record.cache.keys, key.version = pass.registry.version ∧
    ∃ language ∈ pass.languages, key.block ∈ (pass.engine.scanner language).blocks pass.document
  /-- All blocks of a language that does not fail have a key. -/
  complete : pass.engine.enabled = true -> ∀ language ∈ pass.languages,
    (∃ ranges, pass.engine.highlightLanguage pass.registry pass.document language = .ok ranges) ->
    ∀ block ∈ (pass.engine.scanner language).blocks pass.document,
      BlockKey.mk pass.registry.version block ∈ result.record.cache.keys

/-- A pass of a local engine that comes to its end recomputes its document, if its
cache is valid. -/
theorem recomputes {registries : List Registry} {pass : Pass} (locality : pass.engine.Local)
    (history : Registry.History registries) (current : pass.registry ∈ registries)
    (valid : pass.previous.Valid pass.engine registries) {looks : Looks}
    {result : PassResult} (ends : pass.run looks = .ok result) :
    pass.Recomputes registries result := by
  rcases of_run (faithful_of_valid history current valid) ends with ⟨ranges, cache⟩
  constructor
  case ranges => exact ranges
  case valid =>
    rw [cache]
    exact valid_newCache locality current
  case independent =>
    intro previous looks other validToo endsToo
    have faithful : Faithful { pass with previous } :=
      faithful_of_valid history current validToo
    rw [cache, ← newCache_previous pass previous]
    exact (of_run faithful endsToo).2
  case current =>
    intro key member
    rw [cache] at member
    exact key_of_mem_newCache member
  case complete =>
    intro enabled language listed succeeds block found
    rcases succeeds with ⟨ranges, succeeds⟩
    rw [cache]
    exact newCache_complete enabled listed succeeds found

end Pass

namespace Session

variable {registry : Registry} {updates : List Update} {session : Ongoing}

/-- A pass that a run has started recomputes its document. -/
theorem recomputes_of_run (run : Run registry updates session) {pass : Pass}
    (listed : pass ∈ started updates) {looks : Looks} {result : PassResult}
    (ends : pass.run looks = .ok result) :
    pass.Recomputes (pastRegistries registry updates) result := by
  have provenance := provenance_of_run run
  have origin := provenance.origin pass listed
  rcases history_of_run run with ⟨earlier, past, history⟩
  rw [← past] at history
  exact Pass.recomputes (provenance.engine _ origin.engine) history origin.registry
    origin.previous ends

/-- The active ranges and the cache are those that a pass of the run has with an empty
cache. -/
theorem active_of_empty_cache (run : Run registry updates session) :
    (session.scheduler.applied = 0 ∧ session.scheduler.active = [] ∧
        session.scheduler.cache = {}) ∨
      ∃ pass ∈ started updates, pass.revision = session.scheduler.applied ∧
        ∃ result, Pass.run { pass with previous := {} } (fun _ => some pass.revision) =
            .ok result ∧
          session.scheduler.active = result.ranges ∧
          session.scheduler.cache = result.record.cache := by
  rcases (provenance_of_run run).active with none | ⟨pass, listed, yields⟩
  · exact Or.inl none
  · refine Or.inr ⟨pass, listed, yields.revision.symm, ?_⟩
    have faithful : Pass.Faithful { pass with previous := {} } := by
      intro block ranges _ found
      cases found
    have plain : Pass.plain { pass with previous := {} } = .ok session.scheduler.active :=
      yields.ranges
    rcases @Pass.run_of_unsuperseded _ (fun _ => some pass.revision) faithful
      (fun _ => rfl) with ⟨_, broken⟩ | ⟨result, ends, ranges⟩
    · cases broken.symm.trans plain
    · have cache := (Pass.of_run faithful ends).2
      rw [Pass.newCache_previous] at cache
      exact ⟨result, ends, Except.ok.inj (plain.symm.trans ranges),
        yields.cache.trans cache.symm⟩

/-- Recomputing with a cache is recomputing.  Whatever the history of the registry, a
pass with a valid cache that is not superseded comes to its end, or to a broken span where
plain highlighting comes to one.  If it comes to its end it has the ranges and the cache of
its snapshot alone.  So in every run all caches are valid, and no cached entry ever changes
the active ranges. -/
theorem cached_recompute_eq :
    (∀ (settings : Settings) (registries : List Registry) (pass : Pass),
      pass.engine = Engine.ofSettings settings -> Registry.History registries ->
      pass.registry ∈ registries -> pass.previous.Valid pass.engine registries ->
      (∀ looks, (∀ look, looks look = some pass.revision) ->
        (pass.run looks = .error .broken ∧
            pass.engine.highlightDocument pass.registry pass.languages pass.document =
              .error .brokenSpan) ∨
          ∃ result, pass.run looks = .ok result ∧
            pass.engine.highlightDocument pass.registry pass.languages pass.document =
              .ok result.ranges) ∧
        (∀ looks, pass.run looks = .error .broken ->
          pass.engine.highlightDocument pass.registry pass.languages pass.document =
            .error .brokenSpan) ∧
        ∀ looks result, pass.run looks = .ok result -> pass.Recomputes registries result) ∧
    ∀ registry updates session, Run registry updates session ->
      (∀ engine, session.scheduler.engine = .ready engine ->
        session.scheduler.cache.Valid engine (pastRegistries registry updates)) ∧
      ((∀ engine, session.scheduler.engine ≠ .ready engine) -> session.scheduler.cache = {}) ∧
      (∀ pass ∈ started updates,
        pass.previous.Valid pass.engine (pastRegistries registry updates) ∧
          ∀ looks result, pass.run looks = .ok result ->
            pass.Recomputes (pastRegistries registry updates) result) ∧
      ((session.scheduler.applied = 0 ∧ session.scheduler.active = [] ∧
          session.scheduler.cache = {}) ∨
        ∃ pass ∈ started updates, pass.revision = session.scheduler.applied ∧
          ∃ result, Pass.run { pass with previous := {} } (fun _ => some pass.revision) =
              .ok result ∧
            session.scheduler.active = result.ranges ∧
            session.scheduler.cache = result.record.cache) := by
  constructor
  · intro settings registries pass built history current valid
    have locality : pass.engine.Local := by
      rw [built]
      exact Engine.local_ofSettings settings
    have faithful := Pass.faithful_of_valid history current valid
    exact ⟨fun looks => Pass.run_of_unsuperseded faithful,
      fun looks => Pass.broken_of_run faithful,
      fun looks result => Pass.recomputes locality history current valid⟩
  · intro registry updates session run
    have provenance := provenance_of_run run
    refine ⟨fun engine => provenance.valid, ?_, ?_, active_of_empty_cache run⟩
    · intro unready
      exact (provenance.unstarted unready).2.2
    · intro pass listed
      exact ⟨(provenance.origin pass listed).previous,
        fun looks result => recomputes_of_run run listed⟩

/-- A pass over two blocks in a language that embeds itself. -/
def nestingPass : Pass :=
  { revision := 1
    engine := Engine.ofSettings {}
    registry := Tokenizer.nesting
    languages := ["nest"]
    document := Text.ofString "```nest\n(x)\n```\n```nest\n(y)\n```"
    previous := {} }

theorem cached_recompute_eq_again :
    (∃ first second, nestingPass.run (fun _ => some 1) = .ok first ∧
      Pass.run { nestingPass with previous := first.record.cache } (fun _ => some 1) =
        .ok second ∧
      second.ranges = first.ranges ∧ second.record.cache = first.record.cache) ∧
    ∃ updates session, Run {} updates session ∧ session.scheduler.applied = 2 ∧
      session.scheduler.cache.Valid (Engine.ofSettings {}) (pastRegistries {} updates) := by
  rcases cached_recompute_eq with ⟨passes, runs⟩
  constructor
  · have history := Registry.History.start Tokenizer.nesting
    have current : Tokenizer.nesting ∈ [Tokenizer.nesting] := List.mem_cons_self
    have empty := BlockCache.valid_empty (Engine.ofSettings {}) [Tokenizer.nesting]
    have own : ∃ ranges, nestingPass.engine.highlightLanguage nestingPass.registry
        nestingPass.document "nest" = .ok ranges := by
      refine ⟨[⟨9, 10, "language-nest", none⟩, ⟨25, 26, "language-nest", none⟩], ?_⟩
      decide +kernel
    rcases own with ⟨ranges, own⟩
    have unbroken : nestingPass.engine.highlightDocument nestingPass.registry
        nestingPass.languages nestingPass.document ≠ .error .brokenSpan := by
      intro breaks
      rcases (Engine.highlightDocument_eq_error_iff.mp breaks).2 with ⟨language, listed, breaks⟩
      rw [List.mem_singleton.mp listed] at breaks
      exact Engine.not_breaks_of_ok own breaks
    rcases passes {} _ nestingPass rfl history current empty with ⟨ends, _, computes⟩
    rcases ends (fun _ => some 1) fun _ => rfl with ⟨_, broken⟩ | ⟨first, firstEnds, _⟩
    · exact absurd broken unbroken
    · have recomputed := computes _ _ firstEnds
      rcases passes {} _ { nestingPass with previous := first.record.cache } rfl history current
        recomputed.valid with ⟨endsAgain, _, _⟩
      rcases endsAgain (fun _ => some 1) fun _ => rfl with
        ⟨_, broken⟩ | ⟨second, secondEnds, ranges⟩
      · exact absurd broken unbroken
      · refine ⟨first, second, firstEnds, secondEnds, ?_, ?_⟩
        · exact Except.ok.inj (ranges.symm.trans recomputed.ranges)
        · exact recomputed.independent _ _ second recomputed.valid secondEnds
  · have sound : ∀ document ∈ [[], []], ∃ ranges,
        (Engine.ofSettings {}).highlightDocument (Registry.register {} "a" Grammar.empty) ["a"]
          document = .ok ranges := by
      refine List.forall_mem_cons.mpr ⟨⟨[], ?_⟩, List.forall_mem_singleton.mpr ⟨[], ?_⟩⟩
      · decide +kernel
      · decide +kernel
    rcases exists_run_overtaken {} {} "a" Grammar.empty sound with
      ⟨updates, session, run, ready, _, _, _, applied, _⟩
    exact ⟨updates, session, run, applied, (runs {} updates session run).1 _ ready⟩

end Session

end FencedHighlight
