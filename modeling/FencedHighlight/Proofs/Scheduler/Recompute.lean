import FencedHighlight.Proofs.BlockCache.Validity
import FencedHighlight.Proofs.Engine.Outcome
import FencedHighlight.Proofs.Scheduler.Looks

namespace FencedHighlight
namespace Pass

/-!
Passes compute what plain highlighting computes.

A pass takes some ranges from the cache before it, and highlights the other
blocks.  If the cache is valid this makes no difference, not even where a
language fails half way: a block that fails is never in a valid cache, so it
fails again, and a span that breaks breaks again.  The new cache holds the blocks
that have been met and is the same whatever the cache before it.
-/

variable {pass : Pass} {looks : Looks}

/-- The ranges of a block without any cache. -/
def highlight (pass : Pass) (block : CodeBlock) : Except HighlightError (List StyleRange) :=
  pass.engine.highlightBlock pass.registry pass.document block

/-- What becomes of the document of a pass without any cache. -/
def plain (pass : Pass) : Except HighlightError (List StyleRange) :=
  pass.engine.highlightDocument pass.registry pass.languages pass.document

/-- What is met in some blocks of one language: those before the first one that
cannot be highlighted. -/
def met (pass : Pass) : List CodeBlock -> List BlockCache.Entry
  | [] => []
  | block :: rest =>
      match pass.highlight block with
      | .ok ranges => (pass.key block, ranges) :: met pass rest
      | .error _ => []

/-- The cache that a pass leaves. -/
def newCache (pass : Pass) : BlockCache :=
  if pass.engine.enabled then
    BlockCache.insertAll {} (pass.languages.flatMap fun language => pass.met (pass.blocks language))
  else
    {}

/-- What is met does not depend on the cache. -/
theorem met_previous (pass : Pass) (previous : BlockCache) (blocks : List CodeBlock) :
    met { pass with previous } blocks = pass.met blocks := by
  induction blocks with
  | nil => rfl
  | cons block rest ih =>
      rw [met, met, ih]
      rfl

theorem newCache_previous (pass : Pass) (previous : BlockCache) :
    newCache { pass with previous } = pass.newCache := by
  unfold newCache
  simp only [met_previous]
  rfl

/-- Whether blocks of the document that are in the cache have the ranges that they
would be given again. -/
def Faithful (pass : Pass) : Prop :=
  ∀ block ranges, block.LiesIn pass.document ->
    pass.previous.get? (pass.key block) = some ranges -> pass.highlight block = .ok ranges

/-- A valid cache for a history with the registry of the pass is faithful. -/
theorem faithful_of_valid {registries : List Registry}
    (history : Registry.History registries) (current : pass.registry ∈ registries)
    (valid : pass.previous.Valid pass.engine registries) : pass.Faithful := by
  intro block ranges lies found
  exact valid.highlightBlock history current found lies

/-- A block that can be highlighted is put into the cache with its ranges. -/
theorem runBlock_of_ok (faithful : pass.Faithful) {record : PassRecord} {block : CodeBlock}
    {ranges : List StyleRange} (lies : block.LiesIn pass.document)
    (highlighted : pass.highlight block = .ok ranges) :
    ∃ next, pass.runBlock record block = .ok (next, ranges) ∧
      next.cache = record.cache.insert (pass.key block) ranges := by
  unfold runBlock
  cases found : pass.previous.get? (pass.key block) with
  | none =>
      have fresh : pass.engine.highlightBlock pass.registry pass.document block = .ok ranges :=
        highlighted
      simp only [found, fresh]
      exact ⟨_, rfl, rfl⟩
  | some kept =>
      have again := faithful block kept lies found
      rw [highlighted] at again
      cases again
      simp only [found]
      exact ⟨_, rfl, rfl⟩

/-- A block that cannot be highlighted is not in the cache. -/
theorem runBlock_of_error (faithful : pass.Faithful) {record : PassRecord}
    {block : CodeBlock} {fault : HighlightError} (lies : block.LiesIn pass.document)
    (failed : pass.highlight block = .error fault) :
    pass.runBlock record block = .error fault := by
  unfold runBlock
  cases found : pass.previous.get? (pass.key block) with
  | none =>
      have again : pass.engine.highlightBlock pass.registry pass.document block = .error fault :=
        failed
      simp only [found, again]
  | some kept =>
      have again := faithful block kept lies found
      rw [failed] at again
      cases again

/-- The blocks of one language get the ranges that they get without cache, and
leave what is met in the cache. -/
theorem of_runBlocks (faithful : pass.Faithful) {blocks : List CodeBlock}
    (lie : ∀ block ∈ blocks, block.LiesIn pass.document) {record next : PassRecord}
    {result : Except HighlightError (List StyleRange)}
    (ends : pass.runBlocks looks record blocks = .ok (next, result)) :
    next.cache = record.cache.insertAll (pass.met blocks) ∧
      result = (blocks.mapM pass.highlight).map List.flatten := by
  induction blocks generalizing record next result with
  | nil =>
      cases ends
      exact ⟨rfl, rfl⟩
  | cons block rest ih =>
      rcases List.forall_mem_cons.mp lie with ⟨first, others⟩
      rcases HighlightError.ok_of_bind ends with ⟨looked, shown, ends⟩
      have same : looked.cache = record.cache := cache_of_look shown
      cases highlighted : pass.highlight block with
      | error fault =>
          rw [runBlock_of_error faithful first highlighted] at ends
          cases ends
          simp only [met, highlighted, List.mapM_cons]
          exact ⟨same, rfl⟩
      | ok ranges =>
          rcases runBlock_of_ok faithful first highlighted with ⟨after, done, kept⟩
          rw [done] at ends
          rcases HighlightError.ok_of_bind ends with ⟨⟨last, inner⟩, later, ends⟩
          cases ends
          rcases ih others later with ⟨cached, computed⟩
          rw [kept, same] at cached
          simp only [met, highlighted, List.mapM_cons]
          refine ⟨cached, ?_⟩
          rw [computed]
          cases rest.mapM pass.highlight with
          | error fault => rfl
          | ok others => rfl

/-- What one language has without cache, where failures are passed over. -/
def plainLanguage (pass : Pass) (language : String) : Except HighlightError (List StyleRange) :=
  HighlightError.skip [] (pass.engine.highlightLanguage pass.registry pass.document language)

theorem skip_of_runBlocks (faithful : pass.Faithful) {language : String}
    {record next : PassRecord} {result : Except HighlightError (List StyleRange)}
    (ends : pass.runBlocks looks record (pass.blocks language) = .ok (next, result)) :
    next.cache = record.cache.insertAll (pass.met (pass.blocks language)) ∧
      HighlightError.skip [] result = pass.plainLanguage language := by
  have lie : ∀ block ∈ pass.blocks language, block.LiesIn pass.document :=
    fun block => FenceScanner.liesIn_of_mem_blocks
  rcases of_runBlocks faithful lie ends with ⟨cached, computed⟩
  rw [computed]
  exact ⟨cached, rfl⟩

/-- All languages get the ranges that they get without cache, and leave what is
met in the cache. -/
theorem of_runLanguages (faithful : pass.Faithful) {languages : List String}
    {record next : PassRecord} {ranges : List StyleRange}
    (ends : pass.runLanguages looks record languages = .ok (next, ranges)) :
    next.cache = record.cache.insertAll
        (languages.flatMap fun language => pass.met (pass.blocks language)) ∧
      ∃ parts, languages.mapM pass.plainLanguage = .ok parts ∧ ranges = parts.flatten := by
  induction languages generalizing record next ranges with
  | nil =>
      cases ends
      exact ⟨rfl, [], rfl, rfl⟩
  | cons language rest ih =>
      rcases HighlightError.ok_of_bind ends with ⟨⟨middle, result⟩, first, ends⟩
      rcases skip_of_runBlocks faithful first with ⟨cached, computed⟩
      cases skipped : HighlightError.skip [] result with
      | error fault =>
          simp only [skipped] at ends
          cases ends
      | ok own =>
          simp only [skipped] at ends
          rcases HighlightError.ok_of_bind ends with ⟨⟨last, others⟩, later, ends⟩
          cases ends
          rcases ih later with ⟨cachedLater, parts, computedLater, rfl⟩
          rw [cached, ← BlockCache.insertAll_append] at cachedLater
          refine ⟨cachedLater, own :: parts, ?_, rfl⟩
          rw [List.mapM_cons, ← computed, skipped, computedLater]
          rfl

/-- A pass breaks off where a span breaks without cache. -/
theorem broken_of_runLanguages (faithful : pass.Faithful) {languages : List String}
    {record : PassRecord} (breaks : pass.runLanguages looks record languages = .error .broken) :
    languages.mapM pass.plainLanguage = .error .brokenSpan := by
  induction languages generalizing record with
  | nil => cases breaks
  | cons language rest ih =>
      rcases HighlightError.error_of_bind breaks with stops | ⟨⟨middle, result⟩, first, breaks⟩
      · exact absurd stops runBlocks_ne_broken
      · have computed := (skip_of_runBlocks faithful first).2
        cases skipped : HighlightError.skip [] result with
        | error fault =>
            rw [(HighlightError.skip_eq_error_iff.mp skipped).1] at skipped
            rw [List.mapM_cons, ← computed, skipped]
            rfl
        | ok own =>
            simp only [skipped] at breaks
            rcases HighlightError.error_of_bind breaks with stops | ⟨_, _, ends⟩
            · rw [List.mapM_cons, ← computed, skipped, ih stops]
              rfl
            · cases ends

/-- If a pass comes to its end, its ranges are those of plain highlighting, and
its cache is the one that belongs to its snapshot. -/
theorem of_run (faithful : pass.Faithful) {result : PassResult}
    (ends : pass.run looks = .ok result) :
    pass.plain = .ok result.ranges ∧ result.record.cache = pass.newCache := by
  rcases HighlightError.ok_of_bind ends with ⟨record, shown, ends⟩
  have empty : record.cache = {} := cache_of_look shown
  unfold plain Engine.highlightDocument newCache
  by_cases enabled : pass.engine.enabled = true
  · rw [if_pos enabled] at ends
    rcases HighlightError.ok_of_bind ends with ⟨⟨last, ranges⟩, all, ends⟩
    cases ends
    rcases of_runLanguages faithful all with ⟨cached, parts, computed, rfl⟩
    rw [empty] at cached
    rw [if_pos enabled, if_pos enabled]
    refine ⟨?_, cached⟩
    change (pass.languages.mapM pass.plainLanguage >>= _) = _
    rw [computed]
    rfl
  · rw [if_neg enabled] at ends
    cases ends
    rw [if_neg enabled, if_neg enabled]
    exact ⟨rfl, empty⟩

/-- If a pass comes to a broken span, so does plain highlighting. -/
theorem broken_of_run (faithful : pass.Faithful) (breaks : pass.run looks = .error .broken) :
    pass.plain = .error .brokenSpan := by
  rcases HighlightError.error_of_bind breaks with stops | ⟨record, _, breaks⟩
  · exact absurd stops look_ne_broken
  · by_cases enabled : pass.engine.enabled = true
    · rw [if_pos enabled] at breaks
      rcases HighlightError.error_of_bind breaks with all | ⟨_, _, ends⟩
      · unfold plain Engine.highlightDocument
        rw [if_pos enabled]
        change (pass.languages.mapM pass.plainLanguage >>= _) = _
        rw [broken_of_runLanguages faithful all]
        rfl
      · cases ends
    · rw [if_neg enabled] at breaks
      cases breaks

/-- A pass that is not superseded comes to what plain highlighting comes to. -/
theorem run_of_unsuperseded (faithful : pass.Faithful)
    (shown : ∀ look, looks look = some pass.revision) :
    (pass.run looks = .error .broken ∧ pass.plain = .error .brokenSpan) ∨
      ∃ result, pass.run looks = .ok result ∧ pass.plain = .ok result.ranges := by
  rcases run_of_shown shown with breaks | ⟨result, ends⟩
  · exact Or.inl ⟨breaks, broken_of_run faithful breaks⟩
  · exact Or.inr ⟨result, ends, (of_run faithful ends).1⟩

/-- What is met is met at a block, under the version of the pass. -/
theorem mem_met {blocks : List CodeBlock} {entry : BlockCache.Entry}
    (member : entry ∈ pass.met blocks) :
    ∃ block ∈ blocks, entry.1 = pass.key block ∧ pass.highlight block = .ok entry.2 := by
  induction blocks with
  | nil => cases member
  | cons block rest ih =>
      unfold met at member
      cases highlighted : pass.highlight block with
      | error fault =>
          simp only [highlighted] at member
          cases member
      | ok ranges =>
          simp only [highlighted] at member
          rcases List.mem_cons.mp member with same | later
          · rw [same]
            exact ⟨block, List.mem_cons_self, rfl, highlighted⟩
          · rcases ih later with ⟨other, listed, found⟩
            exact ⟨other, List.mem_cons_of_mem block listed, found⟩

/-- If no block fails, all blocks are met. -/
theorem met_complete {blocks : List CodeBlock} {ranges : List (List StyleRange)}
    (succeeds : blocks.mapM pass.highlight = .ok ranges) :
    (pass.met blocks).map Prod.fst = blocks.map pass.key := by
  induction blocks generalizing ranges with
  | nil => rfl
  | cons block rest ih =>
      rw [List.mapM_cons] at succeeds
      rcases HighlightError.ok_of_bind succeeds with ⟨first, highlighted, continued⟩
      rcases HighlightError.ok_of_bind continued with ⟨others, later, _⟩
      simp only [met, highlighted, List.map_cons, ih later]

theorem mem_newCache_keys (key : BlockKey) :
    key ∈ pass.newCache.keys ↔ pass.engine.enabled = true ∧
      ∃ language ∈ pass.languages, key ∈ (pass.met (pass.blocks language)).map Prod.fst := by
  unfold newCache
  by_cases enabled : pass.engine.enabled = true
  · rw [if_pos enabled, BlockCache.mem_keys_insertAll, List.map_flatMap, List.mem_flatMap]
    simp [enabled, BlockCache.keys]
  · rw [if_neg enabled]
    simp [enabled, BlockCache.keys]

/-- The new cache has only blocks that the document has now, under the present
version. -/
theorem key_of_mem_newCache {key : BlockKey} (member : key ∈ pass.newCache.keys) :
    key.version = pass.registry.version ∧
      ∃ language ∈ pass.languages, key.block ∈ pass.blocks language := by
  rcases ((mem_newCache_keys key).mp member).2 with ⟨language, listed, kept⟩
  rcases List.mem_map.mp kept with ⟨entry, entryMet, same⟩
  rcases mem_met entryMet with ⟨block, found, keyed, _⟩
  rw [← same, keyed]
  exact ⟨rfl, language, listed, found⟩

/-- The new cache has all blocks of each language that does not fail. -/
theorem newCache_complete (enabled : pass.engine.enabled = true) {language : String}
    (listed : language ∈ pass.languages) {ranges : List StyleRange}
    (succeeds : pass.engine.highlightLanguage pass.registry pass.document language = .ok ranges)
    {block : CodeBlock} (found : block ∈ pass.blocks language) :
    pass.key block ∈ pass.newCache.keys := by
  rcases HighlightError.ok_of_bind succeeds with ⟨parts, highlighted, _⟩
  refine (mem_newCache_keys _).mpr ⟨enabled, language, listed, ?_⟩
  have complete : (pass.met (pass.blocks language)).map Prod.fst =
      (pass.blocks language).map pass.key := met_complete highlighted
  rw [complete]
  exact List.mem_map_of_mem found

/-- The new cache is valid, whatever the cache before it was. -/
theorem valid_newCache (locality : pass.engine.Local) {registries : List Registry}
    (current : pass.registry ∈ registries) :
    pass.newCache.Valid pass.engine registries := by
  unfold newCache
  by_cases enabled : pass.engine.enabled = true
  · rw [if_pos enabled]
    refine (BlockCache.valid_empty _ _).insertAll ?_
    intro entry member
    rcases List.mem_flatMap.mp member with ⟨language, _, entryMet⟩
    rcases mem_met entryMet with ⟨block, found, keyed, highlighted⟩
    have lies := FenceScanner.liesIn_of_mem_blocks found
    have holds := BlockCache.holds_of_highlightBlock locality current lies highlighted
    unfold BlockCache.Holds at holds ⊢
    rw [keyed]
    exact holds
  · rw [if_neg enabled]
    exact BlockCache.valid_empty _ _

end Pass
end FencedHighlight
