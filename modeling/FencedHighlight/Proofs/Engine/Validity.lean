import FencedHighlight.Proofs.CodeBlock.Placement
import FencedHighlight.Proofs.Engine.Outcome
import FencedHighlight.Proofs.Projection.Order
import FencedHighlight.Proofs.Tokenizer.Coverage

namespace FencedHighlight

/-!
The ranges of a highlighted document.

Those of a block are the ranges of its tokens in preorder, placed where the block
lies.  The blocks of a language follow one another, so the ranges of all of them
are in preorder as well, and hence sorted.  Sorting the ranges of all languages
together therefore keeps those of each language in their order.
-/

namespace Tokenizer

theorem project_of_tokenize {scope : Scope} {grammar : GrammarId} {text : Text}
    {tokens : List Token} (ends : tokenize scope grammar text = .ok tokens) (base : Nat) :
    Projection.project tokens base = Projection.preorder base tokens := by
  have enumerated := (tiling_of_tokenize ends).project_eq_preorder base
  rwa [List.reverse_reverse] at enumerated

theorem filled_of_tokenize {scope : Scope} {grammar : GrammarId} {text : Text}
    {tokens : List Token} (ends : tokenize scope grammar text = .ok tokens) (base : Nat) :
    ∀ range ∈ Projection.preorder base tokens, range.start < range.stop := by
  have filled := (tiling_of_tokenize ends).filled_preorder base
  rwa [List.reverse_reverse] at filled

end Tokenizer

/-- Ranges in a block of a document, in preorder. -/
structure CodeBlock.Covered (document : Text) (block : CodeBlock) (ranges : List StyleRange) :
    Prop where
  filled : ∀ range ∈ ranges, range.start < range.stop
  boundaries : ∀ range ∈ ranges, Text.isBoundary document range.start = true ∧
    Text.isBoundary document range.stop = true
  inside : ∀ range ∈ ranges, block.offset ≤ range.start ∧ range.stop ≤ block.stop
  ordered : ranges.Pairwise StyleRange.Precedes

namespace CodeBlock

/-- The ranges of tokens that cover a block lie in it. -/
theorem covered_preorder {document : Text} {block : CodeBlock} {tokens : List Token}
    (lies : block.LiesIn document) (covers : Token.textOf tokens = block.raw)
    (filled : ∀ range ∈ Projection.preorder block.offset tokens, range.start < range.stop) :
    Covered document block (Projection.preorder block.offset tokens) := by
  refine ⟨filled, ?_, ?_, Projection.pairwise_preorder _ _⟩
  · rcases (Text.slice?_eq_some_iff).mp lies with ⟨before, after, rfl, place, _⟩
    intro range member
    rw [← place] at member
    have inside := Projection.boundaries_preorder before tokens range member
    rw [covers] at inside
    exact ⟨Text.isBoundary_append_left after inside.1,
      Text.isBoundary_append_left after inside.2⟩
  · intro range member
    have within := Projection.within_preorder block.offset tokens range member
    rw [Token.sizeOf_eq_size_textOf, covers] at within
    exact ⟨within.low_le_start, within.stop_le_high⟩

/-- Ranges that are changed, but not moved, stay in their block. -/
theorem Covered.map {document : Text} {block : CodeBlock} {ranges : List StyleRange}
    (covered : Covered document block ranges) {change : StyleRange -> StyleRange}
    (kept : ∀ range, (change range).start = range.start ∧ (change range).stop = range.stop) :
    Covered document block (ranges.map change) := by
  constructor
  · intro range member
    rcases List.mem_map.mp member with ⟨old, listed, rfl⟩
    rw [(kept old).1, (kept old).2]
    exact covered.filled old listed
  · intro range member
    rcases List.mem_map.mp member with ⟨old, listed, rfl⟩
    rw [(kept old).1, (kept old).2]
    exact covered.boundaries old listed
  · intro range member
    rcases List.mem_map.mp member with ⟨old, listed, rfl⟩
    rw [(kept old).1, (kept old).2]
    exact covered.inside old listed
  · refine List.pairwise_map.mpr (covered.ordered.imp ?_)
    intro first second precedes
    rw [StyleRange.Precedes, (kept first).1, (kept first).2, (kept second).1, (kept second).2]
    exact precedes

/-- Each range of some blocks lies in one of them. -/
theorem exists_of_mem_flatten {document : Text} {blocks : List CodeBlock}
    {parts : List (List StyleRange)} (covered : List.Forall₂ (Covered document) blocks parts)
    {range : StyleRange} (member : range ∈ parts.flatten) :
    ∃ block ∈ blocks, ∃ ranges, Covered document block ranges ∧ range ∈ ranges := by
  induction covered with
  | nil => cases member
  | @cons block ranges blocks parts first later ih =>
      rw [List.flatten_cons] at member
      rcases List.mem_append.mp member with here | farther
      · exact ⟨block, List.mem_cons_self, ranges, first, here⟩
      · rcases ih farther with ⟨other, listed, inside⟩
        exact ⟨other, List.mem_cons_of_mem _ listed, inside⟩

/-- The ranges of blocks that follow one another are in preorder. -/
theorem pairwise_flatten {document : Text} {blocks : List CodeBlock}
    {parts : List (List StyleRange)} (covered : List.Forall₂ (Covered document) blocks parts)
    (apart : blocks.Pairwise fun first second => first.stop ≤ second.offset) :
    parts.flatten.Pairwise StyleRange.Precedes := by
  induction covered with
  | nil => exact List.Pairwise.nil
  | @cons block ranges blocks parts first later ih =>
      rcases List.pairwise_cons.mp apart with ⟨ahead, apart⟩
      rw [List.flatten_cons]
      refine List.pairwise_append.mpr ⟨first.ordered, ih apart, ?_⟩
      intro earlier earlierMember range member
      rcases exists_of_mem_flatten later member with ⟨other, listed, others, inside, among⟩
      have before := (first.inside earlier earlierMember).2
      have behind := (inside.inside range among).1
      exact Or.inl (Nat.le_trans before (Nat.le_trans (ahead other listed) behind))

end CodeBlock

namespace Engine

variable {engine : Engine} {registry : Registry} {document : Text}

/-- Whether the adjustments change ranges one by one and move none of them. -/
def KeepsPlaces (engine : Engine) : Prop :=
  ∀ source, ∃ change : StyleRange -> StyleRange,
    (∀ range, (change range).start = range.start ∧ (change range).stop = range.stop) ∧
      ∀ ranges, engine.adjust source ranges = ranges.map change

/-- Titles move no range. -/
theorem keepsPlaces_ofSettings (settings : Settings) : (ofSettings settings).KeepsPlaces := by
  intro source
  refine ⟨_, ?_, fun ranges => rfl⟩
  intro range
  split
  · split <;> exact ⟨rfl, rfl⟩
  · exact ⟨rfl, rfl⟩

/-- The ranges of a block are those of its tokens in preorder. -/
theorem preorder_of_highlightBlock {block : CodeBlock} {ranges : List StyleRange}
    (result : engine.highlightBlock registry document block = .ok ranges) :
    ∃ grammar tokens, registry.lookup block.language = .ok grammar ∧
      registry.tokenize grammar block.raw = .ok tokens ∧
      ranges = engine.adjust document (Projection.preorder block.offset tokens) := by
  rcases HighlightError.ok_of_bind result with ⟨grammar, found, result⟩
  rcases HighlightError.ok_of_bind result with ⟨tokens, ends, same⟩
  refine ⟨grammar, tokens, found, ends, ?_⟩
  rw [← Tokenizer.project_of_tokenize ends]
  exact (Except.ok.inj same).symm

theorem covered_of_highlightBlock (keeps : engine.KeepsPlaces) {block : CodeBlock}
    {ranges : List StyleRange} (lies : block.LiesIn document)
    (result : engine.highlightBlock registry document block = .ok ranges) :
    CodeBlock.Covered document block ranges := by
  rcases preorder_of_highlightBlock result with ⟨grammar, tokens, _, ends, rfl⟩
  rcases keeps document with ⟨change, kept, adjusted⟩
  rw [adjusted]
  have covers := Tokenizer.textOf_of_tokenize ends
  have filled := Tokenizer.filled_of_tokenize ends block.offset
  exact (CodeBlock.covered_preorder lies covers filled).map kept

/-- The ranges of a language are those of its blocks, one block after the other. -/
theorem parts_of_highlightLanguage {language : String} {own : List StyleRange}
    (result : engine.highlightLanguage registry document language = .ok own) :
    ∃ parts, own = parts.flatten ∧
      List.Forall₂ (fun block ranges => engine.highlightBlock registry document block = .ok ranges)
        ((engine.scanner language).blocks document) parts := by
  rcases HighlightError.ok_of_bind result with ⟨parts, succeeds, same⟩
  exact ⟨parts, (Except.ok.inj same).symm, HighlightError.mapM_eq_ok_iff.mp succeeds⟩

theorem covered_of_parts (keeps : engine.KeepsPlaces) {language : String}
    {parts : List (List StyleRange)}
    (results : List.Forall₂
      (fun block ranges => engine.highlightBlock registry document block = .ok ranges)
      ((engine.scanner language).blocks document) parts) :
    List.Forall₂ (CodeBlock.Covered document) ((engine.scanner language).blocks document)
      parts := by
  have placed := (List.forall₂_and_left _ _).mpr
    ⟨fun block listed => FenceScanner.liesIn_of_mem_blocks listed, results⟩
  exact placed.imp fun block ranges both => covered_of_highlightBlock keeps both.1 both.2

/-! ## Languages -/

theorem pairwise_contribution (keeps : engine.KeepsPlaces) (language : String) :
    (engine.contribution registry document language).Pairwise StyleRange.Precedes := by
  rcases engine.contribution_eq registry document language with none | result
  · rw [none]
    exact List.Pairwise.nil
  · rcases parts_of_highlightLanguage result with ⟨parts, same, results⟩
    rw [same]
    exact CodeBlock.pairwise_flatten (covered_of_parts keeps results)
      (FenceScanner.pairwise_blocks _ document)

/-- Every range of a language lies in one of its blocks. -/
theorem exists_block_of_mem (keeps : engine.KeepsPlaces) {language : String}
    {range : StyleRange} (member : range ∈ engine.contribution registry document language) :
    ∃ block ∈ (engine.scanner language).blocks document, ∃ ranges,
      CodeBlock.Covered document block ranges ∧ range ∈ ranges := by
  rcases engine.contribution_eq registry document language with none | result
  · rw [none] at member
    cases member
  · rcases parts_of_highlightLanguage result with ⟨parts, same, results⟩
    rw [same] at member
    exact CodeBlock.exists_of_mem_flatten (covered_of_parts keeps results) member

/-- A token tree from which a language gets some of its ranges. -/
structure Contributes (engine : Engine) (registry : Registry) (document : Text)
    (language : String) (block : CodeBlock) (tokens : List Token) : Prop where
  enabled : engine.enabled = true
  succeeds : ∃ own, engine.highlightLanguage registry document language = .ok own
  listed : block ∈ (engine.scanner language).blocks document
  tokenized : ∃ grammar, registry.lookup block.language = .ok grammar ∧
    registry.tokenize grammar block.raw = .ok tokens

/-- The ranges of the tree are part of what the language contributes, in preorder. -/
theorem Contributes.sublist {language : String} {block : CodeBlock} {tokens : List Token}
    (contributes : Contributes engine registry document language block tokens) :
    (engine.adjust document (Projection.preorder block.offset tokens)).Sublist
      (engine.contribution registry document language) := by
  rcases contributes.succeeds with ⟨own, result⟩
  rcases parts_of_highlightLanguage result with ⟨parts, same, results⟩
  rw [contribution_of_ok contributes.enabled result, same]
  apply List.sublist_flatten_of_mem
  rcases List.mem_iff_getElem.mp contributes.listed with ⟨index, inside, found⟩
  have highlighted := results.get inside (results.length_eq ▸ inside)
  rw [List.get_eq_getElem, List.get_eq_getElem, found] at highlighted
  rcases preorder_of_highlightBlock highlighted with ⟨grammar, others, known, ends, ranges⟩
  rcases contributes.tokenized with ⟨grammar', known', ends'⟩
  rcases Except.ok.inj (known.symm.trans known') with rfl
  rcases Except.ok.inj (ends.symm.trans ends') with rfl
  rw [← ranges]
  exact List.getElem_mem _

/-- What is promised of the ranges of a document. -/
structure Valid (engine : Engine) (registry : Registry) (languages : List String)
    (document : Text) (ranges : List StyleRange) : Prop where
  filled : ∀ range ∈ ranges, range.start < range.stop
  boundaries : ∀ range ∈ ranges, Text.isBoundary document range.start = true ∧
    Text.isBoundary document range.stop = true
  inBlock : ∀ range ∈ ranges, ∃ language ∈ languages,
    ∃ block ∈ (engine.scanner language).blocks document,
      block.offset ≤ range.start ∧ range.stop ≤ block.stop
  sorted : ranges.Pairwise fun first second =>
    first.start < second.start ∨ (first.start = second.start ∧ second.stop ≤ first.stop)
  contributed : ranges.Perm (languages.flatMap (engine.contribution registry document))
  /-- The ranges of a language stay in their order. -/
  inOrder : ∀ language ∈ languages,
    (engine.contribution registry document language).Sublist ranges
  /-- The ranges of a language do not cross each other. -/
  laminar : ∀ language ∈ languages,
    ∀ first ∈ engine.contribution registry document language,
      ∀ second ∈ engine.contribution registry document language, first.Laminar second
  /-- The range of a composite comes before those of all tokens inside it. -/
  outerFirst : ∀ language ∈ languages, ∀ block tokens,
    Contributes engine registry document language block tokens ->
    ∀ place kind synonym children,
      Projection.Occurs block.offset tokens place (.composite kind synonym children) ->
      (engine.adjust document
          [{ start := place, stop := place + Token.sizeOf children, tag := synonym.getD kind }] ++
        engine.adjust document (Projection.preorder place children)).Sublist ranges

theorem valid_of_keepsPlaces (keeps : engine.KeepsPlaces) {languages : List String}
    {ranges : List StyleRange}
    (result : engine.highlightDocument registry languages document = .ok ranges) :
    Valid engine registry languages document ranges := by
  rcases highlightDocument_eq_ok_iff.mp result with ⟨_, rfl⟩
  have origins : ∀ range ∈ StyleRange.sort
      (languages.flatMap (engine.contribution registry document)),
      ∃ language ∈ languages, ∃ block ∈ (engine.scanner language).blocks document, ∃ ranges,
        CodeBlock.Covered document block ranges ∧ range ∈ ranges := by
    intro range member
    rcases List.mem_flatMap.mp (List.mem_mergeSort.mp member) with ⟨language, listed, among⟩
    exact ⟨language, listed, exists_block_of_mem keeps among⟩
  have inOrder : ∀ language ∈ languages,
      (engine.contribution registry document language).Sublist
        (StyleRange.sort (languages.flatMap (engine.contribution registry document))) := by
    intro language listed
    refine List.sublist_mergeSort StyleRange.ahead_trans StyleRange.ahead_total ?_ ?_
    · refine StyleRange.ahead_of_pairwise (pairwise_contribution keeps language) ?_
      intro range member
      rcases exists_block_of_mem keeps member with ⟨block, _, ranges, covered, among⟩
      exact covered.filled range among
    · rw [List.flatMap_def]
      exact List.sublist_flatten_of_mem (List.mem_map_of_mem listed)
  constructor
  · intro range member
    rcases origins range member with ⟨_, _, block, _, ranges, covered, among⟩
    exact covered.filled range among
  · intro range member
    rcases origins range member with ⟨_, _, block, _, ranges, covered, among⟩
    exact covered.boundaries range among
  · intro range member
    rcases origins range member with ⟨language, listed, block, found, ranges, covered, among⟩
    exact ⟨language, listed, block, found, covered.inside range among⟩
  · refine (List.pairwise_mergeSort StyleRange.ahead_trans StyleRange.ahead_total _).imp ?_
    exact fun ahead => StyleRange.ahead_iff.mp ahead
  · exact List.mergeSort_perm _ _
  · exact inOrder
  · intro language _
    exact StyleRange.laminar_of_pairwise (pairwise_contribution keeps language)
  · intro language listed block tokens contributes place kind synonym children occurs
    rcases keeps document with ⟨change, _, adjusted⟩
    have inner := (occurs.contiguous.map change).sublist
    have whole := contributes.sublist
    rw [adjusted] at whole
    rw [adjusted, adjusted, ← List.map_append]
    exact inner.trans (whole.trans (inOrder language listed))

/-- Whatever the settings, the grammars and the languages, a document has ranges unless a
span breaks, and its ranges are valid. -/
theorem valid_highlightDocument (settings : Settings) (registry : Registry)
    (languages : List String) (document : Text) :
    (∃ ranges, (ofSettings settings).highlightDocument registry languages document = .ok ranges ∧
      Valid (ofSettings settings) registry languages document ranges) ∨
    ((ofSettings settings).highlightDocument registry languages document = .error .brokenSpan ∧
      ∃ language ∈ languages, (ofSettings settings).Breaks registry document language) := by
  rcases (ofSettings settings).highlightDocument_cases registry languages document with
    ⟨ranges, result⟩ | broken
  · exact Or.inl ⟨ranges, result, valid_of_keepsPlaces (keepsPlaces_ofSettings settings) result⟩
  · exact Or.inr broken

end Engine

end FencedHighlight
