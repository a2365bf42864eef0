import Mathlib.Data.List.Flatten
import FencedHighlight.Proofs.CodeBlock.Parse
import FencedHighlight.Proofs.Engine.Validity
import FencedHighlight.Proofs.StyleRange.Sorting

namespace FencedHighlight

/-!
The languages of a document.

What a language contributes depends on its own blocks alone.  If its grammar is unknown
or any of its blocks fails, it contributes nothing, however many of its blocks have been
highlighted before.  All contributions are sorted together by one stable sort, so the
languages neither lose nor reorder each other's ranges, and the order in which they are
listed shows only in the order of ranges over the same stretch.  Only a broken span is
lost on all languages alike.
-/

/-- Every block that a scan finds is one of its language. -/
theorem FenceScanner.language_of_mem_blocks {scanner : FenceScanner} {document : Text}
    {block : CodeBlock} (member : block ∈ scanner.blocks document) :
    block.language = scanner.language := by
  rcases exists_blockAt?_of_mem member with ⟨start, place, after, found⟩
  rcases (blockAt?_eq_some_iff_parts).mp found with ⟨_, _, _, _, _, _, _, _, parts⟩
  rw [parts]

namespace Engine

variable {engine : Engine} {registry : Registry} {document : Text} {language : String}

/-- Whether a language is not known, or some block of it cannot be highlighted, and the
engine does not come to a broken span before. -/
structure Fails (engine : Engine) (registry : Registry) (document : Text) (language : String) :
    Prop where
  faulty : registry.lookup? language = none ∨
    ∃ block ∈ (engine.scanner language).blocks document, ∃ fault,
      engine.highlightBlock registry document block = .error fault
  unbroken : ¬ engine.Breaks registry document language

/-- No block of an unknown language can be highlighted. -/
theorem highlightBlock_of_unknown (unknown : registry.lookup? language = none) {block : CodeBlock}
    (member : block ∈ (engine.scanner language).blocks document) :
    engine.highlightBlock registry document block = .error (.grammarNotFound language) := by
  have own : block.language = language := FenceScanner.language_of_mem_blocks member
  rw [highlightBlock, highlight, own, Registry.lookup, unknown]
  rfl

/-- The engine comes to no span of an unknown language. -/
theorem not_breaks_of_unknown (unknown : registry.lookup? language = none) :
    ¬ engine.Breaks registry document language := by
  rintro ⟨_, before, block, after, split, _, broken⟩
  have member : block ∈ (engine.scanner language).blocks document := by
    rw [split]
    exact List.mem_append_cons_self
  rw [highlightBlock_of_unknown unknown member] at broken
  cases broken

/-- A language that fails contributes nothing, not even the ranges of its other blocks. -/
theorem contribution_of_fails (fails : engine.Fails registry document language) :
    engine.contribution registry document language = [] := by
  rcases engine.contribution_eq registry document language with nothing | result
  · exact nothing
  · rcases parts_of_highlightLanguage result with ⟨parts, whole, results⟩
    have faultless : ∀ block ∈ (engine.scanner language).blocks document,
        ¬ ∃ fault, engine.highlightBlock registry document block = .error fault := by
      rintro block member ⟨fault, faulty⟩
      rcases List.mem_iff_getElem.mp member with ⟨index, inside, found⟩
      have succeeds := results.get inside (results.length_eq ▸ inside)
      rw [List.get_eq_getElem, found, faulty] at succeeds
      cases succeeds
    rcases fails.faulty with unknown | ⟨block, member, faulty⟩
    · have blockless := List.eq_nil_iff_forall_not_mem.mpr fun block member =>
        faultless block member ⟨_, highlightBlock_of_unknown unknown member⟩
      rw [blockless, List.forall₂_nil_left_iff] at results
      rw [whole, results]
      rfl
    · exact absurd faulty (faultless block member)

/-- Any other language contributes the ranges of its blocks, one block after the other. -/
theorem parts_of_not_fails (enabled : engine.enabled = true)
    (unbroken : ¬ engine.Breaks registry document language)
    (succeeds : ¬ engine.Fails registry document language) :
    ∃ parts, engine.contribution registry document language = parts.flatten ∧
      List.Forall₂ (fun block ranges => engine.highlightBlock registry document block = .ok ranges)
        ((engine.scanner language).blocks document) parts := by
  cases result : engine.highlightLanguage registry document language with
  | error fault =>
      rcases highlightLanguage_eq_error_iff.mp result with ⟨before, block, after, split, _, faulty⟩
      have member : block ∈ (engine.scanner language).blocks document := by
        rw [split]
        exact List.mem_append_cons_self
      exact absurd ⟨Or.inr ⟨block, member, fault, faulty⟩, unbroken⟩ succeeds
  | ok own =>
      rw [contribution_of_ok enabled result]
      exact parts_of_highlightLanguage result

/-! ## Documents with several languages -/

/-- Leaving out languages takes their ranges away and moves no others. -/
theorem highlightDocument_sublist {fewer more : List String} (part : fewer.Sublist more)
    {ranges : List StyleRange}
    (result : engine.highlightDocument registry more document = .ok ranges) :
    ∃ others, engine.highlightDocument registry fewer document = .ok others ∧
      others.Sublist ranges := by
  rcases highlightDocument_eq_ok_iff.mp result with ⟨unbroken, rfl⟩
  exact ⟨_, highlightDocument_of_unbroken fun language listed => unbroken language (part.mem listed),
    StyleRange.sort_sublist (part.flatMap _)⟩

/-- A language that fails might as well not be listed. -/
theorem highlightDocument_without (fails : engine.Fails registry document language)
    (before after : List String) :
    engine.highlightDocument registry (before ++ language :: after) document =
      engine.highlightDocument registry (before ++ after) document := by
  rcases engine.highlightDocument_cases registry (before ++ after) document with
    ⟨ranges, result⟩ | ⟨broken, other, listed, breaks⟩
  · rcases highlightDocument_eq_ok_iff.mp result with ⟨unbroken, same⟩
    rw [result]
    refine highlightDocument_eq_ok_iff.mpr ⟨?_, ?_⟩
    · intro other listed
      rcases List.mem_append.mp listed with first | last
      · exact unbroken other (List.mem_append_left _ first)
      · rcases List.mem_cons.mp last with rfl | last
        · exact fails.unbroken
        · exact unbroken other (List.mem_append_right _ last)
    · rw [same, List.flatMap_append, List.flatMap_append, List.flatMap_cons,
        contribution_of_fails fails, List.nil_append]
  · have among : other ∈ before ++ language :: after :=
      ((List.sublist_cons_self language after).append_left before).mem listed
    rw [broken, highlightDocument_of_breaks among breaks]

/-- Listing the languages in another order only moves ranges over the same stretch. -/
theorem highlightDocument_perm {first second : List String} (shuffled : first.Perm second)
    {ranges : List StyleRange}
    (result : engine.highlightDocument registry first document = .ok ranges) :
    ∃ others, engine.highlightDocument registry second document = .ok others ∧
      ranges.Perm others ∧ ranges.map StyleRange.span = others.map StyleRange.span := by
  rcases highlightDocument_eq_ok_iff.mp result with ⟨unbroken, rfl⟩
  have contributed := shuffled.flatMap_right (engine.contribution registry document)
  exact ⟨_, highlightDocument_of_unbroken fun language listed =>
      unbroken language (shuffled.mem_iff.mpr listed),
    (StyleRange.perm_sort _).trans (contributed.trans (StyleRange.perm_sort _).symm),
    StyleRange.map_span_sort_of_perm contributed⟩

/-- What the languages of a document have to do with each other.  A span that breaks loses
the document, in whatever place its language is listed.  Otherwise the ranges are those
that the languages contribute one by one, stably sorted; a language that fails might as
well not be listed, more languages do not disturb the order among the ranges of fewer,
and in whatever order the languages are listed, the same ranges lie over the same
stretches in the same order. -/
theorem highlightDocument_languages (enabled : engine.enabled = true) (registry : Registry)
    (document : Text) :
    (∀ languages fault, engine.highlightDocument registry languages document = .error fault ↔
      fault = .brokenSpan ∧
        ∃ language ∈ languages, engine.Breaks registry document language) ∧
    (∀ languages ranges, engine.highlightDocument registry languages document = .ok ranges ↔
      (∀ language ∈ languages, ¬ engine.Breaks registry document language) ∧
        StyleRange.SortsStably (languages.flatMap (engine.contribution registry document))
          ranges) ∧
    (∀ language, engine.Fails registry document language ->
      engine.contribution registry document language = []) ∧
    (∀ language, registry.lookup? language = none -> engine.Fails registry document language) ∧
    (∀ language, ¬ engine.Breaks registry document language ->
      ¬ engine.Fails registry document language ->
      ∃ parts, engine.contribution registry document language = parts.flatten ∧
        List.Forall₂
          (fun block ranges => engine.highlightBlock registry document block = .ok ranges)
          ((engine.scanner language).blocks document) parts) ∧
    (∀ before language after, engine.Fails registry document language ->
      engine.highlightDocument registry (before ++ language :: after) document =
        engine.highlightDocument registry (before ++ after) document) ∧
    (∀ fewer more : List String, fewer.Sublist more ->
      ∀ ranges, engine.highlightDocument registry more document = .ok ranges ->
        ∃ others, engine.highlightDocument registry fewer document = .ok others ∧
          others.Sublist ranges) ∧
    ∀ first second : List String, first.Perm second ->
      ∀ ranges, engine.highlightDocument registry first document = .ok ranges ->
        ∃ others, engine.highlightDocument registry second document = .ok others ∧
          ranges.Perm others ∧ ranges.map StyleRange.span = others.map StyleRange.span := by
  refine ⟨fun _ _ => highlightDocument_eq_error_iff, ?_, fun _ => contribution_of_fails, ?_,
    fun _ => parts_of_not_fails enabled, fun before _ after fails =>
      highlightDocument_without fails before after, fun _ _ part _ =>
      highlightDocument_sublist part, fun _ _ shuffled _ => highlightDocument_perm shuffled⟩
  · intro languages ranges
    rw [highlightDocument_eq_ok_iff, ← StyleRange.sort_eq_iff]
    exact and_congr_right fun _ => eq_comm
  · exact fun language unknown => ⟨Or.inl unknown, not_breaks_of_unknown unknown⟩

/-- A document that is a block of the grammar that embeds itself between parentheses. -/
def nestedBlock : CodeBlock :=
  { language := "nest"
    raw := Text.ofString "```nest\n(x)\n```"
    offset := 0
    body := some ⟨8, 11⟩ }

theorem highlightDocument_languages_unknown :
    (ofSettings {}).enabled = true ∧
      (ofSettings {}).Fails Tokenizer.nesting nestedBlock.raw "css" ∧
      (ofSettings {}).highlightDocument Tokenizer.nesting ["css", "nest"] nestedBlock.raw =
        .ok [⟨9, 10, "language-nest", none⟩] := by
  have enabled : (ofSettings {}).enabled = true := rfl
  have found : ((ofSettings {}).scanner "nest").blockAt? 0 nestedBlock.raw =
      some (nestedBlock, []) := by
    decide +kernel
  have scanned : ((ofSettings {}).scanner "nest").blocks nestedBlock.raw = [nestedBlock] := by
    refine (FenceScanner.blocksFrom_of_found found).trans ?_
    rw [FenceScanner.blocksFrom_nil (by decide +kernel)]
  have highlighted : (ofSettings {}).highlightBlock Tokenizer.nesting nestedBlock.raw nestedBlock =
      .ok [⟨9, 10, "language-nest", none⟩] := by
    decide +kernel
  have own : (ofSettings {}).highlightLanguage Tokenizer.nesting nestedBlock.raw "nest" =
      .ok [⟨9, 10, "language-nest", none⟩] := by
    rw [highlightLanguage, scanned, List.mapM_cons, highlighted]
    rfl
  have unbroken : ∀ language ∈ ["nest"],
      ¬ (ofSettings {}).Breaks Tokenizer.nesting nestedBlock.raw language :=
    List.forall_mem_singleton.mpr (not_breaks_of_ok own)
  rcases highlightDocument_languages enabled Tokenizer.nesting nestedBlock.raw with
    ⟨_, sorted, _, unknown, _, without, _, _⟩
  have fails := unknown "css" rfl
  refine ⟨enabled, fails, ?_⟩
  refine (without [] "css" ["nest"] fails).trans ((sorted _ _).mpr ⟨unbroken, ?_⟩)
  rw [List.nil_append, List.flatMap_singleton, contribution_of_ok enabled own,
    ← StyleRange.sort_eq_iff]
  exact List.mergeSort_singleton _

end Engine
end FencedHighlight
