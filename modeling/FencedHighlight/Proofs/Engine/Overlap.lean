import FencedHighlight.Proofs.CodeBlock.Overlap
import FencedHighlight.Proofs.Engine.Validity

namespace FencedHighlight
namespace Engine

/-!
The languages of a stretch of a document.

A range comes from a block of its own language.  It has nothing to do with the blocks of other
languages, unless one of them begins inside that block or that block begins inside one of them.
Where this is so, a stretch of the document is highlighted once for each of the languages.
-/

variable {settings : Settings} {registry : Registry} {document : Text} {languages : List String}
  {ranges : List StyleRange} {range : StyleRange}

theorem isPlain_scanner (fence : settings.fence = FenceScanner.defaultFence) {language : String}
    (letters : Unicode.IsAlphanumeric language) :
    ((ofSettings settings).scanner language).IsPlain :=
  FenceScanner.isPlain_of_isAlphanumeric (congrArg Text.ofString fence) letters

/-- Every range of a document comes from one of its languages, and lies in a block of it. -/
theorem exists_language_of_mem
    (result : (ofSettings settings).highlightDocument registry languages document = .ok ranges)
    (member : range ∈ ranges) :
    ∃ language ∈ languages, range ∈ (ofSettings settings).contribution registry document language ∧
      ∃ block ∈ ((ofSettings settings).scanner language).blocks document,
        block.offset ≤ range.start ∧ range.stop ≤ block.stop := by
  rw [(highlightDocument_eq_ok_iff.mp result).2] at member
  rcases List.mem_flatMap.mp (List.mem_mergeSort.mp member) with ⟨language, listed, among⟩
  rcases exists_block_of_mem (keepsPlaces_ofSettings settings) among with
    ⟨block, found, ranges, covered, inside⟩
  exact ⟨language, listed, among, block, found, covered.inside range inside⟩

/-- Blocks of different languages between default fences overlap exactly if one of them begins
inside the other, and they never begin at the same place.  Every range lies in a block of a
language that it comes from, and outside all blocks of other languages that keep to this. -/
theorem highlightDocument_apart (fence : settings.fence = FenceScanner.defaultFence)
    (letters : ∀ language ∈ languages, Unicode.IsAlphanumeric language) (registry : Registry)
    (document : Text) :
    (∀ first ∈ languages, ∀ second ∈ languages, Unicode.Differ first second ->
      ∀ block ∈ ((ofSettings settings).scanner first).blocks document,
        ∀ other ∈ ((ofSettings settings).scanner second).blocks document,
          block.offset ≠ other.offset ∧
            (block.Overlaps other ↔
              other.Intrudes document block ∨ block.Intrudes document other)) ∧
    ∀ ranges, (ofSettings settings).highlightDocument registry languages document = .ok ranges ->
      ∀ range ∈ ranges, ∃ first ∈ languages,
        range ∈ (ofSettings settings).contribution registry document first ∧
        ∃ block ∈ ((ofSettings settings).scanner first).blocks document,
          block.offset ≤ range.start ∧ range.stop ≤ block.stop ∧
          ∀ second ∈ languages, Unicode.Differ first second ->
            ∀ other ∈ ((ofSettings settings).scanner second).blocks document,
              ¬ other.Intrudes document block -> ¬ block.Intrudes document other ->
                range.stop ≤ other.offset ∨ other.stop ≤ range.start := by
  have apart : ∀ first ∈ languages, ∀ second ∈ languages, Unicode.Differ first second ->
      ∀ block ∈ ((ofSettings settings).scanner first).blocks document,
        ∀ other ∈ ((ofSettings settings).scanner second).blocks document,
          block.offset ≠ other.offset ∧
            (block.Overlaps other ↔
              other.Intrudes document block ∨ block.Intrudes document other) := by
    intro first listed second listed' differ block found other found'
    exact FenceScanner.overlaps_iff_intrudes (isPlain_scanner fence (letters first listed))
      (isPlain_scanner fence (letters second listed')) differ found found'
  refine ⟨apart, fun ranges result range member => ?_⟩
  rcases exists_language_of_mem result member with ⟨first, listed, among, block, found, starts, stops⟩
  refine ⟨first, listed, among, block, found, starts, stops, ?_⟩
  intro second listed' differ other found' outside outside'
  have overlaps := (apart first listed second listed' differ block found other found').2
  by_contra meets
  rw [not_or, Nat.not_le, Nat.not_le] at meets
  rcases overlaps.mp ⟨by omega, by omega⟩ with intrudes | intrudes
  · exact outside intrudes
  · exact outside' intrudes

/-- A grammar that embeds itself between parentheses, under two names. -/
def twins : Registry :=
  let grammar (name : String) := Grammar.empty.insert "group"
    [Registry.embeddingRule (Delimiters.pair "(" ")") name]
  (Registry.register {} "nest" (grammar "nest")).register "twin" (grammar "twin")

theorem differ_twins : Unicode.Differ "nest" "twin" := by
  have differ : Unicode.folded (Text.ofString "nest") ≠ Unicode.folded (Text.ofString "twin") := by
    decide +kernel
  exact differ

theorem isAlphanumeric_twins : ∀ language ∈ ["nest", "twin"], Unicode.IsAlphanumeric language := by
  have checked : ["nest", "twin"].all (fun language =>
      (Text.ofString language).all Unicode.isAlphanumeric) = true := by
    decide +kernel
  exact fun language listed char member =>
    List.all_eq_true.mp (List.all_eq_true.mp checked language listed) char member

/-- A document with two blocks, the second of which begins in the middle of a line of the
first. -/
def interleaved : Text :=
  Text.ofString "```nest\n ```twin\n(x)\n```"

theorem blocks_interleaved :
    ((ofSettings {}).scanner "nest").blocks interleaved = [⟨"nest", interleaved, 0, some ⟨8, 20⟩⟩] ∧
      ((ofSettings {}).scanner "twin").blocks interleaved =
        [⟨"twin", Text.ofString "```twin\n(x)\n```", 9, some ⟨8, 11⟩⟩] := by
  constructor <;> decide +kernel

theorem highlightDocument_interleaved :
    ∃ ranges, (ofSettings {}).highlightDocument twins ["nest", "twin"] interleaved = .ok ranges ∧
      ⟨18, 19, "language-nest", none⟩ ∈ ranges ∧ ⟨18, 19, "language-twin", none⟩ ∈ ranges := by
  have first : (ofSettings {}).highlightLanguage twins interleaved "nest" =
      .ok [⟨18, 19, "language-nest", none⟩] := by
    decide +kernel
  have second : (ofSettings {}).highlightLanguage twins interleaved "twin" =
      .ok [⟨18, 19, "language-twin", none⟩] := by
    decide +kernel
  have unbroken : ∀ language ∈ ["nest", "twin"],
      ¬ (ofSettings {}).Breaks twins interleaved language := by
    intro language listed
    rcases List.mem_pair.mp listed with rfl | rfl
    · exact not_breaks_of_ok first
    · exact not_breaks_of_ok second
  refine ⟨_, highlightDocument_of_unbroken unbroken, ?_, ?_⟩
  · refine List.mem_mergeSort.mpr (List.mem_flatMap.mpr ⟨"nest", List.mem_cons_self, ?_⟩)
    rw [contribution_of_ok rfl first]
    exact List.mem_singleton_self _
  · refine List.mem_mergeSort.mpr (List.mem_flatMap.mpr ⟨"twin", by simp, ?_⟩)
    rw [contribution_of_ok rfl second]
    exact List.mem_singleton_self _

theorem highlightDocument_apart_interleaved :
    ({} : Settings).fence = FenceScanner.defaultFence ∧
    (∀ language ∈ ["nest", "twin"], Unicode.IsAlphanumeric language) ∧
    (∃ block ∈ ((ofSettings {}).scanner "nest").blocks interleaved,
      ∃ other ∈ ((ofSettings {}).scanner "twin").blocks interleaved,
        block.offset ≠ other.offset ∧ block.Overlaps other ∧
          (other.Intrudes interleaved block ∨ block.Intrudes interleaved other)) ∧
    ∃ first ∈ ["nest", "twin"],
      ⟨18, 19, "language-twin", none⟩ ∈
        (ofSettings {}).contribution twins interleaved first ∧
      ∃ block ∈ ((ofSettings {}).scanner first).blocks interleaved,
        block.offset ≤ 18 ∧ 19 ≤ block.stop := by
  have apart := @highlightDocument_apart {} ["nest", "twin"] rfl isAlphanumeric_twins twins
    interleaved
  have listed : "nest" ∈ ["nest", "twin"] := List.mem_cons_self
  have listed' : "twin" ∈ ["nest", "twin"] := List.mem_cons_of_mem _ List.mem_cons_self
  have pairs := apart.1 "nest" listed "twin" listed' differ_twins
  rw [blocks_interleaved.1, blocks_interleaved.2] at pairs ⊢
  have pair := pairs _ List.mem_cons_self _ List.mem_cons_self
  refine ⟨rfl, isAlphanumeric_twins,
    ⟨_, List.mem_cons_self, _, List.mem_cons_self, pair.1, ?_⟩, ?_⟩
  · have overlaps : CodeBlock.Overlaps ⟨"nest", interleaved, 0, some ⟨8, 20⟩⟩
        ⟨"twin", Text.ofString "```twin\n(x)\n```", 9, some ⟨8, 11⟩⟩ :=
      ⟨by decide, by decide⟩
    exact ⟨overlaps, pair.2.mp overlaps⟩
  · rcases highlightDocument_interleaved with ⟨ranges, result, _, member⟩
    rcases apart.2 ranges result _ member with
      ⟨first, member, among, block, found, starts, stops, _⟩
    exact ⟨first, member, among, block, found, starts, stops⟩

/-- A block may also begin with the fence that closes a block of another language.  What the
blocks of two languages have in common is highlighted twice. -/
theorem overlaps_twins :
    Unicode.IsAlphanumeric "nest" ∧ Unicode.IsAlphanumeric "twin" ∧
    Unicode.Differ "nest" "twin" ∧
    (∃ block ∈ ((ofSettings {}).scanner "nest").blocks (Text.ofString "```nest\n```twin\n```"),
      ∃ other ∈ ((ofSettings {}).scanner "twin").blocks (Text.ofString "```nest\n```twin\n```"),
        block.Overlaps other) ∧
    (∃ block ∈ ((ofSettings {}).scanner "nest").blocks interleaved,
      ∃ other ∈ ((ofSettings {}).scanner "twin").blocks interleaved, block.Overlaps other) ∧
    ∃ ranges, (ofSettings {}).highlightDocument twins ["nest", "twin"] interleaved = .ok ranges ∧
      ⟨18, 19, "language-nest", none⟩ ∈ ranges ∧ ⟨18, 19, "language-twin", none⟩ ∈ ranges := by
  have first : ((ofSettings {}).scanner "nest").blocks (Text.ofString "```nest\n```twin\n```") =
      [⟨"nest", Text.ofString "```nest\n```", 0, some ⟨8, 8⟩⟩] := by
    decide +kernel
  have second : ((ofSettings {}).scanner "twin").blocks (Text.ofString "```nest\n```twin\n```") =
      [⟨"twin", Text.ofString "```twin\n```", 8, some ⟨8, 8⟩⟩] := by
    decide +kernel
  rw [first, second, blocks_interleaved.1, blocks_interleaved.2]
  refine ⟨isAlphanumeric_twins _ List.mem_cons_self,
    isAlphanumeric_twins _ (List.mem_cons_of_mem _ List.mem_cons_self), differ_twins,
    ⟨_, List.mem_cons_self, _, List.mem_cons_self, by decide, by decide⟩,
    ⟨_, List.mem_cons_self, _, List.mem_cons_self, by decide, by decide⟩,
    highlightDocument_interleaved⟩

end Engine
end FencedHighlight
