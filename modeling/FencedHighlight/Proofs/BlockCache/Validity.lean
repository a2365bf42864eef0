import FencedHighlight.BlockCache
import FencedHighlight.Proofs.Engine.Locality
import FencedHighlight.Proofs.Registry.History

namespace FencedHighlight
namespace BlockCache

/-!
Caches that hold what highlighting would give again.

An entry is kept under a version and not under a registry, so what it holds is
measured against the registry that had this version.  As versions identify the
registries of a history, an entry that was right once can be used for every later
document that still has the block in its place.
-/

/-- What is kept for a block, under its key. -/
abbrev Entry := BlockKey × List StyleRange

/-- The keys with ranges. -/
def keys (cache : BlockCache) : List BlockKey :=
  cache.entries.map Prod.fst

/-- Put entries into a cache one after the other. -/
def insertAll (cache : BlockCache) (entries : List Entry) : BlockCache :=
  entries.foldl (fun cache entry => cache.insert entry.1 entry.2) cache

theorem insertAll_append (cache : BlockCache) (first second : List Entry) :
    cache.insertAll (first ++ second) = (cache.insertAll first).insertAll second :=
  List.foldl_append

theorem mem_of_get? {cache : BlockCache} {key : BlockKey} {ranges : List StyleRange}
    (found : cache.get? key = some ranges) : (key, ranges) ∈ cache.entries := by
  rcases List.lookup_eq_some_iff.mp found with ⟨before, after, listed, _⟩
  rw [listed]
  exact List.mem_append_right before List.mem_cons_self

theorem mem_insert {cache : BlockCache} {key : BlockKey} {ranges : List StyleRange}
    {entry : Entry} (member : entry ∈ (cache.insert key ranges).entries) :
    entry = (key, ranges) ∨ entry ∈ cache.entries := by
  rcases List.mem_cons.mp member with new | old
  · exact Or.inl new
  · exact Or.inr (List.mem_filter.mp old).1

theorem mem_keys_insert (cache : BlockCache) (key other : BlockKey)
    (ranges : List StyleRange) :
    other ∈ (cache.insert key ranges).keys ↔ other = key ∨ other ∈ cache.keys := by
  simp only [keys, insert, List.map_cons, List.mem_cons, List.mem_map, List.mem_filter,
    bne_iff_ne]
  constructor
  · rintro (same | ⟨entry, ⟨member, _⟩, same⟩)
    · exact Or.inl same
    · exact Or.inr ⟨entry, member, same⟩
  · rintro (same | ⟨entry, member, same⟩)
    · exact Or.inl same
    · by_cases new : entry.1 = key
      · exact Or.inl (same.symm.trans new)
      · exact Or.inr ⟨entry, ⟨member, new⟩, same⟩

/-- Only what is put into a cache is new in it. -/
theorem mem_insertAll {cache : BlockCache} {entries : List Entry} {entry : Entry}
    (member : entry ∈ (cache.insertAll entries).entries) :
    entry ∈ entries ∨ entry ∈ cache.entries := by
  induction entries generalizing cache with
  | nil => exact Or.inr member
  | cons first rest ih =>
      rcases ih member with later | earlier
      · exact Or.inl (List.mem_cons_of_mem first later)
      · rcases mem_insert earlier with new | old
        · rw [new]
          exact Or.inl List.mem_cons_self
        · exact Or.inr old

/-- All that is put into a cache is in it, if perhaps with other ranges. -/
theorem mem_keys_insertAll (cache : BlockCache) (entries : List Entry) (key : BlockKey) :
    key ∈ (cache.insertAll entries).keys ↔ key ∈ entries.map Prod.fst ∨ key ∈ cache.keys := by
  induction entries generalizing cache with
  | nil => exact (or_iff_right List.not_mem_nil).symm
  | cons first rest ih =>
      rw [List.map_cons, List.mem_cons]
      have rested := ih (cache.insert first.1 first.2)
      rw [mem_keys_insert] at rested
      exact rested.trans (by tauto)

/-- Whether an entry is for one of these registries, and has the ranges that the
block gets with it in every document in which the block lies. -/
def Holds (engine : Engine) (registries : List Registry) (entry : Entry) : Prop :=
  ∃ registry ∈ registries, registry.version = entry.1.version ∧
    ∀ document, entry.1.block.LiesIn document ->
      engine.highlightBlock registry document entry.1.block = .ok entry.2

/-- Whether all entries of a cache hold. -/
def Valid (engine : Engine) (registries : List Registry) (cache : BlockCache) : Prop :=
  ∀ entry ∈ cache.entries, Holds engine registries entry

theorem valid_empty (engine : Engine) (registries : List Registry) :
    Valid engine registries {} := by
  intro entry member
  cases member

theorem Valid.insertAll {engine : Engine} {registries : List Registry} {cache : BlockCache}
    {entries : List Entry} (valid : cache.Valid engine registries)
    (holds : ∀ entry ∈ entries, Holds engine registries entry) :
    (cache.insertAll entries).Valid engine registries := by
  intro entry member
  rcases mem_insertAll member with new | old
  · exact holds entry new
  · exact valid entry old

/-- A cache stays valid while the history goes on. -/
theorem Valid.mono {engine : Engine} {registries more : List Registry} {cache : BlockCache}
    (valid : cache.Valid engine registries) (kept : registries ⊆ more) :
    cache.Valid engine more := by
  intro entry member
  rcases valid entry member with ⟨registry, listed, holds⟩
  exact ⟨registry, kept listed, holds⟩

/-- What is found under the version of a registry is what the block gets with this
very registry. -/
theorem Valid.highlightBlock {engine : Engine} {registries : List Registry}
    {cache : BlockCache} (valid : cache.Valid engine registries)
    (history : Registry.History registries) {registry : Registry}
    (current : registry ∈ registries) {block : CodeBlock} {ranges : List StyleRange}
    (found : cache.get? ⟨registry.version, block⟩ = some ranges) {document : Text}
    (lies : block.LiesIn document) :
    engine.highlightBlock registry document block = .ok ranges := by
  rcases valid _ (mem_of_get? found) with ⟨earlier, listed, version, holds⟩
  have same : earlier = registry := history.eq_of_version_eq listed current version
  rw [← same]
  exact holds document lies

/-- What a block gets once holds for good, if the engine is local. -/
theorem holds_of_highlightBlock {engine : Engine} (locality : engine.Local)
    {registries : List Registry} {registry : Registry} (current : registry ∈ registries)
    {block : CodeBlock} {ranges : List StyleRange} {document : Text}
    (lies : block.LiesIn document)
    (highlighted : engine.highlightBlock registry document block = .ok ranges) :
    Holds engine registries (⟨registry.version, block⟩, ranges) := by
  refine ⟨registry, current, rfl, ?_⟩
  intro other liesToo
  rw [← highlighted]
  exact Engine.highlightBlock_congr locality registry liesToo lies

end BlockCache
end FencedHighlight
