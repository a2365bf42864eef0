import Mathlib.Data.List.Basic
import FencedHighlight.Grammar

namespace FencedHighlight
namespace Grammar

/-!
Grammars told by their names.

A grammar is told by its names in order and by the rules under each of them.  The names
decide in which order rules are tried: all alternatives of a name come one after the other,
so of two rules under different names the one with the earlier name is tried first.
-/

/-! ## Looking up -/

section Lookup

variable {α : Type}

theorem lookup_cons_eq_ite (entry : String × α) (rest : List (String × α)) (name : String) :
    (entry :: rest).lookup name = if name = entry.1 then some entry.2 else rest.lookup name := by
  by_cases same : name = entry.1
  · rw [List.lookup_cons, if_pos same, same, beq_self_eq_true]
  · rw [List.lookup_cons, if_neg same, beq_eq_false_iff_ne.mpr same]

/-- Without the entries of a name, there is under other names what was there before. -/
theorem lookup_filter {name other : String} (apart : other ≠ name)
    (entries : List (String × α)) :
    (entries.filter fun entry => entry.1 != name).lookup other = entries.lookup other := by
  induction entries with
  | nil => rfl
  | cons entry rest ih =>
      by_cases dropped : entry.1 = name
      · have missed : other ≠ entry.1 := fun equal => apart (equal.trans dropped)
        rw [List.filter_cons_of_neg (by simp [dropped]), ih, lookup_cons_eq_ite, if_neg missed]
      · rw [List.filter_cons_of_pos (by simp [dropped]), lookup_cons_eq_ite, lookup_cons_eq_ite,
          ih]

theorem lookup_eq_none_iff {entries : List (String × α)} {name : String} :
    entries.lookup name = none ↔ name ∉ entries.map Prod.fst := by
  rw [List.lookup_eq_none_iff, List.mem_map, not_exists]
  refine forall_congr' fun entry => ?_
  rw [not_and, bne_iff_ne]
  exact imp_congr_right fun _ => not_congr eq_comm

/-- Where no name occurs twice, every entry is found under its name. -/
theorem lookup_of_mem {entries : List (String × α)} (nodup : (entries.map Prod.fst).Nodup)
    {entry : String × α} (listed : entry ∈ entries) : entries.lookup entry.1 = some entry.2 := by
  induction entries with
  | nil => exact absurd listed List.not_mem_nil
  | cons first rest ih =>
      rw [List.map_cons, List.nodup_cons] at nodup
      rw [lookup_cons_eq_ite]
      rcases List.mem_cons.mp listed with rfl | later
      · rw [if_pos rfl]
      · have apart : entry.1 ≠ first.1 := fun same =>
          nodup.1 (same ▸ List.mem_map_of_mem later)
        rw [if_neg apart, ih nodup.2 later]

end Lookup

variable {grammar other : Grammar} {name : String} {rules : List Rule}

theorem get?_eq_none_iff : grammar.get? name = none ↔ name ∉ grammar.names :=
  lookup_eq_none_iff

theorem get?_of_mem {entry : String × List Rule} (listed : entry ∈ grammar.entries) :
    grammar.get? entry.1 = some entry.2 :=
  lookup_of_mem grammar.nodup listed

/-- The entries are the names with what stands under them. -/
theorem entries_eq_map (grammar : Grammar) : grammar.entries =
    grammar.names.map fun name => (name, (grammar.get? name).getD []) := by
  have same : ∀ entry ∈ grammar.entries,
      (entry.1, (grammar.get? entry.1).getD []) = entry := by
    intro entry listed
    rw [get?_of_mem listed, Option.getD_some]
  rw [names, List.map_map]
  exact ((List.map_congr_left same).trans (List.map_id' grammar.entries)).symm

/-- Two grammars with the same names in the same order, and the same rules under each of
them, are the same. -/
theorem eq_of_names_of_get? (names : grammar.names = other.names)
    (rules : ∀ name, grammar.get? name = other.get? name) : grammar = other := by
  apply Grammar.ext
  rw [entries_eq_map, entries_eq_map, names]
  exact List.map_congr_left fun name _ => by rw [rules]

/-! ## The order in which rules are tried -/

/-- The alternatives under a name, each with the name.  There are none under a name that is
missing. -/
def rulesUnder (grammar : Grammar) (name : String) : List (String × Rule) :=
  ((grammar.get? name).getD []).map fun rule => (name, rule)

/-- Whether one name stands before another one. -/
def Precedes (grammar : Grammar) (first second : String) : Prop :=
  [first, second].Sublist grammar.names

/-- Whether one rule is tried before another one. -/
def TriedBefore (grammar : Grammar) (first second : String × Rule) : Prop :=
  [first, second].Sublist grammar.rules

/-- The rules are those under the names, name by name. -/
theorem rules_eq_flatMap (grammar : Grammar) :
    grammar.rules = grammar.names.flatMap grammar.rulesUnder := by
  rw [rules, entries_eq_map, List.flatMap_map]
  rfl

theorem fst_of_mem_rulesUnder {rule : String × Rule} (listed : rule ∈ grammar.rulesUnder name) :
    rule.1 = name := by
  rcases List.mem_map.mp listed with ⟨_, _, rfl⟩
  rfl

theorem mem_rules_iff {rule : String × Rule} :
    rule ∈ grammar.rules ↔ rule ∈ grammar.rulesUnder rule.1 := by
  rw [rules_eq_flatMap, List.mem_flatMap]
  constructor
  · rintro ⟨name, _, under⟩
    rwa [fst_of_mem_rulesUnder under]
  · intro under
    by_cases known : rule.1 ∈ grammar.names
    · exact ⟨rule.1, known, under⟩
    · rw [rulesUnder, (get?_eq_none_iff).mpr known] at under
      exact absurd under List.not_mem_nil

theorem mem_names_of_mem_rules {rule : String × Rule} (listed : rule ∈ grammar.rules) :
    rule.1 ∈ grammar.names := by
  rw [rules_eq_flatMap] at listed
  rcases List.mem_flatMap.mp listed with ⟨name, known, under⟩
  rwa [fst_of_mem_rulesUnder under]

theorem pair_sublist_append_iff {α : Type} {first second : α} {left right : List α} :
    [first, second].Sublist (left ++ right) ↔
      [first, second].Sublist left ∨ first ∈ left ∧ second ∈ right ∨
        [first, second].Sublist right := by
  constructor
  · intro within
    rcases List.sublist_append_iff.mp within with ⟨before, after, split, inLeft, inRight⟩
    match before with
    | [] => exact Or.inr (Or.inr (by rw [split]; exact inRight))
    | [only] =>
        rcases List.cons.inj split with ⟨rfl, rfl⟩
        exact Or.inr (Or.inl
          ⟨List.singleton_sublist.mp inLeft, List.singleton_sublist.mp inRight⟩)
    | _ :: _ :: more =>
        rcases List.cons.inj split with ⟨rfl, tail⟩
        rcases List.cons.inj tail with ⟨rfl, none⟩
        rw [(List.append_eq_nil_iff.mp none.symm).1] at inLeft
        exact Or.inl inLeft
  · rintro (inLeft | ⟨inLeft, inRight⟩ | inRight)
    · exact inLeft.trans (List.sublist_append_left _ _)
    · exact List.Sublist.append (List.singleton_sublist.mpr inLeft)
        (List.singleton_sublist.mpr inRight)
    · exact inRight.trans (List.sublist_append_right _ _)

/-- In a list of blocks, things in two different blocks stand in the order of the blocks. -/
theorem pair_sublist_flatMap_iff {α : Type} {names : List String} (nodup : names.Nodup)
    {block : String -> List (String × α)} (own : ∀ name, ∀ entry ∈ block name, entry.1 = name)
    {first second : String × α} (apart : first.1 ≠ second.1)
    (inFirst : first ∈ block first.1) (inSecond : second ∈ block second.1) :
    [first, second].Sublist (names.flatMap block) ↔ [first.1, second.1].Sublist names := by
  have mem_iff {entry : String × α} (inOwn : entry ∈ block entry.1) (names : List String) :
      entry ∈ names.flatMap block ↔ entry.1 ∈ names := by
    rw [List.mem_flatMap]
    exact ⟨fun ⟨name, known, listed⟩ => own name entry listed ▸ known,
      fun known => ⟨entry.1, known, inOwn⟩⟩
  induction names with
  | nil => exact iff_of_false (by simp) (by simp)
  | cons name rest ih =>
      rw [List.nodup_cons] at nodup
      have outside : ¬ [first, second].Sublist (block name) := fun both =>
        apart ((own name first (both.subset List.mem_cons_self)).trans
          (own name second (both.subset (by simp))).symm)
      have inBlock : first ∈ block name ↔ first.1 = name :=
        ⟨own name first, fun same => same ▸ inFirst⟩
      have later : _ ↔ _ := ih nodup.2
      rw [List.flatMap_cons, pair_sublist_append_iff, or_iff_right outside, inBlock,
        mem_iff inSecond, later, List.cons_sublist_cons', List.singleton_sublist, or_comm]

/-- Of two rules under different names the one with the earlier name is tried first. -/
theorem triedBefore_iff {first second : String × Rule} (knownFirst : first ∈ grammar.rules)
    (knownSecond : second ∈ grammar.rules) (apart : first.1 ≠ second.1) :
    grammar.TriedBefore first second ↔ grammar.Precedes first.1 second.1 := by
  rw [TriedBefore, rules_eq_flatMap]
  exact pair_sublist_flatMap_iff grammar.nodup (fun name _ => fst_of_mem_rulesUnder) apart
    ((mem_rules_iff).mp knownFirst) ((mem_rules_iff).mp knownSecond)

end Grammar
end FencedHighlight
