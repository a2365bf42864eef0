import FencedHighlight.Proofs.Grammar.Names

namespace FencedHighlight
namespace Grammar

/-!
Layering one grammar onto another.

The names of the result are those of the grammar below in their order, followed by the new
ones in the order of the grammar above.  What stands under a name comes from above if the
name is there, and from below otherwise.  Names and alternatives tell a grammar, so these two
facts bring the laws of layering: it is associative and idempotent, and the empty grammar
changes nothing.  As the names from below keep their places, so do the rules under them.
-/

variable {grammar base overrides : Grammar} {name : String}

/-! ## One insertion -/

theorem names_insert (grammar : Grammar) (name : String) (rules : List Rule) :
    (grammar.insert name rules).names =
      if name ∈ grammar.names then grammar.names else grammar.names ++ [name] := by
  unfold insert
  by_cases present : name ∈ grammar.names
  · rw [dif_pos present, if_pos present]
    exact names_replace _ _ _
  · rw [dif_neg present, if_neg present]
    exact List.map_append

theorem lookup_replace (entries : List (String × List Rule)) (name : String)
    (rules : List Rule) (other : String) :
    (replace entries name rules).lookup other =
      if other = name then (entries.lookup name).map fun _ => rules
      else entries.lookup other := by
  induction entries with
  | nil => simp [replace]
  | cons entry rest ih =>
      rw [replace, List.map_cons, ← replace, lookup_cons_eq_ite, ih]
      by_cases same : other = name
      · subst same
        by_cases here : entry.1 = other
        · simp [here, lookup_cons_eq_ite]
        · simp [here, Ne.symm here, lookup_cons_eq_ite]
      · by_cases here : entry.1 = name
        · simp [here, same, lookup_cons_eq_ite]
        · simp [here, same, lookup_cons_eq_ite]

theorem get?_insert (grammar : Grammar) (name : String) (rules : List Rule) (other : String) :
    (grammar.insert name rules).get? other =
      if other = name then some rules else grammar.get? other := by
  unfold insert
  by_cases present : name ∈ grammar.names
  · rw [dif_pos present]
    rcases Option.ne_none_iff_exists'.mp fun missing =>
      (get?_eq_none_iff).mp missing present with ⟨old, found⟩
    rw [get?] at found
    rw [get?, lookup_replace, found, Option.map_some, get?]
  · rw [dif_neg present, get?, List.lookup_append, lookup_cons_eq_ite, List.lookup_nil]
    by_cases same : other = name
    · rw [if_pos same, if_pos same, same, (lookup_eq_none_iff).mpr present, Option.none_or]
    · rw [if_neg same, if_neg same, Option.or_none, get?]

/-! ## Layers -/

/-- The names that a grammar lacks, in order. -/
def newNames (grammar : Grammar) (names : List String) : List String :=
  names.filter fun name => !grammar.names.contains name

theorem newNames_cons (grammar : Grammar) (name : String) (rest : List String) :
    grammar.newNames (name :: rest) =
      if name ∈ grammar.names then grammar.newNames rest else name :: grammar.newNames rest := by
  rw [newNames, List.filter_cons, ← newNames]
  by_cases known : name ∈ grammar.names <;> simp [known]

theorem newNames_append (grammar : Grammar) (left right : List String) :
    grammar.newNames (left ++ right) = grammar.newNames left ++ grammar.newNames right :=
  List.filter_append left right

/-- What has been inserted shows in the names and in the rules under them. -/
theorem layer_foldl (grammar : Grammar) {entries : List (String × List Rule)}
    (nodup : (entries.map Prod.fst).Nodup) :
    (entries.foldl (fun grammar entry => grammar.insert entry.1 entry.2) grammar).names =
        grammar.names ++ grammar.newNames (entries.map Prod.fst) ∧
      ∀ name, (entries.foldl (fun grammar entry => grammar.insert entry.1 entry.2)
        grammar).get? name = (entries.lookup name).or (grammar.get? name) := by
  induction entries generalizing grammar with
  | nil => exact ⟨(List.append_nil _).symm, fun name => rfl⟩
  | cons entry rest ih =>
      rw [List.map_cons, List.nodup_cons] at nodup
      rcases ih (grammar.insert entry.1 entry.2) nodup.2 with ⟨named, under⟩
      rw [List.foldl_cons]
      constructor
      · -- What comes later has other names, so the new name makes none of them old.
        have later : (grammar.insert entry.1 entry.2).newNames (rest.map Prod.fst) =
            grammar.newNames (rest.map Prod.fst) := by
          refine List.filter_congr fun name listed => ?_
          have apart : name ≠ entry.1 := fun same => nodup.1 (same ▸ listed)
          rw [names_insert]
          split <;> simp [apart]
        rw [named, later, names_insert, List.map_cons, newNames_cons]
        by_cases present : entry.1 ∈ grammar.names
        · rw [if_pos present, if_pos present]
        · rw [if_neg present, if_neg present, List.append_assoc, List.singleton_append]
      · intro name
        rw [under, get?_insert, lookup_cons_eq_ite]
        by_cases same : name = entry.1
        · rw [if_pos same, if_pos same, same, (lookup_eq_none_iff).mpr nodup.1,
            Option.none_or, Option.some_or]
        · rw [if_neg same, if_neg same]

theorem names_extended (base overrides : Grammar) :
    (base.extended overrides).names = base.names ++ base.newNames overrides.names :=
  (layer_foldl base overrides.nodup).1

theorem get?_extended (base overrides : Grammar) (name : String) :
    (base.extended overrides).get? name = (overrides.get? name).or (base.get? name) :=
  (layer_foldl base overrides.nodup).2 name

theorem mem_names_extended :
    name ∈ (base.extended overrides).names ↔ name ∈ base.names ∨ name ∈ overrides.names := by
  rw [names_extended, List.mem_append, newNames, List.mem_filter]
  by_cases known : name ∈ base.names <;> simp [known]

/-- A name is new to both layers if it is new to one and then to the other. -/
theorem newNames_newNames (base overrides : Grammar) (names : List String) :
    base.newNames (overrides.newNames names) = (base.extended overrides).newNames names := by
  rw [newNames, newNames, newNames, List.filter_filter]
  refine List.filter_congr fun name _ => ?_
  rw [← Bool.not_or, Bool.not_inj_iff, Bool.eq_iff_iff, Bool.or_eq_true,
    List.contains_iff_mem, List.contains_iff_mem, List.contains_iff_mem, mem_names_extended]

/-! ## The laws of layering -/

theorem empty_extended (grammar : Grammar) : empty.extended grammar = grammar := by
  refine eq_of_names_of_get? ?_ fun name => ?_
  · rw [names_extended, newNames]
    exact List.filter_eq_self.mpr fun _ _ => rfl
  · rw [get?_extended]
    exact Option.or_none

theorem extended_empty (grammar : Grammar) : grammar.extended empty = grammar :=
  rfl

theorem extended_self (grammar : Grammar) : grammar.extended grammar = grammar := by
  refine eq_of_names_of_get? ?_ fun name => ?_
  · have none : grammar.newNames grammar.names = [] :=
      List.filter_eq_nil_iff.mpr fun name known => by simp [known]
    rw [names_extended, none, List.append_nil]
  · rw [get?_extended, Option.or_self]

theorem extended_assoc (first second third : Grammar) :
    (first.extended second).extended third = first.extended (second.extended third) := by
  refine eq_of_names_of_get? ?_ fun name => ?_
  · rw [names_extended, ← newNames_newNames, names_extended, names_extended, names_extended,
      List.append_assoc, newNames_append]
  · rw [get?_extended, get?_extended, get?_extended, get?_extended, Option.or_assoc]

/-! ## The order of rules -/

theorem rulesUnder_extended (untouched : name ∉ overrides.names) :
    (base.extended overrides).rulesUnder name = base.rulesUnder name := by
  rw [rulesUnder, get?_extended, (get?_eq_none_iff).mpr untouched, Option.none_or, rulesUnder]

/-- Names from below stand in the order that they have there. -/
theorem precedes_extended_iff {first second : String} (knownSecond : second ∈ base.names) :
    (base.extended overrides).Precedes first second ↔ base.Precedes first second := by
  have old : second ∉ base.newNames overrides.names := by
    simp [newNames, knownSecond]
  rw [Precedes, names_extended, pair_sublist_append_iff]
  refine or_iff_left ?_
  rintro (⟨_, new⟩ | both)
  · exact old new
  · exact old (both.subset (by simp))

/-- What is tried before a rule that is not overridden, and what after it, is told by the names
from below, whichever rules stand under the other name now. -/
theorem triedBefore_extended_iff {rule old new : String × Rule} (known : rule ∈ base.rules)
    (untouched : rule.1 ∉ overrides.names) (below : old ∈ base.rules)
    (now : new ∈ (base.extended overrides).rules) (same : new.1 = old.1)
    (apart : old.1 ≠ rule.1) :
    ((base.extended overrides).TriedBefore rule new ↔ base.TriedBefore rule old) ∧
      ((base.extended overrides).TriedBefore new rule ↔ base.TriedBefore old rule) := by
  have kept : rule ∈ (base.extended overrides).rules := by
    rw [mem_rules_iff, rulesUnder_extended untouched]
    exact (mem_rules_iff).mp known
  have apart' : new.1 ≠ rule.1 := same.symm ▸ apart
  constructor
  · rw [triedBefore_iff kept now apart'.symm, triedBefore_iff known below apart.symm, same]
    exact precedes_extended_iff (mem_names_of_mem_rules below)
  · rw [triedBefore_iff now kept apart', triedBefore_iff below known apart, same]
    exact precedes_extended_iff (mem_names_of_mem_rules known)

/-- Layering is an ordered monoid.  The names are those from below in their order and then the
new ones, each of them once; the alternatives under a name come from above if it is there.  The
empty grammar changes nothing on either side, nor does a grammar on itself, and layers may be
put together in any grouping.  Rules are listed name by name, so a rule that is not overridden
keeps its place among all that stands under the other names from below. -/
theorem extended_layers (base overrides later : Grammar) :
    (base.extended overrides).names =
        base.names ++ overrides.names.filter (fun name => !base.names.contains name) ∧
      (base.extended overrides).names.Nodup ∧
      (∀ name, (base.extended overrides).get? name =
        (overrides.get? name).or (base.get? name)) ∧
      empty.extended base = base ∧ base.extended empty = base ∧ base.extended base = base ∧
      (base.extended overrides).extended later = base.extended (overrides.extended later) ∧
      (∀ grammar : Grammar, grammar.rules = grammar.names.flatMap grammar.rulesUnder) ∧
      ∀ rule ∈ base.rules, rule.1 ∉ overrides.names ->
        (base.extended overrides).rulesUnder rule.1 = base.rulesUnder rule.1 ∧
        ∀ old ∈ base.rules, old.1 ≠ rule.1 ->
          ∀ new ∈ (base.extended overrides).rules, new.1 = old.1 ->
            ((base.extended overrides).TriedBefore rule new ↔ base.TriedBefore rule old) ∧
            ((base.extended overrides).TriedBefore new rule ↔ base.TriedBefore old rule) := by
  refine ⟨names_extended base overrides, (base.extended overrides).nodup,
    get?_extended base overrides, empty_extended base, extended_empty base, extended_self base,
    extended_assoc base overrides later, rules_eq_flatMap, ?_⟩
  intro rule known untouched
  refine ⟨rulesUnder_extended untouched, ?_⟩
  intro old below apart new now same
  exact triedBefore_extended_iff known untouched below now same apart

/-- Comments before keywords. -/
def lower : Grammar :=
  (empty.insert "comment" [.balanced (.pair "(" ")")]).insert "keyword"
    [.balanced (.pair "[" "]")]

/-- Labels before other keywords. -/
def upper : Grammar :=
  (empty.insert "label" [.balanced (.pair "<" ">")]).insert "keyword"
    [.balanced (.pair "<" "]")]

theorem extended_layers_keywords :
    (lower.extended upper).names = ["comment", "keyword", "label"] ∧
      "comment" ∉ upper.names ∧
      ("comment", .balanced (.pair "(" ")")) ∈ lower.rules ∧
      (lower.extended upper).TriedBefore ("comment", .balanced (.pair "(" ")"))
        ("keyword", .balanced (.pair "<" "]")) := by
  have layers := extended_layers lower upper empty
  have untouched : "comment" ∉ upper.names := by decide
  have comment : ("comment", .balanced (.pair "(" ")")) ∈ lower.rules := List.mem_cons_self
  have keyword : ("keyword", .balanced (.pair "[" "]")) ∈ lower.rules :=
    List.mem_cons_of_mem _ List.mem_cons_self
  rcases layers with ⟨names, _, _, _, _, _, _, _, places⟩
  have now : ("keyword", .balanced (.pair "<" "]")) ∈ (lower.extended upper).rules :=
    List.mem_cons_of_mem _ List.mem_cons_self
  have kept := ((places _ comment untouched).2 _ keyword (by decide) _ now rfl).1
  exact ⟨names, untouched, comment, kept.mpr (List.Sublist.refl _)⟩

end Grammar
end FencedHighlight
