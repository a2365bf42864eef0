import Mathlib.Data.List.Nodup
import FencedHighlight.Proofs.Grammar.Names

namespace FencedHighlight
namespace Grammar

/-!
Putting rules before others.

Rules that are put under a name come just before those of another name, and whatever stood
under the name before is gone.  Nothing else changes, neither in content nor in order.  The
rules that were under the name are taken away first, so the other name is no longer there if
it is the very same one; then the rules come last.
-/

variable {grammar : Grammar} {name other before : String} {rules : List Rule}
  {entries : List (String × List Rule)}

theorem lookup_placeBefore (absent : name ∉ entries.map Prod.fst) :
    (placeBefore before (name, rules) entries).lookup other =
      if other = name then some rules else entries.lookup other := by
  induction entries with
  | nil => exact lookup_cons_eq_ite _ [] other
  | cons entry rest ih =>
      rw [List.map_cons, List.mem_cons, not_or] at absent
      unfold placeBefore
      split
      · exact lookup_cons_eq_ite _ _ other
      · rw [lookup_cons_eq_ite, lookup_cons_eq_ite, ih absent.2]
        by_cases here : other = entry.1
        · rw [if_pos here, if_pos here, if_neg fun same => absent.1 (same.symm.trans here)]
        · rw [if_neg here, if_neg here]

theorem without_cons_self (rest : List (String × List Rule)) :
    without ((name, rules) :: rest) name = without rest name :=
  List.filter_cons_of_neg (by simp)

theorem without_without (entries : List (String × List Rule)) (name : String) :
    without (without entries name) name = without entries name := by
  rw [without, without, List.filter_filter]
  simp only [Bool.and_self]

theorem without_placeBefore (before : String) (rules : List Rule)
    (entries : List (String × List Rule)) :
    without (placeBefore before (name, rules) entries) name = without entries name := by
  induction entries with
  | nil => exact without_cons_self []
  | cons entry rest ih =>
      unfold placeBefore
      split
      · exact without_cons_self (entry :: rest)
      · rw [without, List.filter_cons, ← without, ih, without, without, List.filter_cons]

/-! ## What stands under the names -/

theorem get?_insertFirst (grammar : Grammar) (name : String) (rules : List Rule)
    (other : String) : (grammar.insertFirst name rules).get? other =
      if other = name then some rules else grammar.get? other := by
  rw [get?, insertFirst, lookup_cons_eq_ite]
  by_cases same : other = name
  · rw [if_pos same, if_pos same]
  · rw [if_neg same, if_neg same]
    exact lookup_filter same grammar.entries

theorem get?_insertBefore (grammar : Grammar) (before name : String) (rules : List Rule)
    (other : String) : (grammar.insertBefore before name rules).get? other =
      if other = name then some rules else grammar.get? other := by
  rw [get?, insertBefore, lookup_placeBefore (not_mem_names_without _ _)]
  by_cases same : other = name
  · rw [if_pos same, if_pos same]
  · rw [if_neg same, if_neg same]
    exact lookup_filter same grammar.entries

/-! ## Where the names stand -/

theorem names_without (entries : List (String × List Rule)) (name : String) :
    (without entries name).map Prod.fst =
      (entries.map Prod.fst).filter fun other => other != name := by
  rw [List.filter_map]
  rfl

theorem names_placeBefore_of_split {left right : List String}
    (split : entries.map Prod.fst = left ++ before :: right) (first : before ∉ left) :
    (placeBefore before (name, rules) entries).map Prod.fst =
      left ++ name :: before :: right := by
  induction left generalizing entries with
  | nil =>
      rcases List.map_eq_cons_iff.mp split with ⟨entry, rest, rfl, rfl, rfl⟩
      rw [placeBefore, if_pos rfl]
      rfl
  | cons head left ih =>
      rcases List.map_eq_cons_iff.mp split with ⟨entry, rest, rfl, rfl, later⟩
      rw [List.mem_cons, not_or] at first
      rw [placeBefore, if_neg (Ne.symm first.1), List.map_cons, ih later first.2,
        List.cons_append]

theorem placeBefore_of_absent (absent : before ∉ entries.map Prod.fst)
    (new : String × List Rule) : placeBefore before new entries = entries ++ [new] := by
  induction entries with
  | nil => rfl
  | cons entry rest ih =>
      rw [List.map_cons, List.mem_cons, not_or] at absent
      rw [placeBefore, if_neg (Ne.symm absent.1), ih absent.2, List.cons_append]

theorem not_mem_left {left right : List String}
    (split : grammar.names = left ++ before :: right) : before ∉ left := by
  have distinct : (left ++ before :: right).Nodup := split ▸ grammar.nodup
  exact fun inLeft =>
    (List.nodup_append.mp distinct).2.2 before inLeft before List.mem_cons_self rfl

/-- Rules under another name come between what stood before that place and what follows. -/
theorem names_insertBefore_of_split {left right : List String} (apart : name ≠ before)
    (split : grammar.names = left ++ before :: right) :
    (grammar.insertBefore before name rules).names =
      left.filter (fun other => other != name) ++
        name :: before :: right.filter fun other => other != name := by
  have first := not_mem_left split
  refine names_placeBefore_of_split ?_ fun inLeft => first (List.mem_filter.mp inLeft).1
  rw [names_without, ← names, split, List.filter_append,
    List.filter_cons_of_pos (by simpa using apart.symm)]

/-- Rules that are put before those of a name that is missing come last, and so do rules that
are put before those of their own name. -/
theorem names_insertBefore_of_missing (missing : before ∉ grammar.names ∨ before = name) :
    (grammar.insertBefore before name rules).names =
      grammar.names.filter (fun other => other != name) ++ [name] := by
  have absent : before ∉ (without grammar.entries name).map Prod.fst := by
    rw [names_without, List.mem_filter]
    rintro ⟨known, apart⟩
    rcases missing with absent | rfl
    · exact absent known
    · simp at apart
  have last := congrArg (List.map Prod.fst) (placeBefore_of_absent absent (name, rules))
  rwa [List.map_append, names_without] at last

/-! ## What is expected -/

/-- What becomes of a grammar if rules are put under a name before those of another one.  They
are all that stands under the name, and come before everything that did not stand before the
other name.  They come last only under the other name itself, where it was the last one.
Apart from the name everything is as it was. -/
structure PlacedBefore (grammar : Grammar) (before name : String) (rules : List Rule)
    (placed : Grammar) : Prop where
  once : placed.names.count name = 1
  rules : placed.get? name = some rules
  place : ∀ left right, grammar.names = left ++ before :: right ->
    placed.names = left.filter (fun other => other != name) ++
      name :: (before :: right).filter fun other => other != name
  precedes : ∀ other, other ≠ name -> other = before ∨ grammar.Precedes before other ->
    placed.Precedes name other
  ordered : placed.names.filter (fun other => other != name) =
    grammar.names.filter fun other => other != name
  kept : ∀ other, other ≠ name -> placed.get? other = grammar.get? other
  last : ∀ front, placed.names = front ++ [name] ->
    name = before ∧ ∀ other, ¬ grammar.Precedes before other

/-- What follows a name stands on its right. -/
theorem precedes_iff_mem_right {left right : List String}
    (split : grammar.names = left ++ before :: right) :
    grammar.Precedes before other ↔ other ∈ right := by
  have absent := not_mem_left split
  rw [Precedes, split, pair_sublist_append_iff]
  constructor
  · rintro (inLeft | ⟨inLeft, _⟩ | within)
    · exact absurd (inLeft.subset List.mem_cons_self) absent
    · exact absurd inLeft absent
    · rw [List.cons_sublist_cons', List.singleton_sublist] at within
      exact within.elim (fun both => both.subset (by simp)) And.right
  · intro later
    exact Or.inr (Or.inr ((List.singleton_sublist.mpr later).cons_cons before))

/-- No name follows the last one. -/
theorem not_precedes_last {front : List String} (ends : grammar.names = front ++ [name]) :
    ¬ grammar.Precedes name other := by
  rw [precedes_iff_mem_right ends]
  exact List.not_mem_nil

/-- The rest of what is expected comes from the place of the name. -/
theorem placedBefore_of_place (known : before ∈ grammar.names)
    (place : ∀ left right, grammar.names = left ++ before :: right ->
      (grammar.insertBefore before name rules).names =
        left.filter (fun other => other != name) ++
          name :: (before :: right).filter fun other => other != name) :
    grammar.PlacedBefore before name rules (grammar.insertBefore before name rules) := by
  have under := get?_insertBefore grammar before name rules
  rcases List.append_of_mem known with ⟨left, right, split⟩
  have places := place left right split
  have precedes : ∀ other, other ≠ name -> other = before ∨ grammar.Precedes before other ->
      (grammar.insertBefore before name rules).Precedes name other := by
    intro other different standing
    rw [precedes_iff_mem_right places]
    refine List.mem_filter.mpr ⟨?_, by simpa using different⟩
    rcases standing with rfl | later
    · exact List.mem_cons_self
    · exact List.mem_cons_of_mem _ ((precedes_iff_mem_right split).mp later)
  refine ⟨?_, ?_, place, precedes, ?_, ?_, ?_⟩
  · refine (List.nodup_iff_count_eq_one).mp (Grammar.nodup _) name ?_
    rw [← names, places]
    exact List.mem_append_right _ List.mem_cons_self
  · rw [under, if_pos rfl]
  · rw [places, split, List.filter_append, List.filter_append,
      List.filter_cons_of_neg (by simp), List.filter_filter, List.filter_filter]
    simp only [Bool.and_self]
  · intro other different
    rw [under, if_neg different]
  · intro front ends
    have same : name = before := by
      by_contra apart
      exact not_precedes_last ends (precedes before (Ne.symm apart) (Or.inl rfl))
    refine ⟨same, fun other later => ?_⟩
    have different : other ≠ name := by
      rintro rfl
      have distinct : [before, other].Nodup := grammar.nodup.sublist later
      exact absurd same.symm (by simpa using distinct)
    exact not_precedes_last ends (precedes other different (Or.inr later))

/-- Rules that are put before those of a name that is there take their place, but under that
name itself they do so only if it was the last one. -/
theorem placedBefore_insertBefore_iff (known : before ∈ grammar.names) :
    grammar.PlacedBefore before name rules (grammar.insertBefore before name rules) ↔
      name ≠ before ∨ ∀ other, ¬ grammar.Precedes before other := by
  constructor
  · intro placed
    by_cases same : before = name
    · exact Or.inr (placed.last _ (names_insertBefore_of_missing (Or.inr same))).2
    · exact Or.inl (Ne.symm same)
  · intro possible
    refine placedBefore_of_place known fun left right split => ?_
    by_cases same : before = name
    · have alone : right = [] := by
        refine List.eq_nil_iff_forall_not_mem.mpr fun other listed => ?_
        exact possible.resolve_left (not_not.mpr same.symm) other
          ((precedes_iff_mem_right split).mpr listed)
      rw [names_insertBefore_of_missing (Or.inr same), split, alone, same,
        List.filter_append, List.filter_cons_of_neg (by simp), List.filter_nil,
        List.append_nil]
    · rw [names_insertBefore_of_split (Ne.symm same) split,
        List.filter_cons_of_pos (by simpa using same)]

end Grammar
end FencedHighlight
