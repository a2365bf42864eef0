import FencedHighlight.Rule

namespace FencedHighlight

/-!
Grammars: rules under names, in order.

Order matters.  Of two rules that match at the same place the one declared
first wins, so every operation here keeps the order of the names it does not
touch.  No name occurs twice.
-/

/-- Rules under distinct names, in order.  The rules under one name are
alternatives, which are tried in turn. -/
@[ext] structure Grammar where
  entries : List (String × List Rule)
  nodup : (entries.map Prod.fst).Nodup

namespace Grammar

def empty : Grammar :=
  ⟨[], List.nodup_nil⟩

instance : Inhabited Grammar :=
  ⟨empty⟩

def names (grammar : Grammar) : List String :=
  grammar.entries.map Prod.fst

/-- Every rule with its name, in the order in which they are tried. -/
def rules (grammar : Grammar) : List (String × Rule) :=
  grammar.entries.flatMap fun entry => entry.2.map fun rule => (entry.1, rule)

def get? (grammar : Grammar) (name : String) : Option (List Rule) :=
  grammar.entries.lookup name

def size (grammar : Grammar) : Nat :=
  grammar.entries.length

def without (entries : List (String × List Rule)) (name : String) :
    List (String × List Rule) :=
  entries.filter fun entry => entry.1 != name

theorem without_sublist (entries : List (String × List Rule)) (name : String) :
    (without entries name).Sublist entries :=
  List.filter_sublist

theorem nodup_without {entries : List (String × List Rule)}
    (nodup : (entries.map Prod.fst).Nodup) (name : String) :
    ((without entries name).map Prod.fst).Nodup :=
  nodup.sublist ((without_sublist entries name).map Prod.fst)

theorem not_mem_names_without (entries : List (String × List Rule)) (name : String) :
    name ∉ (without entries name).map Prod.fst := by
  intro member
  obtain ⟨entry, kept, same⟩ := List.mem_map.mp member
  simp [without, same] at kept

/-- Entries with an alternative in the place of the one under its name. -/
def replace (entries : List (String × List Rule)) (name : String) (rules : List Rule) :
    List (String × List Rule) :=
  entries.map fun entry => if entry.1 = name then (name, rules) else entry

theorem names_replace (entries : List (String × List Rule)) (name : String)
    (rules : List Rule) :
    (replace entries name rules).map Prod.fst = entries.map Prod.fst := by
  simp only [replace, List.map_map]
  apply List.map_congr_left
  intro entry _
  by_cases same : entry.1 = name <;> simp [same]

/-- Put rules under a name.  A name that is there keeps its place; a new one
comes last. -/
def insert (grammar : Grammar) (name : String) (rules : List Rule) : Grammar :=
  if present : name ∈ grammar.names then
    { entries := replace grammar.entries name rules
      nodup := by rw [names_replace]; exact grammar.nodup }
  else
    { entries := grammar.entries ++ [(name, rules)]
      nodup := by
        rw [List.map_append, List.nodup_append]
        refine ⟨grammar.nodup, by simp, ?_⟩
        intro kept member new same
        simp only [List.map_cons, List.map_nil, List.mem_singleton] at same
        rintro rfl
        exact present (same ▸ member) }

def erase (grammar : Grammar) (name : String) : Grammar :=
  { entries := without grammar.entries name
    nodup := nodup_without grammar.nodup name }

/-- Put rules under a name ahead of all others. -/
def insertFirst (grammar : Grammar) (name : String) (rules : List Rule) : Grammar :=
  { entries := (name, rules) :: without grammar.entries name
    nodup := by
      rw [List.map_cons, List.nodup_cons]
      exact ⟨not_mem_names_without _ _, nodup_without grammar.nodup name⟩ }

/-- Entries with a new one just before the one under `before`, or last if there
is none. -/
def placeBefore (before : String) (new : String × List Rule) :
    List (String × List Rule) -> List (String × List Rule)
  | [] => [new]
  | entry :: rest =>
      if entry.1 = before then
        new :: entry :: rest
      else
        entry :: placeBefore before new rest

theorem perm_placeBefore (before : String) (new : String × List Rule)
    (entries : List (String × List Rule)) :
    (placeBefore before new entries).Perm (new :: entries) := by
  induction entries with
  | nil => exact List.Perm.refl _
  | cons entry rest ih =>
      simp only [placeBefore]
      split
      · exact List.Perm.refl _
      · exact (List.Perm.cons entry ih).trans (List.Perm.swap new entry rest)

/-- Put rules under a name just before those under another one, or last if the
other one is missing.  Rules that were under the name are removed first. -/
def insertBefore (grammar : Grammar) (before name : String) (rules : List Rule) :
    Grammar :=
  { entries := placeBefore before (name, rules) (without grammar.entries name)
    nodup := by
      have shuffled := (perm_placeBefore before (name, rules)
        (without grammar.entries name)).map Prod.fst
      rw [shuffled.nodup_iff, List.map_cons, List.nodup_cons]
      exact ⟨not_mem_names_without _ _, nodup_without grammar.nodup name⟩ }

/-- Layer the rules of one grammar onto another. -/
def extended (grammar overrides : Grammar) : Grammar :=
  overrides.entries.foldl (fun grammar entry => grammar.insert entry.1 entry.2) grammar

end Grammar

/-- All grammars that have been made.  A grammar is known by its number, so two
grammars with the same rules can be told apart, and a copy is a grammar of its
own.  Grammars are never changed or removed. -/
structure GrammarStore where
  grammars : Array Grammar := #[]

namespace GrammarStore

def get (store : GrammarStore) (id : GrammarId) : Grammar :=
  store.grammars[id]?.getD Grammar.empty

/-- Keep a grammar as a new one. -/
def add (store : GrammarStore) (grammar : Grammar) : GrammarStore × GrammarId :=
  (⟨store.grammars.push grammar⟩, store.grammars.size)

end GrammarStore

end FencedHighlight
