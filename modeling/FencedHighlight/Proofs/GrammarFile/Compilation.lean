import FencedHighlight.Proofs.GrammarFile.Fault
import FencedHighlight.Proofs.GrammarFile.Names

namespace FencedHighlight

/-!
What definitions are compiled to.

A rule has the matcher that its patterns make, and takes all else from its definition; between
delimiters the opening one is always context.  The grammar of some definitions has their names
in order, and under each name the rules of its alternatives in order.  A grammar for the
content of a rule is kept in the store, and is the grammar of the definitions that are written
there.  All this can be done exactly if every rule, at any depth, has one of the two forms and
its patterns compile.
-/

/-! ## Rules -/

namespace RuleFields

/-- What the plain parts of a rule make, a pattern alone or two delimiters alone.  A pattern
for what deepens the nesting is passed over beside a pattern. -/
inductive Makes (fields : RuleFields) : Rule -> Prop where
  | ofPattern {source : String} {compiled : Pattern}
      (pattern : fields.pattern = some source) (opening : fields.opening = none)
      (closing : fields.closing = none) (compiles : Pattern.compile source = .ok compiled) :
      fields.Makes
        { matcher := .pattern compiled
          synonym := fields.synonym
          greedy := fields.greedy
          lookbehind := fields.lookbehind }
  | ofDelimiters {openingSource closingSource : String} {opener closer : Pattern}
      {deeper : Option Pattern}
      (pattern : fields.pattern = none) (opening : fields.opening = some openingSource)
      (closing : fields.closing = some closingSource)
      (opens : Pattern.compile openingSource = .ok opener)
      (closes : Pattern.compile closingSource = .ok closer)
      (deepens : Option.Rel (fun source compiled => Pattern.compile source = .ok compiled)
        fields.nested deeper) :
      fields.Makes
        { matcher := .balanced { opening := opener, closing := closer, nested := deeper }
          synonym := fields.synonym
          greedy := fields.greedy
          lookbehind := true }

variable {fields : RuleFields} {name : String} {rule : Rule}

theorem compile_of_makes (makes : fields.Makes rule) (name : String) :
    fields.compile name = .ok rule := by
  rcases fields with ⟨pattern, opening, closing, nested, synonym, greedy, lookbehind⟩
  cases makes with
  | ofPattern pattern opening closing compiles =>
      cases pattern
      cases opening
      cases closing
      simp only [compile, Rule.ofPattern, compiles]
      rfl
  | ofDelimiters pattern opening closing opens closes deepens =>
      cases pattern
      cases opening
      cases closing
      cases deepens with
      | none =>
          simp only [compile, Delimiters.compile, opens, closes, Delimiters.withNested?]
          rfl
      | some deepens =>
          simp only [compile, Delimiters.compile, opens, closes, Delimiters.withNested?,
            Delimiters.withNested, deepens]
          rfl

theorem makes_of_compile (made : fields.compile name = .ok rule) : fields.Makes rule := by
  rcases fields with ⟨pattern, opening, closing, nested, synonym, greedy, lookbehind⟩
  unfold compile at made
  split at made
  · rename_i source hasPattern noOpening noClosing
    rcases HighlightError.ok_of_bind made with ⟨plain, read, marked⟩
    rcases HighlightError.ok_of_bind read with ⟨compiled, compiles, same⟩
    cases same
    cases marked
    exact .ofPattern hasPattern noOpening noClosing compiles
  · rename_i openingSource closingSource noPattern hasOpening hasClosing
    rcases HighlightError.ok_of_bind made with ⟨plain, both, later⟩
    rcases HighlightError.ok_of_bind both with ⟨opener, opens, other⟩
    rcases HighlightError.ok_of_bind other with ⟨closer, closes, same⟩
    cases same
    rcases HighlightError.ok_of_bind later with ⟨delimiters, nesting, marked⟩
    cases marked
    cases nested with
    | none =>
        cases nesting
        exact .ofDelimiters noPattern hasOpening hasClosing opens closes .none
    | some source =>
        rcases HighlightError.ok_of_bind nesting with ⟨deeper, deepens, same⟩
        cases same
        exact .ofDelimiters noPattern hasOpening hasClosing opens closes (.some deepens)
  · cases made

/-- A rule is made exactly if none of its items is at fault. -/
theorem exists_makes_iff (fields : RuleFields) (name : String) :
    (∃ rule, fields.Makes rule) ↔ ∀ item ∈ fields.items name, item.fault? = none :=
  (exists_congr fun _ => ⟨fun makes => compile_of_makes makes name, makes_of_compile⟩).trans
    (fields.failsAt_compile name).exists_ok_iff

end RuleFields

/-! ## Definitions -/

namespace RuleDefinition

mutual

/-- Everything that is written at any depth can be compiled if no item is at fault. -/
theorem forall_written_iff (name : String) : (definition : RuleDefinition) ->
    ((∀ written ∈ definition.written, ∃ rule, written.fields.Makes rule) ↔
      ∀ item ∈ definition.items name, item.fault? = none)
  | plain fields => by
      rw [written, items, List.forall_mem_singleton]
      exact fields.exists_makes_iff name
  | named fields grammar => by
      rw [written, items, List.forall_mem_singleton]
      exact fields.exists_makes_iff name
  | inline fields rules => by
      rw [written, items, List.forall_mem_cons, List.forall_mem_append]
      exact and_congr (fields.exists_makes_iff name) (forall_writtenEntries_iff rules)

theorem forall_writtenList_iff (name : String) : (definitions : List RuleDefinition) ->
    ((∀ written ∈ writtenList definitions, ∃ rule, written.fields.Makes rule) ↔
      ∀ item ∈ itemsOfList name definitions, item.fault? = none)
  | [] => iff_of_true (List.forall_mem_nil _) (List.forall_mem_nil _)
  | definition :: rest => by
      rw [writtenList, itemsOfList, List.forall_mem_append, List.forall_mem_append]
      exact and_congr (forall_written_iff name definition) (forall_writtenList_iff name rest)

theorem forall_writtenEntries_iff : (entries : RuleEntries) ->
    ((∀ written ∈ writtenEntries entries, ∃ rule, written.fields.Makes rule) ↔
      ∀ item ∈ itemsOfEntries entries, item.fault? = none)
  | [] => iff_of_true (List.forall_mem_nil _) (List.forall_mem_nil _)
  | (name, definitions) :: rest => by
      rw [writtenEntries, itemsOfEntries, List.forall_mem_append, List.forall_mem_append]
      exact and_congr (forall_writtenList_iff name definitions) (forall_writtenEntries_iff rest)

end

mutual

/-- Whether a rule is what a definition says.  The grammar for its content is in the store if
it is written there. -/
inductive Reflects (store : GrammarStore) : RuleDefinition -> Rule -> Prop where
  | plain {fields : RuleFields} {rule : Rule} (makes : fields.Makes rule) :
      Reflects store (.plain fields) rule
  | named {fields : RuleFields} {rule : Rule} {grammar : String} (makes : fields.Makes rule) :
      Reflects store (.named fields grammar) { rule with inside := some (.named grammar) }
  | inline {fields : RuleFields} {rule : Rule} {rules : RuleEntries} {id : GrammarId}
      (makes : fields.Makes rule) (kept : id < store.grammars.size)
      (inner : ReflectsEntries store rules (store.get id).entries) :
      Reflects store (.inline fields rules) { rule with inside := some (.inline id) }

/-- Whether rules are what definitions say, one after the other. -/
inductive ReflectsList (store : GrammarStore) : List RuleDefinition -> List Rule -> Prop where
  | nil : ReflectsList store [] []
  | cons {definition : RuleDefinition} {definitions : List RuleDefinition} {rule : Rule}
      {rules : List Rule} (first : Reflects store definition rule)
      (later : ReflectsList store definitions rules) :
      ReflectsList store (definition :: definitions) (rule :: rules)

/-- Whether the entries of a grammar are what definitions say, name by name. -/
inductive ReflectsEntries (store : GrammarStore) :
    RuleEntries -> List (String × List Rule) -> Prop where
  | nil : ReflectsEntries store [] []
  | cons {name : String} {definitions : List RuleDefinition} {rules : List Rule}
      {written : RuleEntries} {entries : List (String × List Rule)}
      (under : ReflectsList store definitions rules)
      (later : ReflectsEntries store written entries) :
      ReflectsEntries store ((name, definitions) :: written) ((name, rules) :: entries)

end

variable {before after : GrammarStore}

mutual

/-- What is in the store stays there. -/
theorem Reflects.extend (extension : after.Extends before) : {definition : RuleDefinition} ->
    {rule : Rule} -> definition.Reflects before rule -> definition.Reflects after rule
  | _, _, .plain makes => .plain makes
  | _, _, .named makes => .named makes
  | _, _, .inline makes kept inner => by
      refine .inline makes (Nat.lt_of_lt_of_le kept extension.size_le) ?_
      rw [extension.get_eq _ kept]
      exact inner.extend extension

theorem ReflectsList.extend (extension : after.Extends before) :
    {definitions : List RuleDefinition} -> {rules : List Rule} ->
    ReflectsList before definitions rules -> ReflectsList after definitions rules
  | _, _, .nil => .nil
  | _, _, .cons first later => .cons (first.extend extension) (later.extend extension)

theorem ReflectsEntries.extend (extension : after.Extends before) : {written : RuleEntries} ->
    {entries : List (String × List Rule)} ->
    ReflectsEntries before written entries -> ReflectsEntries after written entries
  | _, _, .nil => .nil
  | _, _, .cons under later => .cons (under.extend extension) (later.extend extension)

end

mutual

/-- A definition whose names are distinct is compiled to what it says. -/
theorem reflects_compile {store after : GrammarStore} {name : String} {rule : Rule} :
    (definition : RuleDefinition) -> definition.DistinctNames ->
    definition.compile store name = .ok (after, rule) -> definition.Reflects after rule
  | plain fields, _, compiled => by
      rw [compile] at compiled
      rcases HighlightError.ok_of_bind compiled with ⟨made, makes, same⟩
      cases same
      exact .plain (RuleFields.makes_of_compile makes)
  | named fields grammar, _, compiled => by
      rw [compile] at compiled
      rcases HighlightError.ok_of_bind compiled with ⟨made, makes, same⟩
      cases same
      exact .named (RuleFields.makes_of_compile makes)
  | inline fields rules, .inline _ nodup inner, compiled => by
      rw [compile] at compiled
      rcases HighlightError.ok_of_bind compiled with ⟨made, makes, rest⟩
      rcases HighlightError.ok_of_bind rest with ⟨⟨middle, grammar⟩, compiles, same⟩
      cases same
      rcases reflects_compileEntries rules nodup inner (fun _ _ => List.not_mem_nil) compiles with
        ⟨entries, split, reflects⟩
      -- The grammar comes last in the store, after those that its own rules refer to.
      have kept : GrammarStore.get { grammars := middle.grammars.push grammar }
          middle.grammars.size = grammar := GrammarStore.get_add middle grammar
      have added := reflects.extend (GrammarStore.extends_add middle grammar)
      refine .inline (RuleFields.makes_of_compile makes) ?_ ?_
      · exact Nat.lt_of_lt_of_eq (Nat.lt_succ_self _) (Array.size_push grammar).symm
      · rw [kept, split]
        exact added

theorem reflects_compileList {store after : GrammarStore} {name : String} {rules : List Rule} :
    (definitions : List RuleDefinition) -> (∀ definition ∈ definitions, definition.DistinctNames) ->
    compileList store name definitions = .ok (after, rules) ->
      ReflectsList after definitions rules
  | [], _, compiled => by
      rw [compileList] at compiled
      cases compiled
      exact .nil
  | definition :: rest, distinct, compiled => by
      rw [compileList] at compiled
      rcases HighlightError.ok_of_bind compiled with ⟨⟨middle, rule⟩, first, others⟩
      rcases HighlightError.ok_of_bind others with ⟨⟨last, later⟩, second, same⟩
      cases same
      rcases List.forall_mem_cons.mp distinct with ⟨own, more⟩
      have kept := (reflects_compile definition own first).extend (extends_compileList rest second)
      exact .cons kept (reflects_compileList rest more second)

/-- Names that are new to a grammar are added to it in their order. -/
theorem reflects_compileEntries {store after : GrammarStore} {grammar compiled : Grammar} :
    (entries : RuleEntries) -> (entries.map Prod.fst).Nodup ->
    (∀ entry ∈ entries, ∀ definition ∈ entry.2, definition.DistinctNames) ->
    (∀ entry ∈ entries, entry.1 ∉ grammar.names) ->
    compileEntries store grammar entries = .ok (after, compiled) ->
      ∃ added, compiled.entries = grammar.entries ++ added ∧
        ReflectsEntries after entries added
  | [], _, _, _, compiles => by
      rw [compileEntries] at compiles
      cases compiles
      exact ⟨[], (List.append_nil _).symm, .nil⟩
  | (name, definitions) :: rest, nodup, distinct, new, compiles => by
      rw [compileEntries] at compiles
      rcases HighlightError.ok_of_bind compiles with ⟨⟨middle, rules⟩, first, others⟩
      rw [List.map_cons, List.nodup_cons] at nodup
      rcases List.forall_mem_cons.mp distinct with ⟨own, more⟩
      rcases List.forall_mem_cons.mp new with ⟨absent, fresh⟩
      have inserted : (grammar.insert name rules).entries = grammar.entries ++ [(name, rules)] := by
        rw [Grammar.insert, dif_neg absent]
      have apart : ∀ entry ∈ rest, entry.1 ∉ (grammar.insert name rules).names := by
        intro entry listed known
        rw [Grammar.names, inserted, List.map_append, List.mem_append] at known
        rcases known with old | same
        · exact fresh entry listed old
        · exact nodup.1 (List.mem_singleton.mp same ▸ List.mem_map_of_mem listed)
      rcases reflects_compileEntries rest nodup.2 more apart others with ⟨added, split, reflects⟩
      have under := (reflects_compileList definitions own first).extend
        (extends_compileEntries rest others)
      refine ⟨(name, rules) :: added, ?_, .cons under reflects⟩
      rw [split, inserted, List.append_assoc, List.singleton_append]

end

theorem names_of_reflects {store : GrammarStore} : {written : RuleEntries} ->
    {entries : List (String × List Rule)} -> ReflectsEntries store written entries ->
      entries.map Prod.fst = written.map Prod.fst
  | _, _, .nil => rfl
  | _, _, .cons _ later => congrArg (_ :: ·) (names_of_reflects later)

/-- The rules of a file, compiled into a grammar of their own.  This can be done exactly if all
that is written at any depth can be; the grammar is then what the file says, in its order, and
what was in the store stays there.  Otherwise the first fault in the file is reported. -/
theorem compileEntries_parsed {text : String} {file : GrammarFile}
    (parsed : GrammarFile.parse? text = some file) (store : GrammarStore) :
    ((∃ made, compileEntries store Grammar.empty file.rules = .ok made) ↔
      ∀ written ∈ writtenEntries file.rules, ∃ rule, written.fields.Makes rule) ∧
    (∀ after grammar, compileEntries store Grammar.empty file.rules = .ok (after, grammar) ->
      after.Extends store ∧ grammar.names = file.rules.map Prod.fst ∧
        ReflectsEntries after file.rules grammar.entries) ∧
    ∀ fault, compileEntries store Grammar.empty file.rules = .error fault ↔
      (itemsOfEntries file.rules).findSome? Item.fault? = some fault := by
  have fails := failsAt_compileEntries store Grammar.empty file.rules
  have distinct := GrammarFile.distinctEntries_of_parse? parsed
  refine ⟨?_, ?_, fails⟩
  · exact fails.exists_ok_iff.trans (forall_writtenEntries_iff file.rules).symm
  · intro after grammar compiled
    rcases reflects_compileEntries file.rules distinct.nodup distinct.inner
      (fun _ _ => List.not_mem_nil) compiled with ⟨entries, split, reflects⟩
    have own : grammar.entries = entries := split
    refine ⟨extends_compileEntries file.rules compiled, ?_, own ▸ reflects⟩
    rw [Grammar.names, own]
    exact names_of_reflects reflects

/-- A file in which one rule has a grammar of its own for its content. -/
def parenthesized : String :=
  "name = 'x'\n[rules]\nword = 'a'\n[rules.call]\nopen = '[(]'\nclose = '[)]'\n" ++
    "[rules.call.inside.rules]\ndigit = '0'\n"

/-- A file with two faults, the latter in a rule and the former in the grammar for its
content. -/
def halfParenthesized : String :=
  "name = 'x'\n[rules.call.inside.rules]\ndigit = '('\n" ++
    "[rules.call]\nopen = '[(]'\nclose = '[)'\n"

theorem compileEntries_parsed_parenthesized :
    (∃ file after grammar, GrammarFile.parse? parenthesized = some file ∧
      compileEntries {} Grammar.empty file.rules = .ok (after, grammar) ∧
      grammar.names = ["word", "call"] ∧
      ReflectsEntries after file.rules grammar.entries) ∧
    ∃ file, GrammarFile.parse? halfParenthesized = some file ∧
      compileEntries {} Grammar.empty file.rules = .error (.invalidPattern "[)") := by
  constructor
  · have written : ∃ file ∈ GrammarFile.parse? parenthesized,
        file.rules.map Prod.fst = ["word", "call"] ∧
          ∀ item ∈ itemsOfEntries file.rules, item.fault? = none := by
      decide +kernel
    rcases written with ⟨file, parsed, own, sound⟩
    rcases compileEntries_parsed parsed {} with ⟨succeeds, reflects, _⟩
    rcases succeeds.mpr ((forall_writtenEntries_iff file.rules).mpr sound) with
      ⟨⟨after, grammar⟩, made⟩
    rcases reflects after grammar made with ⟨_, names, entries⟩
    exact ⟨file, after, grammar, parsed, made, names.trans own, entries⟩
  · have written : ∃ file ∈ GrammarFile.parse? halfParenthesized,
        (itemsOfEntries file.rules).findSome? Item.fault? = some (.invalidPattern "[)") := by
      decide +kernel
    rcases written with ⟨file, parsed, first⟩
    exact ⟨file, parsed, ((compileEntries_parsed parsed {}).2.2 _).mpr first⟩

end RuleDefinition

end FencedHighlight
