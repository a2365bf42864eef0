import FencedHighlight.Proofs.Toml.Keys
import FencedHighlight.GrammarFile.Reading

namespace FencedHighlight

/-!
The names of the rules that are read.

The rules of a grammar stand under the keys of one table, those of a grammar for the content
of a rule under the keys of a table further inside.  As the keys of a document are distinct at
any depth, so are the names of the rules.
-/

namespace RuleDefinition

/-- Whether the names in the grammar for the content of a rule are distinct, at any depth. -/
inductive DistinctNames : RuleDefinition -> Prop where
  | plain (fields : RuleFields) : DistinctNames (.plain fields)
  | named (fields : RuleFields) (grammar : String) : DistinctNames (.named fields grammar)
  | inline (fields : RuleFields) {rules : RuleEntries} (nodup : (rules.map Prod.fst).Nodup)
      (inner : ∀ entry ∈ rules, ∀ definition ∈ entry.2, DistinctNames definition) :
      DistinctNames (.inline fields rules)

/-- Whether the names of rules are distinct, at any depth. -/
structure DistinctEntries (entries : RuleEntries) : Prop where
  nodup : (entries.map Prod.fst).Nodup
  inner : ∀ entry ∈ entries, ∀ definition ∈ entry.2, definition.DistinctNames

theorem distinctEntries_nil : DistinctEntries [] :=
  ⟨List.nodup_nil, List.forall_mem_nil _⟩

end RuleDefinition

namespace GrammarFile

open Toml (Value)
open RuleDefinition (DistinctEntries)

/-- Whether the grammar for the content of a rule has distinct names, at any depth. -/
def DistinctInside : String ⊕ RuleEntries -> Prop
  | .inl _ => True
  | .inr rules => DistinctEntries rules

/-- Whether what has been read of a rule has distinct names, at any depth. -/
def RuleParts.DistinctNames (parts : RuleParts) : Prop :=
  ∀ inside, parts.inside = some inside -> DistinctInside inside

theorem RuleParts.distinctNames_empty : RuleParts.DistinctNames {} := by
  rintro inside ⟨⟩

theorem RuleParts.DistinctNames.rule {parts : RuleParts} (distinct : parts.DistinctNames) :
    parts.rule.DistinctNames := by
  rcases parts with ⟨fields, inside⟩
  cases inside with
  | none => exact .plain fields
  | some inside =>
      have own := distinct inside rfl
      cases inside with
      | inl grammar => exact .named fields grammar
      | inr rules => exact .inline fields own.nodup own.inner

/-- Only the grammar for the content of a rule matters, and what is read of it last counts. -/
theorem distinctNames_setPart? {parts changed : RuleParts} {key : String} {value : Value}
    {inside : Option (String ⊕ RuleEntries)} (former : parts.DistinctNames)
    (content : ∀ grammar, inside = some grammar -> DistinctInside grammar)
    (read : setPart? parts key value inside = some changed) : changed.DistinctNames := by
  rw [setPart?] at read
  split at read
  · rcases Option.map_eq_some_iff.mp read with ⟨grammar, found, same⟩
    cases same
    rintro _ ⟨⟩
    exact content grammar found
  · rcases Option.map_eq_some_iff.mp read with ⟨fields, _, same⟩
    cases same
    exact former

mutual

theorem distinctNames_readFields : (entries : List (String × Value)) ->
    (∀ entry ∈ entries, entry.2.DistinctKeys) -> {parts changed : RuleParts} ->
    parts.DistinctNames -> readFields parts entries = some changed -> changed.DistinctNames
  | [], _, _, _, former, read => by
      rw [readFields] at read
      cases read
      exact former
  | (key, value) :: rest, distinct, _, _, former, read => by
      rw [readFields] at read
      rw [List.forall_mem_cons] at distinct
      rcases Option.bind_eq_some_iff.mp read with ⟨parts, first, later⟩
      have kept := distinctNames_setPart? former
        (fun _ => distinctInside_readInside value distinct.1) first
      exact distinctNames_readFields rest distinct.2 kept later

theorem distinctNames_readItems : (items : List Value) -> (∀ item ∈ items, item.DistinctKeys) ->
    {keys : List String} -> {parts changed : RuleParts} ->
    parts.DistinctNames -> readItems parts keys items = some changed -> changed.DistinctNames
  | [], _, _, _, _, former, read => by
      rw [readItems] at read
      cases read
      exact former
  | value :: rest, distinct, [], _, _, former, read => by
      rw [readItems] at read
      cases read
  | value :: rest, distinct, key :: keys, _, _, former, read => by
      rw [readItems] at read
      rw [List.forall_mem_cons] at distinct
      rcases Option.bind_eq_some_iff.mp read with ⟨parts, first, later⟩
      have kept := distinctNames_setPart? former
        (fun _ => distinctInside_readInside value distinct.1) first
      exact distinctNames_readItems rest distinct.2 kept later

theorem distinctNames_readRule : (value : Value) -> value.DistinctKeys ->
    {definition : RuleDefinition} -> readRule value = some definition ->
      definition.DistinctNames
  | .table entries, .table _ all, _, read => by
      rw [readRule] at read
      rcases Option.map_eq_some_iff.mp read with ⟨parts, fields, rfl⟩
      exact (distinctNames_readFields entries all RuleParts.distinctNames_empty fields).rule
  | .array items, .array all, _, read => by
      rw [readRule] at read
      rcases Option.map_eq_some_iff.mp read with ⟨parts, fields, rfl⟩
      exact (distinctNames_readItems items all RuleParts.distinctNames_empty fields).rule
  | .string _, _, _, read | .integer _, _, _, read | .float, _, _, read
  | .boolean _, _, _, read | .moment _, _, _, read => by
      simp only [readRule, reduceCtorEq] at read

theorem distinctNames_readRuleList : (items : List Value) ->
    (∀ item ∈ items, item.DistinctKeys) -> {definitions : List RuleDefinition} ->
    readRuleList items = some definitions ->
      ∀ definition ∈ definitions, definition.DistinctNames
  | [], _, _, read => by
      rw [readRuleList] at read
      cases read
      exact List.forall_mem_nil _
  | value :: rest, distinct, _, read => by
      rw [readRuleList] at read
      rw [List.forall_mem_cons] at distinct
      rcases Option.bind_eq_some_iff.mp read with ⟨rule, first, later⟩
      rcases Option.bind_eq_some_iff.mp later with ⟨rules, further, same⟩
      cases same
      exact List.forall_mem_cons.mpr ⟨distinctNames_readRule value distinct.1 first,
        distinctNames_readRuleList rest distinct.2 further⟩

theorem distinctNames_readAlternatives : (value : Value) -> value.DistinctKeys ->
    {definitions : List RuleDefinition} -> readAlternatives value = some definitions ->
      ∀ definition ∈ definitions, definition.DistinctNames
  | .string pattern, _, _, read => by
      rw [readAlternatives] at read
      cases read
      exact List.forall_mem_singleton.mpr (.plain _)
  | .table entries, .table _ all, _, read => by
      rw [readAlternatives] at read
      rcases Option.map_eq_some_iff.mp read with ⟨parts, fields, rfl⟩
      exact List.forall_mem_singleton.mpr
        (distinctNames_readFields entries all RuleParts.distinctNames_empty fields).rule
  | .array items, .array all, _, read => by
      rw [readAlternatives] at read
      split at read
      · rename_i parts fields
        cases read
        exact List.forall_mem_singleton.mpr
          (distinctNames_readItems items all RuleParts.distinctNames_empty fields).rule
      · exact distinctNames_readRuleList items all read
  | .integer _, _, _, read | .float, _, _, read | .boolean _, _, _, read
  | .moment _, _, _, read => by
      simp only [readAlternatives, reduceCtorEq] at read

/-- The names of rules are the keys that they stand under. -/
theorem distinctNames_readEntries : (entries : List (String × Value)) ->
    (∀ entry ∈ entries, entry.2.DistinctKeys) -> {rules : RuleEntries} ->
    readEntries entries = some rules ->
      rules.map Prod.fst = entries.map Prod.fst ∧
        ∀ entry ∈ rules, ∀ definition ∈ entry.2, definition.DistinctNames
  | [], _, _, read => by
      rw [readEntries] at read
      cases read
      exact ⟨rfl, List.forall_mem_nil _⟩
  | (name, value) :: rest, distinct, _, read => by
      rw [readEntries] at read
      rw [List.forall_mem_cons] at distinct
      rcases Option.bind_eq_some_iff.mp read with ⟨definitions, first, later⟩
      rcases Option.bind_eq_some_iff.mp later with ⟨entries, further, same⟩
      cases same
      have own := distinctNames_readAlternatives value distinct.1 first
      rcases distinctNames_readEntries rest distinct.2 further with ⟨names, others⟩
      exact ⟨congrArg (name :: ·) names, List.forall_mem_cons.mpr ⟨own, others⟩⟩

theorem distinctEntries_readRules : (value : Value) -> value.DistinctKeys ->
    {rules : RuleEntries} -> readRules value = some rules -> DistinctEntries rules
  | .table entries, .table nodup all, _, read => by
      rw [readRules] at read
      rcases distinctNames_readEntries entries all read with ⟨names, inner⟩
      exact ⟨names ▸ nodup, inner⟩
  | .moment text, _, _, read => by
      rw [readRules] at read
      cases read
      exact ⟨List.nodup_singleton _,
        List.forall_mem_singleton.mpr (List.forall_mem_singleton.mpr (.plain _))⟩
  | .string _, _, _, read | .integer _, _, _, read | .float, _, _, read
  | .boolean _, _, _, read | .array _, _, _, read => by
      simp only [readRules, reduceCtorEq] at read

theorem distinctEntries_readRulesAmong : (entries : List (String × Value)) ->
    (∀ entry ∈ entries, entry.2.DistinctKeys) -> {rules : RuleEntries} ->
    readRulesAmong entries = some rules -> DistinctEntries rules
  | [], _, _, read => by
      rw [readRulesAmong] at read
      cases read
      exact RuleDefinition.distinctEntries_nil
  | (key, value) :: rest, distinct, _, read => by
      rw [readRulesAmong] at read
      rw [List.forall_mem_cons] at distinct
      split at read
      · exact distinctEntries_readRules value distinct.1 read
      · exact distinctEntries_readRulesAmong rest distinct.2 read

theorem distinctInside_readInside : (value : Value) -> value.DistinctKeys ->
    {inside : String ⊕ RuleEntries} -> readInside value = some inside -> DistinctInside inside
  | .string grammar, _, _, read => by
      rw [readInside] at read
      cases read
      exact trivial
  | .table entries, .table _ all, _, read => by
      rw [readInside] at read
      rcases Option.map_eq_some_iff.mp read with ⟨rules, among, rfl⟩
      exact distinctEntries_readRulesAmong entries all among
  | .array [], _, _, read | .moment _, _, _, read => by
      rw [readInside] at read
      cases read
      exact RuleDefinition.distinctEntries_nil
  | .array [value], .array all, _, read => by
      rw [readInside] at read
      rcases Option.map_eq_some_iff.mp read with ⟨rules, among, rfl⟩
      exact distinctEntries_readRules value (all value List.mem_cons_self) among
  | .array (_ :: _ :: _), _, _, read | .integer _, _, _, read | .float, _, _, read
  | .boolean _, _, _, read => by
      simp only [readInside, reduceCtorEq] at read

end

theorem distinctEntries_of_ofEntries? {entries : List (String × Value)} {file : GrammarFile}
    (distinct : Value.DistinctKeys (.table entries)) (read : ofEntries? entries = some file) :
    DistinctEntries file.rules := by
  unfold ofEntries? at read
  split at read
  · rcases Option.bind_eq_some_iff.mp read with ⟨name, _, read⟩
    rcases Option.bind_eq_some_iff.mp read with ⟨base, _, read⟩
    rcases Option.bind_eq_some_iff.mp read with ⟨rules, found, read⟩
    rcases Option.bind_eq_some_iff.mp read with ⟨embeddings, _, same⟩
    cases same
    unfold Toml.field? at found
    split at found
    · rename_i value under
      rcases List.lookup_eq_some_iff.mp under with ⟨sooner, later, split, _⟩
      cases distinct with
      | table nodup all =>
          refine distinctEntries_readRules value (all ("rules", value) ?_) found
          rw [split]
          exact List.mem_append_right _ List.mem_cons_self
    · cases found
      exact RuleDefinition.distinctEntries_nil
  · cases read

/-- No grammar in a file has two rules of one name. -/
theorem distinctEntries_of_parse? {text : String} {file : GrammarFile}
    (parsed : parse? text = some file) : DistinctEntries file.rules := by
  rcases Option.bind_eq_some_iff.mp parsed with ⟨entries, document, read⟩
  exact distinctEntries_of_ofEntries? (Toml.distinctKeys_parse document) read

end GrammarFile

end FencedHighlight
