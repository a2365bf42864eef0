import FencedHighlight.Proofs.Registry.Installation
import FencedHighlight.Proofs.Tokenizer.Resolution

namespace FencedHighlight

/-!
Names that are registered, and names that are not.

A grammar refers to names in its own rules and in those of the grammars that are written
inside them, and by these names to other registered grammars.  If all names are registered,
no text can lead to one that is not.  Otherwise that depends on the text, and the failure
tells the name.  Registering more names is of no consequence to a text that can be
tokenized without them.
-/

namespace GrammarStore

/-- The grammars that are written inside a grammar, at any depth, itself included. -/
inductive Holds (store : GrammarStore) (outer : GrammarId) : GrammarId -> Prop where
  | self : Holds store outer outer
  | inline {middle inner : GrammarId} {name : String} {rule : Rule}
      (holds : Holds store outer middle) (listed : (name, rule) ∈ (store.get middle).rules)
      (written : rule.inside = some (.inline inner)) : Holds store outer inner

/-- Whether a grammar, or one that is written inside it, refers to a name. -/
def Mentions (store : GrammarStore) (grammar : GrammarId) (name : String) : Prop :=
  ∃ inner label rule, store.Holds grammar inner ∧ (label, rule) ∈ (store.get inner).rules ∧
    rule.inside = some (.named name)

end GrammarStore

namespace Registry

open Tokenizer (Reachable RefersTo Reached Lacks)

variable {registry larger : Registry} {root : GrammarId} {name : String}

/-- Whether a name is referred to by a grammar or by those that are registered. -/
def Mentions (registry : Registry) (root : GrammarId) (name : String) : Prop :=
  registry.store.Mentions root name ∨
    ∃ other id, registry.lookup? other = some id ∧ registry.store.Mentions id name

/-- A grammar leads only to what is written inside it and inside registered grammars. -/
theorem holds_of_reachable {inner : GrammarId} (reachable : Reachable registry.scope root inner) :
    registry.store.Holds root inner ∨
      ∃ other id, registry.lookup? other = some id ∧ registry.store.Holds id inner := by
  induction reachable with
  | root => exact Or.inl .self
  | @inside outer inner label rule reachable listed resolved ih =>
      rcases (Tokenizer.inner?_eq_some_iff).mp resolved with written | ⟨other, named, bound⟩
      · rcases ih with own | ⟨other, id, bound, within⟩
        · exact Or.inl (own.inline listed written)
        · exact Or.inr ⟨other, id, bound, within.inline listed written⟩
      · exact Or.inr ⟨other, inner, bound, .self⟩

theorem mentions_of_refersTo (refers : RefersTo registry.scope root name) :
    registry.Mentions root name := by
  rcases refers with ⟨outer, label, rule, reachable, listed, named⟩
  rcases holds_of_reachable reachable with own | ⟨other, id, bound, within⟩
  · exact Or.inl ⟨outer, label, rule, own, listed, named⟩
  · exact Or.inr ⟨other, id, bound, outer, label, rule, within, listed, named⟩

/-- Whether a registry has the bindings of another one and the grammars to which these
lead from some grammar. -/
structure Enlarges (larger registry : Registry) (root : GrammarId) : Prop where
  bindings : ∀ name id, registry.lookup? name = some id -> larger.lookup? name = some id
  grammars : ∀ id, Reachable registry.scope root id ->
    larger.store.get id = registry.store.get id

theorem Enlarges.agrees (enlarges : larger.Enlarges registry root) :
    larger.scope.Agrees registry.scope root :=
  { grammars := enlarges.grammars, resolve := enlarges.bindings, findAny := rfl }

/-- A registration enlarges a registry if nothing is bound to the name yet. -/
theorem enlarges_register (unbound : registry.lookup? name = none) (grammar : Grammar)
    (kept : ∀ id, Reachable registry.scope root id -> id < registry.store.grammars.size) :
    (registry.register name grammar).Enlarges registry root := by
  have rebound := rebound_register registry name grammar
  refine ⟨?_, fun id reachable => rebound.store.get_eq id (kept id reachable)⟩
  intro other id bound
  rw [rebound.others other, bound]
  rintro rfl
  rw [unbound] at bound
  cases bound

/-- How names are looked up.  Tokenizing breaks off only where a span is broken, which
takes a rule that reports what is not there, or for want of a grammar, and then some rule
that the grammar leads to refers to the name, which is not registered.  The latter happens
exactly if the run comes to a match whose rule refers to the name, so never if all names
are registered.  And what has been tokenized with some names is tokenized in the same way
with more. -/
theorem tokenize_resolution (registry : Registry) (root : GrammarId) (text : Text) :
    (∀ fault, registry.tokenize root text = .error fault ->
      (fault = .brokenSpan ∧ ¬ registry.scope.ReportsInside) ∨
        ∃ missing, fault = .grammarNotFound missing ∧ registry.lookup? missing = none ∧
          RefersTo registry.scope root missing) ∧
    (∀ missing, registry.tokenize root text = .error (.grammarNotFound missing) ↔
      ∃ state, Reached registry.scope root text state ∧
        Lacks registry.scope state.top missing) ∧
    ((∀ name, registry.Mentions root name -> registry.contains name = true) ->
      ∀ missing, registry.tokenize root text ≠ .error (.grammarNotFound missing)) ∧
    (∀ larger : Registry, larger.Enlarges registry root ->
      ∀ tokens, registry.tokenize root text = .ok tokens ->
        larger.tokenize root text = .ok tokens) := by
  refine ⟨?_, fun _ => Tokenizer.tokenize_eq_missing_iff, ?_,
    fun _ enlarges _ => Tokenizer.tokenize_of_agrees enlarges.agrees⟩
  · intro fault fails
    rcases Tokenizer.refersTo_of_tokenize fails with rfl | lacking
    · refine Or.inl ⟨rfl, fun inside => ?_⟩
      have outcome := @Tokenizer.tokenize_cases registry.scope root text inside
      rw [show Tokenizer.tokenize registry.scope root text = _ from fails] at outcome
      rcases outcome with ⟨tokens, succeeds⟩ | ⟨missing, lacking⟩
      · cases succeeds
      · cases lacking
    · exact Or.inr lacking
  · intro registered missing fails
    rcases Tokenizer.refersTo_of_tokenize fails with broken | ⟨name, same, unbound, refers⟩
    · cases broken
    · cases same
      rcases (contains_iff).mp (registered missing (mentions_of_refersTo refers)) with ⟨id, bound⟩
      rw [show registry.lookup? missing = none from unbound] at bound
      cases bound

/-- A registry whose only grammar leads to another one between parentheses. -/
def outerOnly : Registry :=
  Registry.register {} "outer" (Grammar.empty.insert "group"
    [embeddingRule (Delimiters.pair "(" ")") "inner"])

/-- The registry with the grammar to which it leads. -/
def outerAndInner : Registry :=
  outerOnly.register "inner" Grammar.empty

/-- There is a single rule in both. -/
theorem eq_of_mem_outerAndInner {grammar : GrammarId} {entry : String × Rule}
    (listed : entry ∈ (outerAndInner.store.get grammar).rules) :
    entry = ("group", embeddingRule (Delimiters.pair "(" ")") "inner") := by
  have kept : grammar < 2 := Tokenizer.lt_size_of_mem_rules listed
  rcases Nat.le_one_iff_eq_zero_or_eq_one.mp (Nat.le_of_lt_succ kept) with rfl | rfl
  · exact List.mem_singleton.mp listed
  · cases listed

/-- The inner grammar is not missed in a text without parentheses, whose tokens stay the
same when it is registered.  Between parentheses it is missed. -/
theorem tokenize_resolution_inner :
    outerOnly.tokenize 0 "x)".toList = .ok [.text "x)".toList] ∧
      outerAndInner.Enlarges outerOnly 0 ∧
      outerAndInner.tokenize 0 "x)".toList = .ok [.text "x)".toList] ∧
      outerOnly.tokenize 0 "(x)".toList = .error (.grammarNotFound "inner") ∧
      outerOnly.lookup? "inner" = none ∧
      RefersTo outerOnly.scope 0 "inner" ∧
      (∀ name, outerAndInner.Mentions 0 name -> outerAndInner.contains name = true) ∧
      ∀ missing, outerAndInner.tokenize 0 "(x)".toList ≠ .error (.grammarNotFound missing) := by
  have plain : outerOnly.tokenize 0 "x)".toList = .ok [.text "x)".toList] := by rfl
  have lacking : outerOnly.tokenize 0 "(x)".toList = .error (.grammarNotFound "inner") := by rfl
  have enlarges : outerAndInner.Enlarges outerOnly 0 := by
    refine enlarges_register rfl Grammar.empty fun id reachable => ?_
    cases reachable with
    | root => exact Nat.one_pos
    | @inside outer _ label rule _ listed resolved =>
        have first : outer = 0 := Nat.lt_one_iff.mp (Tokenizer.lt_size_of_mem_rules listed)
        subst first
        cases List.mem_singleton.mp listed
        cases resolved
  have registered : ∀ name, outerAndInner.Mentions 0 name ->
      outerAndInner.contains name = true := by
    have named {grammar : GrammarId} {name : String}
        (mentions : outerAndInner.store.Mentions grammar name) : name = "inner" := by
      rcases mentions with ⟨inner, label, rule, _, listed, named⟩
      cases eq_of_mem_outerAndInner listed
      cases named
      rfl
    rintro name (own | ⟨other, id, _, mentions⟩)
    · rw [named own]
      rfl
    · rw [named mentions]
      rfl
  rcases (tokenize_resolution outerOnly 0 "(x)".toList).1 _ lacking with
    ⟨broken, _⟩ | ⟨missing, same, unbound, refers⟩
  · cases broken
  · cases same
    exact ⟨plain, enlarges,
      (tokenize_resolution outerOnly 0 "x)".toList).2.2.2 outerAndInner enlarges _ plain,
      lacking, unbound, refers, registered,
      (tokenize_resolution outerAndInner 0 "(x)".toList).2.2.1 registered⟩

end Registry
end FencedHighlight
