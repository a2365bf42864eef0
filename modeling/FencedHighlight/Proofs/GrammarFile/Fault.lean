import FencedHighlight.Proofs.Registry.Origin

namespace FencedHighlight

/-!
The first fault of a definition.

Rules are compiled in the order in which they are written, and the first fault ends it all.
What may be at fault are the patterns of a rule, in the order opening, closing and nested, or
the rule itself if it has neither a pattern alone nor two delimiters alone.  The items of a
definition list all this in the order of the document, those of a rule before those of the
grammar for its content.  So compiling fails exactly if some item is at fault, and with the
fault of the first such item.
-/

/-- Something in a definition that may be at fault. -/
inductive Item where
  /-- A pattern that has to be compiled. -/
  | pattern (source : String)
  /-- A rule that has neither a pattern alone nor two delimiters alone. -/
  | formless (rule : String)

/-- The fault of an item, if it has one. -/
def Item.fault? : Item -> Option HighlightError
  | pattern source =>
      if (Pattern.compile source).isOk then none else some (.invalidPattern source)
  | formless rule =>
      some (.other ("rule " ++ rule ++ " needs either `pattern` or both `open` and `close`"))

/-- Whether an operation fails exactly with the first fault among some items. -/
def FailsAt {α : Type} (items : List Item) (result : Except HighlightError α) : Prop :=
  ∀ fault, result = .error fault ↔ items.findSome? Item.fault? = some fault

namespace FailsAt

variable {α β : Type} {items more : List Item}

theorem ok (value : α) : FailsAt [] (Except.ok value : Except HighlightError α) :=
  fun _ => iff_of_false (by rintro ⟨⟩) (by rintro ⟨⟩)

/-- Operations one after the other fail with the first fault of the items of them all. -/
theorem bind {first : Except HighlightError α} {next : α -> Except HighlightError β}
    (sooner : FailsAt items first)
    (later : ∀ value, first = .ok value -> FailsAt more (next value)) :
    FailsAt (items ++ more) (first >>= next) := by
  intro fault
  rw [List.findSome?_append]
  cases result : first with
  | error other =>
      rw [(sooner other).mp result, Option.some_or]
      exact ⟨fun same => congrArg some (Except.error.inj same),
        fun same => congrArg Except.error (Option.some.inj same)⟩
  | ok value =>
      have none : items.findSome? Item.fault? = none :=
        Option.eq_none_iff_forall_ne_some.mpr fun fault found => by
          cases result.symm.trans ((sooner fault).mpr found)
      rw [none, Option.none_or]
      exact later value result fault

theorem map {first : Except HighlightError α} (sooner : FailsAt items first) (change : α -> β) :
    FailsAt items (first >>= fun value => pure (change value)) := by
  have both : FailsAt (items ++ []) (first >>= fun value => pure (change value)) :=
    sooner.bind fun value _ => ok (change value)
  rwa [List.append_nil] at both

theorem error {item : Item} {fault : HighlightError} (faulty : item.fault? = some fault) :
    FailsAt [item] (Except.error fault : Except HighlightError α) := by
  intro other
  rw [List.findSome?_singleton, faulty]
  exact ⟨fun same => congrArg some (Except.error.inj same),
    fun same => congrArg Except.error (Option.some.inj same)⟩

/-- What can fail in no other way succeeds if no item is at fault. -/
theorem exists_ok_iff {result : Except HighlightError α} (fails : FailsAt items result) :
    (∃ value, result = .ok value) ↔ ∀ item ∈ items, item.fault? = none := by
  rw [← List.findSome?_eq_none_iff]
  cases result with
  | error fault =>
      refine iff_of_false (by rintro ⟨_, ⟨⟩⟩) ?_
      rw [(fails fault).mp rfl]
      rintro ⟨⟩
  | ok value =>
      refine iff_of_true ⟨value, rfl⟩ ?_
      exact Option.eq_none_iff_forall_ne_some.mpr fun fault found => by
        cases (fails fault).mpr found

end FailsAt

theorem Pattern.fault_of_compile {source : String} {fault : HighlightError}
    (failed : Pattern.compile source = .error fault) : fault = .invalidPattern source := by
  unfold compile at failed
  split at failed
  · split at failed
    · cases failed
    · exact (Except.error.inj failed).symm
  · exact (Except.error.inj failed).symm

theorem failsAt_compile (source : String) :
    FailsAt [.pattern source] (Pattern.compile source) := by
  intro fault
  rw [List.findSome?_singleton, Item.fault?]
  cases result : Pattern.compile source with
  | error other =>
      rw [Pattern.fault_of_compile result]
      exact ⟨fun same => congrArg some (Except.error.inj same),
        fun same => congrArg Except.error (Option.some.inj same)⟩
  | ok pattern => exact iff_of_false (by rintro ⟨⟩) (by rintro ⟨⟩)

theorem Delimiters.failsAt_compile (opening closing : String) :
    FailsAt [.pattern opening, .pattern closing] (Delimiters.compile opening closing) :=
  (FencedHighlight.failsAt_compile opening).bind fun _ _ =>
    (FencedHighlight.failsAt_compile closing).map _

theorem Delimiters.failsAt_withNested? (delimiters : Delimiters) (nested : Option String) :
    FailsAt (nested.toList.map .pattern) (delimiters.withNested? nested) := by
  cases nested with
  | none => exact FailsAt.ok delimiters
  | some source => exact (FencedHighlight.failsAt_compile source).map _

/-! ## Rules -/

namespace RuleFields

/-- The patterns that a rule is made of, in the order in which they are compiled.  A rule has
a pattern and no delimiters, or both delimiters and no pattern.  What deepens the nesting
counts only beside delimiters. -/
def sources? (fields : RuleFields) : Option (List String) :=
  match fields.pattern, fields.opening, fields.closing with
  | some pattern, none, none => some [pattern]
  | none, some opening, some closing => some (opening :: closing :: fields.nested.toList)
  | _, _, _ => none

def items (fields : RuleFields) (name : String) : List Item :=
  fields.sources?.elim [.formless name] (List.map .pattern)

/-- The own patterns of a rule are compiled in order. -/
theorem failsAt_compile (fields : RuleFields) (name : String) :
    FailsAt (fields.items name) (fields.compile name) := by
  rcases fields with ⟨pattern, opening, closing, nested, synonym, greedy, lookbehind⟩
  rcases pattern with _ | pattern <;> rcases opening with _ | opening <;>
    rcases closing with _ | closing
  case none.some.some =>
    exact (Delimiters.failsAt_compile opening closing).bind fun delimiters _ =>
      (delimiters.failsAt_withNested? nested).map fun delimiters =>
        ({ Rule.balanced delimiters with synonym, greedy } : Rule)
  case some.none.none =>
    have read := (FencedHighlight.failsAt_compile pattern).map fun pattern =>
      ({ matcher := .pattern pattern } : Rule)
    exact read.map fun rule => { rule with synonym, greedy, lookbehind }
  all_goals exact FailsAt.error rfl

end RuleFields

/-! ## Definitions -/

namespace RuleDefinition

mutual

/-- The items of a definition under a name, in the order of the document. -/
def items (name : String) : RuleDefinition -> List Item
  | plain fields | named fields _ => fields.items name
  | inline fields rules => fields.items name ++ itemsOfEntries rules

def itemsOfList (name : String) : List RuleDefinition -> List Item
  | [] => []
  | definition :: rest => definition.items name ++ itemsOfList name rest

def itemsOfEntries : List (String × List RuleDefinition) -> List Item
  | [] => []
  | (name, definitions) :: rest => itemsOfList name definitions ++ itemsOfEntries rest

end

mutual

/-- Compiling a definition fails with the first fault in it, at any depth. -/
theorem failsAt_compile (store : GrammarStore) (name : String) : (definition : RuleDefinition) ->
    FailsAt (definition.items name) (definition.compile store name)
  | plain fields => by
      rw [items, compile]
      exact (fields.failsAt_compile name).map fun rule => (store, rule)
  | named fields grammar => by
      rw [items, compile]
      exact (fields.failsAt_compile name).map fun rule =>
        (store, { rule with inside := some (.named grammar) })
  | inline fields rules => by
      rw [items, compile]
      refine (fields.failsAt_compile name).bind fun rule _ => ?_
      exact (failsAt_compileEntries store Grammar.empty rules).map fun inner =>
        ((inner.1.add inner.2).1, { rule with inside := some (.inline (inner.1.add inner.2).2) })

theorem failsAt_compileList (store : GrammarStore) (name : String) :
    (definitions : List RuleDefinition) ->
      FailsAt (itemsOfList name definitions) (compileList store name definitions)
  | [] => by
      rw [itemsOfList, compileList]
      exact FailsAt.ok _
  | definition :: rest => by
      rw [itemsOfList, compileList]
      refine (failsAt_compile store name definition).bind fun made _ => ?_
      exact (failsAt_compileList made.1 name rest).map fun later =>
        (later.1, made.2 :: later.2)

theorem failsAt_compileEntries (store : GrammarStore) (grammar : Grammar) :
    (entries : RuleEntries) ->
      FailsAt (itemsOfEntries entries) (compileEntries store grammar entries)
  | [] => by
      rw [itemsOfEntries, compileEntries]
      exact FailsAt.ok _
  | (name, definitions) :: rest => by
      rw [itemsOfEntries, compileEntries]
      refine (failsAt_compileList store name definitions).bind fun made _ => ?_
      exact failsAt_compileEntries made.1 (grammar.insert name made.2) rest

end

end RuleDefinition

end FencedHighlight
