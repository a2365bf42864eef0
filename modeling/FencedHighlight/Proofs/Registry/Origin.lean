import FencedHighlight.Proofs.Registry.Contents

namespace FencedHighlight

/-!
Where the rules of a registry come from.

Grammars are layered onto each other, copied and changed, but no rule is ever changed, and
none is made but by compiling what is written in a file.  So whatever holds of all rules that
are written in some files holds of all rules of a registry in which they are installed.  And
a file is installed without a fault if all that is written in it can be compiled.
-/

/-! ## Grammars -/

namespace Grammar

variable {Holds : Rule -> Prop} {grammar changed : Grammar} {name : String} {rules : List Rule}

/-- Whether all rules of a grammar have a property. -/
def All (Holds : Rule -> Prop) (grammar : Grammar) : Prop :=
  ∀ entry ∈ grammar.entries, ∀ rule ∈ entry.2, Holds rule

theorem all_empty : empty.All Holds :=
  fun _ listed => absurd listed List.not_mem_nil

theorem All.of_mem_rules (all : grammar.All Holds) {entry : String × Rule}
    (listed : entry ∈ grammar.rules) : Holds entry.2 := by
  rcases List.mem_flatMap.mp listed with ⟨written, known, among⟩
  rcases List.mem_map.mp among with ⟨rule, member, rfl⟩
  exact all written known rule member

/-- Nothing has to be known of how entries are arranged, only where they come from. -/
theorem All.of_subset (all : grammar.All Holds) (name : String)
    (new : ∀ rule ∈ rules, Holds rule)
    (kept : changed.entries ⊆ (name, rules) :: grammar.entries) : changed.All Holds := by
  intro entry listed
  rcases List.mem_cons.mp (kept listed) with rfl | old
  · exact new
  · exact all entry old

theorem All.insert (all : grammar.All Holds) (new : ∀ rule ∈ rules, Holds rule) :
    (grammar.insert name rules).All Holds := by
  refine all.of_subset name new ?_
  intro entry listed
  unfold Grammar.insert at listed
  split at listed
  · rcases List.mem_map.mp listed with ⟨old, known, rfl⟩
    split
    · exact List.mem_cons_self
    · exact List.mem_cons_of_mem _ known
  · rcases List.mem_append.mp listed with old | last
    · exact List.mem_cons_of_mem _ old
    · exact List.mem_cons.mpr (Or.inl (List.mem_singleton.mp last))

theorem All.insertFirst (all : grammar.All Holds) (new : ∀ rule ∈ rules, Holds rule) :
    (grammar.insertFirst name rules).All Holds :=
  all.of_subset name new
    (List.cons_subset_cons _ (without_sublist grammar.entries name).subset)

theorem All.insertBefore (all : grammar.All Holds) (new : ∀ rule ∈ rules, Holds rule)
    (before : String) : (grammar.insertBefore before name rules).All Holds := by
  have placed := perm_placeBefore before (name, rules) (without grammar.entries name)
  refine all.of_subset name new fun entry listed => ?_
  exact List.cons_subset_cons _ (without_sublist grammar.entries name).subset
    (placed.mem_iff.mp listed)

theorem All.extended (all : grammar.All Holds) {overrides : Grammar}
    (new : overrides.All Holds) : (grammar.extended overrides).All Holds := by
  unfold Grammar.extended
  refine List.foldlRecOn overrides.entries _ all ?_
  exact fun layered kept entry listed => kept.insert (new entry listed)

end Grammar

namespace GrammarStore

variable {Holds : Rule -> Prop} {store : GrammarStore} {grammar : Grammar}

/-- Whether all rules of all grammars have a property. -/
def All (Holds : Rule -> Prop) (store : GrammarStore) : Prop :=
  ∀ grammar ∈ store.grammars, grammar.All Holds

theorem all_empty : All Holds {} :=
  fun _ listed => absurd listed (Array.not_mem_empty _)

theorem All.get (all : store.All Holds) (id : GrammarId) : (store.get id).All Holds := by
  unfold GrammarStore.get
  cases found : store.grammars[id]? with
  | none => exact Grammar.all_empty
  | some grammar => exact all grammar (Array.mem_of_getElem? found)

theorem All.add (all : store.All Holds) (new : grammar.All Holds) :
    (store.add grammar).1.All Holds := by
  intro kept listed
  rcases Array.mem_push.mp listed with old | rfl
  · exact all kept old
  · exact new

end GrammarStore

/-! ## What is written -/

/-- A rule as it is written, with the name of the grammar for its content if it has one. -/
structure WrittenRule where
  fields : RuleFields
  grammar : Option String := none

namespace WrittenRule

/-- Whether a rule is made from a written one.  If its content has a named grammar, it is
the one that is written; otherwise it may have a grammar of its own. -/
def Describes (written : WrittenRule) (rule : Rule) : Prop :=
  ∃ name plain inside, written.fields.compile name = .ok plain ∧
    rule = { plain with inside } ∧
    ∀ grammar, inside = some (.named grammar) -> written.grammar = some grammar

/-- Whether a written rule can be compiled and all rules made from it have a property. -/
structure Yields (written : WrittenRule) (Holds : Rule -> Prop) : Prop where
  compiles : ∀ name, ∃ plain, written.fields.compile name = .ok plain
  holds : ∀ rule, written.Describes rule -> Holds rule

end WrittenRule

/-- The plain parts of a rule give it no grammar for its content. -/
theorem RuleFields.inside_of_compile {fields : RuleFields} {name : String} {rule : Rule}
    (made : fields.compile name = .ok rule) : rule.inside = none := by
  unfold compile at made
  split at made
  · rcases HighlightError.ok_of_bind made with ⟨unmarked, read, marked⟩
    rcases HighlightError.ok_of_bind read with ⟨pattern, _, same⟩
    cases same
    cases marked
    rfl
  · rcases HighlightError.ok_of_bind made with ⟨delimiters, _, later⟩
    rcases HighlightError.ok_of_bind later with ⟨nesting, _, same⟩
    cases same
    rfl
  · cases made

namespace RuleDefinition

mutual

/-- The rule of a definition, with those that are written inside it. -/
def written : RuleDefinition -> List WrittenRule
  | plain fields => [{ fields }]
  | named fields grammar => [{ fields, grammar := some grammar }]
  | inline fields rules => { fields } :: writtenEntries rules

def writtenList : List RuleDefinition -> List WrittenRule
  | [] => []
  | definition :: rest => definition.written ++ writtenList rest

def writtenEntries : List (String × List RuleDefinition) -> List WrittenRule
  | [] => []
  | (_, definitions) :: rest => writtenList definitions ++ writtenEntries rest

end

variable {Holds : Rule -> Prop}

mutual

/-- A definition is compiled together with all grammars that are written inside it. -/
theorem exists_compile {store : GrammarStore} (all : store.All Holds) (name : String)
    (definition : RuleDefinition)
    (yields : ∀ written ∈ definition.written, written.Yields Holds) :
    ∃ after rule, definition.compile store name = .ok (after, rule) ∧
      after.All Holds ∧ Holds rule := by
  match definition with
  | plain fields =>
      have own := yields { fields } (by rw [written]; exact List.mem_cons_self)
      rcases own.compiles name with ⟨made, compiled⟩
      refine ⟨store, made, ?_, all, own.holds made ⟨name, made, made.inside, compiled, rfl, ?_⟩⟩
      · rw [compile, compiled]
        rfl
      · rw [RuleFields.inside_of_compile compiled]
        exact fun _ named => nomatch named
  | named fields grammar =>
      have own := yields { fields, grammar := some grammar }
        (by rw [written]; exact List.mem_cons_self)
      rcases own.compiles name with ⟨made, compiled⟩
      refine ⟨store, { made with inside := some (.named grammar) }, ?_, all,
        own.holds _ ⟨name, made, _, compiled, rfl, ?_⟩⟩
      · rw [compile, compiled]
        rfl
      · intro other same
        cases same
        rfl
  | inline fields rules =>
      -- The inner grammar is added to the store that compiling its own rules has left.
      rw [written] at yields
      have own := yields { fields } List.mem_cons_self
      rcases own.compiles name with ⟨made, compiled⟩
      rcases exists_compileEntries all Grammar.all_empty rules
        fun written listed => yields written (List.mem_cons_of_mem _ listed) with
        ⟨middle, grammar, inner, kept, inside⟩
      refine ⟨(middle.add grammar).1, { made with inside := some (.inline (middle.add grammar).2) },
        ?_, kept.add inside, own.holds _ ⟨name, made, _, compiled, rfl, fun _ same => nomatch same⟩⟩
      rw [compile, compiled]
      simp only [bind, Except.bind, inner]
      rfl

theorem exists_compileList {store : GrammarStore} (all : store.All Holds) (name : String)
    (definitions : List RuleDefinition)
    (yields : ∀ written ∈ writtenList definitions, written.Yields Holds) :
    ∃ after rules, compileList store name definitions = .ok (after, rules) ∧
      after.All Holds ∧ ∀ rule ∈ rules, Holds rule := by
  match definitions with
  | [] => exact ⟨store, [], by rw [compileList], all, fun _ listed => nomatch listed⟩
  | definition :: rest =>
      rw [writtenList, List.forall_mem_append] at yields
      rcases exists_compile all name definition yields.1 with
        ⟨middle, rule, first, kept, own⟩
      rcases exists_compileList kept name rest yields.2 with ⟨after, rules, later, last, more⟩
      refine ⟨after, rule :: rules, ?_, last, List.forall_mem_cons.mpr ⟨own, more⟩⟩
      rw [compileList, first]
      simp only [bind, Except.bind, later]
      rfl

theorem exists_compileEntries {store : GrammarStore} {grammar : Grammar}
    (all : store.All Holds) (own : grammar.All Holds) (entries : RuleEntries)
    (yields : ∀ written ∈ writtenEntries entries, written.Yields Holds) :
    ∃ after compiled, compileEntries store grammar entries = .ok (after, compiled) ∧
      after.All Holds ∧ compiled.All Holds := by
  match entries with
  | [] => exact ⟨store, grammar, by rw [compileEntries], all, own⟩
  | (name, definitions) :: rest =>
      rw [writtenEntries, List.forall_mem_append] at yields
      rcases exists_compileList all name definitions yields.1 with
        ⟨middle, rules, first, kept, named⟩
      rcases exists_compileEntries kept (own.insert named) rest yields.2 with
        ⟨after, compiled, later, last, whole⟩
      refine ⟨after, compiled, ?_, last, whole⟩
      rw [compileEntries, first]
      exact later

end

end RuleDefinition

namespace GrammarFile

/-- The rules that are written in a file, at any depth. -/
def written (file : GrammarFile) : List WrittenRule :=
  RuleDefinition.writtenEntries file.rules

/-- Whether a rule is made from what is written in a file. -/
def Describes (file : GrammarFile) (rule : Rule) : Prop :=
  (∃ written ∈ file.written, written.Describes rule) ∨
    ∃ embedding ∈ file.embeddings, ∃ delimiters, embedding.delimiters = .ok delimiters ∧
      rule = Registry.embeddingRule delimiters embedding.language

/-- Whether all that is written in a file can be compiled. -/
structure Compiles (file : GrammarFile) : Prop where
  rules : ∀ written ∈ file.written, ∀ name, ∃ plain, written.fields.compile name = .ok plain
  embeddings : ∀ embedding ∈ file.embeddings, ∃ delimiters, embedding.delimiters = .ok delimiters

/-- Whether every file comes after the one that it extends. -/
def inOrder : (known : List String) -> List GrammarFile -> Bool
  | _, [] => true
  | known, file :: rest => file.base.all known.contains && inOrder (file.name :: known) rest

end GrammarFile

/-! ## Installing -/

namespace Registry

variable {registry changed : Registry} {name : String} {Holds : Rule -> Prop}

theorem all_grammar (all : registry.store.All Holds) {grammar : Grammar}
    (found : registry.grammar name = .ok grammar) : grammar.All Holds := by
  rcases HighlightError.ok_of_bind found with ⟨id, _, same⟩
  cases same
  exact all.get id

theorem all_modify (all : registry.store.All Holds) {change : Grammar -> Grammar}
    (keeps : ∀ grammar : Grammar, grammar.All Holds -> (change grammar).All Holds)
    (made : registry.modify name change = .ok changed) : changed.store.All Holds := by
  rcases HighlightError.ok_of_bind made with ⟨grammar, found, same⟩
  cases same
  exact all.add (keeps grammar (all_grammar all found))

theorem all_registerFile {file : GrammarFile} {store : GrammarStore} {rules : Grammar}
    (compiled : RuleDefinition.compileEntries registry.store Grammar.empty file.rules =
      .ok (store, rules))
    (all : store.All Holds) (own : rules.All Holds)
    (made : registry.registerFile file = .ok changed) : changed.store.All Holds := by
  rw [registerFile, compiled] at made
  simp only [bind, Except.bind] at made
  split at made
  · rcases HighlightError.ok_of_bind made with ⟨grammar, layered, same⟩
    rcases HighlightError.ok_of_bind layered with ⟨below, found, whole⟩
    cases whole
    cases same
    -- The base is looked up in the store that already has the inner grammars of the file.
    have widened : below.All Holds := @all_grammar { registry with store } _ Holds all _ found
    exact all.add (widened.extended own)
  · cases made
    exact all.add own

theorem all_installEmbedding (all : registry.store.All Holds) {embedding : EmbeddingDefinition}
    {delimiters : Delimiters} (described : embedding.delimiters = .ok delimiters)
    (holds : Holds (embeddingRule delimiters embedding.language))
    (made : registry.installEmbedding name embedding = .ok changed) :
    changed.store.All Holds := by
  have new : ∀ rule ∈ [embeddingRule delimiters embedding.language], Holds rule :=
    List.forall_mem_singleton.mpr holds
  rw [installEmbedding, described] at made
  simp only [bind, Except.bind] at made
  split at made
  · exact all_modify all (fun grammar own => own.insertBefore new _) made
  · exact all_modify all (fun grammar own => own.insertFirst new) made

variable {file : GrammarFile}

/-- A file that compiles can be registered if its base is there, and brings only rules that
are written in it. -/
theorem registerFile_of_compiles (all : registry.store.All Holds) (compiles : file.Compiles)
    (holds : ∀ rule, file.Describes rule -> Holds rule)
    (based : ∀ base, file.base = some base -> registry.contains base = true) :
    ∃ after, registry.registerFile file = .ok after ∧ after.store.All Holds ∧
      Rebound file.name 1 registry after := by
  have yields : ∀ written ∈ file.written, written.Yields Holds := fun written listed =>
    ⟨compiles.rules written listed,
      fun rule described => holds rule (Or.inl ⟨written, listed, described⟩)⟩
  rcases RuleDefinition.exists_compileEntries all Grammar.all_empty file.rules yields with
    ⟨store, rules, compiled, kept, own⟩
  rcases rebound_registerFile ⟨⟨_, compiled⟩, based⟩ with ⟨after, registered, rebound⟩
  exact ⟨after, registered, all_registerFile compiled kept own registered, rebound⟩

theorem installEmbeddings_of_compiles {original : Registry} {registrations : Nat}
    (rebound : Rebound name registrations original registry) (all : registry.store.All Holds)
    (embeddings : List EmbeddingDefinition)
    (described : ∀ embedding ∈ embeddings, ∃ delimiters,
      embedding.delimiters = .ok delimiters ∧
        Holds (embeddingRule delimiters embedding.language)) :
    ∃ after more, installEmbeddings name registry embeddings = (after, .ok ()) ∧
      after.store.All Holds ∧ Rebound name more original after := by
  induction embeddings generalizing registry registrations with
  | nil => exact ⟨registry, registrations, rfl, all, rebound⟩
  | cons embedding rest ih =>
      rcases List.forall_mem_cons.mp described with ⟨⟨delimiters, made, holds⟩, later⟩
      rcases rebound_installEmbedding rebound.contains made with ⟨next, installed, once⟩
      have kept := all_installEmbedding all made holds installed
      rcases ih (rebound.trans once) kept later with ⟨after, more, ends, last, whole⟩
      refine ⟨after, more, ?_, last, whole⟩
      simp only [installEmbeddings, installed]
      exact ends

/-- A file that compiles can be installed if its base is there. -/
theorem install_of_compiles (all : registry.store.All Holds) (compiles : file.Compiles)
    (holds : ∀ rule, file.Describes rule -> Holds rule)
    (based : ∀ base, file.base = some base -> registry.contains base = true) :
    ∃ after registrations, registry.install file = (after, .ok file.name) ∧
      after.store.All Holds ∧ Rebound file.name registrations registry after := by
  rcases registerFile_of_compiles all compiles holds based with ⟨next, registered, kept, once⟩
  have described : ∀ embedding ∈ file.embeddings, ∃ delimiters,
      embedding.delimiters = .ok delimiters ∧
        Holds (embeddingRule delimiters embedding.language) := by
    intro embedding listed
    rcases compiles.embeddings embedding listed with ⟨delimiters, made⟩
    exact ⟨delimiters, made, holds _ (Or.inr ⟨embedding, listed, delimiters, made, rfl⟩)⟩
  rcases installEmbeddings_of_compiles once kept file.embeddings described with
    ⟨after, more, ends, last, whole⟩
  refine ⟨after, more, ?_, last, whole⟩
  simp only [install, registered, ends]
  rfl

/-- Files that compile can be installed one after the other, each after its base.  Then all
their names are in use, and all rules are written in one of them. -/
theorem foldl_install {files : List GrammarFile} {known : List String}
    (all : registry.store.All Holds)
    (bound : ∀ other, registry.contains other = true ↔ other ∈ known)
    (ordered : GrammarFile.inOrder known files = true)
    (compiles : ∀ file ∈ files, file.Compiles)
    (holds : ∀ file ∈ files, ∀ rule, file.Describes rule -> Holds rule) :
    let after := files.foldl (fun registry file => (registry.install file).1) registry
    after.store.All Holds ∧
      ∀ other, after.contains other = true ↔
        other ∈ known ∨ other ∈ files.map GrammarFile.name := by
  induction files generalizing registry known with
  | nil =>
      refine ⟨all, fun other => ?_⟩
      rw [List.foldl_nil, bound, List.map_nil, or_iff_left List.not_mem_nil]
  | cons file rest ih =>
      rcases Bool.and_eq_true_iff.mp ordered with ⟨first, later⟩
      rcases List.forall_mem_cons.mp compiles with ⟨own, others⟩
      rcases List.forall_mem_cons.mp holds with ⟨ownHolds, othersHold⟩
      have based : ∀ base, file.base = some base -> registry.contains base = true := by
        intro base named
        rw [named, Option.all_some, List.contains_iff_mem] at first
        exact (bound base).mpr first
      rcases install_of_compiles all own ownHolds based with ⟨next, _, installed, kept, rebound⟩
      have boundNext : ∀ other, next.contains other = true ↔ other ∈ file.name :: known := by
        intro other
        rw [rebound.contains_iff, bound, List.mem_cons]
      rcases ih kept boundNext later others othersHold with ⟨whole, names⟩
      rw [List.foldl_cons, installed]
      refine ⟨whole, fun other => ?_⟩
      rw [names, List.map_cons, List.mem_cons, List.mem_cons]
      exact or_assoc.trans or_left_comm

end Registry
end FencedHighlight
