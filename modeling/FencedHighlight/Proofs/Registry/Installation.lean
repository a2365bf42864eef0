import FencedHighlight.Proofs.Grammar.Names
import FencedHighlight.Registry.Loading

namespace FencedHighlight

/-!
What a failed load leaves behind.

The grammar of a file is registered before its embeddings are installed, and each
embedding registers a changed copy of the grammar.  A fault before the registration
leaves the registry as it was.  A fault in an embedding does not: the name of the file
stays bound to a new grammar with the embeddings before the faulty one, and whatever
was bound to the name before is lost.
-/

namespace GrammarStore

/-- Whether a store has all the grammars of another one under their numbers. -/
structure Extends (after before : GrammarStore) : Prop where
  size_le : before.grammars.size ≤ after.grammars.size
  get_eq : ∀ id, id < before.grammars.size -> after.get id = before.get id

theorem Extends.refl (store : GrammarStore) : store.Extends store :=
  ⟨Nat.le_refl _, fun _ _ => rfl⟩

theorem Extends.trans {first second third : GrammarStore} (later : third.Extends second)
    (earlier : second.Extends first) : third.Extends first := by
  refine ⟨Nat.le_trans earlier.size_le later.size_le, ?_⟩
  intro id kept
  rw [later.get_eq id (Nat.lt_of_lt_of_le kept earlier.size_le), earlier.get_eq id kept]

theorem extends_add (store : GrammarStore) (grammar : Grammar) :
    (store.add grammar).1.Extends store := by
  refine ⟨?_, ?_⟩
  · rw [add, Array.size_push]
    exact Nat.le_succ _
  · intro id kept
    rw [get, get, add, Array.getElem?_push_lt kept, Array.getElem?_eq_getElem kept]

theorem get_add (store : GrammarStore) (grammar : Grammar) :
    (store.add grammar).1.get store.grammars.size = grammar := by
  simp only [add, get, Array.getElem?_push_size, Option.getD_some]

end GrammarStore

namespace RuleDefinition

open GrammarStore (Extends)

mutual

/-- Compiling a rule only adds grammars to the store. -/
theorem extends_compile {store after : GrammarStore} {name : String} {rule : Rule}
    (definition : RuleDefinition) (compiled : definition.compile store name = .ok (after, rule)) :
    after.Extends store := by
  match definition with
  | plain fields =>
      rw [compile] at compiled
      rcases HighlightError.ok_of_bind compiled with ⟨made, _, same⟩
      cases same
      exact Extends.refl _
  | named fields grammar =>
      rw [compile] at compiled
      rcases HighlightError.ok_of_bind compiled with ⟨made, _, same⟩
      cases same
      exact Extends.refl _
  | inline fields rules =>
      rw [compile] at compiled
      rcases HighlightError.ok_of_bind compiled with ⟨made, _, rest⟩
      rcases HighlightError.ok_of_bind rest with ⟨⟨middle, grammar⟩, inner, same⟩
      cases same
      exact (GrammarStore.extends_add middle grammar).trans (extends_compileEntries rules inner)

theorem extends_compileList {store after : GrammarStore} {name : String} {rules : List Rule}
    (definitions : List RuleDefinition)
    (compiled : compileList store name definitions = .ok (after, rules)) :
    after.Extends store := by
  match definitions with
  | [] =>
      rw [compileList] at compiled
      cases compiled
      exact Extends.refl _
  | definition :: rest =>
      rw [compileList] at compiled
      rcases HighlightError.ok_of_bind compiled with ⟨⟨middle, rule⟩, first, others⟩
      rcases HighlightError.ok_of_bind others with ⟨⟨last, later⟩, second, same⟩
      cases same
      exact (extends_compileList rest second).trans (extends_compile definition first)

theorem extends_compileEntries {store after : GrammarStore} {grammar compiled : Grammar}
    (entries : RuleEntries)
    (succeeds : compileEntries store grammar entries = .ok (after, compiled)) :
    after.Extends store := by
  match entries with
  | [] =>
      rw [compileEntries] at succeeds
      cases succeeds
      exact Extends.refl _
  | (name, definitions) :: rest =>
      rw [compileEntries] at succeeds
      rcases HighlightError.ok_of_bind succeeds with ⟨⟨middle, rules⟩, first, others⟩
      exact (extends_compileEntries rest others).trans (extends_compileList definitions first)

end

end RuleDefinition

namespace Registry

/-! ## Registrations under one name -/

/-- A registration binds its name to a new grammar, and no other one. -/
theorem lookup?_register (registry : Registry) (name : String) (grammar : Grammar)
    (other : String) : (registry.register name grammar).lookup? other =
      if other = name then some registry.store.grammars.size else registry.lookup? other := by
  simp only [lookup?, register, GrammarStore.add, List.lookup_cons]
  by_cases same : other = name
  · rw [if_pos same, same, beq_self_eq_true]
  · rw [if_neg same, beq_eq_false_iff_ne.mpr same]
    exact Grammar.lookup_filter same registry.bindings

theorem lookup_eq_ok_iff {registry : Registry} {name : String} {id : GrammarId} :
    registry.lookup name = .ok id ↔ registry.lookup? name = some id := by
  rw [lookup]
  cases registry.lookup? name with
  | none => exact iff_of_false (by simp) (by simp)
  | some known => exact ⟨fun same => congrArg some (Except.ok.inj same),
      fun same => congrArg Except.ok (Option.some.inj same)⟩

/-- What some registrations under one name make of a registry: the name is bound to a
new grammar.  All else is as before, but for the version. -/
structure Rebound (name : String) (registrations : Nat) (before after : Registry) : Prop where
  version : after.version = before.version + registrations
  store : after.store.Extends before.store
  others : ∀ other, other ≠ name -> after.lookup? other = before.lookup? other
  bound : ∃ id, after.lookup? name = some id ∧ before.store.grammars.size ≤ id

variable {registry changed : Registry} {name : String} {fault : HighlightError}

theorem rebound_register (registry : Registry) (name : String) (grammar : Grammar) :
    Rebound name 1 registry (registry.register name grammar) := by
  refine ⟨rfl, GrammarStore.extends_add registry.store grammar, ?_, ?_⟩
  · intro other apart
    rw [lookup?_register, if_neg apart]
  · exact ⟨_, by rw [lookup?_register, if_pos rfl], Nat.le_refl _⟩

theorem Rebound.trans {first second third : Registry} {earlier later : Nat}
    (before : Rebound name earlier first second) (after : Rebound name later second third) :
    Rebound name (earlier + later) first third := by
  refine ⟨?_, after.store.trans before.store, ?_, ?_⟩
  · rw [after.version, before.version, Nat.add_assoc]
  · intro other apart
    rw [after.others other apart, before.others other apart]
  · rcases after.bound with ⟨id, found, new⟩
    exact ⟨id, found, Nat.le_trans before.store.size_le new⟩

/-- Grammars that have been added to the store before a registration are not part of any
binding. -/
theorem Rebound.of_extends {store : GrammarStore} {registrations : Nat}
    (rebound : Rebound name registrations { registry with store } changed)
    (widened : store.Extends registry.store) : Rebound name registrations registry changed := by
  rcases rebound.bound with ⟨id, found, new⟩
  exact ⟨rebound.version, rebound.store.trans widened, rebound.others, id, found,
    Nat.le_trans widened.size_le new⟩

theorem contains_iff : registry.contains name = true ↔ ∃ id, registry.lookup? name = some id := by
  rw [contains, Option.isSome_iff_exists]

theorem mem_names_iff : name ∈ registry.names ↔ registry.contains name = true := by
  rw [names, List.mem_mergeSort, contains, lookup?, List.lookup_isSome_iff, List.mem_map]
  refine exists_congr fun binding => and_congr_right fun _ => ?_
  rw [beq_iff_eq, eq_comm]

theorem Rebound.contains {registrations : Nat}
    (rebound : Rebound name registrations registry changed) : changed.contains name = true := by
  rcases rebound.bound with ⟨id, found, _⟩
  exact (contains_iff).mpr ⟨id, found⟩

theorem Rebound.contains_iff {registrations : Nat} {other : String}
    (rebound : Rebound name registrations registry changed) :
    changed.contains other = true ↔ other = name ∨ registry.contains other = true := by
  by_cases same : other = name
  · subst same
    simp only [rebound.contains, true_or]
  · rw [Registry.contains, rebound.others other same, or_iff_right same, Registry.contains]

/-- There is a grammar under every name in use. -/
theorem grammar_of_contains (known : registry.contains name = true) :
    ∃ grammar, registry.grammar name = .ok grammar := by
  rcases (contains_iff).mp known with ⟨id, found⟩
  refine ⟨registry.store.get id, ?_⟩
  rw [grammar, lookup, found]
  rfl

theorem contains_of_grammar {grammar : Grammar} (found : registry.grammar name = .ok grammar) :
    registry.contains name = true := by
  rcases HighlightError.ok_of_bind found with ⟨id, known, _⟩
  unfold lookup at known
  split at known
  · rename_i id bound
    exact (contains_iff).mpr ⟨id, bound⟩
  · cases known

/-- A change of a grammar that succeeds binds its name once more. -/
theorem rebound_of_modify {change : Grammar -> Grammar}
    (succeeds : registry.modify name change = .ok changed) : Rebound name 1 registry changed := by
  rcases HighlightError.ok_of_bind succeeds with ⟨grammar, _, same⟩
  cases same
  exact rebound_register registry name (change grammar)

/-- A change of a grammar in use succeeds. -/
theorem rebound_modify (known : registry.contains name = true) (change : Grammar -> Grammar) :
    ∃ after, registry.modify name change = .ok after ∧ Rebound name 1 registry after := by
  rcases grammar_of_contains known with ⟨grammar, found⟩
  refine ⟨registry.register name (change grammar), ?_, rebound_register _ _ _⟩
  rw [modify, found]
  rfl

/-! ## Embeddings -/

/-- In a grammar in use, an embedding is installed if its delimiters can be made. -/
theorem rebound_installEmbedding (known : registry.contains name = true)
    {embedding : EmbeddingDefinition} {delimiters : Delimiters}
    (made : embedding.delimiters = .ok delimiters) :
    ∃ after, registry.installEmbedding name embedding = .ok after ∧
      Rebound name 1 registry after := by
  have embedded := rebound_modify known
  unfold installEmbedding
  rw [made]
  cases embedding.before with
  | none => exact embedded _
  | some before => exact embedded _

theorem rebound_of_installEmbedding {embedding : EmbeddingDefinition}
    (succeeds : registry.installEmbedding name embedding = .ok changed) :
    Rebound name 1 registry changed := by
  rcases HighlightError.ok_of_bind succeeds with ⟨delimiters, _, embedded⟩
  cases place : embedding.before with
  | none =>
      rw [place] at embedded
      exact rebound_of_modify embedded
  | some before =>
      rw [place] at embedded
      exact rebound_of_modify embedded

theorem installEmbedding_faulty {embedding : EmbeddingDefinition}
    (faulty : embedding.delimiters = .error fault) :
    registry.installEmbedding name embedding = .error fault := by
  rw [installEmbedding, faulty]
  rfl

/-- Embeddings are installed up to the first one whose delimiters cannot be made. -/
theorem rebound_installEmbeddings {original : Registry} {registrations : Nat}
    {embeddings : List EmbeddingDefinition}
    (rebound : Rebound name registrations original registry)
    (failed : installEmbeddings name registry embeddings = (changed, .error fault)) :
    ∃ installed faulty rest, embeddings = installed ++ faulty :: rest ∧
      (∀ embedding ∈ installed, ∃ delimiters, embedding.delimiters = .ok delimiters) ∧
      faulty.delimiters = .error fault ∧
      Rebound name (registrations + installed.length) original changed := by
  induction embeddings generalizing registry registrations with
  | nil => cases failed
  | cons embedding rest ih =>
      unfold installEmbeddings at failed
      cases made : embedding.delimiters with
      | error other =>
          rw [installEmbedding_faulty made] at failed
          cases failed
          exact ⟨[], embedding, rest, rfl, fun _ none => absurd none List.not_mem_nil, made, rebound⟩
      | ok delimiters =>
          rcases rebound_installEmbedding rebound.contains made with ⟨next, installed, once⟩
          rw [installed] at failed
          rcases ih (rebound.trans once) failed with ⟨more, faulty, left, split, fine, found, all⟩
          refine ⟨embedding :: more, faulty, left, by rw [split]; rfl, ?_, found, ?_⟩
          · intro other listed
            rcases List.mem_cons.mp listed with same | later
            · exact ⟨delimiters, same ▸ made⟩
            · exact fine other later
          · rwa [Nat.add_assoc, Nat.add_comm 1] at all

/-! ## Files -/

/-- Whether a file can be registered: its rules compile, and its base is in use. -/
structure Registrable (registry : Registry) (file : GrammarFile) : Prop where
  compiles : ∃ compiled,
    RuleDefinition.compileEntries registry.store Grammar.empty file.rules = .ok compiled
  based : ∀ base, file.base = some base -> registry.contains base = true

/-- A file that can be registered binds its name to a new grammar. -/
theorem rebound_registerFile {file : GrammarFile} (registrable : registry.Registrable file) :
    ∃ after, registry.registerFile file = .ok after ∧ Rebound file.name 1 registry after := by
  rcases registrable.compiles with ⟨⟨store, rules⟩, compiled⟩
  have extension := RuleDefinition.extends_compileEntries file.rules compiled
  have widened (grammar : Grammar) :
      Rebound file.name 1 registry (register { registry with store } file.name grammar) :=
    (rebound_register { registry with store } file.name grammar).of_extends extension
  unfold registerFile
  rw [compiled]
  cases base : file.base with
  | none => exact ⟨_, rfl, widened rules⟩
  | some name =>
      have known : contains { registry with store } name = true := registrable.based name base
      rcases grammar_of_contains known with ⟨grammar, found⟩
      refine ⟨_, ?_, widened (grammar.extended rules)⟩
      simp only [extended, found, bind, Except.bind, pure, Except.pure]

theorem registrable_of_registerFile {file : GrammarFile}
    (registered : registry.registerFile file = .ok changed) : registry.Registrable file := by
  rcases HighlightError.ok_of_bind registered with ⟨⟨store, rules⟩, compiled, layered⟩
  refine ⟨⟨_, compiled⟩, ?_⟩
  intro base named
  simp only [named] at layered
  rcases HighlightError.ok_of_bind layered with ⟨grammar, layers, _⟩
  rcases HighlightError.ok_of_bind layers with ⟨below, found, _⟩
  have known : contains { registry with store } base = true := contains_of_grammar found
  exact known

theorem rebound_of_registerFile {file : GrammarFile}
    (registered : registry.registerFile file = .ok changed) :
    Rebound file.name 1 registry changed := by
  rcases rebound_registerFile (registrable_of_registerFile registered) with
    ⟨after, same, rebound⟩
  rcases Except.ok.inj (registered.symm.trans same) with rfl
  exact rebound

/-- What is left of a file that can be registered if it cannot be installed. -/
theorem rebound_install {file : GrammarFile} (registrable : registry.Registrable file)
    (failed : (registry.install file).2 = .error fault) :
    ∃ installed faulty rest, file.embeddings = installed ++ faulty :: rest ∧
      (∀ embedding ∈ installed, ∃ delimiters, embedding.delimiters = .ok delimiters) ∧
      faulty.delimiters = .error fault ∧
      Rebound file.name (1 + installed.length) registry (registry.install file).1 := by
  rcases rebound_registerFile registrable with ⟨middle, registered, once⟩
  simp only [install, registered] at failed ⊢
  refine rebound_installEmbeddings once (Prod.ext rfl ?_)
  cases result : (installEmbeddings file.name middle file.embeddings).2 with
  | ok done =>
      rw [result] at failed
      cases failed
  | error other =>
      rw [result] at failed
      cases failed
      rfl

/-- A file that cannot be registered changes nothing. -/
theorem install_of_not_registrable {file : GrammarFile}
    (unregistrable : ¬registry.Registrable file) : (registry.install file).1 = registry := by
  unfold install
  cases registered : registry.registerFile file with
  | error other => rfl
  | ok changed => exact absurd (registrable_of_registerFile registered) unregistrable

theorem loadToml_of_parse {text : String} {file : GrammarFile}
    (read : GrammarFile.parse? text = some file) :
    registry.loadToml text = registry.install file := by
  rw [loadToml, read]

/-- A load that fails leaves the registry as it was exactly if the text is no grammar
file that could be registered.  Otherwise the fault is that of an embedding.  Then the
name of the file has been bound anew, once for the rules and once for every embedding
before the faulty one. -/
theorem loadToml_failed {text : String} (failed : (registry.loadToml text).2 = .error fault) :
    ((registry.loadToml text).1 = registry ↔
        ¬∃ file, GrammarFile.parse? text = some file ∧ registry.Registrable file) ∧
      ∀ file, GrammarFile.parse? text = some file -> registry.Registrable file ->
        ∃ installed faulty rest, file.embeddings = installed ++ faulty :: rest ∧
          (∀ embedding ∈ installed, ∃ delimiters, embedding.delimiters = .ok delimiters) ∧
          faulty.delimiters = .error fault ∧
          Rebound file.name (1 + installed.length) registry (registry.loadToml text).1 := by
  constructor
  · constructor
    · rintro same ⟨file, read, registrable⟩
      rw [loadToml_of_parse read] at failed same
      rcases rebound_install registrable failed with ⟨installed, _, _, _, _, _, rebound⟩
      have version := rebound.version
      rw [same] at version
      omega
    · intro unregistrable
      cases read : GrammarFile.parse? text with
      | none => rw [loadToml, read]
      | some file =>
          rw [loadToml_of_parse read]
          exact install_of_not_registrable fun registrable =>
            unregistrable ⟨file, read, registrable⟩
  · intro file read registrable
    rw [loadToml_of_parse read] at failed ⊢
    exact rebound_install registrable failed

/-- A registry with a single grammar. -/
def wordsOnly : Registry :=
  register {} "x" (Grammar.empty.insert "word" [])

/-- A file whose base is missing. -/
def baseless : String :=
  "name = 'x'\nextends = 'y'\n"

/-- A file with an embedding that can be installed and one that cannot. -/
def halfEmbedded : String :=
  "name = 'x'\n[[embed]]\nlanguage = 'y'\nopen = 'a'\nclose = 'b'\n[[embed]]\nlanguage = 'z'\n"

theorem loadToml_failed_halfEmbedded :
    (wordsOnly.loadToml baseless).1 = wordsOnly ∧
      (wordsOnly.loadToml halfEmbedded).1 ≠ wordsOnly ∧
      ∃ installed : List EmbeddingDefinition,
        Rebound "x" (1 + installed.length) wordsOnly (wordsOnly.loadToml halfEmbedded).1 := by
  constructor
  · have fails : (wordsOnly.loadToml baseless).2.isOk = false := by decide +kernel
    cases result : (wordsOnly.loadToml baseless).2 with
    | ok name =>
        rw [result] at fails
        cases fails
    | error fault =>
        refine (loadToml_failed result).1.mpr ?_
        rintro ⟨file, read, registrable⟩
        have named : (GrammarFile.parse? baseless).map GrammarFile.base = some (some "y") := by
          decide +kernel
        rw [read] at named
        cases registrable.based "y" (Option.some.inj named)
  · have fails : (wordsOnly.loadToml halfEmbedded).2.isOk = false := by decide +kernel
    have plain : (GrammarFile.parse? halfEmbedded).map (fun file =>
        (file.name, file.base, file.rules.isEmpty)) = some ("x", none, true) := by
      decide +kernel
    cases result : (wordsOnly.loadToml halfEmbedded).2 with
    | ok name =>
        rw [result] at fails
        cases fails
    | error fault =>
        have left := loadToml_failed result
        cases read : GrammarFile.parse? halfEmbedded with
        | none =>
            rw [read] at plain
            cases plain
        | some file =>
            rw [read] at plain
            rcases Prod.mk.inj (Option.some.inj plain) with ⟨name, parts⟩
            rcases Prod.mk.inj parts with ⟨base, none⟩
            have registrable : wordsOnly.Registrable file := by
              refine ⟨?_, fun other named => by cases base.symm.trans named⟩
              rw [List.isEmpty_iff.mp none, RuleDefinition.compileEntries]
              exact ⟨_, rfl⟩
            rcases left.2 file read registrable with ⟨installed, _, _, _, _, _, rebound⟩
            rw [name] at rebound
            exact ⟨fun same => left.1.mp same ⟨file, read, registrable⟩, installed, rebound⟩

/-- A file whose only embedding has no delimiters. -/
def undelimited : String :=
  "name = 'x'\n[[embed]]\nlanguage = 'y'\n"

/-- The grammar of a file that cannot be installed takes the place of the one that was
there before. -/
theorem loadToml_failed_undelimited :
    ((wordsOnly.loadToml undelimited).2 matches .error (.other _)) = true ∧
      wordsOnly.version = 1 ∧ (wordsOnly.loadToml undelimited).1.version = 2 ∧
      wordsOnly.lookup? "x" = some 0 ∧
      (wordsOnly.loadToml undelimited).1.lookup? "x" = some 1 ∧
      (wordsOnly.grammar "x").toOption.map Grammar.names = some ["word"] ∧
      ((wordsOnly.loadToml undelimited).1.grammar "x").toOption.map Grammar.names = some [] := by
  decide +kernel

end Registry

end FencedHighlight
