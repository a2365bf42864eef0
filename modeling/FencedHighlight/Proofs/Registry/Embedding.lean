import Mathlib.Data.List.Forall2
import FencedHighlight.Proofs.Grammar.Placement
import FencedHighlight.Proofs.Registry.Installation

namespace FencedHighlight

/-!
What becomes of embeddings.

The rule of an embedding stands under the name of the element whose tags delimit it, or else
under the tag of its regions.  A grammar has one place for each name, so an embedding takes the
place of whatever stands under its name: an earlier embedding, or rules of the host.  What
stands under other names stays, and stays in order.
-/

/-- An embedding with delimiters that have been compiled. -/
structure Embedding where
  delimiters : Delimiters
  language : String
  /-- The rule that the embedding goes before; without one it goes first. -/
  before : Option String := none

namespace Embedding

def name (embedding : Embedding) : String :=
  Registry.embeddingName embedding.delimiters embedding.language

def rule (embedding : Embedding) : Rule :=
  Registry.embeddingRule embedding.delimiters embedding.language

/-- A grammar with an embedding installed. -/
def placeIn (embedding : Embedding) (grammar : Grammar) : Grammar :=
  embedding.before.elim (grammar.insertFirst embedding.name [embedding.rule]) fun before =>
    grammar.insertBefore before embedding.name [embedding.rule]

/-- What is expected of the rule of an embedding. -/
structure Embeds (embedding : Embedding) (rule : Rule) : Prop where
  matcher : rule.matcher = .balanced embedding.delimiters
  inside : rule.inside = some (.named embedding.language)
  greedy : rule.greedy = true

theorem embeds_rule (embedding : Embedding) : embedding.Embeds embedding.rule :=
  ⟨rfl, rfl, rfl⟩

/-- Whether no embedding stands under a name. -/
def spare (embeddings : List Embedding) (name : String) : Bool :=
  embeddings.all fun embedding => embedding.name != name

end Embedding

/-- Whether an embedding is what has been written, with its delimiters compiled. -/
structure EmbeddingDefinition.Compiles (definition : EmbeddingDefinition)
    (embedding : Embedding) : Prop where
  delimiters : definition.delimiters = .ok embedding.delimiters
  language : embedding.language = definition.language
  before : embedding.before = definition.before

namespace Grammar

variable {grammar : Grammar}

/-! ## One embedding -/

/-- An embedding is all that stands under its name, and nothing else is touched. -/
theorem get?_placeIn (embedding : Embedding) (grammar : Grammar) (name : String) :
    (embedding.placeIn grammar).get? name =
      if name = embedding.name then some [embedding.rule] else grammar.get? name := by
  unfold Embedding.placeIn
  cases embedding.before with
  | none => exact get?_insertFirst _ _ _ _
  | some before => exact get?_insertBefore _ _ _ _ _

theorem without_placeIn (embedding : Embedding) (grammar : Grammar) :
    without (embedding.placeIn grammar).entries embedding.name =
      without grammar.entries embedding.name := by
  unfold Embedding.placeIn
  cases embedding.before with
  | none => exact (without_cons_self _).trans (without_without _ _)
  | some before => exact (without_placeBefore _ _ _).trans (without_without _ _)

/-! ## One embedding after the other -/

/-- What embeddings make of a grammar.  The last embedding under a name is all that stands
there, and what no embedding is named after stays as it is. -/
structure Carries (grammar : Grammar) (embeddings : List Embedding) (final : Grammar) :
    Prop where
  last : ∀ earlier embedding later, embeddings = earlier ++ embedding :: later ->
    (∀ other ∈ later, other.name ≠ embedding.name) ->
      ∃ rule, final.get? embedding.name = some [rule] ∧ embedding.Embeds rule
  spared : ∀ name, (∀ embedding ∈ embeddings, embedding.name ≠ name) ->
    final.get? name = grammar.get? name
  ordered : final.entries.filter (fun entry => Embedding.spare embeddings entry.1) =
    grammar.entries.filter fun entry => Embedding.spare embeddings entry.1

theorem Carries.cons {embedding : Embedding} {embeddings : List Embedding} {final : Grammar}
    (carries : (embedding.placeIn grammar).Carries embeddings final) :
    grammar.Carries (embedding :: embeddings) final := by
  constructor
  · intro earlier own later split unnamed
    rcases List.cons_eq_append_iff.mp split with ⟨rfl, same⟩ | ⟨others, rfl, inside⟩
    · rcases List.cons.inj same with ⟨rfl, rfl⟩
      refine ⟨own.rule, ?_, own.embeds_rule⟩
      rw [carries.spared _ unnamed, get?_placeIn, if_pos rfl]
    · exact carries.last others own later inside unnamed
  · intro name unnamed
    rw [carries.spared name fun other listed => unnamed other (List.mem_cons_of_mem _ listed),
      get?_placeIn, if_neg (unnamed embedding List.mem_cons_self).symm]
  · have dropped (entries : List (String × List Rule)) :
        entries.filter (fun entry => Embedding.spare (embedding :: embeddings) entry.1) =
          without (entries.filter fun entry => Embedding.spare embeddings entry.1)
            embedding.name := by
      rw [without, List.filter_filter]
      refine List.filter_congr fun entry _ => ?_
      rw [Embedding.spare, List.all_cons, bne_comm, Embedding.spare]
    have swapped (entries : List (String × List Rule)) :
        without (entries.filter fun entry => Embedding.spare embeddings entry.1) embedding.name =
          (without entries embedding.name).filter fun entry =>
            Embedding.spare embeddings entry.1 := by
      rw [without, without, List.filter_filter, List.filter_filter]
      exact List.filter_congr fun entry _ => Bool.and_comm _ _
    rw [dropped, carries.ordered, swapped, without_placeIn, ← swapped, ← dropped]

theorem carries_foldl (grammar : Grammar) (embeddings : List Embedding) :
    grammar.Carries embeddings
      (embeddings.foldl (fun grammar embedding => embedding.placeIn grammar) grammar) := by
  induction embeddings generalizing grammar with
  | nil => exact ⟨fun earlier _ _ split => by simp at split, fun _ _ => rfl, rfl⟩
  | cons embedding rest ih => exact (ih (embedding.placeIn grammar)).cons

end Grammar

namespace Registry

variable {registry changed : Registry} {host : String} {grammar : Grammar}

/-- Install embeddings in a registered grammar, one after the other. -/
def embedEach (host : String) (registry : Registry) (embeddings : List Embedding) :
    Except HighlightError Registry :=
  embeddings.foldlM (fun registry embedding =>
    embedding.before.elim (registry.embed host embedding.delimiters embedding.language)
      fun before => registry.embedBefore host before embedding.delimiters embedding.language)
    registry

/-- Each call changes the grammar of the host. -/
theorem embedEach_cons (embedding : Embedding) (rest : List Embedding) :
    embedEach host registry (embedding :: rest) =
      (registry.modify host embedding.placeIn).bind fun next => embedEach host next rest := by
  have once : embedding.before.elim
      (registry.embed host embedding.delimiters embedding.language)
      (fun before => registry.embedBefore host before embedding.delimiters embedding.language) =
        registry.modify host embedding.placeIn := by
    rcases embedding with ⟨delimiters, language, _ | before⟩ <;> rfl
  rw [embedEach, List.foldlM_cons, once]
  rfl

theorem grammar_register (registry : Registry) (name : String) (grammar : Grammar) :
    (registry.register name grammar).grammar name = .ok grammar := by
  have found : (registry.register name grammar).lookup name = .ok registry.store.grammars.size :=
    (lookup_eq_ok_iff).mpr (by rw [lookup?_register, if_pos rfl])
  rw [Registry.grammar, found]
  exact congrArg Except.ok (GrammarStore.get_add registry.store grammar)

/-- Embeddings can be installed in every grammar in use. -/
theorem exists_embedEach (found : registry.grammar host = .ok grammar)
    (embeddings : List Embedding) :
    ∃ changed final, embedEach host registry embeddings = .ok changed ∧
      changed.grammar host = .ok final ∧ grammar.Carries embeddings final := by
  have installed : ∃ changed, embedEach host registry embeddings = .ok changed ∧
      changed.grammar host = .ok
        (embeddings.foldl (fun grammar embedding => embedding.placeIn grammar) grammar) := by
    induction embeddings generalizing registry grammar with
    | nil => exact ⟨registry, rfl, found⟩
    | cons embedding rest ih =>
        rcases ih (grammar_register registry host (embedding.placeIn grammar)) with
          ⟨changed, all, result⟩
        refine ⟨changed, ?_, result⟩
        rw [embedEach_cons, modify, found]
        exact all
  rcases installed with ⟨changed, all, result⟩
  exact ⟨changed, _, all, result, Grammar.carries_foldl grammar embeddings⟩

/-! ## Files -/

/-- The embeddings of a file are installed like any others. -/
theorem embedEach_of_installEmbeddings {definitions : List EmbeddingDefinition}
    (installed : installEmbeddings host registry definitions = (changed, .ok ())) :
    ∃ embeddings, List.Forall₂ EmbeddingDefinition.Compiles definitions embeddings ∧
      embedEach host registry embeddings = .ok changed := by
  induction definitions generalizing registry with
  | nil =>
      rcases (Prod.mk.inj installed).1 with rfl
      exact ⟨[], .nil, rfl⟩
  | cons definition rest ih =>
      unfold installEmbeddings at installed
      cases result : registry.installEmbedding host definition with
      | error fault =>
          rw [result] at installed
          cases (Prod.mk.inj installed).2
      | ok next =>
          rw [result] at installed
          rcases ih installed with ⟨embeddings, compiled, later⟩
          rcases HighlightError.ok_of_bind result with ⟨delimiters, made, placed⟩
          have embedding : registry.modify host
              (Embedding.mk delimiters definition.language definition.before).placeIn =
                .ok next := by
            rcases definition with ⟨language, tag, opening, closing, nested, _ | before⟩ <;>
              exact placed
          refine ⟨⟨delimiters, definition.language, definition.before⟩ :: embeddings,
            .cons ⟨made, rfl, rfl⟩ compiled, ?_⟩
          rw [embedEach_cons, embedding]
          exact later

/-- The grammar of a file is that of its rules with its embeddings installed. -/
theorem exists_embedEach_of_loadToml {text name : String}
    (loaded : registry.loadToml text = (changed, .ok name)) :
    ∃ file registered embeddings, GrammarFile.parse? text = some file ∧ file.name = name ∧
      registry.registerFile file = .ok registered ∧
      List.Forall₂ EmbeddingDefinition.Compiles file.embeddings embeddings ∧
      embedEach name registered embeddings = .ok changed := by
  unfold loadToml at loaded
  split at loaded
  · rename_i file read
    unfold install at loaded
    split at loaded
    · cases (Prod.mk.inj loaded).2
    · rename_i registered result
      rcases installed : installEmbeddings file.name registered file.embeddings with
        ⟨next, outcome⟩
      rw [installed] at loaded
      rcases Prod.mk.inj loaded with ⟨rfl, named⟩
      cases outcome with
      | error fault => cases named
      | ok done =>
          rcases Except.ok.inj named with rfl
          rcases embedEach_of_installEmbeddings installed with ⟨embeddings, compiled, each⟩
          exact ⟨file, registered, embeddings, read, rfl, result, compiled, each⟩
  · cases (Prod.mk.inj loaded).2

/-- Embeddings can be installed in every grammar in use, and the grammar of a file that can be
loaded is that of its rules with the embeddings installed.  In either case, an embedding is
kept unless a later one has its name, and the host keeps all rules that have none of these
names, in their order. -/
theorem embeddings_kept (registry : Registry) :
    (∀ host grammar, registry.grammar host = .ok grammar -> ∀ embeddings, ∃ changed final,
      embedEach host registry embeddings = .ok changed ∧ changed.grammar host = .ok final ∧
        grammar.Carries embeddings final) ∧
    ∀ text changed name, registry.loadToml text = (changed, .ok name) ->
      ∃ file registered grammar embeddings final, GrammarFile.parse? text = some file ∧
        file.name = name ∧ registry.registerFile file = .ok registered ∧
        registered.grammar name = .ok grammar ∧
        List.Forall₂ EmbeddingDefinition.Compiles file.embeddings embeddings ∧
        changed.grammar name = .ok final ∧ grammar.Carries embeddings final := by
  refine ⟨fun host grammar found embeddings => exists_embedEach found embeddings, ?_⟩
  intro text changed name loaded
  rcases exists_embedEach_of_loadToml loaded with
    ⟨file, registered, embeddings, read, rfl, result, compiled, each⟩
  rcases grammar_of_contains (rebound_of_registerFile result).contains with ⟨grammar, found⟩
  rcases exists_embedEach found embeddings with ⟨other, final, each', known, carries⟩
  rcases Except.ok.inj (each.symm.trans each') with rfl
  exact ⟨file, registered, grammar, embeddings, final, read, rfl, result, found, compiled, known,
    carries⟩

/-- Two embeddings with one name, and one with another. -/
def braces : Embedding :=
  { delimiters := .pair "\x7b" "\x7d", language := "y" }

def angles : Embedding :=
  { delimiters := .pair "<" ">", language := "y", before := some "word" }

def parentheses : Embedding :=
  { delimiters := .pair "(" ")", language := "z" }

/-- A file with two embeddings of one language. -/
def twiceEmbedded : String :=
  "name = 'x'\n[[embed]]\nlanguage = 'y'\nopen = 'a'\nclose = 'b'\n" ++
    "[[embed]]\nlanguage = 'y'\nopen = 'c'\nclose = 'd'\n"

theorem loadToml_twiceEmbedded :
    ∃ changed, wordsOnly.loadToml twiceEmbedded = (changed, .ok "x") := by
  have loads : (wordsOnly.loadToml twiceEmbedded).2.toOption = some "x" := by decide +kernel
  rcases result : wordsOnly.loadToml twiceEmbedded with ⟨changed, outcome⟩
  rw [result] at loads
  cases outcome with
  | error fault => cases loads
  | ok name => exact ⟨changed, by rw [Option.some.inj loads]⟩

theorem embeddings_kept_pairs :
    wordsOnly.grammar "x" = .ok (Grammar.empty.insert "word" []) ∧
    (∃ changed final rule, embedEach "x" wordsOnly [braces, parentheses, angles] = .ok changed ∧
      changed.grammar "x" = .ok final ∧ final.get? parentheses.name = some [rule] ∧
      parentheses.Embeds rule ∧ final.get? "word" = some []) ∧
    ∃ changed file embeddings, ∃ grammar final : Grammar,
      wordsOnly.loadToml twiceEmbedded = (changed, .ok "x") ∧
      GrammarFile.parse? twiceEmbedded = some file ∧
      List.Forall₂ EmbeddingDefinition.Compiles file.embeddings embeddings ∧
      changed.grammar "x" = .ok final ∧ grammar.Carries embeddings final := by
  have kept := embeddings_kept wordsOnly
  have found : wordsOnly.grammar "x" = .ok (Grammar.empty.insert "word" []) := rfl
  refine ⟨found, ?_, ?_⟩
  · rcases kept.1 "x" _ found [braces, parentheses, angles] with
      ⟨changed, final, each, known, carries⟩
    rcases carries.last [braces] parentheses [angles] rfl (by decide) with ⟨rule, stands, embeds⟩
    refine ⟨changed, final, rule, each, known, stands, embeds, ?_⟩
    exact carries.spared "word" (by decide)
  · rcases loadToml_twiceEmbedded with ⟨changed, loaded⟩
    rcases kept.2 twiceEmbedded changed "x" loaded with
      ⟨file, registered, grammar, embeddings, final, read, named, result, before, compiled, known,
        carries⟩
    exact ⟨changed, file, embeddings, grammar, final, loaded, read, compiled, known, carries⟩

/-- Of two embeddings of one language between delimiters of their own, the first one is lost,
whether they come from calls or from a file. -/
theorem embeddings_lost :
    (∃ changed final, embedEach "x" wordsOnly [braces, angles] = .ok changed ∧
      changed.grammar "x" = .ok final ∧ ¬ ∃ entry ∈ final.rules, braces.Embeds entry.2) ∧
    ∃ changed final, wordsOnly.loadToml twiceEmbedded = (changed, .ok "x") ∧
      changed.grammar "x" = .ok final ∧ final.rules.length = 1 := by
  constructor
  · refine ⟨_, _, rfl, rfl, ?_⟩
    rintro ⟨entry, listed, embeds⟩
    have kept : entry = (angles.name, angles.rule) := List.mem_singleton.mp listed
    rw [kept] at embeds
    have same := Matcher.balanced.inj (embeds.matcher.symm.trans angles.embeds_rule.matcher)
    have sources := congrArg (fun delimiters => delimiters.opening.source) same
    exact absurd sources (by decide)
  · rcases loadToml_twiceEmbedded with ⟨changed, loaded⟩
    have counted : ((wordsOnly.loadToml twiceEmbedded).1.grammar "x").toOption.map
        (fun final => final.rules.length) = some 1 := by
      decide +kernel
    rw [loaded] at counted
    cases known : changed.grammar "x" with
    | error fault =>
        rw [known] at counted
        cases counted
    | ok final =>
        rw [known] at counted
        exact ⟨changed, final, loaded, known, Option.some.inj counted⟩

end Registry
end FencedHighlight
