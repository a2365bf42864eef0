import FencedHighlight.Proofs.Registry.Embedding

namespace FencedHighlight
namespace Registry

/-!
Putting rules before others in registered grammars.

The grammar of a host is replaced by a changed copy, whether rules are put into it or another
language is embedded.  The rules come to the place before the given one, but rules under the
name of the given one itself come last.
-/

variable {registry : Registry} {host : String} {grammar : Grammar}

/-- The host of a change has the changed grammar. -/
theorem exists_modify (found : registry.grammar host = .ok grammar)
    (change : Grammar -> Grammar) :
    ∃ changed, registry.modify host change = .ok changed ∧
      changed.grammar host = .ok (change grammar) := by
  refine ⟨registry.register host (change grammar), ?_, grammar_register _ _ _⟩
  rw [modify, found]
  rfl

/-- Rules that are put before those of a name that is there come before them and all that
follows, and nothing else changes.  Under that name itself this is so exactly if nothing
follows it.  The same holds of the grammar of a host, and of the rule of an embedding. -/
theorem insertBefore_places {before : String} (known : before ∈ grammar.names) :
    (∀ name rules, grammar.PlacedBefore before name rules
      (grammar.insertBefore before name rules) ↔
        name ≠ before ∨ ∀ other, ¬ grammar.Precedes before other) ∧
    ∀ (registry : Registry) (host : String), registry.grammar host = .ok grammar ->
      (∀ name rules, ∃ changed placed,
        registry.insertBefore host before name rules = .ok changed ∧
        changed.grammar host = .ok placed ∧
        (grammar.PlacedBefore before name rules placed ↔
          name ≠ before ∨ ∀ other, ¬ grammar.Precedes before other)) ∧
      ∀ delimiters language, ∃ changed placed,
        registry.embedBefore host before delimiters language = .ok changed ∧
        changed.grammar host = .ok placed ∧
        (grammar.PlacedBefore before (embeddingName delimiters language)
          [embeddingRule delimiters language] placed ↔
            embeddingName delimiters language ≠ before ∨
              ∀ other, ¬ grammar.Precedes before other) := by
  have places (name : String) (rules : List Rule) : grammar.PlacedBefore before name rules
      (grammar.insertBefore before name rules) ↔
        name ≠ before ∨ ∀ other, ¬ grammar.Precedes before other :=
    Grammar.placedBefore_insertBefore_iff known
  have placesIn {registry : Registry} {host : String}
      (found : registry.grammar host = .ok grammar) (name : String) (rules : List Rule) :
      ∃ changed placed, registry.insertBefore host before name rules = .ok changed ∧
        changed.grammar host = .ok placed ∧
        (grammar.PlacedBefore before name rules placed ↔
          name ≠ before ∨ ∀ other, ¬ grammar.Precedes before other) := by
    rcases exists_modify found fun grammar => grammar.insertBefore before name rules with
      ⟨changed, made, result⟩
    exact ⟨changed, _, made, result, places name rules⟩
  refine ⟨places, fun registry host found => ⟨placesIn found, ?_⟩⟩
  exact fun delimiters language => placesIn found _ _

/-- Scripts before words. -/
def scripted : Grammar :=
  (Grammar.empty.insert "language-js" []).insert "word" []

theorem insertBefore_places_words :
    "word" ∈ scripted.names ∧
    scripted.PlacedBefore "word" "number" [] (scripted.insertBefore "word" "number" []) ∧
    ∃ changed placed,
      (register {} "host" scripted).embedBefore "host" "word" (.pair "\x7b" "\x7d") "css" =
        .ok changed ∧ changed.grammar "host" = .ok placed ∧
      placed.names = ["language-js", "language-css", "word"] := by
  have known : "word" ∈ scripted.names := by decide
  have placed := insertBefore_places known
  refine ⟨known, (placed.1 "number" []).mpr (Or.inl (by decide)), ?_⟩
  rcases (placed.2 (register {} "host" scripted) "host" (grammar_register _ _ _)).2
    (.pair "\x7b" "\x7d") "css" with ⟨changed, final, made, result, places⟩
  exact ⟨changed, final, made, result,
    (places.mpr (Or.inl (by decide))).place ["language-js"] [] (by decide)⟩

/-- Rules that are put before those of their own name come last, although the name is there,
and so does an embedding that is installed again before its own rule. -/
theorem insertBefore_itself :
    "language-js" ∈ scripted.names ∧
    (scripted.insertBefore "language-js" "language-js" []).names = ["word", "language-js"] ∧
    ¬ scripted.PlacedBefore "language-js" "language-js" []
      (scripted.insertBefore "language-js" "language-js" []) ∧
    ∃ changed placed,
      (register {} "host" scripted).embedBefore "host" "language-js" (.pair "\x7b" "\x7d") "js" =
        .ok changed ∧ changed.grammar "host" = .ok placed ∧
      placed.names = ["word", "language-js"] ∧
      ¬ scripted.PlacedBefore "language-js" (embeddingName (.pair "\x7b" "\x7d") "js")
        [embeddingRule (.pair "\x7b" "\x7d") "js"] placed := by
  have misplaced {rules : List Rule} {placed : Grammar}
      (names : placed.names = ["word", "language-js"]) :
      ¬ scripted.PlacedBefore "language-js" "language-js" rules placed := fun places =>
    (places.last ["word"] names).2 "word" (List.Sublist.refl _)
  refine ⟨by decide, rfl, misplaced rfl, ?_⟩
  rcases exists_modify (grammar_register {} "host" scripted) fun grammar =>
    grammar.insertBefore "language-js" (embeddingName (.pair "\x7b" "\x7d") "js")
      [embeddingRule (.pair "\x7b" "\x7d") "js"] with ⟨changed, made, result⟩
  exact ⟨changed, _, made, result, rfl, misplaced rfl⟩

end Registry
end FencedHighlight
