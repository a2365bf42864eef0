import FencedHighlight.Proofs.Delimiters.Tree
import FencedHighlight.Proofs.Registry.Installation
import FencedHighlight.Proofs.Tokenizer.Unguarded

namespace FencedHighlight

/-!
A grammar that embeds itself between brackets.

Its only rule matches what stands between two brackets, and has the grammar itself for
that.  So tokenizing follows the brackets of the text.  Every content is shorter than the
text around it, since the brackets do not belong to it.  That is why the recursion comes
to its end without any guard, however deep the brackets are nested.
-/

namespace Tokenizer

open Brackets (BracketTree FirstPair filled? toMatch)

variable {opening closing : Char} {name : String} {scope : Scope} {id : GrammarId}

/-- The rule for a language in itself, between two characters. -/
def selfRule (opening closing : Char) (name : String) : Rule :=
  Registry.embeddingRule
    (Delimiters.pair (String.singleton opening) (String.singleton closing)) name

/-- Whether the only rule of a grammar embeds it in itself. -/
structure EmbedsItself (scope : Scope) (id : GrammarId) (opening closing : Char) (name : String) :
    Prop where
  rules : (scope.store.get id).rules =
    [(Registry.languageTag name, selfRule opening closing name)]
  resolve : scope.resolve name = some id
  searches : scope.findAny = Rule.findAny?

/-- Behind the first pair of brackets, a frame goes on from the closing. -/
theorem push_advance_of_firstPair {text head inner after : Text}
    (first : FirstPair opening closing text head inner after) (before : Text) {made : List Token}
    (apart : ∀ token ∈ made.head?, token.isText = false) (token : Token) (label : Option Label) :
    (Frame.advance
        { grammar := id, text := before ++ text, cursor := Text.size before, tokens := made, label }
        (head ++ [opening]) (toMatch opening (Text.size before) (head, inner)).stop).push token =
      { grammar := id
        text := before ++ (head ++ opening :: inner) ++ closing :: after
        cursor := Text.size (before ++ (head ++ opening :: inner))
        tokens := token :: .text (head ++ [opening]) :: made
        label } := by
  have plain : Token.pushText made (head ++ [opening]) = .text (head ++ [opening]) :: made :=
    Token.pushText_of_apart (by simp) apart
  simp only [Frame.push, Frame.advance, plain, first.split, toMatch, Text.size_append,
    Text.size_cons, List.append_assoc, List.cons_append, Nat.add_assoc]

namespace EmbedsItself

variable (embeds : EmbedsItself scope id opening closing name)
include embeds

theorem inner?_eq : scope.inner? (selfRule opening closing name) = .ok (some id) := by
  rw [Scope.inner?]
  simp only [selfRule, Registry.embeddingRule, embeds.resolve]

/-- The next token is the first pair of brackets with some text between them. -/
theorem next?_eq (distinct : opening ≠ closing) (before rest : Text) :
    next? scope.find (scope.store.get id) (before ++ rest) (Text.size before) =
      (Text.first? (filled? opening closing) rest).map fun found =>
        ⟨Registry.languageTag name, selfRule opening closing name,
          toMatch opening (Text.size before) found⟩ := by
  have found : scope.find (selfRule opening closing name) (before ++ rest) (Text.size before)
      (Text.size (before ++ rest)) =
        (Text.first? (filled? opening closing) rest).map
          (toMatch opening (Text.size before)) := by
    have region := @Brackets.find?_eq before rest opening closing distinct []
    rw [List.append_nil] at region
    rw [Scope.find, embeds.searches]
    exact region
  rw [next?, embeds.rules]
  have greedy : (selfRule opening closing name).greedy = true := rfl
  simp only [nextFrom, greedy, if_true, found]
  cases Text.first? (filled? opening closing) rest with
  | none => rfl
  | some region => simp

/-- The match of the first pair of brackets. -/
theorem taken (distinct : opening ≠ closing) {text head inner after : Text}
    (first : FirstPair opening closing text head inner after) (before : Text)
    (tokens : List Token) (label : Option Label) :
    Taken scope { grammar := id, text := before ++ text, cursor := Text.size before, tokens, label }
      ⟨Registry.languageTag name, selfRule opening closing name,
        toMatch opening (Text.size before) (head, inner)⟩ (head ++ [opening]) inner := by
  have chosen := embeds.next?_eq distinct before text
  rw [(Brackets.first?_filled?_eq_some_iff distinct).mpr ⟨after, first⟩] at chosen
  constructor
  · have extent := Char.utf8Size_pos opening
    simp only [first.split, Text.size_append, Text.size_cons]
    omega
  · exact chosen
  · refine (Text.slice?_eq_some_iff).mpr ⟨before, inner ++ closing :: after, ?_, rfl, ?_⟩
    · simp only [first.split, List.append_assoc, List.singleton_append]
    · simp only [toMatch, Text.size_append, Text.size_cons, Text.size_nil]
      omega
  · refine (Text.slice?_eq_some_iff).mpr
      ⟨before ++ (head ++ [opening]), closing :: after, ?_, ?_, rfl⟩
    · simp only [first.split, List.append_assoc, List.cons_append, List.nil_append]
    · simp only [toMatch, Text.size_append, Text.size_cons, Text.size_nil]
      omega

/-- The recursion follows the brackets of what is left of a text. -/
theorem finishes (distinct : opening ≠ closing) {rest : Text} {tokens : List Token}
    (tree : BracketTree opening closing (Registry.languageTag name) rest tokens)
    (before : Text) (made : List Token) (label : Option Label)
    (apart : ∀ token ∈ made.head?, token.isText = false) :
    Finishes scope
      { grammar := id, text := before ++ rest, cursor := Text.size before, tokens := made, label }
      (.ok (made.reverse ++ tokens)) := by
  induction tree generalizing before made label with
  | empty =>
      refine (finishes_iff_of_succ fun fuel => unguarded?_of_exhausted ?_).mpr ?_
      · simp only [List.append_nil, Nat.le_refl]
      · rw [List.append_nil]
  | @plain text present unpaired =>
      have extent := (Text.size_pos_iff text).mpr present
      have unmatched := embeds.next?_eq distinct before text
      rw [(Brackets.first?_filled?_eq_none_iff distinct).mpr unpaired] at unmatched
      have left : Text.slice? (before ++ text) (Text.size before) (Text.size (before ++ text)) =
          some text :=
        (Text.slice?_eq_some_iff).mpr ⟨before, [], (List.append_nil _).symm, rfl,
          (Text.size_append before text).symm⟩
      refine (finishes_iff_of_succ fun fuel => unguarded?_of_unmatched ?_ ?_).mpr ?_
      · simp only [Text.size_append]
        omega
      · exact unmatched
      · simp only [Frame.takeRest, left, Except.map, Frame.advance]
        rw [Token.pushText_of_apart present apart, List.reverse_cons]
  | @pair text head inner after children others first inside behind ihInside ihBehind =>
      refine (finishes_iff_of_inside (embeds.taken distinct first before made label)
        embeds.inner?_eq).mpr (Or.inl ⟨children, ?_, ?_⟩)
      · exact ihInside [] [] _ (by simp)
      · rw [push_advance_of_firstPair first before apart]
        have later := ihBehind (before ++ (head ++ opening :: inner))
          (.composite (Registry.languageTag name) (some (Registry.languageTag name)) children ::
            .text (head ++ [opening]) :: made) label (by simp [Token.isText])
        have order (first second : Token) : (second :: first :: made).reverse ++ others =
            made.reverse ++ first :: second :: others := by
          simp
        rwa [order] at later

end EmbedsItself

end Tokenizer

namespace Registry

open Tokenizer (EmbedsItself selfRule)
open Brackets (BracketTree Filled around)

variable {opening closing : Char} {name : String}

/-- A name that has been registered is bound to the new grammar. -/
theorem lookup_register (registry : Registry) (name : String) (grammar : Grammar) :
    (registry.register name grammar).lookup name = .ok registry.store.grammars.size := by
  rw [lookup, lookup?_register, if_pos rfl]

/-- A change of a grammar that has just been registered registers the changed one. -/
theorem modify_register (registry : Registry) (name : String) (grammar : Grammar)
    (change : Grammar -> Grammar) :
    (registry.register name grammar).modify name change =
      .ok ((registry.register name grammar).register name (change grammar)) := by
  rw [modify, Registry.grammar, lookup_register]
  exact congrArg (fun grammar => Except.ok (Registry.register _ name (change grammar)))
    (GrammarStore.get_add registry.store grammar)

/-- An empty grammar that is embedded in itself has the embedding for its only rule. -/
theorem exists_embedsItself (registry : Registry) (name : String) (opening closing : Char) :
    ∃ after id,
      (registry.register name Grammar.empty).embed name
        (Delimiters.pair (String.singleton opening) (String.singleton closing)) name =
          .ok after ∧
      after.lookup name = .ok id ∧ EmbedsItself after.scope id opening closing name := by
  have rules := GrammarStore.get_add (registry.register name Grammar.empty).store
    (Grammar.empty.insertFirst (languageTag name) [selfRule opening closing name])
  have resolve := lookup?_register (registry.register name Grammar.empty) name
    (Grammar.empty.insertFirst (languageTag name) [selfRule opening closing name]) name
  rw [if_pos rfl] at resolve
  exact ⟨_, _, modify_register registry name Grammar.empty _, lookup_register _ _ _,
    congrArg Grammar.rules rules, resolve, rfl⟩

/-- Tokenizing with a grammar that embeds itself between two characters follows the
brackets of the text.  Every text has one tree by its brackets, and that is its tokens.  Its
composites are the pairs of brackets with some text between them, as deep inside each other
as these are.  No match is ever kept as a leaf for being a repetition, and nothing is left
out. -/
theorem tokenize_selfEmbedded (registry : Registry) (name : String) {opening closing : Char}
    (distinct : opening ≠ closing) :
    ∃ after id,
      (registry.register name Grammar.empty).embed name
        (Delimiters.pair (String.singleton opening) (String.singleton closing)) name =
          .ok after ∧
      after.lookup name = .ok id ∧
      ∀ text, ∃ tokens, after.tokenize id text = .ok tokens ∧
        (∀ other, BracketTree opening closing (languageTag name) text other ↔ other = tokens) ∧
        (∀ depth start stop, Token.CompositeAt tokens depth start stop ↔
          ∃ opened, Filled opening closing text opened stop ∧
            start = opened + opening.utf8Size ∧
            (around opening closing text opened stop).encard = depth) ∧
        (∀ state, Tokenizer.Reached after.scope id text state ->
          ∀ grammar content, ¬ Tokenizer.Repeats after.scope state grammar content) ∧
        Token.textOf tokens = text := by
  rcases exists_embedsItself registry name opening closing with
    ⟨after, id, embedded, bound, embeds⟩
  refine ⟨after, id, embedded, bound, fun text => ?_⟩
  have follows : ∀ other, BracketTree opening closing (languageTag name) text other ->
      Tokenizer.Finishes after.scope { grammar := id, text } (.ok other) :=
    fun other tree => embeds.finishes distinct tree [] [] none (by simp)
  have result : ∀ other, BracketTree opening closing (languageTag name) text other ->
      after.tokenize id text = .ok other := fun other tree =>
    Tokenizer.eq_of_resumes (Tokenizer.nested_start after.scope id text)
      ((Tokenizer.resumes_start id text).mpr (follows other tree))
      (Tokenizer.run?_eq_some_tokenize after.scope id text)
  rcases Brackets.exists_bracketTree distinct (languageTag name) text with ⟨tokens, tree⟩
  refine ⟨tokens, result tokens tree, ?_, fun _ _ _ => tree.compositeAt_iff distinct, ?_,
    tree.textOf_eq⟩
  · intro other
    constructor
    · intro same
      have both := (result other same).symm.trans (result tokens tree)
      exact Except.ok.inj both
    · rintro rfl
      exact tree
  · intro state reached
    exact (reached.resumes (follows tokens tree)).free reached.nested

/-- The tokens of a text with an empty pair, a pair in a pair and an opening that is never
closed. -/
def parenthesized : List Token :=
  [.text "a()(".toList,
    .composite "language-nest" (some "language-nest")
      [.text ['('], .composite "language-nest" (some "language-nest") [.text ['x']], .text [')']],
    .text ")(".toList]

theorem tokenize_selfEmbedded_parentheses :
    '(' ≠ ')' ∧
      BracketTree '(' ')' "language-nest" "a()((x))(".toList parenthesized ∧
      Filled '(' ')' "a()((x))(".toList 4 6 ∧
      (around '(' ')' "a()((x))(".toList 4 6).encard = 1 := by
  rcases tokenize_selfEmbedded {} "nest" (show '(' ≠ ')' by decide) with
    ⟨after, id, embedded, bound, follows⟩
  rcases follows "a()((x))(".toList with ⟨tokens, result, trees, composites, _⟩
  have evaluated : (do
      let after <- (Registry.register {} "nest" Grammar.empty).embed "nest"
        (Delimiters.pair (String.singleton '(') (String.singleton ')')) "nest"
      let id <- after.lookup "nest"
      after.tokenize id "a()((x))(".toList) = .ok parenthesized := by
    rfl
  have same : tokens = parenthesized := by
    rw [embedded] at evaluated
    have looked : (after.lookup "nest" >>= fun id => after.tokenize id "a()((x))(".toList) =
        .ok parenthesized := evaluated
    rw [bound] at looked
    exact Except.ok.inj (result.symm.trans looked)
  have deeper : Token.CompositeAt tokens 1 5 6 := by
    rw [same]
    have inner : Token.CompositeAt
        [.composite "language-nest" (some "language-nest") [.text ['x']], .text [')']] 0 0 1 :=
      (Token.compositeAt_composite_iff).mpr (Or.inl ⟨rfl, rfl, (Token.sizeOf_text ['x']).symm⟩)
    exact (Token.compositeAt_text_iff).mpr
      ⟨1, 2, .inside ((Token.compositeAt_text_iff).mpr ⟨0, 1, inner, rfl, rfl⟩), rfl, rfl⟩
  rcases (composites 1 5 6).mp deeper with ⟨opened, pair, starts, depth⟩
  have width : '('.utf8Size = 1 := rfl
  obtain rfl : opened = 4 := by omega
  exact ⟨by decide, (trees _).mpr same.symm, pair, depth⟩

end Registry
end FencedHighlight
