import Mathlib.Data.List.DropRight
import FencedHighlight.Proofs.Tokenizer.Chain
import FencedHighlight.Proofs.Tokenizer.Coverage

namespace FencedHighlight

/-!
Contents are tokenized as if they stood alone.

Which list of siblings in a tree comes from which grammar and which text can be told from
the tree.  The topmost tokens come from the whole text.  The children of a composite come
from the content of its match, and its match is the next one behind the siblings before
it.  So everything there is to know of the frame that produced a composite is its grammar,
its text and the tokens before the composite.

The guard against repetition looks at all the texts around.  None of these is smaller than
the text that the composite stands in, and contents of its own content are no larger than
itself.  So if the content is smaller than that text, no pair from outside is ever asked
for, and nothing but the content and its grammar decides on the children.
-/

namespace Token

/-- Where the search for the next match begins behind these siblings.  Plain text at their
end has been passed over in that search. -/
def searchStart (before : List Token) : Nat :=
  sizeOf (before.rdropWhile isText)

theorem rdropWhile_isText_of_apart {made : List Token}
    (apart : ∀ token ∈ made.head?, token.isText = false) :
    made.reverse.rdropWhile isText = made.reverse := by
  cases made with
  | nil => rfl
  | cons token made =>
      have other := apart token rfl
      rw [List.reverse_cons, List.rdropWhile_concat_neg _ _ _ (ne_true_of_eq_false other)]

/-- Plain text that is put behind other tokens does not move the place where its search
began. -/
theorem searchStart_pushText {made : List Token}
    (apart : ∀ token ∈ made.head?, token.isText = false) (plain : Text) :
    searchStart (pushText made plain).reverse = sizeOf made.reverse := by
  by_cases empty : plain = []
  · subst empty
    exact congrArg sizeOf (rdropWhile_isText_of_apart apart)
  · rw [pushText_of_apart empty apart, List.reverse_cons, searchStart,
      List.rdropWhile_concat_pos _ _ _ rfl, rdropWhile_isText_of_apart apart]

end Token

namespace Tokenizer

variable {scope : Scope} {grammar root : GrammarId} {text whole : Text} {cursor : Nat}
  {chain : List (GrammarId × Nat)} {made siblings tokens : List Token}

/-- The composite behind some siblings in the tokens of a text: the next match behind them
starts where they end, and its content has a grammar. -/
structure Produces (scope : Scope) (grammar : GrammarId) (text : Text) (before : List Token)
    (candidate : Candidate) (content : Text) (inner : GrammarId) : Prop where
  chosen : next? scope.find (scope.store.get grammar) text (Token.searchStart before) =
    some candidate
  start : Token.sizeOf before = candidate.found.contentStart
  inside : Text.slice? text candidate.found.contentStart candidate.found.stop = some content
  resolved : scope.inner? candidate.rule = .ok (some inner)

/-- The siblings in a tree, each list with the grammar and the text of the frame that
produced it. -/
inductive Framed (scope : Scope) (root : GrammarId) (whole : Text) (tokens : List Token) :
    GrammarId -> Text -> List Token -> Prop where
  | root : Framed scope root whole tokens root whole tokens
  | inside {grammar inner : GrammarId} {text content : Text} {before after children : List Token}
      {kind : String} {synonym : Option String} {candidate : Candidate}
      (outer : Framed scope root whole tokens grammar text
        (before ++ .composite kind synonym children :: after))
      (produced : Produces scope grammar text before candidate content inner) :
      Framed scope root whole tokens inner content children

/-- Grammar, text and the siblings before it determine what a composite is. -/
theorem Produces.unique {before : List Token} {candidate other : Candidate}
    {content filling : Text} {inner nested : GrammarId}
    (produced : Produces scope grammar text before candidate content inner)
    (again : Produces scope grammar text before other filling nested) :
    candidate = other ∧ content = filling ∧ inner = nested := by
  rcases Option.some.inj (produced.chosen.symm.trans again.chosen) with rfl
  rcases Option.some.inj (produced.inside.symm.trans again.inside) with rfl
  rcases Option.some.inj (Except.ok.inj (produced.resolved.symm.trans again.resolved)) with rfl
  exact ⟨rfl, rfl, rfl⟩

/-! ## What the recursion says of its tokens -/

/-- The token of a match goes on with a tiling. -/
theorem Tiling.token {candidate : Candidate} {before content : Text} {token : Token}
    (tiling : Tiling scope grammar text cursor made)
    (taken : TakenFrom scope grammar text cursor candidate before content)
    (result : tokenOf scope chain candidate content = .ok token)
    (inside : ∀ inner children, scope.inner? candidate.rule = .ok (some inner) ->
      (inner, Text.size content) ∉ chain ->
      tokensFrom scope ((inner, Text.size content) :: chain) inner content 0 [] = .ok children ->
      Tiling scope inner content (Text.size content) children.reverse) :
    Tiling scope grammar text candidate.found.stop (token :: Token.pushText made before) := by
  have ahead := tiling.pushText taken.ahead
  rcases tokenOf_eq_ok result with rfl | ⟨inner, children, resolved, fresh, ends, rfl⟩
  · exact .leaf ahead taken.matched
  · have composite := Tiling.composite ahead taken.matched resolved
      (inside inner children resolved fresh ends)
    rwa [List.reverse_reverse] at composite

/-- The tokens that the recursion gives tile the text if those that it begins with do. -/
theorem tiling_of_tokensFrom (tiling : Tiling scope grammar text cursor made)
    (ends : tokensFrom scope chain grammar text cursor made = .ok siblings) :
    Tiling scope grammar text (Text.size text) siblings.reverse := by
  induction chain, grammar, text, cursor using tokensFrom_induction scope
    generalizing made siblings with
  | step chain grammar text cursor ih =>
      cases ending_of_tokensFrom ends with
      | finish exhausted =>
          obtain rfl : cursor = Text.size text := Nat.le_antisymm tiling.offset_le exhausted
          rwa [List.reverse_reverse]
      | finishPlain rest left =>
          rw [List.reverse_reverse]
          exact tiling.pushText left
      | token candidate before content token taken result behind =>
          rcases ih candidate before content taken with ⟨later, inside⟩
          exact later (tiling.token taken result fun inner children resolved fresh ends =>
            inside inner resolved fresh (.start inner content) ends) behind

/-- A token in a list that is one longer is the last one, or it has been there before. -/
theorem eq_or_of_concat {before after : List Token} {token last : Token}
    (same : made ++ [last] = before ++ token :: after) :
    (made = before ∧ last = token) ∨ ∃ later, made = before ++ token :: later := by
  rcases List.eq_nil_or_concat' after with rfl | ⟨later, other, rfl⟩
  · rcases List.append_inj' same rfl with ⟨same, lasts⟩
    exact Or.inl ⟨same, (List.cons.inj lasts).1⟩
  · have regrouped : made ++ [last] = (before ++ token :: later) ++ [other] := by
      rw [same, List.append_assoc]
      rfl
    exact Or.inr ⟨later, (List.append_inj' regrouped rfl).1⟩

section Composites

variable {kind : String} {synonym : Option String} {before after children : List Token}

/-- A composite is not changed by plain text that is put behind it. -/
theorem made_of_pushText (apart : ∀ token ∈ made.head?, token.isText = false) {plain : Text}
    (same : (Token.pushText made plain).reverse =
      before ++ .composite kind synonym children :: after) :
    ∃ later, made.reverse = before ++ .composite kind synonym children :: later := by
  by_cases empty : plain = []
  · subst empty
    exact ⟨after, same⟩
  · rw [Token.pushText_of_apart empty apart, List.reverse_cons] at same
    rcases eq_or_of_concat same with ⟨_, impossible⟩ | earlier
    · cases impossible
    · exact earlier

/-- A match that gives a composite is the next one behind the tokens so far and the plain
text ahead of it. -/
theorem produces_of_tokenOf {candidate : Candidate} {plain content : Text}
    (tiling : Tiling scope grammar text cursor made)
    (apart : ∀ token ∈ made.head?, token.isText = false)
    (taken : TakenFrom scope grammar text cursor candidate plain content)
    (result : tokenOf scope chain candidate content = .ok (.composite kind synonym children)) :
    ∃ inner, kind = candidate.name ∧ synonym = candidate.rule.synonym ∧
      Produces scope grammar text (Token.pushText made plain).reverse candidate content inner ∧
      tokensFrom scope ((inner, Text.size content) :: chain) inner content 0 [] =
        .ok children := by
  rcases tokenOf_eq_ok result with impossible | ⟨inner, others, resolved, _, inside, same⟩
  · cases impossible
  · cases same
    have searched : Token.searchStart (Token.pushText made plain).reverse = cursor := by
      rw [Token.searchStart_pushText apart, tiling.sizeOf_eq]
    refine ⟨inner, rfl, rfl, ⟨?_, ?_, taken.inside, resolved⟩, inside⟩
    · rw [searched]
      exact taken.chosen
    · exact (tiling.pushText taken.ahead).sizeOf_eq

/-- Every composite among the tokens has been there before, or it is the next match behind
the tokens before it, and its children are the tokens of the content. -/
theorem made_or_produces (tiling : Tiling scope grammar text cursor made)
    (apart : ∀ token ∈ made.head?, token.isText = false)
    (ends : tokensFrom scope chain grammar text cursor made =
      .ok (before ++ .composite kind synonym children :: after)) :
    (∃ later, made.reverse = before ++ .composite kind synonym children :: later) ∨
      ∃ candidate content inner, kind = candidate.name ∧ synonym = candidate.rule.synonym ∧
        Produces scope grammar text before candidate content inner ∧
        tokensFrom scope ((inner, Text.size content) :: chain) inner content 0 [] =
          .ok children := by
  induction chain, grammar, text, cursor using tokensFrom_induction scope
    generalizing made before after with
  | step chain grammar text cursor ih =>
      generalize listed : before ++ .composite kind synonym children :: after = siblings at ends
      cases ending_of_tokensFrom ends with
      | finish exhausted => exact Or.inl ⟨after, listed.symm⟩
      | finishPlain rest left => exact Or.inl (made_of_pushText apart listed.symm)
      | token candidate plain content token taken result behind =>
          subst listed
          have covered := tiling.token taken result fun inner children _ _ inside =>
            tiling_of_tokensFrom (.start inner content) inside
          -- Behind the match the newest token is its own, so no text is joined to an older one.
          rcases (ih candidate plain content taken).1 covered
              (fun newest first => Option.some.inj first ▸ isText_of_tokenOf result) behind with
            ⟨later, same⟩ | produced
          · rw [List.reverse_cons] at same
            rcases eq_or_of_concat same with ⟨rfl, rfl⟩ | ⟨later, same⟩
            · exact Or.inr ⟨candidate, content, produces_of_tokenOf tiling apart taken result⟩
            · exact Or.inl (made_of_pushText apart same)
          · exact Or.inr produced

/-- Every composite of a text is the next match behind the siblings before it, and its
children are the tokens of the content. -/
theorem produces_of_tokensFrom
    (ends : tokensFrom scope chain grammar text 0 [] =
      .ok (before ++ .composite kind synonym children :: after)) :
    ∃ candidate content inner, kind = candidate.name ∧ synonym = candidate.rule.synonym ∧
      Produces scope grammar text before candidate content inner ∧
      tokensFrom scope ((inner, Text.size content) :: chain) inner content 0 [] =
        .ok children := by
  rcases made_or_produces (.start grammar text)
      (fun token first => absurd first (Option.not_mem_none token)) ends with
    ⟨later, impossible⟩ | produced
  · exact absurd impossible.symm (List.append_ne_nil_of_right_ne_nil _ (List.cons_ne_nil _ _))
  · exact produced

/-- Every list of siblings is what the recursion gives for its frame, with a chain on which
no text is smaller than the frame's own. -/
theorem Framed.exists_chain (ends : tokenize scope root whole = .ok tokens)
    (framed : Framed scope root whole tokens grammar text siblings) :
    ∃ chain : List (GrammarId × Nat), (∀ pair ∈ chain, Text.size text ≤ pair.2) ∧
      tokensFrom scope chain grammar text 0 [] = .ok siblings := by
  induction framed with
  | root =>
      rw [tokenize_eq_resume, resume_start] at ends
      refine ⟨[(root, Text.size whole)], ?_, ends⟩
      intro pair listed
      rw [List.mem_singleton.mp listed]
  | @inside grammar inner text content before after children kind synonym candidate outer
      produced ih =>
      rcases ih with ⟨chain, larger, ends⟩
      rcases produces_of_tokensFrom ends with ⟨_, _, _, _, _, again, inside⟩
      rcases produced.unique again with ⟨rfl, rfl, rfl⟩
      have within : Text.size content ≤ Text.size text := by
        have extent := Text.size_of_slice? produced.inside
        have bound := Text.le_size_of_slice? produced.inside
        omega
      refine ⟨(inner, Text.size content) :: chain, ?_, inside⟩
      intro pair listed
      rcases List.mem_cons.mp listed with rfl | outside
      · exact Nat.le_refl _
      · exact Nat.le_trans within (larger pair outside)

/-- Every list of siblings in a tree has a frame that produced it. -/
theorem exists_framed (ends : tokenize scope root whole = .ok tokens)
    (listed : Token.Siblings tokens siblings) :
    ∃ grammar text, Framed scope root whole tokens grammar text siblings := by
  induction listed with
  | roots => exact ⟨root, whole, .root⟩
  | children outer member ih =>
      rcases ih with ⟨grammar, text, framed⟩
      rcases List.append_of_mem member with ⟨before, after, rfl⟩
      rcases framed.exists_chain ends with ⟨chain, _, result⟩
      rcases produces_of_tokensFrom result with ⟨_, content, inner, _, _, produced, _⟩
      exact ⟨inner, content, .inside framed produced⟩

/-- Composites are tokenized as if alone.  Every list of siblings in a tree has a frame that
produced it, and every composite in it is the next match behind the siblings before it,
with the text of its children for its content.  If this content is smaller than the text of
the frame, the children are what tokenizing gives for the content alone with the grammar
that the rule has for it.  Neither the frames around nor the siblings before it have a say
in them. -/
theorem tokenize_isolated (ends : tokenize scope root whole = .ok tokens) :
    (∀ siblings, Token.Siblings tokens siblings ->
      ∃ grammar text, Framed scope root whole tokens grammar text siblings) ∧
    ∀ grammar text before kind synonym children after,
      Framed scope root whole tokens grammar text
        (before ++ .composite kind synonym children :: after) ->
      ∃ candidate content inner, kind = candidate.name ∧ synonym = candidate.rule.synonym ∧
        Produces scope grammar text before candidate content inner ∧
        Token.textOf children = content ∧
        (Text.size content < Text.size text -> tokenize scope inner content = .ok children) := by
  refine ⟨fun siblings => exists_framed ends, ?_⟩
  intro grammar text before kind synonym children after framed
  rcases framed.exists_chain ends with ⟨chain, larger, result⟩
  rcases produces_of_tokensFrom result with
    ⟨candidate, content, inner, named, styled, produced, inside⟩
  have covered := (tiling_of_tokensFrom (.start inner content) inside).textOf_eq
  rw [List.reverse_reverse] at covered
  refine ⟨candidate, content, inner, named, styled, produced, covered, fun smaller => ?_⟩
  have unasked : AgreeUpTo (Text.size content) [] chain := by
    intro pair small
    refine iff_of_false List.not_mem_nil fun listed => ?_
    have large := larger pair listed
    omega
  rw [tokenize_eq_resume, resume_start, ← inside]
  exact tokensFrom_congr (unasked.cons _) rfl

end Composites

/-- The tokens between the outer parentheses of the text with a region in a region. -/
def outerRegion : List Token :=
  [.text ['('], .composite "group" (some (Registry.languageTag "nest")) [.text ['x']], .text [')']]

/-- The match of what stands between two parentheses. -/
def groupAt (contentStart stop : Nat) : Candidate :=
  ⟨"group", Registry.embeddingRule (Delimiters.pair "(" ")") "nest",
    ⟨contentStart - 1, contentStart, stop⟩⟩

theorem tokenize_isolated_nested :
    tokenize nesting.scope 0 "a()((x))(".toList = .ok nestedTokens ∧
      Framed nesting.scope 0 "a()((x))(".toList nestedTokens 0 "(x)".toList outerRegion ∧
      tokenize nesting.scope 0 "(x)".toList = .ok outerRegion ∧
      tokenize nesting.scope 0 ['x'] = .ok [.text ['x']] := by
  have ends : tokenize nesting.scope 0 "a()((x))(".toList = .ok nestedTokens := by rfl
  have outer : Produces nesting.scope 0 "a()((x))(".toList [.text "a()(".toList]
      (groupAt 4 7) "(x)".toList 0 := by
    refine ⟨?_, Token.sizeOf_text _, rfl, rfl⟩
    exact (congrArg (next? _ _ _) Token.sizeOf_nil).trans rfl
  have inner : Produces nesting.scope 0 "(x)".toList [.text ['(']] (groupAt 1 2) ['x'] 0 := by
    refine ⟨?_, Token.sizeOf_text _, rfl, rfl⟩
    exact (congrArg (next? _ _ _) Token.sizeOf_nil).trans rfl
  have topmost : Framed nesting.scope 0 "a()((x))(".toList nestedTokens 0 "a()((x))(".toList
      ([.text "a()(".toList] ++
        .composite "group" (some (Registry.languageTag "nest")) outerRegion ::
          [.text ")(".toList]) := .root
  have region : Framed nesting.scope 0 "a()((x))(".toList nestedTokens 0 "(x)".toList
      ([.text ['(']] ++
        .composite "group" (some (Registry.languageTag "nest")) [.text ['x']] ::
          [.text [')']]) := .inside topmost outer
  have isolated := (tokenize_isolated ends).2
  rcases isolated _ _ _ _ _ _ _ topmost with ⟨_, _, _, _, _, found, _, alone⟩
  rcases isolated _ _ _ _ _ _ _ region with ⟨_, _, _, _, _, again, _, within⟩
  rcases outer.unique found with ⟨rfl, rfl, rfl⟩
  rcases inner.unique again with ⟨rfl, rfl, rfl⟩
  exact ⟨ends, region, alone (by decide), within (by decide)⟩

end Tokenizer
end FencedHighlight
