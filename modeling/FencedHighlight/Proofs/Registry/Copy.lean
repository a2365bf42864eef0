import FencedHighlight.Proofs.Registry.Origin
import FencedHighlight.Proofs.Registry.Resolution
import FencedHighlight.Proofs.Tokenizer.Chain
import FencedHighlight.Proofs.Tokenizer.Unguarded

namespace FencedHighlight

/-!
Copies of a grammar.

A copy has the rules of a grammar and is another one all the same.  Tokenizing notices the
difference only where it asks whether the grammar is being applied to the whole text
already.  Contents of smaller sizes do not ask for that, so the first match has to take in
all of the text.  Then nothing is left behind it, and what the grammar gives is this one
token or a fault.

Where the grammar itself fails, the copy fails in the same way.  The fault lies inside the
match, and on the way there the grammar has not come back to the whole text, since that
would have ended in a leaf.
-/

namespace Token

/-- Whether some tokens are a single one that some rule has matched, over all of a text. -/
def CoversAlone (tokens : List Token) (text : Text) : Prop :=
  ∃ token, tokens = [token] ∧ token.isText = false ∧ textOf [token] = text

end Token

namespace Tokenizer

variable {scope : Scope} {root copy grammar twin : GrammarId} {text : Text} {cursor size : Nat}
  {chain other : List (GrammarId × Nat)} {made tokens : List Token}

/-- Whether the first match in a text takes in all of it. -/
def TakesWhole (scope : Scope) (grammar : GrammarId) (text : Text) : Prop :=
  ∃ candidate, next? scope.find (scope.store.get grammar) text 0 = some candidate ∧
    candidate.found.contentStart = 0 ∧ candidate.found.stop = Text.size text

/-- A match whose content is as large as the text takes in all of it. -/
theorem takesWhole_of_taken {candidate : Candidate} {before content : Text}
    (taken : TakenFrom scope grammar text 0 candidate before content)
    (full : Text.size text ≤ Text.size content) : TakesWhole scope grammar text := by
  rcases extent_of_taken taken with ⟨_, extent, within⟩
  exact ⟨candidate, taken.chosen, by omega, by omega⟩

/-- Such a match makes the only token, which no plain text can be. -/
theorem coversAlone_of_tokenize (whole : TakesWhole scope root text)
    (ends : tokenize scope root text = .ok tokens) : Token.CoversAlone tokens text := by
  have covered := textOf_of_tokenize ends
  rcases whole with ⟨candidate, chosen, first, last⟩
  have filled := content_of_next? chosen
  have taken : TakenFrom scope root text 0 candidate [] text := by
    refine ⟨?_, chosen, ?_, ?_⟩
    · simp only
      omega
    · rw [first]
      exact Text.slice?_zero text
    · rw [first, last]
      exact Text.slice?_whole text
  rw [tokenize_eq_resume, resume_start, tokensFrom_eq_bind taken] at ends
  rcases HighlightError.ok_of_bind ends with ⟨token, result, behind⟩
  rw [tokensFrom_of_exhausted (Nat.le_of_eq last.symm)] at behind
  rcases Except.ok.inj behind with rfl
  exact ⟨token, rfl, isText_of_tokenOf result, covered⟩

/-! ## Chains that begin with a grammar or with a copy of it -/

/-- Two chains, of which the first begins with a grammar and the second perhaps with its
copy.  They differ in nothing but these two. -/
structure TwinChains (root copy : GrammarId) (size : Nat)
    (chain other : List (GrammarId × Nat)) : Prop where
  listed : (root, size) ∈ chain
  alike : ∀ pair, pair ≠ (root, size) -> pair ≠ (copy, size) -> (pair ∈ chain ↔ pair ∈ other)

theorem twinChains_start (root copy : GrammarId) (size : Nat) :
    TwinChains root copy size [(root, size)] [(copy, size)] :=
  { listed := List.mem_singleton_self _
    alike := fun _ notRoot notCopy =>
      iff_of_false (mt List.mem_singleton.mp notRoot) (mt List.mem_singleton.mp notCopy) }

namespace TwinChains

variable (twins : TwinChains root copy size chain other)
include twins

theorem cons (pair : GrammarId × Nat) :
    TwinChains root copy size (pair :: chain) (pair :: other) where
  listed := List.mem_cons_of_mem _ twins.listed
  alike := by
    intro asked notRoot notCopy
    rw [List.mem_cons, List.mem_cons, twins.alike asked notRoot notCopy]

/-- Below the size of the whole text, the chains are as good as each other. -/
theorem agreeUpTo {smaller : Nat} (below : smaller < size) : AgreeUpTo smaller chain other := by
  intro pair small
  apply twins.alike
  · rintro rfl
    exact Nat.not_le_of_lt below small
  · rintro rfl
    exact Nat.not_le_of_lt below small

/-- A match that does not take in the whole text has the same token either way, and so has
what follows it. -/
theorem tokensFrom_eq {candidate : Candidate} {before content : Text}
    (taken : TakenFrom scope grammar text cursor candidate before content)
    (smaller : Text.size content < size) (within : Text.size text ≤ size)
    (same : scope.store.get twin = scope.store.get grammar) :
    tokensFrom scope chain grammar text cursor made =
      tokensFrom scope other twin text cursor made := by
  have behind := lt_stop_of_taken taken
  have unfinished := taken.unfinished
  have contents := twins.agreeUpTo smaller
  rw [tokensFrom_eq_bind taken, tokensFrom_eq_bind (taken.of_same same),
    tokenOf_congr contents fun inner resolved fresh => tokensFrom_congr (contents.cons _) rfl]
  congr 1
  funext token
  exact tokensFrom_congr (twins.agreeUpTo (by omega)) same

/-- Where the grammar fails, so does its copy. -/
theorem error_of_error (apart : ¬ Reachable scope root copy)
    (reachable : Reachable scope root grammar) (within : Text.size text ≤ size)
    (same : scope.store.get twin = scope.store.get grammar) {fault : HighlightError}
    (fails : tokensFrom scope chain grammar text cursor made = .error fault) :
    tokensFrom scope other twin text cursor made = .error fault := by
  induction chain, grammar, text, cursor using tokensFrom_induction scope
    generalizing other twin made with
  | step chain grammar text cursor ih =>
      by_cases more : ∃ candidate before content,
          TakenFrom scope grammar text cursor candidate before content
      · rcases more with ⟨candidate, before, content, taken⟩
        by_cases smaller : Text.size content < size
        · rw [← twins.tokensFrom_eq taken smaller within same, fails]
        · -- Nothing is left behind the match, so the fault lies inside it.
          rcases extent_of_taken taken with ⟨_, extent, bounded⟩
          rw [tokensFrom_eq_bind taken] at fails
          rw [tokensFrom_eq_bind (taken.of_same same)]
          rcases HighlightError.error_of_bind fails with missed | ⟨token, _, later⟩
          · rcases tokenOf_eq_error missed with missing | ⟨inner, resolved, fresh, inside⟩
            · rw [tokenOf_of_missing missing]
              rfl
            · have led : Reachable scope root inner :=
                reachable.inside (found_of_next? taken.chosen).1 resolved
              obtain rfl : size = Text.size content := by omega
              -- With the grammar the match would be a repetition, and the copy is not led to.
              have unlisted : (inner, Text.size content) ∉ other := by
                rwa [← twins.alike]
                · rintro ⟨rfl, _⟩
                  exact fresh twins.listed
                · rintro ⟨rfl, _⟩
                  exact apart led
              rw [tokenOf_of_fresh resolved unlisted,
                (ih candidate before content taken).2 inner resolved fresh (twins.cons _) led
                  (Nat.le_refl _) rfl inside]
              rfl
          · rw [tokensFrom_of_exhausted (by omega)] at later
            cases later
      · rw [← tokensFrom_of_untaken more same, fails]

end TwinChains

/-- Unless the first match takes in the whole text, a copy gives what the grammar gives. -/
theorem tokenize_of_not_takesWhole (same : scope.store.get copy = scope.store.get root)
    (partly : ¬ TakesWhole scope root text) :
    tokenize scope copy text = tokenize scope root text := by
  have twins := twinChains_start root copy (Text.size text)
  simp only [tokenize_eq_resume, resume_start]
  by_cases more : ∃ candidate before content,
      TakenFrom scope root text 0 candidate before content
  · rcases more with ⟨candidate, before, content, taken⟩
    have smaller : Text.size content < Text.size text :=
      Nat.lt_of_not_le fun full => partly (takesWhole_of_taken taken full)
    exact (twins.tokensFrom_eq taken smaller (Nat.le_refl _) same).symm
  · exact (tokensFrom_of_untaken more same).symm

/-- A copy that the grammar does not lead to fails where the grammar does. -/
theorem tokenize_error_of_error (same : scope.store.get copy = scope.store.get root)
    (apart : ¬ Reachable scope root copy) {fault : HighlightError}
    (fails : tokenize scope root text = .error fault) :
    tokenize scope copy text = .error fault := by
  rw [tokenize_eq_resume, resume_start] at fails ⊢
  exact (twinChains_start root copy (Text.size text)).error_of_error apart .root
    (Nat.le_refl _) same fails

end Tokenizer

namespace Registry

open Tokenizer (Reachable TakesWhole wordIn alternating)

variable {registry : Registry} {id copy : GrammarId} {name : String}

/-- A copy of a grammar to which nothing refers: no name is bound to it, and it is not
written inside any rule. -/
structure DetachedCopy (registry : Registry) (id copy : GrammarId) : Prop where
  same : registry.store.get copy = registry.store.get id
  unbound : ∀ name, registry.lookup? name ≠ some copy
  unwritten : registry.store.All fun rule => rule.inside ≠ some (.inline copy)

/-- A grammar that is bound to a name does not lead to a detached copy of it. -/
theorem DetachedCopy.not_reachable (detached : registry.DetachedCopy id copy)
    (bound : registry.lookup? name = some id) : ¬ Reachable registry.scope id copy := by
  intro reachable
  cases reachable with
  | root => exact detached.unbound name bound
  | @inside outer _ label rule _ listed resolved =>
      rcases (Tokenizer.inner?_eq_some_iff).mp resolved with written | ⟨other, _, leads⟩
      · exact (detached.unwritten.get outer).of_mem_rules listed written
      · exact detached.unbound other leads

/-! ## Copies that have just been made -/

/-- Whether whatever is bound to a name or written inside a rule has been kept. -/
structure RefersToKept (registry : Registry) : Prop where
  bound : ∀ name id, registry.lookup? name = some id -> id < registry.store.grammars.size
  written : registry.store.All fun rule =>
    ∀ inner, rule.inside = some (.inline inner) -> inner < registry.store.grammars.size

theorem refersToKept_empty : RefersToKept {} where
  bound := fun _ _ bound => absurd bound.symm (Option.some_ne_none _)
  written := GrammarStore.all_empty

theorem RefersToKept.register (refers : registry.RefersToKept) (name : String)
    {grammar : Grammar} (own : grammar.All fun rule =>
      ∀ inner, rule.inside = some (.inline inner) -> inner < registry.store.grammars.size) :
    (registry.register name grammar).RefersToKept := by
  have grown : (registry.register name grammar).store.grammars.size =
      registry.store.grammars.size + 1 := Array.size_push _
  have written : (registry.register name grammar).store.All fun rule =>
      ∀ inner, rule.inside = some (.inline inner) -> inner < registry.store.grammars.size :=
    refers.written.add own
  constructor
  · intro other id bound
    rw [lookup?_register] at bound
    rw [grown]
    split at bound
    · cases bound
      exact Nat.lt_succ_self _
    · exact Nat.lt_succ_of_lt (refers.bound other id bound)
  · intro kept listed entry member rule among inner inline
    rw [grown]
    exact Nat.lt_succ_of_lt (written kept listed entry member rule among inner inline)

/-- A copy that has just been made is detached. -/
theorem RefersToKept.detachedCopy (refers : registry.RefersToKept)
    (kept : id < registry.store.grammars.size) :
    (registry.keep [registry.store.get id]).DetachedCopy id registry.store.grammars.size := by
  have unwritten : registry.store.All fun rule =>
      rule.inside ≠ some (.inline registry.store.grammars.size) :=
    fun grammar listed entry member rule among written =>
      Nat.lt_irrefl _ (refers.written grammar listed entry member rule among _ written)
  constructor
  · exact (GrammarStore.get_add registry.store _).trans
      ((GrammarStore.extends_add registry.store _).get_eq id kept).symm
  · intro name bound
    exact Nat.lt_irrefl _ (refers.bound name _ bound)
  · exact unwritten.add (unwritten.get id)

/-- A registry with two grammars, of which the first hands a word on to the second, and that
one to a language that is not there. -/
def unfinished : Registry :=
  Registry.register
    (Registry.register {} "even" (Grammar.empty.insert "word" [wordIn "odd"]))
    "odd" (Grammar.empty.insert "word" [wordIn "lost"])

theorem refersToKept_unfinished : unfinished.RefersToKept := by
  have plain (language : String) (bound : Nat) :
      (Grammar.empty.insert "word" [wordIn language]).All fun rule =>
        ∀ inner, rule.inside = some (.inline inner) -> inner < bound :=
    Grammar.all_empty.insert (List.forall_mem_singleton.mpr fun inner written => by cases written)
  exact (refersToKept_empty.register "even" (plain "odd" _)).register "odd" (plain "lost" _)

/-! ## Grammars and their copies -/

/-- Which object a grammar is matters only where it comes back to the whole text.  A copy to
which nothing refers gives what the grammar itself gives, tree or fault, unless that is a
single matched token over the whole text.  If the results differ at all, then the first
match takes in the whole text. -/
theorem tokenize_detachedCopy (bound : registry.lookup name = .ok id)
    (detached : registry.DetachedCopy id copy) (text : Text) :
    ((∀ tokens, registry.tokenize id text = .ok tokens -> ¬ Token.CoversAlone tokens text) ->
      registry.tokenize copy text = registry.tokenize id text) ∧
    (registry.tokenize copy text ≠ registry.tokenize id text ->
      TakesWhole registry.scope id text) := by
  have agrees : ¬ TakesWhole registry.scope id text ->
      registry.tokenize copy text = registry.tokenize id text :=
    Tokenizer.tokenize_of_not_takesWhole detached.same
  refine ⟨fun other => ?_, fun differs => by_contra fun partly => differs (agrees partly)⟩
  by_cases whole : TakesWhole registry.scope id text
  · cases result : registry.tokenize id text with
    | error fault =>
        exact Tokenizer.tokenize_error_of_error detached.same
          (detached.not_reachable ((lookup_eq_ok_iff).mp bound)) result
    | ok tokens =>
        exact absurd (Tokenizer.coversAlone_of_tokenize whole result) (other tokens result)
  · exact agrees whole

/-- The fault lies inside a match that takes in the whole text. -/
theorem tokenize_detachedCopy_unfinished :
    (unfinished.keep [unfinished.store.get 0]).DetachedCopy 0 2 ∧
      (unfinished.keep [unfinished.store.get 0]).tokenize 2 "ab".toList =
        .error (.grammarNotFound "lost") ∧
      (unfinished.keep [unfinished.store.get 0]).tokenize 2 "a".toList =
        .ok [.text "a".toList] := by
  have detached : (unfinished.keep [unfinished.store.get 0]).DetachedCopy 0 2 :=
    refersToKept_unfinished.detachedCopy (by decide)
  have bound : (unfinished.keep [unfinished.store.get 0]).lookup "even" = .ok 0 := rfl
  have same := tokenize_detachedCopy bound detached
  refine ⟨detached, ?_, ?_⟩
  · refine ((same "ab".toList).1 ?_).trans rfl
    intro tokens ends
    cases ends
  · refine ((same "a".toList).1 ?_).trans rfl
    intro tokens ends
    cases ends
    rintro ⟨token, alone, matched, _⟩
    cases alone
    cases matched

/-- Over the whole text a copy comes back to the grammar once more. -/
example : (alternating.keep [alternating.store.get 0]).tokenize 0 "ab".toList =
      .ok [.composite "word" none [.leaf "word" none "ab".toList]] ∧
    (alternating.keep [alternating.store.get 0]).tokenize 2 "ab".toList =
      .ok [.composite "word" none
        [.composite "word" none [.leaf "word" none "ab".toList]]] :=
  ⟨rfl, rfl⟩

end Registry
end FencedHighlight
