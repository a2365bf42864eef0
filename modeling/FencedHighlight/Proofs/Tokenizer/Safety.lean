import FencedHighlight.Proofs.Pattern.Written
import FencedHighlight.Proofs.Tokenizer.Termination

namespace FencedHighlight

/-!
Which matches can be cut out of a text.

Tokenizing cuts the context and the content of every match out of the text.  The ends
of a match are always boundaries in order.  But the content is taken to begin as many
bytes after the beginning of the match as the first group takes up, wherever that
group stands, and a match begins where its pattern says, even if it says so while it
looks behind.  Rules whose patterns do neither can be tokenized with safely.
-/

namespace RuleMatch

/-- Whether a match has some content and ends at a limit of a text or before, with
both ends at boundaries. -/
structure Spans (found : RuleMatch) (text : Text) (limit : Nat) : Prop where
  start_le_content : found.start ≤ found.contentStart
  content_lt_stop : found.contentStart < found.stop
  stop_le_limit : found.stop ≤ limit
  start_boundary : Text.isBoundary text found.start = true
  stop_boundary : Text.isBoundary text found.stop = true

end RuleMatch

namespace Rule

/-- Whether no match of a rule is written to begin before the search for it. -/
structure KeepsAhead (rule : Rule) : Prop where
  compiled : rule.startPattern.IsCompiled
  keeps : rule.startPattern.keepsAhead = true

/-- Whether the group that a rule takes for context is written first. -/
def LeadsWithContext (rule : Rule) : Prop :=
  ∀ pattern, rule.matcher = .pattern pattern -> rule.lookbehind = true ->
    pattern.IsCompiled ∧ pattern.leadsWithGroup = true

variable {rule : Rule} {text : Text} {offset limit : Nat} {found : RuleMatch}

theorem KeepsAhead.startsAhead (keeps : rule.KeepsAhead) : rule.startPattern.StartsAhead :=
  Pattern.startsAhead_of_keepsAhead keeps.compiled keeps.keeps

theorem LeadsWithContext.opensWithContext (leads : rule.LeadsWithContext) :
    rule.OpensWithContext := by
  intro pattern kind behind
  have written := leads pattern kind behind
  exact Pattern.opensWithGroup_of_leadsWithGroup written.1 written.2

theorem spans_of_find? (boundary : Text.isBoundary text offset = true)
    (result : rule.find? text offset limit = some found) : found.Spans text limit := by
  rcases exists_of_findWithin boundary result with
    ⟨left, right, position, rfl, limited, later, atBoundary, report, filled⟩
  have ends := ends_of_findAny? report
  refine
    { start_le_content := ends.2.2 filled
      content_lt_stop := filled
      stop_le_limit := ?_
      start_boundary := Text.isBoundary_append_left right ends.1
      stop_boundary := Text.isBoundary_append_left right ends.2.1 }
  rw [← limited]
  exact Text.le_size_of_isBoundary ends.2.1

theorem le_start_of_find? (keeps : rule.KeepsAhead) (boundary : Text.isBoundary text offset = true)
    (result : rule.find? text offset limit = some found) : offset ≤ found.start := by
  rcases exists_of_findWithin boundary result with
    ⟨left, right, position, rfl, limited, later, atBoundary, report, filled⟩
  exact Nat.le_trans later (start_of_findAny? keeps.startsAhead atBoundary report)

theorem isBoundary_of_find? (leads : rule.LeadsWithContext)
    (boundary : Text.isBoundary text offset = true)
    (result : rule.find? text offset limit = some found) :
    Text.isBoundary text found.contentStart = true := by
  rcases exists_of_findWithin boundary result with
    ⟨left, right, position, rfl, limited, later, atBoundary, report, filled⟩
  exact Text.isBoundary_append_left right (content_of_findAny? leads.opensWithContext report)

/-- A rule for a pattern whose first group is only context. -/
def ofContext (source : String) : Except HighlightError Rule := do
  let rule <- ofPattern source
  return { rule with lookbehind := true }

theorem isCompiled_of_ofContext {source : String} (made : ofContext source = .ok rule) :
    rule.startPattern.IsCompiled := by
  rcases HighlightError.ok_of_bind made with ⟨plain, read, marked⟩
  rcases HighlightError.ok_of_bind read with ⟨pattern, compiled, same⟩
  cases same
  cases marked
  exact Pattern.isCompiled_of_compile compiled

end Rule

namespace Tokenizer

/-- Every match has some content between boundaries of the text.  It begins at or
after the start of its search if its pattern does not move the beginning while it
looks behind, and its content begins at a boundary if its context is written first.
If that holds of all rules, tokenizing fails only where a grammar is missing. -/
theorem rules_usable (registry : Registry) :
    (∀ (rule : Rule) (text : Text) (offset limit : Nat) (found : RuleMatch),
      Text.isBoundary text offset = true -> rule.find? text offset limit = some found ->
        found.Spans text limit ∧
        (rule.KeepsAhead -> offset ≤ found.start) ∧
        (rule.LeadsWithContext -> Text.isBoundary text found.contentStart = true)) ∧
    ((∀ grammar, ∀ entry ∈ (registry.store.get grammar).rules,
        entry.2.KeepsAhead ∧ entry.2.LeadsWithContext) ->
      ∀ grammar text, (∃ tokens, registry.tokenize grammar text = .ok tokens) ∨
        ∃ missing, registry.tokenize grammar text = .error (.grammarNotFound missing)) := by
  constructor
  · intro rule text offset limit found boundary result
    exact ⟨Rule.spans_of_find? boundary result,
      fun keeps => Rule.le_start_of_find? keeps boundary result,
      fun leads => Rule.isBoundary_of_find? leads boundary result⟩
  · intro rules grammar text
    refine tokenize_cases (reportsInside_of_rules fun grammar entry listed => ?_)
    have written := rules grammar entry listed
    exact ⟨written.1.startsAhead, written.2.opensWithContext⟩

/-- A registry whose only grammar has a single rule. -/
def single (rule : Rule) : Registry :=
  Registry.register {} "single" (Grammar.empty.insert "word" [rule])

theorem mem_single {rule : Rule} {grammar : GrammarId} {entry : String × Rule}
    (listed : entry ∈ ((single rule).store.get grammar).rules) : entry = ("word", rule) := by
  have kept : grammar = 0 := Nat.lt_one_iff.mp (lt_size_of_mem_rules listed)
  subst kept
  exact List.mem_singleton.mp listed

/-- A rule whose context is written first can be tokenized with in a text that has
wider characters elsewhere. -/
theorem rules_usable_context :
    ∃ rule, Rule.ofContext "(a)b\\b" = .ok rule ∧ rule.KeepsAhead ∧ rule.LeadsWithContext ∧
      rule.find? "éab".toList 0 4 = some ⟨2, 3, 4⟩ ∧
      RuleMatch.Spans ⟨2, 3, 4⟩ "éab".toList 4 ∧ Text.isBoundary "éab".toList 3 = true ∧
      ∃ tokens, (single rule).tokenize 0 "éab".toList = .ok tokens := by
  have evaluated : (Rule.ofContext "(a)b\\b").toOption.map (fun rule =>
      (rule.startPattern.keepsAhead && rule.startPattern.leadsWithGroup,
        rule.find? "éab".toList 0 4, (single rule).tokenize 0 "éab".toList matches .ok _)) =
      some (true, some ⟨2, 3, 4⟩, true) := by
    decide +kernel
  cases made : Rule.ofContext "(a)b\\b" with
  | error fault =>
      rw [made] at evaluated
      cases evaluated
  | ok rule =>
      rw [made] at evaluated
      have facts := Prod.mk.inj (Option.some.inj evaluated)
      have ends := Prod.mk.inj facts.2
      have written := Bool.and_eq_true_iff.mp facts.1
      have compiled := Rule.isCompiled_of_ofContext made
      have keeps : rule.KeepsAhead := ⟨compiled, written.1⟩
      have leads : rule.LeadsWithContext := by
        intro pattern kind _
        have same : rule.startPattern = pattern := by rw [Rule.startPattern, kind]
        exact same ▸ ⟨compiled, written.2⟩
      have usable := rules_usable (single rule)
      have found := usable.1 rule "éab".toList 0 4 ⟨2, 3, 4⟩ (by decide) ends.1
      have ended := usable.2 (fun grammar entry listed => by
        rw [mem_single listed]
        exact ⟨keeps, leads⟩) 0 "éab".toList
      refine ⟨rule, rfl, keeps, leads, ends.1, found.1, found.2.2 leads, ?_⟩
      rcases ended with finished | ⟨missing, failed⟩
      · exact finished
      · rw [failed] at ends
        cases ends.2

/-- A group that is not written first is taken for context all the same, so the
content of a match may begin within a character, where nothing can be cut.  And a
match may begin before the search for it. -/
theorem find?_unusable :
    ((Rule.ofContext "é(a)b\\b").toOption.bind fun rule => rule.find? "éab".toList 0 4) =
        some ⟨0, 1, 4⟩ ∧
      Text.isBoundary "éab".toList 1 = false ∧
      ((Rule.ofContext "é(a)b\\b").toOption.map fun rule =>
        (single rule).tokenize 0 "éab".toList matches .error .brokenSpan) = some true ∧
      ((Rule.ofPattern "(?<=\\Ka)b").toOption.bind fun rule => rule.find? "ab".toList 1 2) =
        some ⟨0, 0, 2⟩ := by
  refine ⟨?_, ?_, ?_, ?_⟩ <;> decide +kernel

end Tokenizer
end FencedHighlight
