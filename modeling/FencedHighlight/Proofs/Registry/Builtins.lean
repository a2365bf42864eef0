import FencedHighlight.Engine
import FencedHighlight.Proofs.Pattern.Evaluation
import FencedHighlight.Proofs.Pattern.Participation
import FencedHighlight.Proofs.Registry.Origin
import FencedHighlight.Proofs.Tokenizer.Resolution
import FencedHighlight.Proofs.Tokenizer.Safety
import FencedHighlight.Registry.Builtin

namespace FencedHighlight

/-!
What the built-in grammars promise for every text.

Tokenizing fails only where a match cannot be cut out of the text, or for want of a grammar.
Whether it ever does can be told from what is written in the files: no pattern may move the
beginning of a match while it looks behind, context must be the first part of its pattern
and take part in every match, and all names must be those of files.  This is a matter of
looking at the files once, and not of looking at texts.
-/

/-! ## Patterns -/

namespace Pattern

/-- Whether a pattern can be compiled and is seen to leave the beginning of its matches
alone.  With `leads`, its first group must also be its first part and always take part. -/
def isSound (leads : Bool) (text : Text) : Bool :=
  match Reader.read text with
  | .error _ => false
  | .ok reading =>
      match Program.ofTree? reading.tree reading.groups reading.referenced with
      | none => false
      | some program =>
          !reading.tree.movesBehind &&
            (!leads || !reading.tree.movesBeginning && reading.tree.leadsWithGroup &&
              program.alwaysGroups)

theorem compile_of_isSound {leads : Bool} {source : String}
    (sound : isSound leads (Text.ofString source) = true) :
    ∃ pattern, compile source = .ok pattern ∧ pattern.keepsAhead = true ∧
      (leads = true -> pattern.leadsWithGroup = true ∧ pattern.alwaysGroups = true) := by
  unfold isSound at sound
  split at sound
  · cases sound
  · rename_i reading read
    split at sound
    · cases sound
    · rename_i program assembled
      have known : (compiled source program).reading? = some reading := by
        rw [reading?, read]
        rfl
      rcases Bool.and_eq_true_iff.mp sound with ⟨still, context⟩
      refine ⟨compiled source program, ?_, ?_, ?_⟩
      · rw [compile, read]
        simp only [assembled]
      · rw [keepsAhead, known]
        exact still
      · rintro rfl
        simp only [Bool.not_true, Bool.false_or, Bool.and_eq_true] at context
        refine ⟨?_, context.2⟩
        simp only [leadsWithGroup, known, Option.all_some, context.1, Bool.and_true,
          Bool.or_true]

/-- A pattern that is given by its characters need not be taken apart. -/
theorem isSound_ofList {leads : Bool} {chars : List Char} (sound : isSound leads chars = true) :
    isSound leads (Text.ofString (String.ofList chars)) = true := by
  rwa [Text.ofString, String.toList_ofList]

end Pattern

/-! ## Rules -/

namespace Rule

variable {rule : Rule} {pattern : Pattern} {text : Text} {offset : Nat} {found : RuleMatch}

/-- Whether a rule is seen to leave the beginning of its matches alone and, if it takes the
first group of its pattern for context, to have this group first in every match. -/
structure Sound (rule : Rule) : Prop where
  keepsAhead : rule.KeepsAhead
  context : ∀ pattern, rule.matcher = .pattern pattern -> rule.lookbehind = true ->
    pattern.leadsWithGroup = true ∧ pattern.alwaysGroups = true

/-- What is promised of a rule whose pattern begins with context.  The group takes part in
every match and begins with it, and the content begins at a boundary within the match. -/
structure BeginsWithContext (rule : Rule) (pattern : Pattern) : Prop where
  group : ∀ text offset found, pattern.search? text offset = some found ->
    ∃ group, found.firstGroup = some group ∧ group.start = found.span.start
  content : ∀ text offset found, rule.findAny? text offset = some found ->
    found.start ≤ found.contentStart ∧ found.contentStart ≤ found.stop ∧
      Text.isBoundary text found.contentStart = true

theorem Sound.opensWithContext (sound : rule.Sound) : rule.OpensWithContext := by
  have leads : rule.LeadsWithContext := by
    intro pattern kind behind
    have own : rule.startPattern = pattern := by rw [startPattern, kind]
    exact ⟨own ▸ sound.keepsAhead.compiled, (sound.context pattern kind behind).1⟩
  exact leads.opensWithContext

/-- The content of a match for a pattern lies within the match. -/
theorem content_of_pattern (kind : rule.matcher = .pattern pattern)
    (result : rule.findAny? text offset = some found) :
    found.start ≤ found.contentStart ∧ found.contentStart ≤ found.stop := by
  rw [findAny?_pattern kind] at result
  rcases Option.map_eq_some_iff.mp result with ⟨searched, search, rfl⟩
  have ordered := (Pattern.span_of_search? search).2.2
  simp only [ofFound]
  split
  · exact ⟨by omega, Nat.min_le_right _ _⟩
  · exact ⟨Nat.le_refl _, ordered⟩

theorem Sound.beginsWithContext (sound : rule.Sound) (kind : rule.matcher = .pattern pattern)
    (behind : rule.lookbehind = true) : rule.BeginsWithContext pattern := by
  have opens := sound.opensWithContext
  constructor
  · intro text offset found result
    rcases Pattern.exists_firstGroup (sound.context pattern kind behind).2 result with
      ⟨group, took⟩
    exact ⟨group, took, opens pattern kind behind text offset found group result took⟩
  · intro text offset found result
    have within := content_of_pattern kind result
    exact ⟨within.1, within.2, content_of_findAny? opens result⟩

/-- Nothing but the matcher of a rule and what it takes for context is looked at. -/
theorem Sound.of_matcher {other : Rule} (sound : rule.Sound) (kind : other.matcher = rule.matcher)
    (behind : other.lookbehind = rule.lookbehind) : other.Sound := by
  have same : other.startPattern = rule.startPattern := by
    rw [startPattern, startPattern, kind]
  constructor
  · exact ⟨same ▸ sound.keepsAhead.compiled, same ▸ sound.keepsAhead.keeps⟩
  · intro pattern own leads
    exact sound.context pattern (kind ▸ own) (behind ▸ leads)

/-- A rule for regions takes no group for context. -/
theorem sound_balanced {delimiters : Delimiters} (compiled : delimiters.opening.IsCompiled)
    (ahead : delimiters.opening.keepsAhead = true) : (balanced delimiters).Sound :=
  ⟨⟨compiled, ahead⟩, fun _ kind => nomatch kind⟩

end Rule

/-! ## Files -/

/-- Whether the patterns of a rule are seen to be sound. -/
def RuleFields.isSound (fields : RuleFields) : Bool :=
  match fields.pattern, fields.opening, fields.closing with
  | some pattern, none, none => Pattern.isSound fields.lookbehind (Text.ofString pattern)
  | none, some opening, some closing =>
      Pattern.isSound false (Text.ofString opening) &&
        Pattern.isSound false (Text.ofString closing) &&
        fields.nested.all fun nested => Pattern.isSound false (Text.ofString nested)
  | _, _, _ => false

/-- The delimiters of an embedding are few, so they can be looked at as they are. -/
def EmbeddingDefinition.isSound (embedding : EmbeddingDefinition) : Bool :=
  embedding.delimiters.toOption.any fun delimiters => delimiters.opening.keepsAhead

namespace Delimiters

variable {delimiters changed : Delimiters}

theorem isCompiled_of_compile {opening closing : String}
    (made : compile opening closing = .ok delimiters) : delimiters.opening.IsCompiled := by
  rcases HighlightError.ok_of_bind made with ⟨first, compiled, later⟩
  rcases HighlightError.ok_of_bind later with ⟨last, _, same⟩
  cases same
  exact Pattern.isCompiled_of_compile compiled

/-- What deepens the nesting is of no concern to the opening. -/
theorem opening_of_withNested? {nested : Option String}
    (made : delimiters.withNested? nested = .ok changed) :
    changed.opening = delimiters.opening := by
  cases nested with
  | none =>
      cases made
      rfl
  | some pattern =>
      rcases HighlightError.ok_of_bind made with ⟨compiled, _, same⟩
      cases same
      rfl

theorem withNested?_of_isSound {nested : Option String} (delimiters : Delimiters)
    (sound : nested.all (fun nested => Pattern.isSound false (Text.ofString nested)) = true) :
    ∃ changed, delimiters.withNested? nested = .ok changed := by
  cases nested with
  | none => exact ⟨delimiters, rfl⟩
  | some pattern =>
      rcases Pattern.compile_of_isSound sound with ⟨compiled, made, _⟩
      refine ⟨{ delimiters with nested := some compiled }, ?_⟩
      simp only [withNested?, withNested, made]
      rfl

end Delimiters

namespace RuleFields

variable {fields : RuleFields}

/-- What is seen to be sound compiles to a sound rule. -/
theorem compile_of_isSound (sound : fields.isSound = true) (name : String) :
    ∃ rule, fields.compile name = .ok rule ∧ rule.Sound := by
  unfold isSound at sound
  split at sound
  · rename_i source written unopened unclosed
    rcases Pattern.compile_of_isSound sound with ⟨pattern, made, ahead, context⟩
    refine ⟨
      { matcher := .pattern pattern
        lookbehind := fields.lookbehind
        synonym := fields.synonym
        greedy := fields.greedy }, ?_, ⟨?_, ahead⟩, ?_⟩
    · simp only [compile, written, unopened, unclosed, Rule.ofPattern, made]
      rfl
    · exact Pattern.isCompiled_of_compile made
    · intro other same behind
      cases same
      exact context behind
  · rename_i opening closing unwritten opens closes
    simp only [Bool.and_eq_true] at sound
    rcases Pattern.compile_of_isSound sound.1.1 with ⟨first, opened, ahead, _⟩
    rcases Pattern.compile_of_isSound sound.1.2 with ⟨last, closed, _⟩
    have made : Delimiters.compile opening closing =
        .ok { opening := first, closing := last } := by
      simp only [Delimiters.compile, opened, closed]
      rfl
    rcases Delimiters.withNested?_of_isSound { opening := first, closing := last } sound.2 with
      ⟨delimiters, nested⟩
    have kept : delimiters.opening = first := Delimiters.opening_of_withNested? nested
    have compiled : delimiters.opening.IsCompiled :=
      kept ▸ Pattern.isCompiled_of_compile opened
    have whole : (Rule.balanced delimiters).Sound := Rule.sound_balanced compiled (kept ▸ ahead)
    refine ⟨{ Rule.balanced delimiters with synonym := fields.synonym, greedy := fields.greedy },
      ?_, whole.of_matcher rfl rfl⟩
    simp only [compile, unwritten, opens, closes, made, bind, Except.bind, nested]
    rfl
  · cases sound

end RuleFields

namespace EmbeddingDefinition

variable {embedding : EmbeddingDefinition} {delimiters : Delimiters}

/-- Whatever delimits an embedding, its opening has been compiled. -/
theorem isCompiled_of_delimiters (made : embedding.delimiters = .ok delimiters) :
    delimiters.opening.IsCompiled := by
  unfold EmbeddingDefinition.delimiters at made
  split at made
  · rcases HighlightError.ok_of_bind made with ⟨tags, between, nested⟩
    rcases HighlightError.ok_of_bind between with ⟨plain, compiled, same⟩
    cases same
    rw [Delimiters.opening_of_withNested? nested]
    exact show plain.opening.IsCompiled from Delimiters.isCompiled_of_compile compiled
  · rcases HighlightError.ok_of_bind made with ⟨plain, compiled, nested⟩
    rw [Delimiters.opening_of_withNested? nested]
    exact Delimiters.isCompiled_of_compile compiled
  · cases made

theorem exists_delimiters_of_isSound (sound : embedding.isSound = true) :
    ∃ delimiters, embedding.delimiters = .ok delimiters ∧
      (Registry.embeddingRule delimiters embedding.language).Sound := by
  cases made : embedding.delimiters with
  | error fault =>
      rw [isSound, made] at sound
      cases sound
  | ok delimiters =>
      rw [isSound, made] at sound
      have whole := Rule.sound_balanced (isCompiled_of_delimiters made) sound
      exact ⟨delimiters, rfl, whole.of_matcher rfl rfl⟩

end EmbeddingDefinition

namespace GrammarFile

variable {file : GrammarFile}

/-- Whether all that is written in a file is seen to be sound. -/
structure Sound (file : GrammarFile) : Prop where
  rules : ∀ written ∈ file.written, written.fields.isSound = true
  embeddings : ∀ embedding ∈ file.embeddings, embedding.isSound = true

theorem Sound.compiles (sound : file.Sound) : file.Compiles := by
  constructor
  · intro written listed name
    rcases RuleFields.compile_of_isSound (sound.rules written listed) name with ⟨rule, made, _⟩
    exact ⟨rule, made⟩
  · intro embedding listed
    rcases EmbeddingDefinition.exists_delimiters_of_isSound (sound.embeddings embedding listed)
      with ⟨delimiters, made, _⟩
    exact ⟨delimiters, made⟩

theorem Sound.sound_of_describes (sound : file.Sound) {rule : Rule}
    (described : file.Describes rule) : rule.Sound := by
  rcases described with
    ⟨written, listed, name, plain, inside, made, rfl, _⟩ |
      ⟨embedding, listed, delimiters, made, rfl⟩
  · rcases RuleFields.compile_of_isSound (sound.rules written listed) name with
      ⟨rule, compiled, whole⟩
    rcases Except.ok.inj (made.symm.trans compiled) with rfl
    exact whole.of_matcher rfl rfl
  · rcases EmbeddingDefinition.exists_delimiters_of_isSound (sound.embeddings embedding listed)
      with ⟨others, compiled, whole⟩
    rcases Except.ok.inj (made.symm.trans compiled) with rfl
    exact whole

/-- Whether all names that are referred to in a file are among some names. -/
def refersWithin (names : List String) (file : GrammarFile) : Bool :=
  file.written.all (fun written => written.grammar.all names.contains) &&
    file.embeddings.all fun embedding => names.contains embedding.language

theorem mem_of_refersWithin {names : List String} (within : file.refersWithin names = true)
    {rule : Rule} (described : file.Describes rule) {name : String}
    (named : rule.inside = some (.named name)) : name ∈ names := by
  rcases Bool.and_eq_true_iff.mp within with ⟨ofRules, ofEmbeddings⟩
  rcases described with
    ⟨written, listed, _, _, _, _, rfl, told⟩ | ⟨embedding, listed, delimiters, _, rfl⟩
  · have allowed := List.all_eq_true.mp ofRules written listed
    rw [told name named, Option.all_some, List.contains_iff_mem] at allowed
    exact allowed
  · have allowed := List.all_eq_true.mp ofEmbeddings embedding listed
    cases named
    exact List.contains_iff_mem.mp allowed

end GrammarFile

/-! ## Registries -/

namespace Registry

variable {registry : Registry} {rule : Rule} {language : String}

/-- What a registry needs of a rule.  The grammar for its content is registered; if it takes
the first group of its pattern for context, each match begins with it; and what is found
anywhere in a text can be cut out of it. -/
structure Serves (registry : Registry) (rule : Rule) : Prop where
  named : ∀ name, rule.inside = some (.named name) -> name ∈ registry.names
  context : ∀ pattern, rule.matcher = .pattern pattern -> rule.lookbehind = true ->
    rule.BeginsWithContext pattern
  found : ∀ text offset limit found, Text.isBoundary text offset = true ->
    rule.find? text offset limit = some found ->
      found.LiesIn text offset ∧ found.contentStart < found.stop ∧ found.stop ≤ limit

theorem serves_of_sound (sound : rule.Sound)
    (named : ∀ name, rule.inside = some (.named name) -> name ∈ registry.names) :
    registry.Serves rule := by
  refine ⟨named, fun pattern kind behind => sound.beginsWithContext kind behind, ?_⟩
  intro text offset limit found boundary result
  refine Rule.liesIn_of_findWithin (fun text offset found boundary report filled => ?_)
    boundary result
  exact Rule.liesIn_of_findAny? sound.keepsAhead.startsAhead sound.opensWithContext boundary
    report filled

/-- Tokenizing never fails if all rules are sound and refer to registered grammars. -/
theorem exists_tokenize_of_sound
    (rules : ∀ grammar, ∀ entry ∈ (registry.store.get grammar).rules, entry.2.Sound ∧
      ∀ name, entry.2.inside = some (.named name) -> name ∈ registry.names)
    (grammar : GrammarId) (text : Text) :
    ∃ tokens, registry.tokenize grammar text = .ok tokens := by
  have inside : registry.scope.ReportsInside := by
    refine Tokenizer.reportsInside_of_rules fun grammar entry listed => ?_
    have sound := (rules grammar entry listed).1
    exact ⟨sound.keepsAhead.startsAhead, sound.opensWithContext⟩
  rcases @Tokenizer.tokenize_cases registry.scope grammar text inside with
    succeeds | ⟨missing, fails⟩
  · exact succeeds
  · rcases Tokenizer.refersTo_of_tokenize fails with broken | ⟨name, _, unbound, refers⟩
    · cases broken
    · rcases refers with ⟨outer, label, rule, _, listed, told⟩
      have known := (rules outer (label, rule) listed).2 name told
      rcases (contains_iff).mp ((mem_names_iff).mp known) with ⟨id, bound⟩
      rw [show registry.lookup? name = none from unbound] at bound
      cases bound

theorem exists_highlight (engine : Engine) (known : language ∈ registry.names)
    (tokenizes : ∀ grammar text, ∃ tokens, registry.tokenize grammar text = .ok tokens)
    (code source : Text) (base : Nat) :
    ∃ ranges, engine.highlight registry language code source base = .ok ranges := by
  rcases (contains_iff).mp ((mem_names_iff).mp known) with ⟨grammar, bound⟩
  rcases tokenizes grammar code with ⟨tokens, succeeds⟩
  have found : registry.lookup language = .ok grammar := by
    rw [lookup, bound]
  refine ⟨engine.adjust source (Projection.project tokens base), ?_⟩
  simp only [Engine.highlight, found, succeeds, bind, Except.bind, pure, Except.pure]

/-! ## The built-in grammars -/

open RuleDefinition (writtenEntries writtenList written) in
set_option maxRecDepth 4000 in
/-- All patterns of the built-in grammars are looked at one by one, as they are written. -/
theorem sound_of_mem_builtinFiles : ∀ file ∈ builtinFiles, file.Sound := by
  simp only [builtinFiles, List.forall_mem_cons]
  refine ⟨?_, ?_, ?_, ?_, ?_, fun _ listed => nomatch listed⟩
  all_goals
    constructor
    -- In the kernel it is slow to take a literal apart, so each pattern is checked by its
    -- characters.
    · simp only [Builtin.javascript, Builtin.css, Builtin.markup, Builtin.svelte, Builtin.mips,
        GrammarFile.written, writtenEntries, writtenList, written, List.cons_append,
        List.nil_append, List.forall_mem_cons, RuleFields.isSound, Option.all_none,
        Option.all_some, Bool.and_eq_true, Bool.and_true]
      and_intros
      all_goals first
        | exact Pattern.isSound_ofList (by decide +kernel)
        | exact fun _ listed => nomatch listed
    · decide +kernel

theorem refersWithin_of_mem_builtinFiles :
    ∀ file ∈ builtinFiles, file.refersWithin (builtinFiles.map GrammarFile.name) = true := by
  decide

/-- All built-in files are installed, and nothing else. -/
theorem withBuiltins_origin :
    withBuiltins.store.All (fun rule => ∃ file ∈ builtinFiles, file.Describes rule) ∧
      ∀ language, withBuiltins.contains language = true ↔
        language ∈ builtinFiles.map GrammarFile.name := by
  have bound : ∀ other, contains {} other = true ↔ other ∈ [] := by
    intro other
    simp only [List.not_mem_nil, iff_false]
    exact Bool.false_ne_true
  have installed := foldl_install
    (GrammarStore.all_empty : GrammarStore.All
      (fun rule => ∃ file ∈ builtinFiles, file.Describes rule) {})
    bound (by decide : GrammarFile.inOrder [] builtinFiles = true)
    (fun file listed => (sound_of_mem_builtinFiles file listed).compiles)
    (fun file listed rule described => ⟨file, listed, described⟩)
  refine ⟨installed.1, fun language => ?_⟩
  exact (installed.2 language).trans (or_iff_right List.not_mem_nil)

/-- The built-in grammars work on every text.  Each of their rules is written in one of
their files and refers to no names but theirs; its context begins its matches; and what it
finds can be cut out of the text.  So tokenizing comes to its end, and every text and every
block in one of their languages is highlighted. -/
theorem highlight_withBuiltins :
    (∀ language, language ∈ withBuiltins.names ↔
      language ∈ ["javascript", "css", "markup", "svelte", "mips"]) ∧
    (∀ file ∈ builtinFiles, file.Compiles ∧
      ∀ rule, file.Describes rule -> withBuiltins.Serves rule) ∧
    (∀ grammar, ∀ entry ∈ (withBuiltins.store.get grammar).rules,
      ∃ file ∈ builtinFiles, file.Describes entry.2) ∧
    (∀ grammar text, ∃ tokens, withBuiltins.tokenize grammar text = .ok tokens) ∧
    ∀ engine : Engine,
      (∀ language, language ∈ withBuiltins.names -> ∀ text,
        ∃ ranges, engine.highlightAlone withBuiltins language text = .ok ranges) ∧
      ∀ block : CodeBlock, block.language ∈ withBuiltins.names -> ∀ document,
        ∃ ranges, engine.highlightBlock withBuiltins document block = .ok ranges := by
  rcases withBuiltins_origin with ⟨origin, installed⟩
  have names : ∀ language, language ∈ withBuiltins.names ↔
      language ∈ builtinFiles.map GrammarFile.name :=
    fun language => (mem_names_iff).trans (installed language)
  have named : ∀ file ∈ builtinFiles, ∀ rule, file.Describes rule ->
      ∀ name, rule.inside = some (.named name) -> name ∈ withBuiltins.names := by
    intro file listed rule described name told
    have within := refersWithin_of_mem_builtinFiles file listed
    exact (names name).mpr (GrammarFile.mem_of_refersWithin within described told)
  have described : ∀ grammar, ∀ entry ∈ (withBuiltins.store.get grammar).rules,
      ∃ file ∈ builtinFiles, file.Describes entry.2 :=
    fun grammar entry listed => (origin.get grammar).of_mem_rules listed
  have tokenizes : ∀ grammar text, ∃ tokens, withBuiltins.tokenize grammar text = .ok tokens := by
    refine exists_tokenize_of_sound fun grammar entry listed => ?_
    rcases described grammar entry listed with ⟨file, known, own⟩
    exact ⟨(sound_of_mem_builtinFiles file known).sound_of_describes own,
      named file known entry.2 own⟩
  refine ⟨names, ?_, described, tokenizes, fun engine => ⟨?_, ?_⟩⟩
  · intro file listed
    have sound := sound_of_mem_builtinFiles file listed
    exact ⟨sound.compiles, fun rule own =>
      serves_of_sound (sound.sound_of_describes own) (named file listed rule own)⟩
  · exact fun language known text => exists_highlight engine known tokenizes text text 0
  · exact fun block known document =>
      exists_highlight engine known tokenizes block.raw document block.offset

/-- How the name of a function is written in a style sheet: what stands before it is only
context. -/
def functionFields : RuleFields where
  pattern := some "(^|[^-a-zA-Z0-9])[-a-zA-Z0-9]+(?=\\()"
  lookbehind := true

/-- Text of several bytes may stand before a function, and anywhere in assembly code. -/
theorem highlight_withBuiltins_function :
    "mips" ∈ withBuiltins.names ∧
    (∃ ranges, (Engine.ofSettings {}).highlightAlone withBuiltins "mips" "é\u00a0$a".toList =
      .ok ranges) ∧
    ∃ rule pattern, Builtin.css.Describes rule ∧ rule.matcher = .pattern pattern ∧
      rule.BeginsWithContext pattern ∧ rule.find? "éf(".toList 0 4 = some ⟨0, 2, 3⟩ ∧
      RuleMatch.LiesIn ⟨0, 2, 3⟩ "éf(".toList 0 := by
  have known : "mips" ∈ withBuiltins.names :=
    (highlight_withBuiltins.1 "mips").mpr (by decide)
  refine ⟨known, (highlight_withBuiltins.2.2.2.2 _).1 "mips" known _, ?_⟩
  have listed : WrittenRule.mk functionFields none ∈ Builtin.css.written := by
    simp only [functionFields, Builtin.css, GrammarFile.written, RuleDefinition.writtenEntries,
      RuleDefinition.writtenList, RuleDefinition.written, List.cons_append, List.nil_append,
      List.mem_cons, true_or, or_true]
  have file : Builtin.css ∈ builtinFiles := by
    simp only [builtinFiles, List.mem_cons, true_or, or_true]
  have evaluated : (Pattern.compile "(^|[^-a-zA-Z0-9])[-a-zA-Z0-9]+(?=\\()").toOption.bind
      (fun pattern => pattern.regularSlots? "éf(".toList 0) =
        some #[some 0, some 2, some 0, some 1] := by
    decide +kernel
  cases compiled : Pattern.compile "(^|[^-a-zA-Z0-9])[-a-zA-Z0-9]+(?=\\()" with
  | error fault =>
      rw [compiled] at evaluated
      cases evaluated
  | ok pattern =>
      rw [compiled] at evaluated
      have searched := Pattern.search?_of_regularSlots? evaluated rfl rfl
      let rule : Rule := { matcher := .pattern pattern, lookbehind := true }
      have made : functionFields.compile "function" = .ok rule := by
        simp only [functionFields, RuleFields.compile, Rule.ofPattern, compiled]
        rfl
      have described : Builtin.css.Describes rule :=
        Or.inl ⟨_, listed, "function", rule, none, made, rfl, fun _ named => by cases named⟩
      have serves := (highlight_withBuiltins.2.1 Builtin.css file).2 rule described
      have reported : rule.findAny? "éf(".toList 0 = some ⟨0, 2, 3⟩ := by
        simp only [rule, Rule.findAny?, searched]
        rfl
      have whole : Text.cut? "éf(".toList 4 = some ("éf(".toList, []) := by decide
      have found : rule.find? "éf(".toList 0 4 = some ⟨0, 2, 3⟩ := by
        rw [Rule.find?, Rule.findWithin, if_neg (by decide), whole]
        simp only [bind, Option.bind_some, Rule.firstContent, reported]
        rfl
      exact ⟨rule, pattern, described, rfl, serves.context pattern rfl rfl, found,
        (serves.found _ 0 4 _ (by decide) found).1⟩

end Registry

end FencedHighlight
