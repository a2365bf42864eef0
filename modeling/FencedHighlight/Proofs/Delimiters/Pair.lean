import FencedHighlight.Rule
import FencedHighlight.Proofs.Delimiters.Brackets
import FencedHighlight.Proofs.Pattern.Span
import FencedHighlight.Proofs.Text.First

namespace FencedHighlight

/-!
Regions between two characters.

A search for a character finds its first occurrence, so the scan for the end of a region
steps from bracket to bracket and passes over everything else.  It ends at the closing
that balances the opening, and an opening without such a closing is passed over like any
other character.
-/

variable {text before skipped rest after : Text} {char opening closing : Char}

namespace Text

theorem length_le_size (text : Text) : text.length ≤ size text := by
  induction text with
  | nil => exact Nat.le_refl _
  | cons char rest ih =>
      have extent := Char.utf8Size_pos char
      rw [List.length_cons, size_cons]
      omega

/-- The size of a text is more than enough for a step at each of its characters. -/
theorem length_lt_size_append (before rest : Text) (extra : Nat) :
    rest.length < size (before ++ rest) + (extra + 1) := by
  have short := length_le_size rest
  rw [size_append]
  omega

/-! A character that has been reached ends the part of the text that has been passed. -/

theorem append_past : before ++ (skipped ++ [char]) ++ rest = before ++ (skipped ++ char :: rest) := by
  simp only [List.append_assoc, List.singleton_append]

theorem size_past :
    size (before ++ (skipped ++ [char])) = size before + size skipped + char.utf8Size := by
  simp only [size_append, size_cons, size_nil, Nat.add_zero, Nat.add_assoc]

theorem nextBoundary_past :
    nextBoundary (before ++ (skipped ++ char :: rest)) (size before + size skipped) =
      size before + size skipped + char.utf8Size := by
  have next := nextBoundary_append (before ++ skipped) char rest
  rwa [List.append_assoc, size_append] at next

end Text

/-! ## A character that stands for itself -/

namespace Pattern

/-- The search for one character. -/
def finder (char : Char) (text : Text) : Finder :=
  fun offset => (literal [char]).find? text offset

theorem findLiteral_cons_self {offset : Nat} :
    findLiteral [char] offset (char :: rest) = some offset := by
  rw [findLiteral, if_pos]
  rw [List.isPrefixOf_cons_cons_self, List.isPrefixOf_nil_left]

theorem findLiteral_cons_of_ne {offset : Nat} {other : Char} (different : char ≠ other) :
    findLiteral [char] offset (other :: rest) =
      findLiteral [char] (offset + other.utf8Size) rest := by
  rw [findLiteral, if_neg]
  rw [List.isPrefixOf, Bool.and_eq_true, beq_iff_eq]
  exact fun both => different both.1

theorem findLiteral_append {offset : Nat} (missing : char ∉ skipped) :
    findLiteral [char] offset (skipped ++ rest) =
      findLiteral [char] (offset + Text.size skipped) rest := by
  induction skipped generalizing offset with
  | nil => rfl
  | cons other skipped ih =>
      rw [List.mem_cons, not_or] at missing
      rw [List.cons_append, findLiteral_cons_of_ne missing.1, ih missing.2, Text.size_cons,
        Nat.add_assoc]

theorem finder_append :
    finder char (before ++ rest) (Text.size before) =
      (findLiteral [char] (Text.size before) rest).map fun start =>
        ⟨start, start + char.utf8Size⟩ := by
  rw [finder, find?, search?, Text.cut?_append]
  cases found : findLiteral [char] (Text.size before) rest <;> simp [found]

/-- A character that stands behind an offset is found where it stands first. -/
theorem finder_found (missing : char ∉ skipped) :
    finder char (before ++ (skipped ++ char :: after)) (Text.size before) =
      some ⟨Text.size before + Text.size skipped,
        Text.size before + Text.size skipped + char.utf8Size⟩ := by
  rw [finder_append, findLiteral_append missing, findLiteral_cons_self, Option.map_some]

theorem finder_missing (missing : char ∉ rest) :
    finder char (before ++ rest) (Text.size before) = none := by
  have passed := @findLiteral_append rest [] char (Text.size before) missing
  rw [List.append_nil] at passed
  rw [finder_append, passed]
  rfl

/-- A search from a boundary on either finds the character or there is none. -/
theorem finder_cases (char : Char) (before rest : Text) :
    (∃ skipped after, rest = skipped ++ char :: after ∧ char ∉ skipped ∧
      finder char (before ++ rest) (Text.size before) =
        some ⟨Text.size before + Text.size skipped,
          Text.size before + Text.size skipped + char.utf8Size⟩) ∨
    (char ∉ rest ∧ finder char (before ++ rest) (Text.size before) = none) := by
  by_cases stands : char ∈ rest
  · rcases List.eq_append_cons_of_mem stands with ⟨skipped, after, rfl, missing⟩
    exact Or.inl ⟨skipped, after, rfl, missing, finder_found missing⟩
  · exact Or.inr ⟨stands, finder_missing stands⟩

/-- A search does not find a character in a part of the text where it does not stand. -/
theorem le_of_finder {span : Span} (missing : char ∉ skipped)
    (found : finder char (before ++ (skipped ++ rest)) (Text.size before) = some span) :
    Text.size before + Text.size skipped ≤ span.start := by
  rw [finder_append, findLiteral_append missing] at found
  rcases Option.map_eq_some_iff.mp found with ⟨start, stands, rfl⟩
  rcases findLiteral_eq_some stands with ⟨between, _, _, reached⟩
  exact Nat.le.intro reached

/-- The searches for a character all go by the same occurrences. -/
theorem steady_finder (char : Char) (text : Text) : (finder char text).Steady text :=
  (searchesLeftmost_literal [char] text).findsLeftmost.steady

end Pattern

/-! ## The end of a region -/

namespace Brackets

open Pattern (finder finder_found finder_missing finder_cases le_of_finder)

/-- Before the first closing, the next opening deepens the nesting. -/
theorem deepens_of_mem {plain more : Text} (noOpening : opening ∉ plain) :
    Balance.deepens
        (finder opening (before ++ (plain ++ opening :: (more ++ closing :: after)))
          (Text.size before))
        ⟨Text.size before + Text.size (plain ++ opening :: more),
          Text.size before + Text.size (plain ++ opening :: more) + closing.utf8Size⟩ =
      some ⟨Text.size before + Text.size plain,
        Text.size before + Text.size plain + opening.utf8Size⟩ := by
  have extent := Char.utf8Size_pos opening
  refine (Balance.deepens_eq_some_iff).mpr ⟨finder_found noOpening, ?_, ?_⟩
  · simp only [Text.size_append, Text.size_cons]
    omega
  · simp only
    omega

/-- An opening after the first closing does not. -/
theorem deepens_of_not_mem (noOpening : opening ∉ skipped) :
    Balance.deepens (finder opening (before ++ (skipped ++ rest)) (Text.size before))
        ⟨Text.size before + Text.size skipped,
          Text.size before + Text.size skipped + closing.utf8Size⟩ = none := by
  apply Option.eq_none_iff_forall_not_mem.mpr
  intro span deeper
  have first := (Balance.deepens_eq_some_iff).mp deeper
  have reached := le_of_finder noOpening first.1
  have earlier := first.2.1
  simp only at earlier
  omega

/-- The scan ends at the closing that balances the brackets before it. -/
theorem scan_eq (distinct : opening ≠ closing) {steps depth : Nat} (enough : rest.length < steps) :
    Balance.scan (before ++ rest) (finder opening (before ++ rest))
        (finder closing (before ++ rest)) steps depth (Text.size before) =
      (inside? opening closing depth rest).map fun inner =>
        Text.size before + Text.size inner := by
  induction steps generalizing before rest depth with
  | zero => cases enough
  | succ steps ih =>
      rcases finder_cases closing before rest with
        ⟨skipped, after, rfl, noClosing, closes⟩ | ⟨noClosing, missing⟩
      · rw [List.length_append, List.length_cons] at enough
        have extent : Text.size before + Text.size skipped + closing.utf8Size ≠
            Text.size before + Text.size skipped := by
          have positive := Char.utf8Size_pos closing
          omega
        by_cases nests : opening ∈ skipped
        · rcases List.eq_append_cons_of_mem nests with ⟨plain, more, rfl, noOpening⟩
          rw [List.append_assoc, List.cons_append] at closes ⊢
          rw [List.length_append, List.length_cons] at enough
          rw [Balance.scan_deeper closes (deepens_of_mem noOpening)]
          have onwards := @ih (before ++ (plain ++ [opening])) (more ++ closing :: after)
            (depth + 1) (by rw [List.length_append, List.length_cons]; omega)
          rw [Text.append_past, Text.size_past] at onwards
          rw [onwards, inside?_append noOpening fun inside =>
            noClosing (List.mem_append_left _ inside), inside?_opening distinct]
          simp [Function.comp_def, Nat.add_assoc]
        · have flat := @deepens_of_not_mem before skipped (closing :: after) opening closing nests
          rw [inside?_append nests noClosing]
          cases depth with
          | zero =>
              rw [Balance.scan_balanced closes flat extent, inside?_closing_zero]
              simp
          | succ depth =>
              rw [Balance.scan_shallower closes flat extent, inside?_closing_succ]
              have onwards := @ih (before ++ (skipped ++ [closing])) after depth (by omega)
              rw [Text.append_past, Text.size_past] at onwards
              rw [onwards]
              simp [Function.comp_def, Nat.add_assoc]
      · rw [Balance.scan_missing missing, inside?_eq_none noClosing]
        rfl

theorem close?_eq (distinct : opening ≠ closing) :
    Balance.close? (before ++ rest) (finder opening (before ++ rest))
        (finder closing (before ++ rest)) (Text.size before) =
      (inside? opening closing 0 rest).map fun inner => Text.size before + Text.size inner := by
  have boundary := Text.isBoundary_append before rest
  rw [Balance.close?, Balance.closeFrom_eq_scan (Pattern.steady_finder opening _)
    (Pattern.steady_finder closing _) boundary (Finder.remembers_search boundary)
    (Finder.remembers_search boundary)]
  have short := Text.length_lt_size_append before rest 0
  exact scan_eq distinct (Nat.lt_of_lt_of_le short (Balance.size_lt_stepLimit (before ++ rest)))

/-! ## The first region -/

/-- Where no opening stands, no region begins. -/
theorem content?_append {head : Text} (missing : opening ∉ head) (present : head ≠ []) :
    content? opening closing (head ++ rest) = none := by
  cases head with
  | nil => exact absurd rfl present
  | cons char head =>
      rw [List.mem_cons, not_or] at missing
      exact content?_of_ne (Ne.symm missing.1)

theorem opens_of_content? {inner : Text} (content : content? opening closing text = some inner) :
    ∃ behind, text = opening :: behind := by
  cases text with
  | nil => cases content
  | cons char behind =>
      by_cases opens : char = opening
      · exact ⟨behind, by rw [opens]⟩
      · rw [content?_of_ne opens] at content
        cases content

theorem first?_content?_append (missing : opening ∉ skipped) :
    Text.first? (content? opening closing) (skipped ++ rest) =
      (Text.first? (content? opening closing) rest).map
        fun found => (skipped ++ found.1, found.2) := by
  refine Text.first?_append fun head tail split present => ?_
  exact content?_append (fun inside => missing (split ▸ List.mem_append_right head inside)) present

/-- A region as a match, by the text before its opening and the text in it. -/
def toMatch (opening : Char) (offset : Nat) (found : Text × Text) : RuleMatch where
  start := offset + Text.size found.1
  contentStart := offset + Text.size found.1 + opening.utf8Size
  stop := offset + Text.size found.1 + opening.utf8Size + Text.size found.2

/-- What is found behind an opening that is passed over. -/
theorem toMatch_past {offset : Nat} {found : Text × Text} :
    toMatch opening offset (skipped ++ opening :: found.1, found.2) =
      toMatch opening (offset + Text.size skipped + opening.utf8Size) found := by
  simp only [toMatch, Text.size_append, Text.size_cons, Nat.add_assoc]

theorem regionFrom_eq (distinct : opening ≠ closing) {steps : Nat} (enough : rest.length < steps) :
    Balance.regionFrom (before ++ rest) (finder opening (before ++ rest))
        (finder opening (before ++ rest)) (finder closing (before ++ rest)) steps
        (Text.size before) =
      (Text.first? (content? opening closing) rest).map fun found =>
        ((toMatch opening (Text.size before) found).start,
          (toMatch opening (Text.size before) found).contentStart,
          (toMatch opening (Text.size before) found).stop) := by
  induction steps generalizing before rest with
  | zero => cases enough
  | succ steps ih =>
      have within : ¬ Text.size (before ++ rest) < Text.size before := by
        rw [Text.size_append]
        omega
      rw [Balance.regionFrom, if_neg within]
      rcases finder_cases opening before rest with
        ⟨skipped, after, rfl, missing, opens⟩ | ⟨missing, nothing⟩
      · rw [List.length_append, List.length_cons] at enough
        have extent : Text.size before + Text.size skipped <
            Text.size before + Text.size skipped + opening.utf8Size :=
          Nat.lt_add_of_pos_right (Char.utf8Size_pos opening)
        have closes := @close?_eq (before ++ (skipped ++ [opening])) after opening closing distinct
        have onwards := @ih (before ++ (skipped ++ [opening])) after (by omega)
        rw [Text.append_past, Text.size_past] at closes onwards
        simp only [opens, Option.bind_eq_bind, Option.bind_some, if_pos extent, closes]
        rw [first?_content?_append missing]
        cases content : inside? opening closing 0 after with
        | some inner =>
            have here : content? opening closing (opening :: after) = some inner :=
              content?_opening.trans content
            rw [Text.first?_of_found here]
            simp [toMatch]
        | none =>
            have here : content? opening closing (opening :: after) = none :=
              content?_opening.trans content
            simp only [Option.map_none, Text.nextBoundary_past, onwards,
              Text.first?_of_missing here, Option.map_map, Function.comp_def, toMatch_past]
      · rw [nothing]
        have passed := @first?_content?_append rest [] opening closing missing
        rw [List.append_nil] at passed
        rw [passed]
        rfl

/-! ## The first region with some text in it -/

/-- A rule for what stands between two characters. -/
def rule (opening closing : Char) : Rule :=
  Rule.balanced (Delimiters.pair (String.singleton opening) (String.singleton closing))

/-- The text of the region that begins a text, unless the region is empty. -/
def filled? (opening closing : Char) (text : Text) : Option Text :=
  (content? opening closing text).filter fun inner => !inner.isEmpty

theorem isEmpty_toMatch {offset : Nat} {inner : Text} :
    (toMatch opening offset (skipped, inner)).isEmpty = inner.isEmpty := by
  rw [Bool.eq_iff_iff, RuleMatch.isEmpty, decide_eq_true_eq, List.isEmpty_iff,
    ← Text.size_eq_zero_iff inner]
  simp only [toMatch]
  omega

theorem findAny?_rule (distinct : opening ≠ closing) :
    (rule opening closing).findAny? (before ++ rest) (Text.size before) =
      (Text.first? (content? opening closing) rest).map (toMatch opening (Text.size before)) := by
  have region := @regionFrom_eq before rest opening closing distinct _
    (Text.length_lt_size_append before rest 1)
  unfold finder at region
  simp only [rule, Rule.balanced, Rule.findAny?, Delimiters.region?, Delimiters.pair, Text.ofString,
    String.toList_singleton, Option.getD_none]
  rw [region]
  cases Text.first? (content? opening closing) rest <;> rfl

theorem filled?_eq_some_iff {inner : Text} :
    filled? opening closing text = some inner ↔
      content? opening closing text = some inner ∧ inner ≠ [] := by
  rw [filled?, Option.filter_eq_some_iff, Bool.not_eq_true', List.isEmpty_eq_false_iff]

theorem filled?_eq_none_iff :
    filled? opening closing text = none ↔
      ∀ inner, content? opening closing text = some inner -> inner = [] := by
  simp only [filled?, Option.filter_eq_none_iff, Bool.not_eq_true', List.isEmpty_iff,
    Bool.not_eq_false]

theorem filled?_of_missing (missing : content? opening closing text = none) :
    filled? opening closing text = none := by
  rw [filled?, missing, Option.filter_none]

theorem first?_filled?_of_none (missing : Text.first? (content? opening closing) rest = none) :
    Text.first? (filled? opening closing) rest = none :=
  (Text.first?_eq_none_iff).mpr fun head tail split =>
    filled?_of_missing ((Text.first?_eq_none_iff).mp missing head tail split)

/-- A search for a region with some text in it goes on behind an empty one. -/
theorem first?_filled?_of_empty
    (empty : Text.first? (content? opening closing) rest = some (skipped, [])) :
    ∃ behind, rest = skipped ++ opening :: behind ∧
      Text.first? (filled? opening closing) rest =
        (Text.first? (filled? opening closing) behind).map fun found =>
          (skipped ++ opening :: found.1, found.2) := by
  rcases (Text.first?_eq_some_iff).mp empty with ⟨later, first⟩
  have nothing : filled? opening closing later = none := by
    refine (filled?_eq_none_iff).mpr fun inner content => ?_
    exact Option.some.inj (content.symm.trans first.found)
  rcases opens_of_content? first.found with ⟨behind, rfl⟩
  refine ⟨behind, first.split, ?_⟩
  rw [first.first?_eq_map fun _ => filled?_of_missing, Text.first?_of_missing nothing,
    Option.map_map]
  rfl

theorem first?_filled?_of_filled {inner : Text} (present : inner ≠ [])
    (found : Text.first? (content? opening closing) rest = some (skipped, inner)) :
    Text.first? (filled? opening closing) rest = some (skipped, inner) := by
  rcases (Text.first?_eq_some_iff).mp found with ⟨later, first⟩
  have here := (filled?_eq_some_iff).mpr ⟨first.found, present⟩
  rw [first.first?_eq_map fun _ => filled?_of_missing, Text.first?_of_found here, Option.map_some,
    List.append_nil]

/-- An empty region is passed over by its opening. -/
theorem firstContent_eq (distinct : opening ≠ closing) {steps : Nat}
    (enough : rest.length < steps) :
    Rule.firstContent (before ++ rest) ((rule opening closing).findAny? (before ++ rest)) steps
        (Text.size before) =
      (Text.first? (filled? opening closing) rest).map (toMatch opening (Text.size before)) := by
  induction steps generalizing before rest with
  | zero => cases enough
  | succ steps ih =>
      rw [Rule.firstContent]
      split
      · rename_i atEnd
        rw [Text.size_append] at atEnd
        rcases (Text.size_eq_zero_iff rest).mp (by omega) with rfl
        rfl
      · rw [findAny?_rule distinct]
        cases found : Text.first? (content? opening closing) rest with
        | none =>
            rw [first?_filled?_of_none found]
            rfl
        | some region =>
            rcases region with ⟨skipped, inner⟩
            simp only [Option.map_some, Option.bind_eq_bind, Option.bind_some, isEmpty_toMatch]
            by_cases blank : inner = []
            · subst blank
              rcases first?_filled?_of_empty found with ⟨behind, rfl, later⟩
              rw [List.length_append, List.length_cons] at enough
              have onwards := @ih (before ++ (skipped ++ [opening])) behind (by omega)
              rw [Text.append_past, Text.size_past] at onwards
              have farther : max (toMatch opening (Text.size before) (skipped, [])).start
                  (Text.size before) = Text.size before + Text.size skipped :=
                Nat.max_eq_left (Nat.le_add_right _ _)
              simp only [if_pos List.isEmpty_nil, farther, Text.nextBoundary_past, onwards, later,
                Option.map_map, Function.comp_def, toMatch_past]
            · rw [first?_filled?_of_filled blank found, if_neg]
              · rfl
              · rwa [List.isEmpty_iff]

theorem find?_eq (distinct : opening ≠ closing) {beyond : Text} :
    (rule opening closing).find? (before ++ rest ++ beyond) (Text.size before)
        (Text.size (before ++ rest)) =
      (Text.first? (filled? opening closing) rest).map (toMatch opening (Text.size before)) := by
  rw [Rule.find?, Rule.findWithin]
  split
  · rename_i atEnd
    rw [Text.size_append] at atEnd
    rcases (Text.size_eq_zero_iff rest).mp (by omega) with rfl
    rfl
  · rw [Text.cut?_append]
    exact firstContent_eq distinct (Text.length_lt_size_append before rest 0)

/-! ## Matching brackets -/

/-- Whether the opening at one offset and the closing at another match, because the text
between them balances. -/
def Matched (opening closing : Char) (text : Text) (start stop : Nat) : Prop :=
  ∃ before inner after, text = before ++ opening :: (inner ++ closing :: after) ∧
    Text.size before = start ∧ start + opening.utf8Size + Text.size inner = stop ∧
    Balanced opening closing 0 inner

/-- Whether a match is the first pair of matching brackets between two offsets that has
some text in it. -/
structure IsFirstFilled (opening closing : Char) (text : Text) (offset limit : Nat)
    (found : RuleMatch) : Prop where
  offset_le : offset ≤ found.start
  stop_lt : found.stop < limit
  matched : Matched opening closing text found.start found.stop
  contentStart_eq : found.contentStart = found.start + opening.utf8Size
  filled : found.contentStart < found.stop
  least : ∀ start stop, offset ≤ start -> start < found.start -> stop < limit ->
    Matched opening closing text start stop -> stop = start + opening.utf8Size

/-- A region lies between matching brackets. -/
theorem matched_of_content? (distinct : opening ≠ closing) {head tail inner beyond : Text}
    (split : rest = head ++ tail) (content : content? opening closing tail = some inner) :
    Matched opening closing (before ++ rest ++ beyond) (Text.size before + Text.size head)
        (Text.size before + Text.size head + opening.utf8Size + Text.size inner) ∧
      Text.size before + Text.size head + opening.utf8Size + Text.size inner <
        Text.size (before ++ rest) := by
  rcases (content?_eq_some_iff distinct).mp content with ⟨balanced, after, rfl⟩
  rcases split with rfl
  have extent := Char.utf8Size_pos closing
  constructor
  · refine ⟨before ++ head, inner, after ++ beyond, ?_, Text.size_append before head, rfl, balanced⟩
    simp only [List.append_assoc, List.cons_append]
  · simp only [Text.size_append, Text.size_cons]
    omega

/-- Matching brackets enclose a region. -/
theorem exists_content?_of_matched (distinct : opening ≠ closing) {beyond : Text}
    {start stop : Nat} (matched : Matched opening closing (before ++ rest ++ beyond) start stop)
    (offset_le : Text.size before ≤ start) (stop_lt : stop < Text.size (before ++ rest)) :
    ∃ head tail inner, rest = head ++ tail ∧ content? opening closing tail = some inner ∧
      start = Text.size before + Text.size head ∧
      stop = start + opening.utf8Size + Text.size inner := by
  rcases matched with ⟨prior, inner, after, whole, rfl, rfl, balanced⟩
  rw [List.append_assoc] at whole
  rcases Text.exists_append_of_size_le whole offset_le with ⟨head, rfl⟩
  rw [List.append_assoc] at whole
  have tails := List.append_cancel_left whole
  have reached : (head ++ opening :: inner) ++ closing :: after = rest ++ beyond := by
    rw [tails, List.append_assoc, List.cons_append]
  simp only [Text.size_append] at stop_lt offset_le ⊢
  rcases Text.exists_append_of_size_le reached
    (by rw [Text.size_append, Text.size_cons]; omega) with ⟨between, rfl⟩
  rw [List.append_assoc _ between] at reached
  cases between with
  | nil =>
      -- the closing would begin at the limit
      rw [List.append_nil, Text.size_append, Text.size_cons] at stop_lt
      omega
  | cons char others =>
      rcases List.cons.inj (List.append_cancel_left reached) with ⟨rfl, _⟩
      refine ⟨head, opening :: (inner ++ closing :: others), inner, ?_, ?_, rfl, rfl⟩
      · rw [List.append_assoc, List.cons_append]
      · exact (content?_eq_some_iff distinct).mpr ⟨balanced, others, rfl⟩

/-- What is found first behind a part of the text is the first pair with some text in
it. -/
theorem isFirstFilled_iff (distinct : opening ≠ closing) {beyond : Text} {found : RuleMatch} :
    IsFirstFilled opening closing (before ++ rest ++ beyond) (Text.size before)
        (Text.size (before ++ rest)) found ↔
      ∃ region, Text.first? (filled? opening closing) rest = some region ∧
        toMatch opening (Text.size before) region = found := by
  constructor
  · rintro ⟨offset_le, stop_lt, matched, contentStart_eq, filled, least⟩
    rcases exists_content?_of_matched distinct matched offset_le stop_lt with
      ⟨head, tail, inner, split, content, starts, stops⟩
    have present : inner ≠ [] := by
      apply (Text.size_pos_iff inner).mp
      omega
    refine ⟨(head, inner), (Text.first?_eq_some_iff).mpr ⟨tail, split,
      (filled?_eq_some_iff).mpr ⟨content, present⟩, ?_⟩, ?_⟩
    · intro earlier others inside nearer
      refine (filled?_eq_none_iff).mpr fun text region => ?_
      rcases @matched_of_content? before rest opening closing distinct earlier others text beyond
        inside region with ⟨pair, within⟩
      have blank := least _ _ (Nat.le_add_right _ _) (by omega) within pair
      exact (Text.size_eq_zero_iff text).mp (by omega)
    · cases found
      simp only [toMatch, RuleMatch.mk.injEq] at starts stops contentStart_eq ⊢
      omega
  · rintro ⟨⟨skipped, inner⟩, searched, rfl⟩
    rcases (Text.first?_eq_some_iff).mp searched with ⟨tail, split, filled, missing⟩
    rcases (filled?_eq_some_iff).mp filled with ⟨content, present⟩
    rcases @matched_of_content? before rest opening closing distinct skipped tail inner beyond
      split content with ⟨pair, within⟩
    refine ⟨Nat.le_add_right _ _, within, pair, rfl, ?_, ?_⟩
    · have extent := (Text.size_pos_iff inner).mpr present
      simp only [toMatch]
      omega
    · intro start stop offset_le earlier stop_lt matched
      rcases exists_content?_of_matched distinct matched offset_le stop_lt with
        ⟨head, others, text, inside, region, rfl, rfl⟩
      have nothing := missing head others inside (Nat.lt_of_add_lt_add_left earlier)
      rw [(filled?_eq_none_iff).mp nothing text region, Text.size_nil, Nat.add_zero]

variable {offset limit : Nat}

theorem find?_eq_some_iff (distinct : opening ≠ closing) (ordered : offset ≤ limit)
    (first : Text.isBoundary text offset = true) (last : Text.isBoundary text limit = true)
    {found : RuleMatch} :
    (rule opening closing).find? text offset limit = some found ↔
      IsFirstFilled opening closing text offset limit found := by
  rcases Text.exists_parts ordered first last with ⟨before, rest, beyond, rfl, rfl, rfl⟩
  rw [find?_eq distinct, isFirstFilled_iff distinct, Option.map_eq_some_iff]

theorem find?_eq_none_iff (distinct : opening ≠ closing) (ordered : offset ≤ limit)
    (first : Text.isBoundary text offset = true) (last : Text.isBoundary text limit = true) :
    (rule opening closing).find? text offset limit = none ↔
      ∀ start stop, offset ≤ start -> stop < limit -> Matched opening closing text start stop ->
        stop = start + opening.utf8Size := by
  rcases Text.exists_parts ordered first last with ⟨before, rest, beyond, rfl, rfl, rfl⟩
  rw [find?_eq distinct, Option.map_eq_none_iff, Text.first?_eq_none_iff]
  constructor
  · intro missing start stop offset_le stop_lt matched
    rcases exists_content?_of_matched distinct matched offset_le stop_lt with
      ⟨head, tail, inner, split, content, rfl, rfl⟩
    rw [(filled?_eq_none_iff).mp (missing head tail split) inner content, Text.size_nil,
      Nat.add_zero]
  · intro blank head tail split
    refine (filled?_eq_none_iff).mpr fun inner content => ?_
    rcases @matched_of_content? before rest opening closing distinct head tail inner beyond
      split content with ⟨pair, within⟩
    have same := blank _ _ (Nat.le_add_right _ _) within pair
    exact (Text.size_eq_zero_iff inner).mp (by omega)

/-- The rule for what stands between two different characters goes by matching brackets
alone.  It reports the first pair with some text in it, and nothing if there is no such
pair.  Openings without a match are passed over, and a well-nested text is reported as a
whole. -/
theorem find?_rule (distinct : opening ≠ closing) (ordered : offset ≤ limit)
    (first : Text.isBoundary text offset = true) (last : Text.isBoundary text limit = true) :
    (∀ found, (rule opening closing).find? text offset limit = some found ↔
        IsFirstFilled opening closing text offset limit found) ∧
      ((rule opening closing).find? text offset limit = none ↔
        ∀ start stop, offset ≤ start -> stop < limit ->
          Matched opening closing text start stop -> stop = start + opening.utf8Size) ∧
      (∀ later, offset ≤ later -> later ≤ limit -> Text.isBoundary text later = true ->
        (∀ start stop, offset ≤ start -> start < later -> stop < limit ->
          ¬ Matched opening closing text start stop) ->
        (rule opening closing).find? text offset limit =
          (rule opening closing).find? text later limit) ∧
      ∀ before inner after, text = before ++ opening :: (inner ++ closing :: after) ->
        Text.size before = offset -> WellNested opening closing inner -> inner ≠ [] ->
        offset + opening.utf8Size + Text.size inner < limit ->
        (rule opening closing).find? text offset limit =
          some ⟨offset, offset + opening.utf8Size,
            offset + opening.utf8Size + Text.size inner⟩ := by
  refine ⟨fun found => find?_eq_some_iff distinct ordered first last,
    find?_eq_none_iff distinct ordered first last, ?_, ?_⟩
  · intro later behind within boundary unmatched
    apply Option.ext
    intro found
    rw [find?_eq_some_iff distinct ordered first last,
      find?_eq_some_iff distinct within boundary last]
    constructor
    · intro filled
      have reached : later ≤ found.start := by
        apply Nat.le_of_not_lt
        intro before
        exact unmatched _ _ filled.offset_le before filled.stop_lt filled.matched
      exact { filled with
        offset_le := reached
        least := fun start stop ahead => filled.least start stop (Nat.le_trans behind ahead) }
    · intro filled
      refine { filled with
        offset_le := Nat.le_trans behind filled.offset_le
        least := fun start stop ahead nearer inside matched => ?_ }
      by_cases before : start < later
      · exact absurd matched (unmatched start stop ahead before inside)
      · exact filled.least start stop (Nat.le_of_not_lt before) nearer inside matched
  · rintro before inner after whole starts nested present within
    refine (find?_eq_some_iff distinct ordered first last).mpr ?_
    have extent := (Text.size_pos_iff inner).mpr present
    exact {
      offset_le := Nat.le_refl _
      stop_lt := within
      matched := ⟨before, inner, after, whole, starts, rfl, (wellNested_iff distinct).mp nested⟩
      contentStart_eq := rfl
      filled := Nat.lt_add_of_pos_right extent
      least := fun start stop ahead nearer => absurd nearer (Nat.not_lt_of_le ahead) }

/-- The first opening here has no match, and the second one has pairs inside. -/
theorem find?_rule_nested :
    '(' ≠ ')' ∧ 0 ≤ 9 ∧ Text.isBoundary (Text.ofString "((a(b)())") 0 = true ∧
      Text.isBoundary (Text.ofString "((a(b)())") 9 = true ∧
      (rule '(' ')').find? (Text.ofString "((a(b)())") 0 9 = some ⟨1, 2, 8⟩ ∧
      IsFirstFilled '(' ')' (Text.ofString "((a(b)())") 0 9 ⟨1, 2, 8⟩ := by
  have found : (rule '(' ')').find? (Text.ofString "((a(b)())") 0 9 = some ⟨1, 2, 8⟩ := by
    decide
  exact ⟨by decide, by decide, by decide, by decide, found,
    ((find?_rule (by decide) (by decide) (by decide) (by decide)).1 ⟨1, 2, 8⟩).mp found⟩

end Brackets
end FencedHighlight
