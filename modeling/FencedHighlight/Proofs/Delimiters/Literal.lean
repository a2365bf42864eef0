import FencedHighlight.Proofs.Delimiters.Lookahead
import FencedHighlight.Proofs.Pattern.Reading
import FencedHighlight.Proofs.Pattern.Settled

namespace FencedHighlight

/-!
Delimiters that stand for themselves.

A text stands for itself in a pattern if it is escaped: the pattern is read as the row of its
characters, whatever they are, and its search is settled as a whole.  It reports the first place
where the text stands, as the search for a literal does.  So literal delimiters are as good as
compiled ones, and those can be made unless the program is too large.
-/

namespace Pattern

open Machine (Hay MatchesAs Settled ended settled_ended settled_stuck settled_take)
open Delimiters (escape)
open Text (stretch)

/-- The tree of a pattern that is a text in which all characters stand for themselves. -/
def exactTree (word : Text) : Tree :=
  Tree.sequence (word.map fun char => .one (.single char) 0)

/-- The search for such a text. -/
def exactProgram (word : Text) : Program :=
  Program.search true 0 (Tree.group 0 (exactTree word)).compile

theorem exactTree_cons (char : Char) {word : Text} (filled : word ≠ []) :
    exactTree (char :: word) = .seq (.one (.single char) 0) (exactTree word) :=
  Tree.sequence_cons _ fun none => filled (List.map_eq_nil_iff.mp none)

theorem plain_exactTree (word : Text) : Tree.Plain true (exactTree word) := by
  refine Tree.plain_sequence fun tree member => ?_
  rcases List.mem_map.mp member with ⟨char, _, rfl⟩
  exact .one _ 0

/-! ## Compiling an escaped text -/

theorem isRegular_exactTree (word : Text) : (exactTree word).isRegular [] = true := by
  induction word with
  | nil => rfl
  | cons char word ih =>
      by_cases last : word = []
      · rw [last]
        rfl
      · rw [exactTree_cons char last, Tree.isRegular, ih]
        rfl

theorem footprint_exactTree (word : Text) :
    (exactTree word).footprint CharClass.ampleFootprint ≤ 32 * Text.size word + 32 ∧
      (exactTree word).nesting .laterPiece = 0 ∧ (exactTree word).hasFairBounds = true := by
  induction word with
  | nil => exact ⟨Nat.le_refl 32, rfl, rfl⟩
  | cons char word ih =>
      by_cases last : word = []
      · rw [last, Text.size_cons, Text.size_nil]
        refine ⟨?_, rfl, rfl⟩
        exact Nat.le_add_right (32 * char.utf8Size) 32
      · rw [exactTree_cons char last]
        refine ⟨?_, ?_, ?_⟩
        · rw [Tree.footprint, Tree.footprint, CharClass.ampleFootprint, Text.size_cons]
          omega
        · simp only [Tree.nesting, ih.2.1, Nat.max_self]
        · rw [Tree.hasFairBounds, ih.2.2]
          rfl

theorem isAdmissible_exactTree {word : Text}
    (short : 32 * Text.size word + 96 ≤ Tree.largestFootprint) :
    (Tree.group 0 (exactTree word)).isAdmissible .group = true := by
  have spec := footprint_exactTree word
  have nested : (exactTree word).nesting .group ≤ 1 := by
    cases word with
    | nil => exact Nat.zero_le 1
    | cons char word =>
        by_cases last : word = []
        · rw [last]
          exact Nat.zero_le 1
        · have inner := spec.2.1
          rw [exactTree_cons char last] at inner ⊢
          simp only [Tree.nesting] at inner ⊢
          omega
  have low : (exactTree word).nesting .group + 1 ≤ Tree.deepestWriting :=
    Nat.le_trans (Nat.succ_le_succ nested) (by decide)
  have within : (exactTree word).footprint CharClass.ampleFootprint + 64 ≤
      Tree.largestFootprint := by omega
  rw [Tree.isAdmissible, Tree.hasFairBounds, spec.2.2, Tree.nesting, decide_eq_true low,
    Tree.footprint, decide_eq_true within]
  rfl

/-- An escaped text compiles to the search for it, unless that is too large. -/
theorem compile_escape (text : String) :
    Pattern.compile (escape text) =
      if (Tree.group 0 (exactTree text.toList)).isAdmissible .group then
        .ok (.compiled (escape text) (exactProgram text.toList))
      else
        .error (.invalidPattern (escape text)) := by
  have plain := plain_exactTree text.toList
  have made : Program.ofTree? (exactTree text.toList) 0 [] =
      if (Tree.group 0 (exactTree text.toList)).isAdmissible .group then
        some (exactProgram text.toList)
      else
        none := by
    rw [Program.ofTree?, Program.matchTree, plain.splitLookAhead?]
    simp only [Tree.isRegular, isRegular_exactTree, List.contains_nil, Bool.not_false,
      Bool.and_true, if_true]
    rw [Tree.compileRegular_eq_compile (.group 0 plain)]
    rfl
  have source : Reader.read (Text.ofString (escape text)) = .ok ⟨exactTree text.toList, 0, []⟩ :=
    Reader.read_escape text
  rw [Pattern.compile, source]
  simp only [made]
  by_cases fits : (Tree.group 0 (exactTree text.toList)).isAdmissible .group = true
  · simp only [if_pos fits]
  · simp only [if_neg fits]

/-! ## Searching for it -/

/-- A word, if a text begins with it. -/
def prefix? (word text : Text) : Option Text :=
  if word.isPrefixOf text then some word else none

theorem begins_of_prefix? {word text part : Text} (found : prefix? word text = some part) :
    ∃ after, text = part ++ after := by
  rcases Option.ite_none_right_eq_some.mp found with ⟨stands, same⟩
  rcases Option.some.inj same with rfl
  rcases List.isPrefixOf_iff_prefix.mp stands with ⟨after, split⟩
  exact ⟨after, split.symm⟩

theorem settled_exact {code : Array Instruction} {hay : Hay} {slots : Machine.Slots}
    {word before rest : Text} {entry finish : Nat} (split : hay.chars.toList = before ++ rest)
    (marks : code[finish]? = some (.mark 1 0)) (accepts : code[0]? = some .accept)
    (stands : Tree.StandsAll code (word.map fun char => .one (.single char) 0) entry finish) :
    Settled code hay ⟨entry, before.length, slots, []⟩
      (if word.isPrefixOf rest then some (ended slots (before.length + word.length))
        else none) := by
  induction word generalizing entry before rest with
  | nil =>
      cases stands
      exact settled_ended slots marks accepts before.length
  | cons char word ih =>
      rcases stands with ⟨middle, letter, others⟩
      cases letter with
      | one here =>
      cases rest with
      | nil => exact settled_stuck here split Bool.false_ne_true
      | cons other rest =>
          have onwards := ih (split.trans (List.append_cons before other rest)) others
          rw [List.length_append, List.length_singleton, Nat.add_assoc, Nat.add_comm 1] at onwards
          have taken := settled_take here split onwards
          have belongs : ((CharClass.single char).contains other = true) = (char = other) := by
            rw [CharClass.contains, beq_iff_eq, eq_comm]
          simp only [List.head?_cons, Option.any_some, belongs] at taken
          rw [List.isPrefixOf_cons_cons, List.length_cons]
          by_cases same : char = other
          · rw [if_pos same] at taken
            rw [same, beq_self_eq_true, Bool.true_and]
            exact taken
          · rw [if_neg same] at taken
            rw [beq_false_of_ne same, Bool.false_and]
            exact taken

theorem matchesAs_exactTree (code : Array Instruction) (hay : Hay) (word : Text) :
    MatchesAs code hay (exactTree word) (prefix? word) := by
  intro before rest entry finish slots split marks accepts stands
  have settled := @settled_exact code hay slots word before rest _ _ split marks accepts stands.all
  rw [prefix?]
  split
  · rename_i stands
    rwa [if_pos stands] at settled
  · rename_i missing
    rwa [if_neg missing] at settled

theorem find?_exactProgram (source : String) (word before rest : Text) :
    (compiled source (exactProgram word)).find? (before ++ rest) (Text.size before) =
      (Text.first? (prefix? word) rest).map (stretch (Text.size before)) :=
  find?_of_matchesAs (.group 0 (plain_exactTree word)) (fun _ _ => begins_of_prefix?)
    (fun hay => matchesAs_exactTree _ hay word) source before rest

theorem findLiteral_eq_first? (word rest : Text) (offset : Nat) :
    (findLiteral word offset rest).map (fun place => (⟨place, place + Text.size word⟩ : Span)) =
      (Text.first? (prefix? word) rest).map (stretch offset) := by
  induction rest generalizing offset with
  | nil =>
      cases word with
      | nil => rfl
      | cons char word => rfl
  | cons char rest ih =>
      rw [findLiteral]
      by_cases stands : word.isPrefixOf (char :: rest) = true
      · have found : prefix? word (char :: rest) = some word := if_pos stands
        rw [if_pos stands, Text.first?_of_found found]
        rfl
      · have missing : prefix? word (char :: rest) = none := if_neg stands
        rw [if_neg stands, Text.first?_of_missing missing, ih, Option.map_map]
        exact congrArg (Option.map · _) (funext fun found => Text.stretch_cons offset char found)

theorem find?_literal (word before rest : Text) :
    (literal word).find? (before ++ rest) (Text.size before) =
      (Text.first? (prefix? word) rest).map (stretch (Text.size before)) := by
  rw [← findLiteral_eq_first?, find?, search?, Text.cut?_append]
  cases found : findLiteral word (Text.size before) rest <;> simp [found]

/-- The search for an escaped text is the search for the text as a literal. -/
theorem find?_escape {text : String} {pattern : Pattern}
    (made : Pattern.compile (escape text) = .ok pattern) {hay : Text} {offset : Nat}
    (boundary : Text.isBoundary hay offset = true) :
    pattern.find? hay offset = (literal (Text.ofString text)).find? hay offset := by
  rcases (Text.isBoundary_iff).mp boundary with ⟨before, rest, rfl, rfl⟩
  rw [compile_escape] at made
  split at made
  · rcases Except.ok.inj made with rfl
    exact (find?_exactProgram _ _ before rest).trans (find?_literal _ before rest).symm
  · cases made

end Pattern

namespace Balance

variable {text : Text}

/-- Whether two searches report the same from every boundary of a text on. -/
def AgreeAt (text : Text) (finder other : Finder) : Prop :=
  ∀ offset, Text.isBoundary text offset = true -> finder offset = other offset

variable {opener opens deeper deepens closer closes : Finder} {steps depth offset : Nat}

/-- Searches that agree with steady ones are as steady, if what they report lies between
boundaries. -/
theorem AgreeAt.steady (agree : AgreeAt text opener opens) (steady : opener.Steady text)
    (ends : ∀ {offset span}, opens offset = some span -> Text.isBoundary text span.start = true ∧
      Text.isBoundary text span.stop = true ∧ span.start ≤ span.stop) : opens.Steady text where
  ahead := fun boundary found => steady.ahead boundary ((agree _ boundary).trans found)
  ends := ends
  stays := fun boundary later ordered found reached => (agree _ later).symm.trans
    (steady.stays boundary later ordered ((agree _ boundary).trans found) reached)
  stays_none := fun boundary later ordered nothing => (agree _ later).symm.trans
    (steady.stays_none boundary later ordered ((agree _ boundary).trans nothing))

theorem scan_congr (opened : AgreeAt text opener opens) (closed : AgreeAt text closer closes)
    (steady : opener.Steady text) (surely : closer.Steady text)
    (boundary : Text.isBoundary text offset = true) :
    scan text opener closer steps depth offset = scan text opens closes steps depth offset := by
  induction steps generalizing depth offset with
  | zero => rfl
  | succ steps ih =>
      rw [scan, scan, ← opened offset boundary, ← closed offset boundary]
      refine Option.bind_congr fun closing found => ?_
      have ends := surely.ends found
      cases deeper : deepens (opener offset) closing with
      | some opening =>
          exact ih (steady.ends ((deepens_eq_some_iff).mp deeper).1).2.1
      | none =>
          simp only
          split
          · split
            · rfl
            · rename_i inside
              exact ih (Text.isBoundary_nextBoundary (Nat.lt_of_not_le inside))
          · cases depth with
            | zero => rfl
            | succ depth => exact ih ends.2.1

/-- Searches that agree find the same end of a region. -/
theorem close?_congr (opened : AgreeAt text opener opens) (closed : AgreeAt text closer closes)
    (steady : opener.Steady text) (surely : closer.Steady text) (other : opens.Steady text)
    (also : closes.Steady text) (boundary : Text.isBoundary text offset = true) :
    close? text opener closer offset = close? text opens closes offset := by
  have remembers := fun {finder : Finder} => @Finder.remembers_search text finder offset boundary
  rw [close?, close?, closeFrom_eq_scan steady surely boundary remembers remembers,
    closeFrom_eq_scan other also boundary remembers remembers,
    scan_congr opened closed steady surely boundary]

/-- Searches for the delimiters that agree come to the same region. -/
theorem regionFrom_congr (opened : AgreeAt text opener opens)
    (steady : opener.Steady text)
    (same : ∀ offset, Text.isBoundary text offset = true ->
      close? text deeper closer offset = close? text deepens closes offset)
    (boundary : Text.isBoundary text offset = true ∨ Text.size text < offset) :
    regionFrom text opener deeper closer steps offset =
      regionFrom text opens deepens closes steps offset := by
  induction steps generalizing offset with
  | zero => rfl
  | succ steps ih =>
      rw [regionFrom, regionFrom]
      split
      · rfl
      · rename_i inside
        have place := boundary.resolve_right inside
        rw [← opened offset place]
        refine Option.bind_congr fun opening found => ?_
        rw [same _ (steady.ends found).2.1, ih (Text.nextBoundary_cases text opening.start)]

end Balance

namespace Delimiters

/-- Delimiters for texts that stand for themselves can be made, unless a text is too long. -/
theorem exists_compile_escape {opening closing : String}
    (first : 32 * Text.size opening.toList + 96 ≤ Pattern.Tree.largestFootprint)
    (last : 32 * Text.size closing.toList + 96 ≤ Pattern.Tree.largestFootprint) :
    ∃ delimiters, compile (escape opening) (escape closing) = .ok delimiters := by
  rw [compile, Pattern.compile_escape, if_pos (Pattern.isAdmissible_exactTree first),
    Pattern.compile_escape, if_pos (Pattern.isAdmissible_exactTree last)]
  exact ⟨_, rfl⟩

/-- Delimiters that are compiled from escaped texts have the regions of the delimiters that
stand for themselves. -/
theorem region?_compile_escape {opening closing : String} {delimiters : Delimiters}
    (made : compile (escape opening) (escape closing) = .ok delimiters) {text : Text}
    {offset : Nat} (boundary : Text.isBoundary text offset = true) :
    delimiters.region? text offset = (pair opening closing).region? text offset := by
  rcases HighlightError.ok_of_bind made with ⟨first, opens, rest⟩
  rcases HighlightError.ok_of_bind rest with ⟨last, closes, result⟩
  rcases Except.ok.inj result with rfl
  have agree {word : String} {pattern : Pattern}
      (compiled : Pattern.compile (escape word) = .ok pattern) :
      Balance.AgreeAt text ((Pattern.literal (Text.ofString word)).find? text)
        (pattern.find? text) :=
    fun _ place => (Pattern.find?_escape compiled place).symm
  have steady (word : String) :
      Finder.Steady text ((Pattern.literal (Text.ofString word)).find? text) :=
    (Pattern.searchesLeftmost_literal (Text.ofString word) text).findsLeftmost.steady
  have also {word : String} {pattern : Pattern}
      (compiled : Pattern.compile (escape word) = .ok pattern) :
      Finder.Steady text (pattern.find? text) :=
    (agree compiled).steady (steady word) Pattern.span_of_find?
  refine (Balance.regionFrom_congr (agree opens) (steady opening) (fun _ place => ?_)
    (Or.inl boundary)).symm
  exact Balance.close?_congr (agree opens) (agree closes) (steady opening) (steady closing)
    (also opens) (also closes) place

end Delimiters

end FencedHighlight
