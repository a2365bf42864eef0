import FencedHighlight.Proofs.Delimiters.Enclosure
import FencedHighlight.Proofs.Element.Search

namespace FencedHighlight
namespace Element

/-!
Regions between the tags of an element.

What the delimiters of an element take for an opening tag, be it of a region or inside one,
passes for a tag of the element.  If just the tags of the element do so in a text, the first
region is the one between the first tags of it that balance.  Otherwise tags count whose name
only begins with that of the element: they open regions, and they keep others open.
-/

open Pattern
open Balance (Recognises FindsFirst FindsMarks Encloses IsRegion IsFirstRegion AgreeIn)

variable {name text : Text}

theorem recognises_passing (named : IsName name) : Recognises (passing? name) (Passes name) where
  filled := by
    rintro ⟨⟨inside, split, _⟩, _⟩
    cases split
  iff := passing?_eq_some_iff named

theorem recognises_closing (name : Text) : Recognises (closing? name) (Closes name) where
  filled := by
    rintro ⟨spelled, blanks, split, _⟩
    cases split
  iff := closing?_eq_some_iff

/-- Where a closing tag begins there is no opening one: no name begins with a slash. -/
theorem passing_or_closing_eq_none (named : IsName name) (text : Text) :
    passing? name text = none ∨ closing? name text = none := by
  refine Classical.or_iff_not_imp_left.mpr fun passes => ?_
  rcases Option.ne_none_iff_exists'.mp passes with ⟨tag, found⟩
  rcases (passing?_eq_some_iff named).mp found with
    ⟨⟨_, spelled, next, rest, rfl, spells, _⟩, after, rfl⟩
  refine (recognises_closing name).eq_none_iff.mpr fun mark later split closes => ?_
  rcases closes with ⟨other, blanks, rfl, _, _⟩
  have slash := (List.cons.inj split).2
  cases spells with
  | nil =>
      have begins := named.begins
      cases begins
  | cons same others =>
      have first := (List.cons.inj slash).1
      have open' := (spec_of_sameUpToCase (named.chars _ List.mem_cons_self) same).1
      rw [first] at open'
      cases open'

theorem closes_of_spells {spelled : Text} (spells : Spells name spelled) :
    Closes name ('<' :: '/' :: spelled ++ ['>']) :=
  ⟨spelled, [], by rw [List.append_nil], spells, List.forall_mem_nil _⟩

/-- Tags begin with an opening bracket. -/
theorem unmarked {char : Char} {rest tag after : Text} (different : char ≠ '<')
    (split : char :: rest = tag ++ after) : ¬IsOpening tag ∧ ¬Closes name tag := by
  constructor
  · rintro ⟨inside, rfl, _⟩
    exact different (List.cons.inj split).1
  · rintro ⟨spelled, blanks, rfl, _⟩
    exact different (List.cons.inj split).1

section

variable {name : String} {delimiters : Delimiters} (named : IsName name.toList)
  (made : Delimiters.ofTag name = .ok delimiters)

include named made

/-- A search for an opening tag takes what passes for one. -/
theorem passes_of_find? {offset : Nat} {span : Span} (boundary : Text.isBoundary text offset = true)
    (found : delimiters.opening.find? text offset = some span) :
    ∃ tag, Text.slice? text span.start span.stop = some tag ∧ Passes name.toList tag := by
  rcases programs_of_ofTag made with ⟨source, _, rfl⟩
  rcases (Text.isBoundary_iff).mp boundary with ⟨before, rest, rfl, rfl⟩
  rcases (find?_opening named source before rest).1 with nothing | first
  · rw [nothing] at found
    cases found
  · rw [first] at found
    rcases Option.map_eq_some_iff.mp found with ⟨⟨skipped, tag⟩, isFirst, rfl⟩
    rcases (Text.first?_eq_some_iff).mp isFirst with ⟨later, leads⟩
    rcases (passing?_eq_some_iff named).mp leads.found with ⟨passes, after, split⟩
    refine ⟨tag, (Text.slice?_eq_some_iff).mpr ⟨before ++ skipped, after, ?_, ?_, ?_⟩, passes⟩
    · rw [leads.split, split]
      simp only [List.append_assoc]
    · exact Text.size_append before skipped
    · rfl

/-- Within the limit on retreats the delimiters find the tags that pass. -/
theorem findsMarks_ofTag (low : labour name.toList text ≤ Machine.retreatLimit) :
    FindsMarks (passing? name.toList) (closing? name.toList) (Passes name.toList)
      (Closes name.toList) text (delimiters.opening.find? text) (delimiters.closing.find? text) := by
  rcases programs_of_ofTag made with ⟨source, other, rfl⟩
  have openings : FindsFirst (passing? name.toList) text
      ((compiled source (openingProgram name.toList)).find? text) := by
    rintro before rest rfl
    exact (find?_opening named source before rest).2
      (Nat.le_trans (labour_le_append name.toList before rest) low)
  have closings : FindsFirst (closing? name.toList) text
      ((compiled other (closingProgram name.toList)).find? text) := by
    rintro before rest rfl
    exact find?_closing named other before rest
  have leftmost {finder : Finder} (finds : Text.SearchesLeftmost text Span.start finder)
      (ends : ∀ {offset span}, finder offset = some span -> Text.isBoundary text span.start = true ∧
        Text.isBoundary text span.stop = true ∧ span.start ≤ span.stop) : finder.Steady text :=
    Finder.FindsLeftmost.steady ⟨finds, ends⟩
  exact
    { opening := recognises_passing named
      closing := recognises_closing name.toList
      apart := passing_or_closing_eq_none named
      openings
      closings
      steadyOpener := leftmost openings.searchesLeftmost span_of_find?
      steadyCloser := leftmost closings.searchesLeftmost span_of_find? }

/-- The region that the delimiters report is the first one between tags that pass. -/
theorem region?_eq_some_iff_passes (low : labour name.toList text ≤ Machine.retreatLimit)
    {offset start inner stop : Nat} (boundary : Text.isBoundary text offset = true) :
    delimiters.region? text offset = some (start, inner, stop) ↔
      IsFirstRegion (Passes name.toList) (Closes name.toList) text offset start inner stop := by
  have marks := findsMarks_ofTag named made low
  rcases programs_of_ofTag made with ⟨source, other, rfl⟩
  exact Balance.regionFrom_eq_some_iff marks boundary (by omega)

end

/-! ## Texts in which no tag is mistaken -/

/-- The tag of another element that passes for one of the element at the beginning of a text. -/
def misleading? (name text : Text) : Option Text :=
  (passing? name text).filter fun tag => !decide (Spells name (nameOf tag))

theorem misleading?_eq_some_iff (named : IsName name) {tag : Text} :
    misleading? name text = some tag ↔ Misleads name tag ∧ ∃ after, text = tag ++ after := by
  rw [misleading?, Option.filter_eq_some_iff, passing?_eq_some_iff named, Bool.not_eq_true',
    decide_eq_false_iff_not]
  constructor
  · rintro ⟨⟨passes, parts⟩, other⟩
    exact ⟨⟨passes, fun opens => other opens.2⟩, parts⟩
  · rintro ⟨⟨passes, other⟩, parts⟩
    exact ⟨⟨passes, parts⟩, fun spells => other ⟨passes.1, spells⟩⟩

/-- Unless the name ends in a hyphen, just the tags of the element pass where none misleads. -/
theorem agreeIn_iff (named : IsName name) (bare : name.getLast? ≠ some '-') :
    AgreeIn text (Passes name) (Opens name) ↔ Text.first? (misleading? name) text = none := by
  rw [Text.first?_eq_none_iff]
  constructor
  · intro agree before rest split
    refine Option.eq_none_iff_forall_ne_some.mpr fun tag found => ?_
    rcases (misleading?_eq_some_iff named).mp found with ⟨⟨passes, other⟩, after, rfl⟩
    exact other ((agree before tag after (by rw [split, List.append_assoc])).mp passes)
  · intro missing before tag after split
    refine ⟨fun passes => ?_, passes_of_opens named bare⟩
    refine Classical.not_not.mp fun other => ?_
    have found := (misleading?_eq_some_iff named).mpr ⟨⟨passes, other⟩, after, rfl⟩
    rw [missing before (tag ++ after) (by rw [split, List.append_assoc])] at found
    cases found

/-- What the delimiters of an element take for an opening tag, of a region or inside one, passes
for one.  It belongs to the element exactly if the character behind the name in it ends the name.
In a text where just the tags of the element pass, nothing else is taken, and within the limit on
retreats the region from an offset on is the first one between tags of the element that balance. -/
theorem exact_ofTag {name : String} {delimiters : Delimiters} (named : IsName name.toList)
    (made : Delimiters.ofTag name = .ok delimiters) (text : Text) :
    delimiters.nested = none ∧
    (∀ offset span, Text.isBoundary text offset = true ->
      delimiters.opening.find? text offset = some span ->
      ∃ tag, Text.slice? text span.start span.stop = some tag ∧ Passes name.toList tag ∧
        (Opens name.toList tag ↔ ∃ spelled next rest, tag = '<' :: spelled ++ next :: rest ∧
          Spells name.toList spelled ∧ endsName next = true)) ∧
    (AgreeIn text (Passes name.toList) (Opens name.toList) ->
      (∀ offset span, Text.isBoundary text offset = true ->
        delimiters.opening.find? text offset = some span ->
        ∃ tag, Text.slice? text span.start span.stop = some tag ∧ Opens name.toList tag) ∧
      (labour name.toList text ≤ Machine.retreatLimit ->
        ∀ offset start inner stop, Text.isBoundary text offset = true ->
          (delimiters.region? text offset = some (start, inner, stop) ↔
            IsFirstRegion (Opens name.toList) (Closes name.toList) text offset start inner stop))) := by
  refine ⟨?_, ?_, fun agree => ⟨?_, ?_⟩⟩
  · rcases programs_of_ofTag made with ⟨_, _, rfl⟩
    rfl
  · intro offset span boundary found
    rcases passes_of_find? named made boundary found with ⟨tag, covers, passes⟩
    exact ⟨tag, covers, passes, opens_iff_of_isOpening named passes.1⟩
  · intro offset span boundary found
    rcases passes_of_find? named made boundary found with ⟨tag, covers, passes⟩
    rcases (Text.slice?_eq_some_iff).mp covers with ⟨before, after, split, _⟩
    exact ⟨tag, covers, (agree before tag after split).mp passes⟩
  · intro low offset start inner stop boundary
    exact (region?_eq_some_iff_passes named made low boundary).trans
      (Balance.isFirstRegion_congr agree)

/-- An element between tags of the same name, spelled in another case and with an attribute. -/
theorem exact_ofTag_nested :
    ∃ delimiters, Delimiters.ofTag "a" = .ok delimiters ∧
      IsName "a".toList ∧
      AgreeIn "<a><A x>y</a></a>".toList (Passes "a".toList) (Opens "a".toList) ∧
      labour "a".toList "<a><A x>y</a></a>".toList ≤ Machine.retreatLimit ∧
      delimiters.region? "<a><A x>y</a></a>".toList 0 = some (0, 3, 13) := by
  rcases @exists_ofTag "a" (by decide) with ⟨delimiters, made⟩
  have named : IsName "a".toList := by decide +kernel
  have agree := (@agreeIn_iff "a".toList "<a><A x>y</a></a>".toList named (by decide)).mpr
    (by decide +kernel)
  have low : labour "a".toList "<a><A x>y</a></a>".toList ≤ Machine.retreatLimit :=
    Nat.le_trans (labour_le _ _) (by decide)
  have outer : Opens "a".toList "<a>".toList :=
    ⟨⟨['a'], rfl, by decide, by decide⟩, by decide +kernel⟩
  have inner : Opens "a".toList "<A x>".toList :=
    ⟨⟨"A x".toList, rfl, by decide, by decide⟩, by decide +kernel⟩
  have last : Closes "a".toList "</a>".toList := @closes_of_spells _ ['a'] (by decide +kernel)
  have encloses : Encloses (Opens "a".toList) (Closes "a".toList) 0 "<A x>y</a>".toList
      "<A x>y</a></a>".toList := by
    refine @Encloses.deeper _ _ 0 "<A x>".toList _ _ inner (.skip (fun mark after split => ?_)
      (@Encloses.shallower _ _ 0 "</a>".toList _ _ last (@Encloses.ends _ _ "</a>".toList [] last)))
    have free := @unmarked "a".toList 'y' _ mark after (by decide) split
    exact ⟨fun opens => free.1 opens.1, free.2⟩
  refine ⟨delimiters, made, named, agree, low, ?_⟩
  refine (((exact_ofTag named made "<a><A x>y</a></a>".toList).2.2 agree).2 low 0 0 3 13 rfl).mpr ?_
  exact ⟨⟨[], "<a>".toList, "<A x>y</a>".toList, "</a>".toList, rfl, outer, encloses, rfl, rfl, rfl⟩,
    Nat.le_refl 0, fun _ _ => Nat.zero_le _⟩

/-- The tag of an element whose name goes on with a hyphen opens a region. -/
theorem region?_ofTag_hyphen :
    ∃ delimiters, Delimiters.ofTag "a" = .ok delimiters ∧
      delimiters.opening.find? "<a-b>x</a>".toList 0 = some ⟨0, 5⟩ ∧
      Text.slice? "<a-b>x</a>".toList 0 5 = some "<a-b>".toList ∧
      nameOf "<a-b>".toList = "a-b".toList ∧ ¬Spells "a".toList "a-b".toList ∧
      delimiters.region? "<a-b>x</a>".toList 0 = some (0, 5, 6) := by
  rcases @exists_ofTag "a" (by decide) with ⟨delimiters, made⟩
  have named : IsName "a".toList := by decide +kernel
  have low : labour "a".toList "<a-b>x</a>".toList ≤ Machine.retreatLimit :=
    Nat.le_trans (labour_le _ _) (by decide)
  have found := (findsMarks_ofTag named made low).openings [] "<a-b>x</a>".toList rfl
  have first : (Text.first? (passing? "a".toList) "<a-b>x</a>".toList).map (Text.stretch 0) =
      some ⟨0, 5⟩ := by
    decide +kernel
  have passes : Passes "a".toList "<a-b>".toList :=
    ⟨⟨"a-b".toList, rfl, by decide, by decide⟩, ['a'], '-', "b>".toList, rfl, by decide +kernel,
      by decide +kernel⟩
  have last : Closes "a".toList "</a>".toList := @closes_of_spells _ ['a'] (by decide +kernel)
  have encloses : Encloses (Passes "a".toList) (Closes "a".toList) 0 ['x'] "x</a>".toList := by
    refine .skip (fun mark after split => ?_) (@Encloses.ends _ _ "</a>".toList [] last)
    have free := @unmarked "a".toList 'x' _ mark after (by decide) split
    exact ⟨fun opens => free.1 opens.1, free.2⟩
  refine ⟨delimiters, made, found.trans first, by decide +kernel, by decide +kernel,
    by decide +kernel, (region?_eq_some_iff_passes named made low rfl).mpr ?_⟩
  exact ⟨⟨[], "<a-b>".toList, ['x'], "</a>".toList, rfl, passes, encloses, rfl, rfl, rfl⟩,
    Nat.le_refl 0, fun _ _ => Nat.zero_le _⟩

end Element
end FencedHighlight
