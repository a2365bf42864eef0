import FencedHighlight.Proofs.Element.Tag

namespace FencedHighlight
namespace Element

/-!
Finding tags at the beginning of a text.

Whether a tag stands at the beginning of a text can be told by reading on from there: first the
name is read letter by letter, then what may follow up to the closing bracket.
-/

open Pattern (CharClass)

/-- What spells a row of characters at the beginning of a text, with the rest. -/
def spelled? : (row text : Text) -> Option (Text × Text)
  | [], text => some ([], text)
  | _ :: _, [] => none
  | char :: row, other :: text =>
      if Unicode.sameUpToCase char other then
        (spelled? row text).map fun parts => (other :: parts.1, parts.2)
      else
        none

/-- What is left of a tag, through the closing bracket, behind a character of it. -/
def bracket? : (last : Char) -> (text : Text) -> Option Text
  | _, [] => none
  | last, char :: text =>
      if char = '>' then
        if last = '/' then none else some ['>']
      else
        (bracket? char text).map (char :: ·)

/-- White space up to and through a closing bracket. -/
def blanks? : (text : Text) -> Option Text
  | [] => none
  | char :: text =>
      if CharClass.space.contains char then (blanks? text).map (char :: ·)
      else if char = '>' then some ['>']
      else none

/-- Whether a boundary of words divides two parts of a text. -/
def divides (parts : Text × Text) : Bool :=
  parts.1.getLast?.any isWord != parts.2.head?.any isWord

/-- The tag whose beginning, up to its name, has been read. -/
def whole? (parts : Text × Text) : Option Text :=
  if divides parts then
    (bracket? (parts.1.getLastD '<') parts.2).map (parts.1 ++ ·)
  else
    none

/-- The tag at the beginning of a text that passes for an opening one of the element. -/
def passing? (name text : Text) : Option Text :=
  (spelled? ('<' :: name) text).bind whole?

/-- The closing tag of the element at the beginning of a text. -/
def closing? (name text : Text) : Option Text :=
  (spelled? ('<' :: '/' :: name) text).bind fun parts => (blanks? parts.2).map (parts.1 ++ ·)

variable {name row text spelled after tag tail : Text} {last : Char}

theorem spelled?_eq_some_iff :
    spelled? row text = some (spelled, after) ↔ text = spelled ++ after ∧ Spells row spelled := by
  induction row generalizing text spelled with
  | nil =>
      rw [spelled?, Option.some_inj, Prod.mk.injEq, Spells, List.forall₂_nil_left_iff]
      constructor
      · rintro ⟨rfl, rfl⟩
        exact ⟨rfl, rfl⟩
      · rintro ⟨rfl, rfl⟩
        exact ⟨rfl, rfl⟩
  | cons char row ih =>
      cases text with
      | nil =>
          constructor
          · intro spelled
            cases spelled
          · rintro ⟨split, spells⟩
            rw [(List.append_eq_nil_iff.mp split.symm).1] at spells
            cases spells
      | cons other text =>
          rw [spelled?, Option.ite_none_right_eq_some, Option.map_eq_some_iff]
          constructor
          · rintro ⟨same, ⟨spelled, after⟩, found, equal⟩
            rcases Prod.mk.inj equal with ⟨rfl, rfl⟩
            have parts := ih.mp found
            exact ⟨congrArg (other :: ·) parts.1, .cons same parts.2⟩
          · rintro ⟨split, spells⟩
            cases spells with
            | @cons _ first _ spelled same spells =>
                rcases List.cons.inj split with ⟨rfl, later⟩
                exact ⟨same, (spelled, after), ih.mpr ⟨later, spells⟩, rfl⟩

theorem bracket?_eq_some_iff :
    bracket? last text = some tail ↔ ∃ inside after, tail = inside ++ ['>'] ∧ text = tail ++ after ∧
      '>' ∉ inside ∧ (last :: inside).getLast? ≠ some '/' := by
  induction text generalizing last tail with
  | nil =>
      constructor
      · intro found
        cases found
      · rintro ⟨inside, after, rfl, split, _⟩
        cases inside <;> cases split
  | cons char text ih =>
      rw [bracket?]
      by_cases closes : char = '>'
      · rw [if_pos closes, Option.ite_none_left_eq_some, Option.some_inj]
        constructor
        · rintro ⟨unslashed, rfl⟩
          exact ⟨[], text, rfl, congrArg (· :: text) closes, List.not_mem_nil,
            fun slashed => unslashed (Option.some.inj slashed)⟩
        · rintro ⟨inside, after, rfl, split, unclosed, unslashed⟩
          cases inside with
          | nil => exact ⟨fun slashed => unslashed (congrArg some slashed), rfl⟩
          | cons first inside =>
              rw [← (List.cons.inj split).1, closes] at unclosed
              exact absurd List.mem_cons_self unclosed
      · rw [if_neg closes, Option.map_eq_some_iff]
        constructor
        · rintro ⟨tail, found, rfl⟩
          rcases ih.mp found with ⟨inside, after, rfl, rfl, unclosed, unslashed⟩
          refine ⟨char :: inside, after, rfl, rfl, ?_, ?_⟩
          · rw [List.mem_cons, not_or]
            exact ⟨Ne.symm closes, unclosed⟩
          · rwa [List.getLast?_cons_cons]
        · rintro ⟨inside, after, rfl, split, unclosed, unslashed⟩
          cases inside with
          | nil => exact absurd (List.cons.inj split).1 closes
          | cons first inside =>
              rcases List.cons.inj split with ⟨rfl, later⟩
              rw [List.mem_cons, not_or] at unclosed
              rw [List.getLast?_cons_cons] at unslashed
              exact ⟨inside ++ ['>'], ih.mpr ⟨inside, after, rfl, later, unclosed.2, unslashed⟩, rfl⟩

theorem blanks?_eq_some_iff :
    blanks? text = some tail ↔ ∃ blanks after, tail = blanks ++ ['>'] ∧ text = tail ++ after ∧
      ∀ char ∈ blanks, CharClass.space.contains char = true := by
  have bracket : CharClass.space.contains '>' = false := by decide +kernel
  induction text generalizing tail with
  | nil =>
      constructor
      · intro found
        cases found
      · rintro ⟨blanks, after, rfl, split, _⟩
        cases blanks <;> cases split
  | cons char text ih =>
      rw [blanks?]
      by_cases blank : CharClass.space.contains char = true
      · rw [if_pos blank, Option.map_eq_some_iff]
        constructor
        · rintro ⟨tail, found, rfl⟩
          rcases ih.mp found with ⟨blanks, after, rfl, rfl, spaces⟩
          exact ⟨char :: blanks, after, rfl, rfl, List.forall_mem_cons.mpr ⟨blank, spaces⟩⟩
        · rintro ⟨blanks, after, rfl, split, spaces⟩
          cases blanks with
          | nil =>
              rw [(List.cons.inj split).1, bracket] at blank
              cases blank
          | cons first blanks =>
              rcases List.cons.inj split with ⟨rfl, later⟩
              exact ⟨blanks ++ ['>'], ih.mpr ⟨blanks, after, rfl, later,
                (List.forall_mem_cons.mp spaces).2⟩, rfl⟩
      · rw [if_neg blank, Option.ite_none_right_eq_some, Option.some_inj]
        constructor
        · rintro ⟨rfl, rfl⟩
          exact ⟨[], text, rfl, rfl, List.forall_mem_nil _⟩
        · rintro ⟨blanks, after, rfl, split, spaces⟩
          cases blanks with
          | nil => exact ⟨(List.cons.inj split).1, rfl⟩
          | cons first blanks =>
              rw [(List.cons.inj split).1] at blank
              exact absurd (spaces first List.mem_cons_self) blank

/-- A bracket or a slash is spelled by itself only. -/
theorem eq_of_sameUpToCase_mark {mark other : Char} (marked : mark = '<' ∨ mark = '/')
    (same : Unicode.sameUpToCase mark other = true) : other = mark := by
  rcases marked with rfl | rfl
  · exact Unicode.isCaseless_of_ascii (by decide) rfl other same
  · exact Unicode.isCaseless_of_ascii (by decide) rfl other same

theorem spells_cons_mark_iff {mark : Char} (marked : mark = '<' ∨ mark = '/') :
    Spells (mark :: row) spelled ↔ ∃ rest, spelled = mark :: rest ∧ Spells row rest := by
  constructor
  · intro spells
    cases spells with
    | @cons _ other _ rest same spells =>
        exact ⟨rest, by rw [eq_of_sameUpToCase_mark marked same], spells⟩
  · rintro ⟨rest, rfl, spells⟩
    exact .cons (Unicode.sameUpToCase_refl mark) spells

theorem getLast?_cons_append (first : Char) (spelled inside : Text) :
    ((first :: spelled).getLastD '<' :: inside).getLast? = (first :: (spelled ++ inside)).getLast? := by
  induction spelled generalizing first with
  | nil => rfl
  | cons char spelled ih =>
      rw [List.cons_append, List.getLast?_cons_cons, ← ih]
      rfl

theorem getLast?_mark_cons {inside : Text} :
    ('<' :: inside).getLast? ≠ some '/' ↔ inside.getLast? ≠ some '/' := by
  cases inside with
  | nil => exact iff_of_true (by decide) (by decide)
  | cons char inside => rw [List.getLast?_cons_cons]

theorem any_isWord_getLast?_mark_cons {spelled : Text} :
    ('<' :: spelled).getLast?.any isWord = spelled.getLast?.any isWord := by
  cases spelled with
  | nil => decide +kernel
  | cons char spelled => rw [List.getLast?_cons_cons]

theorem append_bracket_inj {inside spelled rest : Text} {next : Char}
    (same : inside ++ ['>'] = spelled ++ next :: rest) :
    ∃ between, inside = spelled ++ between ∧ next :: rest = between ++ ['>'] := by
  have ends := List.dropLast_append_getLast (List.cons_ne_nil next rest)
  rw [← ends, ← List.append_assoc] at same
  have parts := List.append_inj' same rfl
  refine ⟨(next :: rest).dropLast, parts.1, ?_⟩
  rw [parts.2, ends]

/-- What is found at the beginning of a text is exactly what passes for an opening tag. -/
theorem passing?_eq_some_iff (named : IsName name) :
    passing? name text = some tag ↔ Passes name tag ∧ ∃ after, text = tag ++ after := by
  rw [passing?, Option.bind_eq_some_iff]
  constructor
  · rintro ⟨⟨marked, rest⟩, found, later⟩
    rcases (spelled?_eq_some_iff).mp found with ⟨rfl, spells⟩
    rcases (spells_cons_mark_iff (Or.inl rfl)).mp spells with ⟨spelled, rfl, named'⟩
    rw [whole?, divides, Option.ite_none_right_eq_some, Option.map_eq_some_iff, bne_iff_ne] at later
    rcases later with ⟨bounded, tail, closes, rfl⟩
    rcases (bracket?_eq_some_iff).mp closes with ⟨inside, after, rfl, rfl, unclosed, unslashed⟩
    rw [getLast?_cons_append, getLast?_mark_cons] at unslashed
    rw [any_isWord_getLast?_mark_cons] at bounded
    refine ⟨⟨⟨spelled ++ inside, ?_, ?_, unslashed⟩, ?_⟩, after, (List.append_assoc _ _ _).symm⟩
    · exact congrArg ('<' :: ·) (List.append_assoc _ _ _).symm
    · rw [List.mem_append, not_or]
      refine ⟨fun member => ?_, unclosed⟩
      have endless := named'.endsName_eq_false named.chars '>' member
      cases endless
    · cases inside with
      | nil =>
          simp only [List.nil_append, List.cons_append, List.head?_cons, Option.any_some] at bounded
          exact ⟨spelled, '>', [], rfl, named', bounded⟩
      | cons next inside =>
          simp only [List.cons_append, List.head?_cons, Option.any_some] at bounded
          exact ⟨spelled, next, inside ++ ['>'], rfl, named', bounded⟩
  · rintro ⟨⟨⟨inside, rfl, unclosed, unslashed⟩, spelled, next, rest, split, spells, bounded⟩,
      after, rfl⟩
    rcases append_bracket_inj (List.cons.inj split).2 with ⟨between, rfl, tail⟩
    refine ⟨('<' :: spelled, next :: rest ++ after), ?_, ?_⟩
    · refine (spelled?_eq_some_iff).mpr ⟨?_, (spells_cons_mark_iff (Or.inl rfl)).mpr ⟨_, rfl, spells⟩⟩
      rw [split]
      exact List.append_assoc _ _ _
    · rw [whole?, divides, Option.ite_none_right_eq_some, Option.map_eq_some_iff, bne_iff_ne]
      refine ⟨?_, next :: rest,
        (bracket?_eq_some_iff).mpr ⟨between, after, tail, rfl, ?_, ?_⟩, split.symm⟩
      · rw [any_isWord_getLast?_mark_cons, List.cons_append, List.head?_cons, Option.any_some]
        exact bounded
      · exact fun member => unclosed (List.mem_append_right _ member)
      · rwa [getLast?_cons_append, getLast?_mark_cons]

/-- What is found at the beginning of a text is exactly a closing tag of the element. -/
theorem closing?_eq_some_iff :
    closing? name text = some tag ↔ Closes name tag ∧ ∃ after, text = tag ++ after := by
  rw [closing?, Option.bind_eq_some_iff]
  constructor
  · rintro ⟨⟨marked, rest⟩, found, later⟩
    rcases (spelled?_eq_some_iff).mp found with ⟨rfl, spells⟩
    rcases (spells_cons_mark_iff (Or.inl rfl)).mp spells with ⟨slashed, rfl, others⟩
    rcases (spells_cons_mark_iff (Or.inr rfl)).mp others with ⟨spelled, rfl, named⟩
    rcases Option.map_eq_some_iff.mp later with ⟨tail, closes, rfl⟩
    rcases (blanks?_eq_some_iff).mp closes with ⟨blanks, after, rfl, rfl, spaces⟩
    refine ⟨⟨spelled, blanks, ?_, named, spaces⟩, after, ?_⟩
    · exact (List.append_assoc _ _ _).symm
    · exact (List.append_assoc _ _ _).symm
  · rintro ⟨⟨spelled, blanks, rfl, spells, spaces⟩, after, rfl⟩
    refine ⟨('<' :: '/' :: spelled, blanks ++ ['>'] ++ after), ?_, ?_⟩
    · refine (spelled?_eq_some_iff).mpr ⟨?_, (spells_cons_mark_iff (Or.inl rfl)).mpr
        ⟨_, rfl, (spells_cons_mark_iff (Or.inr rfl)).mpr ⟨_, rfl, spells⟩⟩⟩
      simp only [List.append_assoc]
    · refine Option.map_eq_some_iff.mpr ⟨blanks ++ ['>'],
        (blanks?_eq_some_iff).mpr ⟨blanks, after, rfl, rfl, spaces⟩, ?_⟩
      exact (List.append_assoc _ _ _).symm

end Element
end FencedHighlight
