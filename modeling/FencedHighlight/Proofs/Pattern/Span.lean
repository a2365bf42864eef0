import FencedHighlight.Pattern.Search
import FencedHighlight.Proofs.Text.Boundary

namespace FencedHighlight
namespace Pattern

/-!
What a search reports is a stretch of the text.

A literal is found where it stands.  A compiled pattern reports positions, which
are turned into the offsets of characters, and a match never begins after its
end.  So the ends of every match are boundaries in order, whatever the program
does.
-/

/-! ## Literals -/

/-- A literal that has been found divides what was searched. -/
theorem findLiteral_eq_some {literal rest : Text} {offset found : Nat}
    (result : findLiteral literal offset rest = some found) :
    ∃ before after, rest = before ++ (literal ++ after) ∧ offset + Text.size before = found := by
  fun_induction findLiteral literal offset rest with
  | case1 offset empty =>
      refine ⟨[], [], ?_, Option.some.inj result⟩
      rw [List.isEmpty_iff.mp empty]
      rfl
  | case2 => cases result
  | case3 offset char rest stands =>
      rcases List.isPrefixOf_iff_prefix.mp stands with ⟨after, whole⟩
      exact ⟨[], after, whole.symm, Option.some.inj result⟩
  | case4 offset char rest missing ih =>
      rcases ih result with ⟨before, after, whole, place⟩
      refine ⟨char :: before, after, by rw [whole, List.cons_append], ?_⟩
      rw [Text.size_cons, ← place]
      omega

/-- A literal is found at or after the start of the search. -/
theorem span_of_literal {wanted text : Text} {offset : Nat} {found : Found}
    (result : (literal wanted).search? text offset = some found) :
    offset ≤ found.span.start ∧
      Text.slice? text found.span.start found.span.stop = some wanted := by
  rcases Option.bind_eq_some_iff.mp result with ⟨⟨before, rest⟩, cut, later⟩
  rcases Option.bind_eq_some_iff.mp later with ⟨place, stands, same⟩
  rcases Option.some.inj same with rfl
  rcases (Text.cut?_eq_some_iff).mp cut with ⟨rfl, starts⟩
  rcases findLiteral_eq_some stands with ⟨between, after, rfl, reached⟩
  refine ⟨by simp only; omega,
    (Text.slice?_eq_some_iff).mpr ⟨before ++ between, after, ?_, ?_, rfl⟩⟩
  · simp only [List.append_assoc]
  · rw [Text.size_append, starts, reached]

theorem firstGroup_of_literal {wanted text : Text} {offset : Nat} {found : Found}
    (result : (literal wanted).search? text offset = some found) : found.firstGroup = none := by
  rcases Option.bind_eq_some_iff.mp result with ⟨⟨before, rest⟩, _, later⟩
  rcases Option.bind_eq_some_iff.mp later with ⟨place, _, same⟩
  rcases Option.some.inj same with rfl
  rfl

/-! ## Programs -/

namespace Machine

theorem Slots.read_write_self {slots : Slots} {slot value : Nat} (inside : slot < slots.size) :
    (slots.write slot value).read slot = some value := by
  simp [Slots.read, Slots.write, inside]

theorem Slots.read_write_of_ne {slots : Slots} {slot other value : Nat}
    (different : slot ≠ other) : (slots.write slot value).read other = slots.read other := by
  simp [Slots.read, Slots.write, Array.getElem?_setIfInBounds_ne different]

theorem Slots.lt_size_of_read {slots : Slots} {slot value : Nat}
    (holds : slots.read slot = some value) : slot < slots.size := by
  apply Nat.lt_of_not_le
  intro outside
  rw [Slots.read, Array.getElem?_eq_none outside] at holds
  cases holds

/-- A match begins where it was noted, but not after its end. -/
theorem start_of_closeMatch {groups : Nat} {slots : Slots} {start stop : Nat}
    (first : (closeMatch groups slots).read 0 = some start)
    (last : (closeMatch groups slots).read 1 = some stop) :
    ∃ noted, Slots.read (slots.take (2 * groups + 2)) 0 = some noted ∧
      Slots.read (slots.take (2 * groups + 2)) 1 = some stop ∧ start = min noted stop := by
  unfold closeMatch at first last
  generalize slots.take (2 * groups + 2) = kept at first last ⊢
  simp only at first last
  split at first
  · rename_i noted reached starts stops
    by_cases late : reached < noted
    · simp only [starts, stops, if_pos late] at first last
      rw [Slots.read_write_self (Slots.lt_size_of_read starts)] at first
      rw [Slots.read_write_of_ne (by decide), stops] at last
      rcases Option.some.inj first with rfl
      rcases Option.some.inj last with rfl
      exact ⟨noted, starts, stops, (Nat.min_eq_right (Nat.le_of_lt late)).symm⟩
    · simp only [starts, stops, if_neg late] at first last
      rcases Option.some.inj first with rfl
      rcases Option.some.inj last with rfl
      exact ⟨noted, starts, stops, (Nat.min_eq_left (Nat.le_of_not_lt late)).symm⟩
  · rename_i incomplete
    have unchanged : Slots.read kept 1 = some stop := by
      split at last
      · rename_i noted reached starts stops
        exact absurd stops (incomplete noted reached starts)
      · exact last
    exact absurd unchanged (incomplete start stop first)

/-- Only the beginning of the match is ever changed. -/
theorem read_of_closeMatch {groups slot value : Nat} {slots : Slots} (other : slot ≠ 0)
    (holds : (closeMatch groups slots).read slot = some value) :
    Slots.read (slots.take (2 * groups + 2)) slot = some value := by
  unfold closeMatch at holds
  simp only at holds
  split at holds
  · split at holds
    · rwa [Slots.read_write_of_ne (Ne.symm other)] at holds
    · exact holds
  · exact holds

theorem read_take {slots : Slots} {count slot value : Nat}
    (holds : Slots.read (slots.take count) slot = some value) :
    slots.read slot = some value := by
  have inside := Slots.lt_size_of_read holds
  simp only [Slots.read] at holds ⊢
  rw [Array.getElem?_eq_getElem inside] at holds
  simp only [Array.take_eq_extract, Array.size_extract, Array.getElem_extract] at holds inside
  rw [Array.getElem?_eq_getElem (by omega)]
  simpa using holds

end Machine

/-- The match of a compiled pattern, by the positions that the machine noted. -/
theorem span_of_compiled {source : String} {program : Program} {text : Text} {offset : Nat}
    {found : Found} (result : (compiled source program).search? text offset = some found) :
    ∃ slots start stop,
      Machine.search? program text.toArray (Text.indexOf text offset) = some slots ∧
      slots.read 0 = some start ∧ slots.read 1 = some stop ∧
      found.span = ⟨Text.offsetOf text start, Text.offsetOf text stop⟩ ∧
      ∀ group, found.firstGroup = some group ↔ ∃ first last,
        slots.read 2 = some first ∧ slots.read 3 = some last ∧
          group = ⟨Text.offsetOf text first, Text.offsetOf text last⟩ := by
  rcases Option.bind_eq_some_iff.mp result with ⟨slots, ran, later⟩
  rcases Option.bind_eq_some_iff.mp later with ⟨span, whole, same⟩
  rcases Option.bind_eq_some_iff.mp whole with ⟨start, first, later⟩
  rcases Option.bind_eq_some_iff.mp later with ⟨stop, last, ends⟩
  rcases Option.some.inj same with rfl
  refine ⟨slots, start, stop, ran, first, last, (Option.some.inj ends).symm, fun group => ?_⟩
  constructor
  · intro took
    rcases Option.bind_eq_some_iff.mp took with ⟨opening, opens, later⟩
    rcases Option.bind_eq_some_iff.mp later with ⟨closing, closes, same⟩
    exact ⟨opening, closing, opens, closes, (Option.some.inj same).symm⟩
  · rintro ⟨opening, closing, opens, closes, rfl⟩
    exact Option.bind_eq_some_iff.mpr
      ⟨opening, opens, Option.bind_eq_some_iff.mpr ⟨closing, closes, rfl⟩⟩

/-- The match of a compiled pattern with its first group, by the positions that the
machine noted. -/
theorem group_of_compiled {source : String} {program : Program} {text : Text} {offset : Nat}
    {found : Found} {group : Span}
    (result : (compiled source program).search? text offset = some found)
    (took : found.firstGroup = some group) :
    ∃ slots start stop first last,
      Machine.search? program text.toArray (Text.indexOf text offset) = some slots ∧
      slots.read 0 = some start ∧ slots.read 1 = some stop ∧
      slots.read 2 = some first ∧ slots.read 3 = some last ∧
      found.span = ⟨Text.offsetOf text start, Text.offsetOf text stop⟩ ∧
      group = ⟨Text.offsetOf text first, Text.offsetOf text last⟩ := by
  rcases span_of_compiled result with ⟨slots, start, stop, ran, starts, stops, ends, groups⟩
  rcases (groups group).mp took with ⟨first, last, opens, closes, same⟩
  exact ⟨slots, start, stop, first, last, ran, starts, stops, opens, closes, ends, same⟩

/-- After a search only the slots of the groups are left. -/
theorem lt_of_read {program : Program} {chars : Array Char} {position slot value : Nat}
    {slots : Machine.Slots} (ran : Machine.search? program chars position = some slots)
    (holds : slots.read slot = some value) : slot < 2 * program.groups + 2 := by
  rcases Option.map_eq_some_iff.mp ran with ⟨raw, _, rfl⟩
  by_cases first : slot = 0
  · omega
  · have inside := Machine.Slots.lt_size_of_read (Machine.read_of_closeMatch first holds)
    rw [Array.take_eq_extract, Array.size_extract] at inside
    omega

theorem ordered_of_search? {program : Program} {chars : Array Char} {position start stop : Nat}
    {slots : Machine.Slots} (ran : Machine.search? program chars position = some slots)
    (first : slots.read 0 = some start) (last : slots.read 1 = some stop) : start ≤ stop := by
  rcases Option.map_eq_some_iff.mp ran with ⟨raw, _, rfl⟩
  rcases Machine.start_of_closeMatch first last with ⟨noted, _, _, rfl⟩
  exact Nat.min_le_right _ _

/-- The ends of every match are boundaries of the text in order. -/
theorem span_of_search? {pattern : Pattern} {text : Text} {offset : Nat} {found : Found}
    (result : pattern.search? text offset = some found) :
    Text.isBoundary text found.span.start = true ∧
      Text.isBoundary text found.span.stop = true ∧ found.span.start ≤ found.span.stop := by
  cases pattern with
  | literal wanted =>
      have slice := (span_of_literal result).2
      have ends := Text.isBoundary_of_slice? slice
      have extent := Text.size_of_slice? slice
      exact ⟨ends.1, ends.2, by omega⟩
  | compiled source program =>
      rcases span_of_compiled result with ⟨slots, start, stop, ran, first, last, ends, _⟩
      rw [ends]
      exact ⟨Text.isBoundary_offsetOf text start, Text.isBoundary_offsetOf text stop,
        Text.offsetOf_mono text (ordered_of_search? ran first last)⟩

theorem span_of_find? {pattern : Pattern} {text : Text} {offset : Nat} {span : Span}
    (result : pattern.find? text offset = some span) :
    Text.isBoundary text span.start = true ∧ Text.isBoundary text span.stop = true ∧
      span.start ≤ span.stop := by
  rcases Option.map_eq_some_iff.mp result with ⟨found, searched, rfl⟩
  exact span_of_search? searched

/-- Whether no match begins before the offset where its search was to start, be it a boundary
or not. -/
def NeverBehind (pattern : Pattern) : Prop :=
  ∀ (text : Text) (offset : Nat) (found : Found), offset ≤ Text.size text ->
    pattern.search? text offset = some found -> offset ≤ found.span.start

theorem neverBehind_literal (wanted : Text) : (literal wanted).NeverBehind :=
  fun _ _ _ _ result => (span_of_literal result).1

/-- Whether no match begins before the start of its search. -/
def StartsAhead (pattern : Pattern) : Prop :=
  ∀ (text : Text) (offset : Nat) (found : Found), Text.isBoundary text offset = true ->
    pattern.search? text offset = some found -> offset ≤ found.span.start

theorem NeverBehind.startsAhead {pattern : Pattern} (never : pattern.NeverBehind) :
    pattern.StartsAhead :=
  fun text offset found boundary result =>
    never text offset found (Text.le_size_of_isBoundary boundary) result

theorem startsAhead_literal (wanted : Text) : (literal wanted).StartsAhead :=
  (neverBehind_literal wanted).startsAhead

end Pattern
end FencedHighlight
