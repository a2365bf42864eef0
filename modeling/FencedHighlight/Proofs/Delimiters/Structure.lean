import FencedHighlight.Proofs.Delimiters.Pair
import Mathlib.Data.Set.Card

namespace FencedHighlight
namespace Brackets

/-!
The bracket structure of a text.

Of the matching brackets of a text, those count that have some text between them.  The
first such pair divides the text: every other pair lies in the text between its brackets
or behind that text, and is a pair of that part alone.  No pair lies around the first
one, and it lies around the pairs inside it and around no others.  So how deep a pair
is nested can be told part by part.
-/

variable {text inner before after : Text} {opening closing : Char} {start stop : Nat}

/-- Whether the brackets at two offsets match and have some text between them. -/
structure Filled (opening closing : Char) (text : Text) (start stop : Nat) : Prop where
  matched : Matched opening closing text start stop
  filled : start + opening.utf8Size < stop

/-- Whether the first pair of brackets with some text between them divides a text into
these parts. -/
structure FirstPair (opening closing : Char) (text before inner after : Text) : Prop where
  split : text = before ++ opening :: (inner ++ closing :: after)
  balanced : Balanced opening closing 0 inner
  filled : inner ≠ []
  least : ∀ start stop, Filled opening closing text start stop -> Text.size before ≤ start

/-! ## Pairs by the text from their opening on -/

theorem filled_iff (distinct : opening ≠ closing) :
    Filled opening closing text start stop ↔
      ∃ head tail inner, text = head ++ tail ∧ filled? opening closing tail = some inner ∧
        start = Text.size head ∧ stop = start + opening.utf8Size + Text.size inner := by
  constructor
  · rintro ⟨⟨head, inner, behind, split, starts, stops, balanced⟩, filled⟩
    refine ⟨head, _, inner, split, (filled?_eq_some_iff).mpr
      ⟨(content?_eq_some_iff distinct).mpr ⟨balanced, behind, rfl⟩, ?_⟩, starts.symm, stops.symm⟩
    apply (Text.size_pos_iff inner).mp
    omega
  · rintro ⟨head, tail, inner, rfl, found, rfl, rfl⟩
    rcases (filled?_eq_some_iff).mp found with ⟨content, present⟩
    rcases (content?_eq_some_iff distinct).mp content with ⟨balanced, behind, rfl⟩
    have extent := (Text.size_pos_iff inner).mpr present
    exact ⟨⟨head, inner, behind, rfl, rfl, rfl, balanced⟩, by omega⟩

theorem first?_filled?_eq_none_iff (distinct : opening ≠ closing) :
    Text.first? (filled? opening closing) text = none ↔
      ∀ start stop, ¬ Filled opening closing text start stop := by
  rw [Text.first?_eq_none_iff]
  constructor
  · intro missing start stop pair
    rcases (filled_iff distinct).mp pair with ⟨head, tail, inner, split, found, _⟩
    rw [missing head tail split] at found
    cases found
  · intro missing head tail split
    apply Option.eq_none_iff_forall_not_mem.mpr
    intro inner found
    exact missing _ _ ((filled_iff distinct).mpr ⟨head, tail, inner, split, found, rfl, rfl⟩)

theorem first?_filled?_eq_some_iff (distinct : opening ≠ closing) :
    Text.first? (filled? opening closing) text = some (before, inner) ↔
      ∃ after, FirstPair opening closing text before inner after := by
  rw [Text.first?_eq_some_iff]
  constructor
  · rintro ⟨tail, split, found, missing⟩
    rcases (filled?_eq_some_iff).mp found with ⟨content, present⟩
    rcases (content?_eq_some_iff distinct).mp content with ⟨balanced, after, rfl⟩
    refine ⟨after, split, balanced, present, fun start stop pair => ?_⟩
    rcases (filled_iff distinct).mp pair with ⟨head, tail, other, within, inside, rfl, _⟩
    apply Nat.le_of_not_lt
    intro earlier
    rw [missing head tail within earlier] at inside
    cases inside
  · rintro ⟨after, split, balanced, present, least⟩
    refine ⟨_, split, (filled?_eq_some_iff).mpr
      ⟨(content?_eq_some_iff distinct).mpr ⟨balanced, after, rfl⟩, present⟩, ?_⟩
    intro head tail within earlier
    apply Option.eq_none_iff_forall_not_mem.mpr
    intro other found
    have reached := least _ _ ((filled_iff distinct).mpr
      ⟨head, tail, other, within, found, rfl, rfl⟩)
    omega

/-- What can be said of the pairs of a text goes by the first of them. -/
theorem firstPair_cases (distinct : opening ≠ closing) (text : Text) :
    (∀ start stop, ¬ Filled opening closing text start stop) ∨
      ∃ before inner after, FirstPair opening closing text before inner after := by
  cases found : Text.first? (filled? opening closing) text with
  | none => exact Or.inl ((first?_filled?_eq_none_iff distinct).mp found)
  | some region => exact Or.inr ⟨_, _, (first?_filled?_eq_some_iff distinct).mp found⟩

/-! ## Pairs of the parts -/

/-- A pair of a part is a pair of the whole, that much farther on. -/
theorem Filled.append (pair : Filled opening closing inner start stop) (before after : Text) :
    Filled opening closing (before ++ (inner ++ after)) (Text.size before + start)
      (Text.size before + stop) := by
  rcases pair with ⟨⟨head, between, behind, rfl, rfl, rfl, balanced⟩, filled⟩
  refine ⟨⟨before ++ head, between, behind ++ after, ?_, Text.size_append before head, ?_,
    balanced⟩, by omega⟩
  · simp only [List.append_assoc, List.cons_append]
  · omega

theorem Filled.stop_lt (pair : Filled opening closing text start stop) :
    stop < Text.size text := by
  rcases pair with ⟨⟨head, between, behind, rfl, rfl, rfl, _⟩, _⟩
  have extent := Char.utf8Size_pos closing
  simp only [Text.size_append, Text.size_cons]
  omega

/-- What is left of a balanced text balances what has been opened before. -/
theorem Balanced.drop {head tail : Text} (balanced : Balanced opening closing 0 (head ++ tail)) :
    Balanced opening closing (head.count opening - head.count closing) tail := by
  have opened := balanced.count_le head (List.prefix_append head tail)
  constructor
  · have counts := balanced.count_eq
    simp only [List.count_append] at counts
    omega
  · intro part begins
    have counts := balanced.count_le (head ++ part) ((List.prefix_append_right_inj head).mpr begins)
    simp only [List.count_append] at counts
    omega

/-- An opening in a balanced text is closed there. -/
theorem exists_content?_of_balanced (distinct : opening ≠ closing) {head tail : Text}
    (balanced : Balanced opening closing 0 (head ++ opening :: tail)) :
    ∃ inner, content? opening closing (opening :: tail) = some inner := by
  have inside := (balanced_opening_iff distinct).mp balanced.drop
  rcases inside.exists_wellNested distinct with
    ⟨inner, rest, rfl, nested, ⟨impossible, _⟩ | ⟨less, behind, _, rfl, _⟩⟩
  · cases impossible
  · exact ⟨inner, (content?_eq_some_iff distinct).mpr
      ⟨(wellNested_iff distinct).mp nested, behind, rfl⟩⟩

/-- What begins a text does not depend on what follows. -/
theorem content?_append_right (distinct : opening ≠ closing)
    (content : content? opening closing text = some inner) (more : Text) :
    content? opening closing (text ++ more) = some inner := by
  rcases (content?_eq_some_iff distinct).mp content with ⟨balanced, behind, rfl⟩
  refine (content?_eq_some_iff distinct).mpr ⟨balanced, behind ++ more, ?_⟩
  simp only [List.cons_append, List.append_assoc]

/-- A pair that begins in a balanced text ends there. -/
theorem filled?_of_balanced (distinct : opening ≠ closing) {head tail more region : Text}
    (balanced : Balanced opening closing 0 (head ++ tail)) (present : tail ≠ [])
    (found : filled? opening closing (tail ++ more) = some region) :
    filled? opening closing tail = some region := by
  rcases (filled?_eq_some_iff).mp found with ⟨content, some⟩
  rcases opens_of_content? content with ⟨behind, opens⟩
  cases tail with
  | nil => exact absurd rfl present
  | cons char tail =>
      rcases (List.cons.inj opens).1 with rfl
      rcases exists_content?_of_balanced distinct balanced with ⟨inner, closed⟩
      have same := content?_append_right distinct closed more
      rw [content] at same
      rcases Option.some.inj same with rfl
      exact (filled?_eq_some_iff).mpr ⟨closed, some⟩

namespace FirstPair

variable (first : FirstPair opening closing text before inner after)
include first

theorem pair : Filled opening closing text (Text.size before)
    (Text.size before + opening.utf8Size + Text.size inner) := by
  have extent := (Text.size_pos_iff inner).mpr first.filled
  exact ⟨⟨before, inner, after, first.split, rfl, rfl, first.balanced⟩, by omega⟩

/-- The pairs of the text inside are pairs of the whole text. -/
theorem inside (pair : Filled opening closing inner start stop) :
    Filled opening closing text (Text.size before + opening.utf8Size + start)
      (Text.size before + opening.utf8Size + stop) := by
  have farther := pair.append (before ++ [opening]) (closing :: after)
  rw [Text.size_append, Text.size_cons, Text.size_nil, Nat.add_zero, List.append_assoc,
    List.singleton_append, ← first.split] at farther
  exact farther

/-- So are those of the text from the closing on. -/
theorem behind (pair : Filled opening closing (closing :: after) start stop) :
    Filled opening closing text
      (Text.size before + opening.utf8Size + Text.size inner + start)
      (Text.size before + opening.utf8Size + Text.size inner + stop) := by
  have farther := pair.append (before ++ opening :: inner) []
  rw [Text.size_append, Text.size_cons, List.append_nil, List.append_assoc, List.cons_append,
    ← first.split, ← Nat.add_assoc] at farther
  exact farther

/-- Where another pair begins: with the first one, in the text inside it, or behind that
text. -/
theorem opening_cases (distinct : opening ≠ closing) {head tail region : Text}
    (split : text = head ++ tail) (found : filled? opening closing tail = some region) :
    (head = before ∧ region = inner) ∨
      (∃ between left, head = before ++ opening :: between ∧ inner = between ++ left ∧
        filled? opening closing left = some region) ∨
      ∃ passed, head = before ++ opening :: (inner ++ passed) ∧
        closing :: after = passed ++ tail := by
  have reached := first.least _ _ ((filled_iff distinct).mpr
    ⟨head, tail, region, split, found, rfl, rfl⟩)
  have parts := split.symm.trans first.split
  rcases Text.exists_append_of_size_le parts.symm reached with ⟨between, rfl⟩
  rw [List.append_assoc] at parts
  have tails := List.append_cancel_left parts
  cases between with
  | nil =>
      rw [List.nil_append] at tails
      have content := (content?_eq_some_iff distinct).mpr ⟨first.balanced, after, tails⟩
      rw [((filled?_eq_some_iff).mp found).1] at content
      exact Or.inl ⟨List.append_nil before, Option.some.inj content⟩
  | cons char between =>
      rcases List.cons.inj tails with ⟨rfl, rest⟩
      rcases List.append_eq_append_iff.mp rest with
        ⟨left, whole, follows⟩ | ⟨passed, rfl, behind⟩
      · -- an opening right at the closing of the first pair is behind it
        by_cases ended : left = []
        · rw [ended, List.append_nil] at whole
          rw [ended, List.nil_append] at follows
          exact Or.inr (Or.inr ⟨[], by rw [whole, List.append_nil], follows.symm⟩)
        · rw [follows] at found
          have inside := filled?_of_balanced distinct (whole ▸ first.balanced) ended found
          exact Or.inr (Or.inl ⟨between, left, rfl, whole, inside⟩)
      · exact Or.inr (Or.inr ⟨passed, rfl, behind⟩)

/-- A pair is the first one, or lies inside it or behind it. -/
theorem pair_cases (distinct : opening ≠ closing)
    (pair : Filled opening closing text start stop) :
    (start = Text.size before ∧
        stop = Text.size before + opening.utf8Size + Text.size inner) ∨
      (∃ start' stop', Filled opening closing inner start' stop' ∧
        start = Text.size before + opening.utf8Size + start' ∧
        stop = Text.size before + opening.utf8Size + stop') ∨
      ∃ start' stop', Filled opening closing (closing :: after) start' stop' ∧
        start = Text.size before + opening.utf8Size + Text.size inner + start' ∧
        stop = Text.size before + opening.utf8Size + Text.size inner + stop' := by
  rcases (filled_iff distinct).mp pair with ⟨head, tail, region, split, found, rfl, rfl⟩
  rcases first.opening_cases distinct split found with
    ⟨rfl, rfl⟩ | ⟨between, left, rfl, whole, inside⟩ | ⟨passed, rfl, behind⟩
  · exact Or.inl ⟨rfl, rfl⟩
  · refine Or.inr (Or.inl ⟨_, _, (filled_iff distinct).mpr
      ⟨between, left, region, whole, inside, rfl, rfl⟩, ?_, ?_⟩)
    · rw [Text.size_append, Text.size_cons, Nat.add_assoc]
    · simp only [Text.size_append, Text.size_cons, Nat.add_assoc]
  · refine Or.inr (Or.inr ⟨_, _, (filled_iff distinct).mpr
      ⟨passed, tail, region, behind, found, rfl, rfl⟩, ?_, ?_⟩)
    · simp only [Text.size_append, Text.size_cons, Nat.add_assoc]
    · simp only [Text.size_append, Text.size_cons, Nat.add_assoc]

end FirstPair

/-! ## How deep pairs are nested -/

/-- The pairs with some text between them that lie around two offsets. -/
def around (opening closing : Char) (text : Text) (start stop : Nat) : Set (Nat × Nat) :=
  {pair | Filled opening closing text pair.1 pair.2 ∧ pair.1 < start ∧ stop < pair.2}

/-- The pairs of a part, as pairs of the whole. -/
def shift (base : Nat) (pair : Nat × Nat) : Nat × Nat :=
  (base + pair.1, base + pair.2)

theorem shift_injective (base : Nat) : Function.Injective (shift base) := by
  intro first second same
  rcases Prod.mk.inj same with ⟨starts, stops⟩
  exact Prod.ext (Nat.add_left_cancel starts) (Nat.add_left_cancel stops)

namespace FirstPair

variable (first : FirstPair opening closing text before inner after)
include first

/-- No pair lies around the first one. -/
theorem around_eq_empty (stop : Nat) :
    around opening closing text (Text.size before) stop = ∅ := by
  apply Set.eq_empty_iff_forall_notMem.mpr
  rintro ⟨opened, closed⟩ ⟨pair, earlier, _⟩
  exact absurd earlier (Nat.not_lt_of_le (first.least opened closed pair))

/-- Around a pair inside the first one lie the first one and those that lie around it
there. -/
theorem around_inside (distinct : opening ≠ closing)
    (pair : Filled opening closing inner start stop) :
    around opening closing text (Text.size before + opening.utf8Size + start)
        (Text.size before + opening.utf8Size + stop) =
      insert (Text.size before, Text.size before + opening.utf8Size + Text.size inner)
        (shift (Text.size before + opening.utf8Size) ''
          around opening closing inner start stop) := by
  have within := pair.stop_lt
  have ordered := pair.filled
  have extent := Char.utf8Size_pos opening
  apply Set.ext
  rintro ⟨opened, closed⟩
  constructor
  · rintro ⟨outer, earlier, later⟩
    simp only at outer earlier later
    rcases first.pair_cases distinct outer with
      ⟨rfl, rfl⟩ | ⟨opened', closed', outer', rfl, rfl⟩ | ⟨opened', closed', _, rfl, rfl⟩
    · exact Set.mem_insert _ _
    · exact Set.mem_insert_of_mem _ ⟨(opened', closed'), ⟨outer', by omega, by omega⟩, rfl⟩
    · omega
  · rintro (same | ⟨⟨opened', closed'⟩, ⟨outer, earlier, later⟩, same⟩)
    · rcases Prod.mk.inj same with ⟨rfl, rfl⟩
      exact ⟨first.pair, by simp only; omega, by simp only; omega⟩
    · rcases Prod.mk.inj same with ⟨rfl, rfl⟩
      simp only at outer earlier later
      exact ⟨first.inside outer, by simp only; omega, by simp only; omega⟩

/-- Around a pair behind the first one lie those that lie around it there. -/
theorem around_behind (distinct : opening ≠ closing) (start stop : Nat) :
    around opening closing text
        (Text.size before + opening.utf8Size + Text.size inner + start)
        (Text.size before + opening.utf8Size + Text.size inner + stop) =
      shift (Text.size before + opening.utf8Size + Text.size inner) ''
        around opening closing (closing :: after) start stop := by
  apply Set.ext
  rintro ⟨opened, closed⟩
  constructor
  · rintro ⟨outer, earlier, later⟩
    simp only at outer earlier later
    rcases first.pair_cases distinct outer with
      ⟨rfl, rfl⟩ | ⟨opened', closed', outer', rfl, rfl⟩ | ⟨opened', closed', outer', rfl, rfl⟩
    · omega
    · have within := outer'.stop_lt
      omega
    · exact ⟨(opened', closed'), ⟨outer', by omega, by omega⟩, rfl⟩
  · rintro ⟨⟨opened', closed'⟩, ⟨outer, earlier, later⟩, same⟩
    rcases Prod.mk.inj same with ⟨rfl, rfl⟩
    simp only at outer earlier later
    exact ⟨first.behind outer, by simp only; omega, by simp only; omega⟩

theorem encard_around_inside (distinct : opening ≠ closing)
    (pair : Filled opening closing inner start stop) :
    (around opening closing text (Text.size before + opening.utf8Size + start)
        (Text.size before + opening.utf8Size + stop)).encard =
      (around opening closing inner start stop).encard + 1 := by
  rw [first.around_inside distinct pair, Set.encard_insert_of_notMem,
    (shift_injective _).encard_image]
  rintro ⟨⟨opened, closed⟩, _, same⟩
  have extent := Char.utf8Size_pos opening
  have starts := (Prod.mk.inj same).1
  omega

theorem encard_around_behind (distinct : opening ≠ closing) (start stop : Nat) :
    (around opening closing text
        (Text.size before + opening.utf8Size + Text.size inner + start)
        (Text.size before + opening.utf8Size + Text.size inner + stop)).encard =
      (around opening closing (closing :: after) start stop).encard := by
  rw [first.around_behind distinct, (shift_injective _).encard_image]

end FirstPair

end Brackets
end FencedHighlight
