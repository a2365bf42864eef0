import FencedHighlight.Proofs.Text.Slice

namespace FencedHighlight
namespace Text

/-!
Boundaries of a text.

An offset is a boundary if some part of the text from its start has that size.
Two boundaries in order delimit a slice, and a slice is delimited by two
boundaries, so nothing but boundaries has to be known to tell that a slice
exists.  Boundaries are also where an index stands for an offset and the other
way round.
-/

theorem isBoundary_iff {text : Text} {offset : Nat} :
    isBoundary text offset = true ↔ ∃ left right, text = left ++ right ∧ size left = offset := by
  rw [isBoundary, Option.isSome_iff_exists]
  constructor
  · rintro ⟨⟨left, right⟩, cut⟩
    exact ⟨left, right, (cut?_eq_some_iff).mp cut⟩
  · rintro ⟨left, right, decomposed⟩
    exact ⟨(left, right), (cut?_eq_some_iff).mpr decomposed⟩

theorem isBoundary_append (left right : Text) :
    isBoundary (left ++ right) (size left) = true :=
  (isBoundary_iff).mpr ⟨left, right, rfl, rfl⟩

theorem isBoundary_size (text : Text) : isBoundary text (size text) = true := by
  have atEnd := isBoundary_append text []
  rwa [List.append_nil] at atEnd

theorem le_size_of_isBoundary {text : Text} {offset : Nat}
    (boundary : isBoundary text offset = true) : offset ≤ size text := by
  rcases (isBoundary_iff).mp boundary with ⟨left, right, rfl, rfl⟩
  rw [size_append]
  exact Nat.le_add_right _ _

/-- Both ends of a slice are boundaries. -/
theorem isBoundary_of_slice? {text middle : Text} {start stop : Nat}
    (found : slice? text start stop = some middle) :
    isBoundary text start = true ∧ isBoundary text stop = true := by
  rcases (slice?_eq_some_iff).mp found with ⟨left, right, rfl, rfl, rfl⟩
  constructor
  · rw [List.append_assoc]
    exact isBoundary_append left (middle ++ right)
  · rw [← size_append]
    exact isBoundary_append (left ++ middle) right

/-- Two boundaries in order divide a text in three. -/
theorem exists_parts {text : Text} {start stop : Nat} (ordered : start ≤ stop)
    (first : isBoundary text start = true) (last : isBoundary text stop = true) :
    ∃ left middle right, text = left ++ middle ++ right ∧ size left = start ∧
      size (left ++ middle) = stop := by
  rcases (isBoundary_iff).mp first with ⟨left, rest, whole, rfl⟩
  rcases (isBoundary_iff).mp last with ⟨wider, right, whole', rfl⟩
  rcases exists_append_of_size_le (whole.symm.trans whole') ordered with ⟨middle, rfl⟩
  exact ⟨left, middle, right, whole', rfl, rfl⟩

/-- Between two boundaries in order lies a slice. -/
theorem exists_slice? {text : Text} {start stop : Nat} (ordered : start ≤ stop)
    (first : isBoundary text start = true) (last : isBoundary text stop = true) :
    ∃ middle, slice? text start stop = some middle := by
  rcases exists_parts ordered first last with ⟨left, middle, right, whole, starts, stops⟩
  rw [size_append] at stops
  exact ⟨middle, (slice?_eq_some_iff).mpr ⟨left, right, whole, starts, by omega⟩⟩

/-- A boundary of a part from the start is one of the text. -/
theorem isBoundary_append_left {left : Text} {offset : Nat} (right : Text)
    (boundary : isBoundary left offset = true) : isBoundary (left ++ right) offset = true := by
  rcases (isBoundary_iff).mp boundary with ⟨before, after, rfl, rfl⟩
  rw [List.append_assoc]
  exact isBoundary_append before (after ++ right)

/-- A boundary of a text is one of each part from the start that reaches it. -/
theorem isBoundary_of_append {left right : Text} {offset : Nat}
    (boundary : isBoundary (left ++ right) offset = true) (within : offset ≤ size left) :
    isBoundary left offset = true := by
  rcases (isBoundary_iff).mp boundary with ⟨before, after, whole, rfl⟩
  rcases exists_append_of_size_le whole.symm within with ⟨between, rfl⟩
  exact isBoundary_append before between

/-! ## The next boundary -/

theorem lt_boundaryAfter (text : Text) (origin offset : Nat) :
    offset < boundaryAfter origin text offset := by
  induction text generalizing origin with
  | nil =>
      simp only [boundaryAfter]
      split <;> omega
  | cons char rest ih =>
      simp only [boundaryAfter]
      split
      · assumption
      · exact ih (origin + char.utf8Size)

/-- The next boundary lies after the offset. -/
theorem lt_nextBoundary (text : Text) (offset : Nat) : offset < nextBoundary text offset :=
  lt_boundaryAfter text 0 offset

theorem boundaryAfter_cases (before text : Text) (offset : Nat) :
    isBoundary (before ++ text) (boundaryAfter (size before) text offset) = true ∨
      size (before ++ text) < boundaryAfter (size before) text offset := by
  induction text generalizing before with
  | nil =>
      rw [List.append_nil]
      simp only [boundaryAfter]
      split
      · exact Or.inl (isBoundary_size before)
      · exact Or.inr (by omega)
  | cons char rest ih =>
      simp only [boundaryAfter]
      split
      · exact Or.inl (isBoundary_append before (char :: rest))
      · have later := ih (before ++ [char])
        rwa [List.append_assoc, List.singleton_append, size_append, size_cons, size_nil,
          Nat.add_zero] at later

/-- The next boundary is a boundary, unless it is beyond the end. -/
theorem nextBoundary_cases (text : Text) (offset : Nat) :
    isBoundary text (nextBoundary text offset) = true ∨ size text < nextBoundary text offset :=
  boundaryAfter_cases [] text offset

theorem boundaryAfter_le {left right : Text} {origin offset : Nat}
    (ordered : offset < origin + size left) :
    boundaryAfter origin (left ++ right) offset ≤ origin + size left := by
  induction left generalizing origin with
  | nil =>
      rw [size_nil, Nat.add_zero] at ordered
      cases right <;> simp [boundaryAfter, ordered]
  | cons char rest ih =>
      rw [size_cons, ← Nat.add_assoc] at ordered ⊢
      simp only [List.cons_append, boundaryAfter]
      split
      · omega
      · exact ih ordered

/-- No boundary lies between an offset and the next boundary. -/
theorem nextBoundary_le {text : Text} {offset later : Nat}
    (boundary : isBoundary text later = true) (ordered : offset < later) :
    nextBoundary text offset ≤ later := by
  rcases (isBoundary_iff).mp boundary with ⟨left, right, rfl, rfl⟩
  have within := @boundaryAfter_le left right 0 offset (by rwa [Nat.zero_add])
  rwa [Nat.zero_add] at within

theorem isBoundary_nextBoundary {text : Text} {offset : Nat} (inside : offset < size text) :
    isBoundary text (nextBoundary text offset) = true :=
  (nextBoundary_cases text offset).resolve_right
    (Nat.not_lt_of_le (nextBoundary_le (isBoundary_size text) inside))

/-- The boundary after the start of a character is its end. -/
theorem nextBoundary_append (before : Text) (char : Char) (rest : Text) :
    nextBoundary (before ++ char :: rest) (size before) = size before + char.utf8Size := by
  have extent := Char.utf8Size_pos char
  have atEnd := isBoundary_append (before ++ [char]) rest
  rw [List.append_assoc, List.singleton_append, size_append, size_cons, size_nil,
    Nat.add_zero] at atEnd
  have within := nextBoundary_le atEnd (Nat.lt_add_of_pos_right extent)
  have later := lt_nextBoundary (before ++ char :: rest) (size before)
  apply Nat.le_antisymm within
  rcases nextBoundary_cases (before ++ char :: rest) (size before) with boundary | beyond
  · rcases (isBoundary_iff).mp boundary with ⟨left, right, whole, reached⟩
    rcases exists_append_of_size_le whole (by omega) with ⟨between, rfl⟩
    rw [List.append_assoc] at whole
    cases between with
    | nil =>
        rw [List.append_nil] at reached
        omega
    | cons first others =>
        rcases List.cons.inj (List.append_cancel_left whole) with ⟨same, _⟩
        rw [← reached, size_append, size_cons, ← same]
        omega
  · rw [size_append, size_cons] at beyond
    omega

/-! ## Indices -/

theorem isBoundary_offsetOf (text : Text) (index : Nat) :
    isBoundary text (offsetOf text index) = true := by
  have parts := isBoundary_append (text.take index) (text.drop index)
  rwa [List.take_append_drop] at parts

/-- Later characters begin at greater offsets. -/
theorem offsetOf_mono (text : Text) {first second : Nat} (ordered : first ≤ second) :
    offsetOf text first ≤ offsetOf text second := by
  have parts := List.take_append_drop first (text.take second)
  rw [List.take_take, Nat.min_eq_left ordered] at parts
  unfold offsetOf
  rw [← parts, size_append]
  exact Nat.le_add_right _ _

theorem indexOf_size_append (left right : Text) :
    indexOf (left ++ right) (size left) = left.length := by
  induction left with
  | nil => cases right <;> rfl
  | cons char rest ih =>
      rcases exists_size_cons char rest with ⟨offset, split, _, remaining⟩
      rw [split, List.cons_append, indexOf, remaining, ih, List.length_cons]
      omega

/-- An offset inside a character gets the index of the next one. -/
theorem le_offsetOf_indexOf {text : Text} {offset : Nat} (within : offset ≤ size text) :
    offset ≤ offsetOf text (indexOf text offset) := by
  induction text generalizing offset with
  | nil => rwa [offsetOf, List.take_nil]
  | cons char rest ih =>
      cases offset with
      | zero => exact Nat.zero_le _
      | succ offset =>
          rw [size_cons] at within
          have later : offset + 1 - char.utf8Size ≤ offsetOf rest (indexOf rest _) :=
            ih (by omega)
          rw [indexOf, Nat.add_comm 1, offsetOf, List.take_succ_cons, size_cons]
          rw [offsetOf] at later
          omega

end Text
end FencedHighlight
