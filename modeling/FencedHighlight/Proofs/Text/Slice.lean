import FencedHighlight.Text

namespace FencedHighlight
namespace Text

/-!
Cuts and slices as decompositions of a text.

An offset into a text stands for the part before it: a cut at an offset exists
exactly if some part of the text from its start has that size.  All that is
needed about slices follows from this.  A part of a text is determined by its
size, so slices that meet can be joined, and a slice of a slice is a slice.
-/

/-- No character is without extent, so only the empty text is. -/
theorem size_eq_zero_iff (text : Text) : size text = 0 ↔ text = [] := by
  cases text with
  | nil => simp
  | cons char rest =>
      have extent := Char.utf8Size_pos char
      simp only [size_cons, reduceCtorEq, iff_false]
      omega

theorem size_pos_iff (text : Text) : 0 < size text ↔ text ≠ [] := by
  rw [Nat.pos_iff_ne_zero, ne_eq, size_eq_zero_iff]

/-- Two decompositions of one text at the same offset are the same. -/
theorem append_inj_of_size {left left' right right' : Text}
    (same : left ++ right = left' ++ right') (sizes : size left = size left') :
    left = left' ∧ right = right' := by
  induction left generalizing left' with
  | nil =>
      have empty : left' = [] := (size_eq_zero_iff left').mp sizes.symm
      subst empty
      exact ⟨rfl, same⟩
  | cons char rest ih =>
      cases left' with
      | nil =>
          have extent := Char.utf8Size_pos char
          simp only [size_cons, size_nil] at sizes
          omega
      | cons char' rest' =>
          simp only [List.cons_append, List.cons.injEq] at same
          rcases same with ⟨rfl, tails⟩
          have restSizes : size rest = size rest' := by
            simp only [size_cons] at sizes
            omega
          rcases ih tails restSizes with ⟨rfl, rights⟩
          exact ⟨rfl, rights⟩

/-- Of two parts from the start of a text, the wider one begins with the other. -/
theorem exists_append_of_size_le {left left' right right' : Text}
    (same : left ++ right = left' ++ right') (sizes : size left ≤ size left') :
    ∃ between, left' = left ++ between := by
  rcases List.append_eq_append_iff.mp same with ⟨between, wider, _⟩ | ⟨between, wider, _⟩
  · exact ⟨between, wider⟩
  · rw [wider, size_append] at sizes
    have empty : between = [] := (size_eq_zero_iff between).mp (by omega)
    exact ⟨[], by rw [wider, empty, List.append_nil, List.append_nil]⟩

/-- What a wider part from the start of a text has more than another one. -/
theorem exists_append_of_size_lt {left left' right right' : Text}
    (same : left ++ right = left' ++ right') (sizes : size left < size left') :
    ∃ between, between ≠ [] ∧ left' = left ++ between ∧ right = between ++ right' := by
  rcases exists_append_of_size_le same (Nat.le_of_lt sizes) with ⟨between, rfl⟩
  rw [List.append_assoc, List.append_cancel_left_eq] at same
  refine ⟨between, ?_, rfl, same⟩
  rintro rfl
  rw [List.append_nil] at sizes
  exact Nat.lt_irrefl _ sizes

/-- The size of a text with a first character, for recursions that count offsets down. -/
theorem exists_size_cons (char : Char) (rest : Text) :
    ∃ offset, size (char :: rest) = offset + 1 ∧ char.utf8Size ≤ offset + 1 ∧
      offset + 1 - char.utf8Size = size rest := by
  have extent := Char.utf8Size_pos char
  refine ⟨size (char :: rest) - 1, ?_, ?_, ?_⟩ <;> rw [size_cons] <;> omega

/-- A cut at the end of a part from the start gives that part. -/
theorem cut?_append (left right : Text) :
    cut? (left ++ right) (size left) = some (left, right) := by
  induction left with
  | nil => cases right <;> rfl
  | cons char rest ih =>
      rcases exists_size_cons char rest with ⟨offset, split, fits, remaining⟩
      rw [split, List.cons_append, cut?, if_pos fits, remaining, ih]
      rfl

theorem cut?_eq_some_iff {text left right : Text} {offset : Nat} :
    cut? text offset = some (left, right) ↔ text = left ++ right ∧ size left = offset := by
  constructor
  · intro found
    fun_induction cut? text offset generalizing left right with
    | case1 text =>
        rcases Prod.mk.inj (Option.some.inj found) with ⟨rfl, rfl⟩
        exact ⟨rfl, rfl⟩
    | case2 => cases found
    | case3 char rest offset fits ih =>
        rcases Option.map_eq_some_iff.mp found with ⟨⟨inner, after⟩, cut, halves⟩
        rcases Prod.mk.inj halves with ⟨rfl, rfl⟩
        rcases ih cut with ⟨rfl, extent⟩
        refine ⟨rfl, ?_⟩
        rw [size_cons, extent]
        omega
    | case4 => cases found
  · rintro ⟨rfl, rfl⟩
    exact cut?_append left right

/-- A slice is what lies between a part before it and a part after it. -/
theorem slice?_eq_some_iff {text middle : Text} {start stop : Nat} :
    slice? text start stop = some middle ↔
      ∃ left right, text = left ++ middle ++ right ∧
        size left = start ∧ start + size middle = stop := by
  unfold slice?
  constructor
  · intro found
    by_cases ordered : start ≤ stop
    · rw [if_pos ordered] at found
      simp only [Option.bind_eq_bind, Option.bind_eq_some_iff] at found
      rcases found with ⟨⟨left, after⟩, first, ⟨inner, right⟩, second, same⟩
      rcases Option.some.inj same with rfl
      rcases (cut?_eq_some_iff).mp first with ⟨rfl, startsAt⟩
      rcases (cut?_eq_some_iff).mp second with ⟨rfl, extent⟩
      refine ⟨left, right, by rw [List.append_assoc], startsAt, ?_⟩
      rw [extent]
      omega
    · rw [if_neg ordered] at found
      cases found
  · rintro ⟨left, right, rfl, rfl, rfl⟩
    have extent : size left + size middle - size left = size middle := by omega
    rw [if_pos (Nat.le_add_right _ _), List.append_assoc, cut?_append, extent]
    simp only [Option.bind_eq_bind, Option.bind_some, cut?_append]
    rfl

theorem size_of_slice? {text middle : Text} {start stop : Nat}
    (found : slice? text start stop = some middle) : start + size middle = stop := by
  rcases (slice?_eq_some_iff).mp found with ⟨_, _, _, _, extent⟩
  exact extent

theorem le_size_of_slice? {text middle : Text} {start stop : Nat}
    (found : slice? text start stop = some middle) : stop ≤ size text := by
  rcases (slice?_eq_some_iff).mp found with ⟨left, right, rfl, startsAt, extent⟩
  rw [size_append, size_append]
  omega

/-- A slice with some extent is not empty. -/
theorem ne_nil_of_slice? {text middle : Text} {start stop : Nat} (ordered : start < stop)
    (found : slice? text start stop = some middle) : middle ≠ [] := by
  have extent := size_of_slice? found
  apply (size_pos_iff middle).mp
  omega

theorem slice?_prefix (left right : Text) :
    slice? (left ++ right) 0 (size left) = some left :=
  (slice?_eq_some_iff).mpr ⟨[], right, rfl, rfl, Nat.zero_add _⟩

theorem slice?_whole (text : Text) : slice? text 0 (size text) = some text := by
  have whole := slice?_prefix text []
  rwa [List.append_nil] at whole

theorem slice?_zero (text : Text) : slice? text 0 0 = some [] :=
  slice?_prefix [] text

/-- Two slices that meet make up one. -/
theorem slice?_append {text first second : Text} {start middle stop : Nat}
    (before : slice? text start middle = some first)
    (after : slice? text middle stop = some second) :
    slice? text start stop = some (first ++ second) := by
  rcases (slice?_eq_some_iff).mp before with ⟨left, rest, whole, startsAt, extent⟩
  rcases (slice?_eq_some_iff).mp after with ⟨left', right, whole', startsAt', extent'⟩
  have sizes : size (left ++ first) = size left' := by
    rw [size_append, startsAt, extent, startsAt']
  have same : (left ++ first) ++ rest = left' ++ (second ++ right) := by
    rw [← whole, whole', List.append_assoc]
  rcases append_inj_of_size same sizes with ⟨rfl, rfl⟩
  refine (slice?_eq_some_iff).mpr ⟨left, right, ?_, startsAt, ?_⟩
  · rw [whole]
    simp only [List.append_assoc]
  · rw [size_append]
    omega

/-- Within a slice, the offsets of the text are those of the slice, moved by the
start of the slice. -/
theorem slice?_of_slice? {text middle : Text} {start stop : Nat}
    (outer : slice? text start stop = some middle) {first last : Nat}
    (firstInside : start ≤ first) (lastInside : start ≤ last) (lastWithin : last ≤ stop) :
    slice? text first last = slice? middle (first - start) (last - start) := by
  rcases (slice?_eq_some_iff).mp outer with ⟨left, right, rfl, rfl, rfl⟩
  apply Option.ext
  intro inner
  rw [slice?_eq_some_iff, slice?_eq_some_iff]
  constructor
  · rintro ⟨before, after, whole, startsAt, extent⟩
    rw [List.append_assoc, List.append_assoc before] at whole
    rcases exists_append_of_size_le whole (by omega) with ⟨skipped, rfl⟩
    rw [List.append_assoc left] at whole
    have tails := List.append_cancel_left whole
    rw [size_append] at startsAt
    have reach : size (skipped ++ inner) ≤ size middle := by
      rw [size_append]
      omega
    rw [← List.append_assoc] at tails
    rcases exists_append_of_size_le tails.symm reach with ⟨remaining, rfl⟩
    exact ⟨skipped, remaining, rfl, by omega, by omega⟩
  · rintro ⟨skipped, remaining, rfl, startsAt, extent⟩
    refine ⟨left ++ skipped, remaining ++ right, ?_, ?_, by omega⟩
    · simp only [List.append_assoc]
    · rw [size_append]
      omega

end Text
end FencedHighlight
