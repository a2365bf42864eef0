import FencedHighlight.Proofs.Delimiters.Lookahead

namespace FencedHighlight
namespace Brackets

/-!
Brackets of a single character.

With two different characters for brackets, the region that an opening begins ends at
the first closing that has no opening of its own inside the region.  So the text of a
region balances, and it is the only one after this opening that does so and is followed
by a closing.
-/

/-! ## Balance -/

/-- Whether a text balances where `depth` brackets have been opened before it: at no
place has more been closed than opened, and in the end everything is closed. -/
structure Balanced (opening closing : Char) (depth : Nat) (text : Text) : Prop where
  count_eq : text.count closing = text.count opening + depth
  count_le : ∀ head, head <+: text -> head.count closing ≤ head.count opening + depth

/-- Texts in which brackets stand in pairs, one inside the other or one after the
other. -/
inductive WellNested (opening closing : Char) : Text -> Prop where
  | empty : WellNested opening closing []
  | plain {char : Char} {rest : Text} (notOpening : char ≠ opening) (notClosing : char ≠ closing)
      (follows : WellNested opening closing rest) : WellNested opening closing (char :: rest)
  | pair {inner rest : Text} (nested : WellNested opening closing inner)
      (follows : WellNested opening closing rest) :
      WellNested opening closing (opening :: (inner ++ closing :: rest))

variable {opening closing : Char} {depth : Nat} {text inner : Text}

theorem balanced_nil_iff : Balanced opening closing depth [] ↔ depth = 0 := by
  constructor
  · intro balanced
    have counts := balanced.count_eq
    simp only [List.count_nil, Nat.zero_add] at counts
    exact counts.symm
  · rintro rfl
    refine ⟨rfl, fun head begins => ?_⟩
    rw [List.prefix_nil.mp begins]
    exact Nat.le_refl _

/-- A character matters only by what it adds to the two counts. -/
theorem balanced_cons_iff {char : Char} {later : Nat}
    (counts : ∀ tail : Text, (char :: tail).count closing + (tail.count opening + later) =
      tail.count closing + ((char :: tail).count opening + depth)) :
    Balanced opening closing depth (char :: text) ↔ Balanced opening closing later text := by
  constructor
  · intro balanced
    refine ⟨?_, fun head begins => ?_⟩
    · have whole := counts text
      have same := balanced.count_eq
      omega
    · have part := counts head
      have enough := balanced.count_le (char :: head) (List.cons_prefix_cons.mpr ⟨rfl, begins⟩)
      omega
  · intro balanced
    refine ⟨?_, fun head begins => ?_⟩
    · have whole := counts text
      have same := balanced.count_eq
      omega
    · rcases List.prefix_cons_iff.mp begins with rfl | ⟨tail, rfl, inside⟩
      · exact Nat.zero_le _
      · have part := counts tail
        have enough := balanced.count_le tail inside
        omega

theorem balanced_opening_iff (distinct : opening ≠ closing) :
    Balanced opening closing depth (opening :: text) ↔
      Balanced opening closing (depth + 1) text := by
  refine balanced_cons_iff fun tail => ?_
  rw [List.count_cons_of_ne distinct, List.count_cons_self]
  omega

theorem balanced_closing_succ_iff (distinct : opening ≠ closing) :
    Balanced opening closing (depth + 1) (closing :: text) ↔
      Balanced opening closing depth text := by
  refine balanced_cons_iff fun tail => ?_
  rw [List.count_cons_of_ne distinct.symm, List.count_cons_self]
  omega

/-- Nothing can be closed that has not been opened. -/
theorem not_balanced_closing (distinct : opening ≠ closing) :
    ¬ Balanced opening closing 0 (closing :: text) := by
  intro balanced
  have once := balanced.count_le [closing] (List.cons_prefix_cons.mpr ⟨rfl, List.nil_prefix⟩)
  rw [List.count_cons_self, List.count_cons_of_ne distinct.symm, List.count_nil,
    List.count_nil] at once
  omega

theorem balanced_plain_iff {char : Char} (notOpening : char ≠ opening)
    (notClosing : char ≠ closing) :
    Balanced opening closing depth (char :: text) ↔ Balanced opening closing depth text := by
  refine balanced_cons_iff fun tail => ?_
  rw [List.count_cons_of_ne notOpening, List.count_cons_of_ne notClosing]

/-- Pairs of brackets do not matter for the balance of what follows. -/
theorem WellNested.balanced_append_iff (distinct : opening ≠ closing)
    (nested : WellNested opening closing inner) (rest : Text) :
    Balanced opening closing depth (inner ++ rest) ↔ Balanced opening closing depth rest := by
  induction nested generalizing depth rest with
  | empty => exact Iff.rfl
  | plain notOpening notClosing _ ih =>
      rw [List.cons_append, balanced_plain_iff notOpening notClosing]
      exact ih rest
  | @pair inner between _ _ nested follows =>
      rw [List.cons_append, balanced_opening_iff distinct, List.append_assoc, nested,
        List.cons_append, balanced_closing_succ_iff distinct]
      exact follows rest

/-- However deep its pairs are nested, a well-nested text balances. -/
theorem WellNested.balanced (distinct : opening ≠ closing)
    (nested : WellNested opening closing inner) : Balanced opening closing 0 inner := by
  have whole := (nested.balanced_append_iff distinct []).mpr (balanced_nil_iff.mpr rfl)
  rwa [List.append_nil] at whole

/-- A balanced text begins with a well-nested one, which reaches to its end or to the
closing of a bracket opened before it. -/
theorem Balanced.exists_wellNested (distinct : opening ≠ closing)
    (balanced : Balanced opening closing depth text) :
    ∃ inner rest, text = inner ++ rest ∧ WellNested opening closing inner ∧
      (depth = 0 ∧ rest = [] ∨
        ∃ less after, depth = less + 1 ∧ rest = closing :: after ∧
          Balanced opening closing less after) := by
  induction extent : text.length using Nat.strongRecOn generalizing text depth with
  | ind length ih =>
      cases text with
      | nil => exact ⟨[], [], rfl, .empty, Or.inl ⟨balanced_nil_iff.mp balanced, rfl⟩⟩
      | cons char text =>
          rw [List.length_cons] at extent
          by_cases opens : char = opening
          · subst opens
            have inside := (balanced_opening_iff distinct).mp balanced
            rcases ih text.length (by omega) inside rfl with
              ⟨inner, rest, rfl, nested, ⟨impossible, _⟩ | ⟨less, after, same, rfl, closed⟩⟩
            · cases impossible
            · rcases Nat.succ.inj same with rfl
              rw [List.length_append, List.length_cons] at extent
              rcases ih after.length (by omega) closed rfl with ⟨others, rest, rfl, follows, ends⟩
              exact ⟨char :: (inner ++ closing :: others), rest, by simp,
                .pair nested follows, ends⟩
          · by_cases closes : char = closing
            · subst closes
              cases depth with
              | zero => exact absurd balanced (not_balanced_closing distinct)
              | succ depth =>
                  have closed := (balanced_closing_succ_iff distinct).mp balanced
                  exact ⟨[], char :: text, rfl, .empty, Or.inr ⟨depth, text, rfl, rfl, closed⟩⟩
            · have remaining := (balanced_plain_iff opens closes).mp balanced
              rcases ih text.length (by omega) remaining rfl with
                ⟨inner, rest, rfl, nested, ends⟩
              exact ⟨char :: inner, rest, rfl, .plain opens closes nested, ends⟩

/-- To be well nested is to balance. -/
theorem wellNested_iff (distinct : opening ≠ closing) :
    WellNested opening closing text ↔ Balanced opening closing 0 text := by
  constructor
  · exact WellNested.balanced distinct
  · intro balanced
    rcases balanced.exists_wellNested distinct with
      ⟨inner, rest, rfl, nested, ⟨_, rfl⟩ | ⟨less, _, impossible, _⟩⟩
    · rwa [List.append_nil]
    · cases impossible

/-! ## The text of a region -/

/-- The text before the closing for `depth` openings and one more that have come before
it. -/
def inside? (opening closing : Char) : (depth : Nat) -> Text -> Option Text
  | _, [] => none
  | 0, char :: rest =>
      if char = closing then some []
      else if char = opening then (inside? opening closing 1 rest).map (List.cons char)
      else (inside? opening closing 0 rest).map (List.cons char)
  | depth + 1, char :: rest =>
      if char = closing then (inside? opening closing depth rest).map (List.cons char)
      else if char = opening then
        (inside? opening closing (depth + 2) rest).map (List.cons char)
      else (inside? opening closing (depth + 1) rest).map (List.cons char)

@[simp] theorem inside?_nil : inside? opening closing depth [] = none := by
  cases depth <;> rfl

theorem inside?_closing_zero : inside? opening closing 0 (closing :: text) = some [] := by
  rw [inside?, if_pos rfl]

theorem inside?_closing_succ :
    inside? opening closing (depth + 1) (closing :: text) =
      (inside? opening closing depth text).map (List.cons closing) := by
  rw [inside?, if_pos rfl]

theorem inside?_opening (distinct : opening ≠ closing) :
    inside? opening closing depth (opening :: text) =
      (inside? opening closing (depth + 1) text).map (List.cons opening) := by
  cases depth <;> rw [inside?, if_neg distinct, if_pos rfl]

theorem inside?_plain {char : Char} (notOpening : char ≠ opening) (notClosing : char ≠ closing) :
    inside? opening closing depth (char :: text) =
      (inside? opening closing depth text).map (List.cons char) := by
  cases depth <;> rw [inside?, if_neg notClosing, if_neg notOpening]

/-- A text without brackets is passed over. -/
theorem inside?_append {plain : Text} (noOpening : opening ∉ plain) (noClosing : closing ∉ plain) :
    inside? opening closing depth (plain ++ text) =
      (inside? opening closing depth text).map (plain ++ ·) := by
  induction plain with
  | nil => simp only [List.nil_append, Option.map_id']
  | cons char plain ih =>
      rw [List.mem_cons, not_or] at noOpening noClosing
      rw [List.cons_append, inside?_plain (Ne.symm noOpening.1) (Ne.symm noClosing.1),
        ih noOpening.2 noClosing.2, Option.map_map]
      rfl

/-- Without a closing there is no region. -/
theorem inside?_eq_none (noClosing : closing ∉ text) :
    inside? opening closing depth text = none := by
  induction text generalizing depth with
  | nil => exact inside?_nil
  | cons char rest ih =>
      rw [List.mem_cons, not_or] at noClosing
      have different : char ≠ closing := Ne.symm noClosing.1
      have later {depth : Nat} := @ih depth noClosing.2
      cases depth <;> simp only [inside?, if_neg different, later, Option.map_none, ite_self]

/-- Whether a balanced text is what a text begins with, up to a closing. -/
def Encloses (opening closing : Char) (depth : Nat) (text inner : Text) : Prop :=
  Balanced opening closing depth inner ∧ ∃ after, text = inner ++ closing :: after

theorem encloses_nil : ¬ Encloses opening closing depth [] inner := by
  rintro ⟨_, after, whole⟩
  exact List.append_ne_nil_of_right_ne_nil inner (List.cons_ne_nil closing after) whole.symm

theorem encloses_closing_zero_iff (distinct : opening ≠ closing) :
    Encloses opening closing 0 (closing :: text) inner ↔ inner = [] := by
  constructor
  · rintro ⟨balanced, after, whole⟩
    cases inner with
    | nil => rfl
    | cons char inner =>
        rcases List.cons.inj whole with ⟨rfl, _⟩
        exact absurd balanced (not_balanced_closing distinct)
  · rintro rfl
    exact ⟨balanced_nil_iff.mpr rfl, text, rfl⟩

/-- Where the text cannot end yet, it goes on with the first character, and that
character decides what has to balance after it. -/
theorem encloses_cons_iff {char : Char} {later : Nat}
    (endsNot : char = closing -> depth ≠ 0)
    (step : ∀ tail, Balanced opening closing depth (char :: tail) ↔
      Balanced opening closing later tail) :
    Encloses opening closing depth (char :: text) inner ↔
      ∃ tail, Encloses opening closing later text tail ∧ char :: tail = inner := by
  constructor
  · rintro ⟨balanced, after, whole⟩
    cases inner with
    | nil =>
        rcases List.cons.inj whole with ⟨same, _⟩
        exact absurd (balanced_nil_iff.mp balanced) (endsNot same)
    | cons first tail =>
        rcases List.cons.inj whole with ⟨rfl, rest⟩
        exact ⟨tail, ⟨(step tail).mp balanced, after, rest⟩, rfl⟩
  · rintro ⟨tail, ⟨balanced, after, rfl⟩, rfl⟩
    exact ⟨(step tail).mpr balanced, after, rfl⟩

theorem inside?_eq_some_iff (distinct : opening ≠ closing) :
    inside? opening closing depth text = some inner ↔
      Encloses opening closing depth text inner := by
  induction text generalizing depth inner with
  | nil => simp only [inside?_nil, reduceCtorEq, encloses_nil]
  | cons char text ih =>
      by_cases opens : char = opening
      · subst opens
        rw [inside?_opening distinct, Option.map_eq_some_iff,
          encloses_cons_iff (fun same => absurd same distinct)
            (fun tail => balanced_opening_iff distinct)]
        simp only [ih]
      · by_cases closes : char = closing
        · subst closes
          cases depth with
          | zero =>
              rw [inside?_closing_zero, encloses_closing_zero_iff distinct, Option.some.injEq,
                eq_comm]
          | succ depth =>
              rw [inside?_closing_succ, Option.map_eq_some_iff,
                encloses_cons_iff (fun _ => Nat.succ_ne_zero depth)
                  (fun tail => balanced_closing_succ_iff distinct)]
              simp only [ih]
        · rw [inside?_plain opens closes, Option.map_eq_some_iff,
            encloses_cons_iff (fun same => absurd same closes)
              (fun tail => balanced_plain_iff opens closes)]
          simp only [ih]

/-- The text of the region that begins a text. -/
def content? (opening closing : Char) : Text -> Option Text
  | [] => none
  | char :: rest => if char = opening then inside? opening closing 0 rest else none

theorem content?_opening : content? opening closing (opening :: text) =
    inside? opening closing 0 text :=
  if_pos rfl

theorem content?_of_ne {char : Char} (different : char ≠ opening) :
    content? opening closing (char :: text) = none :=
  if_neg different

theorem content?_eq_some_iff (distinct : opening ≠ closing) :
    content? opening closing text = some inner ↔
      Balanced opening closing 0 inner ∧
        ∃ after, text = opening :: (inner ++ closing :: after) := by
  cases text with
  | nil => simp only [content?, reduceCtorEq, and_false, exists_false]
  | cons char rest =>
      by_cases opens : char = opening
      · subst opens
        rw [content?_opening, inside?_eq_some_iff distinct, Encloses]
        simp only [List.cons.injEq, true_and]
      · simp only [content?_of_ne opens, List.cons.injEq, opens, false_and, reduceCtorEq,
          exists_false, and_false]

end Brackets
end FencedHighlight
