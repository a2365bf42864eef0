import FencedHighlight.Proofs.Text.Slice

namespace FencedHighlight
namespace Text

/-!
The first place of a text where something is found.

What is found at a place depends on the text from there on.  A search tries the places
one after the other, so it reports the first one, with the text it has passed over.
-/

variable {α : Type} {found? : Text -> Option α} {text skipped rest : Text} {result : α}

/-- What is found at the first place where something is found, after the text before
that place. -/
def first? (found? : Text -> Option α) : Text -> Option (Text × α)
  | [] => (found? []).map fun result => ([], result)
  | char :: rest =>
      ((found? (char :: rest)).map fun result => ([], result)).or
        ((first? found? rest).map fun found => (char :: found.1, found.2))

/-- The stretch of what is found behind a part of a text, from an offset on. -/
def stretch (offset : Nat) (found : Text × Text) : Span :=
  ⟨offset + size found.1, offset + size found.1 + size found.2⟩

theorem stretch_cons (offset : Nat) (char : Char) (found : Text × Text) :
    stretch (offset + char.utf8Size) found = stretch offset (char :: found.1, found.2) := by
  simp only [stretch, size_cons, Nat.add_assoc]

/-- Something is found behind a part of a text, and nowhere before that. -/
structure IsFirst (found? : Text -> Option α) (text skipped rest : Text) (result : α) :
    Prop where
  split : text = skipped ++ rest
  found : found? rest = some result
  missing : ∀ head tail, text = head ++ tail -> size head < size skipped -> found? tail = none

theorem first?_of_found (found : found? text = some result) :
    first? found? text = some ([], result) := by
  cases text with
  | nil => rw [first?, found, Option.map_some]
  | cons char rest => rw [first?, found, Option.map_some, Option.some_or]

theorem first?_of_missing {char : Char} (missing : found? (char :: rest) = none) :
    first? found? (char :: rest) =
      (first? found? rest).map fun found => (char :: found.1, found.2) := by
  rw [first?, missing, Option.map_none, Option.none_or]

/-- What is made of the first place, told from the next character on. -/
theorem first?_map_cons {β : Type} {char : Char} {make onwards : Text × α -> β}
    (moved : ∀ found, onwards found = make (char :: found.1, found.2)) :
    ((found? (char :: rest)).map fun result => make ([], result)).or
        ((first? found? rest).map onwards) = (first? found? (char :: rest)).map make := by
  rw [first?, Option.map_or, Option.map_map, Option.map_map, funext moved]
  rfl

/-- A part of a text where nothing is found is passed over. -/
theorem first?_append
    (missing : ∀ head tail, skipped = head ++ tail -> tail ≠ [] -> found? (tail ++ rest) = none) :
    first? found? (skipped ++ rest) =
      (first? found? rest).map fun found => (skipped ++ found.1, found.2) := by
  induction skipped with
  | nil => simp only [List.nil_append, Option.map_id']
  | cons char skipped ih =>
      have here : found? (char :: (skipped ++ rest)) = none :=
        missing [] (char :: skipped) rfl (List.cons_ne_nil char skipped)
      have later := ih fun head tail split => missing (char :: head) tail (by rw [split]; rfl)
      rw [List.cons_append, first?_of_missing here, later, Option.map_map]
      rfl

/-- Before the first place there is nothing for a narrower search either. -/
theorem IsFirst.first?_eq_map {narrower? : Text -> Option α}
    (first : IsFirst found? text skipped rest result)
    (narrower : ∀ text, found? text = none -> narrower? text = none) :
    first? narrower? text =
      (first? narrower? rest).map fun found => (skipped ++ found.1, found.2) := by
  rw [first.split]
  refine first?_append fun head tail split present => narrower _ ?_
  refine first.missing head (tail ++ rest) ?_ ?_
  · rw [first.split, split, List.append_assoc]
  · rw [split, size_append]
    exact Nat.lt_add_of_pos_right ((size_pos_iff tail).mpr present)

theorem first?_eq_none_iff :
    first? found? text = none ↔ ∀ head tail, text = head ++ tail -> found? tail = none := by
  induction text with
  | nil =>
      rw [first?, Option.map_eq_none_iff]
      constructor
      · intro missing head tail split
        rw [(List.append_eq_nil_iff.mp split.symm).2]
        exact missing
      · intro missing
        exact missing [] [] rfl
  | cons char rest ih =>
      rw [first?, Option.or_eq_none_iff, Option.map_eq_none_iff, Option.map_eq_none_iff, ih]
      constructor
      · rintro ⟨here, later⟩ head tail split
        rcases List.cons_eq_append_iff.mp split with ⟨rfl, rfl⟩ | ⟨others, rfl, inside⟩
        · exact here
        · exact later others tail inside
      · intro missing
        exact ⟨missing [] (char :: rest) rfl, fun head tail split =>
          missing (char :: head) tail (by rw [split]; rfl)⟩

theorem isFirst_nil_iff : IsFirst found? text [] rest result ↔
    text = rest ∧ found? rest = some result := by
  constructor
  · intro first
    exact ⟨first.split, first.found⟩
  · rintro ⟨split, found⟩
    exact ⟨split, found, fun _ _ _ shorter => absurd shorter (Nat.not_lt_zero _)⟩

theorem isFirst_cons_iff {char : Char} :
    IsFirst found? (char :: text) (char :: skipped) rest result ↔
      found? (char :: text) = none ∧ IsFirst found? text skipped rest result := by
  have nonempty := (size_pos_iff (char :: skipped)).mpr (List.cons_ne_nil char skipped)
  constructor
  · rintro ⟨split, found, missing⟩
    refine ⟨missing [] (char :: text) rfl nonempty, List.cons.inj split |>.2, found, ?_⟩
    intro head tail inside shorter
    exact missing (char :: head) tail (by rw [inside]; rfl) (Nat.add_lt_add_left shorter _)
  · rintro ⟨here, split, found, missing⟩
    refine ⟨by rw [split]; rfl, found, fun head tail inside shorter => ?_⟩
    rcases List.cons_eq_append_iff.mp inside with ⟨rfl, rfl⟩ | ⟨others, rfl, within⟩
    · exact here
    · exact missing others tail within (Nat.lt_of_add_lt_add_left shorter)

/-- A search reports exactly the first place where something is found. -/
theorem first?_eq_some_iff :
    first? found? text = some (skipped, result) ↔
      ∃ rest, IsFirst found? text skipped rest result := by
  induction text generalizing skipped with
  | nil =>
      rw [first?, Option.map_eq_some_iff]
      constructor
      · rintro ⟨here, found, same⟩
        rcases Prod.mk.inj same with ⟨rfl, rfl⟩
        exact ⟨[], (isFirst_nil_iff).mpr ⟨rfl, found⟩⟩
      · rintro ⟨rest, first⟩
        rcases List.append_eq_nil_iff.mp first.split.symm with ⟨rfl, rfl⟩
        exact ⟨result, first.found, rfl⟩
  | cons char text ih =>
      cases here : found? (char :: text) with
      | some other =>
          rw [first?_of_found here]
          constructor
          · intro same
            rcases Prod.mk.inj (Option.some.inj same) with ⟨rfl, rfl⟩
            exact ⟨char :: text, (isFirst_nil_iff).mpr ⟨rfl, here⟩⟩
          · rintro ⟨rest, first⟩
            cases skipped with
            | nil =>
                rcases (isFirst_nil_iff).mp first with ⟨rfl, found⟩
                rw [Option.some.inj (here.symm.trans found)]
            | cons other skipped =>
                have missing := first.missing [] (char :: text) rfl
                  ((size_pos_iff (other :: skipped)).mpr (List.cons_ne_nil other skipped))
                rw [here] at missing
                cases missing
      | none =>
          rw [first?_of_missing here, Option.map_eq_some_iff]
          constructor
          · rintro ⟨⟨passed, found⟩, later, same⟩
            rcases Prod.mk.inj same with ⟨rfl, rfl⟩
            rcases ih.mp later with ⟨rest, first⟩
            exact ⟨rest, (isFirst_cons_iff).mpr ⟨here, first⟩⟩
          · rintro ⟨rest, first⟩
            cases skipped with
            | nil =>
                rcases (isFirst_nil_iff).mp first with ⟨rfl, found⟩
                rw [here] at found
                cases found
            | cons other skipped =>
                rcases List.cons.inj first.split with ⟨rfl, _⟩
                exact ⟨(skipped, result), ih.mpr ⟨rest, ((isFirst_cons_iff).mp first).2⟩, rfl⟩

end Text
end FencedHighlight
