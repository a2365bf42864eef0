import FencedHighlight.Text
import FencedHighlight.Proofs.Unicode.Ascii
import Mathlib.Data.List.Forall2
import Mathlib.Data.List.TakeWhile

namespace FencedHighlight

/-!
The tags of an element.

The name in a tag goes up to white space, a slash or the closing bracket, and belongs to the
element if it is spelled like the name of the element in letters of either case.  A reader that
only looks for the end of a word behind the name takes more tags: those of elements whose name
begins with this one and goes on with a character that takes no part in words.
-/

namespace Unicode

theorem mem_of_whiteSpace {code : Nat} (blank : Derived.whiteSpace.containsCode code = true) :
    code ∈ [9, 10, 11, 12, 13, 32, 133, 160, 5760, 8192, 8193, 8194, 8195, 8196, 8197, 8198, 8199,
      8200, 8201, 8202, 8232, 8233, 8239, 8287, 12288] := by
  simp [RangeTable.containsCode, Derived.whiteSpace, RangeTable.rank] at blank
  simp only [List.mem_cons, List.not_mem_nil, or_false]
  repeat' split at blank
  all_goals omega

end Unicode

namespace Element

open Pattern (CharClass)

/-! ## Names -/

/-- Whether a character may stand in the name of an element. -/
def isNameChar (char : Char) : Bool :=
  char.isAlpha || char.isDigit || char == '-'

/-- The name of an element: letters, digits and hyphens of ASCII, of which a letter comes
first. -/
structure IsName (name : Text) : Prop where
  begins : name.head?.any Char.isAlpha = true
  chars : ∀ char ∈ name, isNameChar char = true

theorem isName_iff {name : Text} :
    (name.head?.any Char.isAlpha && name.all isNameChar) = true ↔ IsName name := by
  rw [Bool.and_eq_true, List.all_eq_true]
  exact ⟨fun both => ⟨both.1, both.2⟩, fun named => ⟨named.begins, named.chars⟩⟩

instance (name : Text) : Decidable (IsName name) :=
  decidable_of_iff _ isName_iff

/-- Whether a character ends the name of the element in a tag. -/
def endsName (char : Char) : Bool :=
  char == '/' || char == '>' || CharClass.space.contains char

/-- Whether a text is another one in letters of either case. -/
abbrev Spells (name spelled : Text) : Prop :=
  List.Forall₂ (fun char other => Unicode.sameUpToCase char other = true) name spelled

/-- Whether a character takes part in words. -/
def isWord (char : Char) : Bool :=
  CharClass.word.contains char

variable {name spelled : Text} {char other : Char}

theorem not_isWord_of_endsName (ends : endsName char = true) : isWord char = false := by
  rw [endsName, Bool.or_eq_true, Bool.or_eq_true, beq_iff_eq, beq_iff_eq] at ends
  rcases ends with (rfl | rfl) | blank
  · decide +kernel
  · decide +kernel
  · have listed := Unicode.mem_of_whiteSpace ((Bool.false_bne _).symm.trans blank)
    have checked : ([9, 10, 11, 12, 13, 32, 133, 160, 5760, 8192, 8193, 8194, 8195, 8196, 8197,
        8198, 8199, 8200, 8201, 8202, 8232, 8233, 8239, 8287, 12288].all fun code =>
        !isWord (Char.ofNat code)) = true := by
      decide +kernel
    have holds := List.all_eq_true.mp checked char.toNat listed
    rwa [Char.ofNat_toNat, Bool.not_eq_true'] at holds

theorem ascii_of_isNameChar (plain : isNameChar char = true) : char.toNat < 128 := by
  rw [isNameChar, Bool.or_eq_true, Bool.or_eq_true, beq_iff_eq, Unicode.isAlpha_iff,
    Char.isDigit_iff_toNat] at plain
  rcases plain with (letter | digit) | rfl
  · omega
  · have last : '9'.toNat = 57 := rfl
    omega
  · decide

/-- What holds of all characters of names can be checked. -/
theorem of_isNameChar {Holds : Char -> Prop} [DecidablePred Holds]
    (checked : (List.range 128).all (fun code =>
      !isNameChar (Char.ofNat code) || decide (Holds (Char.ofNat code))) = true)
    (plain : isNameChar char = true) : Holds char := by
  have ascii := ascii_of_isNameChar plain
  have holds := List.all_eq_true.mp checked char.toNat (List.mem_range.mpr ascii)
  rw [Char.ofNat_toNat, plain, Bool.not_true, Bool.false_or] at holds
  exact of_decide_eq_true holds

/-- Characters of names take part in words, the hyphen apart. -/
theorem isWord_of_isNameChar (plain : isNameChar char = true) (filled : char ≠ '-') :
    isWord char = true := by
  have spec : char = '-' ∨ isWord char = true :=
    @of_isNameChar char (fun char => char = '-' ∨ isWord char = true) _ (by decide +kernel) plain
  exact spec.resolve_left filled

/-- What spells a character of a name ends no name, and takes part in words if the character
does. -/
theorem spec_of_sameUpToCase (plain : isNameChar char = true)
    (same : Unicode.sameUpToCase char other = true) :
    endsName other = false ∧ (char ≠ '-' -> isWord other = true) := by
  have own {char : Char} (plain : isNameChar char = true) : endsName char = false :=
    @of_isNameChar char (fun char => endsName char = false) _ (by decide +kernel) plain
  rcases Unicode.cases_of_sameUpToCase (ascii_of_isNameChar plain) same with
    rfl | ⟨_, letter⟩ | ⟨_, rfl | rfl⟩
  · exact ⟨own plain, isWord_of_isNameChar plain⟩
  · have plain : isNameChar other = true := by rw [isNameChar, letter]; rfl
    refine ⟨own plain, fun _ => isWord_of_isNameChar plain ?_⟩
    rintro rfl
    cases letter
  · exact ⟨by decide +kernel, fun _ => by decide +kernel⟩
  · exact ⟨by decide +kernel, fun _ => by decide +kernel⟩

/-! ## Tags -/

/-- The name of the element in a tag. -/
def nameOf (tag : Text) : Text :=
  (tag.drop 1).takeWhile fun char => !endsName char

/-- Whether a text is a tag that opens something: it goes up to the first closing bracket, and
no slash stands before that. -/
def IsOpening (tag : Text) : Prop :=
  ∃ inside, tag = '<' :: inside ++ ['>'] ∧ '>' ∉ inside ∧ inside.getLast? ≠ some '/'

/-- Whether a text is an opening tag of the element with a name. -/
def Opens (name tag : Text) : Prop :=
  IsOpening tag ∧ Spells name (nameOf tag)

/-- Whether a text is a closing tag of the element with a name. -/
def Closes (name tag : Text) : Prop :=
  ∃ spelled blanks, tag = '<' :: '/' :: spelled ++ blanks ++ ['>'] ∧ Spells name spelled ∧
    ∀ char ∈ blanks, CharClass.space.contains char = true

/-- Whether a text is an opening tag in which a name is followed by the other sort of
characters, word or not, than that in which it ends. -/
def Passes (name tag : Text) : Prop :=
  IsOpening tag ∧ ∃ spelled next rest, tag = '<' :: spelled ++ next :: rest ∧
    Spells name spelled ∧ spelled.getLast?.any isWord ≠ isWord next

/-- Whether a text is a tag of another element that passes for one of the element with a
name. -/
def Misleads (name tag : Text) : Prop :=
  Passes name tag ∧ ¬Opens name tag

namespace Spells

/-- No character of what spells a name ends a name. -/
theorem endsName_eq_false (spells : Spells name spelled)
    (plain : ∀ char ∈ name, isNameChar char = true) :
    ∀ char ∈ spelled, endsName char = false := by
  induction spells with
  | nil => exact fun char member => absurd member List.not_mem_nil
  | cons same _ ih =>
      intro char member
      rcases List.mem_cons.mp member with rfl | member
      · exact (spec_of_sameUpToCase (plain _ List.mem_cons_self) same).1
      · exact ih (fun char member => plain char (List.mem_cons_of_mem _ member)) char member

/-- What spells a name ends in a character of words if the name does. -/
theorem isWord_getLast? (spells : Spells name spelled) (named : IsName name)
    (bare : name.getLast? ≠ some '-') : spelled.getLast?.any isWord = true := by
  have reversed := List.forall₂_reverse_iff.mpr spells
  rw [List.getLast?_eq_head?_reverse] at bare ⊢
  have plain : ∀ char ∈ name.reverse, isNameChar char = true :=
    fun char member => named.chars char (List.mem_reverse.mp member)
  cases last : name.reverse with
  | nil =>
      have begins := named.begins
      rw [List.reverse_eq_nil_iff.mp last] at begins
      cases begins
  | cons char before =>
      rw [last] at reversed bare plain
      generalize spelled.reverse = spelled at reversed ⊢
      cases reversed with
      | cons same _ =>
          refine (spec_of_sameUpToCase (plain char List.mem_cons_self) same).2 ?_
          rintro rfl
          exact bare rfl

end Spells

variable {tag : Text} {next : Char} {rest : Text}

/-- In a tag of the element its name is followed by a character that ends it. -/
theorem opens_iff_of_isOpening (named : IsName name) (opening : IsOpening tag) :
    Opens name tag ↔ ∃ spelled next rest, tag = '<' :: spelled ++ next :: rest ∧
      Spells name spelled ∧ endsName next = true := by
  constructor
  · rintro ⟨⟨inside, rfl, _, _⟩, spells⟩
    have parts := @List.takeWhile_append_dropWhile _ (fun char => !endsName char) (inside ++ ['>'])
    cases later : (inside ++ ['>']).dropWhile fun char => !endsName char with
    | nil =>
        have all := List.dropWhile_eq_nil_iff.mp later '>' (List.mem_append_right _ List.mem_cons_self)
        cases all
    | cons next rest =>
        rw [later] at parts
        refine ⟨_, next, rest, ?_, spells, ?_⟩
        · exact congrArg ('<' :: ·) parts.symm
        · have stops := List.head?_dropWhile_not (fun char => !endsName char) (inside ++ ['>'])
          rw [later] at stops
          simpa using stops
  · rintro ⟨spelled, next, rest, rfl, spells, ends⟩
    refine ⟨opening, ?_⟩
    have name : nameOf ('<' :: spelled ++ next :: rest) = spelled := by
      change (spelled ++ next :: rest).takeWhile (fun char => !endsName char) = spelled
      rw [List.takeWhile_append_of_pos, List.takeWhile_cons, ends]
      · simp only [Bool.not_true, Bool.false_eq_true, if_false, List.append_nil]
      · intro other member
        rw [spells.endsName_eq_false named.chars other member]
        rfl
    rwa [name]

/-- A tag of the element passes for one, unless the name ends in a hyphen. -/
theorem passes_of_opens (named : IsName name) (bare : name.getLast? ≠ some '-')
    (opens : Opens name tag) : Passes name tag := by
  rcases (opens_iff_of_isOpening named opens.1).mp opens with
    ⟨spelled, next, rest, split, spells, ends⟩
  refine ⟨opens.1, spelled, next, rest, split, spells, ?_⟩
  rw [spells.isWord_getLast? named bare, not_isWord_of_endsName ends]
  exact Bool.true_eq_false.mp

end Element
end FencedHighlight
