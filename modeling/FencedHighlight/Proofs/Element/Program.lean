import FencedHighlight.Proofs.Element.Tag
import FencedHighlight.Proofs.Pattern.Descent
import FencedHighlight.Proofs.Pattern.Reading

namespace FencedHighlight
namespace Element

/-!
The programs for the tags of an element.

The pattern for the opening tag asks for the end of a word and looks behind, so it is not
regular: its letters are settled one by one, and the machine may come back to what follows them.
The pattern for the closing tag is regular, and its search is settled as a whole.
-/

open Pattern Pattern.Reader
open Delimiters (escape ofTag)

/-- A character in either case. -/
def letter (char : Char) : Tree :=
  .one (.anyCase (.single char)) 1

/-- Any characters but closing brackets, as many as there are. -/
def unclosed : Tree :=
  .repeated 0 none true (.one (.compl (.anyCase (.union .nothing (.single '>')))) 2)

/-- What follows the name in an opening tag. -/
def openingEnd : List Tree :=
  [.anchor .wordBoundary, unclosed, .look .behind false (letter '/'), letter '>']

/-- What follows the name in an opening tag, arranged. -/
def arrangedEnd : List Tree :=
  [.anchor .wordBoundary, unclosed, .look .behind false (.settled (letter '/')),
    .settled (letter '>')]

/-- What follows the name in a closing tag. -/
def closingEnd : List Tree :=
  [.repeated 0 none true (.one .space 1), letter '>']

def openingTrees (name : Text) : List Tree :=
  ('<' :: name).map (.settled ∘ rowTree folding) ++ arrangedEnd

def closingTrees (name : Text) : List Tree :=
  ('<' :: '/' :: name).map (rowTree folding) ++ closingEnd

/-- The search for an opening tag. -/
def openingProgram (name : Text) : Program :=
  Program.search false 0 (Tree.group 0 (Tree.sequence (openingTrees name))).compile

/-- The search for a closing tag. -/
def closingProgram (name : Text) : Program :=
  Program.search true 0 (Tree.group 0 (Tree.sequence (closingTrees name))).compile

/-! ## The classes of the pieces -/

/-- The piece for an ASCII character takes what is equal to it up to case. -/
theorem contains_rowTree {char : Char} (ascii : char.toNat < 128) (filled : char ≠ '\x00') :
    ∃ member nesting, rowTree folding char = .one member nesting ∧
      ∀ other, member.contains other = Unicode.sameUpToCase char other := by
  rw [rowTree]
  split
  · rename_i special
    have unlettered : Delimiters.specialChars.all (fun char => !char.isAlpha) = true := by decide
    have plain := List.all_eq_true.mp unlettered char (List.contains_iff_mem.mp special)
    rw [Bool.not_eq_true'] at plain
    have caseless := Unicode.isCaseless_of_ascii ascii plain
    refine ⟨_, _, rfl, fun other => ?_⟩
    rw [CharClass.contains, Bool.eq_iff_iff, beq_iff_eq]
    constructor
    · rintro rfl
      exact Unicode.sameUpToCase_refl char
    · exact fun same => (caseless other same).symm
  · exact ⟨_, _, rfl, CharClass.contains_anyCase_single ascii filled⟩

theorem plain_name {name : Text} (named : IsName name) :
    ∀ char ∈ name, char.toNat < 128 ∧ char ≠ '\x00' := by
  intro char member
  have plain := named.chars char member
  refine ⟨ascii_of_isNameChar plain, ?_⟩
  rintro rfl
  cases plain

/-- The class of a slash or of a closing bracket. -/
theorem contains_mark {mark : Char} (marked : mark = '/' ∨ mark = '>') (other : Char) :
    (CharClass.anyCase (.single mark)).contains other = (other == mark) := by
  have plain : mark.toNat < 128 ∧ mark ≠ '\x00' ∧ mark.isAlpha = false := by
    rcases marked with rfl | rfl
    · decide
    · decide
  have caseless := Unicode.isCaseless_of_ascii plain.1 plain.2.2
  rw [CharClass.contains_anyCase_single plain.1 plain.2.1, Bool.eq_iff_iff, beq_iff_eq]
  constructor
  · exact caseless other
  · rintro rfl
    exact Unicode.sameUpToCase_refl other

theorem any_mark {mark : Char} (marked : mark = '/' ∨ mark = '>') (char? : Option Char) :
    char?.any (CharClass.anyCase (.single mark)).contains = decide (char? = some mark) := by
  cases char? with
  | none => rfl
  | some other =>
      rw [Option.any_some, contains_mark marked, Bool.eq_iff_iff, beq_iff_eq, decide_eq_true_eq,
        Option.some_inj]

theorem contains_unclosed (other : Char) :
    (CharClass.compl (.anyCase (.union .nothing (.single '>')))).contains other = (other != '>') :=
  congrArg not (contains_mark (Or.inr rfl) other)

/-! ## Reading the patterns -/

variable {name : String}

theorem read_opening (name : String) :
    read (Text.ofString ("(?i)<" ++ escape name ++ "\\b[^>]*(?<!/)>")) =
      .ok ⟨Tree.sequence (('<' :: name.toList).map (rowTree folding) ++ openingEnd), 0, []⟩ := by
  have source : Text.ofString ("(?i)<" ++ escape name ++ "\\b[^>]*(?<!/)>") =
      '(' :: '?' :: 'i' :: ')' :: (('<' :: name.toList).flatMap written ++
        ['\\', 'b', '[', '^', '>', ']', '*', '(', '?', '<', '!', '/', ')', '>']) := by
    rw [Text.ofString, String.toList_append, String.toList_append, toList_escape]
    rfl
  rw [source]
  exact read_folding rfl (fun size steps before => rfl) (by simp [openingEnd])

theorem read_closing (name : String) :
    read (Text.ofString ("(?i)</" ++ escape name ++ "\\s*>")) =
      .ok ⟨Tree.sequence (closingTrees name.toList), 0, []⟩ := by
  have source : Text.ofString ("(?i)</" ++ escape name ++ "\\s*>") =
      '(' :: '?' :: 'i' :: ')' :: (('<' :: '/' :: name.toList).flatMap written ++
        ['\\', 's', '*', '>']) := by
    rw [Text.ofString, String.toList_append, String.toList_append, toList_escape]
    rfl
  rw [source]
  exact read_folding rfl (fun size steps before => rfl) (by simp [closingEnd])

/-! ## Arranging the trees -/

variable {trees rest : List Tree}

/-- The piece for a character is a class, which takes up little space. -/
theorem exists_rowTree (char : Char) :
    ∃ member nesting, rowTree folding char = .one member nesting ∧ nesting ≤ 1 ∧
      member.ampleFootprint ≤ 1024 := by
  rw [rowTree]
  split
  · refine ⟨_, _, rfl, Nat.zero_le 1, ?_⟩
    have size := Char.utf8Size_le_four char
    rw [CharClass.ampleFootprint]
    omega
  · exact ⟨_, _, rfl, Nat.le_refl 1, Nat.le_refl 1024⟩

theorem isRegular_opening (row : Text) :
    (Tree.sequence (row.map (rowTree folding) ++ openingEnd)).isRegular [] = false := by
  induction row with
  | nil => rfl
  | cons char row ih =>
      rw [List.map_cons, List.cons_append, Tree.sequence_cons _ (by simp [openingEnd]), Tree.isRegular, ih,
        Bool.and_false]

/-- The letters at the start of a row are settled one by one if the rest is not regular. -/
theorem arrange_opening (row : Text) {place : Tree.Place} (free : place.isFree = true)
    (leading : place.isLeading = true) :
    (Tree.sequence (row.map (rowTree folding) ++ openingEnd)).arrange [] place =
      Tree.sequence (row.map (.settled ∘ rowTree folding) ++ arrangedEnd) := by
  induction row generalizing place with
  | nil =>
      cases place with
      | part free =>
          cases free
          rfl
      | rest free leads =>
          rw [show leads = true from leading]
          cases free
          rfl
      | behind => cases free
  | cons char row ih =>
      have irregular := isRegular_opening row
      have onwards : (Tree.sequence (row.map (rowTree folding) ++ openingEnd)).arrange []
          (.rest true true) = Tree.sequence (row.map (.settled ∘ rowTree folding) ++ arrangedEnd) :=
        ih rfl rfl
      rw [List.map_cons, List.cons_append, List.map_cons, List.cons_append,
        Tree.sequence_cons _ (by simp [openingEnd]), Tree.sequence_cons _ (by simp [arrangedEnd])]
      rcases exists_rowTree char with ⟨member, nesting, same, _⟩
      simp only [Tree.arrange, Tree.isRegular, Tree.hasFixedLength, irregular, same, free, leading,
        onwards, Function.comp_apply, Bool.and_false, Bool.and_true, Bool.false_and,
        Bool.false_eq_true, if_false, if_true]

/-! ## Compiling them -/

/-- A row of characters is as plain as what follows it. -/
theorem plain_row {regular : Bool} (row : Text) {ends : List Tree}
    (plain : ∀ tree ∈ ends, Tree.Plain regular tree) :
    Tree.Plain regular (Tree.sequence (row.map (rowTree folding) ++ ends)) := by
  refine Tree.plain_sequence fun tree member => ?_
  rcases List.mem_append.mp member with letter | ending
  · rcases List.mem_map.mp letter with ⟨char, _, rfl⟩
    rcases exists_rowTree char with ⟨kind, nesting, same, _⟩
    exact same ▸ .one kind nesting
  · exact plain tree ending

theorem plain_openingEnd : ∀ tree ∈ openingEnd, Tree.Plain false tree := by
  rw [openingEnd]
  simp only [List.forall_mem_cons, List.not_mem_nil, false_implies, implies_true, and_true]
  exact ⟨.anchor .wordBoundary, .many true _ 2, .notBehind (.one _ 1) rfl, .one _ 1⟩

theorem plain_closingEnd : ∀ tree ∈ closingEnd, Tree.Plain true tree := by
  rw [closingEnd]
  simp only [List.forall_mem_cons, List.not_mem_nil, false_implies, implies_true, and_true]
  exact ⟨.many true .space 1, .one _ 1⟩

theorem plain_closing (name : Text) :
    Tree.Plain true (Tree.group 0 (Tree.sequence (closingTrees name))) :=
  .group 0 (plain_row _ plain_closingEnd)

theorem isCompilable_letters (row : Text) :
    (Tree.sequence (row.map (.settled ∘ rowTree folding) ++ arrangedEnd)).isCompilable = true := by
  induction row with
  | nil => decide +kernel
  | cons char row ih =>
      rcases exists_rowTree char with ⟨member, nesting, same, shallow, small⟩
      have within : member.ampleFootprint ≤ Tree.largestFootprint := Nat.le_trans small (by decide)
      have low : nesting ≤ Tree.deepestWriting := Nat.le_trans shallow (by decide)
      rw [List.map_cons, List.cons_append, Tree.sequence_cons _ (by simp [arrangedEnd]),
        Tree.isCompilable, ih,
        Bool.and_true, Function.comp_apply, same, Tree.isCompilable, Tree.isAdmissible, Tree.nesting,
        decide_eq_true low, Tree.footprint, decide_eq_true within]
      rfl

theorem ofTree?_opening (name : Text) :
    Program.ofTree? (Tree.sequence (('<' :: name).map (rowTree folding) ++ openingEnd)) 0 [] =
      some (openingProgram name) := by
  have arranged : (Tree.group 0 (Tree.sequence (('<' :: name).map (rowTree folding) ++
      openingEnd))).arrange [] (.part true) = .group 0 (Tree.sequence (openingTrees name)) := by
    rw [Tree.arrange, Tree.isRegular, isRegular_opening, Bool.and_false, Bool.and_false,
      if_neg Bool.false_ne_true,
      arrange_opening _ rfl rfl]
    rfl
  rw [Program.ofTree?, Program.matchTree, (plain_row _ plain_openingEnd).splitLookAhead?]
  simp only [Tree.isRegular, isRegular_opening, Bool.and_false, Bool.false_eq_true, if_false, arranged]
  rw [Tree.isCompilable, openingTrees, isCompilable_letters, if_pos rfl]
  rfl

theorem isRegular_closing (row : Text) :
    (Tree.sequence (row.map (rowTree folding) ++ closingEnd)).isRegular [] = true := by
  induction row with
  | nil => rfl
  | cons char row ih =>
      rcases exists_rowTree char with ⟨kind, nesting, same, _⟩
      rw [List.map_cons, List.cons_append, Tree.sequence_cons _ (by simp [closingEnd]), Tree.isRegular, ih,
        same]
      rfl

theorem ofTree?_closing (name : Text) :
    Program.ofTree? (Tree.sequence (closingTrees name)) 0 [] =
      if (Tree.group 0 (Tree.sequence (closingTrees name))).isAdmissible .group then
        some (closingProgram name)
      else
        none := by
  have regular : (Tree.sequence (closingTrees name)).isRegular [] = true := isRegular_closing _
  have whole : Program.splitLookAhead? (Tree.sequence (closingTrees name)) = none :=
    (plain_row _ plain_closingEnd).splitLookAhead?
  rw [Program.ofTree?, Program.matchTree, whole]
  simp only [Tree.isRegular, regular, List.contains_nil, Bool.not_false, Bool.and_true, if_true]
  rw [Tree.compileRegular_eq_compile (plain_closing name)]
  rfl

/-- The space for the pattern of a closing tag, and how deeply it is nested. -/
theorem footprint_closing (row : Text) :
    (Tree.sequence (row.map (rowTree folding) ++ closingEnd)).footprint CharClass.ampleFootprint ≤
        1024 * row.length + 82984 ∧
      (Tree.sequence (row.map (rowTree folding) ++ closingEnd)).nesting .laterPiece ≤ 2 ∧
      (Tree.sequence (row.map (rowTree folding) ++ closingEnd)).hasFairBounds = true := by
  induction row with
  | nil => exact ⟨by decide +kernel, by decide +kernel, by decide +kernel⟩
  | cons char row ih =>
      rcases exists_rowTree char with ⟨member, nesting, same, shallow, small⟩
      rw [List.map_cons, List.cons_append, Tree.sequence_cons _ (by simp [closingEnd]), same]
      refine ⟨?_, ?_, ?_⟩
      · rw [Tree.footprint, Tree.footprint, List.length_cons]
        omega
      · simp only [Tree.nesting]
        omega
      · rw [Tree.hasFairBounds, ih.2.2]
        rfl

theorem isAdmissible_closing {name : Text} (short : name.length ≤ 10000) :
    (Tree.group 0 (Tree.sequence (closingTrees name))).isAdmissible .group = true := by
  have spec : (Tree.sequence (closingTrees name)).footprint CharClass.ampleFootprint ≤
        1024 * (name.length + 2) + 82984 ∧
      (Tree.sequence (closingTrees name)).nesting .laterPiece ≤ 2 ∧
      (Tree.sequence (closingTrees name)).hasFairBounds = true := footprint_closing _
  have nested : (Tree.sequence (closingTrees name)).nesting .group =
      (Tree.sequence (closingTrees name)).nesting .laterPiece + 1 := rfl
  have low : (Tree.sequence (closingTrees name)).nesting .laterPiece + 1 + 1 ≤ Tree.deepestWriting :=
    Nat.le_trans (Nat.add_le_add_right spec.2.1 2) (by decide)
  have within : (Tree.sequence (closingTrees name)).footprint CharClass.ampleFootprint + 64 ≤
      Tree.largestFootprint := by
    have largest : Tree.largestFootprint = 10485760 := rfl
    omega
  rw [Tree.isAdmissible, Tree.hasFairBounds, spec.2.2, Tree.nesting, nested, decide_eq_true low,
    Tree.footprint, decide_eq_true within]
  rfl

/-- The delimiters of an element, unless its name is too long. -/
theorem ofTag_eq (name : String) :
    ofTag name =
      if (Tree.group 0 (Tree.sequence (closingTrees name.toList))).isAdmissible .group then
        .ok { opening := .compiled ("(?i)<" ++ escape name ++ "\\b[^>]*(?<!/)>")
                (openingProgram name.toList)
              closing := .compiled ("(?i)</" ++ escape name ++ "\\s*>") (closingProgram name.toList)
              tag := some name }
      else
        .error (.invalidPattern ("(?i)</" ++ escape name ++ "\\s*>")) := by
  have opening : Pattern.compile ("(?i)<" ++ escape name ++ "\\b[^>]*(?<!/)>") =
      .ok (.compiled ("(?i)<" ++ escape name ++ "\\b[^>]*(?<!/)>") (openingProgram name.toList)) := by
    rw [Pattern.compile, read_opening]
    simp only [ofTree?_opening]
  rw [ofTag, Delimiters.compile, opening, Pattern.compile, read_closing]
  simp only [ofTree?_closing]
  by_cases fits : (Tree.group 0 (Tree.sequence (closingTrees name.toList))).isAdmissible .group = true
  · simp only [if_pos fits]
    rfl
  · simp only [if_neg fits]
    rfl

/-- If the delimiters of an element can be made, these are their programs. -/
theorem programs_of_ofTag {delimiters : Delimiters} (made : ofTag name = .ok delimiters) :
    ∃ opening closing, delimiters =
      { opening := .compiled opening (openingProgram name.toList)
        closing := .compiled closing (closingProgram name.toList)
        tag := some name } := by
  rw [ofTag_eq] at made
  split at made
  · exact ⟨_, _, (Except.ok.inj made).symm⟩
  · cases made

theorem exists_ofTag (short : name.length ≤ 10000) : ∃ delimiters, ofTag name = .ok delimiters := by
  rw [ofTag_eq, if_pos (isAdmissible_closing short)]
  exact ⟨_, rfl⟩

/-! ## What stands in the programs -/

theorem searches_opening (name : Text) :
    (openingProgram name).Searches (Tree.group 0 (Tree.sequence (openingTrees name))) := by
  have plain : Tree.Plain false (Tree.group 0 (Tree.sequence (openingTrees name))) := by
    refine .group 0 (Tree.plain_sequence fun tree member => ?_)
    rcases List.mem_append.mp member with letter | ending
    · rcases List.mem_map.mp letter with ⟨char, _, rfl⟩
      rcases exists_rowTree char with ⟨kind, nesting, same, _⟩
      rw [Function.comp_apply, same]
      exact .settled (.one kind nesting) rfl
    · simp only [arrangedEnd, List.mem_cons, List.not_mem_nil, or_false] at ending
      rcases ending with rfl | rfl | rfl | rfl
      · exact .anchor .wordBoundary
      · exact .many true _ 2
      · exact .notBehind (.settled (.one _ 1) rfl) rfl
      · exact .settled (.one _ 1) rfl
  exact Program.searches_search false 0 plain

end Element
end FencedHighlight
