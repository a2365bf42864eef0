import FencedHighlight.Delimiters
import Mathlib.Tactic.FinCases

namespace FencedHighlight
namespace Pattern
namespace Reader

/-!
Reading a row of characters.

A character that has a meaning of its own in patterns is written behind a backslash.  Then
every character of a text reads as a piece of its own, whatever the text is, and no sign that
follows bears on it.  So a pattern that begins with an escaped text reads as the row of the
characters of this text, followed by what the rest of the pattern reads as.
-/

open Delimiters (specialChars escape)

variable {flags : Flags} {state : State} {char : Char} {rest : List Char} {piece : Tree}

/-- Whether a text begins with no sign that would bear on what stands before it. -/
def isCalm (rest : List Char) : Bool :=
  rest.head?.all fun char => !(['(', '?', '*', '+', '{'].contains char)

theorem skipBlanks_of_ne (unspaced : flags.spaced = false) (plain : char ≠ '(') :
    skipBlanks flags (char :: rest) = .ok (char :: rest) := by
  rw [skipBlanks, unspaced]
  unfold skip
  split <;> simp_all

theorem skipBlanks_of_isCalm (unspaced : flags.spaced = false) (calm : isCalm rest = true) :
    skipBlanks flags rest = .ok rest := by
  cases rest with
  | nil => rfl
  | cons char rest =>
      refine skipBlanks_of_ne unspaced ?_
      rintro rfl
      cases calm

theorem readRepetition_of_isCalm (unspaced : flags.spaced = false) (calm : isCalm rest = true) :
    readRepetition flags piece rest = .ok (piece, rest) := by
  rw [readRepetition, skipBlanks_of_isCalm unspaced calm]
  simp only [bind, Except.bind]
  split
  · rfl
  · rename_i found
    split at found <;> first | cases calm | cases found

theorem attach_of_isCalm (unspaced : state.flags.spaced = false) (calm : isCalm rest = true) :
    state.attach piece rest = .ok (state.push piece, rest) := by
  rw [State.attach, readRepetition_of_isCalm unspaced calm]
  rfl

/-- The piece for a character of a text that stands for itself. -/
def rowTree (flags : Flags) (char : Char) : Tree :=
  if specialChars.contains char then .one (.single char) 0 else literalTree flags char

theorem readEscape_of_special (special : char ∈ specialChars) :
    readEscape flags false (char :: rest) = .ok (.literal char, rest) := by
  unfold specialChars at special
  fin_cases special <;> rfl

theorem readPiece_of_plain (plain : char ∉ specialChars) (size : Nat) :
    readPiece size state (char :: rest) = state.attach (literalTree state.flags char) rest := by
  unfold readPiece
  split <;> rename_i same <;> cases same <;> first
    | rfl
    | exact absurd (by decide) plain

theorem signs_subset : ['|', '(', ')'] ++ ['(', '?', '*', '+', '{'] ⊆ specialChars := by
  decide

/-- A piece is read where no group begins or ends. -/
theorem readAll_of_readPiece (unspaced : state.flags.spaced = false)
    (plain : !(['|', '(', ')'].contains char)) {size steps : Nat} :
    readAll size (steps + 1) state (char :: rest) =
      (readPiece size state (char :: rest)).bind fun read => readAll size steps read.1 read.2 := by
  have open' : char ≠ '(' := by
    rintro rfl
    cases plain
  rw [readAll, skipBlanks_of_ne unspaced open']
  simp only [bind, Except.bind]
  split <;> rename_i same <;> first
    | rfl
    | cases same <;> cases plain

theorem readAll_plain (unspaced : state.flags.spaced = false) (plain : char ∉ specialChars)
    (calm : isCalm rest = true) {size steps : Nat} :
    readAll size (steps + 1) state (char :: rest) =
      readAll size steps (state.push (rowTree state.flags char)) rest := by
  have piece : !(['|', '(', ')'].contains char) := by
    rw [Bool.not_eq_true', Bool.eq_false_iff]
    intro listed
    exact plain (signs_subset (List.mem_append_left _ (List.contains_iff_mem.mp listed)))
  rw [readAll_of_readPiece unspaced piece, readPiece_of_plain plain,
    attach_of_isCalm unspaced calm, rowTree, if_neg (by rwa [List.contains_iff_mem])]
  rfl

theorem readAll_special (unspaced : state.flags.spaced = false) (special : char ∈ specialChars)
    (calm : isCalm rest = true) {size steps : Nat} :
    readAll size (steps + 1) state ('\\' :: char :: rest) =
      readAll size steps (state.push (rowTree state.flags char)) rest := by
  rw [readAll_of_readPiece unspaced rfl]
  simp only [readPiece, readEscape_of_special special, bind, Except.bind,
    attach_of_isCalm unspaced calm, rowTree, if_pos (List.contains_iff_mem.mpr special)]

/-- How a character of a text is written where it stands for itself. -/
def written (char : Char) : List Char :=
  if specialChars.contains char then ['\\', char] else [char]

theorem toList_escape (text : String) : (escape text).toList = text.toList.flatMap written := by
  rw [escape, String.toList_ofList]
  rfl

theorem isCalm_written (char : Char) (rest : List Char) : isCalm (written char ++ rest) = true := by
  unfold written
  split
  · rfl
  · rename_i plain
    refine Bool.eq_true_of_not_eq_false fun restless => plain ?_
    rw [List.singleton_append, isCalm, List.head?_cons, Option.all_some, Bool.not_eq_false']
      at restless
    exact List.contains_iff_mem.mpr
      (signs_subset (List.mem_append_right _ (List.contains_iff_mem.mp restless)))

theorem isCalm_flatMap_written (text : List Char) (calm : isCalm rest = true) :
    isCalm (text.flatMap written ++ rest) = true := by
  cases text with
  | nil => exact calm
  | cons char text =>
      rw [List.flatMap_cons, List.append_assoc]
      exact isCalm_written char _

/-- What is being read of a pattern without groups, under flags, with the newest piece first. -/
def inRow (flags : Flags) (pieces : List Tree) : State :=
  { flags, level := { kind := .whole, pieces } }

theorem push_inRow (char : Char) (pieces : List Tree) :
    (inRow flags pieces).push (rowTree flags char) = inRow flags (rowTree flags char :: pieces) := by
  unfold rowTree
  split <;> rfl

/-- An escaped text is read as the row of its characters. -/
theorem readAll_escape (unspaced : flags.spaced = false) (calm : isCalm rest = true)
    (text : List Char) (pieces : List Tree) {size steps : Nat} :
    readAll size (steps + text.length) (inRow flags pieces) (text.flatMap written ++ rest) =
      readAll size steps (inRow flags ((text.map (rowTree flags)).reverse ++ pieces)) rest := by
  induction text generalizing pieces with
  | nil => rfl
  | cons char text ih =>
      have next := ih (rowTree flags char :: pieces)
      rw [← push_inRow] at next
      have onwards := isCalm_flatMap_written text calm
      rw [List.flatMap_cons, List.append_assoc, List.map_cons, List.reverse_cons,
        List.append_assoc, List.singleton_append, List.length_cons, ← Nat.add_assoc]
      refine Eq.trans ?_ next
      by_cases special : char ∈ specialChars
      · rw [written, if_pos (List.contains_iff_mem.mpr special)]
        exact readAll_special unspaced special onwards
      · rw [written, if_neg (by rwa [List.contains_iff_mem])]
        exact readAll_plain unspaced special onwards

/-- The flags of a pattern in which case does not count. -/
def folding : Flags :=
  { anyCase := true }

/-- The sign that case does not count takes up a step of its own. -/
theorem readAll_folding (calm : isCalm rest = true) {size steps : Nat} :
    readAll size (steps + 1) {} ('(' :: '?' :: 'i' :: ')' :: rest) =
      readAll size steps (inRow folding []) rest := by
  have attached : State.attach (inRow folding []) .empty rest = .ok (inRow folding [], rest) :=
    attach_of_isCalm rfl calm
  have group : readGroupStart {} ('?' :: 'i' :: ')' :: rest) = .ok (inRow folding [], rest) := by
    rw [← attached]
    simp [readGroupStart, deepestNesting, skipBlanks, skip, readFlags, inRow, folding, bind,
      Except.bind]
  have step : readAll size (steps + 1) {} ('(' :: '?' :: 'i' :: ')' :: rest) =
      (readGroupStart {} ('?' :: 'i' :: ')' :: rest)).bind fun read =>
        readAll size steps read.1 read.2 := by
    rw [readAll]
    rfl
  rw [step, group]
  rfl

theorem length_flatMap_written (row : List Char) : row.length ≤ (row.flatMap written).length := by
  induction row with
  | nil => exact Nat.le_refl _
  | cons char row ih =>
      have some : 1 ≤ (written char).length := by
        unfold written
        split
        · exact Nat.le_add_left 1 1
        · exact Nat.le_refl 1
      rw [List.flatMap_cons, List.length_append, List.length_cons]
      omega

/-- A pattern without groups is read as the row of its pieces. -/
theorem read_of_row {text : List Char} {trees : List Tree}
    (state : readAll (Text.size text) (2 * text.length + 1) {} text =
      .ok (inRow flags trees.reverse))
    (bare : (Tree.sequence trees).bare = Tree.sequence trees) :
    read text = .ok ⟨Tree.sequence trees, 0, []⟩ := by
  have content : (inRow flags trees.reverse).content = .ok (Tree.sequence trees) :=
    congrArg (fun all => Except.ok (Tree.sequence all)) (List.reverse_reverse trees)
  rw [read]
  simp only [bind, Except.bind, state]
  change ((inRow flags _).content.bind fun tree => Except.ok (⟨tree.bare, 0, []⟩ : Reading)) = _
  rw [content]
  exact congrArg (fun tree => Except.ok (⟨tree, 0, []⟩ : Reading)) bare

/-- A pattern that begins with a row of characters, in either case, is read as the row and what
the rest of it is read as. -/
theorem read_folding {row back : List Char} {pieces : List Tree} (calm : isCalm back = true)
    (ends : ∀ size steps before, readAll size (steps + back.length) (inRow folding before) back =
      .ok (inRow folding (pieces.reverse ++ before)))
    (long : 2 ≤ (row.map (rowTree folding) ++ pieces).length) :
    read ('(' :: '?' :: 'i' :: ')' :: (row.flatMap written ++ back)) =
      .ok ⟨Tree.sequence (row.map (rowTree folding) ++ pieces), 0, []⟩ := by
  have rowWithin := length_flatMap_written row
  have fuel : back.length + row.length + 1 ≤
      2 * ('(' :: '?' :: 'i' :: ')' :: (row.flatMap written ++ back)).length + 1 := by
    simp only [List.length_cons, List.length_append]
    omega
  rcases Nat.exists_eq_add_of_le' fuel with ⟨more, steps⟩
  have parts : (row.map (rowTree folding) ++ pieces).reverse =
      pieces.reverse ++ ((row.map (rowTree folding)).reverse ++ []) := by
    rw [List.reverse_append, List.append_nil]
  have state : readAll (Text.size ('(' :: '?' :: 'i' :: ')' :: (row.flatMap written ++ back)))
      (more + (back.length + row.length + 1)) {}
      ('(' :: '?' :: 'i' :: ')' :: (row.flatMap written ++ back)) =
        .ok (inRow folding (row.map (rowTree folding) ++ pieces).reverse) := by
    rw [← Nat.add_assoc, ← Nat.add_assoc, readAll_folding (isCalm_flatMap_written row calm),
      readAll_escape rfl calm, ends, parts]
  refine read_of_row ((congrArg (readAll _ · _ _) steps).trans state) ?_
  generalize row.map (rowTree folding) ++ pieces = all at long
  match all, long with
  | first :: second :: rest, _ => rfl

/-- Where case counts, a character stands for itself alone. -/
theorem rowTree_exact (char : Char) : rowTree {} char = .one (.single char) 0 := by
  unfold rowTree
  split <;> rfl

/-- A pattern that is an escaped text is read as the row of its characters. -/
theorem read_escape (text : String) :
    read (Text.ofString (escape text)) =
      .ok ⟨Tree.sequence (text.toList.map fun char => .one (.single char) 0), 0, []⟩ := by
  rw [Text.ofString, toList_escape]
  generalize text.toList = row
  have within := length_flatMap_written row
  have fuel : row.length + 1 ≤ 2 * (row.flatMap written).length + 1 := by omega
  rcases Nat.exists_eq_add_of_le' fuel with ⟨more, steps⟩
  have pieces : row.map (rowTree {}) = row.map fun char => .one (.single char) 0 :=
    List.map_congr_left fun char _ => rowTree_exact char
  have state : readAll (Text.size (row.flatMap written)) (more + (row.length + 1)) {}
      (row.flatMap written) = .ok (inRow {} (row.map (rowTree {})).reverse) := by
    have whole := @readAll_escape {} [] rfl rfl row [] (Text.size (row.flatMap written)) (more + 1)
    rw [List.append_nil, List.append_nil] at whole
    rw [Nat.add_comm row.length, ← Nat.add_assoc]
    exact whole
  rw [pieces] at state
  refine read_of_row ((congrArg (readAll _ · _ _) steps).trans state) ?_
  match row with
  | [] | [_] | _ :: _ :: _ => rfl

end Reader
end Pattern

end FencedHighlight
