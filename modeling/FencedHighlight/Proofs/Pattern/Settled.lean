import FencedHighlight.Proofs.Pattern.Descent
import FencedHighlight.Proofs.Pattern.Outcome
import FencedHighlight.Proofs.Pattern.Span
import FencedHighlight.Proofs.Text.First

namespace FencedHighlight
namespace Pattern

/-!
Searches that are settled as a whole.

If the whole search for a pattern is settled, its steps do not count, so it comes to its end in
every text.  It is told by what the pattern matches at the beginning of a text: the search
reports the first place where there is such a match.
-/

open Text (stretch)

namespace Machine

variable {code : Array Instruction} {hay : Hay} {slots : Slots} {before rest : Text}
  {entry next finish : Nat} {result other : Option Moment} {position : Nat} {found : Text × Text}

/-- What a settled part comes to, in whatever number of steps. -/
def Settled (code : Array Instruction) (hay : Hay) (moment : Moment)
    (result : Option Moment) : Prop :=
  ∃ length, Settles code hay length moment result

theorem settled_fork {first second position : Nat}
    (here : code[entry]? = some (.fork first second))
    (sooner : Settled code hay ⟨first, position, slots, []⟩ result)
    (later : Settled code hay ⟨second, position, slots, []⟩ other) :
    Settled code hay ⟨entry, position, slots, []⟩ (result.or other) := by
  rcases sooner with ⟨_, sooner⟩
  rcases later with ⟨_, later⟩
  cases result with
  | some found => exact ⟨_, .first here sooner⟩
  | none => exact ⟨_, .second here sooner later⟩

/-- A part is stuck where the next character does not belong to the class. -/
theorem settled_stuck {member : CharClass} (here : code[entry]? = some (.take member next))
    (split : hay.chars.toList = before ++ rest) (fails : ¬rest.head?.any member.contains = true) :
    Settled code hay ⟨entry, before.length, slots, []⟩ none := by
  refine ⟨_, .blocked here Instruction.noConfusion (fun _ _ => Instruction.noConfusion) ?_⟩
  rw [advance?_take split, if_neg fails]

/-- A character is taken if it belongs to the class. -/
theorem settled_take {member : CharClass} (here : code[entry]? = some (.take member next))
    (split : hay.chars.toList = before ++ rest)
    (onwards : Settled code hay ⟨next, before.length + 1, slots, []⟩ result) :
    Settled code hay ⟨entry, before.length, slots, []⟩
      (if rest.head?.any member.contains then result else none) := by
  by_cases taken : rest.head?.any member.contains = true
  · rw [if_pos taken]
    rcases onwards with ⟨_, onwards⟩
    exact ⟨_, .goes here ((advance?_take split member).trans (if_pos taken)) onwards⟩
  · rw [if_neg taken]
    exact settled_stuck here split taken

/-- Where a match ends. -/
def ended (slots : Slots) (position : Nat) : Moment :=
  ⟨0, position, slots.write 1 position, []⟩

theorem settled_ended (slots : Slots) (marks : code[finish]? = some (.mark 1 0))
    (accepts : code[0]? = some .accept) (position : Nat) :
    Settled code hay ⟨finish, position, slots, []⟩ (some (ended slots position)) :=
  ⟨_, .goes marks rfl (.accept accepts)⟩

/-- What the slots hold at the end of a search. -/
def noted (slots : Slots) (position : Nat) (found : Text × Text) : Slots :=
  (slots.write 0 (position + found.1.length)).write 1
    (position + found.1.length + found.2.length)

/-- A character counts for the position or for what has been passed. -/
theorem noted_cons (slots : Slots) (position : Nat) (char : Char) (found : Text × Text) :
    noted slots (position + 1) found = noted slots position (char :: found.1, found.2) := by
  simp only [noted, List.length_cons, Nat.add_assoc, Nat.add_comm 1]

theorem read_closeMatch_noted (room : 2 ≤ slots.size) :
    (closeMatch 0 (noted slots position found)).read 0 = some (position + found.1.length) ∧
      (closeMatch 0 (noted slots position found)).read 1 =
        some (position + found.1.length + found.2.length) := by
  have size : (noted slots position found).size = slots.size := by
    simp only [noted, Slots.write, Array.size_setIfInBounds]
  have kept (slot : Nat) (below : slot < 2) :
      Slots.read ((noted slots position found).take (2 * 0 + 2)) slot =
        (noted slots position found).read slot := by
    rw [Slots.read, Slots.read, Array.take_eq_extract, Array.getElem?_extract, if_pos (by omega),
      Nat.zero_add]
  have first : (noted slots position found).read 0 = some (position + found.1.length) := by
    rw [noted, Slots.read_write_of_ne (by decide)]
    exact Slots.read_write_self (by omega)
  have last : (noted slots position found).read 1 =
      some (position + found.1.length + found.2.length) := by
    refine Slots.read_write_self ?_
    rw [Slots.write, Array.size_setIfInBounds]
    omega
  rw [← kept 0 (by decide)] at first
  rw [← kept 1 (by decide)] at last
  unfold closeMatch
  simp only [first, last]
  rw [if_neg (Nat.not_lt_of_le (Nat.le_add_right _ _))]
  exact ⟨first, last⟩

/-- Where a search ends. -/
def arrived (slots : Slots) (position : Nat) (found : Text × Text) : Moment :=
  ⟨0, position + found.1.length + found.2.length, noted slots position found, []⟩

/-- Whether a tree at the end of a search matches what is found at the beginning of a text. -/
def MatchesAs (code : Array Instruction) (hay : Hay) (tree : Tree) (found? : Text -> Option Text) :
    Prop :=
  ∀ {before rest : Text} {entry finish : Nat} (slots : Slots), hay.chars.toList = before ++ rest ->
    code[finish]? = some (.mark 1 0) -> code[0]? = some .accept ->
    Tree.Stands code tree entry finish ->
    Settled code hay ⟨entry, before.length, slots, []⟩
      ((found? rest).map fun part => ended slots (before.length + part.length))

/-- A search comes to the first place where its tree has a match. -/
theorem settled_search {tree : Tree} {found? : Text -> Option Text} {program : Program}
    (tells : MatchesAs program.code hay tree found?) (searches : program.Searches (.group 0 tree))
    (slots : Slots) (split : hay.chars.toList = before ++ rest) :
    Settled program.code hay ⟨program.entry, before.length, slots, []⟩
      ((Text.first? found? rest).map (arrived slots before.length)) := by
  rcases searches.stands with ⟨start, farther, forks, group, goes⟩
  cases group with
  | @group _ _ _ first last _ opens inner closes =>
  have here {before rest : Text} (split : hay.chars.toList = before ++ rest) :
      Settled program.code hay ⟨start, before.length, slots, []⟩
        ((found? rest).map fun part => arrived slots before.length ([], part)) := by
    rcases tells (slots.write 0 before.length) split closes searches.ends inner with ⟨_, inside⟩
    exact ⟨_, .goes opens rfl inside⟩
  induction rest generalizing before with
  | nil =>
      have both := settled_fork forks (here split) (settled_stuck goes split Bool.false_ne_true)
      rw [Text.first?, Option.map_map]
      rwa [Option.or_none] at both
  | cons char rest ih =>
      have split' := split.trans (List.append_cons before char rest)
      have onwards := ih split'
      rw [List.length_append, List.length_singleton] at onwards
      have moved (found : Text × Text) : arrived slots (before.length + 1) found =
          arrived slots before.length (char :: found.1, found.2) := by
        simp only [arrived, noted_cons slots _ char, List.length_cons, Nat.add_assoc,
          Nat.add_comm 1]
      have both := settled_fork forks (here split) (settled_take goes split onwards)
      rw [← Text.first?_map_cons moved]
      exact both

end Machine

open Machine (Slots Hay MatchesAs closeMatch noted arrived read_closeMatch_noted)

variable {before rest : Text}

/-- What a search reports whose slots hold the ends of a match. -/
theorem find?_compiled {source : String} {program : Program} (groups : program.groups = 0)
    (room : 2 ≤ program.slots) {before rest : Text} {found? : Option (Text × Text)}
    (parts : ∀ found ∈ found?, ∃ after, rest = found.1 ++ found.2 ++ after)
    (searched : Machine.search? program (before ++ rest).toArray before.length =
      (found?.map (noted (Slots.blank program.slots) before.length)).map
        (closeMatch program.groups)) :
    (compiled source program).find? (before ++ rest) (Text.size before) =
      found?.map (stretch (Text.size before)) := by
  rw [find?, search?, Text.indexOf_size_append, searched, groups]
  cases found? with
  | none => rfl
  | some found =>
      rcases parts found rfl with ⟨after, rfl⟩
      have ends := @read_closeMatch_noted (Slots.blank program.slots) before.length found
        (Nat.le_trans room (Nat.le_of_eq Array.size_replicate.symm))
      have first : Text.offsetOf (before ++ (found.1 ++ found.2 ++ after))
          (before.length + found.1.length) = Text.size before + Text.size found.1 := by
        rw [Text.offsetOf, ← List.length_append, List.append_assoc found.1,
          ← List.append_assoc before, List.take_left, Text.size_append]
      have last : Text.offsetOf (before ++ (found.1 ++ found.2 ++ after))
          (before.length + found.1.length + found.2.length) =
            Text.size before + Text.size found.1 + Text.size found.2 := by
        rw [Text.offsetOf, ← List.length_append, ← List.length_append, ← List.append_assoc before,
          ← List.append_assoc before, List.take_left, Text.size_append, Text.size_append]
      simp only [Option.map_some, bind, Option.bind_some, Nat.mul_zero, Nat.zero_add, ends.1,
        ends.2, pure, first, last, stretch]

theorem exists_parts_of_first? {found? : Text -> Option Text} {found : Text × Text}
    (begins : ∀ text tag, found? text = some tag -> ∃ after, text = tag ++ after)
    (first : Text.first? found? rest = some found) :
    ∃ after, rest = found.1 ++ found.2 ++ after := by
  rcases (Text.first?_eq_some_iff).mp first with ⟨later, isFirst⟩
  rcases begins later found.2 isFirst.found with ⟨after, parts⟩
  exact ⟨after, by rw [isFirst.split, parts, List.append_assoc]⟩

/-- A search that is settled as a whole reports the first place where its tree has a match. -/
theorem find?_of_matchesAs {tree : Tree} (plain : Tree.Plain true (.group 0 tree))
    {found? : Text -> Option Text}
    (begins : ∀ text part, found? text = some part -> ∃ after, text = part ++ after)
    (tells : ∀ hay,
      MatchesAs (Program.search true 0 (Tree.group 0 tree).compile).code hay tree found?)
    (source : String) (before rest : Text) :
    (compiled source (Program.search true 0 (Tree.group 0 tree).compile)).find? (before ++ rest)
        (Text.size before) = (Text.first? found? rest).map (stretch (Text.size before)) := by
  generalize made : Program.search true 0 (Tree.group 0 tree).compile = program at tells
  have searches : program.Searches (.group 0 tree) := made ▸ Program.searches_search true 0 plain
  have descends : Machine.Descends program.code ∧ program.entry < program.code.size :=
    made ▸ Program.descends_search true 0 plain
  have regular : program.regular = true := made ▸ rfl
  have groups : program.groups = 0 := made ▸ rfl
  refine find?_compiled groups searches.room
    (fun found first => exists_parts_of_first? begins first) ?_
  let hay : Hay := ⟨(before ++ rest).toArray, before.length⟩
  have within : before.length ≤ hay.chars.size := by
    rw [List.size_toArray, List.length_append]
    exact Nat.le_add_right _ _
  rcases Machine.settled_search (tells hay) searches (Slots.blank program.slots) rfl with
    ⟨_, settles⟩
  have result : Machine.settle? program.code hay hay.chars.size program.entry
      ⟨program.entry, before.length, Slots.blank program.slots, []⟩ =
        (Text.first? found? rest).map (arrived (Slots.blank program.slots) before.length) :=
    Machine.settle?_eq_of_settles descends.1 descends.2 within settles
  have slots : ((Text.first? found? rest).map
      (arrived (Slots.blank program.slots) before.length)).map Machine.Moment.slots =
        (Text.first? found? rest).map (noted (Slots.blank program.slots) before.length) := by
    rw [Option.map_map]
    rfl
  rw [Machine.search?, if_pos regular, result, slots]

end Pattern
end FencedHighlight
