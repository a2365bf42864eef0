import FencedHighlight.Proofs.Pattern.Matches
import FencedHighlight.Proofs.Pattern.Numbering
import FencedHighlight.Proofs.Rule.Inside

namespace FencedHighlight
namespace Pattern

/-!
What the text of a pattern tells of its matches.

A pattern moves the beginning of its match only where it is written to.  If it does
not do so in a look-behind, no match begins before the search for it.  If it does not
do so anywhere and its first group is also its first part, the match begins with
that group.
-/

open Machine (Note)
open Compilation (FreeGroups Admits Leading Opens Closes)

variable {notes : List Note} {groups : Nat}

/-! ## Trees -/

namespace Tree

/-- Whether some part of a tree lets the match begin where it stands. -/
def movesBeginning : Tree -> Bool
  | beginHere => true
  | seq first second | either first second => first.movesBeginning || second.movesBeginning
  | conditional condition yes no =>
      condition.movesBeginning || yes.movesBeginning || no.movesBeginning
  | scope body | group _ body | repeated _ _ _ body | look _ _ body | atomic body
  | settled body => body.movesBeginning
  | empty | one _ _ | anchor _ | again _ _ _ _ | isSet _ | searchStart _ => false

/-- Whether some part of a look-behind does. -/
def movesBehind : Tree -> Bool
  | look .behind _ body => body.movesBeginning
  | seq first second | either first second => first.movesBehind || second.movesBehind
  | conditional condition yes no =>
      condition.movesBehind || yes.movesBehind || no.movesBehind
  | scope body | group _ body | repeated _ _ _ body | look .ahead _ body | atomic body
  | settled body => body.movesBehind
  | empty | one _ _ | anchor _ | again _ _ _ _ | isSet _ | beginHere | searchStart _ => false

/-- Whether the first part of a tree is the first group. -/
def leadsWithGroup : Tree -> Bool
  | group index _ => index == 1
  | seq first _ => first.leadsWithGroup
  | _ => false

/-- A tree that leaves the beginning of the match alone may stand anywhere. -/
theorem admits_of_movesBeginning {tree : Tree} (still : tree.movesBeginning = false)
    (free : FreeGroups notes tree) (behind : Bool) : Admits notes behind tree := by
  induction tree generalizing behind with
  | seq first second ihFirst ihSecond | either first second ihFirst ihSecond =>
      have parts := Bool.or_eq_false_iff.mp still
      exact ⟨ihFirst parts.1 (free.mono (List.subset_append_left _ _)) _,
        ihSecond parts.2 (free.mono (List.subset_append_right _ _)) _⟩
  | scope body ih | repeated _ _ _ body ih | atomic body ih | settled body ih =>
      exact ih still free behind
  | group own body ih =>
      exact ⟨free own List.mem_cons_self,
        ih still (free.mono (List.subset_cons_self _ _)) behind⟩
  | look side wanted body ih => cases side <;> exact ih still free _
  | conditional condition yes no ihCondition ihYes ihNo =>
      have parts := Bool.or_eq_false_iff.mp still
      have sooner := Bool.or_eq_false_iff.mp parts.1
      refine ⟨ihCondition sooner.1 ?_ _, ihYes sooner.2 ?_ _, ihNo parts.2 ?_ _⟩
      · exact free.mono fun _ member => List.mem_append_left _ (List.mem_append_left _ member)
      · exact free.mono fun _ member => List.mem_append_left _ (List.mem_append_right _ member)
      · exact free.mono (List.subset_append_right _ _)
  | beginHere => cases still
  | empty | one | anchor | again | isSet | searchStart => trivial

/-- A tree may stand at the position if it moves the beginning of the match at most
there, and not behind it. -/
theorem admits_of_movesBehind {tree : Tree} (still : tree.movesBehind = false)
    (free : FreeGroups notes tree) (later : notes[0]? = some .later) :
    Admits notes false tree := by
  induction tree with
  | seq first second ihFirst ihSecond | either first second ihFirst ihSecond =>
      have parts := Bool.or_eq_false_iff.mp still
      exact ⟨ihFirst parts.1 (free.mono (List.subset_append_left _ _)),
        ihSecond parts.2 (free.mono (List.subset_append_right _ _))⟩
  | scope body ih | repeated _ _ _ body ih | atomic body ih | settled body ih =>
      exact ih still free
  | group own body ih =>
      exact ⟨free own List.mem_cons_self,
        ih still (free.mono (List.subset_cons_self _ _))⟩
  | look side wanted body ih =>
      cases side with
      | ahead => exact ih still free
      | behind =>
          have inner : body.movesBeginning = false := still
          exact admits_of_movesBeginning inner free true
  | conditional condition yes no ihCondition ihYes ihNo =>
      have parts := Bool.or_eq_false_iff.mp still
      have sooner := Bool.or_eq_false_iff.mp parts.1
      refine ⟨ihCondition sooner.1 ?_, ihYes sooner.2 ?_, ihNo parts.2 ?_⟩
      · exact free.mono fun _ member => List.mem_append_left _ (List.mem_append_left _ member)
      · exact free.mono fun _ member => List.mem_append_left _ (List.mem_append_right _ member)
      · exact free.mono (List.subset_append_right _ _)
  | beginHere => exact ⟨rfl, later⟩
  | empty | one | anchor | again | isSet | searchStart => trivial

theorem mem_groups_of_leadsWithGroup {tree : Tree} (leads : tree.leadsWithGroup = true) :
    1 ∈ tree.groups := by
  induction tree with
  | group index body => exact List.mem_cons.mpr (Or.inl (beq_iff_eq.mp leads).symm)
  | seq first second ihFirst => exact List.mem_append_left _ (ihFirst leads)
  | _ => cases leads

/-- A tree whose first part is the first group begins where that group does, if the
group does not stand anywhere else. -/
theorem leading_of_leadsWithGroup {tree : Tree} {outer : Machine.Zone}
    (leads : tree.leadsWithGroup = true)
    (still : tree.movesBeginning = false) (opens : Opens notes 2 outer .ahead)
    (closes : Closes notes 3) (once : tree.groups.count 1 ≤ 1)
    (free : ∀ index ∈ tree.groups, index ≠ 1 ->
      notes[2 * index]? = some .free ∧ notes[2 * index + 1]? = some .free) :
    Leading notes tree outer := by
  induction tree with
  | group index body =>
      rcases beq_iff_eq.mp leads with rfl
      have absent : 1 ∉ body.groups := by
        rw [groups, List.count_cons_self] at once
        exact List.count_eq_zero.mp (by omega)
      have inner : body.movesBeginning = false := still
      refine .group opens closes (.steady (admits_of_movesBeginning inner ?_ false))
      exact fun index member => free index (List.mem_cons_of_mem _ member)
        fun same => absent (same ▸ member)
  | seq first second ihFirst =>
      have parts := Bool.or_eq_false_iff.mp still
      rw [groups, List.count_append] at once
      have leadsFirst : first.leadsWithGroup = true := leads
      have here : 0 < first.groups.count 1 :=
        List.count_pos_iff.mpr (mem_groups_of_leadsWithGroup leadsFirst)
      have absent : 1 ∉ second.groups := List.count_eq_zero.mp (by omega)
      refine .seq (ihFirst leadsFirst parts.1 (by omega)
        fun index member => free index (List.mem_append_left _ member)) ?_
      refine admits_of_movesBeginning parts.2 ?_ false
      exact fun index member => free index (List.mem_append_right _ member)
        fun same => absent (same ▸ member)
  | _ => cases leads

end Tree

/-! ## Notes -/

theorem laterNotes_free {index : Nat} (numbered : 1 ≤ index ∧ index ≤ groups) :
    (laterNotes groups)[2 * index]? = some .free ∧
      (laterNotes groups)[2 * index + 1]? = some .free := by
  rcases Nat.exists_eq_add_of_le numbered.1 with ⟨above, rfl⟩
  rw [Nat.mul_add, Nat.add_comm (2 * 1), Nat.add_right_comm]
  simp only [laterNotes, List.getElem?_cons_succ, List.getElem?_replicate]
  constructor <;> rw [if_pos (by omega)]

theorem exactNotes_free {index : Nat} (numbered : 1 ≤ index ∧ index ≤ groups)
    (later : index ≠ 1) :
    (exactNotes groups)[2 * index]? = some .free ∧
      (exactNotes groups)[2 * index + 1]? = some .free := by
  rcases Nat.exists_eq_add_of_le (show 2 ≤ index by omega) with ⟨above, rfl⟩
  rw [Nat.mul_add, Nat.add_comm (2 * 2), Nat.add_right_comm]
  simp only [exactNotes, List.getElem?_cons_succ, List.getElem?_replicate]
  constructor <;> rw [if_pos (by omega)]

/-- The first group may begin with the match. -/
theorem opens_exactNotes (groups : Nat) : Opens (exactNotes groups) 2 .opening .ahead := by
  refine ⟨.exact, rfl, Or.inl fun stage position holds => ?_⟩
  cases stage with
  | before start => exact holds.elim
  | since start => exact ⟨holds, Nat.le_of_eq (Eq.symm holds)⟩

theorem closes_exactNotes (grouped : 0 < groups) : Closes (exactNotes groups) 3 := by
  refine ⟨.free, ?_, fun none => nomatch none⟩
  simp only [exactNotes, List.getElem?_cons_succ, List.getElem?_replicate]
  rw [if_pos (by omega)]

/-! ## Patterns -/

/-- What a pattern was read as, unless it is a literal. -/
def reading? : Pattern -> Option Reader.Reading
  | literal _ => none
  | compiled source _ => (Reader.read (Text.ofString source)).toOption

/-- Whether a pattern is a literal or compiled from its text. -/
def IsCompiled (pattern : Pattern) : Prop :=
  ∀ source program, pattern = compiled source program -> compile source = .ok pattern

theorem isCompiled_of_compile {source : String} {pattern : Pattern}
    (result : compile source = .ok pattern) : pattern.IsCompiled := by
  rintro text program rfl
  have written := result
  unfold compile at written
  split at written
  · split at written
    · cases written
      exact result
    · cases written
  · cases written

/-- Whether no look-behind of a pattern moves the beginning of the match. -/
def keepsAhead (pattern : Pattern) : Bool :=
  pattern.reading?.all fun reading => !reading.tree.movesBehind

/-- Whether a pattern has no groups, or leaves the beginning of the match alone and
has its first group as its first part. -/
def leadsWithGroup (pattern : Pattern) : Bool :=
  pattern.reading?.all fun reading =>
    reading.groups == 0 || (!reading.tree.movesBeginning && reading.tree.leadsWithGroup)

/-- A compiled pattern is compiled from the tree that it was read as. -/
theorem reading_of_isCompiled {source : String} {program : Program}
    (isCompiled : (compiled source program).IsCompiled) :
    ∃ reading, (compiled source program).reading? = some reading ∧
      (∀ index, reading.tree.groups.count index ≤
        if 1 ≤ index ∧ index ≤ reading.groups then 1 else 0) ∧
      Program.ofTree? reading.tree reading.groups reading.referenced = some program := by
  have result := isCompiled source program rfl
  unfold compile at result
  split at result
  · rename_i reading read
    split at result
    · rename_i made assembled
      cases result
      exact ⟨reading, by rw [reading?, read]; rfl, Reader.count_groups_of_read read, assembled⟩
    · cases result
  · cases result

theorem numbered_of_mem {reading : Reader.Reading}
    (once : ∀ index, reading.tree.groups.count index ≤
      if 1 ≤ index ∧ index ≤ reading.groups then 1 else 0) {index : Nat}
    (member : index ∈ reading.tree.groups) : 1 ≤ index ∧ index ≤ reading.groups := by
  refine Decidable.byContradiction fun outside => ?_
  have absent := once index
  rw [if_neg outside] at absent
  exact List.count_eq_zero.mp (Nat.le_zero.mp absent) member

/-- No match begins before the search for it, if no look-behind moves its beginning. -/
theorem neverBehind_of_keepsAhead {pattern : Pattern} (isCompiled : pattern.IsCompiled)
    (keeps : pattern.keepsAhead = true) : pattern.NeverBehind := by
  cases pattern with
  | literal wanted => exact neverBehind_literal wanted
  | compiled source program =>
      rcases reading_of_isCompiled isCompiled with ⟨reading, read, once, assembled⟩
      have still : reading.tree.movesBehind = false := by
        simpa only [keepsAhead, read, Option.all_some, Bool.not_eq_true'] using keeps
      have admits : Admits (laterNotes reading.groups) false reading.tree :=
        Tree.admits_of_movesBehind still
          (fun index member => laterNotes_free (numbered_of_mem once member)) rfl
      intro text offset found within result
      rcases span_of_compiled result with ⟨slots, start, stop, ran, first, last, ends, _⟩
      have ahead := le_start_of_admits admits assembled ran first last
      rw [ends]
      exact Nat.le_trans (Text.le_offsetOf_indexOf within) (Text.offsetOf_mono text ahead)

theorem startsAhead_of_keepsAhead {pattern : Pattern} (isCompiled : pattern.IsCompiled)
    (keeps : pattern.keepsAhead = true) : pattern.StartsAhead :=
  (neverBehind_of_keepsAhead isCompiled keeps).startsAhead

/-- The first group begins with the match, if it leads the pattern. -/
theorem opensWithGroup_of_leadsWithGroup {pattern : Pattern} (isCompiled : pattern.IsCompiled)
    (leads : pattern.leadsWithGroup = true) : pattern.OpensWithGroup := by
  intro text offset found group result took
  cases pattern with
  | literal wanted =>
      rw [firstGroup_of_literal result] at took
      cases took
  | compiled source program =>
      rcases reading_of_isCompiled isCompiled with ⟨reading, read, once, assembled⟩
      rcases group_of_compiled result took with
        ⟨slots, start, stop, opening, last, ran, starts, stops, opens, closes, ends, rfl⟩
      have counted := Program.groups_of_ofTree? assembled
      have numbered := lt_of_read ran opens
      have grouped : 0 < reading.groups := by omega
      have written : reading.tree.movesBeginning = false ∧ reading.tree.leadsWithGroup = true := by
        simp only [leadsWithGroup, read, Option.all_some, Bool.or_eq_true, beq_iff_eq,
          Bool.and_eq_true, Bool.not_eq_true'] at leads
        exact leads.resolve_left (Nat.ne_of_gt grouped)
      have leading : Leading (exactNotes reading.groups) reading.tree .opening := by
        refine Tree.leading_of_leadsWithGroup written.2 written.1 (opens_exactNotes _)
          (closes_exactNotes grouped) ?_ ?_
        · exact Nat.le_trans (once 1) (by split <;> decide)
        · exact fun index member => exactNotes_free (numbered_of_mem once member)
      have same := start_eq_of_leading grouped leading assembled ran starts stops opens
      rw [ends, same]

end Pattern
end FencedHighlight
