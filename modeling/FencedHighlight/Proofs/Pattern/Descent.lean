import FencedHighlight.Proofs.Pattern.Following
import FencedHighlight.Proofs.Pattern.Standing

namespace FencedHighlight
namespace Pattern

/-!
Programs that only lead down, forks apart.

Parts are compiled from the end to the start, so an instruction leads to one that has been
there before.  Only the fork of a loop, which gets its place before the round, leads up.
-/

open Machine (Descends)

variable {assembly : Assembly} {instruction : Instruction} {place next : Nat}

theorem Instruction.Descends.mono {size larger : Nat} (descends : instruction.Descends size place)
    (ordered : size ≤ larger) : instruction.Descends larger place := by
  cases instruction with
  | fork first second =>
      exact ⟨Nat.lt_of_lt_of_le descends.1 ordered, Nat.lt_of_lt_of_le descends.2 ordered⟩
  | accept => trivial
  | take | check | mark => exact descends
  | _ => exact descends.elim

namespace Assembly

theorem descends_add (descends : Descends assembly.code)
    (leads : instruction.Descends (assembly.code.size + 1) assembly.code.size) :
    Descends (assembly.add instruction).1.code := by
  intro place other here
  rw [size_add]
  by_cases old : place < assembly.code.size
  · rw [getElem?_add_of_lt old] at here
    exact (descends place other here).mono (Nat.le_succ _)
  · have inside := (Array.getElem?_eq_some_iff.mp here).1
    rw [size_add] at inside
    have last : place = assembly.code.size := by omega
    rw [last, getElem?_add_self] at here
    rcases Option.some.inj here with rfl
    rwa [last]

theorem descends_fill (descends : Descends assembly.code)
    (leads : instruction.Descends assembly.code.size place) :
    Descends (assembly.fill place instruction).code := by
  intro other stands here
  rw [size_fill]
  by_cases filled : place = other
  · subst filled
    have inside := (Array.getElem?_eq_some_iff.mp here).1
    rw [size_fill] at inside
    rw [getElem?_fill_self inside] at here
    rcases Option.some.inj here with rfl
    exact leads
  · rw [getElem?_fill_of_ne filled] at here
    exact descends other stands here

end Assembly

namespace Compilation

/-- Whether a way to compile a part leads down to what has been there before. -/
def LeadsDown (part : Compilation) : Prop :=
  ∀ next (assembly : Assembly), Descends assembly.code -> next < assembly.code.size ->
    Descends (part next assembly).1.code ∧
      (part next assembly).2 < (part next assembly).1.code.size

theorem leadsDown_nothing : LeadsDown fun next assembly => (assembly, next) :=
  fun _ _ descends inside => ⟨descends, inside⟩

theorem leadsDown_add (instruction : Nat -> Instruction)
    (leads : ∀ size next, next < size -> (instruction next).Descends (size + 1) size) :
    LeadsDown fun next assembly => assembly.add (instruction next) := by
  intro next assembly descends inside
  refine ⟨Assembly.descends_add descends (leads _ next inside), ?_⟩
  rw [Assembly.size_add]
  exact Nat.lt_succ_self _

theorem LeadsDown.trans {part other : Compilation} (first : part.LeadsDown)
    (second : other.LeadsDown) :
    LeadsDown fun next assembly => part (other next assembly).2 (other next assembly).1 := by
  intro next assembly descends inside
  have after := second next assembly descends inside
  exact first _ _ after.1 after.2

theorem LeadsDown.loop {part : Compilation} (down : part.LeadsDown)
    (grows : ∀ next assembly, assembly.code.size ≤ (part next assembly).1.code.size)
    (greedy : Bool) :
    LeadsDown fun next assembly =>
      ((Tree.compileLoop part greedy next assembly).1,
        (Tree.compileLoop part greedy next assembly).2.2) := by
  intro next assembly descends inside
  have started : Descends (assembly.add .accept).1.code := Assembly.descends_add descends trivial
  have size : (assembly.add .accept).1.code.size = assembly.code.size + 1 := Assembly.size_add
  have round := down assembly.code.size (assembly.add .accept).1 started (by omega)
  have longer := grows assembly.code.size (assembly.add .accept).1
  have beyond : next < (part assembly.code.size (assembly.add .accept).1).1.code.size := by omega
  refine ⟨Assembly.descends_fill round.1 ?_, ?_⟩
  · cases greedy
    · exact ⟨beyond, round.2⟩
    · exact ⟨round.2, beyond⟩
  · refine Nat.lt_of_lt_of_le ?_ (Nat.le_of_eq Assembly.size_fill.symm)
    exact Nat.lt_of_lt_of_le (Nat.lt_succ_self _) (Nat.le_trans (Nat.le_of_eq size.symm) longer)

end Compilation

open Compilation

namespace Tree

theorem leadsDown_compile {tree : Tree} (plain : Plain true tree) : tree.compile.LeadsDown := by
  generalize mode : true = regular at plain
  induction plain with
  | empty => exact leadsDown_nothing
  | one | anchor => exact leadsDown_add _ fun size next inside => inside
  | seq _ _ sooner later => exact (sooner mode).trans (later mode)
  | group index _ inner =>
      exact ((leadsDown_add (.mark (2 * index)) fun size next inside => inside).trans
        (inner mode)).trans (leadsDown_add (.mark (2 * index + 1)) fun size next inside => inside)
  | many greedy member nesting =>
      exact (leadsDown_add (.take member) fun size next inside => inside).loop
        (builds_add (.take member)).grows greedy
  | settled | notBehind => cases mode

end Tree

/-- The whole search for a plain tree leads down. -/
theorem Program.descends_search (mode : Bool) (groups : Nat) {tree : Tree}
    (plain : Tree.Plain true tree) :
    Descends (Program.search mode groups tree.compile).code ∧
      (Program.search mode groups tree.compile).entry <
        (Program.search mode groups tree.compile).code.size := by
  let first : Assembly := (Assembly.add ⟨#[], 2 * groups + 2⟩ .accept).1
  have started : Descends first.code :=
    Assembly.descends_add (fun place instruction here => nomatch here) trivial
  let body := tree.compile 0 first
  have down : Descends body.1.code ∧ body.2 < body.1.code.size :=
    Tree.leadsDown_compile plain 0 first started Nat.zero_lt_one
  let looped := (body.1.add .accept).1
  have size : looped.code.size = body.1.code.size + 1 := Assembly.size_add
  let farther := (looped.add (.take .everything body.1.code.size)).1
  have whole : farther.code.size = looped.code.size + 1 := Assembly.size_add
  have below : body.1.code.size < looped.code.size := by omega
  have takes : Descends farther.code :=
    Assembly.descends_add (Assembly.descends_add down.1 trivial) below
  have start : body.2 < farther.code.size := by
    have inside := down.2
    omega
  have loop : body.1.code.size < farther.code.size := by omega
  have beyond : looped.code.size < farther.code.size := by omega
  exact ⟨Assembly.descends_fill takes ⟨start, beyond⟩,
    Nat.lt_of_lt_of_le loop (Nat.le_of_eq Assembly.size_fill.symm)⟩

end Pattern
end FencedHighlight
