import FencedHighlight.Pattern.Program

namespace FencedHighlight
namespace Pattern

/-!
What stands in a program.

From the instructions of a program it can be read at each place which part of the pattern is
matched there and where the run goes on behind it.  For rows of characters, anchors, repetitions
of one character, groups and what is settled or looked for behind, the parts stand in the program
as they do in the pattern.
-/

namespace Tree

/-- Trees of which a program tells at a glance what it does: rows of characters, anchors,
repetitions of a single character, groups, and what is settled or looked for behind. -/
inductive Plain : (regular : Bool) -> Tree -> Prop where
  | empty {regular : Bool} : Plain regular empty
  | one {regular : Bool} (member : CharClass) (nesting : Nat) : Plain regular (one member nesting)
  | anchor {regular : Bool} (kind : Anchor) : Plain regular (anchor kind)
  | seq {regular : Bool} {first second : Tree} (sooner : Plain regular first)
      (later : Plain regular second) : Plain regular (seq first second)
  | group {regular : Bool} (index : Nat) {body : Tree} (inner : Plain regular body) :
      Plain regular (group index body)
  | many {regular : Bool} (greedy : Bool) (member : CharClass) (nesting : Nat) :
      Plain regular (repeated 0 none greedy (one member nesting))
  | settled {body : Tree} (inner : Plain true body) (ungrouped : body.groups = []) :
      Plain false (settled body)
  | notBehind {body : Tree} (inner : Plain false body) (fixed : body.hasFixedLength = true) :
      Plain false (look .behind false body)

/-- What stands in a program at a place for a tree that leads to another place. -/
inductive Stands (code : Array Instruction) : Tree -> (entry next : Nat) -> Prop where
  | empty {entry : Nat} : Stands code empty entry entry
  | one {member : CharClass} {nesting entry next : Nat}
      (here : code[entry]? = some (.take member next)) :
      Stands code (one member nesting) entry next
  | anchor {kind : Anchor} {entry next : Nat} (here : code[entry]? = some (.check kind next)) :
      Stands code (anchor kind) entry next
  | seq {first second : Tree} {entry middle next : Nat} (sooner : Stands code first entry middle)
      (later : Stands code second middle next) : Stands code (seq first second) entry next
  | group {index : Nat} {body : Tree} {entry start finish next : Nat}
      (opens : code[entry]? = some (.mark (2 * index) start))
      (inner : Stands code body start finish)
      (closes : code[finish]? = some (.mark (2 * index + 1) next)) :
      Stands code (group index body) entry next
  | many {greedy : Bool} {member : CharClass} {nesting entry round next : Nat}
      (here : code[entry]? = some (.forkRound greedy round next))
      (again : code[round]? = some (.take member entry)) :
      Stands code (repeated 0 none greedy (one member nesting)) entry next
  | settled {body : Tree} {entry first last next : Nat}
      (here : code[entry]? = some (.settle first next)) (inner : Stands code body first last)
      (ends : code[last]? = some .accept) : Stands code (settled body) entry next
  | notBehind {body : Tree} {entry start first last next : Nat}
      (here : code[entry]? = some (.fork start next))
      (back : code[start]? = some (.goBack body.leastLength first))
      (inner : Stands code body first last) (ends : code[last]? = some (.abandon next)) :
      Stands code (look .behind false body) entry next

end Tree

namespace Assembly

variable {assembly : Assembly} {instruction : Instruction} {place : Nat}

theorem place_add : (assembly.add instruction).2 = assembly.code.size :=
  rfl

theorem size_add : (assembly.add instruction).1.code.size = assembly.code.size + 1 := by
  rw [add, Array.size_push]

theorem getElem?_add_self :
    (assembly.add instruction).1.code[assembly.code.size]? = some instruction := by
  rw [add, Array.getElem?_push, if_pos rfl]

theorem getElem?_add_of_lt (inside : place < assembly.code.size) :
    (assembly.add instruction).1.code[place]? = assembly.code[place]? := by
  rw [add, Array.getElem?_push, if_neg (Nat.ne_of_lt inside)]

theorem size_fill : (assembly.fill place instruction).code.size = assembly.code.size := by
  rw [fill, Array.size_setIfInBounds]

theorem getElem?_fill_self (inside : place < assembly.code.size) :
    (assembly.fill place instruction).code[place]? = some instruction := by
  rw [fill, Array.getElem?_setIfInBounds_self_of_lt inside]

theorem getElem?_fill_of_ne {other : Nat} (apart : place ≠ other) :
    (assembly.fill place instruction).code[other]? = assembly.code[other]? := by
  rw [fill, Array.getElem?_setIfInBounds_ne apart]

end Assembly

namespace Compilation

/-- Whether a way to compile a part only adds to a program, and something holds of every code
that agrees with what has been added. -/
structure Builds (compilation : Compilation)
    (Holds : Array Instruction -> (entry next : Nat) -> Prop) : Prop where
  grows : ∀ next assembly, assembly.code.size ≤ (compilation next assembly).1.code.size
  slots : ∀ next assembly, (compilation next assembly).1.slots = assembly.slots
  keeps : ∀ next assembly place, place < assembly.code.size ->
    (compilation next assembly).1.code[place]? = assembly.code[place]?
  holds : ∀ next assembly (code : Array Instruction),
    (∀ place, assembly.code.size ≤ place -> place < (compilation next assembly).1.code.size ->
      code[place]? = (compilation next assembly).1.code[place]?) ->
    Holds code (compilation next assembly).2 next

variable {part other : Compilation} {Holds Later : Array Instruction -> (entry next : Nat) -> Prop}

theorem Builds.mono (builds : Builds part Holds)
    (weaker : ∀ {code entry next}, Holds code entry next -> Later code entry next) :
    Builds part Later :=
  { builds with
    holds := fun next assembly code agrees => weaker (builds.holds next assembly code agrees) }

theorem builds_nothing :
    Builds (fun next assembly => (assembly, next)) fun _ entry next => entry = next :=
  ⟨fun _ _ => Nat.le_refl _, fun _ _ => rfl, fun _ _ _ _ => rfl, fun _ _ _ _ => rfl⟩

theorem builds_add (instruction : Nat -> Instruction) :
    Builds (fun next assembly => assembly.add (instruction next))
      (fun code entry next => code[entry]? = some (instruction next)) where
  grows next assembly := by
    rw [Assembly.size_add]
    exact Nat.le_succ _
  slots next assembly := rfl
  keeps next assembly place inside := Assembly.getElem?_add_of_lt inside
  holds next assembly code agrees := by
    rw [Assembly.size_add] at agrees
    exact (agrees _ (Nat.le_refl _) (Nat.lt_succ_self _)).trans Assembly.getElem?_add_self

/-- A part that leads to another one, which has been compiled before. -/
theorem Builds.trans (builds : Builds part Holds) (later : Builds other Later) :
    Builds (fun next assembly => part (other next assembly).2 (other next assembly).1)
      (fun code entry next => ∃ middle, Holds code entry middle ∧ Later code middle next) where
  grows next assembly := Nat.le_trans (later.grows next assembly) (builds.grows _ _)
  slots next assembly := (builds.slots _ _).trans (later.slots next assembly)
  keeps next assembly place inside := by
    have within := later.grows next assembly
    exact (builds.keeps _ _ place (by omega)).trans (later.keeps next assembly place inside)
  holds next assembly code agrees := by
    have before := later.grows next assembly
    have after := builds.grows (other next assembly).2 (other next assembly).1
    refine ⟨_, builds.holds _ _ code fun place reached inside => agrees place (by omega) inside,
      later.holds next assembly code fun place reached inside => ?_⟩
    exact (agrees place reached (by omega)).trans (builds.keeps _ _ place inside)

/-- A part with an end of its own, which is entered by an instruction that knows the way on. -/
theorem Builds.detour (builds : Builds part Holds) (ends : Nat -> Instruction)
    (enter : (start next : Nat) -> Instruction) :
    Builds (fun next assembly =>
        (part (assembly.add (ends next)).2 (assembly.add (ends next)).1).1.add
          (enter (part (assembly.add (ends next)).2 (assembly.add (ends next)).1).2 next))
      (fun code entry next => ∃ start finish, code[entry]? = some (enter start next) ∧
        Holds code start finish ∧ code[finish]? = some (ends next)) where
  grows next assembly := by
    have inner := builds.grows (assembly.add (ends next)).2 (assembly.add (ends next)).1
    rw [Assembly.size_add] at inner ⊢
    omega
  slots next assembly := builds.slots (assembly.add (ends next)).2 (assembly.add (ends next)).1
  keeps next assembly place inside := by
    have inner := builds.grows (assembly.add (ends next)).2 (assembly.add (ends next)).1
    rw [Assembly.size_add] at inner
    rw [Assembly.getElem?_add_of_lt (by omega),
      builds.keeps _ _ place (by rw [Assembly.size_add]; omega), Assembly.getElem?_add_of_lt inside]
  holds next assembly code agrees := by
    have inner := builds.grows (assembly.add (ends next)).2 (assembly.add (ends next)).1
    have holds := builds.holds (assembly.add (ends next)).2 (assembly.add (ends next)).1 code
    have keeps := builds.keeps (assembly.add (ends next)).2 (assembly.add (ends next)).1
    rw [Assembly.size_add] at agrees inner holds keeps
    refine ⟨_, _, ?_, holds fun place reached inside => ?_, ?_⟩
    · exact (agrees _ (by omega) (Nat.lt_succ_self _)).trans Assembly.getElem?_add_self
    · exact (agrees place (by omega) (by omega)).trans (Assembly.getElem?_add_of_lt inside)
    · rw [Assembly.place_add, agrees _ (Nat.le_refl _) (by omega),
        Assembly.getElem?_add_of_lt (by omega), keeps _ (Nat.lt_succ_self _)]
      exact Assembly.getElem?_add_self

/-- A loop whose fork got its place before the round. -/
theorem Builds.loop (builds : Builds part Holds) (greedy : Bool) :
    Builds (fun next assembly =>
        ((Tree.compileLoop part greedy next assembly).1,
          (Tree.compileLoop part greedy next assembly).2.2))
      (fun code entry next => ∃ round, code[entry]? = some (.forkRound greedy round next) ∧
        Holds code round entry) where
  grows next assembly := by
    have inner := builds.grows (assembly.add .accept).2 (assembly.add .accept).1
    rw [Assembly.size_add] at inner
    rw [Tree.compileLoop, Assembly.size_fill]
    omega
  slots next assembly := builds.slots (assembly.add .accept).2 (assembly.add .accept).1
  keeps next assembly place inside := by
    have inner := builds.keeps (assembly.add .accept).2 (assembly.add .accept).1 place
    rw [Assembly.size_add, Assembly.getElem?_add_of_lt inside] at inner
    exact (Assembly.getElem?_fill_of_ne (Nat.ne_of_gt inside)).trans (inner (by omega))
  holds next assembly code agrees := by
    have inner := builds.grows (assembly.add .accept).2 (assembly.add .accept).1
    have holds := builds.holds (assembly.add .accept).2 (assembly.add .accept).1 code
    have added : (assembly.add .accept).1.code.size = assembly.code.size + 1 := Assembly.size_add
    have size := @Assembly.size_fill (part (assembly.add .accept).2 (assembly.add .accept).1).1
      (.forkRound greedy (part (assembly.add .accept).2 (assembly.add .accept).1).2 next)
      assembly.code.size
    have beyond : assembly.code.size <
        (part (assembly.add .accept).2 (assembly.add .accept).1).1.code.size := by omega
    refine ⟨_, ?_, holds fun place reached inside => ?_⟩
    · exact (agrees _ (Nat.le_refl _) (Nat.lt_of_lt_of_le beyond (Nat.le_of_eq size.symm))).trans
        (Assembly.getElem?_fill_self beyond)
    · exact (agrees place (by omega) (Nat.lt_of_lt_of_le inside (Nat.le_of_eq size.symm))).trans
        (Assembly.getElem?_fill_of_ne (Nat.ne_of_lt (by omega)))

end Compilation

open Compilation

namespace Tree

variable {tree body : Tree}

theorem compileRegular_eq_compile (plain : Plain true tree) :
    tree.compileRegular false = tree.compile := by
  generalize mode : true = regular at plain
  induction plain with
  | empty => rfl
  | one => rfl
  | anchor => rfl
  | seq _ _ sooner later =>
      funext next assembly
      simp only [compileRegular, compile, sooner mode, later mode]
      rfl
  | group index _ inner =>
      funext next assembly
      simp only [compileRegular, compile, inner mode]
      rfl
  | many greedy member nesting =>
      funext next assembly
      rfl
  | settled => cases mode
  | notBehind => cases mode

theorem builds_compile {regular : Bool} (plain : Plain regular tree) :
    Builds tree.compile (fun code => Stands code tree) := by
  induction plain with
  | empty => exact builds_nothing.mono fun same => same ▸ .empty
  | one member nesting => exact (builds_add (.take member)).mono .one
  | anchor kind => exact (builds_add (.check kind)).mono .anchor
  | seq _ _ sooner later =>
      exact (sooner.trans later).mono fun ⟨_, before, after⟩ => .seq before after
  | group index _ inner =>
      refine (((builds_add (.mark (2 * index))).trans inner).trans
        (builds_add (.mark (2 * index + 1)))).mono ?_
      rintro code entry next ⟨_, ⟨_, opens, body⟩, closes⟩
      exact .group opens body closes
  | many greedy member nesting =>
      exact ((builds_add (.take member)).loop greedy).mono fun ⟨_, here, back⟩ => .many here back
  | @settled body plain ungrouped inner =>
      have same : (settled body).compile = fun next assembly =>
          (body.compile (assembly.add .accept).2 (assembly.add .accept).1).1.add
            (.settle (body.compile (assembly.add .accept).2 (assembly.add .accept).1).2 next) := by
        funext next assembly
        simp only [compile, compileSettled, ungrouped, compileRegular_eq_compile plain]
        rfl
      rw [same]
      exact (inner.detour (fun _ => .accept) .settle).mono
        fun ⟨_, _, here, body, ends⟩ => .settled here body ends
  | @notBehind body _ fixed inner =>
      have same : (look .behind false body).compile = fun next assembly =>
          let examine : Compilation := fun next assembly =>
            (body.compile next assembly).1.add
              (.goBack body.leastLength (body.compile next assembly).2)
          (examine (assembly.add (.abandon next)).2 (assembly.add (.abandon next)).1).1.add
            (.fork (examine (assembly.add (.abandon next)).2
              (assembly.add (.abandon next)).1).2 next) := by
        funext next assembly
        simp only [compile, compileLook, fixed]
        rfl
      rw [same]
      exact (((builds_add (.goBack body.leastLength)).trans inner).detour .abandon .fork).mono
        fun ⟨_, _, here, ⟨_, back, body⟩, ends⟩ => .notBehind here back body ends

end Tree

/-! ## Rows -/

namespace Tree

/-- What stands in a program for trees in a row. -/
def StandsAll (code : Array Instruction) : List Tree -> (entry next : Nat) -> Prop
  | [], entry, next => entry = next
  | tree :: trees, entry, next =>
      ∃ middle, Stands code tree entry middle ∧ StandsAll code trees middle next

theorem Stands.all {code : Array Instruction} {trees : List Tree} {entry next : Nat}
    (stands : Stands code (sequence trees) entry next) : StandsAll code trees entry next := by
  induction trees generalizing entry with
  | nil =>
      rw [sequence] at stands
      cases stands with
      | empty => exact rfl
  | cons tree trees ih =>
      cases trees with
      | nil => exact ⟨next, stands, rfl⟩
      | cons other trees =>
          cases stands with
          | seq sooner later => exact ⟨_, sooner, ih later⟩

theorem plain_sequence {regular : Bool} {trees : List Tree}
    (plain : ∀ tree ∈ trees, Plain regular tree) : Plain regular (sequence trees) := by
  induction trees with
  | nil => exact .empty
  | cons tree trees ih =>
      have both := List.forall_mem_cons.mp plain
      cases trees with
      | nil => exact both.1
      | cons other trees => exact .seq both.1 (ih both.2)

theorem sequence_cons (tree : Tree) {trees : List Tree} (filled : trees ≠ []) :
    sequence (tree :: trees) = .seq tree (sequence trees) := by
  cases trees with
  | nil => exact absurd rfl filled
  | cons other trees => rfl

/-- No look-ahead stands at the end of a plain tree. -/
theorem Plain.splitLookAhead? {regular : Bool} {tree : Tree} (plain : Plain regular tree) :
    Program.splitLookAhead? tree = none := by
  induction plain with
  | @seq _ first second _ after _ later =>
      unfold Program.splitLookAhead?
      split
      · rename_i same
        rcases Tree.seq.inj same with ⟨_, rfl⟩
        cases after
      · rename_i same
        rcases Tree.seq.inj same with ⟨_, rfl⟩
        rw [later]
        rfl
      · rfl
  | empty | one | anchor | group | many | settled | notBehind => rfl

end Tree

/-! ## Searches -/

/-- What stands in a program that searches for a tree. -/
structure Program.Searches (program : Program) (tree : Tree) : Prop where
  /-- The ends of the match have their slots. -/
  room : 2 ≤ program.slots
  ends : program.code[0]? = some .accept
  stands : ∃ start farther, program.code[program.entry]? = some (.fork start farther) ∧
    Tree.Stands program.code tree start 0 ∧
    program.code[farther]? = some (.take .everything program.entry)

theorem Program.searches_search {regular : Bool} (mode : Bool) (groups : Nat) {tree : Tree}
    (plain : Tree.Plain regular tree) :
    (Program.search mode groups tree.compile).Searches tree := by
  have builds := Tree.builds_compile plain
  let first : Assembly := (Assembly.add ⟨#[], 2 * groups + 2⟩ .accept).1
  let body := tree.compile 0 first
  have grows : 1 ≤ body.1.code.size := builds.grows 0 first
  have keeps : body.1.code[0]? = some .accept := builds.keeps 0 first 0 Nat.zero_lt_one
  let looped := (body.1.add .accept).1
  let farther := (looped.add (.take .everything body.1.code.size)).1
  have size : looped.code.size = body.1.code.size + 1 := Assembly.size_add
  have whole : farther.code.size = body.1.code.size + 2 := by
    rw [Assembly.size_add, size]
  have code : (Program.search mode groups tree.compile).code =
      (farther.fill body.1.code.size (.fork body.2 looped.code.size)).code := rfl
  have early {place : Nat} (inside : place < body.1.code.size) :
      (Program.search mode groups tree.compile).code[place]? = body.1.code[place]? := by
    rw [code, Assembly.getElem?_fill_of_ne (Nat.ne_of_gt inside),
      Assembly.getElem?_add_of_lt (by omega), Assembly.getElem?_add_of_lt inside]
  have slots : (Program.search mode groups tree.compile).slots = 2 * groups + 2 :=
    builds.slots 0 first
  refine ⟨by omega, (early grows).trans keeps, body.2, looped.code.size, ?_, ?_, ?_⟩
  · rw [code]
    exact Assembly.getElem?_fill_self (by omega)
  · exact builds.holds 0 first _ fun place _ inside => early inside
  · rw [code, Assembly.getElem?_fill_of_ne (by omega)]
    exact Assembly.getElem?_add_self

/-- A program has an end, and a fork that leads to a tree or farther on. -/
theorem Program.Searches.size_le {program : Program} {tree : Tree}
    (searches : program.Searches tree) : 3 ≤ program.code.size := by
  rcases searches.stands with ⟨start, farther, forks, _, goes⟩
  have inside {place : Nat} {instruction : Instruction}
      (here : program.code[place]? = some instruction) : place < program.code.size :=
    (Array.getElem?_eq_some_iff.mp here).1
  have apart {first second : Nat} {one other : Instruction} (here : program.code[first]? = some one)
      (there : program.code[second]? = some other) (differ : one ≠ other) : first ≠ second := by
    rintro rfl
    exact differ (Option.some.inj (here.symm.trans there))
  have ends := inside searches.ends
  have loops := inside forks
  have takes := inside goes
  have first := apart searches.ends forks (by rintro ⟨⟩)
  have second := apart searches.ends goes (by rintro ⟨⟩)
  have third := apart forks goes (by rintro ⟨⟩)
  omega

end Pattern
end FencedHighlight
