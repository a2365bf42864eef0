import FencedHighlight.Proofs.Pattern.Compilation

namespace FencedHighlight
namespace Pattern

/-!
Where the match of a pattern begins.

The match itself is the group 0, which begins outside of all matches.  Other groups
may begin just there as well, if they are the first part of the pattern.  However a
tree is arranged for matching, its first part remains the first.
-/

open Machine (Layout Spot Zone Note Stage)

namespace Compilation

variable {notes : List Note} {referenced : List Nat}

/-! ## Arranging -/

/-- Whether a tree in this place may become several look-behinds. -/
def IsBehind : Tree.Place -> Prop
  | .behind _ => True
  | .part _ | .rest _ _ => False

/-- Arranging a tree moves no mark to where it does not belong. -/
theorem admits_arrange (referenced : List Nat) (tree : Tree) :
    (∀ behind place, ¬ IsBehind place -> Admits notes behind tree ->
      Admits notes behind (tree.arrange referenced place)) ∧
    (tree.isChoice = true -> Admits notes true tree -> ∀ behind wanted,
      Admits notes behind (tree.arrange referenced (.behind wanted))) := by
  induction tree with
  | seq first second ihFirst ihSecond =>
      refine ⟨?_, fun choice => nomatch choice⟩
      intro behind place beside admits
      simp only [Tree.arrange]
      split
      · exact admits
      · constructor
        · split
          · exact admits.1
          · exact ihFirst.1 _ _ id admits.1
        · split
          · exact admits.2
          · exact ihSecond.1 _ _ id admits.2
  | either first second ihFirst ihSecond =>
      constructor
      · intro behind place beside admits
        cases place with
        | behind wanted => exact absurd trivial beside
        | part | rest =>
            simp only [Tree.arrange]
            split
            · exact admits
            · exact ⟨ihFirst.1 _ _ id admits.1, ihSecond.1 _ _ id admits.2⟩
      · intro _ admits behind wanted
        have sooner := ihFirst.1 true (.part true) id admits.1
        have later : Admits notes behind
            (if second.isChoice then second.arrange referenced (.behind wanted)
              else .look .behind wanted (second.arrange referenced (.part true))) := by
          split
          · rename_i choice
            exact ihSecond.2 choice admits.2 behind wanted
          · exact ihSecond.1 true (.part true) id admits.2
        simp only [Tree.arrange]
        split <;> exact ⟨sooner, later⟩
  | scope body ih | repeated _ _ _ body ih =>
      refine ⟨?_, fun choice => nomatch choice⟩
      intro behind place beside admits
      simp only [Tree.arrange]
      split
      · exact admits
      · exact ih.1 _ _ id admits
  | group index body ih =>
      refine ⟨?_, fun choice => nomatch choice⟩
      intro behind place beside admits
      simp only [Tree.arrange]
      split
      · exact admits
      · exact ⟨admits.1, ih.1 _ _ id admits.2⟩
  | look side wanted body ih =>
      refine ⟨?_, fun choice => nomatch choice⟩
      intro behind place beside admits
      cases side with
      | ahead => exact ih.1 _ _ id admits
      | behind =>
          have inner : Admits notes true body := admits
          simp only [Tree.arrange]
          split
          · rename_i parts
            exact ih.2 (Bool.and_eq_true_iff.mp parts).1 inner behind wanted
          · exact ih.1 true (.part true) id inner
  | atomic body ih =>
      exact ⟨fun _ _ _ admits => ih.1 _ _ id admits, fun choice => nomatch choice⟩
  | conditional condition yes no ihCondition ihYes ihNo =>
      refine ⟨?_, fun choice => nomatch choice⟩
      intro behind place beside admits
      exact ⟨ihCondition.1 _ _ id admits.1, ihYes.1 _ _ id admits.2.1,
        ihNo.1 _ _ id admits.2.2⟩
  | empty | one | anchor | settled | again | isSet | beginHere | searchStart =>
      refine ⟨?_, fun choice => nomatch choice⟩
      intro behind place beside admits
      simp only [Tree.arrange]
      split <;> exact admits

/-! ## The first part -/

/-- Whether the opening mark of a group may lead from one zone to another one: what
is known of the position is enough for the slot, or the match begins with it. -/
def Opens (notes : List Note) (slot : Nat) (outer inner : Zone) : Prop :=
  ∃ note, notes[slot]? = some note ∧
    ((∀ stage position, outer.Holds stage position ->
        note.Holds stage position ∧ inner.Holds stage position) ∨
      (outer = .outside ∧ ∀ start, note.Holds (.since start) start ∧
        inner.Holds (.since start) start))

/-- Whether the end of a group may be noted in a slot. -/
def Closes (notes : List Note) (slot : Nat) : Prop :=
  ∃ note, notes[slot]? = some note ∧ note ≠ .exact

/-- A tree that begins in some zone, as its first part is a group that does. -/
inductive Leading (notes : List Note) : Tree -> Zone -> Prop where
  | steady {tree : Tree} (admits : Admits notes false tree) : Leading notes tree .ahead
  | group {index : Nat} {body : Tree} {outer inner : Zone}
      (opens : Opens notes (2 * index) outer inner) (closes : Closes notes (2 * index + 1))
      (inside : Leading notes body inner) : Leading notes (.group index body) outer
  | seq {first second : Tree} {zone : Zone} (leading : Leading notes first zone)
      (admits : Admits notes false second) : Leading notes (.seq first second) zone
  | settled {body : Tree} {zone : Zone} (leading : Leading notes body zone) :
      Leading notes (.settled body) zone

theorem Opens.fits {slot next : Nat} {outer inner : Zone} (opens : Opens notes slot outer inner)
    (settled : Bool) {layout : Layout} (base : notes <+: layout.notes)
    (known : layout.spots[next]? = some ⟨inner, settled⟩) :
    layout.Fits ⟨outer, settled⟩ (.mark slot next) := by
  rcases opens with ⟨note, noted, stays | ⟨outside, begins⟩⟩
  · exact ⟨note, Layout.getElem?_of_prefix base noted,
      Or.inl ⟨fun stage position holds => (stays stage position holds).1,
        Layout.stays_of_weaker known id fun stage position holds =>
          (stays stage position holds).2⟩⟩
  · exact ⟨note, Layout.getElem?_of_prefix base noted,
      Or.inr ⟨outside, fun start => (begins start).1, _, known, id,
        fun start => (begins start).2⟩⟩

theorem Closes.fits {slot next : Nat} (closes : Closes notes slot) (settled : Bool)
    {layout : Layout} (base : notes <+: layout.notes)
    (known : layout.spots[next]? = some ⟨.ahead, settled⟩) :
    layout.Fits ⟨.ahead, settled⟩ (.mark slot next) := by
  rcases closes with ⟨note, noted, inexact⟩
  refine ⟨note, Layout.getElem?_of_prefix base noted, Or.inl ⟨?_, Layout.stays known⟩⟩
  intro stage position holds
  cases note with
  | free => trivial
  | later => cases stage <;> exact holds
  | exact => exact absurd rfl inexact

theorem joins_leading_group {part : Compilation} {index : Nat} {outer inner : Zone}
    (opens : Opens notes (2 * index) outer inner) (closes : Closes notes (2 * index + 1))
    (settled : Bool) (joins : Joins notes part ⟨inner, settled⟩ ⟨.ahead, settled⟩) :
    Joins notes (Tree.compileGroup part index) ⟨outer, settled⟩ ⟨.ahead, settled⟩ :=
  joins_compileGroup joins (fun _ _ base known => closes.fits settled base known)
    (fun _ _ base known => opens.fits settled base known)

/-- A regular tree begins where its first part does. -/
theorem Leading.joins_compileRegular {tree : Tree} {zone : Zone} (leading : Leading notes tree zone)
    (settled : Bool) :
    Joins notes (tree.compileRegular false) ⟨zone, settled⟩ ⟨.ahead, settled⟩ := by
  have steady : Spot.Steady ⟨.ahead, settled⟩ := ⟨Or.inl rfl, fun _ => rfl⟩
  induction leading with
  | steady admits => exact joins_rightward steady admits.freeGroups
  | group opens closes inside ih => exact joins_leading_group opens closes settled ih
  | seq leading admits ih => exact ih.trans (joins_rightward steady admits.freeGroups)
  | settled leading ih => exact ih

/-- An arranged tree begins where its first part does. -/
theorem Leading.joins_compile {tree : Tree} {zone : Zone} (leading : Leading notes tree zone) :
    Joins notes tree.compile ⟨zone, false⟩ ⟨.ahead, false⟩ := by
  induction leading with
  | steady admits => exact Compilation.joins_compile admits
  | group opens closes inside ih => exact joins_leading_group opens closes false ih
  | seq leading admits ih => exact ih.trans (Compilation.joins_compile admits)
  | settled leading ih =>
      exact joins_compileSettled (leading.joins_compileRegular true) (Or.inl rfl)

/-- However a tree is arranged, its first part remains the first. -/
theorem Leading.arrange {tree : Tree} {zone : Zone} (leading : Leading notes tree zone)
    {place : Tree.Place} (beside : ¬ IsBehind place) :
    Leading notes (tree.arrange referenced place) zone := by
  induction leading generalizing place with
  | steady admits => exact .steady ((admits_arrange referenced _).1 false place beside admits)
  | group opens closes inside ih =>
      simp only [Tree.arrange]
      split
      · exact .settled (.group opens closes inside)
      · exact .group opens closes (ih id)
  | seq leading admits ih =>
      simp only [Tree.arrange]
      split
      · exact .settled (.seq leading admits)
      · refine .seq ?_ ?_
        · split
          · exact .settled leading
          · exact ih id
        · split
          · exact admits
          · exact (admits_arrange referenced _).1 false _ id admits
  | settled leading ih =>
      simp only [Tree.arrange]
      split
      · exact .settled (.settled leading)
      · exact .settled leading

end Compilation

end Pattern
end FencedHighlight
