import FencedHighlight.Proofs.Pattern.Layout

namespace FencedHighlight
namespace Pattern

/-!
Layouts for compiled trees.

A program grows from its end to its start, and its layout grows with it: each new
instruction gets a spot from which it leads to spots that are there already.  So
for every way to compile a part it is enough to know the spot at which the part
begins, given the spot of the place that it leads to.
-/

open Machine (Layout Spot Zone Note Stage)

/-- Whether a layout describes all of a program under construction. -/
structure Assembly.Covered (layout : Layout) (assembly : Assembly) : Prop where
  spots : layout.spots.length = assembly.code.size
  notes : layout.notes.length = assembly.slots
  describes : layout.Describes assembly.code

/-- Whether a layout can be extended to one for an assembly in which a part begins
at a spot. -/
def Assembly.Extends (layout : Layout) (entry : Spot) (result : Assembly × Nat) : Prop :=
  ∃ wider, layout.GrowsTo wider ∧ result.1.Covered wider ∧ wider.spots[result.2]? = some entry

/-- Whether a part begins at one spot if it leads to another one.  `notes` says what
is known of the slots for groups. -/
def Compilation.Joins (notes : List Note) (compilation : Compilation) (entry target : Spot) :
    Prop :=
  ∀ layout assembly next, notes <+: layout.notes -> Assembly.Covered layout assembly ->
    layout.spots[next]? = some target ->
    Assembly.Extends layout entry (compilation next assembly)

namespace Assembly

variable {layout : Layout} {assembly : Assembly} {spot : Spot}

theorem Covered.add (covered : Covered layout assembly) {instruction : Instruction}
    (fits : layout.Fits spot instruction) :
    Extends layout spot (assembly.add instruction) := by
  have grows : layout.GrowsTo { layout with spots := layout.spots ++ [spot] } :=
    ⟨List.prefix_append _ _, List.prefix_refl _⟩
  have here : (layout.spots ++ [spot])[assembly.code.size]? = some spot := by
    rw [← covered.spots, List.getElem?_concat_length]
  refine ⟨_, grows, ⟨?_, covered.notes, ?_⟩, here⟩
  · simp only [Assembly.add, List.length_append, List.length_singleton, Array.size_push,
      covered.spots]
  · intro place other known present listed
    simp only [Assembly.add, Array.getElem?_push] at present
    split at present
    · rename_i last
      rcases Option.some.inj present with rfl
      subst last
      rcases Option.some.inj (listed.symm.trans here) with rfl
      exact fits.of_grows grows
    · have inside : place < layout.spots.length := by
        rw [covered.spots]
        exact (Array.getElem?_eq_some_iff.mp present).1
      rw [List.getElem?_append_left inside] at listed
      exact (covered.describes place other known present listed).of_grows grows

theorem Covered.fill (covered : Covered layout assembly) {place : Nat} {instruction : Instruction}
    (known : layout.spots[place]? = some spot) (fits : layout.Fits spot instruction) :
    Covered layout (assembly.fill place instruction) := by
  refine ⟨?_, covered.notes, ?_⟩
  · rw [Assembly.fill, Array.size_setIfInBounds, covered.spots]
  · intro other found there present listed
    simp only [Assembly.fill, Array.getElem?_setIfInBounds] at present
    split at present
    · rename_i same
      subst same
      split at present
      · rcases Option.some.inj present with rfl
        rcases Option.some.inj (listed.symm.trans known) with rfl
        exact fits
      · cases present
    · exact covered.describes other found there present listed

theorem Covered.freshSlot (covered : Covered layout assembly) (note : Note) :
    ∃ wider, layout.GrowsTo wider ∧ Covered wider assembly.freshSlot.1 ∧
      wider.notes[assembly.freshSlot.2]? = some note := by
  have grows : layout.GrowsTo { layout with notes := layout.notes ++ [note] } :=
    ⟨List.prefix_refl _, List.prefix_append _ _⟩
  refine ⟨_, grows, ⟨covered.spots, ?_, ?_⟩, ?_⟩
  · simp only [Assembly.freshSlot, List.length_append, List.length_singleton, covered.notes]
  · intro place instruction known present listed
    exact (covered.describes place instruction known present listed).of_grows grows
  · simp only [Assembly.freshSlot]
    rw [← covered.notes, List.getElem?_concat_length]

theorem Extends.of_grows {first second : Layout} {result : Assembly × Nat}
    (extended : Extends second spot result) (grows : first.GrowsTo second) :
    Extends first spot result := by
  rcases extended with ⟨wider, onwards, rest⟩
  exact ⟨wider, grows.trans onwards, rest⟩

end Assembly

/-! ## Spots -/

/-- A spot from which the position may move onwards. -/
structure Machine.Spot.Steady (spot : Spot) : Prop where
  zone : spot.zone = .ahead ∨ spot.zone = .anywhere
  settled : spot.settled = true -> spot.zone = .ahead

namespace Machine

variable {layout : Layout} {spot : Spot} {next : Nat}

theorem Spot.Steady.onwards (steady : spot.Steady) {stage : Stage} {first second : Nat}
    (holds : spot.zone.Holds stage first) (ordered : first ≤ second) :
    spot.zone.Holds stage second := by
  rcases steady.zone with zone | zone <;> rw [zone] at holds ⊢
  · cases stage with
    | before start => exact holds.elim
    | since start => exact Nat.le_trans holds ordered
  · cases stage with
    | before start => exact holds.elim
    | since start => trivial

theorem Layout.stays (known : layout.spots[next]? = some spot) : layout.Stays spot next :=
  ⟨spot, known, id, fun _ _ _ holds same => same ▸ holds⟩

theorem Layout.stays_of_weaker {target : Spot} (known : layout.spots[next]? = some target)
    (within : spot.settled = true -> target.settled = true)
    (weaker : ∀ stage position, spot.zone.Holds stage position ->
      target.zone.Holds stage position) : layout.Stays spot next :=
  ⟨target, known, within, fun stage first _ holds same => same ▸ weaker stage first holds⟩

theorem Layout.leads_onwards (steady : spot.Steady) (known : layout.spots[next]? = some spot)
    {moves : Stage -> (first second : Nat) -> Prop}
    (onwards : ∀ stage first second, moves stage first second -> first ≤ second) :
    layout.Leads spot moves next :=
  ⟨spot, known, id, fun stage first second holds moved =>
    steady.onwards holds (onwards stage first second moved)⟩

/-- The spot of a part that looks behind, or of any other part that is not
settled. -/
def Spot.ofSide (behind : Bool) : Spot :=
  { zone := if behind then .anywhere else .ahead }

theorem Spot.steady_ofSide (behind : Bool) : (Spot.ofSide behind).Steady := by
  cases behind
  · exact ⟨Or.inl rfl, fun none => nomatch none⟩
  · exact ⟨Or.inr rfl, fun none => nomatch none⟩

end Machine

end Pattern
end FencedHighlight
