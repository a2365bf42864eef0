import FencedHighlight.Pattern.Machine
import FencedHighlight.Proofs.Pattern.Span

namespace FencedHighlight
namespace Pattern
namespace Machine

/-!
What is known of the position at a place of a program.

Most of a program moves the position onwards only.  What looks behind moves it
back, but then returns to a position that has been noted before.  A layout tells
these parts apart: it gives every place a zone, and says of every slot what may be
noted in it.  An instruction fits a layout if it keeps to what the layout says, and
then the layout describes every moment of a run.
-/

/-- How far a search has come. -/
inductive Stage where
  /-- The match has not begun, and will not begin before a position. -/
  | before (start : Nat)
  /-- The match has begun at a position. -/
  | since (start : Nat)

namespace Stage

/-- Whether a search may come from one stage to another. -/
inductive Passes : Stage -> Stage -> Prop where
  | same (stage : Stage) : Passes stage stage
  | begins {start position : Nat} (later : start ≤ position) :
      Passes (before start) (since position)

theorem Passes.trans {first second third : Stage} (earlier : Passes first second)
    (later : Passes second third) : Passes first third := by
  cases earlier with
  | same => exact later
  | begins ordered =>
      cases later
      exact .begins ordered

/-- A match that has begun has begun for good. -/
theorem Passes.eq_of_since {start : Nat} {stage : Stage} (passes : Passes (since start) stage) :
    stage = since start := by
  cases passes
  rfl

end Stage

/-- What is known of the position at a place. -/
inductive Zone where
  /-- The match has not begun. -/
  | outside
  /-- The match begins here. -/
  | opening
  /-- No match begins after this position. -/
  | ahead
  /-- The match has begun, but the position may be anywhere. -/
  | anywhere
deriving DecidableEq

def Zone.Holds : Zone -> Stage -> (position : Nat) -> Prop
  | outside, .before start, position => start ≤ position
  | opening, .since start, position => position = start
  | ahead, .since start, position => start ≤ position
  | anywhere, .since _, _ => True
  | _, _, _ => False

/-- What is known of a position that has been noted in a slot. -/
inductive Note where
  | free
  /-- The match does not begin after it. -/
  | later
  /-- The match begins there. -/
  | exact
deriving DecidableEq

def Note.Holds : Note -> Stage -> (position : Nat) -> Prop
  | free, _, _ => True
  | later, .since start, position => start ≤ position
  | exact, .since start, position => position = start
  | _, .before _, _ => False

/-- What is known of a place: the zone, and whether it belongs to a part that is
settled ahead of the beginning of the match. -/
structure Spot where
  zone : Zone
  settled : Bool := false

/-- What is known of the places and of the slots of a program. -/
structure Layout where
  spots : List Spot
  notes : List Note

namespace Layout

/-- Whether one layout says all that another one does. -/
def GrowsTo (layout wider : Layout) : Prop :=
  layout.spots <+: wider.spots ∧ layout.notes <+: wider.notes

theorem GrowsTo.refl (layout : Layout) : layout.GrowsTo layout :=
  ⟨List.prefix_refl _, List.prefix_refl _⟩

theorem GrowsTo.trans {first second third : Layout} (inner : first.GrowsTo second)
    (outer : second.GrowsTo third) : first.GrowsTo third :=
  ⟨inner.1.trans outer.1, inner.2.trans outer.2⟩

theorem getElem?_of_prefix {α : Type} {known all : List α} {index : Nat} {value : α}
    (within : known <+: all) (found : known[index]? = some value) : all[index]? = some value := by
  rcases List.getElem?_eq_some_iff.mp found with ⟨inside, rfl⟩
  exact List.prefix_iff_getElem?.mp within index inside

theorem GrowsTo.spot {layout wider : Layout} (grows : layout.GrowsTo wider) {place : Nat}
    {spot : Spot} (known : layout.spots[place]? = some spot) : wider.spots[place]? = some spot :=
  getElem?_of_prefix grows.1 known

theorem GrowsTo.note {layout wider : Layout} (grows : layout.GrowsTo wider) {slot : Nat}
    {note : Note} (known : layout.notes[slot]? = some note) : wider.notes[slot]? = some note :=
  getElem?_of_prefix grows.2 known

/-- Whether an instruction at a spot may lead to a place, if it moves the position
in some way. -/
def Leads (layout : Layout) (spot : Spot) (moves : Stage -> (first second : Nat) -> Prop)
    (next : Nat) : Prop :=
  ∃ target, layout.spots[next]? = some target ∧
    (spot.settled = true -> target.settled = true) ∧
    ∀ stage first second, spot.zone.Holds stage first -> moves stage first second ->
      target.zone.Holds stage second

/-- Whether an instruction at a spot may lead to a place and stay where it is. -/
def Stays (layout : Layout) (spot : Spot) (next : Nat) : Prop :=
  layout.Leads spot (fun _ first second => second = first) next

/-- Whether the match may begin at a spot that leads to a place. -/
def Begins (layout : Layout) (spot : Spot) (note : Note) (next : Nat) : Prop :=
  spot.zone = .outside ∧ (∀ start, note.Holds (.since start) start) ∧
    ∃ target, layout.spots[next]? = some target ∧
      (spot.settled = true -> target.settled = true) ∧
      ∀ start, target.zone.Holds (.since start) start

/-- Whether the position at a spot may be noted. -/
def Notes (spot : Spot) (note : Note) : Prop :=
  ∀ stage position, spot.zone.Holds stage position -> note.Holds stage position

/-- Whether a part that is settled from a spot on may lead to a place: it ends ahead
of the beginning of the match, or nothing is known of the position anyway. -/
def Settles (layout : Layout) (spot : Spot) (entry next : Nat) : Prop :=
  ∃ part target, layout.spots[entry]? = some part ∧ layout.spots[next]? = some target ∧
    (∀ stage position, spot.zone.Holds stage position -> part.zone.Holds stage position) ∧
    ((part.settled = true ∧ target.zone = .ahead) ∨
      (spot.zone = .anywhere ∧ target.zone = .anywhere))

/-- Whether nothing is known of the position at a place. -/
def IsAnywhere (layout : Layout) (place : Nat) : Prop :=
  ∃ spot, layout.spots[place]? = some spot ∧ spot.zone = .anywhere

/-- Whether an instruction at a spot keeps to what the layout says. -/
def Fits (layout : Layout) (spot : Spot) : Instruction -> Prop
  | .accept => spot.settled = true -> spot.zone = .ahead
  | .take _ next => layout.Leads spot (fun _ first second => second = first + 1) next
  | .takeBack _ next => layout.Leads spot (fun _ first second => second ≤ first) next
  | .goBack _ next => layout.Leads spot (fun _ first second => second ≤ first) next
  | .again _ _ next => layout.Leads spot (fun _ first second => first ≤ second) next
  | .check _ next | .clear _ next | .isSet _ next | .searchStart _ next | .barrier next
  | .cut next => layout.Stays spot next
  | .fork first second => layout.Stays spot first ∧ layout.Stays spot second
  | .mark slot next => ∃ note, layout.notes[slot]? = some note ∧
      ((Notes spot note ∧ layout.Stays spot next) ∨ layout.Begins spot note next)
  | .goTo slot next => ∃ note, layout.notes[slot]? = some note ∧
      layout.Leads spot (fun stage _ second => note.Holds stage second) next
  | .reset slot next => layout.notes[slot]? = some .free ∧ layout.Stays spot next
  | .settle entry next => layout.Settles spot entry next
  | .behind entry forward next => spot.zone = .anywhere ∧ layout.IsAnywhere entry ∧
      (∀ place ∈ forward, layout.IsAnywhere place) ∧ layout.IsAnywhere next
  | .abandon _ => True
  | .round loop entry next => layout.notes[loop.counter]? = some .free ∧
      (∀ slot ∈ loop.guard, layout.notes[slot]? = some .free) ∧
      layout.Stays spot entry ∧ layout.Stays spot next

variable {layout wider : Layout} {spot : Spot}

theorem Leads.of_grows (grows : layout.GrowsTo wider)
    {moves : Stage -> (first second : Nat) -> Prop} {next : Nat}
    (leads : layout.Leads spot moves next) : wider.Leads spot moves next := by
  rcases leads with ⟨target, known, rest⟩
  exact ⟨target, grows.spot known, rest⟩

theorem IsAnywhere.of_grows (grows : layout.GrowsTo wider) {place : Nat}
    (anywhere : layout.IsAnywhere place) : wider.IsAnywhere place := by
  rcases anywhere with ⟨spot, known, zone⟩
  exact ⟨spot, grows.spot known, zone⟩

/-- An instruction that fits a layout fits any that says more. -/
theorem Fits.of_grows (grows : layout.GrowsTo wider) {instruction : Instruction}
    (fits : layout.Fits spot instruction) : wider.Fits spot instruction := by
  cases instruction with
  | accept => exact fits
  | take | takeBack | goBack | again | check | clear | isSet | searchStart | barrier | cut =>
      exact Leads.of_grows grows fits
  | fork => exact ⟨Leads.of_grows grows fits.1, Leads.of_grows grows fits.2⟩
  | mark slot next =>
      rcases fits with ⟨note, known, ⟨noted, stays⟩ | ⟨outside, noted, target, there, rest⟩⟩
      · exact ⟨note, grows.note known, Or.inl ⟨noted, Leads.of_grows grows stays⟩⟩
      · exact ⟨note, grows.note known,
          Or.inr ⟨outside, noted, target, grows.spot there, rest⟩⟩
  | goTo slot next =>
      rcases fits with ⟨note, known, leads⟩
      exact ⟨note, grows.note known, Leads.of_grows grows leads⟩
  | reset slot next => exact ⟨grows.note fits.1, Leads.of_grows grows fits.2⟩
  | settle entry next =>
      rcases fits with ⟨part, target, first, second, rest⟩
      exact ⟨part, target, grows.spot first, grows.spot second, rest⟩
  | behind entry forward next =>
      rcases fits with ⟨zone, first, second, third⟩
      exact ⟨zone, IsAnywhere.of_grows grows first,
        fun place member => IsAnywhere.of_grows grows (second place member),
        IsAnywhere.of_grows grows third⟩
  | abandon => trivial
  | round loop entry next =>
      rcases fits with ⟨counter, guard, first, second⟩
      exact ⟨grows.note counter, fun slot member => grows.note (guard slot member),
        Leads.of_grows grows first, Leads.of_grows grows second⟩

/-- Whether all instructions of a code keep to what the layout says. -/
def Describes (layout : Layout) (code : Array Instruction) : Prop :=
  ∀ (place : Nat) (instruction : Instruction) (spot : Spot), code[place]? = some instruction ->
    layout.spots[place]? = some spot -> layout.Fits spot instruction

end Layout

end Machine
end Pattern
end FencedHighlight
