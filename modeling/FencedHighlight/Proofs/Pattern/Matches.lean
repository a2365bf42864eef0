import FencedHighlight.Proofs.Pattern.Beginning
import FencedHighlight.Proofs.Pattern.Progress

namespace FencedHighlight
namespace Pattern

/-!
What programs for patterns report.

The program for a pattern keeps to a layout in which the search goes on from where it
begins, and all of the match lies ahead of its beginning.  So no match begins before
the search for it, unless the pattern moves the beginning while it looks behind.
And if a group opens the pattern, the match begins with it, unless the pattern moves
the beginning at all.
-/

open Machine (Layout Spot Zone Note Stage)
open Compilation (Joins Leading Opens Closes Admits)

variable {notes : List Note} {tree : Tree} {groups : Nat} {referenced : List Nat}
  {program : Program}

namespace Program

/-- The search may go on with the next character until the match begins. -/
theorem fits_take_of_outside {layout : Layout} {next : Nat} (member : CharClass)
    (known : layout.spots[next]? = some { zone := .outside }) :
    layout.Fits { zone := .outside } (.take member next) := by
  refine ⟨_, known, id, ?_⟩
  rintro stage position _ holds rfl
  cases stage with
  | since start => exact holds.elim
  | before start => exact Nat.le_succ_of_le holds

/-- The program for a part that begins outside of all matches keeps to a layout. -/
theorem exists_layout_of_search (regular : Bool) {body : Compilation}
    (joins : Joins notes body ⟨.outside, false⟩ ⟨.ahead, false⟩)
    (length : notes.length = 2 * groups + 2) :
    ∃ layout : Layout, notes <+: layout.notes ∧
      layout.Describes (search regular groups body).code ∧
      layout.spots[(search regular groups body).entry]? = some { zone := .outside } := by
  have empty : Assembly.Covered ⟨[], notes⟩ ⟨#[], 2 * groups + 2⟩ :=
    ⟨rfl, length, fun place instruction spot present => nomatch present⟩
  rcases empty.add (show Layout.Fits _ ⟨.ahead, false⟩ .accept from fun none => nomatch none) with
    ⟨first, toFirst, withFinish, finish⟩
  rcases joins first _ _ toFirst.2 withFinish finish with ⟨second, toSecond, withBody, start⟩
  rcases withBody.add (show Layout.Fits _ ⟨.outside, false⟩ .accept from
    fun none => nomatch none) with ⟨third, toThird, withLoop, loop⟩
  rcases withLoop.add (fits_take_of_outside .everything loop) with
    ⟨fourth, toFourth, withStep, farther⟩
  have tries : fourth.Fits ⟨.outside, false⟩ (.fork _ _) :=
    ⟨Layout.stays ((toThird.trans toFourth).spot start), Layout.stays farther⟩
  have whole := withStep.fill (toFourth.spot loop) tries
  have grows := toFirst.trans (toSecond.trans (toThird.trans toFourth))
  exact ⟨fourth, grows.2, whole.describes, toFourth.spot loop⟩

theorem admits_enclosed {behind : Bool} (admits : Admits notes behind tree) :
    Admits notes behind tree.enclosed := by
  cases tree <;> exact admits

theorem admits_of_splitLookAhead? {before after : Tree} (admits : Admits notes false tree)
    (split : splitLookAhead? tree = some (before, after)) :
    Admits notes false before ∧ Admits notes false after := by
  fun_induction splitLookAhead? tree generalizing before with
  | case1 first body =>
      rcases Prod.mk.inj (Option.some.inj split) with ⟨rfl, rfl⟩
      exact admits
  | case2 first second _ ih =>
      rcases Option.map_eq_some_iff.mp split with ⟨⟨inner, body⟩, found, same⟩
      rcases Prod.mk.inj same with ⟨rfl, rfl⟩
      have parts := ih admits.2 found
      exact ⟨⟨admits.1, parts.1⟩, parts.2⟩
  | case3 => cases split

/-- Splitting a look-ahead off the end of a tree leaves its first part the first. -/
theorem leading_of_splitLookAhead? {zone : Zone} {before after : Tree}
    (leading : Leading notes tree zone) (split : splitLookAhead? tree = some (before, after)) :
    Leading notes before zone ∧ Admits notes false after := by
  fun_induction splitLookAhead? tree generalizing before with
  | case1 first body =>
      rcases Prod.mk.inj (Option.some.inj split) with ⟨rfl, rfl⟩
      cases leading with
      | steady admits => exact ⟨.steady admits.1, admits.2⟩
      | seq leading admits => exact ⟨leading, admits⟩
  | case2 first second _ ih =>
      rcases Option.map_eq_some_iff.mp split with ⟨⟨inner, body⟩, found, same⟩
      rcases Prod.mk.inj same with ⟨rfl, rfl⟩
      cases leading with
      | steady admits =>
          have parts := admits_of_splitLookAhead? admits.2 found
          exact ⟨.steady ⟨admits.1, parts.1⟩, parts.2⟩
      | seq leading admits =>
          have parts := admits_of_splitLookAhead? admits found
          exact ⟨.seq leading parts.1, parts.2⟩
  | case3 => cases split

theorem groups_of_ofTree? (compiled : ofTree? tree groups referenced = some program) :
    program.groups = groups := by
  unfold ofTree? at compiled
  simp only at compiled
  split at compiled <;> split at compiled
  · rcases Option.some.inj compiled with rfl
    rfl
  · cases compiled
  · rcases Option.some.inj compiled with rfl
    rfl
  · cases compiled

/-- The match begins outside, where the first part of the pattern begins. -/
theorem leading_matchTree {inner : Zone} (opens : Opens notes 0 .outside inner)
    (closes : Closes notes 1) (leading : Leading notes tree inner) :
    Leading notes (matchTree tree) .outside := by
  unfold matchTree
  split
  · rename_i before after split
    rcases leading_of_splitLookAhead? leading split with ⟨first, admits⟩
    exact .seq (.group opens closes first) (admits_enclosed admits)
  · exact .group opens closes leading

/-- The program for a pattern keeps to a layout. -/
theorem exists_layout_of_ofTree? {inner : Zone} (opens : Opens notes 0 .outside inner)
    (closes : Closes notes 1) (leading : Leading notes tree inner)
    (length : notes.length = 2 * groups + 2)
    (compiled : ofTree? tree groups referenced = some program) :
    ∃ layout : Layout, notes <+: layout.notes ∧ layout.Describes program.code ∧
      layout.spots[program.entry]? = some { zone := .outside } := by
  have begins := leading_matchTree opens closes leading
  unfold ofTree? at compiled
  simp only at compiled
  split at compiled
  · split at compiled
    · rcases Option.some.inj compiled with rfl
      exact exists_layout_of_search true (begins.joins_compileRegular false) length
    · cases compiled
  · split at compiled
    · rcases Option.some.inj compiled with rfl
      have arranged : Leading notes ((matchTree tree).arrange referenced (.part true)) .outside :=
        begins.arrange id
      exact exists_layout_of_search false arranged.joins_compile length
    · cases compiled

end Program

/-! ## The beginning of the match -/

/-- What a search for a tree has noted agrees with what is known of the slots. -/
theorem noted_of_ofTree? {inner : Zone} (opens : Opens notes 0 .outside inner)
    (closes : Closes notes 1) (leading : Leading notes tree inner)
    (length : notes.length = 2 * groups + 2)
    (compiled : Program.ofTree? tree groups referenced = some program) {chars : Array Char}
    {position : Nat} {slots : Machine.Slots}
    (ran : Machine.search? program chars position = some slots) :
    ∃ raw later, slots = Machine.closeMatch program.groups raw ∧
      (Stage.before position).Passes later ∧
      ∀ slot value note, raw.read slot = some value -> notes[slot]? = some note ->
        note.Holds later value := by
  rcases Program.exists_layout_of_ofTree? opens closes leading length compiled with
    ⟨layout, base, describes, entry⟩
  rcases Machine.noted_of_search? describes entry ran with ⟨raw, later, passes, noted, same⟩
  exact ⟨raw, later, same, passes, fun slot value note holds known =>
    noted slot value note holds (Layout.getElem?_of_prefix base known)⟩

/-- What is known of the slots for groups if something may move the beginning of the
match. -/
def laterNotes (groups : Nat) : List Note :=
  .later :: .later :: List.replicate (2 * groups) .free

/-- No match of a tree begins before the search, if nothing moves its beginning
behind the position. -/
theorem le_start_of_admits (admits : Admits (laterNotes groups) false tree)
    (compiled : Program.ofTree? tree groups referenced = some program) {chars : Array Char}
    {position start stop : Nat} {slots : Machine.Slots}
    (ran : Machine.search? program chars position = some slots)
    (first : slots.read 0 = some start) (last : slots.read 1 = some stop) :
    position ≤ start := by
  have opens : Opens (laterNotes groups) 0 .outside .ahead :=
    ⟨.later, rfl, Or.inr ⟨rfl, fun start => ⟨Nat.le_refl start, Nat.le_refl start⟩⟩⟩
  have closes : Closes (laterNotes groups) 1 := ⟨.later, rfl, fun none => nomatch none⟩
  have length : (laterNotes groups).length = 2 * groups + 2 := by
    simp only [laterNotes, List.length_cons, List.length_replicate]
  rcases noted_of_ofTree? opens closes (.steady admits) length compiled ran with
    ⟨raw, later, rfl, passes, noted⟩
  rcases Machine.start_of_closeMatch first last with ⟨beginning, starts, stops, rfl⟩
  have starting := noted 0 beginning .later (Machine.read_take starts) rfl
  have stopping := noted 1 stop .later (Machine.read_take stops) rfl
  cases passes with
  | same => exact starting.elim
  | begins ordered =>
      exact Nat.le_min.mpr ⟨Nat.le_trans ordered starting, Nat.le_trans ordered stopping⟩

/-- What is known of the slots for groups if nothing moves the beginning of the match
and the first group opens it. -/
def exactNotes (groups : Nat) : List Note :=
  .exact :: .later :: .exact :: List.replicate (2 * groups - 1) .free

/-- The first group begins with the match if it is the first part of a tree that
leaves the beginning of the match alone. -/
theorem start_eq_of_leading (numbered : 0 < groups)
    (leading : Leading (exactNotes groups) tree .opening)
    (compiled : Program.ofTree? tree groups referenced = some program) {chars : Array Char}
    {position start stop opening : Nat} {slots : Machine.Slots}
    (ran : Machine.search? program chars position = some slots)
    (first : slots.read 0 = some start) (last : slots.read 1 = some stop)
    (group : slots.read 2 = some opening) : opening = start := by
  have opens : Opens (exactNotes groups) 0 .outside .opening :=
    ⟨.exact, rfl, Or.inr ⟨rfl, fun start => ⟨rfl, rfl⟩⟩⟩
  have closes : Closes (exactNotes groups) 1 := ⟨.later, rfl, fun none => nomatch none⟩
  have length : (exactNotes groups).length = 2 * groups + 2 := by
    simp only [exactNotes, List.length_cons, List.length_replicate]
    omega
  rcases noted_of_ofTree? opens closes leading length compiled ran with
    ⟨raw, later, rfl, passes, noted⟩
  rcases Machine.start_of_closeMatch first last with ⟨beginning, starts, stops, rfl⟩
  have grouped := Machine.read_of_closeMatch (by decide) group
  have starting := noted 0 beginning .exact (Machine.read_take starts) rfl
  have stopping := noted 1 stop .later (Machine.read_take stops) rfl
  have begins := noted 2 opening .exact (Machine.read_take grouped) rfl
  cases passes with
  | same => exact starting.elim
  | begins ordered =>
      rw [show opening = _ from begins, show beginning = _ from starting]
      exact (Nat.min_eq_left stopping).symm

end Pattern
end FencedHighlight
