import FencedHighlight.Proofs.Pattern.Progress

namespace FencedHighlight
namespace Pattern

/-!
Groups that take part in every match.

A group takes part in a match if both of its slots have been marked.  That is bound to
happen if no way through the program gets from its entry to its end without the marks, and
if nothing clears them again.  The places that can be reached without a mark are found by
following the program, and it takes only a look at these to see that none is the end.
-/

/-! ## Ways through a program -/

/-- The places that an instruction leads to. -/
def Instruction.targets : Instruction -> List Nat
  | accept | abandon _ => []
  | fork first second => [first, second]
  | round _ entry next => [entry, next]
  | take _ next | takeBack _ next | check _ next | mark _ next | clear _ next | goTo _ next
  | goBack _ next | again _ _ next | isSet _ next | searchStart _ next | settle _ next
  | behind _ _ next | barrier next | cut next | reset _ next => [next]

/-- Whether an instruction marks a slot. -/
def Instruction.marks (slot : Nat) : Instruction -> Bool
  | mark other _ => other == slot
  | _ => false

/-- Whether an instruction clears a slot. -/
def Instruction.clears (slot : Nat) : Instruction -> Bool
  | clear other _ => other == slot
  | _ => false

def Instruction.isAccept : Instruction -> Bool
  | accept => true
  | _ => false

namespace Program

/-- The places that can be reached without a mark in a slot. -/
inductive Unmarked (program : Program) (slot : Nat) : (place : Nat) -> Prop where
  | entry : Unmarked program slot program.entry
  | step {place next : Nat} {instruction : Instruction} (reached : Unmarked program slot place)
      (here : program.code[place]? = some instruction)
      (passes : instruction.marks slot = false) (leads : next ∈ instruction.targets) :
      Unmarked program slot next

/-- Whether a program does not come to its end without a mark in a slot. -/
structure Marks (program : Program) (slot : Nat) : Prop where
  inside : slot < program.slots
  keeps : ∀ (place : Nat) instruction, program.code[place]? = some instruction ->
    instruction.clears slot = false
  ends : ∀ place, Unmarked program slot place -> program.code[place]? ≠ some .accept

/-- Follow a program from some places, without the ways that mark a slot. -/
def explore (code : Array Instruction) (slot : Nat) :
    (steps : Nat) -> (pending found : List Nat) -> List Nat
  | 0, _, found | _, [], found => found
  | steps + 1, place :: pending, found =>
      if found.contains place then
        explore code slot steps pending found
      else
        let next := (code[place]?).elim [] fun instruction =>
          if instruction.marks slot then [] else instruction.targets
        explore code slot steps (next ++ pending) (place :: found)

/-- Whether an instruction at one of some places leads out of them only by a mark. -/
def keepsTo (slot : Nat) (places : List Nat) (instruction : Instruction) : Bool :=
  !instruction.isAccept &&
    (instruction.marks slot || instruction.targets.all places.contains)

/-- Whether a program is seen not to come to its end without a mark in a slot. -/
def alwaysMarks (program : Program) (slot : Nat) : Bool :=
  let places := explore program.code slot (3 * program.code.size + 1) [program.entry] []
  slot < program.slots && program.code.all (fun instruction => !instruction.clears slot) &&
    places.contains program.entry &&
    places.all fun place => (program.code[place]?).all (keepsTo slot places)

variable {program : Program} {slot : Nat}

/-- Places that are left only by a mark are all that can be reached without one. -/
theorem mem_of_unmarked {places : List Nat} (entry : program.entry ∈ places)
    (closed : ∀ place ∈ places, ∀ instruction, program.code[place]? = some instruction ->
      keepsTo slot places instruction = true) {place : Nat}
    (reached : Unmarked program slot place) : place ∈ places := by
  induction reached with
  | entry => exact entry
  | @step place next instruction reached here passes leads ih =>
      have kept := (Bool.and_eq_true_iff.mp (closed place ih instruction here)).2
      rw [passes, Bool.false_or] at kept
      exact List.contains_iff_mem.mp (List.all_eq_true.mp kept next leads)

theorem marks_of_alwaysMarks (checked : program.alwaysMarks slot = true) :
    program.Marks slot := by
  unfold alwaysMarks at checked
  generalize explore program.code slot _ _ _ = places at checked
  simp only [Bool.and_eq_true, decide_eq_true_eq, List.contains_iff_mem, List.all_eq_true,
    Array.all_eq_true, Bool.not_eq_true'] at checked
  rcases checked with ⟨⟨⟨inside, keeps⟩, entry⟩, closed⟩
  have stays : ∀ place ∈ places, ∀ instruction, program.code[place]? = some instruction ->
      keepsTo slot places instruction = true := by
    intro place member instruction here
    have kept := closed place member
    rwa [here, Option.all_some] at kept
  refine ⟨inside, ?_, ?_⟩
  · intro place instruction here
    rcases Array.getElem?_eq_some_iff.mp here with ⟨within, rfl⟩
    exact keeps place within
  · intro place reached accepted
    have kept := stays place (mem_of_unmarked entry stays reached) .accept accepted
    cases (Bool.and_eq_true_iff.mp kept).1

end Program

/-! ## Marks during a run -/

namespace Machine

variable {program : Program} {slot : Nat} {hay : Hay} {moment next : Moment}
  {instruction : Instruction}

/-- Whether a slot that has been marked stays so. -/
structure Retains (slot : Nat) (before after : Slots) : Prop where
  size : after.size = before.size
  marked : (before.read slot).isSome = true -> (after.read slot).isSome = true

theorem Retains.refl (slot : Nat) (slots : Slots) : Retains slot slots slots :=
  ⟨rfl, id⟩

theorem Retains.trans {first second third : Slots} (earlier : Retains slot first second)
    (later : Retains slot second third) : Retains slot first third :=
  ⟨later.size.trans earlier.size, fun marked => later.marked (earlier.marked marked)⟩

theorem isSome_write {slots : Slots} (inside : slot < slots.size) (value : Nat) :
    ((slots.write slot value).read slot).isSome = true := by
  rw [Slots.read_write_self inside]
  rfl

theorem retains_write (slot : Nat) (slots : Slots) (other value : Nat) :
    Retains slot slots (slots.write other value) := by
  refine ⟨Array.size_setIfInBounds, fun marked => ?_⟩
  by_cases same : other = slot
  · rcases Option.isSome_iff_exists.mp marked with ⟨held, holds⟩
    rw [same]
    exact isSome_write (Slots.lt_size_of_read holds) value
  · rwa [Slots.read_write_of_ne same]

theorem retains_clear {other : Nat} (apart : other ≠ slot) (slots : Slots) :
    Retains slot slots (slots.setIfInBounds other none) := by
  refine ⟨Array.size_setIfInBounds, fun marked => ?_⟩
  rwa [Slots.read, Array.getElem?_setIfInBounds_ne apart]

/-- What an instruction without a choice does to the place and to a slot. -/
theorem effect_of_advance? {limit : Nat} (keeps : instruction.clears slot = false)
    (result : advance? hay limit moment instruction = some next) :
    next.place ∈ instruction.targets ∧ Retains slot moment.slots next.slots ∧
      (instruction.marks slot = true -> slot < moment.slots.size ->
        (next.slots.read slot).isSome = true) := by
  cases instruction with
  | take | takeBack | check | goBack | isSet =>
      simp only [advance?] at result
      split at result
      · rcases Option.some.inj result with rfl
        exact ⟨List.mem_singleton_self _, .refl slot _,
          fun marks => absurd marks Bool.false_ne_true⟩
      · cases result
  | mark other place =>
      rcases Option.some.inj result with rfl
      refine ⟨List.mem_singleton_self _, retains_write slot _ _ _, fun marks inside => ?_⟩
      rcases beq_iff_eq.mp marks with rfl
      exact isSome_write inside _
  | clear other place =>
      rcases Option.some.inj result with rfl
      exact ⟨List.mem_singleton_self _, retains_clear (beq_eq_false_iff_ne.mp keeps) _,
        fun marks => absurd marks Bool.false_ne_true⟩
  | goTo other place =>
      rcases Option.map_eq_some_iff.mp result with ⟨position, _, rfl⟩
      exact ⟨List.mem_singleton_self _, .refl slot _, fun marks => absurd marks Bool.false_ne_true⟩
  | again group anyCase place =>
      rcases Option.bind_eq_some_iff.mp result with ⟨start, _, later⟩
      rcases Option.bind_eq_some_iff.mp later with ⟨stop, _, later⟩
      rcases Option.bind_eq_some_iff.mp later with ⟨position, _, same⟩
      rcases Option.some.inj same with rfl
      exact ⟨List.mem_singleton_self _, .refl slot _, fun marks => absurd marks Bool.false_ne_true⟩
  | reset other place =>
      rcases Option.some.inj result with rfl
      exact ⟨List.mem_singleton_self _, retains_write slot _ _ _,
        fun marks => absurd marks Bool.false_ne_true⟩
  | accept | fork | searchStart | settle | behind | barrier | cut | abandon | round =>
      cases result

/-- Whether a slot has been marked, or need not have been to come where a moment is. -/
structure Tracks (program : Program) (slot : Nat) (moment : Moment) : Prop where
  inside : slot < moment.slots.size
  marked : (moment.slots.read slot).isSome = true ∨ program.Unmarked slot moment.place

theorem Tracks.go (tracks : Tracks program slot moment)
    (here : program.code[moment.place]? = some instruction)
    (passes : instruction.marks slot = false) (leads : next.place ∈ instruction.targets)
    (retains : Retains slot moment.slots next.slots) : Tracks program slot next := by
  refine ⟨retains.size ▸ tracks.inside, ?_⟩
  rcases tracks.marked with marked | reached
  · exact Or.inl (retains.marked marked)
  · exact Or.inr (reached.step here passes leads)

theorem tracks_of_advance? (marks : program.Marks slot) {limit : Nat}
    (tracks : Tracks program slot moment)
    (here : program.code[moment.place]? = some instruction)
    (result : advance? hay limit moment instruction = some next) : Tracks program slot next := by
  rcases effect_of_advance? (marks.keeps _ _ here) result with ⟨leads, retains, marked⟩
  cases passes : instruction.marks slot with
  | true => exact ⟨retains.size ▸ tracks.inside, Or.inl (marked passes tracks.inside)⟩
  | false => exact tracks.go here passes leads retains

/-- A settled part leaves what has been marked. -/
theorem retains_of_settle? (marks : program.Marks slot) {limit entry : Nat} {found : Moment}
    (ends : settle? program.code hay limit entry moment = some found) :
    Retains slot moment.slots found.slots := by
  have start : Retains slot moment.slots ({ moment with place := entry } : Moment).slots :=
    .refl slot _
  refine (@follow_keeps program.code hay limit _ _ _ _ _
    (fun other => Retains slot moment.slots other.slots) ?_ ?_ start
    (fun _ member => absurd member List.not_mem_nil) ends).1
  · exact fun other first second retains _ => ⟨retains, retains⟩
  · intro other next instruction retains here advanced
    exact retains.trans (effect_of_advance? (marks.keeps _ _ here) advanced).2.1

theorem tracks_of_beginRound {loop : Loop} {entry leave : Nat}
    (tracks : Tracks program slot moment)
    (here : program.code[moment.place]? = some (.round loop entry leave)) :
    (beginRound moment loop entry leave).All (Tracks program slot) := by
  have enters : ∀ slots, Retains slot moment.slots slots ->
      Tracks program slot { moment with place := entry, slots } :=
    fun slots retains => tracks.go here rfl List.mem_cons_self retains
  have leaves : ∀ slots, Retains slot moment.slots slots ->
      Tracks program slot { moment with place := leave, slots } :=
    fun slots retains =>
      tracks.go here rfl (List.mem_cons_of_mem _ List.mem_cons_self) retains
  have round : ∀ slots, Retains slot moment.slots slots ->
      (if loop.greedy then
        Move.fork { moment with place := entry, slots } { moment with place := leave, slots }
      else
        Move.fork { moment with place := leave, slots }
          { moment with place := entry, slots }).All (Tracks program slot) := by
    intro slots retains
    split
    · exact ⟨enters slots retains, leaves slots retains⟩
    · exact ⟨leaves slots retains, enters slots retains⟩
  have counted := retains_write slot moment.slots loop.counter
    ((moment.slots.read loop.counter).getD 0 + 1)
  simp only [beginRound]
  split
  · exact leaves _ (.refl slot _)
  · split
    · exact enters _ counted
    · cases loop.guard with
      | none => exact round _ counted
      | some guard => exact round _ (counted.trans (retains_write slot _ guard _))

/-- A run keeps track of a slot. -/
theorem tracks_of_move (marks : program.Marks slot) (kept : Nat)
    (tracks : Tracks program slot moment) :
    (move program.code hay kept moment).All (Tracks program slot) := by
  unfold move
  cases here : program.code[moment.place]? with
  | none => trivial
  | some instruction =>
      have goes : ∀ {next : Moment}, instruction.marks slot = false ->
          next.place ∈ instruction.targets -> Retains slot moment.slots next.slots ->
          Tracks program slot next :=
        fun passes leads retains => tracks.go here passes leads retains
      cases instruction with
      | accept | abandon => trivial
      | fork first second =>
          exact ⟨goes rfl List.mem_cons_self (.refl slot _),
            goes rfl (List.mem_cons_of_mem _ List.mem_cons_self) (.refl slot _)⟩
      | searchStart decisive next =>
          simp only
          split
          · exact goes rfl List.mem_cons_self (.refl slot _)
          · split <;> trivial
      | settle entry next =>
          simp only
          cases ends : settle? program.code hay hay.chars.size entry moment with
          | none => trivial
          | some found =>
              have retains := retains_of_settle? marks ends
              exact goes rfl List.mem_cons_self retains
      | behind entry forward next =>
          simp only
          split
          · rename_i found ends
            rcases Option.bind_eq_some_iff.mp ends with ⟨first, backwards, later⟩
            have retains := retains_of_settle? marks backwards
            cases forward with
            | none =>
                rcases Option.some.inj later with rfl
                exact goes rfl List.mem_cons_self retains
            | some place =>
                have onwards : settle? program.code hay moment.position place first = some found :=
                  later
                have whole := retains.trans (retains_of_settle? marks onwards)
                exact goes rfl List.mem_cons_self whole
          · trivial
      | barrier next => exact goes rfl List.mem_cons_self (.refl slot _)
      | cut next =>
          simp only
          split <;> exact goes rfl List.mem_cons_self (.refl slot _)
      | round loop entry next => exact tracks_of_beginRound tracks here
      | take | takeBack | check | mark | clear | goTo | goBack | again | isSet | reset =>
          simp only
          split
          · rename_i next advanced
            exact tracks_of_advance? marks tracks here advanced
          · trivial

/-- Where a program ends, the slot has been marked. -/
theorem Tracks.isSome (tracks : Tracks program slot moment) (marks : program.Marks slot)
    (accepted : program.code[moment.place]? = some .accept) :
    (moment.slots.read slot).isSome = true := by
  rcases tracks.marked with marked | reached
  · exact marked
  · exact absurd accepted (marks.ends moment.place reached)

/-- The slots of groups are left when a search is over. -/
theorem isSome_closeMatch {groups : Nat} {slots : Slots} (group : slot < 2 * groups + 2)
    (other : slot ≠ 0) (marked : (slots.read slot).isSome = true) :
    ((closeMatch groups slots).read slot).isSome = true := by
  rcases Option.isSome_iff_exists.mp marked with ⟨value, holds⟩
  have inside := Slots.lt_size_of_read holds
  have kept : (Slots.read (slots.take (2 * groups + 2)) slot).isSome = true := by
    rw [Slots.read] at holds
    rw [Slots.read, Array.take_eq_extract, Array.getElem?_extract, if_pos (by omega),
      Nat.zero_add, holds]
    rfl
  unfold closeMatch
  simp only
  split
  · split
    · rwa [Slots.read_write_of_ne (Ne.symm other)]
    · exact kept
  · exact kept

/-- A search that finds something has marked all slots of groups that the program does not
come to its end without. -/
theorem isSome_of_search? (marks : program.Marks slot) (group : slot < 2 * program.groups + 2)
    (other : slot ≠ 0) {chars : Array Char} {start : Nat} {slots : Slots}
    (ran : search? program chars start = some slots) : (slots.read slot).isSome = true := by
  rcases Option.map_eq_some_iff.mp ran with ⟨raw, ends, rfl⟩
  refine isSome_closeMatch group other ?_
  have begins : Tracks program slot
      { place := program.entry, position := start, slots := .blank program.slots } :=
    ⟨by rw [Slots.blank, Array.size_replicate]; exact marks.inside, Or.inr .entry⟩
  split at ends
  · rcases Option.map_eq_some_iff.mp ends with ⟨last, settles, rfl⟩
    have kept := @follow_keeps program.code _ _ _ _ _ _ _ (Tracks program slot)
      (fun moment first second tracks here =>
        ⟨tracks.go here rfl List.mem_cons_self (.refl slot _),
          tracks.go here rfl (List.mem_cons_of_mem _ List.mem_cons_self) (.refl slot _)⟩)
      (fun moment next instruction tracks here advanced =>
        tracks_of_advance? marks tracks here advanced)
      begins (fun _ member => absurd member List.not_mem_nil) settles
    exact kept.1.isSome marks kept.2
  · rcases run_keeps (fun kept moment => tracks_of_move marks kept) begins
      (fun _ member => absurd member List.not_mem_nil) ends with ⟨last, tracks, accepted, rfl⟩
    exact tracks.isSome marks accepted

end Machine

/-- Whether the first group of a program is seen to take part in every match. -/
def Program.alwaysGroups (program : Program) : Bool :=
  0 < program.groups && program.alwaysMarks 2 && program.alwaysMarks 3

/-- Whether the first group of a pattern is seen to take part in every match. -/
def alwaysGroups : Pattern -> Bool
  | literal _ => false
  | compiled _ program => program.alwaysGroups

theorem exists_firstGroup {pattern : Pattern} (always : pattern.alwaysGroups = true) {text : Text}
    {offset : Nat} {found : Found} (result : pattern.search? text offset = some found) :
    ∃ group, found.firstGroup = some group := by
  cases pattern with
  | literal => cases always
  | compiled source program =>
      simp only [alwaysGroups, Program.alwaysGroups, Bool.and_eq_true, decide_eq_true_eq] at always
      rcases always with ⟨⟨grouped, opens⟩, closes⟩
      rcases span_of_compiled result with ⟨slots, _, _, ran, _, _, _, groups⟩
      have opened := Machine.isSome_of_search? (Program.marks_of_alwaysMarks opens) (by omega)
        (by decide) ran
      have closed := Machine.isSome_of_search? (Program.marks_of_alwaysMarks closes) (by omega)
        (by decide) ran
      rcases Option.isSome_iff_exists.mp opened with ⟨first, opening⟩
      rcases Option.isSome_iff_exists.mp closed with ⟨last, closing⟩
      exact ⟨_, (groups _).mpr ⟨first, last, opening, closing, rfl⟩⟩

end Pattern
end FencedHighlight
