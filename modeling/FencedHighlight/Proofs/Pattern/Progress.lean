import FencedHighlight.Proofs.Pattern.Layout

namespace FencedHighlight
namespace Pattern
namespace Machine

/-!
A layout describes every moment of a run.

No single instruction leads to a moment that the layout excludes, if all of them
fit it.  Choices are moments that have been reached before, so this holds for a
settled part and for a whole run, however they retreat.
-/

variable {layout : Layout} {code : Array Instruction} {hay : Hay} {settled : Bool}
  {stage : Stage}

/-- What a layout says of a position at a place. -/
def Placed (layout : Layout) (settled : Bool) (stage : Stage) (place position : Nat) : Prop :=
  ∃ spot, layout.spots[place]? = some spot ∧ (settled = true -> spot.settled = true) ∧
    spot.zone.Holds stage position

/-- What a layout says of slots. -/
def Noted (layout : Layout) (stage : Stage) (slots : Slots) : Prop :=
  ∀ slot value note, slots.read slot = some value -> layout.notes[slot]? = some note ->
    note.Holds stage value

/-- What a layout says of a moment, which may have to belong to a settled part. -/
structure Sound (layout : Layout) (settled : Bool) (stage : Stage) (moment : Moment) : Prop where
  placed : Placed layout settled stage moment.place moment.position
  noted : Noted layout stage moment.slots

/-- Whether a search may come from a stage to a moment. -/
def Arrives (layout : Layout) (settled : Bool) (stage : Stage) (moment : Moment) : Prop :=
  ∃ later, stage.Passes later ∧ Sound layout settled later moment

theorem Sound.arrives {moment : Moment} (sound : Sound layout settled stage moment) :
    Arrives layout settled stage moment :=
  ⟨stage, .same stage, sound⟩

theorem Arrives.of_passes {earlier : Stage} {moment : Moment}
    (arrives : Arrives layout settled stage moment) (passes : earlier.Passes stage) :
    Arrives layout settled earlier moment := by
  rcases arrives with ⟨later, onwards, sound⟩
  exact ⟨later, passes.trans onwards, sound⟩

/-! ## Slots -/

theorem Noted.blank (layout : Layout) (stage : Stage) (count : Nat) :
    Noted layout stage (.blank count) := by
  intro slot value note holds _
  have inside := Slots.lt_size_of_read holds
  simp only [Slots.read, Slots.blank, Array.size_replicate] at holds inside
  rw [Array.getElem?_replicate, if_pos inside] at holds
  cases holds

theorem Noted.write {slots : Slots} (noted : Noted layout stage slots) {slot value : Nat}
    (fits : ∀ note, layout.notes[slot]? = some note -> note.Holds stage value) :
    Noted layout stage (slots.write slot value) := by
  intro other found note holds known
  by_cases same : slot = other
  · subst same
    have inside : slot < slots.size := by
      have within := Slots.lt_size_of_read holds
      rwa [Slots.write, Array.size_setIfInBounds] at within
    rw [Slots.read_write_self inside] at holds
    rw [← Option.some.inj holds]
    exact fits note known
  · rw [Slots.read_write_of_ne same] at holds
    exact noted other found note holds known

theorem Noted.clear {slots : Slots} (noted : Noted layout stage slots) (slot : Nat) :
    Noted layout stage (slots.setIfInBounds slot none) := by
  intro other found note holds known
  by_cases same : slot = other
  · subst same
    have inside := Slots.lt_size_of_read holds
    rw [Array.size_setIfInBounds] at inside
    simp [Slots.read, inside] at holds
  · rw [Slots.read, Array.getElem?_setIfInBounds_ne same] at holds
    exact noted other found note holds known

/-- Before the match begins nothing is noted that could be outdated by its
beginning. -/
theorem Noted.begin {slots : Slots} {start : Nat} (noted : Noted layout (.before start) slots)
    (position : Nat) : Noted layout (.since position) slots := by
  intro slot value note holds known
  have before := noted slot value note holds known
  cases note with
  | free => trivial
  | later => exact before.elim
  | exact => exact before.elim

/-! ## Single instructions -/

theorem placed_of_leads {spot : Spot} {moves : Stage -> (first second : Nat) -> Prop}
    {next first second : Nat} (leads : layout.Leads spot moves next)
    (part : settled = true -> spot.settled = true) (holds : spot.zone.Holds stage first)
    (moved : moves stage first second) : Placed layout settled stage next second := by
  rcases leads with ⟨target, known, within, kept⟩
  exact ⟨target, known, fun closed => within (part closed), kept stage first second holds moved⟩

theorem placed_of_stays {spot : Spot} {next position : Nat} (stays : layout.Stays spot next)
    (part : settled = true -> spot.settled = true) (holds : spot.zone.Holds stage position) :
    Placed layout settled stage next position :=
  placed_of_leads stays part holds rfl

/-- A second occurrence of a text lies after the position. -/
theorem Hay.le_of_repeat? {start stop position found : Nat} {anyCase : Bool}
    (result : hay.repeat? start stop position anyCase = some found) : position ≤ found := by
  rcases Option.bind_eq_some_iff.mp result with ⟨⟨second, rest⟩, _, later⟩
  rcases Option.ite_none_right_eq_some.mp later with ⟨_, same⟩
  rw [← Option.some.inj same]
  exact Nat.le_add_right _ _

theorem arrives_of_mark {spot : Spot} {moment : Moment} {slot next : Nat}
    (part : settled = true -> spot.settled = true)
    (holds : spot.zone.Holds stage moment.position) (noted : Noted layout stage moment.slots)
    (fits : layout.Fits spot (.mark slot next)) :
    Arrives layout settled stage
      { moment with place := next, slots := moment.slots.write slot moment.position } := by
  rcases fits with ⟨note, known, ⟨notes, stays⟩ | ⟨outside, exact, target, there, within, kept⟩⟩
  · refine Sound.arrives ⟨placed_of_stays stays part holds, noted.write ?_⟩
    intro other same
    rw [← Option.some.inj (known.symm.trans same)]
    exact notes stage moment.position holds
  · rw [outside] at holds
    cases stage with
    | since start => exact holds.elim
    | before start =>
        refine ⟨.since moment.position, .begins holds,
          ⟨target, there, fun closed => within (part closed), kept moment.position⟩, ?_⟩
        refine (noted.begin moment.position).write ?_
        intro other same
        rw [← Option.some.inj (known.symm.trans same)]
        exact exact moment.position

/-- No instruction without a choice leads to a moment that the layout excludes. -/
theorem arrives_of_advance? (describes : layout.Describes code) {limit : Nat}
    {moment next : Moment} {instruction : Instruction}
    (sound : Sound layout settled stage moment)
    (here : code[moment.place]? = some instruction)
    (result : advance? hay limit moment instruction = some next) :
    Arrives layout settled stage next := by
  rcases sound.placed with ⟨spot, known, part, holds⟩
  have fits := describes _ _ _ here known
  have noted := sound.noted
  cases instruction with
  | take member place =>
      simp only [advance?] at result
      split at result
      · rcases Option.some.inj result with rfl
        exact Sound.arrives ⟨placed_of_leads fits part holds rfl, noted⟩
      · cases result
  | takeBack _ place | goBack _ place =>
      simp only [advance?] at result
      split at result
      · rcases Option.some.inj result with rfl
        exact Sound.arrives ⟨placed_of_leads fits part holds (Nat.sub_le _ _), noted⟩
      · cases result
  | check _ place | isSet _ place =>
      simp only [advance?] at result
      split at result
      · rcases Option.some.inj result with rfl
        exact Sound.arrives ⟨placed_of_stays fits part holds, noted⟩
      · cases result
  | mark slot place =>
      rcases Option.some.inj result with rfl
      exact arrives_of_mark part holds noted fits
  | clear slot place =>
      rcases Option.some.inj result with rfl
      exact Sound.arrives ⟨placed_of_stays fits part holds, noted.clear slot⟩
  | goTo slot place =>
      rcases Option.map_eq_some_iff.mp result with ⟨position, found, rfl⟩
      rcases fits with ⟨note, kept, leads⟩
      exact Sound.arrives ⟨placed_of_leads leads part holds (noted slot position note found kept),
        noted⟩
  | again group anyCase place =>
      rcases Option.bind_eq_some_iff.mp result with ⟨start, _, later⟩
      rcases Option.bind_eq_some_iff.mp later with ⟨stop, _, later⟩
      rcases Option.bind_eq_some_iff.mp later with ⟨position, repeated, same⟩
      rcases Option.some.inj same with rfl
      exact Sound.arrives ⟨placed_of_leads fits part holds (Hay.le_of_repeat? repeated), noted⟩
  | reset slot place =>
      rcases Option.some.inj result with rfl
      refine Sound.arrives ⟨placed_of_stays fits.2 part holds, noted.write ?_⟩
      intro note same
      rw [← Option.some.inj (fits.1.symm.trans same)]
      trivial
  | accept | fork | searchStart | settle | behind | barrier | cut | abandon | round =>
      cases result

/-! ## Settled parts -/

/-- What all instructions of a settled part keep holds where the part ends. -/
theorem follow_keeps {limit steps : Nat} {seen : Std.HashSet Nat} {moment found : Moment}
    {choices : List Moment} {Keeps : Moment -> Prop}
    (forks : ∀ moment first second, Keeps moment ->
      code[moment.place]? = some (.fork first second) ->
      Keeps { moment with place := first } ∧ Keeps { moment with place := second })
    (advances : ∀ moment next instruction, Keeps moment ->
      code[moment.place]? = some instruction ->
      advance? hay limit moment instruction = some next -> Keeps next)
    (here : Keeps moment) (kept : ∀ choice ∈ choices, Keeps choice)
    (ends : follow code hay limit steps seen moment choices = some found) :
    Keeps found ∧ code[found.place]? = some .accept := by
  induction steps generalizing seen moment choices with
  | zero => cases ends
  | succ steps ih =>
      have retreat : ∀ {choice : Moment} {rest : List Moment},
          (∀ other ∈ choice :: rest, Keeps other) ->
          follow code hay limit steps seen choice rest = some found ->
          Keeps found ∧ code[found.place]? = some .accept :=
        fun kept back => ih (kept _ List.mem_cons_self)
          (fun other member => kept other (List.mem_cons_of_mem _ member)) back
      simp only [follow] at ends
      split at ends
      · cases ends
      · rename_i accepted
        rcases Option.some.inj ends with rfl
        exact ⟨here, accepted⟩
      · rename_i first second forked
        have both := forks moment first second here forked
        split at ends
        · cases choices with
          | nil => cases ends
          | cons choice rest => exact retreat kept ends
        · refine ih both.1 ?_ ends
          intro choice member
          rcases List.mem_cons.mp member with rfl | older
          · exact both.2
          · exact kept choice older
      · rename_i instruction _ _ present
        split at ends
        · rename_i next advanced
          exact ih (advances moment next instruction here present advanced) kept ends
        · cases choices with
          | nil => cases ends
          | cons choice rest => exact retreat kept ends

/-- A settled part ends in a moment that the layout allows. -/
theorem arrives_of_settle? (describes : layout.Describes code) {limit entry : Nat}
    {moment found : Moment} (start : Placed layout settled stage entry moment.position)
    (noted : Noted layout stage moment.slots)
    (ends : settle? code hay limit entry moment = some found) :
    Arrives layout settled stage found ∧ code[found.place]? = some .accept := by
  have first : Arrives layout settled stage { moment with place := entry } :=
    Sound.arrives ⟨start, noted⟩
  refine follow_keeps ?_ ?_ first (fun _ member => absurd member List.not_mem_nil) ends
  · rintro moment first second ⟨later, passes, sound⟩ forked
    rcases sound.placed with ⟨spot, known, part, holds⟩
    have fits := describes _ _ _ forked known
    exact ⟨⟨later, passes, placed_of_stays fits.1 part holds, sound.noted⟩,
      ⟨later, passes, placed_of_stays fits.2 part holds, sound.noted⟩⟩
  · rintro moment next instruction ⟨later, passes, sound⟩ present advanced
    exact (arrives_of_advance? describes sound present advanced).of_passes passes

/-- Where a part that is settled ahead of the beginning of the match ends, the match
has begun. -/
theorem since_of_accept (describes : layout.Describes code) {moment : Moment}
    (sound : Sound layout true stage moment) (accepted : code[moment.place]? = some .accept) :
    ∃ start, stage = .since start ∧ start ≤ moment.position := by
  rcases sound.placed with ⟨spot, known, part, holds⟩
  have ahead := describes _ _ _ accepted known (part rfl)
  rw [ahead] at holds
  cases stage with
  | before start => exact holds.elim
  | since start => exact ⟨start, rfl, holds⟩

/-! ## Runs -/

/-- Whether a search may come from a stage to all moments that a move names. -/
def Move.Arrives (layout : Layout) (stage : Stage) : Move -> Prop
  | go moment | cut _ moment => Machine.Arrives layout false stage moment
  | fork first second =>
      Machine.Arrives layout false stage first ∧ Machine.Arrives layout false stage second
  | abandon _ | retreat | finish | giveUp => True

/-- Where nothing but that the match has begun is known, it has. -/
theorem since_of_anywhere {position : Nat} (holds : Zone.anywhere.Holds stage position) :
    ∃ start, stage = .since start := by
  cases stage with
  | before start => exact holds.elim
  | since start => exact ⟨start, rfl⟩

/-- While a match is under way, it does not begin anew. -/
theorem Arrives.noted_since {start : Nat} {moment : Moment}
    (arrives : Arrives layout settled (.since start) moment) :
    Noted layout (.since start) moment.slots := by
  rcases arrives with ⟨later, passes, sound⟩
  rw [← passes.eq_of_since]
  exact sound.noted

/-- A part that is settled from a place where nothing is known ends in such a place
again. -/
theorem noted_of_settle? (describes : layout.Describes code) {limit entry start : Nat}
    {moment found : Moment} (anywhere : layout.IsAnywhere entry)
    (noted : Noted layout (.since start) moment.slots)
    (ends : settle? code hay limit entry moment = some found) :
    Noted layout (.since start) found.slots := by
  rcases anywhere with ⟨spot, known, zone⟩
  have placed : Placed layout false (.since start) entry moment.position :=
    ⟨spot, known, fun impossible => (nomatch impossible), by rw [zone]; trivial⟩
  exact (arrives_of_settle? describes placed noted ends).1.noted_since

theorem arrives_of_anywhere {start next : Nat} {moment : Moment} (anywhere : layout.IsAnywhere next)
    (noted : Noted layout (.since start) moment.slots) :
    Arrives layout false (.since start) { moment with place := next } := by
  rcases anywhere with ⟨spot, known, zone⟩
  refine Sound.arrives ⟨⟨spot, known, fun impossible => (nomatch impossible), ?_⟩, noted⟩
  rw [zone]
  trivial

theorem arrives_of_settles (describes : layout.Describes code) {spot : Spot}
    {limit entry next : Nat}
    {moment found : Moment} (settles : layout.Settles spot entry next)
    (holds : spot.zone.Holds stage moment.position) (noted : Noted layout stage moment.slots)
    (ends : settle? code hay limit entry moment = some found) :
    Arrives layout false stage { found with place := next } := by
  rcases settles with ⟨part, target, first, second, enters, ⟨closed, ahead⟩ | ⟨outer, anywhere⟩⟩
  · rcases arrives_of_settle? describes ⟨part, first, fun _ => closed, enters _ _ holds⟩ noted ends
      with ⟨⟨later, passes, sound⟩, accepted⟩
    rcases since_of_accept describes sound accepted with ⟨start, rfl, ordered⟩
    refine ⟨_, passes, ⟨target, second, fun impossible => (nomatch impossible), ?_⟩, sound.noted⟩
    rw [ahead]
    exact ordered
  · have entered := enters _ _ holds
    rw [outer] at holds
    rcases since_of_anywhere holds with ⟨start, rfl⟩
    have placed : Placed layout false (.since start) entry moment.position :=
      ⟨part, first, fun impossible => (nomatch impossible), entered⟩
    have kept := (arrives_of_settle? describes placed noted ends).1.noted_since
    exact arrives_of_anywhere ⟨target, second, anywhere⟩ kept

/-- Nothing is known of a free slot, so anything may be noted in it. -/
theorem Noted.write_free {slots : Slots} {slot : Nat} (noted : Noted layout stage slots)
    (free : layout.notes[slot]? = some .free) (value : Nat) :
    Noted layout stage (slots.write slot value) := by
  refine noted.write ?_
  intro note same
  rw [← Option.some.inj (free.symm.trans same)]
  trivial

theorem arrives_of_beginRound {spot : Spot} {moment : Moment} {loop : Loop} {entry next : Nat}
    (holds : spot.zone.Holds stage moment.position) (noted : Noted layout stage moment.slots)
    (fits : layout.Fits spot (.round loop entry next)) :
    (beginRound moment loop entry next).Arrives layout stage := by
  rcases fits with ⟨counter, guard, enters, leaves⟩
  have enter : ∀ slots, Noted layout stage slots ->
      Arrives layout false stage { moment with place := entry, slots } :=
    fun slots kept => Sound.arrives ⟨placed_of_stays enters (fun none => nomatch none) holds, kept⟩
  have leave : ∀ slots, Noted layout stage slots ->
      Arrives layout false stage { moment with place := next, slots } :=
    fun slots kept => Sound.arrives ⟨placed_of_stays leaves (fun none => nomatch none) holds, kept⟩
  have round : ∀ slots, Noted layout stage slots ->
      (if loop.greedy then
        Move.fork { moment with place := entry, slots } { moment with place := next, slots }
      else
        Move.fork { moment with place := next, slots }
          { moment with place := entry, slots }).Arrives layout stage := by
    intro slots kept
    split
    · exact ⟨enter slots kept, leave slots kept⟩
    · exact ⟨leave slots kept, enter slots kept⟩
  have counted := noted.write_free counter ((moment.slots.read loop.counter).getD 0 + 1)
  simp only [beginRound]
  split
  · exact leave _ noted
  · split
    · exact enter _ counted
    · cases guarded : loop.guard with
      | none => exact round _ counted
      | some slot => exact round _ (counted.write_free (guard slot guarded) _)

/-- No move leads to a moment that the layout excludes. -/
theorem arrives_of_move (describes : layout.Describes code) {moment : Moment}
    (sound : Sound layout false stage moment) (kept : Nat) :
    (move code hay kept moment).Arrives layout stage := by
  rcases sound.placed with ⟨spot, known, part, holds⟩
  have noted := sound.noted
  have stay : ∀ {next}, layout.Stays spot next -> ∀ barriers,
      Arrives layout false stage { moment with place := next, barriers } :=
    fun stays barriers => Sound.arrives ⟨placed_of_stays stays part holds, noted⟩
  unfold move
  cases present : code[moment.place]? with
  | none => trivial
  | some instruction =>
      have fits := describes _ _ _ present known
      cases instruction with
      | accept | abandon => trivial
      | fork first second => exact ⟨stay fits.1 _, stay fits.2 _⟩
      | searchStart decisive next =>
          simp only
          split
          · exact stay fits _
          · split <;> trivial
      | settle entry next =>
          simp only
          cases ends : settle? code hay hay.chars.size entry moment with
          | none => trivial
          | some found => exact arrives_of_settles describes fits holds noted ends
      | behind entry forward next =>
          rcases fits with ⟨zone, enters, backwards, leaves⟩
          rw [zone] at holds
          rcases since_of_anywhere holds with ⟨start, rfl⟩
          simp only
          split
          · rename_i found ends
            rcases Option.bind_eq_some_iff.mp ends with ⟨first, behind, later⟩
            have kept := noted_of_settle? describes enters noted behind
            cases there : forward with
            | none =>
                rw [there] at later
                rcases Option.some.inj later with rfl
                exact arrives_of_anywhere leaves kept
            | some place =>
                rw [there] at later
                exact arrives_of_anywhere leaves
                  (noted_of_settle? describes (backwards place there) kept later)
          · trivial
      | barrier next => exact stay fits _
      | cut next =>
          simp only
          split <;> exact stay fits _
      | round loop entry next => exact arrives_of_beginRound holds noted fits
      | take | takeBack | check | mark | clear | goTo | goBack | again | isSet | reset =>
          simp only
          split
          · rename_i next advanced
            exact arrives_of_advance? describes sound present advanced
          · trivial

theorem mem_of_choicesAfter {place kept : Nat} {choices : List Moment} {choice : Moment}
    (member : choice ∈ (choicesAfter place kept choices).2) : choice ∈ choices := by
  induction choices generalizing kept with
  | nil => exact member
  | cons first choices ih =>
      simp only [choicesAfter] at member
      split at member
      · exact List.mem_cons_of_mem _ member
      · exact List.mem_cons_of_mem _ (ih member)

/-- Whether all moments that a move names have a property. -/
def Move.All (Keeps : Moment -> Prop) : Move -> Prop
  | go moment | cut _ moment => Keeps moment
  | fork first second => Keeps first ∧ Keeps second
  | abandon _ | retreat | finish | giveUp => True

/-- A run ends only where the program does. -/
theorem accept_of_finish {kept : Nat} {moment : Moment}
    (finishes : move code hay kept moment = .finish) : code[moment.place]? = some .accept := by
  unfold move at finishes
  cases present : code[moment.place]? with
  | none =>
      rw [present] at finishes
      cases finishes
  | some instruction =>
      rw [present] at finishes
      cases instruction with
      | accept => rfl
      | round loop entry next =>
          simp only [beginRound] at finishes
          split at finishes
          · cases finishes
          · split at finishes
            · cases finishes
            · split at finishes <;> cases finishes
      | fork | abandon | barrier => cases finishes
      | searchStart =>
          simp only at finishes
          split at finishes
          · cases finishes
          · split at finishes <;> cases finishes
      | settle | behind | cut | take | takeBack | check | mark | clear | goTo | goBack | again
      | isSet | reset =>
          simp only at finishes
          split at finishes <;> cases finishes

/-- What all moves of a run keep holds where the run ends. -/
theorem run_keeps {Keeps : Moment -> Prop}
    (moves : ∀ kept moment, Keeps moment -> (move code hay kept moment).All Keeps)
    {steps left kept : Nat} {moment : Moment} {choices : List Moment} {slots : Slots}
    (here : Keeps moment) (known : ∀ choice ∈ choices, Keeps choice)
    (ends : run code hay steps left moment kept choices = some slots) :
    ∃ last, Keeps last ∧ code[last.place]? = some .accept ∧ last.slots = slots := by
  induction steps generalizing left moment kept choices with
  | zero => cases ends
  | succ steps ih =>
      have retreat : ∀ {left kept : Nat} {choice : Moment} {rest : List Moment},
          (∀ other ∈ choice :: rest, Keeps other) ->
          run code hay steps left choice kept rest = some slots ->
          ∃ last, Keeps last ∧ code[last.place]? = some .accept ∧ last.slots = slots :=
        fun known back => ih (known _ List.mem_cons_self)
          (fun other member => known other (List.mem_cons_of_mem _ member)) back
      have moved := moves kept moment here
      simp only [run] at ends
      split at ends
      · rename_i next went
        rw [went] at moved
        exact ih moved known ends
      · rename_i first second went
        rw [went] at moved
        split at ends
        · refine ih moved.1 ?_ ends
          intro choice member
          rcases List.mem_cons.mp member with rfl | older
          · exact moved.2
          · exact known choice older
        · cases ends
      · rename_i fewer next went
        rw [went] at moved
        exact ih moved (fun choice member => known choice (List.mem_of_mem_drop member)) ends
      · split at ends
        · rename_i later
          exact retreat (fun other member => known other
            (mem_of_choicesAfter (later.symm ▸ member))) ends
        · cases ends
      · split at ends
        · exact retreat known ends
        · cases ends
      · rename_i finished
        exact ⟨moment, here, accept_of_finish finished, Option.some.inj ends⟩
      · cases ends

/-- What a run has noted at its end is what the layout says. -/
theorem noted_of_run (describes : layout.Describes code) {steps left kept : Nat}
    {moment : Moment} {choices : List Moment} {slots : Slots}
    (here : Arrives layout false stage moment)
    (known : ∀ choice ∈ choices, Arrives layout false stage choice)
    (ends : run code hay steps left moment kept choices = some slots) :
    ∃ later, stage.Passes later ∧ Noted layout later slots := by
  have moves : ∀ kept moment, Arrives layout false stage moment ->
      (move code hay kept moment).All (Arrives layout false stage) := by
    rintro kept moment ⟨reached, passes, sound⟩
    have arrives := @arrives_of_move _ _ hay _ describes _ sound kept
    cases went : move code hay kept moment with
    | go | cut =>
        rw [went] at arrives
        exact Arrives.of_passes arrives passes
    | fork =>
        rw [went] at arrives
        exact ⟨arrives.1.of_passes passes, arrives.2.of_passes passes⟩
    | abandon | retreat | finish | giveUp => trivial
  rcases run_keeps moves here known ends with ⟨last, ⟨later, passes, sound⟩, _, rfl⟩
  exact ⟨later, passes, sound.noted⟩

/-- What a search has noted is what the layout says, if the match has not begun where
the program begins. -/
theorem noted_of_search? {program : Program} {chars : Array Char} {start : Nat} {slots : Slots}
    (describes : layout.Describes program.code)
    (entry : layout.spots[program.entry]? = some { zone := .outside })
    (ran : search? program chars start = some slots) :
    ∃ raw later, (Stage.before start).Passes later ∧ Noted layout later raw ∧
      slots = closeMatch program.groups raw := by
  rcases Option.map_eq_some_iff.mp ran with ⟨raw, ends, rfl⟩
  have placed : Placed layout false (.before start) program.entry start :=
    ⟨_, entry, fun none => (nomatch none), Nat.le_refl start⟩
  have noted := Noted.blank layout (.before start) program.slots
  split at ends
  · rcases Option.map_eq_some_iff.mp ends with ⟨found, settles, rfl⟩
    rcases (arrives_of_settle? describes placed noted settles).1 with ⟨later, passes, sound⟩
    exact ⟨found.slots, later, passes, sound.noted, rfl⟩
  · rcases noted_of_run describes (Sound.arrives ⟨placed, noted⟩)
      (fun _ member => absurd member List.not_mem_nil) ends with ⟨later, passes, kept⟩
    exact ⟨raw, later, passes, kept, rfl⟩

end Machine
end Pattern
end FencedHighlight
