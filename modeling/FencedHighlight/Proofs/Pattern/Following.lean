import FencedHighlight.Proofs.Pattern.Evaluation
import Mathlib.Data.List.Perm.Subperm

namespace FencedHighlight
namespace Pattern

/-!
What a settled part comes to.

Inside a settled part a run tries the choices of a fork in their order.  A fork that has been
taken at a position is not taken there again: it has failed before, so it would fail again.  If
all instructions but the forks lead to earlier places, what such a part comes to can be told as
if every fork were tried again wherever it is met, and there are steps enough for all of it.
-/

/-- Whether an instruction only takes, checks or marks, and leads to an earlier place, unless it
is a fork. -/
def Instruction.Descends (size place : Nat) : Instruction -> Prop
  | .accept => True
  | .fork first second => first < size ∧ second < size
  | .take _ next | .check _ next | .mark _ next => next < place
  | _ => False

namespace Machine

/-- Whether all instructions of a code descend. -/
def Descends (code : Array Instruction) : Prop :=
  ∀ place instruction, code[place]? = some instruction ->
    Instruction.Descends code.size place instruction

/-- What a settled part comes to if every fork is tried again wherever it is met.  `length` counts
the instructions on the way to the end. -/
inductive Settles (code : Array Instruction) (hay : Hay) :
    (length : Nat) -> Moment -> Option Moment -> Prop where
  | accept {moment : Moment} (here : code[moment.place]? = some .accept) :
      Settles code hay 0 moment (some moment)
  | blocked {moment : Moment} {instruction : Instruction}
      (here : code[moment.place]? = some instruction) (inside : instruction ≠ .accept)
      (unforked : ∀ first second, instruction ≠ .fork first second)
      (stuck : advance? hay hay.chars.size moment instruction = none) :
      Settles code hay 0 moment none
  | goes {moment next : Moment} {instruction : Instruction} {length : Nat} {result : Option Moment}
      (here : code[moment.place]? = some instruction)
      (advances : advance? hay hay.chars.size moment instruction = some next)
      (onwards : Settles code hay length next result) :
      Settles code hay (length + 1) moment result
  | first {moment found : Moment} {first second length : Nat}
      (here : code[moment.place]? = some (.fork first second))
      (onwards : Settles code hay length { moment with place := first } (some found)) :
      Settles code hay (length + 1) moment (some found)
  | second {moment : Moment} {first second length other : Nat} {result : Option Moment}
      (here : code[moment.place]? = some (.fork first second))
      (fails : Settles code hay other { moment with place := first } none)
      (onwards : Settles code hay length { moment with place := second } result) :
      Settles code hay (length + 1) moment result

variable {code : Array Instruction} {hay : Hay} {moment next : Moment}
  {instruction : Instruction} {length : Nat} {result : Option Moment}

/-! ## Fuel -/

/-- The number by which a fork that has been taken at a position is known. -/
def Moment.key (hay : Hay) (moment : Moment) : Nat :=
  moment.place * (hay.chars.size + 1) + moment.position

theorem place_of_advance? (descends : Instruction.Descends code.size moment.place instruction)
    (within : moment.position ≤ hay.chars.size)
    (advances : advance? hay hay.chars.size moment instruction = some next) :
    next.place < moment.place ∧ next.position ≤ hay.chars.size := by
  cases instruction with
  | take member target =>
      simp only [advance?] at advances
      split at advances
      · rename_i taken
        rcases Option.some.inj advances with rfl
        rw [Bool.and_eq_true, decide_eq_true_eq] at taken
        exact ⟨descends, taken.1⟩
      · cases advances
  | check kind target =>
      simp only [advance?] at advances
      split at advances
      · rcases Option.some.inj advances with rfl
        exact ⟨descends, within⟩
      · cases advances
  | mark slot target =>
      rcases Option.some.inj advances with rfl
      exact ⟨descends, within⟩
  | accept | fork => cases advances
  | _ => exact descends.elim

/-- Forks that have been taken, each once. -/
structure Listed (code : Array Instruction) (hay : Hay) (seen : List Nat) : Prop where
  once : seen.Nodup
  bounded : ∀ key ∈ seen, key < code.size * (hay.chars.size + 1)

theorem Listed.length_le {seen : List Nat} (listed : Listed code hay seen) :
    seen.length ≤ code.size * (hay.chars.size + 1) := by
  have within : seen ⊆ List.range (code.size * (hay.chars.size + 1)) :=
    fun key member => List.mem_range.mpr (listed.bounded key member)
  have short := (List.subperm_of_subset listed.once within).length_le
  rwa [List.length_range] at short

theorem Listed.cons {seen : List Nat} (listed : Listed code hay seen)
    (inside : moment.place < code.size) (within : moment.position ≤ hay.chars.size)
    (fresh : seen.contains (moment.key hay) = false) : Listed code hay (moment.key hay :: seen) where
  once := by
    refine List.nodup_cons.mpr ⟨fun member => ?_, listed.once⟩
    rw [List.contains_iff_mem.mpr member] at fresh
    cases fresh
  bounded key member := by
    rcases List.mem_cons.mp member with rfl | older
    · have rows := Nat.mul_le_mul_right (hay.chars.size + 1) (Nat.succ_le_of_lt inside)
      rw [Moment.key]
      rw [Nat.succ_mul] at rows
      omega
    · exact listed.bounded key older

/-- What is left to do: two ways for each fork that has not been taken, and the choices, each of
which leads down to the next fork. -/
def leftToFollow (code : Array Instruction) (hay : Hay) (seen : List Nat) (moment : Moment)
    (choices : List Moment) : Nat :=
  (2 * (code.size * (hay.chars.size + 1) - seen.length) + choices.length) * (code.size + 1) +
    moment.place

/-- Go on with the choice kept last. -/
def resumeListed (code : Array Instruction) (hay : Hay) (steps : Nat) (seen : List Nat) :
    List Moment -> Option Moment
  | [] => none
  | choice :: choices => followListed code hay hay.chars.size steps seen choice choices

variable {steps : Nat} {seen : List Nat} {choices : List Moment}

theorem followListed_accept (here : code[moment.place]? = some .accept) :
    followListed code hay hay.chars.size (steps + 1) seen moment choices = some moment := by
  simp only [followListed, here]

theorem followListed_fork {first second : Nat}
    (here : code[moment.place]? = some (.fork first second)) :
    followListed code hay hay.chars.size (steps + 1) seen moment choices =
      if seen.contains (moment.key hay) then resumeListed code hay steps seen choices
      else followListed code hay hay.chars.size steps (moment.key hay :: seen)
        { moment with place := first } ({ moment with place := second } :: choices) := by
  simp only [followListed, here]
  cases choices <;> rfl

theorem followListed_advance (here : code[moment.place]? = some instruction)
    (inside : instruction ≠ .accept) (unforked : ∀ first second, instruction ≠ .fork first second) :
    followListed code hay hay.chars.size (steps + 1) seen moment choices =
      (advance? hay hay.chars.size moment instruction).elim
        (resumeListed code hay steps seen choices)
        (fun next => followListed code hay hay.chars.size steps seen next choices) := by
  simp only [followListed, here]
  cases instruction with
  | accept => exact absurd rfl inside
  | fork first second => exact absurd rfl (unforked first second)
  | _ =>
      generalize advance? hay hay.chars.size moment _ = advanced
      cases advanced <;> cases choices <;> rfl

/-- Any two numbers of steps that are enough lead to the same result. -/
theorem followListed_congr (descends : Descends code) {other : Nat}
    (listed : Listed code hay seen)
    (inside : ∀ each ∈ moment :: choices, each.place < code.size ∧
      each.position ≤ hay.chars.size)
    (enough : leftToFollow code hay seen moment choices < steps)
    (enough' : leftToFollow code hay seen moment choices < other) :
    followListed code hay hay.chars.size steps seen moment choices =
      followListed code hay hay.chars.size other seen moment choices := by
  induction steps generalizing other seen moment choices with
  | zero => exact absurd enough (Nat.not_lt_zero _)
  | succ steps ih =>
      obtain ⟨other, rfl⟩ := Nat.exists_eq_succ_of_ne_zero (Nat.ne_of_gt (Nat.zero_lt_of_lt enough'))
      have here := inside moment List.mem_cons_self
      have resumes : resumeListed code hay steps seen choices =
          resumeListed code hay other seen choices := by
        cases choices with
        | nil => rfl
        | cons choice choices =>
            have later := (inside choice (List.mem_cons_of_mem _ List.mem_cons_self)).1
            refine ih listed (fun each member => inside each (List.mem_cons_of_mem _ member)) ?_ ?_
            all_goals
              simp only [leftToFollow, List.length_cons, Nat.add_mul, Nat.one_mul] at enough enough' ⊢
              omega
      rcases Array.getElem?_eq_some_iff.mpr ⟨here.1, rfl⟩ with present
      generalize code[moment.place] = instruction at present
      cases instruction with
      | accept => rw [followListed_accept present, followListed_accept present]
      | fork first second =>
          rw [followListed_fork present, followListed_fork present]
          split
          · exact resumes
          · rename_i fresh
            have leads : first < code.size ∧ second < code.size := descends _ _ present
            have more := listed.cons here.1 here.2 (Bool.eq_false_iff.mpr fresh)
            have short := more.length_le
            refine ih more ?_ ?_ ?_
            · intro each member
              rcases List.mem_cons.mp member with rfl | member
              · exact ⟨leads.1, here.2⟩
              · rcases List.mem_cons.mp member with rfl | member
                · exact ⟨leads.2, here.2⟩
                · exact inside each (List.mem_cons_of_mem _ member)
            -- one fork less to take pays for one choice more and for the way down from it
            all_goals
              have pays : 2 * (code.size * (hay.chars.size + 1) - seen.length) + choices.length =
                  2 * (code.size * (hay.chars.size + 1) - (seen.length + 1)) +
                    (choices.length + 1) + 1 := by
                simp only [List.length_cons] at short
                omega
              simp only [leftToFollow, List.length_cons] at enough enough' ⊢
              rw [pays, Nat.succ_mul] at enough enough'
              omega
      | _ =>
          rw [followListed_advance present (by simp) (by simp),
            followListed_advance present (by simp) (by simp)]
          generalize advanced : advance? hay hay.chars.size moment _ = onwards
          cases onwards with
          | none => exact resumes
          | some next =>
              have moved := place_of_advance? (descends _ _ present) here.2 advanced
              refine ih listed ?_ ?_ ?_
              · intro each member
                rcases List.mem_cons.mp member with rfl | member
                · exact ⟨Nat.lt_trans moved.1 here.1, moved.2⟩
                · exact inside each (List.mem_cons_of_mem _ member)
              all_goals
                simp only [leftToFollow] at enough enough' ⊢
                omega

/-! ## Trying every fork again -/

/-- What an instruction without a choice does is told by the place and the position. -/
theorem advance?_congr (descends : Instruction.Descends code.size moment.place instruction)
    {other : Moment} (position : other.position = moment.position) :
    (advance? hay hay.chars.size other instruction).map (fun next => (next.place, next.position)) =
      (advance? hay hay.chars.size moment instruction).map
        (fun next => (next.place, next.position)) := by
  cases instruction with
  | take member target =>
      simp only [advance?, position]
      split <;> rfl
  | check kind target =>
      simp only [advance?, position]
      split <;> rfl
  | mark slot target => simp only [advance?, position, Option.map_some]
  | accept | fork => rfl
  | _ => exact descends.elim

theorem ne_accept_of_advance? {limit : Nat}
    (advances : advance? hay limit moment instruction = some next) : instruction ≠ .accept := by
  rintro rfl
  cases advances

theorem ne_fork_of_advance? {limit : Nat}
    (advances : advance? hay limit moment instruction = some next) (first second : Nat) :
    instruction ≠ .fork first second := by
  rintro rfl
  cases advances

namespace Settles

theorem of_accept (settles : Settles code hay length moment result)
    (here : code[moment.place]? = some .accept) : length = 0 ∧ result = some moment := by
  cases settles with
  | accept => exact ⟨rfl, rfl⟩
  | blocked present inside =>
      exact absurd (Option.some.inj (present.symm.trans here)) inside
  | goes present advances =>
      rw [Option.some.inj (present.symm.trans here)] at advances
      cases advances
  | first present | second present => cases Option.some.inj (present.symm.trans here)

theorem of_fork {first second : Nat} (settles : Settles code hay length moment result)
    (here : code[moment.place]? = some (.fork first second)) :
    ∃ onwards, length = onwards + 1 ∧
      ((result.isSome = true ∧ Settles code hay onwards { moment with place := first } result) ∨
        (∃ other, Settles code hay other { moment with place := first } none ∧
          Settles code hay onwards { moment with place := second } result)) := by
  cases settles with
  | accept present => cases Option.some.inj (present.symm.trans here)
  | blocked present inside unforked =>
      exact absurd (Option.some.inj (present.symm.trans here)) (unforked first second)
  | goes present advances =>
      rw [Option.some.inj (present.symm.trans here)] at advances
      cases advances
  | first present onwards =>
      cases Option.some.inj (present.symm.trans here)
      exact ⟨_, rfl, Or.inl ⟨rfl, onwards⟩⟩
  | second present fails onwards =>
      cases Option.some.inj (present.symm.trans here)
      exact ⟨_, rfl, Or.inr ⟨_, fails, onwards⟩⟩

theorem of_advance (settles : Settles code hay length moment result)
    (here : code[moment.place]? = some instruction) (inside : instruction ≠ .accept)
    (unforked : ∀ first second, instruction ≠ .fork first second) :
    (advance? hay hay.chars.size moment instruction = none ∧ length = 0 ∧ result = none) ∨
      ∃ next onwards, advance? hay hay.chars.size moment instruction = some next ∧
        length = onwards + 1 ∧ Settles code hay onwards next result := by
  cases settles with
  | accept present => exact absurd (Option.some.inj (here.symm.trans present)) inside
  | blocked present _ _ stuck =>
      cases Option.some.inj (present.symm.trans here)
      exact Or.inl ⟨stuck, rfl, rfl⟩
  | goes present advances onwards =>
      cases Option.some.inj (present.symm.trans here)
      exact Or.inr ⟨_, _, advances, rfl, onwards⟩
  | first present | second present =>
      exact absurd (Option.some.inj (here.symm.trans present)) (unforked _ _)

/-- From one place and position there is only one way to go. -/
theorem unique (descends : Descends code) (settles : Settles code hay length moment result)
    {other : Moment} {number : Nat} {outcome : Option Moment} (place : other.place = moment.place)
    (position : other.position = moment.position)
    (again : Settles code hay number other outcome) :
    number = length ∧ outcome.isSome = result.isSome := by
  induction settles generalizing other number outcome with
  | accept here =>
      rw [← place] at here
      rcases again.of_accept here with ⟨rfl, rfl⟩
      exact ⟨rfl, rfl⟩
  | blocked here inside unforked stuck =>
      have same := @advance?_congr code hay _ _ (descends _ _ here) _ position
      rw [← place] at here
      rw [stuck] at same
      rcases again.of_advance here inside unforked with ⟨_, rfl, rfl⟩ | ⟨next, _, advances, _⟩
      · exact ⟨rfl, rfl⟩
      · rw [advances] at same
        cases same
  | goes here advances onwards ih =>
      have inside := ne_accept_of_advance? advances
      have unforked := ne_fork_of_advance? advances
      have same := @advance?_congr code hay _ _ (descends _ _ here) _ position
      rw [← place] at here
      rw [advances] at same
      rcases again.of_advance here inside unforked with ⟨stuck, _⟩ | ⟨next, _, advances', rfl, rest⟩
      · rw [stuck] at same
        cases same
      · rw [advances'] at same
        rcases Prod.mk.inj (Option.some.inj same) with ⟨place, position⟩
        have both := ih place position rest
        exact ⟨congrArg Nat.succ both.1, both.2⟩
  | @first moment found first second length here onwards ih =>
      rw [← place] at here
      have turns := @ih { other with place := first }
      rcases again.of_fork here with ⟨_, rfl, ⟨_, rest⟩ | ⟨_, fails, _⟩⟩
      · have both := turns rfl position rest
        exact ⟨congrArg Nat.succ both.1, both.2⟩
      · cases (turns rfl position fails).2
  | @second moment first second length number result here fails onwards ihFails ih =>
      rw [← place] at here
      rcases again.of_fork here with ⟨_, rfl, ⟨some, rest⟩ | ⟨_, _, rest⟩⟩
      · have both := @ihFails { other with place := first } _ _ rfl position rest
        rw [some] at both
        cases both.2
      · have both := @ih { other with place := second } _ _ rfl position rest
        exact ⟨congrArg Nat.succ both.1, both.2⟩

end Settles

/-! ## Forks that are tried once -/

/-- Whether following a moment comes to a result, given enough steps. -/
def FollowsTo (code : Array Instruction) (hay : Hay) (seen : List Nat) (moment : Moment)
    (choices : List Moment) (result : Option Moment) : Prop :=
  ∃ least, ∀ steps, least ≤ steps ->
    followListed code hay hay.chars.size steps seen moment choices = result

/-- Whether going on with the choices comes to a result, given enough steps. -/
def ResumesTo (code : Array Instruction) (hay : Hay) (seen : List Nat) (choices : List Moment)
    (result : Option Moment) : Prop :=
  ∃ least, ∀ steps, least ≤ steps -> resumeListed code hay steps seen choices = result

/-- Whether a fork that has been taken does not stand on a way of some length to the end. -/
def Passed (code : Array Instruction) (hay : Hay) (length key : Nat) : Prop :=
  ∀ moment found number, moment.key hay = key -> moment.position ≤ hay.chars.size ->
    Settles code hay number moment (some found) -> length < number

variable {seen : List Nat} {choices : List Moment}

theorem Moment.eq_of_key {other : Moment} (within : moment.position ≤ hay.chars.size)
    (within' : other.position ≤ hay.chars.size) (same : other.key hay = moment.key hay) :
    other.place = moment.place ∧ other.position = moment.position := by
  have rest := congrArg (· % (hay.chars.size + 1)) same
  simp only [key, Nat.mul_add_mod_self_right] at rest
  rw [Nat.mod_eq_of_lt (Nat.lt_succ_of_le within), Nat.mod_eq_of_lt (Nat.lt_succ_of_le within')]
    at rest
  rw [key, key, rest] at same
  exact ⟨Nat.eq_of_mul_eq_mul_right (Nat.succ_pos _) (Nat.add_right_cancel same), rest⟩

theorem followsTo_of_accept (here : code[moment.place]? = some .accept) :
    FollowsTo code hay seen moment choices (some moment) := by
  refine ⟨1, fun steps enough => ?_⟩
  obtain ⟨steps, rfl⟩ := Nat.exists_eq_add_of_le' enough
  exact followListed_accept here

theorem followsTo_of_advance (here : code[moment.place]? = some instruction)
    (advances : advance? hay hay.chars.size moment instruction = some next)
    (follows : FollowsTo code hay seen next choices result) :
    FollowsTo code hay seen moment choices result := by
  rcases follows with ⟨least, follows⟩
  refine ⟨least + 1, fun steps enough => ?_⟩
  obtain ⟨steps, rfl⟩ := Nat.exists_eq_add_of_le' (Nat.le_of_add_left_le enough)
  rw [followListed_advance here (ne_accept_of_advance? advances) (ne_fork_of_advance? advances),
    advances]
  exact follows steps (Nat.le_of_add_le_add_right enough)

theorem followsTo_of_stuck (here : code[moment.place]? = some instruction)
    (inside : instruction ≠ .accept) (unforked : ∀ first second, instruction ≠ .fork first second)
    (stuck : advance? hay hay.chars.size moment instruction = none)
    (resumes : ResumesTo code hay seen choices result) :
    FollowsTo code hay seen moment choices result := by
  rcases resumes with ⟨least, resumes⟩
  refine ⟨least + 1, fun steps enough => ?_⟩
  obtain ⟨steps, rfl⟩ := Nat.exists_eq_add_of_le' (Nat.le_of_add_left_le enough)
  rw [followListed_advance here inside unforked, stuck]
  exact resumes steps (Nat.le_of_add_le_add_right enough)

theorem followsTo_of_seen {first second : Nat}
    (here : code[moment.place]? = some (.fork first second)) (taken : moment.key hay ∈ seen)
    (resumes : ResumesTo code hay seen choices result) :
    FollowsTo code hay seen moment choices result := by
  rcases resumes with ⟨least, resumes⟩
  refine ⟨least + 1, fun steps enough => ?_⟩
  obtain ⟨steps, rfl⟩ := Nat.exists_eq_add_of_le' (Nat.le_of_add_left_le enough)
  rw [followListed_fork here, if_pos (List.contains_iff_mem.mpr taken)]
  exact resumes steps (Nat.le_of_add_le_add_right enough)

theorem followsTo_of_fresh {first second : Nat}
    (here : code[moment.place]? = some (.fork first second)) (fresh : moment.key hay ∉ seen)
    (follows : FollowsTo code hay (moment.key hay :: seen) { moment with place := first }
      ({ moment with place := second } :: choices) result) :
    FollowsTo code hay seen moment choices result := by
  rcases follows with ⟨least, follows⟩
  refine ⟨least + 1, fun steps enough => ?_⟩
  obtain ⟨steps, rfl⟩ := Nat.exists_eq_add_of_le' (Nat.le_of_add_left_le enough)
  rw [followListed_fork here, if_neg (by rwa [List.contains_iff_mem])]
  exact follows steps (Nat.le_of_add_le_add_right enough)

/-- A moment that fails is given up, also where some of its forks have been taken before.  The
forks that are taken meanwhile fail, too. -/
theorem Settles.resumes (descends : Descends code)
    (settles : Settles code hay length moment result) (fails : result = none)
    (within : moment.position ≤ hay.chars.size) (seen : List Nat) :
    ∃ later, (∀ key ∈ later, key ∈ seen ∨ ∀ length, Passed code hay length key) ∧
      ∀ choices outcome, ResumesTo code hay later choices outcome ->
        FollowsTo code hay seen moment choices outcome := by
  induction settles generalizing seen with
  | accept | first => cases fails
  | blocked here inside unforked stuck =>
      exact ⟨seen, fun key member => Or.inl member, fun choices outcome =>
        followsTo_of_stuck here inside unforked stuck⟩
  | goes here advances onwards ih =>
      rcases ih fails (place_of_advance? (descends _ _ here) within advances).2 seen with
        ⟨later, taken, resumes⟩
      exact ⟨later, taken, fun choices outcome onwards =>
        followsTo_of_advance here advances (resumes choices outcome onwards)⟩
  | @second moment first second length other result here failing onwards ihFirst ih =>
      by_cases taken : moment.key hay ∈ seen
      · exact ⟨seen, fun key member => Or.inl member, fun choices outcome =>
          followsTo_of_seen here taken⟩
      · rcases ihFirst rfl within (moment.key hay :: seen) with ⟨middle, sooner, resumes⟩
        rcases ih fails within middle with ⟨last, later, resumes'⟩
        have hopeless : ∀ length, Passed code hay length (moment.key hay) := by
          intro length each found number same inside found'
          have place := Moment.eq_of_key within inside same
          have whole : Settles code hay _ moment result := .second here failing onwards
          have both := (whole.unique descends place.1 place.2 found').2
          rw [fails] at both
          cases both
        refine ⟨last, fun key member => ?_, fun choices outcome onwards => ?_⟩
        · rcases later key member with among | passed
          · rcases sooner key among with listed | passed
            · rcases List.mem_cons.mp listed with rfl | before
              · exact Or.inr hopeless
              · exact Or.inl before
            · exact Or.inr passed
          · exact Or.inr passed
        · exact followsTo_of_fresh here taken
            (resumes _ _ (resumes' choices outcome onwards))

theorem Passed.shorter {key : Nat} (passed : Passed code hay (length + 1) key) :
    Passed code hay length key :=
  fun each found number same inside reaches =>
    Nat.lt_of_succ_lt (passed each found number same inside reaches)

/-- A fork on the way to the end is passed as soon as it has been taken. -/
theorem Settles.passed (descends : Descends code) {found : Moment}
    (settles : Settles code hay (length + 1) moment (some found))
    (within : moment.position ≤ hay.chars.size) : Passed code hay length (moment.key hay) := by
  intro each found' number same inside reaches
  have place := Moment.eq_of_key within inside same
  rw [(settles.unique descends place.1 place.2 reaches).1]
  exact Nat.lt_succ_self length

/-- A way to the end is found where none of the forks on it has been taken before. -/
theorem Settles.follows (descends : Descends code)
    (settles : Settles code hay length moment result) {found : Moment}
    (succeeds : result = some found) (within : moment.position ≤ hay.chars.size) (seen : List Nat)
    (passed : ∀ key ∈ seen, Passed code hay length key) (choices : List Moment) :
    FollowsTo code hay seen moment choices (some found) := by
  induction settles generalizing seen choices with
  | accept here =>
      rcases Option.some.inj succeeds with rfl
      exact followsTo_of_accept here
  | blocked => cases succeeds
  | goes here advances onwards ih =>
      exact followsTo_of_advance here advances
        (ih succeeds (place_of_advance? (descends _ _ here) within advances).2 seen
          (fun key member => (passed key member).shorter) choices)
  | @first moment found first second length here onwards ih =>
      have whole : Settles code hay (length + 1) moment (some found) := .first here onwards
      have fresh : moment.key hay ∉ seen := fun taken =>
        absurd (passed _ taken moment found _ rfl within whole) (Nat.lt_irrefl _)
      refine followsTo_of_fresh here fresh (ih succeeds within _ (fun key member => ?_) _)
      rcases List.mem_cons.mp member with rfl | before
      · exact whole.passed descends within
      · exact (passed key before).shorter
  | @second moment first second length other result here failing onwards ihFirst ih =>
      have whole : Settles code hay (length + 1) moment result := .second here failing onwards
      rw [succeeds] at whole
      have fresh : moment.key hay ∉ seen := fun taken =>
        absurd (passed _ taken moment found _ rfl within whole) (Nat.lt_irrefl _)
      rcases failing.resumes descends rfl within (moment.key hay :: seen) with
        ⟨later, taken, resumes⟩
      refine followsTo_of_fresh here fresh (resumes _ _ (ih succeeds within later ?_ choices))
      intro key member
      rcases taken key member with listed | hopeless
      · rcases List.mem_cons.mp listed with rfl | before
        · exact whole.passed descends within
        · exact (passed key before).shorter
      · exact hopeless length

/-! ## Settled parts -/

/-- Where every fork is tried once, a settled part comes to what it would come to anyway. -/
theorem settle?_eq_of_settles (descends : Descends code) {entry : Nat} (inside : entry < code.size)
    (within : moment.position ≤ hay.chars.size)
    (settles : Settles code hay length { moment with place := entry } result) :
    settle? code hay hay.chars.size entry moment = result := by
  have same (key : Nat) : (∅ : Std.HashSet Nat).contains key = List.contains [] key :=
    Std.HashSet.contains_empty
  have eventually : FollowsTo code hay [] { moment with place := entry } [] result := by
    cases outcome : result with
    | none =>
        rcases settles.resumes descends outcome within [] with ⟨later, _, resumes⟩
        exact resumes [] none ⟨0, fun _ _ => rfl⟩
    | some found =>
        exact settles.follows descends outcome within []
          (fun key member => absurd member List.not_mem_nil) []
  rcases eventually with ⟨least, follows⟩
  rw [settle?, follow_eq_followListed same, ← follows _ (Nat.le_max_left least _)]
  refine followListed_congr descends ⟨List.nodup_nil, fun key member =>
    absurd member List.not_mem_nil⟩ ?_ ?_ (Nat.lt_of_lt_of_le (Nat.lt_succ_self _)
      (Nat.le_max_right _ _))
  · intro each member
    rw [List.mem_singleton.mp member]
    exact ⟨inside, within⟩
  · -- there are more steps than ways to go on from all forks
    have more : 2 * (code.size * (hay.chars.size + 1)) + 1 ≤
        2 * ((code.size + 1) * (hay.chars.size + 2)) := by
      simp only [Nat.add_mul, Nat.mul_add]
      omega
    have enough := Nat.mul_le_mul_right (code.size + 1) more
    rw [Nat.succ_mul] at enough
    simp only [leftToFollow, List.length_nil, Nat.sub_zero, Nat.add_zero]
    omega

end Machine
end Pattern
end FencedHighlight
