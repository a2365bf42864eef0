import FencedHighlight.Proofs.Pattern.Assembly

namespace FencedHighlight
namespace Pattern

/-!
Compiled trees keep to a layout.

Every part that a tree is compiled to begins at the spot that it leads to, if that
is a spot from which the position may move onwards.  Only the groups at the very
start of a pattern begin at another one.
-/

open Machine (Layout Spot Zone Note Stage)

/-! ## Parts of programs -/

namespace Compilation

open Assembly (Covered Extends)

variable {notes : List Note} {entry middle target spot : Spot}

theorem Joins.refl (notes : List Note) (spot : Spot) :
    Joins notes (fun next assembly => (assembly, next)) spot spot :=
  fun layout _ _ _ covered known => ⟨layout, .refl layout, covered, known⟩

/-- What leads to the beginning of a part leads on to where that part leads. -/
theorem Joins.trans {first second : Compilation} (before : Joins notes first entry middle)
    (after : Joins notes second middle target) :
    Joins notes (fun next assembly =>
      let (assembly, there) := second next assembly
      first there assembly) entry target := by
  intro layout assembly next base covered known
  rcases after layout assembly next base covered known with ⟨wider, grows, inner, there⟩
  exact (before wider _ _ (base.trans grows.2) inner there).of_grows grows

/-- A single instruction is a part. -/
theorem Joins.add {instruction : (next : Nat) -> Instruction}
    (fits : ∀ (layout : Layout) (next : Nat), notes <+: layout.notes ->
      layout.spots[next]? = some target -> layout.Fits entry (instruction next)) :
    Joins notes (fun next assembly => assembly.add (instruction next)) entry target :=
  fun layout _ next base covered known => covered.add (fits layout next base known)

/-- A part and an instruction ahead of it. -/
theorem Joins.prepend {part : Compilation} {instruction : (next : Nat) -> Instruction}
    (joins : Joins notes part middle target)
    (fits : ∀ (layout : Layout) (next : Nat), notes <+: layout.notes ->
      layout.spots[next]? = some middle -> layout.Fits entry (instruction next)) :
    Joins notes (fun next assembly =>
      let (assembly, start) := part next assembly
      assembly.add (instruction start)) entry target :=
  Joins.trans (.add fits) joins

theorem fits_forkRound {layout : Layout} {round finish : Nat} (greedy : Bool)
    (again : layout.spots[round]? = some spot) (leave : layout.spots[finish]? = some spot) :
    layout.Fits spot (.forkRound greedy round finish) := by
  cases greedy
  · exact ⟨Layout.stays leave, Layout.stays again⟩
  · exact ⟨Layout.stays again, Layout.stays leave⟩

variable {round : Compilation}

theorem joins_compileRounds (joins : Joins notes round spot spot) (rounds : Nat) :
    Joins notes (Tree.compileRounds round rounds) spot spot := by
  induction rounds with
  | zero => exact .refl notes spot
  | succ rounds ih => exact ih.trans joins

theorem extends_compileOptional (joins : Joins notes round spot spot) (greedy : Bool)
    {layout : Layout} {assembly : Assembly} {next later : Nat} (rounds : Nat)
    (base : notes <+: layout.notes) (covered : Covered layout assembly)
    (leave : layout.spots[next]? = some spot) (enter : layout.spots[later]? = some spot) :
    Extends layout spot (Tree.compileOptional round greedy next rounds later assembly) := by
  induction rounds generalizing layout assembly later with
  | zero => exact ⟨layout, .refl layout, covered, enter⟩
  | succ rounds ih =>
      rcases joins layout assembly later base covered enter with ⟨wider, grows, inner, there⟩
      have leaves := grows.spot leave
      rcases inner.add (fits_forkRound greedy there leaves) with ⟨widest, onwards, outer, start⟩
      have further := ih (base.trans (grows.trans onwards).2) outer (onwards.spot leaves) start
      exact further.of_grows (grows.trans onwards)

/-- A loop consists of a round and a fork, and begins with either of them. -/
theorem exists_compileLoop (joins : Joins notes round spot spot) (steady : spot.Steady)
    (greedy : Bool) {layout : Layout} {assembly : Assembly} {next : Nat}
    (base : notes <+: layout.notes) (covered : Covered layout assembly)
    (leave : layout.spots[next]? = some spot) :
    ∃ wider, layout.GrowsTo wider ∧
      Covered wider (Tree.compileLoop round greedy next assembly).1 ∧
      wider.spots[(Tree.compileLoop round greedy next assembly).2.1]? = some spot ∧
      wider.spots[(Tree.compileLoop round greedy next assembly).2.2]? = some spot := by
  rcases covered.add (show layout.Fits spot .accept from steady.settled) with
    ⟨wider, grows, inner, loop⟩
  rcases joins wider _ _ (base.trans grows.2) inner loop with ⟨widest, onwards, outer, entry⟩
  have again := onwards.spot loop
  have leaves := (grows.trans onwards).spot leave
  exact ⟨widest, grows.trans onwards, outer.fill again (fits_forkRound greedy entry leaves),
    entry, again⟩

/-- The rounds of a loop that counts them, when the slots for it are known. -/
theorem extends_countedRounds (joins : Joins notes round spot spot) (steady : spot.Steady)
    {layout : Layout} {assembly : Assembly} {next : Nat} (loop : Loop)
    (base : notes <+: layout.notes) (covered : Covered layout assembly)
    (leave : layout.spots[next]? = some spot)
    (counter : layout.notes[loop.counter]? = some .free)
    (guard : ∀ slot ∈ loop.guard, layout.notes[slot]? = some .free) :
    Extends layout spot (
      let (assembly, head) := assembly.add .accept
      let (assembly, entry) := round head assembly
      (assembly.fill head (.round loop entry next)).add (.reset loop.counter head)) := by
  rcases covered.add (show layout.Fits spot .accept from steady.settled) with
    ⟨wider, grows, inner, head⟩
  rcases joins wider _ _ (base.trans grows.2) inner head with ⟨widest, onwards, outer, entry⟩
  have whole := grows.trans onwards
  have again := onwards.spot head
  have rounds : widest.Fits spot (.round loop
      (round (assembly.add .accept).2 (assembly.add .accept).1).2 next) :=
    ⟨whole.note counter, fun slot member => whole.note (guard slot member),
      Layout.stays entry, Layout.stays (whole.spot leave)⟩
  have filled := outer.fill again rounds
  have reset : widest.Fits spot (.reset loop.counter (assembly.add .accept).2) :=
    ⟨whole.note counter, Layout.stays again⟩
  exact (filled.add reset).of_grows whole

theorem joins_compileCounted (joins : Joins notes round spot spot) (steady : spot.Steady)
    (guarded : Bool) (least : Nat) (most : Option Nat) (greedy : Bool) :
    Joins notes (Tree.compileCounted round guarded least most greedy) spot spot := by
  intro layout assembly next base covered leave
  rcases covered.freshSlot .free with ⟨counted, first, slots, counter⟩
  cases guarded with
  | false =>
      have rounds := extends_countedRounds joins steady
        ⟨assembly.freshSlot.2, none, least, most, greedy⟩ (base.trans first.2) slots
        (first.spot leave) counter (fun _ none => nomatch none)
      exact rounds.of_grows first
  | true =>
      rcases slots.freshSlot .free with ⟨wider, second, both, guard⟩
      have grows := first.trans second
      have rounds := extends_countedRounds joins steady
        ⟨assembly.freshSlot.2, some assembly.freshSlot.1.freshSlot.2, least, most, greedy⟩
        (base.trans grows.2) both (grows.spot leave) (second.note counter)
        (fun slot same => (Option.some.inj same) ▸ guard)
      exact rounds.of_grows grows

/-- A group is a part between two marks. -/
theorem joins_compileGroup {part : Compilation} {index : Nat}
    (joins : Joins notes part middle target)
    (closes : ∀ (layout : Layout) (next : Nat), notes <+: layout.notes ->
      layout.spots[next]? = some target -> layout.Fits target (.mark (2 * index + 1) next))
    (opens : ∀ (layout : Layout) (next : Nat), notes <+: layout.notes ->
      layout.spots[next]? = some middle -> layout.Fits entry (.mark (2 * index) next)) :
    Joins notes (Tree.compileGroup part index) entry target :=
  (Joins.add opens).trans (joins.trans (.add closes))

theorem joins_compileClears (groups : List Nat) :
    Joins notes (Tree.compileClears groups) spot spot := by
  intro layout assembly next base covered known
  unfold Tree.compileClears
  induction groups generalizing layout assembly next with
  | nil => exact ⟨layout, .refl layout, covered, known⟩
  | cons index groups ih =>
      rcases covered.add (show layout.Fits spot (.clear (2 * index + 1) next) from
        Layout.stays known) with ⟨wider, first, inner, last⟩
      rcases inner.add (show wider.Fits spot (.clear (2 * index) _) from Layout.stays last) with
        ⟨widest, second, outer, start⟩
      have grows := first.trans second
      exact (ih widest _ _ (base.trans grows.2) outer start).of_grows grows

/-! ## Settled parts -/

/-- A part that is settled ahead of the beginning of the match, or in a place where
nothing is known. -/
theorem joins_compileSettled {body : Tree} {zone : Zone} {finish : Spot}
    (joins : Joins notes (body.compileRegular false) ⟨zone, finish.settled⟩ finish)
    (ends : finish = ⟨.ahead, true⟩ ∨ (finish = ⟨.anywhere, false⟩ ∧ zone = .anywhere)) :
    Joins notes (Tree.compileSettled body) ⟨zone, false⟩ ⟨finish.zone, false⟩ := by
  intro layout assembly next base covered known
  have accepts : layout.Fits finish .accept := by
    rcases ends with rfl | ⟨rfl, _⟩
    · exact fun _ => rfl
    · exact fun none => nomatch none
  rcases covered.add accepts with ⟨wider, first, inner, accept⟩
  rcases joins wider _ _ (base.trans first.2) inner accept with ⟨widest, second, outer, entry⟩
  have grows := first.trans second
  have settles : widest.Fits ⟨zone, false⟩ (.settle
      (body.compileRegular false (assembly.add .accept).2 (assembly.add .accept).1).2 next) := by
    refine ⟨_, _, entry, grows.spot known, fun _ _ holds => holds, ?_⟩
    rcases ends with rfl | ⟨rfl, anywhere⟩
    · exact Or.inl ⟨rfl, rfl⟩
    · exact Or.inr ⟨anywhere, rfl⟩
  rcases outer.add settles with ⟨settled, third, whole, start⟩
  have clears := joins_compileClears body.groups settled _ _
    (base.trans (grows.trans third).2) whole start
  exact clears.of_grows (grows.trans third)

theorem fits_behind {layout : Layout} {first next : Nat} {forward : Option Nat}
    (enter : layout.spots[first]? = some (.ofSide true))
    (returns : ∀ place ∈ forward, layout.spots[place]? = some (.ofSide true))
    (leave : layout.spots[next]? = some (.ofSide true)) :
    layout.Fits (.ofSide true) (.behind first forward next) :=
  ⟨rfl, ⟨_, enter, rfl⟩, fun place member => ⟨_, returns place member, rfl⟩, ⟨_, leave, rfl⟩⟩

/-- What is looked for to the left may be anywhere. -/
theorem joins_compileBehind {body : Tree}
    (leftward : Joins notes (body.compileRegular true) (.ofSide true) (.ofSide true))
    (rightward : Joins notes (body.compileRegular false) (.ofSide true) (.ofSide true)) :
    Joins notes (Tree.compileBehind body) (.ofSide true) (.ofSide true) := by
  intro layout assembly next base covered known
  rcases covered.add (show layout.Fits (.ofSide true) .accept from fun none => nomatch none) with
    ⟨wider, first, inner, accept⟩
  rcases leftward wider _ _ (base.trans first.2) inner accept with ⟨widest, second, outer, entry⟩
  have grows := first.trans second
  unfold Tree.compileBehind
  simp only
  split
  · have behind : widest.Fits _ (.behind _ none next) :=
      fits_behind entry (fun _ none => nomatch none) (grows.spot known)
    rcases outer.add behind with ⟨looking, third, whole, start⟩
    have clears := joins_compileClears body.groups looking _ _
      (base.trans (grows.trans third).2) whole start
    exact clears.of_grows (grows.trans third)
  · rcases rightward widest _ _ (base.trans grows.2) outer (second.spot accept) with
      ⟨both, third, looks, forward⟩
    have whole := grows.trans third
    have returns : ∀ place ∈ some (body.compileRegular false (assembly.add .accept).2
        (body.compileRegular true (assembly.add .accept).2 (assembly.add .accept).1).1).2,
        both.spots[place]? = some (.ofSide true) := by
      intro place same
      rcases Option.some.inj same with rfl
      exact forward
    have behind := fits_behind (third.spot entry) returns (whole.spot known)
    rcases looks.add behind with ⟨looking, fourth, last, start⟩
    have clears := joins_compileClears body.groups looking _ _
      (base.trans (whole.trans fourth).2) last start
    exact clears.of_grows (whole.trans fourth)

/-- Whether the slots for the groups of a tree are free. -/
def FreeGroups (notes : List Note) (tree : Tree) : Prop :=
  ∀ index ∈ tree.groups,
    notes[2 * index]? = some .free ∧ notes[2 * index + 1]? = some .free

theorem FreeGroups.mono {tree part : Tree} (free : FreeGroups notes tree)
    (within : part.groups ⊆ tree.groups) : FreeGroups notes part :=
  fun index member => free index (within member)

theorem fits_mark_of_free {layout : Layout} {slot next : Nat} (base : notes <+: layout.notes)
    (free : notes[slot]? = some .free) (known : layout.spots[next]? = some spot) :
    layout.Fits spot (.mark slot next) :=
  ⟨.free, Layout.getElem?_of_prefix base free, Or.inl ⟨fun _ _ _ => trivial, Layout.stays known⟩⟩

theorem joins_group_of_free {part : Compilation} {index : Nat} (joins : Joins notes part spot spot)
    (free : notes[2 * index]? = some .free ∧ notes[2 * index + 1]? = some .free) :
    Joins notes (Tree.compileGroup part index) spot spot :=
  joins_compileGroup joins (fun _ _ base known => fits_mark_of_free base free.2 known)
    (fun _ _ base known => fits_mark_of_free base free.1 known)

theorem joins_fork {first second : Compilation} (sooner : Joins notes first spot target)
    (later : Joins notes second spot target) :
    Joins notes (fun next assembly =>
      let (assembly, later) := second next assembly
      let (assembly, sooner) := first next assembly
      assembly.add (.fork sooner later)) spot target := by
  intro layout assembly next base covered known
  rcases later layout assembly next base covered known with ⟨wider, first, inner, there⟩
  rcases sooner wider _ next (base.trans first.2) inner (first.spot known) with
    ⟨widest, second, outer, here⟩
  have both : widest.Fits spot (.fork _ _) :=
    ⟨Layout.stays here, Layout.stays (second.spot there)⟩
  exact (outer.add both).of_grows (first.trans second)

theorem leads_of_anywhere {layout : Layout} {next : Nat} (zone : spot.zone = .anywhere)
    (known : layout.spots[next]? = some spot)
    (moves : Stage -> (first second : Nat) -> Prop) : layout.Leads spot moves next := by
  refine ⟨spot, known, id, ?_⟩
  intro stage first second holds _
  rw [zone] at holds ⊢
  cases stage with
  | before start => exact holds.elim
  | since start => trivial

theorem joins_compileRegular {leftward : Bool} (steady : spot.Steady)
    (side : leftward = true -> spot.zone = .anywhere) (tree : Tree)
    (free : FreeGroups notes tree) : Joins notes (tree.compileRegular leftward) spot spot := by
  induction tree with
  | one member nesting =>
      refine Joins.add (fun layout next base known => ?_)
      cases leftward with
      | false => exact Layout.leads_onwards steady known fun _ _ _ moved => by omega
      | true => exact leads_of_anywhere (side rfl) known _
  | anchor kind => exact Joins.add fun layout next base known => Layout.stays known
  | seq first second ihFirst ihSecond =>
      have before := ihFirst (free.mono (List.subset_append_left _ _))
      have after := ihSecond (free.mono (List.subset_append_right _ _))
      cases leftward with
      | false => exact before.trans after
      | true => exact after.trans before
  | either first second ihFirst ihSecond =>
      exact joins_fork (ihFirst (free.mono (List.subset_append_left _ _)))
        (ihSecond (free.mono (List.subset_append_right _ _)))
  | scope body ih | settled body ih => exact ih free
  | group index body ih =>
      have inner := ih (free.mono (List.subset_cons_self _ _))
      cases leftward with
      | false => exact joins_group_of_free inner (free index List.mem_cons_self)
      | true => exact inner
  | repeated least most greedy body ih =>
      have round := ih free
      intro layout assembly next base covered known
      simp only [Tree.compileRegular]
      split
      · rcases extends_compileOptional round greedy _ base covered known known with
          ⟨wider, first, inner, start⟩
        exact (joins_compileRounds round _ wider _ _ (base.trans first.2) inner start).of_grows
          first
      · rcases exists_compileLoop round steady greedy base covered known with
          ⟨wider, first, inner, entry, loop⟩
        split
        · exact ⟨wider, first, inner, loop⟩
        · exact (inner.add (fits_forkRound greedy entry (first.spot known))).of_grows first
      · rcases exists_compileLoop round steady greedy base covered known with
          ⟨wider, first, inner, entry, loop⟩
        exact (joins_compileRounds round _ wider _ _ (base.trans first.2) inner entry).of_grows
          first
  | empty | look | atomic | again | isSet | conditional | beginHere | searchStart =>
      exact .refl notes spot

/-! ## Arranged trees -/

/-- What is noted of a position to which a look-around returns. -/
def returnNote (behind : Bool) : Note :=
  if behind then .free else .later

theorem notes_returnNote (behind : Bool) : Layout.Notes (.ofSide behind) (returnNote behind) := by
  intro stage position holds
  cases behind with
  | true => trivial
  | false => cases stage <;> exact holds

/-- Whatever is examined may be done from behind. -/
theorem holds_ofSide {behind inside : Bool} (within : behind = true -> inside = true)
    {stage : Stage} {position : Nat} (holds : (Spot.ofSide behind).zone.Holds stage position) :
    (Spot.ofSide inside).zone.Holds stage position := by
  cases inside with
  | false =>
      cases behind with
      | false => exact holds
      | true => cases within rfl
  | true =>
      cases stage with
      | before start => cases behind <;> exact holds.elim
      | since start => trivial

/-- A look-around returns to a position that has been noted, however far back it
looks. -/
theorem joins_compileLook {behind inside : Bool} {examine : Compilation} (wanted : Bool)
    (within : behind = true -> inside = true)
    (joins : Joins notes examine (.ofSide inside) (.ofSide inside)) :
    Joins notes (Tree.compileLook wanted examine) (.ofSide behind) (.ofSide behind) := by
  intro layout assembly next base covered known
  cases wanted with
  | true =>
      rcases covered.freshSlot (returnNote behind) with ⟨noted, first, slots, note⟩
      have returns : noted.Fits (.ofSide inside) (.goTo assembly.freshSlot.2 next) := by
        refine ⟨_, note, _, first.spot known, fun none => (nomatch none), ?_⟩
        intro stage start position holds back
        cases behind with
        | false => cases stage <;> exact back
        | true =>
            cases stage with
            | before start => cases inside <;> exact holds.elim
            | since start => trivial
      rcases slots.add returns with ⟨wider, second, inner, finish⟩
      have early := first.trans second
      rcases joins wider _ _ (base.trans early.2) inner finish with ⟨widest, third, outer, start⟩
      have late := second.trans third
      have marks : widest.Fits (.ofSide behind) (.mark assembly.freshSlot.2 _) :=
        ⟨_, late.note note, Or.inl ⟨notes_returnNote behind,
          Layout.stays_of_weaker start (fun none => nomatch none)
            (fun _ _ holds => holds_ofSide within holds)⟩⟩
      exact (outer.add marks).of_grows (early.trans third)
  | false =>
      rcases covered.add (show layout.Fits (.ofSide inside) (.abandon next) from trivial) with
        ⟨wider, first, inner, finish⟩
      rcases joins wider _ _ (base.trans first.2) inner finish with ⟨widest, second, outer, start⟩
      have grows := first.trans second
      have forks : widest.Fits (.ofSide behind) (.fork _ next) :=
        ⟨Layout.stays_of_weaker start (fun none => nomatch none)
          (fun _ _ holds => holds_ofSide within holds), Layout.stays (grows.spot known)⟩
      exact (outer.add forks).of_grows grows

/-- Whether the marks of a tree agree with what is known of the slots.  Behind the
position, nothing may move the beginning of the match. -/
def Admits (notes : List Note) : (behind : Bool) -> Tree -> Prop
  | behind, .seq first second | behind, .either first second =>
      Admits notes behind first ∧ Admits notes behind second
  | behind, .scope body | behind, .repeated _ _ _ body | behind, .atomic body
  | behind, .settled body | behind, .look .ahead _ body => Admits notes behind body
  | behind, .group index body =>
      (notes[2 * index]? = some .free ∧ notes[2 * index + 1]? = some .free) ∧
        Admits notes behind body
  | _, .look .behind _ body => Admits notes true body
  | behind, .conditional condition yes no =>
      Admits notes behind condition ∧ Admits notes behind yes ∧ Admits notes behind no
  | behind, .beginHere => behind = false ∧ notes[0]? = some .later
  | _, _ => True

theorem Admits.freeGroups {behind : Bool} {tree : Tree} (admits : Admits notes behind tree) :
    FreeGroups notes tree := by
  induction tree generalizing behind with
  | seq first second ihFirst ihSecond | either first second ihFirst ihSecond =>
      intro index member
      rcases List.mem_append.mp member with before | after
      · exact ihFirst admits.1 index before
      · exact ihSecond admits.2 index after
  | scope body ih | repeated _ _ _ body ih | atomic body ih | settled body ih => exact ih admits
  | group own body ih =>
      intro index member
      rcases List.mem_cons.mp member with rfl | inside
      · exact admits.1
      · exact ih admits.2 index inside
  | look side wanted body ih => cases side <;> exact ih admits
  | conditional condition yes no ihCondition ihYes ihNo =>
      intro index member
      rcases List.mem_append.mp member with before | last
      · rcases List.mem_append.mp before with first | second
        · exact ihCondition admits.1 index first
        · exact ihYes admits.2.1 index second
      · exact ihNo admits.2.2 index last
  | empty | one | anchor | again | isSet | beginHere | searchStart =>
      intro index member
      cases member

theorem joins_rightward (steady : spot.Steady) {tree : Tree} (free : FreeGroups notes tree) :
    Joins notes (tree.compileRegular false) spot spot :=
  joins_compileRegular steady (fun impossible => absurd impossible Bool.false_ne_true) tree free

theorem joins_cut (notes : List Note) (spot : Spot) :
    Joins notes (fun next assembly => assembly.add (.cut next)) spot spot :=
  Joins.add fun _ _ _ known => Layout.stays known

theorem joins_enter (notes : List Note) (spot : Spot) :
    Joins notes (fun next assembly => assembly.add (.barrier next)) spot spot :=
  Joins.add fun _ _ _ known => Layout.stays known

/-- A part between a barrier and the cut back to it. -/
theorem joins_barrier {part : Compilation} (joins : Joins notes part spot spot) :
    Joins notes (fun next assembly =>
      let (assembly, finish) := assembly.add (.cut next)
      let (assembly, start) := part finish assembly
      assembly.add (.barrier start)) spot spot :=
  ((joins_enter notes spot).trans joins).trans (joins_cut notes spot)

/-- A settled tree may stand wherever its tree may be compiled. -/
theorem joins_settled_of_free {behind : Bool} {body : Tree} (free : FreeGroups notes body) :
    Joins notes (Tree.compileSettled body) (.ofSide behind) (.ofSide behind) := by
  cases behind with
  | false =>
      have steady : Spot.Steady ⟨.ahead, true⟩ := ⟨Or.inl rfl, fun _ => rfl⟩
      exact joins_compileSettled (joins_rightward steady free) (Or.inl rfl)
  | true =>
      exact joins_compileSettled (joins_rightward (Spot.steady_ofSide true) free)
        (Or.inr ⟨rfl, rfl⟩)

/-- What is examined behind the position begins as far back as it is long, or is
matched to the left. -/
theorem joins_examineBehind {body : Tree} (free : FreeGroups notes body)
    (joins : Joins notes body.compile (.ofSide true) (.ofSide true)) :
    Joins notes (fun next assembly =>
      if body.hasFixedLength then
        let (assembly, entry) := body.compile next assembly
        assembly.add (.goBack body.leastLength entry)
      else
        body.compileBehind next assembly) (.ofSide true) (.ofSide true) := by
  have steady := Spot.steady_ofSide true
  split
  · exact joins.prepend fun _ _ _ known => leads_of_anywhere rfl known _
  · exact joins_compileBehind (joins_compileRegular steady (fun _ => rfl) body free)
      (joins_rightward steady free)

/-- A repetition is a single optional round, or a loop. -/
theorem joins_compile_repeated {body : Tree} (steady : spot.Steady)
    (round : Joins notes body.compile spot spot) (least : Nat) (most : Option Nat)
    (greedy : Bool) : Joins notes (Tree.compile (.repeated least most greedy body)) spot spot := by
  intro layout assembly next base covered known
  simp only [Tree.compile]
  split
  · rcases round layout assembly next base covered known with ⟨wider, grows, inner, entry⟩
    exact (inner.add (fits_forkRound greedy entry (grows.spot known))).of_grows grows
  · exact joins_compileCounted round steady false _ _ greedy layout assembly next base covered
      known
  · rcases exists_compileLoop round steady greedy base covered known with
      ⟨wider, grows, inner, entry, loop⟩
    split
    · exact joins_compileCounted round steady true _ none greedy layout assembly next base
        covered known
    · split
      · exact ⟨wider, grows, inner, loop⟩
      · split
        · exact ⟨wider, grows, inner, entry⟩
        · exact joins_compileCounted round steady false _ none greedy layout assembly next base
            covered known

theorem joins_compile {behind : Bool} {tree : Tree} (admits : Admits notes behind tree) :
    Joins notes tree.compile (.ofSide behind) (.ofSide behind) := by
  have steady := Spot.steady_ofSide behind
  induction tree generalizing behind with
  | empty => exact .refl notes _
  | one member nesting =>
      exact Joins.add fun layout next base known =>
        Layout.leads_onwards steady known fun _ _ _ moved => by omega
  | anchor | isSet | searchStart =>
      exact Joins.add fun layout next base known => Layout.stays known
  | again group anyCase least fixed =>
      exact Joins.add fun layout next base known =>
        Layout.leads_onwards steady known fun _ _ _ moved => moved
  | beginHere =>
      rcases admits with ⟨rfl, later⟩
      refine Joins.add fun layout next base known => ?_
      exact ⟨_, Layout.getElem?_of_prefix base later,
        Or.inl ⟨notes_returnNote false, Layout.stays known⟩⟩
  | seq first second ihFirst ihSecond =>
      exact (ihFirst admits.1 steady).trans (ihSecond admits.2 steady)
  | either first second ihFirst ihSecond =>
      exact joins_fork (ihFirst admits.1 steady) (ihSecond admits.2 steady)
  | scope body ih => exact ih admits steady
  | group index body ih => exact joins_group_of_free (ih admits.2 steady) admits.1
  | repeated least most greedy body ih =>
      exact joins_compile_repeated steady (ih admits steady) least most greedy
  | look side wanted body ih =>
      cases side with
      | ahead => exact joins_compileLook wanted id (ih admits steady)
      | behind =>
          have inner : Admits notes true body := admits
          have examine := joins_examineBehind inner.freeGroups
            (ih inner (Spot.steady_ofSide true))
          exact joins_compileLook wanted (fun _ => rfl) examine
  | atomic body ih => exact joins_barrier (ih admits steady)
  | settled body ih => exact joins_settled_of_free (Admits.freeGroups admits)
  | conditional condition yes no ihCondition ihYes ihNo =>
      have present := (joins_cut notes _).trans (ihYes admits.2.1 steady)
      have choice := joins_fork ((ihCondition admits.1 steady).trans present)
        (ihNo admits.2.2 steady)
      exact (joins_enter notes _).trans choice

end Compilation

end Pattern
end FencedHighlight
