import FencedHighlight.Proofs.Delimiters.Rounds
import FencedHighlight.Proofs.Pattern.Span
import Mathlib.Data.Finset.Prod
import Mathlib.Order.Interval.Finset.Nat

namespace FencedHighlight

/-!
How many steps the search for a region takes.

A delimiter may begin before the offset from which it is searched for, so a scan may come
back to where it has been.  If it sees the same there, and as many regions are open, it goes
on as before and never ends.  In a scan that ends, the rounds that see the same are
therefore less and less deep.  Each depth that is reached for the first time shows a new
sight, so that no scan is deeper than there are sights, and the number of its rounds is at
most the square of theirs.  The limit on the steps of a scan is this number.  A search for a
region has no memory, and comes to no offset twice if it ends.
-/

variable {text : Text}

namespace Finder

/-- Whether what a search reports ends within a text. -/
def EndsWithin (text : Text) (finder : Finder) : Prop :=
  ∀ offset span, finder offset = some span -> span.stop ≤ Text.size text

/-- All answers of the searches that begin within a text. -/
def answers (text : Text) (finder : Finder) : Finset (Option Span) :=
  (Finset.range (Text.size text + 1)).image finder

variable {finder : Finder} {offset : Nat} {remembered : Option Span}

theorem mem_answers (inside : offset ≤ Text.size text) : finder offset ∈ finder.answers text :=
  Finset.mem_image_of_mem finder (Finset.mem_range.mpr (Nat.lt_succ_of_le inside))

theorem card_answers_le : (finder.answers text).card ≤ Text.size text + 1 :=
  Finset.card_image_le.trans (Finset.card_range _).le

theorem EndsWithin.of_mem_answers (within : finder.EndsWithin text) {span : Span}
    (answer : some span ∈ finder.answers text) : span.stop ≤ Text.size text := by
  rcases Finset.mem_image.mp answer with ⟨offset, _, found⟩
  exact within offset span found

theorem refresh_cases (finder : Finder) (offset : Nat) (remembered : Option Span) :
    finder.refresh offset remembered = finder offset ∨
      finder.refresh offset remembered = remembered := by
  cases remembered with
  | none => exact Or.inr rfl
  | some span =>
      rw [refresh]
      split
      · exact Or.inl rfl
      · exact Or.inr rfl

theorem refresh_mem_answers (inside : offset ≤ Text.size text)
    (answer : remembered ∈ finder.answers text) :
    finder.refresh offset remembered ∈ finder.answers text := by
  rcases finder.refresh_cases offset remembered with same | same
  · rw [same]
    exact mem_answers inside
  · rw [same]
    exact answer

/-- An answer needs no refreshing at the offset it was given for. -/
theorem refresh_self (finder : Finder) (offset : Nat) :
    finder.refresh offset (finder offset) = finder offset := by
  rcases finder.refresh_cases offset (finder offset) with same | same <;> exact same

end Finder

theorem Pattern.endsWithin (pattern : Pattern) :
    Finder.EndsWithin text fun offset => pattern.find? text offset :=
  fun _ _ found => Text.le_size_of_isBoundary (Pattern.span_of_find? found).2.1

namespace Balance

variable {look : Look} {round : Round} {rounds : List Round} {result : Option Nat}

/-! ## Rounds that see the same -/

/-- Where a round stands and what it sees.  Apart from the depth, nothing else decides how
the scan goes on. -/
def Round.view (round : Round) : Nat × Option Span × Option Span :=
  (round.offset, round.sight.opening, round.sight.closing)

theorem Round.view_eq_iff {first second : Round} :
    first.view = second.view ↔ first.offset = second.offset ∧ first.sight = second.sight := by
  rcases first with ⟨_, offset, ⟨opening, closing⟩⟩
  rcases second with ⟨_, place, ⟨opens, closes⟩⟩
  simp only [view, Prod.mk.injEq, Sight.mk.injEq]

theorem Rounds.length_pos (run : Rounds text look round rounds result) : 0 < rounds.length := by
  cases run with
  | lost | balanced | next => exact Nat.succ_pos _

/-- The verdict decides where a scan goes on, so of two rounds with the same verdict the
deeper one goes on deeper. -/
theorem Follows.depth_le_depth {first second next after : Round}
    (follows : Follows text look first next) (onwards : Follows text look second after)
    (sees : second.verdict text = first.verdict text) (deeper : first.depth ≤ second.depth) :
    next.depth ≤ after.depth := by
  cases follows with
  | deeper verdict =>
      cases onwards with
      | deeper opens => exact Nat.succ_le_succ deeper
      | shallower other | skip other => cases (sees.symm.trans other).symm.trans verdict
  | shallower verdict more =>
      cases onwards with
      | shallower closes more => exact Nat.sub_le_sub_right deeper 1
      | deeper other | skip other => cases (sees.symm.trans other).symm.trans verdict
  | skip verdict =>
      cases onwards with
      | skip skips => exact deeper
      | deeper other | shallower other => cases (sees.symm.trans other).symm.trans verdict

/-- No two rounds follow the same one. -/
theorem Follows.unique {next after : Round} (follows : Follows text look round next)
    (onwards : Follows text look round after) : next = after := by
  have goes := later?_of_follows follows
  have moves := later?_of_follows onwards
  have offsets : next.offset = after.offset := Option.some.inj (goes.1.symm.trans moves.1)
  have depths : next.depth = after.depth :=
    (follows.depth_le_depth onwards rfl (Nat.le_refl _)).antisymm
      (onwards.depth_le_depth follows rfl (Nat.le_refl _))
  calc
    next = round.move look next.depth next.offset := goes.2
    _ = round.move look after.depth after.offset := by rw [depths, offsets]
    _ = after := moves.2.symm

/-- If a round goes on, so does one with the same verdict that is no less deep. -/
theorem Rounds.exists_next {first second next : Round} {others : List Round}
    {outcome : Option Nat} (run : Rounds text look second others outcome)
    (follows : Follows text look first next) (sees : second.verdict text = first.verdict text)
    (deeper : first.depth ≤ second.depth) :
    ∃ after rest, others = second :: rest ∧ Follows text look second after ∧
      Rounds text look after rest outcome := by
  cases run with
  | lost lost =>
      have goes := later?_of_follows follows
      rw [← sees, lost] at goes
      cases goes.1
  | balanced closes last =>
      rw [sees] at closes
      cases follows with
      | deeper verdict | skip verdict => cases closes.symm.trans verdict
      | shallower verdict more => omega
  | @next _ after rest _ onwards run => exact ⟨after, rest, rfl, onwards, run⟩

/-- A round that is no less deep than another one which goes on, and sees the same, goes on
to a round that is related in the same way to the one after the other. -/
theorem Rounds.goesOn {first second next : Round} {others : List Round} {outcome : Option Nat}
    (run : Rounds text look second others outcome) (follows : Follows text look first next)
    (same : second.view = first.view) (deeper : first.depth ≤ second.depth) :
    ∃ after rest, others = second :: rest ∧ Rounds text look after rest outcome ∧
      after.view = next.view ∧ next.depth ≤ after.depth := by
  have sight := (Round.view_eq_iff.mp same).2
  have sees : second.verdict text = first.verdict text := by
    rw [Round.verdict, sight, Round.verdict]
  rcases run.exists_next follows sees deeper with ⟨after, rest, rfl, onwards, run⟩
  have goes := later?_of_follows follows
  have moves := later?_of_follows onwards
  have offsets : after.offset = next.offset :=
    Option.some.inj (moves.1.symm.trans ((congrArg Verdict.later? sees).trans goes.1))
  refine ⟨after, rest, rfl, run, Round.view_eq_iff.mpr ⟨offsets, ?_⟩,
    follows.depth_le_depth onwards sees deeper⟩
  rw [moves.2, goes.2, Round.move, Round.move, sight, offsets]

/-- Scans from the same round go through the same rounds and find the same. -/
theorem Rounds.unique {others : List Round} {outcome : Option Nat}
    (run : Rounds text look round rounds result)
    (other : Rounds text look round others outcome) : rounds = others ∧ result = outcome := by
  induction run generalizing others with
  | lost lost =>
      cases other with
      | lost => exact ⟨rfl, rfl⟩
      | balanced closes => cases lost.symm.trans closes
      | next follows =>
          have goes := (later?_of_follows follows).1
          rw [lost] at goes
          cases goes
  | balanced closes last =>
      cases other with
      | lost lost => cases closes.symm.trans lost
      | balanced again =>
          cases closes.symm.trans again
          exact ⟨rfl, rfl⟩
      | next follows =>
          rcases (Rounds.balanced closes last).exists_next follows rfl (Nat.le_refl _) with
            ⟨_, _, same, _, run⟩
          cases same
          cases run
  | next follows rest ih =>
      rcases other.exists_next follows rfl (Nat.le_refl _) with ⟨after, others, rfl, onwards, run⟩
      rcases follows.unique onwards with rfl
      rcases ih run with ⟨same, found⟩
      exact ⟨congrArg _ same, found⟩

/-- The deeper a scan is, the longer it takes. -/
theorem Rounds.length_le_of_depth_le {first second : Round} {others : List Round}
    {outcome : Option Nat} (run : Rounds text look first rounds result)
    (other : Rounds text look second others outcome) (same : second.view = first.view)
    (deeper : first.depth ≤ second.depth) : rounds.length ≤ others.length := by
  induction run generalizing second others with
  | lost lost | balanced closes last => exact other.length_pos
  | next follows rest ih =>
      rcases other.goesOn follows same deeper with ⟨after, others, rfl, run, sees, below⟩
      exact Nat.succ_le_succ (ih run sees below)

/-- From each of its rounds on, a scan is a scan. -/
theorem Rounds.exists_of_mem (run : Rounds text look round rounds result) :
    ∀ each ∈ rounds, ∃ rest, Rounds text look each rest result ∧ rest.length ≤ rounds.length := by
  induction run with
  | lost lost =>
      rintro each member
      rcases List.mem_singleton.mp member with rfl
      exact ⟨_, .lost lost, Nat.le_refl _⟩
  | balanced closes last =>
      rintro each member
      rcases List.mem_singleton.mp member with rfl
      exact ⟨_, .balanced closes last, Nat.le_refl _⟩
  | next follows rest ih =>
      rintro each member
      rcases List.mem_cons.mp member with rfl | later
      · exact ⟨_, .next follows rest, Nat.le_refl _⟩
      · rcases ih each later with ⟨others, run, short⟩
        exact ⟨others, run, Nat.le_succ_of_le short⟩

/-- A round that sees what an earlier one saw is less deep. -/
theorem Rounds.pairwise_depth (run : Rounds text look round rounds result) :
    rounds.Pairwise fun earlier later =>
      later.view = earlier.view -> later.depth < earlier.depth := by
  induction run with
  | lost lost | balanced closes last => exact List.pairwise_singleton _ _
  | next follows rest ih =>
      refine List.pairwise_cons.mpr ⟨fun later member same => ?_, ih⟩
      rcases rest.exists_of_mem later member with ⟨others, run, short⟩
      by_contra deeper
      have longer := (Rounds.next follows rest).length_le_of_depth_le run same
        (Nat.le_of_not_lt deeper)
      rw [List.length_cons] at longer
      omega

/-! ## The number of rounds -/

/-- Whether some views account for a depth, so that only new views are deeper. -/
structure Accounts (passed : Finset (Nat × Option Span × Option Span)) (depth : Nat)
    (rounds : List Round) : Prop where
  depth_le_card : depth ≤ passed.card
  lower : ∀ each ∈ rounds, each.view ∈ passed -> each.depth ≤ depth

/-- A round that is at most one deeper than accounted for is accounted for by its view. -/
theorem Accounts.exists_next {passed : Finset (Nat × Option Span × Option Span)} {depth : Nat}
    (accounts : Accounts passed depth (round :: rounds)) (near : round.depth ≤ depth + 1)
    (falls : ∀ later ∈ rounds, later.view = round.view -> later.depth < round.depth) :
    ∃ views ⊆ insert round.view passed, ∃ top, round.depth ≤ top ∧ Accounts views top rounds := by
  by_cases below : round.depth ≤ depth
  · exact ⟨passed, Finset.subset_insert _ _, depth, below, accounts.depth_le_card,
      fun each member => accounts.lower each (List.mem_cons_of_mem _ member)⟩
  · have top : round.depth = depth + 1 := by omega
    have new : round.view ∉ passed := fun old =>
      below (accounts.lower round List.mem_cons_self old)
    refine ⟨_, Finset.Subset.refl _, depth + 1, near, ?_, ?_⟩
    · rw [Finset.card_insert_of_notMem new]
      exact Nat.succ_le_succ accounts.depth_le_card
    · intro each member seen
      rcases Finset.mem_insert.mp seen with same | old
      · have lower := falls each member same
        omega
      · exact Nat.le_succ_of_le (accounts.lower each (List.mem_cons_of_mem _ member) old)

theorem Follows.depth_le {next : Round} (follows : Follows text look round next) :
    next.depth ≤ round.depth + 1 := by
  cases follows with
  | deeper opens => exact Nat.le_refl _
  | shallower closes more =>
      simp only [Round.move]
      omega
  | skip skips => exact Nat.le_succ _

/-- No round of a scan is deeper than there are views. -/
theorem Rounds.depth_le_card {views passed : Finset (Nat × Option Span × Option Span)}
    {depth : Nat} (run : Rounds text look round rounds result)
    (seen : ∀ each ∈ rounds, each.view ∈ views) (known : passed ⊆ views)
    (accounts : Accounts passed depth rounds) (near : round.depth ≤ depth + 1) :
    ∀ each ∈ rounds, each.depth ≤ views.card := by
  have falls := run.pairwise_depth
  -- along the scan the views passed account for the greatest depth so far
  induction run generalizing passed depth with
  | lost lost | balanced closes last =>
      rintro each member
      rcases List.mem_singleton.mp member with rfl
      rcases accounts.exists_next near (List.pairwise_cons.mp falls).1 with
        ⟨more, within, top, reached, further⟩
      have all := within.trans (Finset.insert_subset (seen each List.mem_cons_self) known)
      exact reached.trans (further.depth_le_card.trans (Finset.card_le_card all))
  | @next round next rounds result follows rest ih =>
      rcases List.pairwise_cons.mp falls with ⟨first, falls⟩
      rcases accounts.exists_next near first with ⟨more, within, top, reached, further⟩
      have all := within.trans (Finset.insert_subset (seen round List.mem_cons_self) known)
      rintro each member
      rcases List.mem_cons.mp member with rfl | later
      · exact reached.trans (further.depth_le_card.trans (Finset.card_le_card all))
      · exact ih (fun each member => seen each (List.mem_cons_of_mem _ member)) all further
          (follows.depth_le.trans (Nat.succ_le_succ reached)) falls each later

/-- A scan that ends has at most as many rounds as there are views and depths. -/
theorem Rounds.length_le_card_mul {views : Finset (Nat × Option Span × Option Span)}
    (run : Rounds text look round rounds result) (seen : ∀ each ∈ rounds, each.view ∈ views)
    (first : round.depth = 1) : rounds.length ≤ views.card * views.card := by
  have accounts : Accounts ∅ 0 rounds :=
    ⟨Nat.zero_le _, fun _ _ absent => absurd absent (Finset.notMem_empty _)⟩
  have deepest := run.depth_le_card seen (Finset.empty_subset views) accounts first.le
  have inside := run.depth_pos first.ge
  have distinct : (rounds.map fun each => (each.view, each.depth)).Nodup := by
    refine List.pairwise_map.mpr (run.pairwise_depth.imp fun {earlier later} falls same => ?_)
    have lower := falls (congrArg Prod.fst same).symm
    exact lower.ne (congrArg Prod.snd same).symm
  have known : (rounds.map fun each => (each.view, each.depth)).toFinset ⊆
      views ×ˢ Finset.Icc 1 views.card := by
    intro pair member
    rcases List.mem_map.mp (List.mem_toFinset.mp member) with ⟨each, among, rfl⟩
    exact Finset.mem_product.mpr
      ⟨seen each among, Finset.mem_Icc.mpr ⟨inside each among, deepest each among⟩⟩
  calc
    rounds.length = (rounds.map fun each => (each.view, each.depth)).toFinset.card := by
      rw [List.toFinset_card_of_nodup distinct, List.length_map]
    _ ≤ (views ×ˢ Finset.Icc 1 views.card).card := Finset.card_le_card known
    _ = views.card * views.card := by
      rw [Finset.card_product, Nat.card_Icc, Nat.add_sub_cancel]

/-! ## The limit of a scan -/

variable {opener closer : Finder} {offset : Nat}

/-- What the rounds of a scan may see. -/
def views (text : Text) (opener closer : Finder) : Finset (Nat × Option Span × Option Span) :=
  Finset.range (Text.size text + 1) ×ˢ (opener.answers text ×ˢ closer.answers text)

theorem mem_views_iff :
    round.view ∈ views text opener closer ↔ round.offset ≤ Text.size text ∧
      round.sight.opening ∈ opener.answers text ∧ round.sight.closing ∈ closer.answers text := by
  rw [views, Finset.mem_product, Finset.mem_product, Finset.mem_range, Nat.lt_succ_iff, Round.view]

theorem card_views_mul_le (text : Text) (opener closer : Finder) :
    (views text opener closer).card * (views text opener closer).card ≤ stepLimit text := by
  have cube : (views text opener closer).card ≤ (Text.size text + 1) ^ 3 := by
    rw [views, Finset.card_product, Finset.card_product, Finset.card_range, Nat.pow_succ,
      Nat.pow_two, Nat.mul_assoc]
    exact Nat.mul_le_mul_left _ (Nat.mul_le_mul Finder.card_answers_le Finder.card_answers_le)
  calc
    _ ≤ (Text.size text + 1) ^ 3 * (Text.size text + 1) ^ 3 := Nat.mul_le_mul cube cube
    _ = stepLimit text := (Nat.pow_add _ 3 3).symm

/-- Where a round goes on lies within the text, as what it sees does. -/
theorem later_le_size (opens : opener.EndsWithin text) (closes : closer.EndsWithin text)
    (seen : round.view ∈ views text opener closer) {later : Nat}
    (goes : (round.verdict text).later? = some later) : later ≤ Text.size text := by
  have parts := mem_views_iff.mp seen
  cases verdict : round.verdict text with
  | lost =>
      rw [verdict] at goes
      cases goes
  | opens opening =>
      rw [verdict] at goes
      rcases Option.some.inj goes with rfl
      cases (verdict_eq_iff).mp verdict with
      | opens sees deeper =>
          have first := (deepens_eq_some_iff).mp deeper
          exact opens.of_mem_answers (first.1 ▸ parts.2.1)
  | closes closing =>
      rw [verdict] at goes
      rcases Option.some.inj goes with rfl
      cases (verdict_eq_iff).mp verdict with
      | closes sees flat extent => exact closes.of_mem_answers (sees ▸ parts.2.2)
  | skips place =>
      rw [verdict] at goes
      rcases Option.some.inj goes with rfl
      cases (verdict_eq_iff).mp verdict with
      | skips sees flat empty inside =>
          exact Text.nextBoundary_le (Text.isBoundary_size text) inside

/-- The rounds of a scan that remembers see answers of searches within the text. -/
theorem Rounds.view_mem_views (opens : opener.EndsWithin text) (closes : closer.EndsWithin text)
    (run : Rounds text (remembering opener closer) round rounds result)
    (first : round.view ∈ views text opener closer) :
    ∀ each ∈ rounds, each.view ∈ views text opener closer := by
  refine run.forall_mem (fun round next seen follows => ?_) first
  have goes := later?_of_follows follows
  have inside := later_le_size opens closes seen goes.1
  have parts := mem_views_iff.mp seen
  rw [mem_views_iff]
  refine ⟨inside, ?_⟩
  rw [goes.2]
  exact ⟨Finder.refresh_mem_answers inside parts.2.1, Finder.refresh_mem_answers inside parts.2.2⟩

/-- If a scan without a limit comes to an end, so does the one with the limit, and finds the
same. -/
theorem close?_of_remembering (opens : opener.EndsWithin text) (closes : closer.EndsWithin text)
    (inside : offset ≤ Text.size text)
    (run : Rounds text (remembering opener closer) (firstRound opener closer offset) rounds
      result) :
    close? text opener closer offset = result := by
  have first : (firstRound opener closer offset).view ∈ views text opener closer :=
    mem_views_iff.mpr ⟨inside, Finder.mem_answers inside, Finder.mem_answers inside⟩
  have short := run.length_le_card_mul (run.view_mem_views opens closes first) rfl
  refine closeFrom_of_rounds run ⟨opener offset, closer offset⟩ rfl ?_
    (short.trans (card_views_mul_le text opener closer))
  rw [remembering, firstRound, opener.refresh_self, closer.refresh_self]

/-- Whatever the limit, a closing that is found ends a scan without a limit. -/
theorem exists_rounds_of_closeFrom {steps depth stop : Nat} (seen : Sight)
    (inside : round.depth = depth + 1)
    (sees : round.sight = remembering opener closer round.offset seen)
    (found : closeFrom text opener closer steps depth round.offset seen.opening seen.closing =
      some stop) :
    ∃ rounds, Rounds text (remembering opener closer) round rounds (some stop) := by
  induction steps generalizing round depth seen with
  | zero => cases found
  | succ steps ih =>
      have onwards {next : Round} (follows : Follows text (remembering opener closer) round next)
          {level : Nat} (deep : next.depth = level + 1)
          (found : closeFrom text opener closer steps level next.offset round.sight.opening
            round.sight.closing = some stop) :
          ∃ rounds, Rounds text (remembering opener closer) round rounds (some stop) := by
        have looks : next.sight = remembering opener closer next.offset round.sight := by
          rw [(later?_of_follows follows).2, Round.move]
        rcases ih round.sight deep looks found with ⟨rounds, run⟩
        exact ⟨_, .next follows run⟩
      have resumed := (closeFrom_succ sees).symm.trans found
      cases verdict : round.verdict text with
      | lost =>
          rw [verdict] at resumed
          cases resumed
      | opens opening =>
          rw [verdict] at resumed
          exact onwards (.deeper verdict) (congrArg (· + 1) inside) resumed
      | skips later =>
          rw [verdict] at resumed
          exact onwards (.skip verdict) inside resumed
      | closes closing =>
          rw [verdict] at resumed
          cases depth with
          | zero =>
              rcases Option.some.inj resumed with rfl
              exact ⟨_, .balanced verdict (by rw [inside])⟩
          | succ depth =>
              have level : round.depth - 1 = depth + 1 := by rw [inside, Nat.add_sub_cancel]
              exact onwards (.shallower verdict (by omega)) level resumed

/-- The closing that balances a region is the one to which a scan without a limit comes.  None
is found if the scan comes to none, and if it never ends. -/
theorem close?_eq_some_iff_rounds (opens : opener.EndsWithin text)
    (closes : closer.EndsWithin text) (inside : offset ≤ Text.size text) {stop : Nat} :
    close? text opener closer offset = some stop ↔
      ∃ rounds, Rounds text (remembering opener closer) (firstRound opener closer offset) rounds
        (some stop) := by
  constructor
  · intro found
    refine exists_rounds_of_closeFrom ⟨opener offset, closer offset⟩ rfl ?_ found
    rw [remembering, firstRound, opener.refresh_self, closer.refresh_self]
  · rintro ⟨rounds, run⟩
    exact close?_of_remembering opens closes inside run

/-! ## The limit of the search for a region -/

/-- What an opening comes to: the end of its region, or none if it is empty or the scan for
the end comes to none. -/
inductive Balances (text : Text) (deeper closer : Finder) (opening : Span) :
    Option Nat -> Prop where
  | empty (empty : ¬ opening.start < opening.stop) : Balances text deeper closer opening none
  | scanned {rounds : List Round} {result : Option Nat} (filled : opening.start < opening.stop)
      (run : Rounds text (remembering deeper closer) (firstRound deeper closer opening.stop) rounds
        result) :
      Balances text deeper closer opening result

/-- A search for a region without a limit, told by the offsets within the text to which it
comes. -/
inductive Tries (text : Text) (opener deeper closer : Finder) :
    Nat -> List Nat -> Option (Nat × Nat × Nat) -> Prop where
  | beyond {offset : Nat} (beyond : Text.size text < offset) :
      Tries text opener deeper closer offset [] none
  | missing {offset : Nat} (inside : offset ≤ Text.size text) (missing : opener offset = none) :
      Tries text opener deeper closer offset [offset] none
  | found {offset stop : Nat} {opening : Span} (inside : offset ≤ Text.size text)
      (opens : opener offset = some opening)
      (balances : Balances text deeper closer opening (some stop)) :
      Tries text opener deeper closer offset [offset] (some (opening.start, opening.stop, stop))
  | again {offset : Nat} {opening : Span} {places : List Nat} {result : Option (Nat × Nat × Nat)}
      (inside : offset ≤ Text.size text) (opens : opener offset = some opening)
      (balances : Balances text deeper closer opening none)
      (rest : Tries text opener deeper closer (Text.nextBoundary text opening.start) places
        result) :
      Tries text opener deeper closer offset (offset :: places) result

variable {deeper : Finder} {places : List Nat} {region : Option (Nat × Nat × Nat)}

theorem Balances.unique {opening : Span} {other : Option Nat}
    (balances : Balances text deeper closer opening result)
    (again : Balances text deeper closer opening other) : result = other := by
  cases balances with
  | empty empty =>
      cases again with
      | empty => rfl
      | scanned filled => exact absurd filled empty
  | scanned filled run =>
      cases again with
      | empty empty => exact absurd filled empty
      | scanned _ other => exact (run.unique other).2

theorem Tries.mem_le_size (run : Tries text opener deeper closer offset places region) :
    ∀ place ∈ places, place ≤ Text.size text := by
  induction run with
  | beyond beyond => exact fun _ absent => absurd absent List.not_mem_nil
  | missing inside | found inside =>
      exact fun _ member => (List.mem_singleton.mp member).trans_le inside
  | again inside opens balances rest ih => exact List.forall_mem_cons.mpr ⟨inside, ih⟩

/-- From each offset to which it comes, a search is a search. -/
theorem Tries.exists_of_mem (run : Tries text opener deeper closer offset places region) :
    ∀ place ∈ places, ∃ rest, Tries text opener deeper closer place rest region ∧
      rest.length ≤ places.length := by
  induction run with
  | beyond beyond => exact fun _ absent => absurd absent List.not_mem_nil
  | missing inside missing =>
      rintro place member
      rcases List.mem_singleton.mp member with rfl
      exact ⟨_, .missing inside missing, Nat.le_refl _⟩
  | found inside opens balances =>
      rintro place member
      rcases List.mem_singleton.mp member with rfl
      exact ⟨_, .found inside opens balances, Nat.le_refl _⟩
  | again inside opens balances rest ih =>
      rintro place member
      rcases List.mem_cons.mp member with rfl | later
      · exact ⟨_, .again inside opens balances rest, Nat.le_refl _⟩
      · rcases ih place later with ⟨others, run, short⟩
        exact ⟨others, run, Nat.le_succ_of_le short⟩

/-- Searches from the same offset come to the same offsets. -/
theorem Tries.unique {others : List Nat} {outcome : Option (Nat × Nat × Nat)}
    (run : Tries text opener deeper closer offset places region)
    (other : Tries text opener deeper closer offset others outcome) : places = others := by
  induction run generalizing others with
  | beyond beyond =>
      cases other with
      | beyond => rfl
      | missing inside | found inside | again inside => omega
  | missing inside missing =>
      cases other with
      | beyond beyond => omega
      | missing => rfl
      | found _ found | again _ found => cases missing.symm.trans found
  | found inside found balances =>
      cases other with
      | beyond beyond => omega
      | missing _ missing => cases found.symm.trans missing
      | found => rfl
      | again _ same unbalanced =>
          rcases Option.some.inj (found.symm.trans same) with rfl
          cases balances.unique unbalanced
  | again inside found unbalanced rest ih =>
      cases other with
      | beyond beyond => omega
      | missing _ missing => cases found.symm.trans missing
      | found _ same balances =>
          rcases Option.some.inj (found.symm.trans same) with rfl
          cases balances.unique unbalanced
      | again _ same _ run =>
          rcases Option.some.inj (found.symm.trans same) with rfl
          exact congrArg _ (ih run)

/-- A search that ends comes to no offset twice. -/
theorem Tries.nodup (run : Tries text opener deeper closer offset places region) :
    places.Nodup := by
  induction run with
  | beyond beyond => exact List.nodup_nil
  | missing inside | found inside => exact List.nodup_singleton _
  | again inside found unbalanced rest ih =>
      refine List.nodup_cons.mpr ⟨fun back => ?_, ih⟩
      rcases rest.exists_of_mem _ back with ⟨others, run, short⟩
      have same := (Tries.again inside found unbalanced rest).unique run
      rw [← same, List.length_cons] at short
      omega

theorem Tries.length_le (run : Tries text opener deeper closer offset places region) :
    places.length ≤ Text.size text + 1 := by
  have known : places ⊆ List.range (Text.size text + 1) := fun place member =>
    List.mem_range.mpr (Nat.lt_succ_of_le (run.mem_le_size place member))
  exact (List.subperm_of_subset run.nodup known).length_le.trans_eq List.length_range

theorem Balances.region?_eq {opening : Span} (balances : Balances text deeper closer opening result)
    (deepens : deeper.EndsWithin text) (closes : closer.EndsWithin text)
    (inside : opening.stop ≤ Text.size text) :
    (if opening.start < opening.stop then close? text deeper closer opening.stop else none) =
      result := by
  cases balances with
  | empty empty => exact if_neg empty
  | scanned filled run =>
      exact (if_pos filled).trans (close?_of_remembering deepens closes inside run)

theorem regionFrom_of_tries (opens : opener.EndsWithin text) (deepens : deeper.EndsWithin text)
    (closes : closer.EndsWithin text) {steps : Nat}
    (run : Tries text opener deeper closer offset places region) (enough : places.length < steps) :
    regionFrom text opener deeper closer steps offset = region := by
  induction run generalizing steps with
  | beyond beyond =>
      obtain ⟨steps, rfl⟩ := Nat.exists_eq_add_of_lt enough
      rw [regionFrom, if_pos beyond]
  | missing inside missing =>
      obtain ⟨steps, rfl⟩ := Nat.exists_eq_add_of_lt enough
      rw [regionFrom, if_neg (Nat.not_lt_of_le inside), missing]
      rfl
  | found inside found balances =>
      obtain ⟨steps, rfl⟩ := Nat.exists_eq_add_of_lt enough
      simp only [regionFrom, if_neg (Nat.not_lt_of_le inside), found, Option.bind_eq_bind,
        Option.bind_some, balances.region?_eq deepens closes (opens _ _ found)]
      rfl
  | again inside found unbalanced rest ih =>
      obtain ⟨steps, rfl⟩ := Nat.exists_eq_succ_of_ne_zero (Nat.ne_zero_of_lt enough)
      simp only [regionFrom, if_neg (Nat.not_lt_of_le inside), found, Option.bind_eq_bind,
        Option.bind_some, unbalanced.region?_eq deepens closes (opens _ _ found)]
      exact ih (Nat.lt_of_succ_lt_succ enough)

end Balance

/-- If a search for a region without a limit comes to an end, the search with the limit comes to
the same. -/
theorem Delimiters.region?_of_tries {delimiters : Delimiters} {offset : Nat} {places : List Nat}
    {region : Option (Nat × Nat × Nat)}
    (run : Balance.Tries text (fun offset => delimiters.opening.find? text offset)
      (fun offset => (delimiters.nested.getD delimiters.opening).find? text offset)
      (fun offset => delimiters.closing.find? text offset) offset places region) :
    delimiters.region? text offset = region :=
  Balance.regionFrom_of_tries (Pattern.endsWithin _) (Pattern.endsWithin _) (Pattern.endsWithin _)
    run (Nat.lt_succ_of_le run.length_le)

end FencedHighlight
