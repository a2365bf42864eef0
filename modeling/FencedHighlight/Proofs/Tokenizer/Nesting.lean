import FencedHighlight.Proofs.Text.Boundary
import FencedHighlight.Proofs.Tokenizer.Coverage
import Mathlib.Data.Finset.Prod
import Mathlib.Data.Set.Card
import Mathlib.Order.Interval.Finset.Nat

namespace FencedHighlight
namespace Tokenizer

/-!
How the frames of a run nest.

The text of a frame is the content that the frame around it has passed last, so
it ends at the cursor of that frame.  This tells where in the whole text each
frame lies, and since each lies within the one around it, frames of equal size
lie in the same place.  That is why a comparison of sizes is enough to keep a
grammar from being applied to the same stretch again.  A stack of frames that
differ in grammar or size cannot grow beyond the number of such pairs.
-/

variable {scope : Scope} {root : GrammarId} {whole : Text}

namespace Frame

/-- What no two frames of a run have in common. -/
def key (frame : Frame) : GrammarId × Nat :=
  (frame.grammar, Text.size frame.text)

end Frame

namespace State

def frames (state : State) : List Frame :=
  state.top :: state.below

theorem isRepeat_iff {state : State} {grammar : GrammarId} {size : Nat} :
    state.isRepeat grammar size = true ↔ (grammar, size) ∈ state.frames.map Frame.key := by
  simp only [isRepeat, frames, List.any_eq_true, List.mem_map, Frame.key, Prod.mk.injEq,
    Bool.and_eq_true, beq_iff_eq]
  exact exists_congr fun frame => and_congr_right fun _ => And.comm

end State

/-- Where a text begins in the whole text, given the frames around it. -/
def origin : (text : Text) -> (below : List Frame) -> Nat
  | _, [] => 0
  | text, parent :: below => origin parent.text below + (parent.cursor - Text.size text)

/-- Which part of the whole text a text is, given the frames around it. -/
def stretch (text : Text) (below : List Frame) : Span :=
  ⟨origin text below, origin text below + Text.size text⟩

/-- Frames, the innermost first, with the parts of the whole text that they
cover. -/
def placed : List Frame -> List (Frame × Span)
  | [] => []
  | frame :: below => (frame, stretch frame.text below) :: placed below

/-- Whether a part of a text lies within another one. -/
def Within (inner outer : Span) : Prop :=
  outer.start ≤ inner.start ∧ inner.stop ≤ outer.stop

theorem Within.trans {first second third : Span} (inner : Within first second)
    (outer : Within second third) : Within first third :=
  ⟨Nat.le_trans outer.1 inner.1, Nat.le_trans inner.2 outer.2⟩

/-- Of two parts of equal size, one within the other, both are the same. -/
theorem Within.eq_of_length {inner outer : Span} (within : Within inner outer)
    (ordered : inner.start ≤ inner.stop) (sizes : inner.length = outer.length) :
    inner = outer := by
  rcases inner with ⟨start, stop⟩
  rcases outer with ⟨start', stop'⟩
  simp only [Within, Span.length] at within ordered sizes
  rw [Span.mk.injEq]
  omega

theorem stretch_length (text : Text) (below : List Frame) :
    (stretch text below).length = Text.size text := by
  simp [stretch, Span.length]

theorem map_fst_placed (frames : List Frame) : (placed frames).map Prod.fst = frames := by
  induction frames with
  | nil => rfl
  | cons frame below ih => simp only [placed, List.map_cons, ih]

/-- The key of a frame tells its grammar and how far it extends. -/
theorem map_key_eq (frames : List Frame) :
    frames.map Frame.key =
      (placed frames).map fun place => (place.1.grammar, place.2.length) := by
  induction frames with
  | nil => rfl
  | cons frame below ih => simp only [List.map_cons, placed, stretch_length, ih, Frame.key]

/-! ## Waiting frames -/

/-- What has been taken off the innermost of some frames is the part of the
whole text between the offsets of the match. -/
theorem stretch_inside {parent : Frame} {below : List Frame} {found : RuleMatch}
    {content : Text} (slice : Text.slice? parent.text found.contentStart found.stop = some content)
    (passed : parent.cursor = found.stop) :
    stretch content (parent :: below) =
      ⟨origin parent.text below + found.contentStart, origin parent.text below + found.stop⟩ := by
  have extent := Text.size_of_slice? slice
  rw [stretch, origin, passed, Span.mk.injEq]
  omega

/-- A part of an inner text is a part of the whole text. -/
theorem slice?_inside {text content : Text} {base limit start stop : Nat}
    (outer : Text.slice? whole base limit = some text)
    (inner : Text.slice? text start stop = some content) :
    Text.slice? whole (base + start) (base + stop) = some content := by
  have extent := Text.size_of_slice? outer
  have within := Text.le_size_of_slice? inner
  have ordered := Text.size_of_slice? inner
  rw [Text.slice?_of_slice? outer (Nat.le_add_right _ _) (Nat.le_add_right _ _) (by omega),
    Nat.add_sub_cancel_left, Nat.add_sub_cancel_left, inner]

namespace Waiting

variable {grammar : GrammarId} {text : Text} {label : Option Label} {below : List Frame}

/-- The text of a frame is the part of the whole text that the frames around it
tell. -/
theorem slice (waiting : Waiting scope root whole grammar text label below) :
    Text.slice? whole (stretch text below).start (stretch text below).stop = some text := by
  induction waiting with
  | outermost =>
      simp only [stretch, origin, Nat.zero_add]
      exact Text.slice?_whole whole
  | @inside grammar content parent below candidate tiling matched resolved passed outer ih =>
      rw [stretch_inside matched.slice passed]
      exact slice?_inside ih matched.slice

/-- The texts of all frames around a frame are such parts. -/
theorem slice_placed (waiting : Waiting scope root whole grammar text label below) :
    ∀ place ∈ placed below,
      Text.slice? whole place.2.start place.2.stop = some place.1.text := by
  induction waiting with
  | outermost =>
      intro place member
      cases member
  | @inside grammar content parent below candidate tiling matched resolved passed outer ih =>
      intro place member
      rcases List.mem_cons.mp member with same | farther
      · rw [same]
        exact outer.slice
      · exact ih place farther

/-- A frame lies within every frame around it. -/
theorem within (waiting : Waiting scope root whole grammar text label below) :
    ∀ place ∈ placed below, Within (stretch text below) place.2 := by
  induction waiting with
  | outermost =>
      intro place member
      cases member
  | @inside grammar content parent below candidate tiling matched resolved passed outer ih =>
      have fits := Text.le_size_of_slice? matched.slice
      have direct : Within (stretch content (parent :: below)) (stretch parent.text below) := by
        rw [stretch_inside matched.slice passed]
        simp only [Within, stretch]
        omega
      intro place member
      rcases List.mem_cons.mp member with same | farther
      · rw [same]
        exact direct
      · exact direct.trans (ih place farther)

theorem pairwise_placed (waiting : Waiting scope root whole grammar text label below) :
    (placed below).Pairwise fun inner outer => Within inner.2 outer.2 := by
  induction waiting with
  | outermost => exact List.Pairwise.nil
  | @inside grammar content parent below candidate tiling matched resolved passed outer ih =>
      exact List.pairwise_cons.mpr ⟨outer.within, ih⟩

end Waiting

/-! ## Grammars -/

/-- The grammars that a grammar leads to, itself included. -/
inductive Reachable (scope : Scope) (root : GrammarId) : GrammarId -> Prop where
  | root : Reachable scope root root
  | inside {outer inner : GrammarId} {name : String} {rule : Rule}
      (reachable : Reachable scope root outer)
      (listed : (name, rule) ∈ (scope.store.get outer).rules)
      (resolved : scope.inner? rule = .ok (some inner)) : Reachable scope root inner

/-- Only kept grammars have rules. -/
theorem lt_size_of_mem_rules {store : GrammarStore} {grammar : GrammarId}
    {entry : String × Rule} (listed : entry ∈ (store.get grammar).rules) :
    grammar < store.grammars.size := by
  by_contra outside
  have missing : store.get grammar = Grammar.empty := by
    rw [GrammarStore.get, Array.getElem?_eq_none (Nat.le_of_not_lt outside)]
    rfl
  rw [missing] at listed
  cases listed

/-- The grammars that the rules of a store lead to directly. -/
def innerGrammars (scope : Scope) : List GrammarId :=
  (List.range scope.store.grammars.size).flatMap fun grammar =>
    (scope.store.get grammar).rules.filterMap fun entry =>
      match scope.inner? entry.2 with
      | .ok inner => inner
      | .error _ => none

/-- A grammar leads to finitely many others. -/
theorem finite_reachable (scope : Scope) (root : GrammarId) :
    {grammar | Reachable scope root grammar}.Finite := by
  apply Set.Finite.subset (List.finite_toSet (root :: innerGrammars scope))
  intro grammar reachable
  cases reachable with
  | root => exact List.mem_cons_self
  | @inside outer inner name rule reachable listed resolved =>
      apply List.mem_cons_of_mem
      refine List.mem_flatMap.mpr
        ⟨outer, List.mem_range.mpr (lt_size_of_mem_rules listed), ?_⟩
      exact List.mem_filterMap.mpr ⟨(name, rule), listed, by simp only [resolved]⟩

theorem Matched.listed {grammar : GrammarId} {text content : Text} {candidate : Candidate}
    (matched : Matched scope grammar text candidate content) :
    (candidate.name, candidate.rule) ∈ (scope.store.get grammar).rules := by
  rcases matched.chosen with ⟨cursor, _, chosen⟩
  exact (found_of_next? chosen).1

namespace Waiting

variable {grammar : GrammarId} {text : Text} {label : Option Label} {below : List Frame}

theorem reachable (waiting : Waiting scope root whole grammar text label below) :
    Reachable scope root grammar := by
  induction waiting with
  | outermost => exact .root
  | inside tiling matched resolved passed outer ih => exact ih.inside matched.listed resolved

/-- The frames around a frame have grammars that the root grammar leads to and
that are kept, and each covers some text. -/
theorem of_mem_below (waiting : Waiting scope root whole grammar text label below) :
    ∀ frame ∈ below, Reachable scope root frame.grammar ∧
      frame.grammar < scope.store.grammars.size ∧ 0 < Text.size frame.text := by
  induction waiting with
  | outermost =>
      intro frame member
      cases member
  | @inside grammar content parent below candidate tiling matched resolved passed outer ih =>
      intro frame member
      rcases List.mem_cons.mp member with same | farther
      · rw [same]
        have fits := Text.le_size_of_slice? matched.slice
        have extent := Text.size_of_slice? matched.slice
        have some := (Text.size_pos_iff content).mpr matched.nonempty
        exact ⟨outer.reachable, lt_size_of_mem_rules matched.listed, by omega⟩
      · exact ih frame farther

end Waiting

/-- Frames that differ in grammar or size are no more than there are pairs. -/
theorem length_le_of_distinct {frames : List Frame} (grammars : Finset GrammarId)
    (bound : Nat) (distinct : (frames.map Frame.key).Nodup)
    (inside : ∀ frame ∈ frames, frame.grammar ∈ grammars ∧ 0 < Text.size frame.text ∧
      Text.size frame.text ≤ bound) : frames.length ≤ grammars.card * bound := by
  have covered : (frames.map Frame.key).toFinset ⊆ grammars ×ˢ Finset.Icc 1 bound := by
    intro pair member
    rcases List.mem_map.mp (List.mem_toFinset.mp member) with ⟨frame, listed, rfl⟩
    rcases inside frame listed with ⟨known, filled, fits⟩
    exact Finset.mem_product.mpr ⟨known, Finset.mem_Icc.mpr ⟨filled, fits⟩⟩
  calc frames.length = (frames.map Frame.key).toFinset.card := by
        rw [List.toFinset_card_of_nodup distinct, List.length_map]
    _ ≤ (grammars ×ˢ Finset.Icc 1 bound).card := Finset.card_le_card covered
    _ = grammars.card * bound := by
        rw [Finset.card_product, Nat.card_Icc, Nat.add_sub_cancel]

/-! ## Runs -/

/-- A state whose frames tile their texts and differ from each other. -/
structure State.Nested (scope : Scope) (root : GrammarId) (whole : Text) (state : State) :
    Prop extends State.Tiled scope root whole state where
  distinct : (state.frames.map Frame.key).Nodup

/-- The state in which a run begins. -/
def State.start (root : GrammarId) (whole : Text) : State :=
  ⟨{ grammar := root, text := whole }, []⟩

theorem nested_start (scope : Scope) (root : GrammarId) (whole : Text) :
    (State.start root whole).Nested scope root whole :=
  { tiling := .start root whole
    waiting := .outermost
    distinct := List.nodup_singleton _ }

/-- To go on after a frame has been closed, there has to be one around it. -/
theorem close_eq_running {state next : State} (closed : close state = .running next) :
    ∃ parent below token, state.below = parent :: below ∧ next = ⟨parent.push token, below⟩ := by
  unfold close at closed
  split at closed
  · rename_i label parent below labelled around
    exact ⟨parent, below, _, around, (Step.running.inj closed).symm⟩
  · cases closed

/-- The ways in which a run goes on: the innermost frame has been closed, has got
a leaf, or has been left for a new one. -/
theorem keys_of_move {state next : State} (move : Move scope state (.running next)) :
    next.frames.map Frame.key = state.below.map Frame.key ∨
      next.frames.map Frame.key = state.frames.map Frame.key ∨
      ∃ key, key ∉ state.frames.map Frame.key ∧
        next.frames.map Frame.key = key :: state.frames.map Frame.key := by
  have popped : ∀ {top : Frame}, close { state with top } = .running next ->
      next.frames.map Frame.key = state.below.map Frame.key := by
    intro top closed
    rcases close_eq_running closed with ⟨parent, below, token, around, rfl⟩
    rw [show state.below = parent :: below from around]
    rfl
  generalize result : Step.running next = step at move
  cases move with
  | finish exhausted => exact Or.inl (popped result.symm)
  | finishPlain rest unfinished unmatched left => exact Or.inl (popped result.symm)
  | leaf candidate before content taken plain =>
      rw [Step.running.inj result]
      exact Or.inr (Or.inl rfl)
  | descend candidate before content grammar taken resolved fresh =>
      rw [Step.running.inj result]
      refine Or.inr (Or.inr ⟨(grammar, Text.size content), ?_, rfl⟩)
      intro repeated
      rw [State.isRepeat_iff.mpr repeated] at fresh
      cases fresh

theorem nested_of_move {state next : State} (nested : state.Nested scope root whole)
    (move : Move scope state (.running next)) : next.Nested scope root whole := by
  refine ⟨tiled_of_move nested.toTiled move, ?_⟩
  rcases keys_of_move move with popped | kept | ⟨key, fresh, pushed⟩
  · rw [popped]
    exact (List.nodup_cons.mp nested.distinct).2
  · rw [kept]
    exact nested.distinct
  · rw [pushed]
    exact List.nodup_cons.mpr ⟨fresh, nested.distinct⟩

namespace State.Nested

variable {state : State}

theorem slice_placed (nested : state.Nested scope root whole) :
    ∀ place ∈ placed state.frames,
      Text.slice? whole place.2.start place.2.stop = some place.1.text := by
  intro place member
  rcases List.mem_cons.mp member with same | farther
  · rw [same]
    exact nested.waiting.slice
  · exact nested.waiting.slice_placed place farther

/-- No frame is wider than the whole text. -/
theorem size_le (nested : state.Nested scope root whole) :
    ∀ frame ∈ state.frames, Text.size frame.text ≤ Text.size whole := by
  intro frame member
  rw [← map_fst_placed state.frames] at member
  rcases List.mem_map.mp member with ⟨place, located, rfl⟩
  have slice := nested.slice_placed place located
  have extent := Text.size_of_slice? slice
  have fits := Text.le_size_of_slice? slice
  omega

/-- Every frame lies within those around it. -/
theorem pairwise_placed (nested : state.Nested scope root whole) :
    (placed state.frames).Pairwise fun inner outer => Within inner.2 outer.2 :=
  List.pairwise_cons.mpr ⟨nested.waiting.within, nested.waiting.pairwise_placed⟩

/-- No two frames apply one grammar to the same part of the text. -/
theorem pairwise_distinct (nested : state.Nested scope root whole) :
    (placed state.frames).Pairwise fun inner outer =>
      ¬ (inner.1.grammar = outer.1.grammar ∧ inner.2 = outer.2) := by
  have distinct := nested.distinct
  rw [map_key_eq] at distinct
  refine (List.pairwise_map.mp distinct).imp ?_
  rintro inner outer different ⟨grammars, spans⟩
  exact different (by rw [grammars, spans])

/-- A grammar is refused for a content exactly if some frame applies it to that
very part of the text. -/
theorem isRepeat_iff (nested : state.Nested scope root whole) {candidate : Candidate}
    {before content : Text} (taken : Taken scope state.top candidate before content)
    (grammar : GrammarId) :
    state.isRepeat grammar (Text.size content) = true ↔
      ∃ place ∈ placed state.frames, place.1.grammar = grammar ∧
        place.2 = ⟨origin state.top.text state.below + candidate.found.contentStart,
          origin state.top.text state.below + candidate.found.stop⟩ := by
  have extent := Text.size_of_slice? taken.inside
  have fits := Text.le_size_of_slice? taken.inside
  rw [State.isRepeat_iff, map_key_eq, List.mem_map]
  refine exists_congr fun place => and_congr_right fun member => ?_
  rw [Prod.mk.injEq]
  refine and_congr_right fun _ => ?_
  constructor
  · intro sizes
    have own : Within ⟨origin state.top.text state.below + candidate.found.contentStart,
        origin state.top.text state.below + candidate.found.stop⟩
        (stretch state.top.text state.below) := by
      simp only [Within, stretch]
      omega
    have within : Within ⟨origin state.top.text state.below + candidate.found.contentStart,
        origin state.top.text state.below + candidate.found.stop⟩ place.2 := by
      rcases List.mem_cons.mp member with same | farther
      · rw [same]
        exact own
      · exact own.trans (nested.waiting.within place farther)
    refine (within.eq_of_length ?_ ?_).symm
    · simp only
      omega
    · rw [sizes, Span.length]
      simp only
      omega
  · intro same
    rw [same, Span.length]
    simp only
    omega

/-- The frames around the innermost one are limited by the kept grammars. -/
theorem length_below_le (nested : state.Nested scope root whole) :
    state.below.length ≤ scope.store.grammars.size * Text.size whole := by
  have limited := length_le_of_distinct (Finset.range scope.store.grammars.size)
    (Text.size whole) (List.nodup_cons.mp nested.distinct).2
  rw [Finset.card_range] at limited
  apply limited
  intro frame member
  rcases nested.waiting.of_mem_below frame member with ⟨_, kept, filled⟩
  exact ⟨Finset.mem_range.mpr kept, filled,
    nested.size_le frame (List.mem_cons_of_mem _ member)⟩

end State.Nested

end Tokenizer
end FencedHighlight
