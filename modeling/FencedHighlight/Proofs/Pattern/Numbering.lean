import FencedHighlight.Error
import FencedHighlight.Pattern.Reader

namespace FencedHighlight
namespace Pattern
namespace Reader

/-!
The numbers of groups.

Reading a pattern gives every capturing group the next number when it opens.  Trees
are only ever moved between pieces, alternatives and levels after that, so in the
tree of a pattern no number occurs twice, and all numbers are those of the groups
that have been counted.
-/

open HighlightError (ok_of_bind)

/-- How often a tree has a group of some number. -/
def tallyTree (index : Nat) (tree : Tree) : Nat :=
  tree.groups.count index

def tallyTrees (index : Nat) : List Tree -> Nat
  | [] => 0
  | tree :: trees => tallyTree index tree + tallyTrees index trees

/-- How often a group of some number occurs in what an open group has become so
far. -/
def tallyKind (index : Nat) : GroupKind -> Nat
  | .capture own => if own = index then 1 else 0
  | .cases condition => tallyTree index condition
  | .whole | .scope _ | .look _ _ | .atomic | .condition => 0

def tallyLevel (index : Nat) (level : Level) : Nat :=
  tallyKind index level.kind + tallyTrees index level.branches + tallyTrees index level.pieces

def tallyLevels (index : Nat) : List Level -> Nat
  | [] => 0
  | level :: levels => tallyLevel index level + tallyLevels index levels

/-- How often a group of some number has been read. -/
def State.tally (index : Nat) (state : State) : Nat :=
  tallyLevel index state.level + tallyLevels index state.outer

/-- Whether every number occurs at most once, and only those of the groups that have
been opened. -/
def State.Numbered (state : State) : Prop :=
  ∀ index, state.tally index ≤ if 1 ≤ index ∧ index ≤ state.groups then 1 else 0

/-- Whether two states have the same groups. -/
structure State.Alike (before after : State) : Prop where
  tally : ∀ index, after.tally index = before.tally index
  groups : after.groups = before.groups

namespace State

variable {state middle after : State}

theorem Alike.refl (state : State) : Alike state state :=
  ⟨fun _ => rfl, rfl⟩

theorem Alike.trans (first : Alike state middle) (second : Alike middle after) :
    Alike state after :=
  ⟨fun index => (second.tally index).trans (first.tally index),
    second.groups.trans first.groups⟩

theorem Numbered.of_alike (numbered : state.Numbered) (alike : Alike state after) :
    after.Numbered := by
  intro index
  rw [alike.tally, alike.groups]
  exact numbered index

end State

/-! ## Trees -/

theorem tallyTrees_append (index : Nat) (first second : List Tree) :
    tallyTrees index (first ++ second) = tallyTrees index first + tallyTrees index second := by
  induction first with
  | nil => exact (Nat.zero_add _).symm
  | cons tree first ih => simp only [List.cons_append, tallyTrees, ih, Nat.add_assoc]

theorem tallyTrees_reverse (index : Nat) (trees : List Tree) :
    tallyTrees index trees.reverse = tallyTrees index trees := by
  induction trees with
  | nil => rfl
  | cons tree trees ih =>
      simp only [List.reverse_cons, tallyTrees_append, ih, tallyTrees]
      omega

theorem tallyTree_group (index own : Nat) (body : Tree) :
    tallyTree index (.group own body) = (if own = index then 1 else 0) + tallyTree index body := by
  simp only [tallyTree, Tree.groups, List.count_cons, beq_iff_eq]
  exact Nat.add_comm _ _

theorem tallyTree_sequence (index : Nat) (trees : List Tree) :
    tallyTree index (Tree.sequence trees) = tallyTrees index trees := by
  fun_induction Tree.sequence trees with
  | case1 => rfl
  | case2 tree => rfl
  | case3 tree rest _ ih =>
      rw [tallyTrees, ← ih]
      exact List.count_append

theorem tallyTree_choice (index : Nat) (trees : List Tree) :
    tallyTree index (Tree.choice trees) = tallyTrees index trees := by
  fun_induction Tree.choice trees with
  | case1 => rfl
  | case2 tree => rfl
  | case3 tree rest _ ih =>
      rw [tallyTrees, ← ih]
      exact List.count_append

theorem tallyTree_bare (index : Nat) (tree : Tree) :
    tallyTree index tree.bare = tallyTree index tree := by
  fun_induction Tree.bare tree with
  | case1 body ih => exact ih
  | case2 => rfl

theorem tallyTree_enclosed (index : Nat) (tree : Tree) :
    tallyTree index tree.enclosed = tallyTree index tree := by
  cases tree <;> rfl

theorem tallyTree_caseTree (index : Nat) (condition body : Tree) :
    tallyTree index (caseTree condition body) =
      tallyTree index condition + tallyTree index body := by
  fun_cases caseTree condition body with
  | case1 => rfl
  | case2 => rfl
  | case3 yes no =>
      simp only [tallyTree, Tree.groups, List.count_append, Nat.add_assoc]
  | case4 =>
      simp only [tallyTree, Tree.groups, List.count_append, List.count_nil, Nat.add_zero]

/-! ## States -/

/-- Repetition signs leave the groups of a piece alone. -/
theorem tallyTree_of_readRepetition {flags : Flags} {piece tree : Tree}
    {chars rest : List Char} (result : readRepetition flags piece chars = .ok (tree, rest))
    (index : Nat) : tallyTree index tree = tallyTree index piece := by
  rcases ok_of_bind result with ⟨after, _, result⟩
  extract_lets bounds at result
  clear_value bounds
  rcases bounds with _ | ⟨least, most, left⟩
  · cases result
    rfl
  · simp only at result
    split at result
    · cases result
    · rcases ok_of_bind result with ⟨left, _, result⟩
      split at result <;> cases result <;> rfl

namespace State

variable {state after : State}

theorem tally_push (state : State) (piece : Tree) (index : Nat) :
    (state.push piece).tally index = state.tally index + tallyTree index piece := by
  have pushed : tallyLevel index { state.level with pieces := piece :: state.level.pieces } =
      tallyLevel index state.level + tallyTree index piece := by
    simp only [tallyLevel, tallyTrees]
    omega
  unfold push
  split
  · rfl
  · simp only [tally, pushed]
    omega

theorem groups_push (state : State) (piece : Tree) : (state.push piece).groups = state.groups := by
  unfold push
  split <;> rfl

/-- A piece without groups changes nothing. -/
theorem alike_push (state : State) {piece : Tree} (plain : piece.groups = []) :
    Alike state (state.push piece) := by
  refine ⟨fun index => ?_, groups_push state piece⟩
  rw [tally_push, tallyTree, plain, List.count_nil, Nat.add_zero]

theorem tally_of_attach {piece : Tree} {chars rest : List Char}
    (result : state.attach piece chars = .ok (after, rest)) (index : Nat) :
    after.tally index = state.tally index + tallyTree index piece := by
  rcases ok_of_bind result with ⟨⟨tree, left⟩, repeated, same⟩
  cases same
  rw [tally_push, tallyTree_of_readRepetition repeated]

theorem groups_of_attach {piece : Tree} {chars rest : List Char}
    (result : state.attach piece chars = .ok (after, rest)) : after.groups = state.groups := by
  rcases ok_of_bind result with ⟨⟨tree, left⟩, _, same⟩
  cases same
  exact groups_push state tree

theorem alike_of_attach {piece : Tree} {chars rest : List Char} (plain : piece.groups = [])
    (result : state.attach piece chars = .ok (after, rest)) : Alike state after := by
  refine ⟨fun index => ?_, groups_of_attach result⟩
  rw [tally_of_attach result, tallyTree, plain, List.count_nil, Nat.add_zero]

theorem tally_descend (state : State) (kind : GroupKind) (index : Nat) :
    (state.descend kind).tally index = state.tally index + tallyKind index kind := by
  simp only [descend, tally, tallyLevel, tallyLevels, tallyTrees]
  omega

theorem alike_descend (state : State) {kind : GroupKind}
    (plain : ∀ index, tallyKind index kind = 0) : Alike state (state.descend kind) := by
  refine ⟨fun index => ?_, rfl⟩
  rw [tally_descend, plain, Nat.add_zero]

theorem alike_branch (state : State) : Alike state state.branch := by
  refine ⟨fun index => ?_, rfl⟩
  simp only [branch, tally, tallyLevel, tallyTrees, tallyTree_sequence, tallyTrees_reverse]
  omega

/-- The tree of the innermost group has the groups of its pieces and alternatives. -/
theorem tally_of_content {tree : Tree} (result : state.content = .ok tree) (index : Nat) :
    tallyKind index state.level.kind + tallyTree index tree = tallyLevel index state.level := by
  unfold content at result
  split at result
  · cases result
  · cases result
    simp only [branch, tallyTree_choice, tallyTrees_reverse, tallyTrees, tallyTree_sequence,
      tallyLevel]
    omega

theorem groups_reference (state : State) (group : Nat) : (state.reference group).groups = [] := by
  unfold reference
  split <;> rfl

theorem alike_of_referByName {closing : Char} {relative : Bool} {chars rest : List Char}
    (result : state.referByName closing relative chars = .ok (after, rest)) :
    Alike state after := by
  rcases ok_of_bind result with ⟨⟨group, left⟩, _, attached⟩
  exact (show Alike state (state.note group) from ⟨fun _ => rfl, rfl⟩).trans
    (alike_of_attach (groups_reference state group) attached)

/-- A group that opens gets a number that no other group has. -/
theorem numbered_capture (numbered : state.Numbered) (name : Option (List Char)) :
    (state.capture name).Numbered := by
  intro index
  have before := numbered index
  have opened : (state.capture name).tally index =
      state.tally index + (if state.groups + 1 = index then 1 else 0) := tally_descend _ _ index
  have counted : (state.capture name).groups = state.groups + 1 := rfl
  rw [opened, counted]
  split <;> split at before <;> split <;> omega

/-- The cases of a choice keep its condition. -/
theorem tally_of_beginCases {condition : Tree} {chars rest : List Char}
    (result : state.beginCases condition chars = .ok (after, rest)) (index : Nat) :
    after.tally index = state.tally index + tallyTree index condition ∧
      after.groups = state.groups := by
  unfold beginCases at result
  split at result
  · rcases ok_of_bind result with ⟨_, _, attached⟩
    exact ⟨tally_of_attach attached index, groups_of_attach attached⟩
  · cases result
  · cases result
    exact ⟨tally_descend state (.cases condition) index, rfl⟩

theorem alike_of_readCondition {chars rest : List Char}
    (result : state.readCondition chars = .ok (after, rest)) : Alike state after := by
  unfold readCondition at result
  extract_lets isSet at result
  have named : ∀ closing chars, isSet closing chars = .ok (after, rest) -> Alike state after := by
    intro closing chars result
    rcases ok_of_bind result with ⟨⟨group, left⟩, _, result⟩
    rcases ok_of_bind result with ⟨next, _, result⟩
    split at result
    · have begun := tally_of_beginCases result
      exact ⟨fun index => (begun index).1, (begun 0).2⟩
    · cases result
  split at result
  · exact named _ _ result
  · exact named _ _ result
  · split at result
    · exact named _ _ result
    · cases result
      exact alike_descend state fun _ => rfl
  · cases result

end State

theorem alike_of_readFlags {state after : State} {before : Flags} {size steps : Nat} {set : Bool}
    {chars rest : List Char}
    (result : readFlags state before size steps set chars = .ok (after, rest)) :
    State.Alike state after := by
  induction steps generalizing state set chars with
  | zero => cases result
  | succ steps ih =>
      have further : ∀ flags left,
          readFlags { state with flags } before size steps set left = .ok (after, rest) ->
            State.Alike state after :=
        fun flags left result => (show State.Alike state { state with flags } from
          ⟨fun _ => rfl, rfl⟩).trans (ih result)
      rw [readFlags] at result
      rcases ok_of_bind result with ⟨chars, _, result⟩
      extract_lets hyphenOnly at result
      split at result
      · cases result
      · exact further _ _ result
      · exact further _ _ result
      · exact further _ _ result
      · exact further _ _ result
      · exact further _ _ result
      · split at result
        · exact further _ _ result
        · cases result
      · split at result
        · exact ih result
        · cases result
      · split at result
        · cases result
        · exact State.alike_of_attach rfl result
      · split at result
        · cases result
        · cases result
          exact State.alike_descend state fun _ => rfl
      · cases result

/-- The start of a group opens a capturing group at most. -/
theorem alike_or_capture_of_readGroupStart {state after : State} {chars rest : List Char}
    (result : readGroupStart state chars = .ok (after, rest)) :
    State.Alike state after ∨ ∃ name, after = state.capture name := by
  unfold readGroupStart at result
  split at result
  · cases result
  · rcases ok_of_bind result with ⟨chars, _, result⟩
    split at result
    · cases result
      exact Or.inl (State.alike_descend state fun _ => rfl)
    · cases result
      exact Or.inl (State.alike_descend state fun _ => rfl)
    · cases result
      exact Or.inl (State.alike_descend state fun _ => rfl)
    · cases result
      exact Or.inl (State.alike_descend state fun _ => rfl)
    · split at result
      · cases result
        exact Or.inr ⟨_, rfl⟩
      · cases result
    · split at result
      · cases result
        exact Or.inr ⟨_, rfl⟩
      · cases result
    · split at result
      · cases result
        exact Or.inr ⟨_, rfl⟩
      · cases result
    · exact Or.inl (State.alike_of_referByName result)
    · cases result
      exact Or.inl (State.alike_descend state fun _ => rfl)
    · exact Or.inl (State.alike_of_readCondition result)
    · cases result
    · cases result
    · exact Or.inl (alike_of_readFlags result)
    · cases result
      exact Or.inr ⟨none, rfl⟩

/-- What closes becomes a piece of the group around it. -/
theorem alike_of_readGroupEnd {state after : State} {chars rest : List Char}
    (result : readGroupEnd state chars = .ok (after, rest)) : State.Alike state after := by
  unfold readGroupEnd at result
  split at result
  · cases result
  · rename_i parent outer nested
    rcases ok_of_bind result with ⟨body, content, result⟩
    have inside := State.tally_of_content content
    extract_lets around at result
    have whole : ∀ index, state.tally index = around.tally index + tallyLevel index state.level := by
      intro index
      simp only [State.tally, nested, tallyLevels, around]
      omega
    have closes : ∀ (before : State) (piece : Tree),
        (∀ index, before.tally index = around.tally index) -> before.groups = state.groups ->
        (∀ index, tallyTree index piece =
          tallyKind index state.level.kind + tallyTree index body) ->
        before.attach piece chars = .ok (after, rest) -> State.Alike state after := by
      intro before piece same counted joined attached
      refine ⟨fun index => ?_, (State.groups_of_attach attached).trans counted⟩
      rw [State.tally_of_attach attached, same, joined, inside, whole]
    split at result
    · cases result
    · rename_i index kind
      extract_lets closed at result
      refine closes { around with closed } _ (fun _ => rfl) rfl (fun own => ?_) result
      rw [kind]
      exact tallyTree_group own index body
    · rename_i flags kind
      refine closes { around with flags } _ (fun _ => rfl) rfl (fun own => ?_) result
      rw [kind, tallyTree_enclosed]
      exact (Nat.zero_add _).symm
    · rename_i side wanted kind
      refine closes _ _ (fun _ => rfl) rfl (fun own => ?_) result
      rw [kind, ← tallyTree_bare own body]
      exact (Nat.zero_add _).symm
    · rename_i kind
      refine closes _ _ (fun _ => rfl) rfl (fun own => ?_) result
      rw [kind]
      exact (Nat.zero_add _).symm
    · rename_i kind
      refine ⟨fun index => ?_, (State.tally_of_beginCases result 0).2⟩
      rw [(State.tally_of_beginCases result index).1, tallyTree_enclosed, whole, ← inside, kind,
        show tallyKind index .condition = 0 from rfl, Nat.zero_add]
    · rename_i condition kind
      refine closes _ _ (fun _ => rfl) rfl (fun own => ?_) result
      rw [kind, tallyTree_caseTree, tallyTree_bare]
      rfl

/-- No escape stands for a tree with groups. -/
theorem groups_of_readEscape {flags : Flags} {tree : Tree} {chars rest : List Char}
    (result : readEscape flags false chars = .ok (.tree tree, rest)) : tree.groups = [] := by
  unfold readEscape at result
  extract_lets members anchor codePoint at result
  have coded : ∀ digits left, codePoint digits left ≠ .ok (.tree tree, rest) := by
    intro digits left result
    simp only [codePoint] at result
    cases value : readCodePoint flags digits left with
    | error fault =>
        rw [value] at result
        cases result
    | ok code =>
        rw [value] at result
        cases result
  split at result
  -- Most escapes stand for a character or a class, and all others for a single piece.
  all_goals
    first
      | exact absurd result (coded _ _)
      | rcases ok_of_bind result with ⟨_, _, same⟩
        cases same <;> rfl
      | cases result <;> rfl
      | split at result
        · split at result <;> cases result
        · split at result <;> cases result

theorem alike_of_readPiece {size : Nat} {state after : State} {chars rest : List Char}
    (result : readPiece size state chars = .ok (after, rest)) : State.Alike state after := by
  unfold readPiece at result
  extract_lets flags at result
  split at result
  · cases result
    exact State.Alike.refl state
  · cases result
  · cases result
  · cases result
  · exact State.alike_of_attach (by split <;> rfl) result
  · exact State.alike_of_attach rfl result
  · exact State.alike_of_attach rfl result
  · rcases ok_of_bind result with ⟨⟨part, left, stop⟩, _, result⟩
    simp only at result
    split at result
    · exact State.alike_of_attach rfl result
    · split at result
      · cases result
        exact (State.alike_descend state fun _ => rfl).trans (State.alike_push _ rfl)
      · cases result
        exact State.alike_push state rfl
  · rcases ok_of_bind result with ⟨⟨stands, left⟩, escape, result⟩
    simp only at result
    split at result
    · exact State.alike_of_attach rfl result
    · exact State.alike_of_attach rfl result
    · exact State.alike_of_attach rfl result
    · exact State.alike_of_attach (groups_of_readEscape escape) result
    · exact State.alike_of_attach rfl result
    · rename_i group
      split at result
      · exact (show State.Alike state { state.note group with numbered := true } from
          ⟨fun _ => rfl, rfl⟩).trans (State.alike_of_attach (State.groups_reference _ group) result)
      · cases result
    · exact State.alike_of_referByName result
  · exact State.alike_of_attach rfl result

/-- Reading on keeps the numbers apart. -/
theorem numbered_of_readAll {size steps : Nat} {state after : State} {chars : List Char}
    (numbered : state.Numbered) (result : readAll size steps state chars = .ok after) :
    after.Numbered := by
  induction steps generalizing state chars with
  | zero => cases result
  | succ steps ih =>
      rw [readAll] at result
      rcases ok_of_bind result with ⟨chars, _, result⟩
      split at result
      · cases result
        exact numbered
      · exact ih (numbered.of_alike state.alike_branch) result
      · rcases ok_of_bind result with ⟨⟨next, left⟩, opened, result⟩
        rcases alike_or_capture_of_readGroupStart opened with alike | ⟨name, rfl⟩
        · exact ih (numbered.of_alike alike) result
        · exact ih (State.numbered_capture numbered name) result
      · rcases ok_of_bind result with ⟨⟨next, left⟩, closed, result⟩
        exact ih (numbered.of_alike (alike_of_readGroupEnd closed)) result
      · rcases ok_of_bind result with ⟨⟨next, left⟩, piece, result⟩
        exact ih (numbered.of_alike (alike_of_readPiece piece)) result

/-- In the tree of a pattern no number occurs twice, and only those of its groups
occur. -/
theorem count_groups_of_read {text : List Char} {reading : Reading}
    (result : read text = .ok reading) (index : Nat) :
    reading.tree.groups.count index ≤ if 1 ≤ index ∧ index ≤ reading.groups then 1 else 0 := by
  rcases ok_of_bind result with ⟨state, readAll, result⟩
  have blank : State.Numbered {} := fun index => Nat.zero_le _
  have numbered := numbered_of_readAll blank readAll index
  split at result
  · cases result
  · rename_i whole
    rcases ok_of_bind result with ⟨tree, content, result⟩
    have inside := State.tally_of_content content index
    split at result
    · cases result
    · cases result
      have level : tallyLevel index state.level ≤ state.tally index := Nat.le_add_right _ _
      have bare : tree.bare.groups.count index = tallyTree index tree := tallyTree_bare index tree
      rw [bare]
      simp only
      omega

end Reader
end Pattern
end FencedHighlight
