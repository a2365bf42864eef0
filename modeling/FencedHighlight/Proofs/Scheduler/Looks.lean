import FencedHighlight.Scheduler.Pass

namespace FencedHighlight
namespace Pass

/-!
What passes see when they look.

A look decides whether a pass goes on, and nothing else.  So the course of a pass is fixed
when it begins: it looks a number of times, at most once for each block and once before
them, and if it has seen no revision but its own by then, it comes to its result or to a
broken span.
-/

variable {pass : Pass} {looks more : Looks} {stop : PassStop}

/-- The blocks of a language in the document of a pass. -/
def blocks (pass : Pass) (language : String) : List CodeBlock :=
  (pass.engine.scanner language).blocks pass.document

/-- Make `count` looks, beginning with the look `first`. -/
def watch (pass : Pass) (looks : Looks) : (first count : Nat) -> Except PassStop Unit
  | _, 0 => .ok ()
  | first, count + 1 =>
      match looks first with
      | none => .error .looking
      | some newest =>
          if newest = pass.revision then
            watch pass looks (first + 1) count
          else
            .error .superseded

theorem watch_add (pass : Pass) (looks : Looks) (first count further : Nat) :
    pass.watch looks first (count + further) =
      (pass.watch looks first count >>= fun _ => pass.watch looks (first + count) further) := by
  induction count generalizing first with
  | zero =>
      rw [Nat.zero_add]
      rfl
  | succ count ih =>
      rw [Nat.succ_add, watch, watch]
      cases looks first with
      | none => rfl
      | some newest =>
          by_cases own : newest = pass.revision
          · simp only [if_pos own, ih, Nat.succ_add, Nat.add_succ]
          · simp only [if_neg own]
            rfl

/-- Looks go well as long as they show the revision of the pass. -/
theorem watch_of_shown {first count : Nat}
    (shown : ∀ look, first ≤ look -> look < first + count -> looks look = some pass.revision) :
    pass.watch looks first count = .ok () := by
  induction count generalizing first with
  | zero => rfl
  | succ count ih =>
      have here := shown first (Nat.le_refl _) (by omega)
      simp only [watch, here, if_true]
      exact ih fun look after before => shown look (by omega) (by omega)

/-- Otherwise the first look that has not been made, or shows another revision, ends
them. -/
theorem exists_look_of_watch {first count : Nat}
    (stops : pass.watch looks first count = .error stop) :
    ∃ look, first ≤ look ∧ look < first + count ∧
      (∀ earlier, first ≤ earlier -> earlier < look -> looks earlier = some pass.revision) ∧
      ((stop = .looking ∧ looks look = none) ∨
        (stop = .superseded ∧ ∃ newest, looks look = some newest ∧ newest ≠ pass.revision)) := by
  induction count generalizing first with
  | zero => cases stops
  | succ count ih =>
      have none : ∀ earlier, first ≤ earlier -> earlier < first ->
          looks earlier = some pass.revision := fun earlier after before => by omega
      cases here : looks first with
      | none =>
          simp only [watch, here] at stops
          cases stops
          exact ⟨first, Nat.le_refl _, by omega, none, Or.inl ⟨rfl, here⟩⟩
      | some newest =>
          simp only [watch, here] at stops
          by_cases own : newest = pass.revision
          · rw [if_pos own] at stops
            rcases ih stops with ⟨look, after, before, earlier, cause⟩
            refine ⟨look, by omega, by omega, ?_, cause⟩
            intro other notBefore sooner
            rcases Nat.eq_or_lt_of_le notBefore with rfl | later
            · rw [here, own]
            · exact earlier other later sooner
          · rw [if_neg own] at stops
            cases stops
            exact ⟨first, Nat.le_refl _, by omega, none, Or.inr ⟨rfl, newest, here, own⟩⟩

/-- Looks that have been made show what they have shown. -/
theorem watch_of_kept (kept : ∀ look newest, looks look = some newest -> more look = some newest)
    {first count : Nat} (made : pass.watch looks first count ≠ .error .looking) :
    pass.watch more first count = pass.watch looks first count := by
  induction count generalizing first with
  | zero => rfl
  | succ count ih =>
      cases here : looks first with
      | none =>
          simp only [watch, here] at made
          exact absurd rfl made
      | some newest =>
          simp only [watch, here, kept first newest here] at made ⊢
          by_cases own : newest = pass.revision
          · rw [if_pos own] at made
            rw [if_pos own, if_pos own]
            exact ih made
          · rw [if_neg own, if_neg own]

/-! ## The course of a pass -/

theorem looks_of_runBlock {record next : PassRecord} {block : CodeBlock}
    {ranges : List StyleRange} (done : pass.runBlock record block = .ok (next, ranges)) :
    next.looks = record.looks := by
  unfold runBlock at done
  cases kept : pass.previous.get? (pass.key block) with
  | some ranges =>
      simp only [kept] at done
      cases done
      rfl
  | none =>
      simp only [kept] at done
      cases fresh : pass.engine.highlightBlock pass.registry pass.document block with
      | error fault =>
          simp only [fresh] at done
          cases done
      | ok ranges =>
          simp only [fresh] at done
          cases done
          rfl

theorem look_eq_watch (pass : Pass) (looks : Looks) (record : PassRecord) :
    pass.look looks record =
      (pass.watch looks record.looks 1).map fun _ => { record with looks := record.looks + 1 } := by
  unfold look watch
  cases looks record.looks with
  | none => rfl
  | some newest =>
      by_cases own : newest = pass.revision
      · simp only [if_pos own]
        rfl
      · simp only [if_neg own]
        rfl

theorem cache_of_look {record next : PassRecord} (shown : pass.look looks record = .ok next) :
    next.cache = record.cache := by
  rw [look_eq_watch] at shown
  cases watched : pass.watch looks record.looks 1 with
  | error stop =>
      rw [watched] at shown
      cases shown
  | ok _ =>
      rw [watched] at shown
      cases shown
      rfl

/-- Looks do not come to broken spans. -/
theorem map_watch_ne_broken {α : Type} {first count : Nat} {value : Unit -> α} :
    (pass.watch looks first count).map value ≠ .error .broken := by
  intro breaks
  cases watched : pass.watch looks first count with
  | ok _ =>
      rw [watched] at breaks
      cases breaks
  | error stop =>
      rw [watched] at breaks
      cases breaks
      rcases exists_look_of_watch watched with ⟨_, _, _, _, ⟨other, _⟩ | ⟨other, _⟩⟩ <;> cases other

theorem look_ne_broken {record : PassRecord} : pass.look looks record ≠ .error .broken := by
  rw [look_eq_watch]
  exact map_watch_ne_broken

/-- There is one look before each block that the pass comes to. -/
theorem runBlocks_eq_watch (pass : Pass) (record : PassRecord) (blocks : List CodeBlock) :
    ∃ count next result, count ≤ blocks.length ∧ next.looks = record.looks + count ∧
      ∀ looks, pass.runBlocks looks record blocks =
        (pass.watch looks record.looks count).map fun _ => (next, result) := by
  induction blocks generalizing record with
  | nil => exact ⟨0, record, .ok [], Nat.le_refl _, rfl, fun looks => rfl⟩
  | cons block rest ih =>
      cases done : pass.runBlock { record with looks := record.looks + 1 } block with
      | error fault =>
          refine ⟨1, { record with looks := record.looks + 1 }, .error fault,
            Nat.succ_le_succ (Nat.zero_le _), rfl, fun looks => ?_⟩
          rw [runBlocks, look_eq_watch]
          cases pass.watch looks record.looks 1 with
          | error stop => rfl
          | ok _ =>
              simp only [Except.map, bind, Except.bind, done]
              rfl
      | ok pair =>
          rcases pair with ⟨after, ranges⟩
          rcases ih after with ⟨count, next, result, few, looked, same⟩
          have once : after.looks = record.looks + 1 := looks_of_runBlock done
          simp only [once] at looked same
          refine ⟨1 + count, next, result.map (ranges ++ ·), ?_, ?_, fun looks => ?_⟩
          · rw [List.length_cons]
            omega
          · rw [looked, Nat.add_assoc]
          · rw [runBlocks, look_eq_watch, watch_add]
            cases pass.watch looks record.looks 1 with
            | error stop => rfl
            | ok _ =>
                simp only [Except.map, bind, Except.bind, done, same]
                cases pass.watch looks (record.looks + 1) count <;> rfl

/-- If the pass ends at some blocks, it has been stopped by a look. -/
theorem runBlocks_ne_broken {record : PassRecord} {blocks : List CodeBlock} :
    pass.runBlocks looks record blocks ≠ .error .broken := by
  rcases pass.runBlocks_eq_watch record blocks with ⟨count, next, result, _, _, same⟩
  rw [same]
  exact map_watch_ne_broken

theorem runLanguages_eq_watch (pass : Pass) (record : PassRecord) (languages : List String) :
    ∃ count outcome, count ≤ (languages.flatMap pass.blocks).length ∧
      (outcome = .error .broken ∨
        ∃ next ranges, outcome = .ok (next, ranges) ∧ next.looks = record.looks + count) ∧
      ∀ looks, pass.runLanguages looks record languages =
        (pass.watch looks record.looks count >>= fun _ => outcome) := by
  induction languages generalizing record with
  | nil =>
      exact ⟨0, .ok (record, []), Nat.le_refl _, Or.inr ⟨record, [], rfl, rfl⟩, fun looks => rfl⟩
  | cons language rest ih =>
      rcases pass.runBlocks_eq_watch record (pass.blocks language) with
        ⟨count, middle, result, few, looked, same⟩
      rw [List.flatMap_cons, List.length_append]
      cases skipped : HighlightError.skip [] result with
      | error fault =>
          refine ⟨count, .error .broken, by omega, Or.inl rfl, fun looks => ?_⟩
          rw [runLanguages]
          change (pass.runBlocks looks record (pass.blocks language) >>= _) = _
          rw [same]
          cases pass.watch looks record.looks count with
          | error stop => rfl
          | ok _ => simp only [Except.map, bind, Except.bind, skipped]
      | ok own =>
          rcases ih middle with ⟨further, outcome, fewToo, cases, sameToo⟩
          refine ⟨count + further, outcome.map fun made => (made.1, own ++ made.2),
            by omega, ?_, fun looks => ?_⟩
          · rcases cases with rfl | ⟨next, ranges, rfl, lookedToo⟩
            · exact Or.inl rfl
            · exact Or.inr ⟨next, own ++ ranges, rfl, by rw [lookedToo, looked, Nat.add_assoc]⟩
          · rw [runLanguages, watch_add, ← looked]
            change (pass.runBlocks looks record (pass.blocks language) >>= _) = _
            rw [same]
            cases pass.watch looks record.looks count with
            | error stop => rfl
            | ok _ =>
                simp only [Except.map, bind, Except.bind, skipped, sameToo]
                cases pass.watch looks middle.looks further with
                | error stop => rfl
                | ok _ => cases outcome <;> rfl

theorem run_eq_watch (pass : Pass) :
    ∃ count outcome, count ≤ (pass.languages.flatMap pass.blocks).length + 1 ∧
      (outcome = .error .broken ∨ ∃ result, outcome = .ok result) ∧
      ∀ looks, pass.run looks = (pass.watch looks 0 count >>= fun _ => outcome) := by
  by_cases enabled : pass.engine.enabled = true
  · rcases pass.runLanguages_eq_watch { looks := 1 } pass.languages with
      ⟨count, outcome, few, cases, same⟩
    refine ⟨1 + count, outcome.map fun made => ⟨StyleRange.sort made.2, made.1⟩,
      by omega, ?_, fun looks => ?_⟩
    · rcases cases with rfl | ⟨next, ranges, rfl, _⟩
      · exact Or.inl rfl
      · exact Or.inr ⟨_, rfl⟩
    · rw [run, look_eq_watch, watch_add]
      simp only [if_pos enabled]
      cases pass.watch looks 0 1 with
      | error stop => rfl
      | ok _ =>
          simp only [Except.map, bind, Except.bind, same]
          cases pass.watch looks 1 count with
          | error stop => rfl
          | ok _ => cases outcome <;> rfl
  · refine ⟨1, .ok ⟨[], { looks := 1 }⟩, Nat.le_add_left _ _, Or.inr ⟨_, rfl⟩, fun looks => ?_⟩
    rw [run, look_eq_watch]
    simp only [if_neg enabled]
    cases pass.watch looks 0 1 <;> rfl

/-! ## Consequences -/

/-- A pass that is about to look has not come to all its blocks. -/
theorem exists_look_of_looking (looking : pass.run looks = .error .looking) :
    ∃ look, look ≤ (pass.languages.flatMap pass.blocks).length ∧ looks look = none := by
  rcases pass.run_eq_watch with ⟨count, outcome, few, cases, same⟩
  rw [same] at looking
  cases watched : pass.watch looks 0 count with
  | ok _ =>
      rw [watched] at looking
      rcases cases with rfl | ⟨result, rfl⟩ <;> cases looking
  | error stop =>
      rw [watched] at looking
      cases looking
      rcases exists_look_of_watch watched with ⟨look, _, before, _, ⟨_, missing⟩ | ⟨other, _⟩⟩
      · exact ⟨look, by omega, missing⟩
      · cases other

/-- A pass that gives up has seen another revision than its own. -/
theorem exists_look_of_superseded (superseded : pass.run looks = .error .superseded) :
    ∃ look newest, looks look = some newest ∧ newest ≠ pass.revision := by
  rcases pass.run_eq_watch with ⟨count, outcome, few, cases, same⟩
  rw [same] at superseded
  cases watched : pass.watch looks 0 count with
  | ok _ =>
      rw [watched] at superseded
      rcases cases with rfl | ⟨result, rfl⟩ <;> cases superseded
  | error stop =>
      rw [watched] at superseded
      cases superseded
      rcases exists_look_of_watch watched with ⟨look, _, _, _, ⟨other, _⟩ | ⟨_, newest, seen⟩⟩
      · cases other
      · exact ⟨look, newest, seen⟩

/-- A pass that never sees another revision comes to its result or to a broken span. -/
theorem run_of_shown (shown : ∀ look, looks look = some pass.revision) :
    pass.run looks = .error .broken ∨ ∃ result, pass.run looks = .ok result := by
  rcases pass.run_eq_watch with ⟨count, outcome, few, cases, same⟩
  rw [same, watch_of_shown fun look _ _ => shown look]
  exact cases

/-- What a pass has come to does not depend on looks that it has not made. -/
theorem run_of_kept (kept : ∀ look newest, looks look = some newest -> more look = some newest)
    (ends : pass.run looks ≠ .error .looking) : pass.run more = pass.run looks := by
  rcases pass.run_eq_watch with ⟨count, outcome, _, _, same⟩
  have made : pass.watch looks 0 count ≠ .error .looking := by
    intro looking
    rw [same, looking] at ends
    exact ends rfl
  rw [same, same, watch_of_kept kept made]

end Pass
end FencedHighlight
