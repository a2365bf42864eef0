import FencedHighlight.Proofs.Scheduler.Run

namespace FencedHighlight

/-!
Results that come in any order.

A result that is taken over makes stale all results up to its revision.  So of the
results that are handed to a scheduler only one counts in the end, the one for the
greatest revision, if it is not stale from the beginning.  It does not matter which of
the others come before it, which come after it, and which come again.
-/

/-- What a pass has reported. -/
structure Report where
  revision : Nat
  ranges : List StyleRange
  cache : BlockCache

def Report.message (report : Report) : Message :=
  .passCompleted report.revision report.ranges report.cache

namespace Scheduler

variable {scheduler : Scheduler} {report : Report} {reports others : List Report}
  {outcome : Scheduler × Bool}

/-- Whether the result of a pass is taken over when it comes in. -/
def Accepts (scheduler : Scheduler) (report : Report) : Prop :=
  scheduler.revision ≤ report.revision ∧ scheduler.applied < report.revision

/-- The scheduler that has taken over a result. -/
def adopt (scheduler : Scheduler) (report : Report) : Scheduler :=
  { scheduler with
    active := report.ranges
    cache := report.cache
    applied := report.revision }

theorem handle_accepted (accepted : scheduler.Accepts report) :
    scheduler.handle report.message =
      { scheduler := scheduler.adopt report, changed := true } :=
  handle_fresh ((isStale_eq_false_iff _ _).mpr accepted) _ _

theorem handle_refused (refused : ¬ scheduler.Accepts report) :
    scheduler.handle report.message = { scheduler } := by
  refine handle_stale ?_ _ _
  rw [← Bool.not_eq_false, isStale_eq_false_iff]
  exact refused

/-- After a result, only those for greater revisions are taken over. -/
theorem accepts_adopt_iff (accepted : scheduler.Accepts report) {other : Report} :
    (scheduler.adopt report).Accepts other ↔
      scheduler.Accepts other ∧ report.revision < other.revision := by
  simp only [Accepts, adopt] at accepted ⊢
  omega

/-- What some results come to, and whether they have replaced the active ranges: the
newest of those that are accepted is taken over, or all are stale. -/
inductive Merges (scheduler : Scheduler) (reports : List Report) :
    Scheduler × Bool -> Prop where
  | stale (refused : ∀ report ∈ reports, ¬ scheduler.Accepts report) :
      Merges scheduler reports (scheduler, false)
  | newest (report : Report) (listed : report ∈ reports)
      (accepted : scheduler.Accepts report)
      (greatest : ∀ other ∈ reports, scheduler.Accepts other ->
        other.revision ≤ report.revision) :
      Merges scheduler reports (scheduler.adopt report, true)

/-- A result that is refused does not count. -/
theorem Merges.refuse (refused : ¬ scheduler.Accepts report)
    (merges : scheduler.Merges reports outcome) :
    scheduler.Merges (report :: reports) outcome := by
  cases merges with
  | stale others => exact .stale (List.forall_mem_cons.mpr ⟨refused, others⟩)
  | newest newest listed accepted greatest =>
      exact .newest newest (List.mem_cons_of_mem _ listed) accepted
        (List.forall_mem_cons.mpr ⟨fun accepts => absurd accepts refused, greatest⟩)

/-- A result that is taken over counts until a newer one comes. -/
theorem Merges.accept (accepted : scheduler.Accepts report)
    (merges : (scheduler.adopt report).Merges reports outcome) :
    scheduler.Merges (report :: reports) (outcome.1, true) := by
  cases merges with
  | stale refused =>
      refine .newest report List.mem_cons_self accepted
        (List.forall_mem_cons.mpr ⟨fun _ => Nat.le_refl _, fun other listed accepts => ?_⟩)
      have older := mt (accepts_adopt_iff accepted).mpr (refused other listed)
      exact Nat.le_of_not_lt fun newer => older ⟨accepts, newer⟩
  | newest newest listed later greatest =>
      have both := (accepts_adopt_iff accepted).mp later
      refine .newest newest (List.mem_cons_of_mem _ listed) both.1
        (List.forall_mem_cons.mpr ⟨fun _ => Nat.le_of_lt both.2, fun other listed accepts => ?_⟩)
      by_cases newer : report.revision < other.revision
      · exact greatest other listed ((accepts_adopt_iff accepted).mpr ⟨accepts, newer⟩)
      · exact Nat.le_trans (Nat.le_of_not_lt newer) (Nat.le_of_lt both.2)

/-- If results for equal revisions are equal, what they come to depends only on which
results there are. -/
theorem Merges.unique {first second : Scheduler × Bool}
    (agree : ∀ report ∈ reports, ∀ other ∈ reports, report.revision = other.revision ->
      report = other)
    (same : ∀ report, report ∈ others ↔ report ∈ reports)
    (merges : scheduler.Merges reports first) (again : scheduler.Merges others second) :
    second = first := by
  cases merges with
  | stale refused =>
      cases again with
      | stale => rfl
      | newest report listed accepted =>
          exact absurd accepted (refused report ((same report).mp listed))
  | newest report listed accepted greatest =>
      cases again with
      | stale refused => exact absurd accepted (refused report ((same report).mpr listed))
      | newest other listedToo acceptedToo greatestToo =>
          have below := greatest other ((same other).mp listedToo) acceptedToo
          have above := greatestToo report ((same report).mpr listed) accepted
          rw [agree report listed other ((same other).mp listedToo) (Nat.le_antisymm above below)]

end Scheduler

namespace Session

open Scheduler (Merges)

/-- A session that has handled some results differs in its scheduler alone, which has
merged them. -/
theorem merges_handleAll (session : Session) (reports : List Report) :
    ∃ after changed,
      session.handleAll (reports.map Report.message) =
        ({ session with scheduler := after }, changed) ∧
      session.scheduler.Merges reports (after, changed) := by
  induction reports generalizing session with
  | nil => exact ⟨_, _, rfl, .stale fun _ none => absurd none List.not_mem_nil⟩
  | cons report reports ih =>
      rw [List.map_cons, handleAll]
      by_cases accepted : session.scheduler.Accepts report
      · rw [Scheduler.handle_accepted accepted]
        rcases ih (session.apply { scheduler := session.scheduler.adopt report, changed := true })
          with ⟨after, changed, handled, merges⟩
        refine ⟨after, true, ?_, merges.accept accepted⟩
        rw [handled]
        simp only [apply, List.foldl_nil, Bool.true_or]
      · rw [Scheduler.handle_refused accepted]
        rcases ih (session.apply { scheduler := session.scheduler })
          with ⟨after, changed, handled, merges⟩
        refine ⟨after, changed, ?_, merges.refuse accepted⟩
        rw [handled]
        simp only [apply, List.foldl_nil, Bool.false_or]

/-- Without a change to report, the active ranges are what they were. -/
theorem active_of_unchanged {message : Message} {scheduler : Scheduler}
    (unchanged : (scheduler.handle message).changed = false) :
    (scheduler.handle message).scheduler.active = scheduler.active := by
  cases message with
  | engineLoaded result =>
      cases result with
      | ok engine =>
          by_cases loading : scheduler.engine = .loading
          · rw [Scheduler.handle_engine loading]
          · rw [Scheduler.handle_unasked loading]
      | error fault =>
          -- a failure that removes no ranges has found none
          have none : scheduler.active.isEmpty = true := (Bool.not_eq_false' _).mp unchanged
          exact (List.isEmpty_iff.mp none).symm
  | passCompleted revision ranges cache =>
      cases stale : scheduler.isStale revision with
      | true => rw [Scheduler.handle_stale stale]
      | false =>
          rw [Scheduler.handle_fresh stale] at unchanged
          cases unchanged

theorem active_handleAll {session : Session} {messages : List Message}
    (unchanged : (session.handleAll messages).2 = false) :
    (session.handleAll messages).1.scheduler.active = session.scheduler.active := by
  induction messages generalizing session with
  | nil => rfl
  | cons message messages ih =>
      rcases Bool.or_eq_false_iff.mp unchanged with ⟨first, later⟩
      refine (ih later).trans ?_
      rw [scheduler_apply]
      exact active_of_unchanged first

/-- Results of passes come to the same in any order and with any repetitions, as long as
those for equal revisions are equal.  The newest one that is accepted is taken over as a
whole, and if none is accepted nothing happens.  Either way only the active ranges, the
cache and the applied revision can change; and messages that report no change leave the
active ranges alone, of whatever kind they are. -/
theorem merged_of_reports (session : Session) :
    (∀ reports : List Report,
      ((∃ report ∈ reports, session.scheduler.Accepts report) ->
        ∃ newest ∈ reports, session.scheduler.Accepts newest ∧
          (∀ other ∈ reports, session.scheduler.Accepts other ->
            other.revision ≤ newest.revision) ∧
          session.handleAll (reports.map Report.message) =
            ({ session with
                scheduler :=
                  { session.scheduler with
                    active := newest.ranges
                    cache := newest.cache
                    applied := newest.revision } }, true)) ∧
      ((¬∃ report ∈ reports, session.scheduler.Accepts report) ->
        session.handleAll (reports.map Report.message) = (session, false)) ∧
      ((∀ report ∈ reports, ∀ other ∈ reports, report.revision = other.revision ->
          report = other) ->
        ∀ others : List Report, (∀ report, report ∈ others ↔ report ∈ reports) ->
          session.handleAll (others.map Report.message) =
            session.handleAll (reports.map Report.message)) ∧
      ∃ active cache applied, (session.handleAll (reports.map Report.message)).1 =
        { session with scheduler := { session.scheduler with active, cache, applied } }) ∧
    ∀ messages : List Message, (session.handleAll messages).2 = false ->
      (session.handleAll messages).1.scheduler.active = session.scheduler.active := by
  refine ⟨fun reports => ?_, fun messages => active_handleAll⟩
  rcases session.merges_handleAll reports with ⟨after, changed, handled, merges⟩
  refine ⟨?_, ?_, ?_, ?_⟩
  · rintro ⟨report, listed, accepted⟩
    cases merges with
    | stale refused => exact absurd accepted (refused report listed)
    | newest newest among accepts greatest => exact ⟨newest, among, accepts, greatest, handled⟩
  · intro refused
    cases merges with
    | stale => exact handled
    | newest newest among accepts => exact absurd ⟨newest, among, accepts⟩ refused
  · intro agree others same
    rcases session.merges_handleAll others with ⟨afterOthers, changedToo, handledToo, again⟩
    rcases Prod.mk.inj (merges.unique agree same again) with ⟨rfl, rfl⟩
    rw [handled, handledToo]
  · rw [handled]
    cases merges with
    | stale => exact ⟨_, _, _, rfl⟩
    | newest newest => exact ⟨newest.ranges, newest.cache, newest.revision, rfl⟩

/-- The result of a pass that has found a single word. -/
def wordReport (revision : Nat) : Report :=
  ⟨revision, [⟨0, revision, "word", none⟩], {}⟩

/-- A session that has changed three times and has applied the first change. -/
def behind : Session :=
  { scheduler := { revision := 3, applied := 1 } }

theorem merged_of_reports_shuffled :
    behind.handleAll (([4, 2, 3, 4, 3].map wordReport).map Report.message) =
        behind.handleAll (([2, 3, 4].map wordReport).map Report.message) ∧
      ∃ newest ∈ [2, 3, 4].map wordReport, 4 ≤ newest.revision ∧
        (behind.handleAll (([2, 3, 4].map wordReport).map Report.message)).1.scheduler.applied =
          newest.revision := by
  have merged := (merged_of_reports behind).1 ([2, 3, 4].map wordReport)
  constructor
  · refine merged.2.2.1 ?_ ([4, 2, 3, 4, 3].map wordReport) ?_
    · intro report listed other listedToo same
      rcases List.mem_map.mp listed with ⟨first, _, rfl⟩
      rcases List.mem_map.mp listedToo with ⟨second, _, rfl⟩
      exact congrArg wordReport same
    · intro report
      simp only [List.map_cons, List.map_nil, List.mem_cons, List.not_mem_nil, or_false]
      grind
  · have last : wordReport 4 ∈ [2, 3, 4].map wordReport := by simp
    have fresh : behind.scheduler.Accepts (wordReport 4) := ⟨by decide, by decide⟩
    rcases merged.1 ⟨wordReport 4, last, fresh⟩ with ⟨newest, listed, _, greatest, handled⟩
    exact ⟨newest, listed, greatest (wordReport 4) last fresh, by rw [handled]⟩

end Session
end FencedHighlight
