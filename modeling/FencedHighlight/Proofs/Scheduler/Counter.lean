import FencedHighlight.Proofs.Scheduler.Looks
import FencedHighlight.Proofs.Scheduler.Run

namespace FencedHighlight
namespace Session

/-!
What the counter shows.

A change publishes its revision before it starts a pass for it.  So a pass is never shown
a revision that is older than its own, and none that has not been made.  Only the pass for
the newest revision is therefore sure not to be superseded.
-/

variable {registry : Registry} {updates : List Update} {session next : Ongoing}
  {update : Update} {pass : Pass} {seen : List Nat}

/-- Whether effects lead a counter that shows `latest` to a revision, without going back,
and start passes only for revisions that it shows by then. -/
def Tells (revision : Nat) : (latest : Nat) -> List Effect -> Prop
  | latest, [] => latest = revision
  | latest, .publish published :: later => latest ≤ published ∧ Tells revision published later
  | latest, .start task :: later =>
      (∀ pass seen, task = .pass pass seen -> pass.revision ≤ latest ∧ seen = []) ∧
        Tells revision latest later

theorem Tells.le {revision latest : Nat} {effects : List Effect}
    (tells : Tells revision latest effects) : latest ≤ revision := by
  induction effects generalizing latest with
  | nil => exact Nat.le_of_eq tells
  | cons effect later ih =>
      cases effect with
      | publish published => exact Nat.le_trans tells.1 (ih tells.2)
      | start task => exact ih tells.2

theorem tells_start_load {revision : Nat} : Tells revision revision [.start .load] := by
  refine ⟨?_, rfl⟩
  intro pass seen impossible
  cases impossible

theorem tells_start_pass {revision : Nat} (own : pass.revision = revision) :
    Tells revision revision [.start (.pass pass [])] := by
  refine ⟨?_, rfl⟩
  rintro _ _ ⟨⟩
  exact ⟨Nat.le_of_eq own, rfl⟩

/-- A change publishes its revision first of all. -/
theorem tells_noteChange (scheduler : Scheduler) :
    Tells scheduler.noteChange.scheduler.revision scheduler.revision
      scheduler.noteChange.effects := by
  have grows : scheduler.revision ≤ scheduler.advance.revision := Nat.le_succ _
  cases state : scheduler.engine with
  | idle =>
      rw [Scheduler.noteChange_of_idle state]
      exact ⟨grows, tells_start_load⟩
  | loading =>
      rw [Scheduler.noteChange_of_waiting (Or.inl state)]
      exact ⟨grows, rfl⟩
  | ready engine =>
      rw [Scheduler.noteChange_of_ready state]
      exact ⟨grows, tells_start_pass rfl⟩
  | failed =>
      rw [Scheduler.noteChange_of_waiting (Or.inr state)]
      exact ⟨grows, rfl⟩

theorem tells_perform (scheduler : Scheduler) (request : Scheduler.Request) :
    Tells (scheduler.perform request).scheduler.revision scheduler.revision
      (scheduler.perform request).effects := by
  rcases scheduler.perform_cases request with ⟨after, prepared, quiet | noted⟩
  · rw [quiet]
    exact prepared.revision.symm
  · rw [noted, ← prepared.revision]
    exact tells_noteChange after

/-- No message makes a revision. -/
theorem tells_handle (scheduler : Scheduler) (message : Message) :
    Tells (scheduler.handle message).scheduler.revision scheduler.revision
      (scheduler.handle message).effects := by
  cases message with
  | engineLoaded result =>
      cases result with
      | error fault => exact rfl
      | ok engine =>
          by_cases state : scheduler.engine = .loading
          · rw [Scheduler.handle_engine state]
            by_cases behind : scheduler.applied < scheduler.revision
            · simp only [if_pos behind]
              exact tells_start_pass rfl
            · simp only [if_neg behind]
              exact rfl
          · rw [Scheduler.handle_unasked state]
            exact rfl
  | passCompleted revision ranges cache =>
      cases stale : scheduler.isStale revision with
      | true =>
          rw [Scheduler.handle_stale stale]
          exact rfl
      | false =>
          rw [Scheduler.handle_fresh stale]
          exact rfl

/-- What the counter shows and has shown in a session. -/
structure Counted (session : Ongoing) : Prop where
  pending : Tells session.scheduler.revision session.latest session.pending
  made : ∀ pass seen, .pass pass seen ∈ session.tasks -> pass.revision ≤ session.latest
  shown : ∀ pass seen, .pass pass seen ∈ session.tasks -> ∀ revision ∈ seen,
    pass.revision ≤ revision ∧ revision ≤ session.latest

theorem mem_of_mem_without {α : Type} {all before after : List α} {removed kept : α}
    (split : all = before ++ removed :: after) (member : kept ∈ before ++ after) :
    kept ∈ all := by
  rw [split]
  exact ((List.sublist_cons_self removed after).append_left before).mem member

namespace Counted

/-- Fewer tasks have seen less. -/
theorem subset (counted : Counted session) {other : Ongoing}
    (scheduler : other.scheduler = session.scheduler) (latest : other.latest = session.latest)
    (pending : other.pending = session.pending)
    (fewer : ∀ task ∈ other.tasks, task ∈ session.tasks) : Counted other := by
  constructor
  · rw [scheduler, latest, pending]
    exact counted.pending
  · intro pass seen running
    rw [latest]
    exact counted.made pass seen (fewer _ running)
  · intro pass seen running
    rw [latest]
    exact counted.shown pass seen (fewer _ running)

/-- When the scheduler has done all that it has decided, the counter shows its revision. -/
theorem latest_eq (counted : Counted session) (done : session.pending = []) :
    session.latest = session.scheduler.revision := by
  have tells := counted.pending
  rw [done] at tells
  exact tells

/-- What the scheduler decides leads the counter to its revision. -/
theorem undertake (counted : Counted session) (done : session.pending = [])
    (tells : Tells update.scheduler.revision session.scheduler.revision update.effects) :
    Counted (session.undertake update) := by
  rw [← counted.latest_eq done] at tells
  exact ⟨tells, counted.made, counted.shown⟩

/-- While the scheduler does what it has decided, the counter does not go back. -/
theorem perform (counted : Counted session) {effect : Effect} {later : List Effect}
    (next : session.pending = effect :: later) :
    Counted { toSession := session.toSession.perform effect, pending := later } := by
  have tells := counted.pending
  rw [next] at tells
  cases effect with
  | publish published =>
      refine ⟨tells.2, ?_, ?_⟩
      · intro pass seen running
        exact Nat.le_trans (counted.made pass seen running) tells.1
      · intro pass seen running revision listed
        have bounds := counted.shown pass seen running revision listed
        exact ⟨bounds.1, Nat.le_trans bounds.2 tells.1⟩
  | start task =>
      refine ⟨tells.2, ?_, ?_⟩
      · intro pass seen running
        rcases List.mem_append.mp running with old | new
        · exact counted.made pass seen old
        · exact (tells.1 pass seen (List.mem_singleton.mp new).symm).1
      · intro pass seen running revision listed
        rcases List.mem_append.mp running with old | new
        · exact counted.shown pass seen old revision listed
        · rw [(tells.1 pass seen (List.mem_singleton.mp new).symm).2] at listed
          cases listed

/-- A look shows what the counter shows. -/
theorem look (counted : Counted session) {before after : List Task}
    (running : session.tasks = before ++ .pass pass seen :: after) :
    Counted { session with tasks := before ++ .pass pass (seen ++ [session.latest]) :: after } := by
  have listed : .pass pass seen ∈ session.tasks := by
    rw [running]
    exact List.mem_append_cons_self
  have cases : ∀ task ∈ before ++ .pass pass (seen ++ [session.latest]) :: after,
      task = .pass pass (seen ++ [session.latest]) ∨ task ∈ session.tasks := by
    intro task member
    rcases List.mem_append.mp member with first | last
    · exact Or.inr (mem_of_mem_without running (List.mem_append_left _ first))
    · rcases List.mem_cons.mp last with same | last
      · exact Or.inl same
      · exact Or.inr (mem_of_mem_without running (List.mem_append_right _ last))
  refine ⟨counted.pending, ?_, ?_⟩
  · intro other others member
    rcases cases _ member with same | old
    · cases same
      exact counted.made pass seen listed
    · exact counted.made other others old
  · intro other others member revision shown
    rcases cases _ member with same | old
    · cases same
      rcases List.mem_append.mp shown with earlier | now
      · exact counted.shown pass seen listed revision earlier
      · rw [List.mem_singleton.mp now]
        exact ⟨counted.made pass seen listed, Nat.le_refl _⟩
    · exact counted.shown other others old revision shown

theorem step (counted : Counted session) (step : Step session update next) : Counted next := by
  cases step with
  | request done request => exact counted.undertake done (tells_perform _ request)
  | @handle before after message done waiting =>
      have taken : Counted { session with inbox := before ++ after } :=
        counted.subset rfl rfl rfl fun task running => running
      exact taken.undertake done (tells_handle _ message)
  | perform next => exact counted.perform next
  | finishLoad running loaded =>
      exact counted.subset rfl rfl rfl fun task => mem_of_mem_without running
  | look running looking => exact counted.look running
  | finishPass running ends =>
      exact counted.subset rfl rfl rfl fun task => mem_of_mem_without running
  | abandonPass running superseded =>
      exact counted.subset rfl rfl rfl fun task => mem_of_mem_without running
  | breakPass running breaks =>
      exact counted.subset rfl rfl rfl fun task => mem_of_mem_without running

/-- The pass for the newest revision has seen no other one, nor will it before there is a
newer one. -/
theorem shown_newest (counted : Counted session) (running : .pass pass seen ∈ session.tasks)
    (newest : pass.revision = session.scheduler.revision) :
    session.latest = pass.revision ∧ ∀ revision ∈ seen, revision = pass.revision := by
  have made := counted.made pass seen running
  have bound := counted.pending.le
  refine ⟨by omega, ?_⟩
  intro revision listed
  have bounds := counted.shown pass seen running revision listed
  omega

/-- A pass that gives up is for an older revision. -/
theorem older_of_superseded (counted : Counted session)
    (running : .pass pass seen ∈ session.tasks)
    (superseded : pass.outcome seen = .error .superseded) :
    pass.revision < session.scheduler.revision := by
  rcases Pass.exists_look_of_superseded superseded with ⟨look, revision, shown, other⟩
  have bounds := counted.shown pass seen running revision (List.mem_of_getElem? shown)
  have bound := counted.pending.le
  omega

end Counted

/-- The counter is right at all times. -/
theorem counted_of_run (run : Run registry updates session) : Counted session := by
  induction run with
  | start =>
      refine ⟨rfl, ?_, ?_⟩
      · intro pass seen running
        cases running
      · intro pass seen running
        cases running
  | step run step ih => exact ih.step step

end Session
end FencedHighlight
