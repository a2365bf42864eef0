import FencedHighlight.Proofs.Scheduler.Provenance

namespace FencedHighlight
namespace Scheduler

/-!
What is highlighted after an engine could not be loaded.

A failure clears the active ranges.  The messages of a session cannot bring them
back, since a load fails only where no pass has been started.  But anyone may hand
a message to a scheduler, and the result of a pass is taken over in any state as
long as it is not stale.  So a failed scheduler shows nothing exactly if each result
that it takes over has nothing to show.
-/

/-- What may happen to a scheduler: it is asked for something, or it is handed a
message, whoever has made it. -/
inductive Event where
  | request (request : Request)
  | message (message : Message)

/-- What a scheduler makes of an event. -/
def respond (scheduler : Scheduler) : Event -> Update
  | .request request => scheduler.perform request
  | .message message => scheduler.handle message

/-- The scheduler after some events. -/
def afterAll (scheduler : Scheduler) (events : List Event) : Scheduler :=
  events.foldl (fun scheduler event => (scheduler.respond event).scheduler) scheduler

theorem afterAll_concat (scheduler : Scheduler) (events : List Event) (event : Event) :
    scheduler.afterAll (events ++ [event]) =
      ((scheduler.afterAll events).respond event).scheduler := by
  rw [afterAll, List.foldl_append]
  rfl

/-- A change of the document neither makes nor undoes a failure, and leaves the
active ranges alone. -/
theorem failed_of_noteChange {scheduler : Scheduler}
    (failed : scheduler.noteChange.scheduler.engine = .failed) :
    scheduler.engine = .failed ∧ scheduler.noteChange.scheduler.active = scheduler.active := by
  cases state : scheduler.engine with
  | idle =>
      rw [noteChange_of_idle state] at failed
      cases failed
  | loading =>
      rw [noteChange_of_waiting (Or.inl state)] at failed
      cases state.symm.trans failed
  | ready engine =>
      rw [noteChange_of_ready state] at failed
      cases state.symm.trans failed
  | failed =>
      rw [noteChange_of_waiting (Or.inr state)]
      exact ⟨rfl, rfl⟩

/-- Nor does any other request. -/
theorem failed_of_perform {scheduler : Scheduler} {request : Request}
    (failed : (scheduler.perform request).scheduler.engine = .failed) :
    scheduler.engine = .failed ∧
      (scheduler.perform request).scheduler.active = scheduler.active := by
  rcases scheduler.perform_cases request with ⟨prepared, same, quiet | counted⟩
  · rw [quiet] at failed ⊢
    exact ⟨same.engine.symm.trans failed, same.active⟩
  · rw [counted] at failed ⊢
    have before := failed_of_noteChange failed
    exact ⟨same.engine.symm.trans before.1, before.2.trans same.active⟩

/-- A message after which a scheduler has failed reports the failure itself, or comes
after it.  Then only a result that is not stale changes the active ranges. -/
theorem failed_of_handle {scheduler : Scheduler} {message : Message}
    (failed : (scheduler.handle message).scheduler.engine = .failed) :
    (scheduler.handle message).scheduler.active = [] ∨
      scheduler.engine = .failed ∧
        ((scheduler.handle message).scheduler.active = scheduler.active ∨
          ∃ revision ranges cache, message = .passCompleted revision ranges cache ∧
            scheduler.isStale revision = false ∧
            (scheduler.handle message).scheduler.active = ranges) := by
  cases message with
  | engineLoaded result =>
      cases result with
      | error fault => exact Or.inl rfl
      | ok engine =>
          by_cases loading : scheduler.engine = .loading
          · rw [handle_engine loading] at failed
            cases failed
          · rw [handle_unasked loading] at failed ⊢
            exact Or.inr ⟨failed, Or.inl rfl⟩
  | passCompleted revision ranges cache =>
      cases stale : scheduler.isStale revision with
      | true =>
          rw [handle_stale stale] at failed ⊢
          exact Or.inr ⟨failed, Or.inl rfl⟩
      | false =>
          rw [handle_fresh stale] at failed ⊢
          exact Or.inr ⟨failed, Or.inr ⟨revision, ranges, cache, rfl, stale, rfl⟩⟩

/-- Nothing is shown after a failure as long as each result that is taken over then
has nothing to show. -/
theorem active_of_failed_of_empty {registry : Registry} {events : List Event}
    (empty : ∀ earlier revision ranges cache,
      earlier ++ [.message (.passCompleted revision ranges cache)] <+: events ->
      (afterAll { registry } earlier).engine = .failed ->
      (afterAll { registry } earlier).isStale revision = false -> ranges = [])
    (failed : (afterAll { registry } events).engine = .failed) :
    (afterAll { registry } events).active = [] := by
  induction events using List.reverseRecOn with
  | nil => cases failed
  | append_singleton events event ih =>
      -- what holds of all events holds of those before the last one
      have before := ih fun earlier revision ranges cache begins =>
        empty earlier revision ranges cache (begins.trans (List.prefix_append _ _))
      rw [afterAll_concat] at failed ⊢
      cases event with
      | request request =>
          rcases failed_of_perform failed with ⟨earlier, same⟩
          exact same.trans (before earlier)
      | message message =>
          rcases failed_of_handle failed with none | ⟨earlier, same | taken⟩
          · exact none
          · exact same.trans (before earlier)
          · rcases taken with ⟨revision, ranges, cache, rfl, fresh, shown⟩
            exact shown.trans
              (empty events revision ranges cache (List.prefix_refl _) earlier fresh)

/-- A scheduler that has failed shows nothing, and goes on to show nothing, exactly if
every result that it is handed in this state is stale or has nothing to show.  The
messages of its own tasks never do otherwise. -/
theorem active_of_failed (registry : Registry) :
    (∀ events : List Event,
      (∀ earlier, earlier <+: events ->
          (afterAll { registry } earlier).engine = .failed ->
          (afterAll { registry } earlier).active = []) ↔
        ∀ earlier revision ranges cache,
          earlier ++ [.message (.passCompleted revision ranges cache)] <+: events ->
          (afterAll { registry } earlier).engine = .failed ->
          (afterAll { registry } earlier).revision ≤ revision ->
          (afterAll { registry } earlier).applied < revision -> ranges = []) ∧
      ∀ updates session, Session.Run registry updates session ->
        session.scheduler.engine = .failed -> session.scheduler.active = [] := by
  constructor
  · intro events
    constructor
    · intro plain earlier revision ranges cache begins failed newest unapplied
      have fresh := (isStale_eq_false_iff _ revision).mpr ⟨newest, unapplied⟩
      have shown := plain _ begins
      rw [afterAll_concat, respond, handle_fresh fresh] at shown
      exact shown failed
    · intro empty earlier begins failed
      refine active_of_failed_of_empty ?_ failed
      intro sooner revision ranges cache starts before fresh
      have numbers := (isStale_eq_false_iff _ revision).mp fresh
      exact empty sooner revision ranges cache (starts.trans begins) before numbers.1 numbers.2
  · intro updates session run failed
    refine ((Session.provenance_of_run run).unstarted ?_).2.1
    intro engine ready
    cases failed.symm.trans ready

/-- A failure, and the result of a pass for an older revision. -/
def staleResult : List Event :=
  [.request (.changeDocument ['a']), .message (.engineLoaded (.error (.engineUnavailable "lost"))),
    .message (.passCompleted 0 [⟨0, 1, "word", none⟩] {})]

theorem active_of_failed_stale :
    (afterAll {} staleResult).engine = .failed ∧ (afterAll {} staleResult).active = [] := by
  refine ⟨rfl, ((active_of_failed {}).1 staleResult).mpr ?_ _ (List.prefix_refl _) rfl⟩
  rintro earlier revision ranges cache ⟨rest, same⟩ failed newest unapplied
  rcases earlier with _ | ⟨first, _ | ⟨second, _ | ⟨third, later⟩⟩⟩
  · cases same
  · cases same
  · -- the result is for revision 0, but the document has been changed once
    cases same
    cases newest
  · simp [staleResult] at same

/-- A failure that is reported while a pass is under way, and then the result of the
pass. -/
def lateResult : List Event :=
  [.request (.changeDocument ['a']), .message (.engineLoaded (.ok (Engine.ofSettings {}))),
    .message (.engineLoaded (.error (.engineUnavailable "lost"))),
    .message (.passCompleted 1 [⟨0, 1, "word", none⟩] {})]

/-- A result that comes after the failure is shown all the same. -/
theorem active_of_failed_late :
    (afterAll {} lateResult).engine = .failed ∧
      (afterAll {} lateResult).active = [⟨0, 1, "word", none⟩] :=
  ⟨rfl, rfl⟩

end Scheduler
end FencedHighlight
