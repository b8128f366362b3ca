/-
# WorkflowLint.Proofs.Session.WakeUp -- a subscriber is woken once

A subscriber waits when it awaits an address, or asks for a status or a manifest that
looks at the address, and finds it in progress.  `woken_exactly_once` says what the
rest of the session brings to it, operation by operation: nothing before the address
settles, one wake-up when it does, nothing afterwards; and nothing at all once it has
ceased to wait.
-/
import WorkflowLint.Proofs.Fetch.WakeUp
import WorkflowLint.Proofs.Session.Trace

namespace WorkflowLint.Session

set_option autoImplicit false

open Fetch (Op Outcome State)

/-- **A subscriber that waits is woken exactly once.**  Whatever has happened before: when
it waits for an address in progress and does not cease to wait, it is woken once, by the
operation that first settles the address, however often it waits in the meantime and
however many attempts are superseded.  Once it has ceased to wait, it is not woken for an
address until it waits for that again and finds it in progress.  A session in which a
request waits goes on from there as its trace says. -/
theorem woken_exactly_once (answers : String → Option Outcome) (before after : List Op)
    (id : Nat) (url : String) :
    let s := (State.initial answers).run before
    let waiting := s.await url (some id)
    let gone := s.unsubscribe id
    ((s.record url).stage = .inProgress → .unsubscribe id ∉ after →
        waiting.WokenOnce id url after) ∧
      (gone.Along (fun s op => ¬ op.Waits id url s) after →
        (gone.run after).wakeUps id url = gone.wakeUps id url) ∧
      ∀ sources requests, trace sources (.initial answers) requests =
          before ++ .await url (some id) :: after →
        run sources (.initial answers) requests = waiting.run after := by
  intro s waiting gone
  refine ⟨fun awaited stays => ?_, fun sleeping => ?_, fun sources requests course => ?_⟩
  · have coherent : s.Coherent := State.run_coherent (State.initial_coherent answers) before
    exact State.wokenOnce_of_waiting (State.await_coherent coherent url (some id))
      (State.mem_subscribers_await awaited id) stays
  · exact State.run_of_not_waiting (State.not_mem_subscribers_unsubscribe s id url) sleeping
  · rw [run_eq_run_trace, course, State.run_append]
    rfl

/-- Two waits of subscriber 7, the first by a status; the attempt they wait for is
superseded and ends first. -/
private def supersededSession : List Step :=
  [.status "o/r@v1" ⟨none, some 7⟩ .nonBlocking, .await actionUrl (some 7) .blocking none,
    .restart actionUrl, .complete actionUrl none notFound,
    .restart actionUrl]

private def supersededTail : List Op :=
  [.await actionUrl (some 7), .restart actionUrl,
    .close ⟨actionUrl, 1⟩ notFound,
    .close ⟨actionUrl, 2⟩ notFound, .restart actionUrl]

theorem woken_exactly_once_superseded :
    let s := (State.initial fun _ => none).run [.ensure actionUrl]
    let waiting := s.await actionUrl (some 7)
    let gone := s.unsubscribe 7
    trace silentSources (.initial fun _ => none) supersededSession =
        [.ensure actionUrl] ++ .await actionUrl (some 7) :: supersededTail ∧
      run silentSources (.initial fun _ => none) supersededSession = waiting.run supersededTail ∧
      (s.record actionUrl).stage = .inProgress ∧ Op.unsubscribe 7 ∉ supersededTail ∧
      waiting.WokenOnce 7 actionUrl supersededTail ∧
      gone.Along (fun s op => ¬ op.Waits 7 actionUrl s) [.restart actionUrl] ∧
      (gone.run [.restart actionUrl]).wakeUps 7 actionUrl = gone.wakeUps 7 actionUrl := by
  have course : trace silentSources (.initial fun _ => none) supersededSession =
      [.ensure actionUrl] ++ .await actionUrl (some 7) :: supersededTail := by decide
  have awaited := woken_exactly_once (fun _ => none) [.ensure actionUrl] supersededTail 7 actionUrl
  have gone := woken_exactly_once (fun _ => none) [.ensure actionUrl] [.restart actionUrl] 7
    actionUrl
  exact ⟨course, awaited.2.2 _ _ course, by decide, by decide, awaited.1 (by decide) (by decide),
    by decide, gone.2.1 (by decide)⟩

end WorkflowLint.Session
