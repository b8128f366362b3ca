/-
# WorkflowLint.Proofs.Session.Settled -- what is known of an address stays known

A session that does not restart an address leaves what was downloaded from it as it is, at
every later point: whoever asks, however often failed addresses are given another chance,
whatever the addresses answer by then and however older downloads end.  A failure stays as
long as no lookup comes to the address in another generation than the one on its stamp, and
the first that does starts it anew (`settled_results_stick`).
-/
import WorkflowLint.Proofs.Fetch.Settled
import WorkflowLint.Proofs.Session.RetryBudget

namespace WorkflowLint.Session

set_option autoImplicit false

open Fetch (Op Outcome State)

/-- **Settled results stick.**  After every session, and however it goes on without a restart
of an address, let `ops` be what has happened up to some later point, which may lie within a
request.  If the address was downloaded, its record is still the same and it was not started
again.  If it had failed, this holds as long as every lookup of it was made in the generation
of its stamp; the first lookup in another one starts it. -/
theorem settled_results_stick (sources : Sources) (answers : String → Option Outcome)
    (requests later : List Step) (url : String) (noRestart : restarts sources url later = 0) :
    let s := run sources (.initial answers) requests
    let r := s.record url
    (r.stage = .downloaded →
        ∀ ops, ops <+: trace sources s later → s.Untouched (s.run ops) url) ∧
      (r.stage = .failed →
        ∀ ops, ops <+: trace sources s later →
          s.Along (fun t op => op = .ensure url → t.generation = r.generation) ops →
            s.Untouched (s.run ops) url ∧
              ((s.run ops).generation ≠ r.generation →
                (s.run (ops ++ [.ensure url])).starts url = s.starts url + 1)) ∧
      ∀ earlier, earlier <+: later →
        ∃ ops, ops <+: trace sources s later ∧ run sources s earlier = s.run ops := by
  intro s r
  have coherent : s.Coherent := run_coherent sources (State.initial_coherent answers) requests
  have unstarted : ∀ ops, ops <+: trace sources s later → .restart url ∉ ops := by
    intro ops isPrefix member
    have none : .restart url ∉ trace sources s later := by
      rw [← List.count_eq_zero, count_restart_trace, noRestart]
    exact none (isPrefix.subset member)
  refine ⟨fun downloaded ops isPrefix => ?_, fun failed ops isPrefix own => ?_, ?_⟩
  · exact State.run_of_downloaded coherent downloaded (unstarted ops isPrefix)
  · have untouched : s.Untouched (s.run ops) url :=
      State.run_of_failed coherent failed (unstarted ops isPrefix) own
    refine ⟨untouched, fun other => ?_⟩
    rw [State.run_append]
    exact untouched.ensure_starts failed other
  · rintro earlier ⟨rest, rfl⟩
    refine ⟨trace sources s earlier, ?_, run_eq_run_trace sources s earlier⟩
    rw [trace_append]
    exact List.prefix_append _ _

/-- Two attempts, of which the second has failed and the first is still under way. -/
private def failedSecond : List Step :=
  [.restart actionUrl, .restart actionUrl,
    .complete actionUrl (some 1) (.failure ⟨some 500, "boom"⟩)]

/-- A lookup, the end of the older download, a bump and another lookup. -/
private def lookedTwice : List Step :=
  [.status "o/r@v1" ⟨none, some 7⟩ .nonBlocking, .drop actionUrl none, .bump,
    .status "o/r@v1" ⟨none, none⟩ .blocking]

private def beforeRetry : List Op :=
  [.ensure actionUrl, .await actionUrl (some 7), .close ⟨actionUrl, 1⟩ (.failure .abandoned), .bump]

/-- What is downloaded, once the address answers something else and has had another chance. -/
private def answeredAnew : List Step :=
  [.bump, .answer actionUrl (.failure ⟨none, "offline"⟩), .ensure actionUrl]

theorem settled_results_stick_until_retry :
    let s := run silentSources (.initial fun _ => none) failedSecond
    let t := run silentSources (.initial fun _ => some (.body "{}")) [.ensure actionUrl]
    (restarts silentSources actionUrl lookedTwice = 0 ∧ (s.record actionUrl).stage = .failed ∧
        beforeRetry <+: trace silentSources s lookedTwice ∧
        s.Along (fun u op => op = .ensure actionUrl →
          u.generation = (s.record actionUrl).generation) beforeRetry ∧
        s.Untouched (s.run beforeRetry) actionUrl ∧
        (s.run beforeRetry).generation ≠ (s.record actionUrl).generation ∧
        (s.run (beforeRetry ++ [.ensure actionUrl])).starts actionUrl = s.starts actionUrl + 1) ∧
      restarts silentSources actionUrl answeredAnew = 0 ∧
        (t.record actionUrl).stage = .downloaded ∧
        t.Untouched (run silentSources t answeredAnew) actionUrl := by
  intro s t
  have noRestart : restarts silentSources actionUrl lookedTwice = 0 := by decide
  have noRestart' : restarts silentSources actionUrl answeredAnew = 0 := by decide
  have failed : (s.record actionUrl).stage = .failed := by decide
  have downloaded : (t.record actionUrl).stage = .downloaded := by decide
  have isPrefix : beforeRetry <+: trace silentSources s lookedTwice := by decide
  have own : s.Along (fun u op => op = .ensure actionUrl →
      u.generation = (s.record actionUrl).generation) beforeRetry := by decide
  have other : (s.run beforeRetry).generation ≠ (s.record actionUrl).generation := by decide
  have sticks := settled_results_stick silentSources (fun _ => none) failedSecond lookedTwice
    actionUrl noRestart
  have sticks' := settled_results_stick silentSources (fun _ => some (.body "{}"))
    [.ensure actionUrl] answeredAnew actionUrl noRestart'
  obtain ⟨untouched, retried⟩ := sticks.2.1 failed beforeRetry isPrefix own
  refine ⟨⟨noRestart, failed, isPrefix, own, untouched, other, retried other⟩, noRestart',
    downloaded, ?_⟩
  obtain ⟨ops, isPrefix', same⟩ := sticks'.2.2 answeredAnew (List.prefix_refl _)
  rw [same]
  exact sticks'.1 downloaded ops isPrefix'

end WorkflowLint.Session
