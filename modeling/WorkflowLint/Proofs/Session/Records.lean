/-
# WorkflowLint.Proofs.Session.Records -- every record of every session is sound

Whatever a session asks for and however its downloads end, each record agrees with
itself and with the downloads of its address that are under way
(`record_invariant`).  In particular an address that is in progress has a download
that can still settle it.
-/
import WorkflowLint.Proofs.Session.Trace

namespace WorkflowLint

set_option autoImplicit false

namespace Fetch.State

/-- The numbers of the attempts at an address that are under way. -/
def attemptsOf (s : State) (url : String) : List Nat :=
  (s.pending.filter (·.url == url)).map (·.attempt)

theorem mem_attemptsOf {s : State} {url : String} {n : Nat} :
    n ∈ s.attemptsOf url ↔ ⟨url, n⟩ ∈ s.pending := by
  simp only [attemptsOf, List.mem_map, List.mem_filter, beq_iff_eq]
  constructor
  · rintro ⟨d, ⟨member, rfl⟩, rfl⟩
    exact member
  · intro member
    exact ⟨⟨url, n⟩, ⟨member, rfl⟩, rfl⟩

theorem Coherent.attemptsOf_nodup {s : State} (coherent : s.Coherent) (url : String) :
    (s.attemptsOf url).Nodup := by
  refine List.pairwise_map.2 (List.Pairwise.imp_of_mem ?_ (coherent.distinct.filter _))
  intro d e ofD ofE distinct
  simp only [List.mem_filter, beq_iff_eq] at ofD ofE
  exact distinct (ofD.2.trans ofE.2.symm)

end Fetch.State

namespace Session

open Fetch (Outcome State)

/-- **Every record of every session is sound.**  It counts no attempt exactly when none
was started; it holds a failure exactly when it failed, a manifest only once it is
downloaded, and subscribers, each once, only while it is in progress; its generation is
not ahead.  The downloads of its address under way are distinct attempts that it counts,
and it is in progress exactly when its newest attempt is one of them. -/
theorem record_invariant (sources : Sources) (answers : String → Option Outcome)
    (requests : List Step) (url : String) :
    let s := run sources (.initial answers) requests
    let r := s.record url
    (r.attempt = 0 ↔ r.stage = .notStarted) ∧
      (r.failure?.isSome ↔ r.stage = .failed) ∧
      (r.manifest?.isSome → r.stage = .downloaded) ∧
      (r.stage ≠ .inProgress → r.subscribers = []) ∧
      r.subscribers.Nodup ∧
      r.generation ≤ s.generation ∧
      (s.attemptsOf url).Nodup ∧
      (∀ n ∈ s.attemptsOf url, 1 ≤ n ∧ n ≤ r.attempt) ∧
      (r.stage = .inProgress ↔ r.attempt ∈ s.attemptsOf url) := by
  intro s r
  have coherent : s.Coherent := run_coherent sources (State.initial_coherent answers) requests
  have record := coherent.record url
  have tracks := coherent.tracks url
  refine ⟨record.attempt_eq_zero_iff, record.failure_isSome_iff, record.downloaded_of_manifest,
    record.subscribers_eq_nil, record.ascending.nodup, record.generation_le,
    coherent.attemptsOf_nodup url, fun n member => ?_, ?_⟩
  · exact tracks.attempt_le n (State.mem_attemptsOf.1 member)
  · rw [State.mem_attemptsOf]
    exact tracks.inProgress_iff

end Session

end WorkflowLint
