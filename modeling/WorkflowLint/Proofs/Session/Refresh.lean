/-
# WorkflowLint.Proofs.Session.Refresh -- a refresh makes the next status fresh

A refresh restarts the address of a reference and that of its default branch, which are
all that its status looks at, and it touches nothing else (`State.Renewed`).  However old
the state is, the next status is then the one that an empty cache gives with the answers of
today.  The new attempts carry the stamp of the current generation, so even when they have
failed at once the status does not start them again (`refresh_renews`).
-/
import WorkflowLint.Proofs.Fetch.Restarts
import WorkflowLint.Proofs.Look
import WorkflowLint.Proofs.Session.RetryBudget

namespace WorkflowLint

set_option autoImplicit false

open Fetch (Download Op Outcome Record State)

namespace Fetch.State

/-- What starting some addresses afresh makes of a state. -/
structure Renewed (s t : State) (urls : List String) : Prop where
  /-- These are started, each once for each time it is listed, and no others. -/
  started : t.started = s.started ++ urls
  /-- What was under way at one of them no longer counts: its end changes no record and wakes
  no one. -/
  superseded : ∀ d ∈ s.pending, d.url ∈ urls → d ∈ t.pending ∧
    ∀ outcome, t.close d outcome = { t with pending := t.pending.erase d }
  others : ∀ url, url ∉ urls → t.record url = s.record url
  generation : t.generation = s.generation

theorem Coherent.run_restarts_renewed {s : State} (coherent : s.Coherent) (urls : List String) :
    s.Renewed (s.run (urls.map .restart)) urls where
  started := run_restarts_started s urls
  superseded _ underWay restarted :=
    ⟨mem_pending_run_restarts underWay urls, coherent.close_of_restarted underWay restarted⟩
  others _ other := run_restarts_record_ne other
  generation := run_restarts_generation s urls

/-- The answers have no part in how the records and the downloads fit together. -/
theorem Coherent.of_answers {s : State} (coherent : s.Coherent)
    (answers : String → Option Outcome) : ({ s with answers := answers } : State).Coherent where
  record := coherent.record
  tracks := coherent.tracks
  distinct := coherent.distinct

end Fetch.State

namespace Cache

variable {host : ManifestHost} {r : Reference}

theorem addressesOf_of_none (none : host.url r = none) : addressesOf host r = [] := by
  simp only [addressesOf, none]

/-- What has an address has one on the default branch, and the two are listed once each. -/
theorem addressesOf_of_url {own : String} (found : host.url r = some own) :
    ∃ head, (r.atRevision headRevision).bind host.url = some head ∧
      addressesOf host r = if own = head then [own] else [own, head] := by
  obtain ⟨a, head, rfl, addresses⟩ := addresses_of_url found
  exact ⟨head, addresses.head_eq, addressesOf_hosted addresses⟩

end Cache

namespace Session

/-- **A refresh makes the next status fresh and touches nothing else.**  After every session,
whatever the addresses answer by now: the status of the refreshed reference is that of an
empty cache with these answers, and it starts none of the refreshed addresses again.  The
refresh starts the address of the reference and, if it is another one, that of the default
branch, in this order, or nothing when there is no address; what was under way there no
longer counts, and every other record and the generation are as they were. -/
theorem refresh_renews (sources : Sources) (before answers : String → Option Outcome)
    (requests : List Step) (uses : String) :
    let s : State := { run sources (.initial before) requests with answers := answers }
    let t := (step sources s (.refresh uses)).2
    let r := Reference.parse uses
    let urls := Cache.addressesOf sources.host r
    s.Renewed t urls ∧
      (sources.host.url r = none → urls = []) ∧
      (∀ own, sources.host.url r = some own →
        ∃ head, (r.atRevision headRevision).bind sources.host.url = some head ∧
          urls = if own = head then [own] else [own, head]) ∧
      ∀ asker,
        (Cache.status sources asker r t).1 =
            (Cache.status sources asker r (.initial answers)).1 ∧
          ∀ url ∈ urls, (Cache.status sources asker r t).2.starts url = t.starts url := by
  intro s t r urls
  have coherent : s.Coherent :=
    (run_coherent sources (State.initial_coherent before) requests).of_answers answers
  have restarting : t = s.run (urls.map .restart) := step_eq_run sources s (.refresh uses)
  have coherentNext : t.Coherent := run_coherent sources coherent [.refresh uses]
  have sameAnswers : t.answers = answers := by
    rw [restarting]
    exact State.run_answers fun _ => State.isQuiet_of_mem_restarts
  refine ⟨?_, Cache.addressesOf_of_none, fun _ => Cache.addressesOf_of_url, fun asker => ⟨?_, ?_⟩⟩
  · rw [restarting]
    exact coherent.run_restarts_renewed urls
  · have restartedAnswered : ∀ url ∈ urls, t.Answered url := fun url member => by
      rw [restarting]
      exact State.run_restarts_answered member
    exact Cache.status_congr sameAnswers restartedAnswered fun url _ =>
      State.initial_answered answers url
  · intro url member
    have current : t.Current url := by
      rw [restarting]
      exact State.run_restarts_current member
    let asked : List Step := [.status uses asker .nonBlocking]
    have noRestart : restarts sources url asked = 0 := rfl
    have counted : (run sources t asked).starts url = t.starts url + restarts sources url asked :=
      run_starts_of_current sources coherentNext current rfl
    rwa [noRestart, Nat.add_zero] at counted

private def askPending : Step := .status "o/r@v1" ⟨none, some 7⟩ .nonBlocking

/-- Nothing is found at the revision, nor on the default branch. -/
private def nowhere : String → Option Outcome := answersOf (some notFound) (some notFound)

theorem refresh_renews_pending :
    let s : State :=
      { run silentSources (.initial fun _ => none) [askPending] with answers := nowhere }
    let t := (step silentSources s (.refresh "o/r@v1")).2
    let d : Download := ⟨actionUrl, 1⟩
    d ∈ s.pending ∧
      t.started = [actionUrl, actionUrl, headUrl] ∧
      (∀ outcome, t.close d outcome = { t with pending := t.pending.erase d }) ∧
      (Cache.status silentSources ⟨none, none⟩ (.parse "o/r@v1") t).1 = .actionNotFound := by
  intro s t d
  obtain ⟨renewed, -, -, fresh⟩ :=
    refresh_renews silentSources (fun _ => none) nowhere [askPending] "o/r@v1"
  have underWay : d ∈ s.pending := by decide
  refine ⟨underWay, ?_, (renewed.superseded d underWay (by decide)).2, ?_⟩
  · rw [renewed.started]
    decide
  · rw [(fresh ⟨none, none⟩).1]
    decide

end Session

end WorkflowLint
