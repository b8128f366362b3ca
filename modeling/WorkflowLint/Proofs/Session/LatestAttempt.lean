/-
# WorkflowLint.Proofs.Session.LatestAttempt -- the latest attempt wins

An address that is restarted may have several downloads under way.  However they end
and in whichever order, what its record holds afterwards is what the newest attempt
brought; the others change nothing (`latest_attempt_wins`).
-/
import WorkflowLint.Proofs.Fetch.Supersession
import WorkflowLint.Proofs.Session.Trace

namespace WorkflowLint.Session

set_option autoImplicit false

open Fetch (Download Outcome State outcomeOf)

/-- **The latest attempt wins, in any order.**  After any session, the end of a download
that is superseded, or whose address has settled, changes no record and wakes no one.  When
some downloads of an address end, each with an outcome or dropped, the newest attempt alone
decides on its stage, its failure and its manifest and wakes those who wait; without it
nothing changes; and every order of the ends leaves the same state.  To complete or to drop
downloads of an address is to end them so, one after the other. -/
theorem latest_attempt_wins (sources : Sources) (answers : String → Option Outcome)
    (requests : List Step) :
    let s := run sources (.initial answers) requests
    (∀ d ∈ s.pending, ∀ ending : Option Outcome,
        d.attempt ≠ (s.record d.url).attempt ∨ (s.record d.url).isSettled = true →
        s.close d (outcomeOf ending) = { s with pending := s.pending.erase d }) ∧
      (∀ (url : String) (ends : List (Download × Option Outcome)), (ends.map Prod.fst).Nodup →
        (∀ e ∈ ends, e.1 ∈ s.pending ∧ e.1.url = url) →
        let t := s.closeAll ends
        (∀ d ending, (d, ending) ∈ ends → d.attempt = (s.record url).attempt →
            (t.record url).stage = (outcomeOf ending).stage ∧
              (t.record url).failure? = (outcomeOf ending).failure? ∧
              (t.record url).manifest? = (outcomeOf ending).manifest? ∧
              t.log = s.log ++ s.wakeUpsOf url) ∧
          ((∀ e ∈ ends, e.1.attempt ≠ (s.record url).attempt) →
            t.record = s.record ∧ t.log = s.log) ∧
          (∀ v, v ≠ url → t.record v = s.record v) ∧
          t.generation = s.generation ∧
          ∀ ends' : List (Download × Option Outcome), ends'.Perm ends → s.closeAll ends' = t) ∧
      ∀ (url : String) (nth : Option Nat),
        (∀ outcome, s.complete url nth outcome =
          s.closeAll ((s.chosen url nth).map (·, some outcome))) ∧
        s.drop url nth = s.closeAll ((s.chosen url nth).map (·, none)) := by
  intro s
  have coherent : s.Coherent := run_coherent sources (State.initial_coherent answers) requests
  refine ⟨fun d underWay ending outdated => ?_, fun url ends distinct underWay => ?_,
    fun url nth => ⟨s.complete_eq_closeAll url nth, s.drop_eq_closeAll url nth⟩⟩
  · refine State.close_of_not_accepts underWay ?_ _
    rcases outdated with superseded | settled
    · exact State.not_accepts_of_superseded superseded
    · exact State.not_accepts_of_settled settled _
  intro t
  have anyOrder : ∀ ends' : List (Download × Option Outcome), ends'.Perm ends →
      s.closeAll ends' = t := fun ends' perm => State.closeAll_perm coherent perm distinct underWay
  refine ⟨fun d ending member newest => ?_, fun superseded => ?_, fun v other => ?_, ?_, anyOrder⟩
  · have closed : t = _ := coherent.closeAll_of_newest distinct underWay member newest
    have settled : t.record url = (s.record url).settle (outcomeOf ending) := by
      rw [closed]
      exact State.setRecord_record_self s _ _
    have awaited : (s.record url).stage = .inProgress := by
      obtain ⟨inPending, rfl⟩ := underWay _ member
      exact (Fetch.Record.accepts_iff.1 (coherent.accepts_of_newest inPending newest)).2
    obtain ⟨stage, failure, manifest⟩ := (coherent.record url).settle_eq awaited (outcomeOf ending)
    rw [settled]
    exact ⟨stage, failure, manifest, by rw [closed]; rfl⟩
  · have closed : t = _ := State.closeAll_of_superseded distinct underWay superseded
    exact ⟨by rw [closed], by rw [closed]⟩
  · exact State.closeAll_record_ne (fun e member => (underWay e member).2) other
  · exact State.closeAll_generation s ends

/-- Three attempts, and subscriber 7 who waits for the first. -/
private def threeAttempts : List Step :=
  [.restart actionUrl, .await actionUrl (some 7) .nonBlocking none, .restart actionUrl,
    .restart actionUrl]

/-- The newest attempt ends first, between two that are superseded. -/
private def outOfOrder : List (Download × Option Outcome) :=
  [(⟨actionUrl, 3⟩, some (.failure ⟨some 500, "boom"⟩)), (⟨actionUrl, 1⟩, none),
    (⟨actionUrl, 2⟩, some (.body "inputs: {}"))]

theorem latest_attempt_wins_out_of_order :
    let s := run silentSources (.initial fun _ => none) threeAttempts
    let first : Download := ⟨actionUrl, 1⟩
    (first ∈ s.pending ∧ first.attempt ≠ (s.record actionUrl).attempt ∧
        s.close first (outcomeOf none) = { s with pending := s.pending.erase first }) ∧
      (outOfOrder.map Prod.fst).Nodup ∧ (∀ e ∈ outOfOrder, e.1 ∈ s.pending ∧ e.1.url = actionUrl) ∧
      ((s.closeAll outOfOrder).record actionUrl).failure? = some ⟨some 500, "boom"⟩ ∧
      (s.closeAll outOfOrder).log = s.log ++ [.notified 7 actionUrl] ∧
      s.closeAll outOfOrder.reverse = s.closeAll outOfOrder ∧
      (s.closeAll outOfOrder.tail).record = s.record := by
  have wins := latest_attempt_wins silentSources (fun _ => none) threeAttempts
  have underWay : ∀ e ∈ outOfOrder, e.1 ∈ (run silentSources (.initial fun _ => none)
      threeAttempts).pending ∧ e.1.url = actionUrl := by decide
  have all := wins.2.1 actionUrl outOfOrder (by decide) underWay
  have newest := all.1 ⟨actionUrl, 3⟩ _ List.mem_cons_self (by decide)
  have rest := wins.2.1 actionUrl outOfOrder.tail (by decide) (by decide)
  refine ⟨⟨by decide, by decide, ?_⟩, by decide, underWay, newest.2.1, newest.2.2.2, ?_, ?_⟩
  · exact wins.1 ⟨actionUrl, 1⟩ (by decide) none (by decide)
  · exact all.2.2.2.2 _ (List.reverse_perm _)
  · exact (rest.2.1 (by decide)).1

end WorkflowLint.Session
