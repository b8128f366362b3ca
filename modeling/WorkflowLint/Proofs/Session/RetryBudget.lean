/-
# WorkflowLint.Proofs.Session.RetryBudget -- how often an address is downloaded

A session downloads an address once, once more for every restart of it, and once
more for every bump at most (`retry_budget`).  A lookup starts an address only when
nothing is known of it or when it failed before the last bump, and then no lookup
starts it again until the next one, however that attempt ends.
-/
import Mathlib.Data.List.Count
import WorkflowLint.Proofs.Session.Trace

namespace WorkflowLint

set_option autoImplicit false

namespace Fetch.State

/-- An address is due when it was never started, or when its newest attempt is from before
the last bump and has failed. -/
def Due (s : State) (url : String) : Prop :=
  s.starts url = 0 ∨
    ((s.record url).stage = .failed ∧ (s.record url).generation ≠ s.generation)

instance (s : State) (url : String) : Decidable (s.Due url) := inferInstanceAs (Decidable (_ ∨ _))

theorem Coherent.due_iff {s : State} (coherent : s.Coherent) {url : String} {restarts : Nat}
    (budget : s.Budget url restarts) : s.Due url ↔ (s.record url).isDue s.generation = true := by
  rw [Due, Record.isDue_iff, budget.starts_eq_attempt, (coherent.record url).attempt_eq_zero_iff]

end Fetch.State

namespace Session

open Fetch (Op Outcome State)

def isBump : Step → Bool
  | .bump => true
  | _ => false

def bumps (requests : List Step) : Nat := requests.countP isBump

def restarts (sources : Sources) (url : String) (requests : List Step) : Nat :=
  (requests.flatMap (restarted sources)).count url

/-! ## The operations of a request -/

theorem count_lookOps_of_not_isLook {asker : Asker} {urls : List String} {op : Op}
    (other : op.isLook = false) : (urls.flatMap (Cache.lookOps asker)).count op = 0 := by
  refine List.count_eq_zero_of_not_mem fun member => ?_
  rw [Cache.isLook_of_mem_lookOps member] at other
  exact Bool.noConfusion other

theorem count_ensure_lookOps (asker : Asker) (urls : List String) (url : String) :
    (urls.flatMap (Cache.lookOps asker)).count (.ensure url) = urls.count url := by
  induction urls with
  | nil => rfl
  | cons v urls ih =>
      rw [List.flatMap_cons, List.count_append, ih, List.count_cons]
      simp [Cache.lookOps, List.count_cons, Nat.add_comm]

theorem count_closeOps {s : State} {url : String} {nth : Option Nat} {outcome : Outcome} {op : Op}
    (noClose : ∀ d outcome, op ≠ .close d outcome) :
    (closeOps s url nth outcome).count op = 0 := by
  refine List.count_eq_zero_of_not_mem fun member => ?_
  obtain ⟨d, -, same⟩ := List.mem_map.1 member
  exact noClose d outcome same.symm

theorem count_awaitOps {s : State} {url : String} {subscriber : Option Nat} {mode : WaitMode}
    {arriving : Option Outcome} {op : Op} (noClose : ∀ d outcome, op ≠ .close d outcome)
    (noAwait : ∀ v subscriber, op ≠ .await v subscriber) :
    (awaitOps s url subscriber mode arriving).count op = 0 := by
  have alone : [Op.await url subscriber].count op = 0 := by
    rw [List.count_singleton, if_neg]
    simpa using (noAwait url subscriber).symm
  cases arriving with
  | none => exact alone
  | some outcome =>
      cases mode with
      | blocking =>
          simp only [awaitOps]
          rw [List.count_append, count_closeOps noClose, alone]
      | nonBlocking | cancelled =>
          simp only [awaitOps]
          rw [← List.singleton_append, List.count_append, count_closeOps noClose, alone]

/-- The operations of a request look at the addresses that it looks at. -/
theorem count_ensure_ops (sources : Sources) (s : State) (request : Step) (url : String) :
    (ops sources s request).count (.ensure url) = (looks sources s request).count url := by
  cases request with
  | status uses asker mode => exact count_ensure_lookOps asker _ url
  | manifest uses asker mode => exact count_ensure_lookOps asker _ url
  | check path => exact count_ensure_lookOps (.of path) _ url
  | ensure v => simp [ops, looks, List.count_cons]
  | complete v nth outcome | drop v nth => exact count_closeOps (by simp)
  | await v subscriber mode arriving => exact count_awaitOps (by simp) (by simp)
  | refresh uses => exact List.count_eq_zero_of_not_mem (by simp [ops])
  | answer v outcome | unanswer v | bump | restart v | snapshot v | unsubscribe id => rfl

/-- They restart the addresses that it restarts. -/
theorem count_restart_ops (sources : Sources) (s : State) (request : Step) (url : String) :
    (ops sources s request).count (.restart url) = (restarted sources request).count url := by
  cases request with
  | status uses asker mode | manifest uses asker mode | check path =>
      exact count_lookOps_of_not_isLook rfl
  | complete v nth outcome | drop v nth => exact count_closeOps (by simp)
  | await v subscriber mode arriving => exact count_awaitOps (by simp) (by simp)
  | refresh uses =>
      exact List.count_map_of_injective _ Op.restart (fun _ _ same => by injection same) url
  | restart v => simp [ops, restarted, List.count_cons]
  | answer v outcome | unanswer v | bump | ensure v | snapshot v | unsubscribe id => rfl

/-- Only a bump bumps. -/
theorem count_bump_ops (sources : Sources) (s : State) (request : Step) :
    (ops sources s request).count .bump = if isBump request then 1 else 0 := by
  cases request with
  | status uses asker mode | manifest uses asker mode | check path =>
      exact count_lookOps_of_not_isLook rfl
  | complete v nth outcome | drop v nth => exact count_closeOps (by simp)
  | await v subscriber mode arriving => exact count_awaitOps (by simp) (by simp)
  | refresh uses => exact List.count_eq_zero_of_not_mem (by simp [ops])
  | answer v outcome | unanswer v | bump | ensure v | restart v | snapshot v | unsubscribe id => rfl

theorem ensure_mem_ops {sources : Sources} {s : State} {request : Step} {url : String} :
    .ensure url ∈ ops sources s request ↔ url ∈ looks sources s request := by
  rw [← List.count_pos_iff, count_ensure_ops, List.count_pos_iff]

/-- A request that looks at an address does nothing but look and wait. -/
theorem isLook_of_looks {sources : Sources} {s : State} {request : Step} {url : String}
    (looked : url ∈ looks sources s request) {op : Op} (member : op ∈ ops sources s request) :
    op.isLook = true := by
  cases request with
  | status uses asker mode | manifest uses asker mode | check path =>
      exact Cache.isLook_of_mem_lookOps member
  | ensure v =>
      rw [List.mem_singleton.1 member]
      rfl
  | _ => exact absurd looked List.not_mem_nil

/-! ## The operations of a session -/

theorem count_restart_trace (sources : Sources) (s : State) (requests : List Step) (url : String) :
    (trace sources s requests).count (.restart url) = restarts sources url requests := by
  induction requests generalizing s with
  | nil => rfl
  | cons request requests ih =>
      rw [trace, List.count_append, ih, count_restart_ops, restarts, restarts, List.flatMap_cons,
        List.count_append]

theorem count_bump_trace (sources : Sources) (s : State) (requests : List Step) :
    (trace sources s requests).count .bump = bumps requests := by
  induction requests generalizing s with
  | nil => rfl
  | cons request requests ih =>
      rw [trace, List.count_append, ih, count_bump_ops, bumps, bumps, List.countP_cons,
        Nat.add_comm]

/-- What a session has started is paid with its restarts and the stamp of the record. -/
theorem run_budget (sources : Sources) (answers : String → Option Outcome)
    (requests : List Step) (url : String) :
    (run sources (.initial answers) requests).Budget url (restarts sources url requests) := by
  have budget := State.run_budget (State.initial_coherent answers)
    (State.initial_budget answers url) (trace sources (.initial answers) requests)
  rwa [Nat.zero_add, count_restart_trace, ← run_eq_run_trace] at budget

/-- The generation counts the bumps. -/
theorem run_generation (sources : Sources) (s : State) (requests : List Step) :
    (run sources s requests).generation = s.generation + bumps requests := by
  rw [run_eq_run_trace, State.run_generation, count_bump_trace]

/-- A request starts an address as often as it restarts it, and once more when it looks at
it and finds it due. -/
theorem step_starts (sources : Sources) {s : State} (coherent : s.Coherent) (request : Step)
    {url : String} {paid : Nat} (budget : s.Budget url paid) :
    (step sources s request).2.starts url = s.starts url + (restarted sources request).count url +
      if url ∈ looks sources s request ∧ s.Due url then 1 else 0 := by
  rw [step_eq_run, ← count_restart_ops sources s]
  by_cases looked : url ∈ looks sources s request
  · have noRestart : (ops sources s request).count (.restart url) = 0 :=
      List.count_eq_zero_of_not_mem fun member =>
        Bool.noConfusion (isLook_of_looks looked member)
    rw [State.run_starts_of_looks coherent fun op => isLook_of_looks looked, noRestart]
    simp only [ensure_mem_ops, coherent.due_iff budget, Nat.add_zero]
  · have unseen : .ensure url ∉ ops sources s request := fun member =>
      looked (ensure_mem_ops.1 member)
    rw [State.run_starts_of_unseen unseen, if_neg fun both => looked both.1, Nat.add_zero]

/-- A request that starts an address leaves it current. -/
theorem step_current (sources : Sources) {s : State} (request : Step) {url : String}
    (started : s.starts url < (step sources s request).2.starts url) :
    (step sources s request).2.Current url ∧
      (step sources s request).2.generation = s.generation := by
  have noBump : isBump request = false := by
    cases request with
    | bump => exact absurd started (Nat.lt_irrefl _)
    | _ => rfl
  have noBumpOp : (ops sources s request).count .bump = 0 := by
    rw [count_bump_ops, noBump]
    rfl
  rw [step_eq_run] at started ⊢
  rw [State.run_generation, noBumpOp]
  exact ⟨State.current_of_run_starts (List.count_eq_zero.1 noBumpOp) started, rfl⟩

/-- Between two bumps a current address is only started by its restarts. -/
theorem run_starts_of_current (sources : Sources) {s : State} (coherent : s.Coherent)
    {url : String} (current : s.Current url) {requests : List Step} (noBump : bumps requests = 0) :
    (run sources s requests).starts url = s.starts url + restarts sources url requests := by
  have noBumpOp : .bump ∉ trace sources s requests := by
    rw [← List.count_eq_zero, count_bump_trace, noBump]
  rw [run_eq_run_trace, State.run_starts_of_current coherent current noBumpOp,
    count_restart_trace]

/-- **The retry budget.**  A session starts an address once, once more for each restart of
it, and at most once more for each bump.  A request starts it as often as it restarts it,
and once more exactly when it looks at it and finds it due: never started, or failed with an
attempt from before the last bump.  Whatever starts it stamps the current generation; until
the next bump or restart nothing starts it again, however the attempt ends.  A bump itself
starts nothing and changes no record. -/
theorem retry_budget (sources : Sources) (answers : String → Option Outcome)
    (requests : List Step) (url : String) :
    let s := run sources (.initial answers) requests
    s.starts url ≤ restarts sources url requests + bumps requests + 1 ∧
      (∀ request, (step sources s request).2.starts url =
        s.starts url + (restarted sources request).count url +
          if url ∈ looks sources s request ∧ s.Due url then 1 else 0) ∧
      (∀ request, let next := (step sources s request).2
        s.starts url < next.starts url →
          (next.record url).generation = s.generation ∧
            ∀ later, bumps later = 0 → restarts sources url later = 0 →
              (run sources next later).starts url = next.starts url) ∧
      ((step sources s .bump).2.log = s.log ∧ (step sources s .bump).2.record = s.record) := by
  intro s
  have coherent : s.Coherent := run_coherent sources (State.initial_coherent answers) requests
  have budget : s.Budget url (restarts sources url requests) :=
    run_budget sources answers requests url
  have generation : s.generation = bumps requests :=
    (run_generation sources _ requests).trans (Nat.zero_add _)
  refine ⟨?_, fun request => step_starts sources coherent request budget, ?_, rfl, rfl⟩
  · have paid := budget.attempt_le
    have notAhead := (coherent.record url).generation_le
    rw [budget.starts_eq_attempt]
    omega
  · intro request next started
    obtain ⟨current, same⟩ := step_current sources request started
    have coherentNext : next.Coherent := run_coherent sources coherent [request]
    refine ⟨current.2.trans same, fun later noBump noRestart => ?_⟩
    rw [run_starts_of_current sources coherentNext current noBump, noRestart, Nat.add_zero]

private def askStatus : Step := .status "o/r@v1" ⟨none, none⟩ .nonBlocking

private def answerMissing : Step := .complete actionUrl none notFound

theorem retry_budget_after_bump :
    let s := run silentSources (.initial fun _ => none) [askStatus, answerMissing, .bump]
    let next := (step silentSources s askStatus).2
    let later := [answerMissing, askStatus, askStatus]
    s.Due actionUrl ∧ next.starts actionUrl = s.starts actionUrl + 1 ∧
      s.starts actionUrl < next.starts actionUrl ∧
      (next.record actionUrl).generation = s.generation ∧
      bumps later = 0 ∧ restarts silentSources actionUrl later = 0 ∧
      (run silentSources next later).starts actionUrl = next.starts actionUrl := by
  have budget := retry_budget silentSources (fun _ => none) [askStatus, answerMissing, .bump]
    actionUrl
  have started := budget.2.2.1 askStatus (by decide)
  refine ⟨by decide, by decide, by decide, started.1, by decide, by decide, ?_⟩
  exact started.2 [answerMissing, askStatus, askStatus] (by decide) (by decide)

end Session

end WorkflowLint
