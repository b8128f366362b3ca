/-
# WorkflowLint.Proofs.Session.Trace -- a session as a list of operations

Every request of a session comes down to operations on the downloads: a status or a
manifest looks at addresses, each look being an `ensure` and an `await`; a refresh
restarts addresses; the end of several downloads is the end of one after the other.
`ops` lists the operations of one request, `trace` those of a whole session, and
`run_eq_run_trace` says that a session does nothing else.  How a caller waits is no part of
this (`replies_inMode`), unless something arrives in the meantime.
-/
import WorkflowLint.Proofs.Addresses
import WorkflowLint.Proofs.Fetch.Starts
import WorkflowLint.Proofs.Lookups
import WorkflowLint.Session

namespace WorkflowLint

set_option autoImplicit false

open Fetch (Op Outcome State)

def Cache.lookOps (asker : Asker) (url : String) : List Op :=
  [.ensure url, .await url asker.subscriber]

theorem Cache.lookAll_eq_run (asker : Asker) (urls : List String) (s : State) :
    lookAll asker urls s = s.run (urls.flatMap (lookOps asker)) := by
  simp only [lookAll, State.run, List.foldl_flatMap]
  rfl

theorem Cache.isLook_of_mem_lookOps {asker : Asker} {urls : List String} {op : Op}
    (member : op ∈ urls.flatMap (lookOps asker)) : op.isLook = true := by
  obtain ⟨url, -, member⟩ := List.mem_flatMap.1 member
  rcases List.mem_cons.1 member with rfl | member
  · rfl
  · rw [List.mem_singleton.1 member]
    rfl

namespace Session

def looks (sources : Sources) (s : State) : Step → List String
  | .status uses asker _ => Cache.statusLooks sources asker (.parse uses) s
  | .manifest uses _ _ => Cache.manifestLooks sources.host (.parse uses)
  | .check path => Check.fileLooks sources path s
  | .ensure url => [url]
  | _ => []

/-- The addresses that a request starts in any case. -/
def restarted (sources : Sources) : Step → List String
  | .restart url => [url]
  | .refresh uses => Cache.addressesOf sources.host (.parse uses)
  | _ => []

/-- The ends of the downloads of an address that are meant. -/
def closeOps (s : State) (url : String) (nth : Option Nat) (outcome : Outcome) : List Op :=
  (s.chosen url nth).map (.close · outcome)

def awaitOps (s : State) (url : String) (subscriber : Option Nat) (mode : WaitMode) :
    Option Outcome → List Op
  | none => [.await url subscriber]
  | some outcome =>
    match mode with
    | .blocking => closeOps s url none outcome ++ [.await url subscriber]
    | _ => .await url subscriber :: closeOps (s.await url subscriber) url none outcome

def ops (sources : Sources) (s : State) (request : Step) : List Op :=
  match request with
  | .answer url outcome => [.answer url (some outcome)]
  | .unanswer url => [.answer url none]
  | .complete url nth outcome => closeOps s url nth outcome
  | .drop url nth => closeOps s url nth (.failure .abandoned)
  | .status _ asker _ => (looks sources s request).flatMap (Cache.lookOps asker)
  | .manifest _ asker _ => (looks sources s request).flatMap (Cache.lookOps asker)
  | .check path => (looks sources s request).flatMap (Cache.lookOps (.of path))
  | .refresh _ => (restarted sources request).map .restart
  | .bump => [.bump]
  | .ensure url => [.ensure url]
  | .restart url => [.restart url]
  | .await url subscriber mode arriving => awaitOps s url subscriber mode arriving
  | .snapshot _ => []
  | .unsubscribe id => [.unsubscribe id]

def trace (sources : Sources) : State → List Step → List Op
  | _, [] => []
  | s, request :: requests =>
    ops sources s request ++ trace sources (step sources s request).2 requests

theorem complete_eq_run (s : State) (url : String) (nth : Option Nat) (outcome : Outcome) :
    s.complete url nth outcome = s.run (closeOps s url nth outcome) := by
  simp only [State.complete, State.run, closeOps, List.foldl_map]
  rfl

theorem awaitArriving_snd (url : String) (subscriber : Option Nat) (mode : WaitMode)
    (arriving : Option Outcome) (s : State) :
    (awaitArriving url subscriber mode arriving s).2 =
      s.run (awaitOps s url subscriber mode arriving) := by
  cases arriving with
  | none => rfl
  | some outcome =>
      cases mode with
      | blocking =>
          simp only [awaitArriving, awaitOps, State.run_append, ← complete_eq_run]
          rfl
      | nonBlocking =>
          simp only [awaitArriving, awaitOps, State.run_cons, complete_eq_run]
          rfl
      | cancelled =>
          simp only [awaitArriving, awaitOps, State.run_cons, complete_eq_run]
          rfl

/-- The request with another way to wait, where nothing arrives. -/
def Step.inMode (mode : WaitMode) : Step → Step
  | .status uses asker _ => .status uses asker mode
  | .manifest uses asker _ => .manifest uses asker mode
  | .await url subscriber _ none => .await url subscriber mode none
  | request => request

/-- How a caller waits makes no difference, unless something arrives while it waits. -/
theorem step_inMode (sources : Sources) (s : State) (mode : WaitMode) (request : Step) :
    step sources s (request.inMode mode) = step sources s request := by
  cases request with
  | await url subscriber mode' arriving => cases arriving <;> rfl
  | _ => rfl

theorem replies_inMode (sources : Sources) (s : State) (mode : WaitMode) (requests : List Step) :
    replies sources s (requests.map (Step.inMode mode)) = replies sources s requests := by
  induction requests generalizing s with
  | nil => rfl
  | cons request requests ih => simp only [List.map_cons, replies, step_inMode, ih]

/-- A wait that is called off has ended before anything arrives, as one that must not block. -/
theorem awaitArriving_cancelled (url : String) (subscriber : Option Nat)
    (arriving : Option Outcome) (s : State) :
    awaitArriving url subscriber .cancelled arriving s =
      awaitArriving url subscriber .nonBlocking arriving s := by
  cases arriving <;> rfl

/-- A request does nothing but its operations. -/
theorem step_eq_run (sources : Sources) (s : State) (request : Step) :
    (step sources s request).2 = s.run (ops sources s request) := by
  cases request with
  | complete url nth outcome => exact complete_eq_run s url nth outcome
  | drop url nth => exact complete_eq_run s url nth _
  | status uses asker mode =>
      exact (Cache.status_snd sources asker _ s).trans (Cache.lookAll_eq_run asker _ s)
  | manifest uses asker mode =>
      exact (Cache.manifest_snd sources asker _ s).trans (Cache.lookAll_eq_run asker _ s)
  | check path => exact (Check.file_snd sources path s).trans (Cache.lookAll_eq_run _ _ s)
  | refresh uses =>
      simp only [step, ops, Cache.refresh, restarted, State.run, List.foldl_map]
      rfl
  | await url subscriber mode arriving => exact awaitArriving_snd url subscriber mode arriving s
  | answer url outcome => rfl
  | unanswer url => rfl
  | bump => rfl
  | ensure url => rfl
  | restart url => rfl
  | snapshot url => rfl
  | unsubscribe id => rfl

@[simp] theorem run_nil (sources : Sources) (s : State) : run sources s [] = s := rfl

@[simp] theorem run_cons (sources : Sources) (s : State) (request : Step) (requests : List Step) :
    run sources s (request :: requests) = run sources (step sources s request).2 requests := rfl

/-- A session does nothing but its operations. -/
theorem run_eq_run_trace (sources : Sources) (s : State) (requests : List Step) :
    run sources s requests = s.run (trace sources s requests) := by
  induction requests generalizing s with
  | nil => rfl
  | cons request requests ih =>
      rw [run_cons, trace, State.run_append, ← step_eq_run, ih]

theorem trace_append (sources : Sources) (s : State) (earlier rest : List Step) :
    trace sources s (earlier ++ rest) =
      trace sources s earlier ++ trace sources (run sources s earlier) rest := by
  induction earlier generalizing s with
  | nil => rfl
  | cons request earlier ih =>
      rw [List.cons_append, trace, ih, trace, List.append_assoc, run_cons]

/-- After any session, the records and the downloads fit together. -/
theorem run_coherent (sources : Sources) {s : State} (coherent : s.Coherent)
    (requests : List Step) : (run sources s requests).Coherent := by
  rw [run_eq_run_trace]
  exact State.run_coherent coherent _

end Session

end WorkflowLint
