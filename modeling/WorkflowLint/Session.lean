/-
# WorkflowLint.Session -- a course of requests

A session is a course of requests to one cache, mixed with what happens to its
downloads: some end, some are given up, some addresses begin or cease to answer at
once.  `Session.step` is one request; `Session.run` is a course of them.

A caller that must not block, one whose wait is called off and one whose time is up leave
the same behind (`Fetch.State.await`).  A `WaitMode` counts only where something arrives
while the caller waits, for then a wait that blocks sees it.
-/
import WorkflowLint.Check.Steps

namespace WorkflowLint.Session

set_option autoImplicit false

open Fetch (Outcome Record State)

/-- How a caller waits for a download. -/
inductive WaitMode where
  | nonBlocking
  /-- A wait that ends when the download does, or when its time is up. -/
  | blocking
  /-- A wait that is called off before it begins. -/
  | cancelled
  deriving DecidableEq, Repr, Inhabited

/-- A request, or something that happens to the downloads. -/
inductive Step where
  | answer (url : String) (outcome : Outcome)
  | unanswer (url : String)
  | complete (url : String) (nth : Option Nat) (outcome : Outcome)
  | drop (url : String) (nth : Option Nat)
  | status (uses : String) (asker : Asker) (mode : WaitMode)
  | manifest (uses : String) (asker : Asker) (mode : WaitMode)
  | refresh (uses : String)
  | bump
  | ensure (url : String)
  | restart (url : String)
  /-- Waits for an address; `arriving` ends its downloads soon after. -/
  | await (url : String) (subscriber : Option Nat) (mode : WaitMode) (arriving : Option Outcome)
  | snapshot (url : String)
  | unsubscribe (subscriber : Nat)
  | check (path : Path)

inductive Reply where
  | nothing
  | count (n : Nat)
  | status (status : Status)
  | manifest (manifest : Option Manifest)
  | generation (n : Nat)
  | record (url : String) (record : Record)
  | diagnostics (found : Except Check.FileProblem (List Diagnostic))

/-- Waits for an address while something may arrive.  Only a wait that blocks sees
what arrives; any other has ended by then. -/
def awaitArriving (url : String) (subscriber : Option Nat) (mode : WaitMode)
    (arriving : Option Outcome) (s : State) : Record × State :=
  match arriving with
  | none =>
    let s := s.await url subscriber
    (s.record url, s)
  | some outcome =>
    match mode with
    | .blocking =>
      let s := (s.complete url none outcome).await url subscriber
      (s.record url, s)
    | _ =>
      let s := s.await url subscriber
      (s.record url, s.complete url none outcome)

def step (sources : Sources) (s : State) : Step → Reply × State
  | .answer url outcome => (.nothing, s.setAnswer url (some outcome))
  | .unanswer url => (.nothing, s.setAnswer url none)
  | .complete url nth outcome => (.count (s.chosen url nth).length, s.complete url nth outcome)
  | .drop url nth => (.count (s.chosen url nth).length, s.drop url nth)
  | .status uses asker _ =>
    let (status, s) := Cache.status sources asker (.parse uses) s
    (.status status, s)
  | .manifest uses asker _ =>
    let (manifest, s) := Cache.manifest sources asker (.parse uses) s
    (.manifest manifest, s)
  | .refresh uses => (.nothing, Cache.refresh sources.host uses s)
  | .bump => (.generation s.bump.generation, s.bump)
  | .ensure url =>
    let s := s.ensureStarted url
    (.record url (s.record url), s)
  | .restart url =>
    let s := s.restart url
    (.record url (s.record url), s)
  | .await url subscriber mode arriving =>
    let (record, s) := awaitArriving url subscriber mode arriving s
    (.record url record, s)
  | .snapshot url => (.record url (s.record url), s)
  | .unsubscribe id => (.nothing, s.unsubscribe id)
  | .check path =>
    let (found, s) := Check.file sources path s
    (.diagnostics found, s)

def run (sources : Sources) (s : State) (steps : List Step) : State :=
  steps.foldl (fun s request => (step sources s request).2) s

/-- The reply to each request, and the events that it caused. -/
def replies (sources : Sources) : State → List Step → List (Reply × List Fetch.Event)
  | _, [] => []
  | s, request :: requests =>
    let (reply, next) := step sources s request
    (reply, next.log.drop s.log.length) :: replies sources next requests

end WorkflowLint.Session
