/-
# WorkflowLint.Fetch.State -- downloads and those who wait for them

A `State` holds a record for every address, the retry generation, and the
downloads that are under way.  A look at an address (`ensureStarted`) starts a
download when one is due; `restart` starts one in any case; `bump` makes failed
addresses due once more.  Each start hands out a `Download`, which ends exactly
once: it is completed or dropped.

Some addresses answer at once (`answers`): there a download ends in the step that
starts it.  All starts and all wake-ups are noted in `log`, in their order.

A wait for an address that stays in progress ends in one of three ways: at once for a
caller that must not block, when it is called off, or when its time is up.  No time passes
here, and each of the three registers the subscriber and changes nothing else, so
`State.await` is all of them.

The retry generation and the numbers of the attempts are 64-bit counters that begin at zero
and go up by one; they are natural numbers here, so they never run over.
-/
import WorkflowLint.Fetch.Record

namespace WorkflowLint.Fetch

set_option autoImplicit false

structure Download where
  url : String
  attempt : Nat
  deriving DecidableEq, Repr, Inhabited

/-- What can be observed from outside. -/
inductive Event where
  | started (url : String)
  | notified (subscriber : Nat) (url : String)
  deriving DecidableEq, Repr, Inhabited

structure State where
  record : String → Record
  generation : Nat
  /-- The downloads under way, oldest first. -/
  pending : List Download
  /-- The outcomes of addresses that answer at once. -/
  answers : String → Option Outcome
  log : List Event

namespace State

def initial (answers : String → Option Outcome) : State :=
  ⟨fun _ => .fresh, 0, [], answers, []⟩

def setRecord (s : State) (url : String) (r : Record) : State :=
  { s with record := fun u => if u = url then r else s.record u }

def note (s : State) (events : List Event) : State := { s with log := s.log ++ events }

/-- The end of a download.  If it counts, the record settles and every subscriber is
woken once, in the order of their numbers; else nothing happens. -/
def finish (s : State) (d : Download) (outcome : Outcome) : State :=
  let r := s.record d.url
  if r.accepts d.attempt then
    (s.setRecord d.url (r.settle outcome)).note
      (r.subscribers.map fun id => .notified id d.url)
  else s

/-- Hands out the download of the newest attempt; an address that answers at once
ends it right away. -/
def dispatch (s : State) (url : String) : State :=
  let d : Download := ⟨url, (s.record url).attempt⟩
  let s := s.note [.started url]
  match s.answers url with
  | some outcome => s.finish d outcome
  | none => { s with pending := s.pending ++ [d] }

def start (s : State) (url : String) (generation : Nat) : State :=
  (s.setRecord url ((s.record url).begin generation)).dispatch url

/-- Starts a download if one is due, for a caller that has read this generation. -/
def ensureStartedIn (s : State) (url : String) (generation : Nat) : State :=
  if (s.record url).isDue generation then s.start url generation else s

def ensureStarted (s : State) (url : String) : State := s.ensureStartedIn url s.generation

/-- Starts a download whatever is known; an earlier one no longer counts. -/
def restart (s : State) (url : String) : State := s.start url s.generation

/-- Makes every failed address due once more. -/
def bump (s : State) : State := { s with generation := s.generation + 1 }

/-- Waits for an address, however the wait ends.  Nothing arrives in the meantime, so what
is still in progress stays so, and the caller is woken later. -/
def await (s : State) (url : String) (subscriber : Option Nat) : State :=
  match subscriber with
  | some id => s.setRecord url ((s.record url).subscribe id)
  | none => s

def unsubscribe (s : State) (id : Nat) : State :=
  { s with record := fun u => (s.record u).unsubscribe id }

/-- Lets an address answer at once from now on. -/
def setAnswer (s : State) (url : String) (answer : Option Outcome) : State :=
  { s with answers := fun u => if u = url then answer else s.answers u }

def close (s : State) (d : Download) (outcome : Outcome) : State :=
  if d ∈ s.pending then ({ s with pending := s.pending.erase d }).finish d outcome else s

/-- The downloads of an address that are meant, oldest first: the `nth` of those under
way, or all. -/
def chosen (s : State) (url : String) (nth : Option Nat) : List Download :=
  let ofUrl := s.pending.filter (·.url == url)
  match nth with
  | some n => ofUrl[n]?.toList
  | none => ofUrl

/-- Ends downloads of an address that are under way, oldest first. -/
def complete (s : State) (url : String) (nth : Option Nat) (outcome : Outcome) : State :=
  (s.chosen url nth).foldl (fun s d => s.close d outcome) s

def drop (s : State) (url : String) (nth : Option Nat) : State :=
  s.complete url nth (.failure .abandoned)

end State

end WorkflowLint.Fetch
