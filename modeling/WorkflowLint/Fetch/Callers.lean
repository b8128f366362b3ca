/-
# WorkflowLint.Fetch.Callers -- several callers at once

A look at an address (`State.ensureStarted`) is made in two steps that nothing
interrupts: the caller reads the retry generation (`Move.read`) and later comes to the
record (`Move.enter`).  In between, other callers, bumps and ends of downloads may
come.  A `Shared` holds the downloads together with the visits that are between their
two steps; a schedule is a list of moves.
-/
import WorkflowLint.Fetch.State

namespace WorkflowLint.Fetch

set_option autoImplicit false

/-- A look at an address whose caller has read the retry generation and has not come to
the record yet. -/
structure Visit where
  url : String
  generation : Nat
  deriving DecidableEq, Repr, Inhabited

/-- The downloads, and the visits of all callers that are under way. -/
structure Shared where
  state : State
  visits : List Visit

/-- What one caller or the surroundings do without interruption. -/
inductive Move where
  | read (url : String)
  | enter (visit : Visit)
  | bump
  | close (d : Download) (outcome : Outcome)
  deriving DecidableEq, Repr

/-- What a move leaves.  Two visits that read the same are as one to the record, so it
does not matter which of them comes to it. -/
def Move.apply (s : Shared) : Move → Shared
  | .read url => { s with visits := ⟨url, s.state.generation⟩ :: s.visits }
  | .enter visit =>
    if visit ∈ s.visits then
      ⟨s.state.ensureStartedIn visit.url visit.generation, s.visits.erase visit⟩
    else s
  | .bump => { s with state := s.state.bump }
  | .close d outcome => { s with state := s.state.close d outcome }

namespace Shared

def initial (answers : String → Option Outcome) : Shared := ⟨.initial answers, []⟩

def run (s : Shared) (schedule : List Move) : Shared := schedule.foldl Move.apply s

end Shared

end WorkflowLint.Fetch
