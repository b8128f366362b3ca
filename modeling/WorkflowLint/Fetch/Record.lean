/-
# WorkflowLint.Fetch.Record -- one manifest address and its downloads

A `Record` is what is known about one address.  Downloads of it are numbered
attempts; only the outcome of the newest one counts, and only while the record is
in progress.  Subscribers wait for that outcome, each of them once.
-/
import WorkflowLint.Manifest

namespace WorkflowLint.Fetch

set_option autoImplicit false

/-- Why a download failed.  The status is that of the answer, if there was one. -/
structure Failure where
  status : Option Nat
  message : String
  deriving DecidableEq, Repr, Inhabited

def Failure.isNotFound (f : Failure) : Bool := f.status == some 404

def Failure.abandoned : Failure := ⟨none, "download abandoned"⟩

inductive Outcome where
  | body (text : String)
  | failure (failure : Failure)
  deriving DecidableEq, Repr, Inhabited

/-- How far the newest attempt at an address is. -/
inductive Stage where
  | notStarted
  | inProgress
  | downloaded
  | failed
  deriving DecidableEq, Repr, Inhabited

/-- What the newest attempt has led to, and who waits for its outcome. -/
structure Phase where
  stage : Stage
  failure? : Option Failure
  /-- The manifest, unless the body is none. -/
  manifest? : Option Manifest
  /-- In ascending order, each of them once. -/
  subscribers : List Nat
  deriving DecidableEq, Repr, Inhabited

namespace Phase

def name (p : Phase) : String :=
  match p.stage with
  | .notStarted => "not_started"
  | .inProgress => "in_progress"
  | .downloaded => "downloaded"
  | .failed => "error"

def isInProgress (p : Phase) : Bool := p.stage == .inProgress

/-- Whether the newest attempt has ended. -/
def isSettled (p : Phase) : Bool := p.stage == .downloaded || p.stage == .failed

/-- The manifest, once it is downloaded. -/
def delivered? (p : Phase) : Option Manifest :=
  if p.stage = .downloaded then p.manifest? else none

/-- The phase that an outcome leads to.  What the attempt began with stays, and no one
waits any longer. -/
def afterOutcome (p : Phase) : Outcome → Phase
  | .body text =>
    { p with stage := .downloaded, manifest? := (Manifest.parse text).toOption, subscribers := [] }
  | .failure f => { p with stage := .failed, failure? := some f, subscribers := [] }

end Phase

structure Record extends phase : Phase where
  /-- The retry generation of the newest attempt. -/
  generation : Nat
  /-- The number of the newest attempt, from one. -/
  attempt : Nat
  deriving DecidableEq, Repr, Inhabited

/-- Puts a number into an ascending list that holds each number once. -/
def insertId (id : Nat) : List Nat → List Nat
  | [] => [id]
  | x :: xs => if id < x then id :: x :: xs else if id = x then x :: xs else x :: insertId id xs

namespace Record

def fresh : Record := ⟨⟨.notStarted, none, none, []⟩, 0, 0⟩

/-- A new attempt in a generation; those who wait go on waiting. -/
def begin (r : Record) (generation : Nat) : Record :=
  { r with
    stage := .inProgress, failure? := none, manifest? := none, generation,
    attempt := r.attempt + 1 }

/-- Whether a look at the address starts a download: when none was ever started,
or the last one failed in another generation. -/
def isDue (r : Record) (generation : Nat) : Bool :=
  match r.stage with
  | .notStarted => true
  | .failed => r.generation != generation
  | _ => false

def accepts (r : Record) (attempt : Nat) : Bool := r.attempt == attempt && r.isInProgress

def settle (r : Record) (outcome : Outcome) : Record :=
  { r with phase := r.phase.afterOutcome outcome }

/-- Lets a caller wait, if there is something to wait for. -/
def subscribe (r : Record) (id : Nat) : Record :=
  if r.isInProgress then { r with subscribers := insertId id r.subscribers } else r

def unsubscribe (r : Record) (id : Nat) : Record :=
  { r with subscribers := r.subscribers.filter (· != id) }

end Record

end WorkflowLint.Fetch
