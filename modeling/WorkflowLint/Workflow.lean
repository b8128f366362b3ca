/-
# WorkflowLint.Workflow -- the steps of a workflow file

`Workflow.scan` lists what a workflow uses and runs, in the order of the file.
A job is an entry of `jobs` whose key is a string and whose value a mapping; its
steps are the mappings of its `steps` sequence, and a step is known by its position
in that sequence.  A job may itself use a reusable workflow.
-/
import WorkflowLint.Yaml.Value

namespace WorkflowLint

set_option autoImplicit false

/-- A use of something by a job or by one of its steps. -/
structure UsesEntry where
  job : String
  /-- The position of the step; none for the job itself. -/
  step : Option Nat
  name : Option String
  uses : String
  /-- The keys of the values passed along, in order. -/
  withKeys : List String
  deriving DecidableEq, Repr, Inhabited

structure RunEntry where
  job : String
  step : Nat
  name : Option String
  script : String
  /-- The shell of the step, or else the default shell of the job. -/
  shell : Option String
  /-- The label of the machine that runs the job, if there is just one. -/
  runsOn : Option String
  deriving DecidableEq, Repr, Inhabited

def stepLocation (job : String) (step : Nat) : String :=
  job ++ ".steps[" ++ toString step ++ "]"

/-- Where the entry stands: `job.steps[n]`, or `job` for the job itself. -/
def UsesEntry.location (e : UsesEntry) : String :=
  match e.step with
  | some step => stepLocation e.job step
  | none => e.job

def RunEntry.location (e : RunEntry) : String := stepLocation e.job e.step

structure Workflow where
  uses : List UsesEntry
  runs : List RunEntry
  deriving DecidableEq, Repr, Inhabited

inductive WorkflowError where
  | yaml (cause : Yaml.Error)
  /-- The document is no mapping. -/
  | noMapping
  deriving DecidableEq, Repr

namespace Workflow

open Yaml (Value Entries)

def empty : Workflow := ⟨[], []⟩

def append (a b : Workflow) : Workflow := ⟨a.uses ++ b.uses, a.runs ++ b.runs⟩

def stringAt (entries : Entries) (key : String) : Option String :=
  (Value.lookup? entries key).bind Value.string?

/-- The keys of the values that a step passes along. -/
def withKeysOf (step : Entries) : List String :=
  match Value.lookup? step "with" with
  | some (.mapping entries) => entries.filterMap fun (k, _) => k.string?
  | _ => []

/-- The shell that a job sets for its steps. -/
def defaultShellOf (job : Entries) : Option String := do
  let defaults ← Value.lookup? job "defaults"
  let run ← defaults.get? "run"
  let shell ← run.get? "shell"
  shell.string?

def usesOfStep (job : String) (position : Nat) (step : Entries) : Option UsesEntry :=
  (stringAt step "uses").map fun uses =>
    { job, step := some position, name := stringAt step "name", uses, withKeys := withKeysOf step }

def runOfStep (job : String) (defaultShell runsOn : Option String) (position : Nat)
    (step : Entries) : Option RunEntry :=
  (stringAt step "run").map fun script =>
    { job, step := position, name := stringAt step "name", script
      shell := stringAt step "shell" <|> defaultShell, runsOn }

/-- The steps of a job that are mappings, with their positions. -/
def stepsOf (job : Entries) : List (Nat × Entries) :=
  match Value.lookup? job "steps" with
  | some (.sequence steps) =>
    steps.zipIdx.filterMap fun
      | (.mapping step, position) => some (position, step)
      | _ => none
  | _ => []

def usesOfJob (id : String) (job : Entries) : Option UsesEntry :=
  (stringAt job "uses").map fun uses =>
    { job := id, step := none, name := stringAt job "name", uses, withKeys := [] }

def ofJob (id : String) (job : Entries) : Workflow :=
  let steps := stepsOf job
  let shell := defaultShellOf job
  let runsOn := stringAt job "runs-on"
  { uses := (usesOfJob id job).toList ++ steps.filterMap fun (n, step) => usesOfStep id n step
    runs := steps.filterMap fun (n, step) => runOfStep id shell runsOn n step }

/-- The jobs of a document, with their identifiers. -/
def jobsOf (document : Entries) : List (String × Entries) :=
  match Value.lookup? document "jobs" with
  | some (.mapping jobs) =>
    jobs.filterMap fun
      | (key, .mapping job) => key.string?.map fun id => (id, job)
      | _ => none
  | _ => []

def ofDocument (document : Entries) : Workflow :=
  ((jobsOf document).map fun (id, job) => ofJob id job).foldr append empty

/-- Scans the document that a reader of YAML finds in a text. -/
def scanWith (reader : String → Except Yaml.Error Value) (text : String) :
    Except WorkflowError Workflow :=
  match reader text with
  | .error e => .error (.yaml e)
  | .ok (.mapping document) => .ok (ofDocument document)
  | .ok _ => .error .noMapping

def scan (text : String) : Except WorkflowError Workflow := scanWith Yaml.value text

end Workflow

end WorkflowLint
