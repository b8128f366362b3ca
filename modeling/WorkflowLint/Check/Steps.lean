/-
# WorkflowLint.Check.Steps -- checking a whole workflow

The steps are checked one by one, in the order of the file: first the reference of
each step, and only if nothing is wrong with it, the inputs that the step passes.
Jobs that use reusable workflows have no manifest and are not checked.  Scripts
are checked last, and only in workflow files.
-/
import WorkflowLint.Cache
import WorkflowLint.Check.Inputs
import WorkflowLint.Check.Uses
import WorkflowLint.Workflow

namespace WorkflowLint.Check

set_option autoImplicit false

open Fetch (State)

def ofEntry (e : UsesEntry) (f : Finding) : Diagnostic := ⟨e.location, some e.uses, none, f⟩

def ofScript (e : RunEntry) (d : DeprecatedCommand) : Diagnostic :=
  ⟨e.location, none, some d.line, .command d⟩

/-- The finding on the reference of a step, with the status looked up if need be. -/
def entryUses (sources : Sources) (asker : Asker) (e : UsesEntry) (s : State) :
    Option UsesFinding × State :=
  match examine e.uses with
  | .finding f => (some f, s)
  | .clean => (none, s)
  | .ask a revision =>
    let (status, s) := Cache.status sources asker (.hosted a) s
    (judge a revision status, s)

/-- The findings on the inputs of a step whose reference is clean. -/
def entryInputs (sources : Sources) (asker : Asker) (e : UsesEntry) (s : State) :
    List InputFinding × State :=
  let r := Reference.parse e.uses
  if e.uses.isEmpty || r.isImage then ([], s)
  else
    match Cache.manifest sources asker r s with
    | (some m, s) => (inputs m e.withKeys, s)
    | (none, s) => ([], s)

def entry (sources : Sources) (asker : Asker) (e : UsesEntry) (s : State) :
    List Diagnostic × State :=
  if e.step.isNone then ([], s)
  else
    match entryUses sources asker e s with
    | (some f, s) => ([ofEntry e (.uses f)], s)
    | (none, s) =>
      let (found, s) := entryInputs sources asker e s
      (found.map fun f => ofEntry e (.input f), s)

def entries (sources : Sources) (asker : Asker) : List UsesEntry → State → List Diagnostic × State
  | [], s => ([], s)
  | e :: es, s =>
    let (first, s) := entry sources asker e s
    let (rest, s) := entries sources asker es s
    (first ++ rest, s)

def script (e : RunEntry) : List Diagnostic :=
  (Script.deprecatedCommands e.script (.guess e.shell e.runsOn)).map (ofScript e)

def scripts (runs : List RunEntry) : List Diagnostic := runs.flatMap script

def steps (sources : Sources) (path : Path) (w : Workflow) (s : State) :
    List Diagnostic × State :=
  let (found, s) := entries sources (.of path) w.uses s
  (found ++ if isWorkflowPath path then scripts w.runs else [], s)

inductive FileProblem where
  | file (cause : FileError)
  | workflow (cause : WorkflowError)
  deriving DecidableEq, Repr

def scanFile (files : FileTree) (path : Path) : Except FileProblem Workflow :=
  match files.readText path with
  | .error e => .error (.file e)
  | .ok text =>
    match Workflow.scan text with
    | .error e => .error (.workflow e)
    | .ok w => .ok w

def file (sources : Sources) (path : Path) (s : State) :
    Except FileProblem (List Diagnostic) × State :=
  match scanFile sources.files path with
  | .error e => (.error e, s)
  | .ok w =>
    let (found, s) := steps sources path w s
    (.ok found, s)

end WorkflowLint.Check
