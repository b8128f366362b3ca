/-
# WorkflowLint.Finding -- what the checks report

A finding is about a `uses` text, about the inputs passed to an action, or about a
command echoed by a script.  Each kind has its severity and its wording here; the
checks themselves only decide which finding there is.
-/
import WorkflowLint.Script

namespace WorkflowLint

set_option autoImplicit false

inductive Severity where
  | deprecated
  | warning
  | error
  deriving DecidableEq, Repr, Inhabited

namespace Severity

def name : Severity → String
  | .deprecated => "deprecated"
  | .warning => "warning"
  | .error => "error"

/-- The rank of a severity, the most serious highest. -/
def rank : Severity → Nat
  | .deprecated => 0
  | .warning => 1
  | .error => 2

def worse (a b : Severity) : Severity := if a.rank < b.rank then b else a

def worst? : List Severity → Option Severity
  | [] => none
  | s :: rest => some (rest.foldl worse s)

end Severity

/-- What is wrong with a `uses` text. -/
inductive UsesFinding where
  | untrimmed
  | invalid
  | invalidRevision
  | invalidTag
  | missingRevision
  | notFetched (action : String)
  | actionNotFound (action : String)
  | revisionNotFound (action revision : String)
  deriving DecidableEq, Repr, Inhabited

namespace UsesFinding

def severity : UsesFinding → Severity
  | .notFetched _ => .warning
  | _ => .error

def message : UsesFinding → String
  | .untrimmed => "leading or trailing whitespace is not allowed"
  | .invalid => "invalid action reference"
  | .invalidRevision => "invalid ref"
  | .invalidTag => "invalid docker tag"
  | .missingRevision => "missing ref, use <owner>/<repo>@<ref>"
  | .notFetched action => "could not download the manifest of '" ++ action ++ "'"
  | .actionNotFound action => "action '" ++ action ++ "' not found"
  | .revisionNotFound action revision => "ref '" ++ revision ++ "' not found in '" ++ action ++ "'"

end UsesFinding

/-- What is wrong with the inputs passed to an action. -/
inductive InputFinding where
  | unknown (input : String)
  | deprecated (input message : String)
  | missing (input : String)
  deriving DecidableEq, Repr, Inhabited

namespace InputFinding

def input : InputFinding → String
  | .unknown input => input
  | .deprecated input _ => input
  | .missing input => input

def severity : InputFinding → Severity
  | .deprecated _ _ => .deprecated
  | _ => .warning

def message : InputFinding → String
  | .unknown input => "input '" ++ input ++ "' is not declared"
  | .deprecated input message => "input '" ++ input ++ "' is deprecated: " ++ message
  | .missing input => "required input '" ++ input ++ "' is not set"

end InputFinding

inductive Finding where
  | uses (finding : UsesFinding)
  | input (finding : InputFinding)
  | command (finding : DeprecatedCommand)
  deriving DecidableEq, Repr, Inhabited

namespace Finding

def severity : Finding → Severity
  | .uses f => f.severity
  | .input f => f.severity
  | .command _ => .warning

def message : Finding → String
  | .uses f => f.message
  | .input f => f.message
  | .command f => f.message

end Finding

/-- A finding and where it is in a workflow. -/
structure Diagnostic where
  location : String
  /-- The `uses` text that the finding is about. -/
  uses : Option String
  /-- The line of the script that the finding is about. -/
  line : Option Nat
  finding : Finding
  deriving DecidableEq, Repr, Inhabited

namespace Diagnostic

def severity (d : Diagnostic) : Severity := d.finding.severity

def message (d : Diagnostic) : String := d.finding.message

end Diagnostic

end WorkflowLint
