/-
# WorkflowLint.Problem -- everything that can go wrong

A `Problem` gathers the errors of all parts under one wording.  Each part has its
own error type and a `problem` that says what it is in these terms; a download that
ends in a problem leaves the failure `Problem.toFailure`.
-/
import WorkflowLint.Check.Steps
import WorkflowLint.Config
import WorkflowLint.Http

namespace WorkflowLint

set_option autoImplicit false

/-- Why something cannot be done. -/
inductive Problem where
  | invalidManifest (reason : String)
  | invalidWorkflow (reason : String)
  | invalidConfig (reason : String)
  | http (cause : Http.Error)
  | file (cause : FileError)
  /-- A text is no YAML. -/
  | yaml
  deriving DecidableEq, Repr

namespace Problem

def message : Problem → String
  | .invalidManifest reason => "invalid manifest: " ++ reason
  | .invalidWorkflow reason => "invalid workflow: " ++ reason
  | .invalidConfig reason => "invalid config: " ++ reason
  | .http e => e.message
  | .file e => e.message
  | .yaml => "invalid YAML"

/-- The status of the answer that is to blame, if one is. -/
def status? : Problem → Option Nat
  | .http e => e.status?
  | _ => none

def toFailure (p : Problem) : Fetch.Failure := ⟨p.status?, p.message⟩

def noMapping : String := "expected a mapping at the top level"

end Problem

def ManifestError.problem : ManifestError → Problem
  | .yaml _ => .yaml
  | .noMapping => .invalidManifest Problem.noMapping

def WorkflowError.problem : WorkflowError → Problem
  | .yaml _ => .yaml
  | .noMapping => .invalidWorkflow Problem.noMapping

def ConfigError.problem : ConfigError → Problem
  | .file e => .file e
  | .invalid => .invalidConfig Config.fileName

def Check.FileProblem.problem : Check.FileProblem → Problem
  | .file e => .file e
  | .workflow e => e.problem

end WorkflowLint
