/-
# WorkflowLint.Workflow.Location -- where workflow files stand

The workflow files of a repository are those directly inside `.github/workflows`
whose extension is `yml` or `yaml`.  `workflowRoot?` finds the repository from
such a path.
-/
import WorkflowLint.Path

namespace WorkflowLint

set_option autoImplicit false

def markerDirectory : String := ".github"

def workflowDirectory : String := "workflows"

def workflowExtensions : List String := ["yml", "yaml"]

/-- The repository that a workflow file belongs to. -/
def workflowRoot? (p : Path) : Option Path := do
  let extension ← p.extension?
  guard (workflowExtensions.contains extension)
  let workflows ← p.parent?
  guard (workflows.fileName? == some workflowDirectory)
  let marker ← workflows.parent?
  guard (marker.fileName? == some markerDirectory)
  marker.parent?

def isWorkflowPath (p : Path) : Bool := (workflowRoot? p).isSome

end WorkflowLint
