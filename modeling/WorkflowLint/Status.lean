/-
# WorkflowLint.Status -- what is known about a reference
-/

namespace WorkflowLint

set_option autoImplicit false

inductive Status where
  /-- Nothing can be said. -/
  | unknown
  /-- The manifest could not be downloaded, and not because it is missing. -/
  | failed
  | inProgress
  /-- The manifest is there and can be read. -/
  | available
  /-- Not even the default branch has a manifest. -/
  | actionNotFound
  /-- The default branch has a manifest, the revision has none. -/
  | revisionNotFound
  deriving DecidableEq, Repr, Inhabited

def Status.name : Status → String
  | .unknown => "unknown"
  | .failed => "failed"
  | .inProgress => "in_progress"
  | .available => "ok"
  | .actionNotFound => "action_not_found"
  | .revisionNotFound => "action_revision_not_found"

end WorkflowLint
