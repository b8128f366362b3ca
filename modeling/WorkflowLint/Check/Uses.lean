/-
# WorkflowLint.Check.Uses -- checking one `uses` text

`examine` decides everything that the text alone decides; the first rule that
fails wins.  Only for a hosted action at a well-formed revision is there a question
left (`Verdict.ask`), and `judge` turns the answer to it into a finding.
-/
import WorkflowLint.Finding
import WorkflowLint.Reference
import WorkflowLint.Status

namespace WorkflowLint.Check

set_option autoImplicit false

/-- What a `uses` text alone decides. -/
inductive Verdict where
  | finding (finding : UsesFinding)
  /-- Nothing is wrong, and nothing has to be asked. -/
  | clean
  /-- It depends on the status of the action at the revision. -/
  | ask (action : HostedAction) (revision : String)
  deriving DecidableEq, Repr, Inhabited

/-- What the text of a reference decides once it is free of blanks at its ends. -/
def examineReference (r : Reference) : Verdict :=
  if !r.isNamed then .finding .invalid
  else if r.revision.isSome && !r.isRevisionValid then .finding .invalidRevision
  else if !r.isTagValid then .finding .invalidTag
  else
    match r with
    | .hosted a =>
      match a.revision with
      | some revision => .ask a revision
      | none => .finding .missingRevision
    | _ => .clean

def examine (text : String) : Verdict :=
  if text.isEmpty then .clean
  else if Text.IsTrimmed text then examineReference (.parse text)
  else .finding .untrimmed

def judge (a : HostedAction) (revision : String) (status : Status) : Option UsesFinding :=
  let name := a.fullName.getD a.owner
  match status with
  | .failed => some (.notFetched name)
  | .actionNotFound => some (.actionNotFound name)
  | .revisionNotFound => some (.revisionNotFound name revision)
  | _ => none

/-- Checks a `uses` text, asking for the status of the reference if need be. -/
def uses (text : String) (status : Reference → Status) : Option UsesFinding :=
  match examine text with
  | .finding f => some f
  | .clean => none
  | .ask a revision => judge a revision (status (.hosted a))

end WorkflowLint.Check
