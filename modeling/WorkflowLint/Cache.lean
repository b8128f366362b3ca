/-
# WorkflowLint.Cache -- the manifest and the status of a reference

A hosted action is looked up by downloading its manifest, a local one by reading a
file; nothing is known of images.  When the manifest of a hosted action is not
found at its revision, that of the default branch decides whether the action is
missing or only the revision.

Every lookup takes the state of the downloads and returns the state it leaves.
-/
import WorkflowLint.Fetch.State
import WorkflowLint.LocalAction
import WorkflowLint.Reference.Address
import WorkflowLint.Status

namespace WorkflowLint

set_option autoImplicit false

structure Sources where
  host : ManifestHost
  files : FileTree

/-- Who asks: the document that contains the reference, and the subscriber to wake
when the answer is not there yet. -/
structure Asker where
  document : Option Path
  subscriber : Option Nat
  deriving DecidableEq, Repr

def Asker.of (document : Path) : Asker := ⟨some document, none⟩

namespace Cache

open Fetch (State Phase)

/-- Looks at an address: starts a download if one is due, and waits for it. -/
def look (asker : Asker) (url : String) (s : State) : State :=
  (s.ensureStarted url).await url asker.subscriber

/-- What the record of an address says about an action. -/
def statusOfPhase (p : Phase) : Status :=
  match p.stage with
  | .notStarted => .unknown
  | .inProgress => .inProgress
  | .downloaded => if p.manifest?.isSome then .available else .unknown
  | .failed => if p.failure?.any (·.isNotFound) then .actionNotFound else .failed

/-- What the default branch says about an action whose revision has no manifest. -/
def statusBelowHead : Status → Status
  | .available => .revisionNotFound
  | status => status

def localManifest (sources : Sources) (asker : Asker) : Reference → Option Manifest
  | .localPath path =>
    asker.document.bind fun document => LocalAction.manifest? sources.files document path
  | _ => none

/-- The status of an action whose manifest is at `url`. -/
def hostedStatus (sources : Sources) (asker : Asker) (a : HostedAction) (url : String)
    (s : State) : Status × State :=
  let s := look asker url s
  let status := statusOfPhase (s.record url).phase
  if status = .actionNotFound && !a.isHead then
    match sources.host.actionUrl (a.atRevision headRevision) with
    | some headUrl =>
      let s := look asker headUrl s
      (statusBelowHead (statusOfPhase (s.record headUrl).phase), s)
    | none => (.unknown, s)
  else (status, s)

def status (sources : Sources) (asker : Asker) (r : Reference) (s : State) : Status × State :=
  if r.isNamed then
    match r with
    | .hosted a =>
      match sources.host.actionUrl a with
      | some url => hostedStatus sources asker a url s
      | none => (.unknown, s)
    | r => (if (localManifest sources asker r).isSome then .available else .unknown, s)
  else (.unknown, s)

def manifest (sources : Sources) (asker : Asker) (r : Reference) (s : State) :
    Option Manifest × State :=
  if r.isNamed then
    match sources.host.url r with
    | some url =>
      let s := look asker url s
      ((s.record url).phase.delivered?, s)
    | none => (localManifest sources asker r, s)
  else (none, s)

/-- The failure of the last download of a reference's manifest. -/
def failure? (host : ManifestHost) (r : Reference) (s : State) : Option Fetch.Failure :=
  (host.url r).bind fun url => (s.record url).failure?

/-- The addresses that decide on a hosted action: its own, and that of the default
branch unless it is the same. -/
def addressesOf (host : ManifestHost) (r : Reference) : List String :=
  match host.url r with
  | none => []
  | some url =>
    if r.revision = some headRevision then [url]
    else
      match (r.atRevision headRevision).bind host.url with
      | some headUrl => if headUrl = url then [url] else [url, headUrl]
      | none => [url]

/-- Downloads again whatever decides on a reference. -/
def refresh (host : ManifestHost) (uses : String) (s : State) : State :=
  (addressesOf host (.parse uses)).foldl State.restart s

end Cache

end WorkflowLint
