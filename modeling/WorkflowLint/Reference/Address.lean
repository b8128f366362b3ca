/-
# WorkflowLint.Reference.Address -- where a reference can be looked at

`Reference.pageUrl` is the page that shows a reference in a browser.
`ManifestHost.url` is where the manifest of a hosted action can be downloaded; a
missing or malformed revision means the newest state of the default branch.
-/
import WorkflowLint.Reference

namespace WorkflowLint

set_option autoImplicit false

def withoutSlashes (s : String) : String := .ofList (Text.dropEndWhile (· == '/') s.toList)

/-- The directory of official images. -/
def imageDirectory : String := "https://hub.docker.com/_"

def HostedAction.pageUrl (a : HostedAction) (base : String) : Option String :=
  a.repo.map fun repo =>
    withoutSlashes base ++ "/" ++ a.owner ++ "/" ++ repo ++ "/tree/" ++
      a.revision.getD headRevision ++ (a.path.map ("/" ++ ·)).getD ""

/-- Whether an image lies in a registry with pages: two known hosts, and below
them a group and a name. -/
def ContainerImage.hasRegistryPage (i : ContainerImage) : Bool :=
  let cs := i.name.toList
  ("ghcr.io/".toList.isPrefixOf cs || "gcr.io/".toList.isPrefixOf cs) &&
    cs.count '/' == 2 && i.isValid false

/-- The page of an image: official images have a directory, and some registries
have pages. -/
def ContainerImage.pageUrl (i : ContainerImage) : Option String :=
  if !i.name.toList.contains '/' then some (imageDirectory ++ "/" ++ i.name)
  else if i.hasRegistryPage then some ("https://" ++ i.name)
  else none

def Reference.pageUrl (r : Reference) (base : String) : Option String :=
  match r with
  | .hosted a => a.pageUrl base
  | .image i => i.pageUrl
  | .localPath _ => none

def manifestFile : String := "action.yml"

/-- A host that serves the files of repositories as they are. -/
structure ManifestHost where
  base : String
  deriving DecidableEq, Repr, Inhabited

namespace ManifestHost

/-- The host at an address; slashes at its end do not count. -/
def ofAddress (base : String) : ManifestHost := ⟨withoutSlashes base⟩

def defaultBase : String := "https://raw.githubusercontent.com"

/-- The revision to download: a missing or malformed one means the default branch. -/
def revisionOf (a : HostedAction) : String :=
  match a.revision with
  | some revision => if a.isRevisionValid then revision else headRevision
  | none => headRevision

/-- Where the manifest of a hosted action is, if it names a repository. -/
def actionUrl (host : ManifestHost) (a : HostedAction) : Option String :=
  a.repo.map fun repo =>
    host.base ++ "/" ++ a.owner ++ "/" ++ repo ++ "/" ++ revisionOf a ++ "/" ++
      (a.path.map (· ++ "/")).getD "" ++ manifestFile

/-- Where the manifest of a reference is; only hosted actions have one to download. -/
def url (host : ManifestHost) (r : Reference) : Option String := r.hosted?.bind host.actionUrl

end ManifestHost

end WorkflowLint
