/-
# WorkflowLint.Reference -- what a `uses` text refers to

A step of a workflow names an action in one of three ways:

* `docker://<image>[:<tag>]`, a container image;
* `./<path>`, a directory of the repository itself;
* `<owner>/<repo>[/<path>][@<revision>]`, an action hosted in a repository.

`Reference.parse` reads every text as one of them; parts that are missing stay
missing, and `isValid` says whether the reference can be used.  `display` writes
a reference as a `uses` text again.
-/
import WorkflowLint.Text.Blank
import WorkflowLint.Text.Split

namespace WorkflowLint

set_option autoImplicit false

/-- An action in a repository: `owner/repo[/path][@revision]`. -/
structure HostedAction where
  owner : String
  repo : Option String
  path : Option String
  revision : Option String
  deriving DecidableEq, Repr, Inhabited

/-- A container image: `docker://name[:tag]`. -/
structure ContainerImage where
  name : String
  tag : Option String
  deriving DecidableEq, Repr, Inhabited

inductive Reference where
  | hosted (action : HostedAction)
  | image (image : ContainerImage)
  | localPath (path : String)
  deriving DecidableEq, Repr, Inhabited

/-- The characters of owners, repositories and image tags. -/
def isReferenceChar (c : Char) : Bool := c.isAlphanum || c == '.' || c == '_' || c == '-'

def isRevisionChar (c : Char) : Bool := isReferenceChar c || c == '/'

/-- A text of at least one character, all of them satisfying `p`. -/
def isWord (p : Char → Bool) (s : String) : Bool := !s.toList.isEmpty && s.toList.all p

/-- The revision that stands for the newest state of the default branch. -/
def headRevision : String := "HEAD"

namespace HostedAction

/-- Reads `owner/repo/path@revision`.  What follows a second `@` does not count. -/
def parse (cs : List Char) : HostedAction :=
  let parts := Text.splitAll '@' cs
  let segments := Text.splitAll '/' (parts.headD [])
  { owner := .ofList (segments.headD [])
    repo := segments[1]?.bind Text.nonempty
    path := Text.nonempty (Text.joinWith '/' (segments.drop 2))
    revision := parts[1]?.bind Text.nonempty }

/-- `owner/repo`, unless only an owner is named. -/
def fullName (a : HostedAction) : Option String :=
  a.repo.map fun repo => a.owner ++ "/" ++ repo

def isRevisionValid (a : HostedAction) : Bool := a.revision.any (isWord isRevisionChar)

/-- Whether the newest state of the default branch is meant. -/
def isHead (a : HostedAction) : Bool := a.revision == some headRevision

def atRevision (a : HostedAction) (revision : String) : HostedAction :=
  { a with revision := some revision }

/-- Whether the action can be used; `ignoreRevision` leaves its revision out of
the question. -/
def isValid (a : HostedAction) (ignoreRevision : Bool) : Bool :=
  match a.repo with
  | none => false
  | some repo =>
    decide (Text.IsTrimmed a.owner) && decide (Text.IsTrimmed repo) &&
      a.path.all (fun path => decide (Text.IsTrimmed path)) &&
      (ignoreRevision || a.isRevisionValid) &&
      isWord isReferenceChar a.owner && isWord isReferenceChar repo

def display (a : HostedAction) : String :=
  a.owner ++ (a.repo.map ("/" ++ ·)).getD "" ++ (a.path.map ("/" ++ ·)).getD "" ++
    (a.revision.map ("@" ++ ·)).getD ""

end HostedAction

namespace ContainerImage

/-- Reads `name:tag`; the name ends at the first colon. -/
def parse (cs : List Char) : ContainerImage :=
  match Text.splitOnce [':'] cs with
  | some (name, tag) => ⟨.ofList name, Text.nonempty tag⟩
  | none => ⟨.ofList cs, none⟩

def isTagValid (i : ContainerImage) : Bool := i.tag.all (isWord isReferenceChar)

def isValid (i : ContainerImage) (ignoreTag : Bool) : Bool :=
  !i.name.isEmpty && decide (Text.IsTrimmed i.name) && (ignoreTag || i.isTagValid)

def mark : String := "docker://"

def display (i : ContainerImage) : String := mark ++ i.name ++ (i.tag.map (":" ++ ·)).getD ""

end ContainerImage

namespace Reference

def localMark : String := "./"

def parse (text : String) : Reference :=
  match ContainerImage.mark.toList.isPrefixOf? text.toList with
  | some rest => .image (.parse rest)
  | none =>
    if localMark.toList.isPrefixOf text.toList then .localPath text
    else .hosted (.parse text.toList)

def hosted? : Reference → Option HostedAction
  | .hosted a => some a
  | _ => none

def isImage : Reference → Bool
  | .image _ => true
  | _ => false

def isLocal : Reference → Bool
  | .localPath _ => true
  | _ => false

def fullName (r : Reference) : Option String := r.hosted?.bind HostedAction.fullName

def revision (r : Reference) : Option String := r.hosted?.bind HostedAction.revision

/-- Whether the reference can be used, its revision or tag perhaps left out of the
question. -/
def isValidWith (ignoreRevision ignoreTag : Bool) : Reference → Bool
  | .hosted a => a.isValid ignoreRevision
  | .image i => i.isValid ignoreTag
  | .localPath _ => true

def isValid (r : Reference) : Bool := r.isValidWith false false

/-- Whether the reference names something, whatever its revision or tag. -/
def isNamed (r : Reference) : Bool := r.isValidWith true true

/-- Whether the revision is well formed; only hosted actions need one. -/
def isRevisionValid (r : Reference) : Bool := r.hosted?.all HostedAction.isRevisionValid

/-- Whether the tag is well formed; only images have one. -/
def isTagValid : Reference → Bool
  | .image i => i.isTagValid
  | _ => true

/-- The same reference at another revision; only hosted actions have one. -/
def atRevision (r : Reference) (revision : String) : Option Reference :=
  r.hosted?.map fun a => .hosted (a.atRevision revision)

def display : Reference → String
  | .hosted a => a.display
  | .image i => i.display
  | .localPath path => path

end Reference

end WorkflowLint
