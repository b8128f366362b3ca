/-
# WorkflowLint.LocalAction -- the manifests of local actions

A `./path` reference is seen from the root of the repository when the document
that contains it is a workflow file, and from the directory of the document
otherwise.  Its manifest is the first of two file names that is a file.
-/
import WorkflowLint.FileTree
import WorkflowLint.Manifest
import WorkflowLint.Reference
import WorkflowLint.Workflow.Location

namespace WorkflowLint.LocalAction

set_option autoImplicit false

/-- The file names of manifests, the preferred one first. -/
def manifestNames : List String := ["action.yml", "action.yaml"]

/-- The directory that the local references of a document are seen from. -/
def baseOf (document : Path) : Option Path := workflowRoot? document <|> document.parent?

/-- The text of a local reference without its mark and the slashes at its end. -/
def relativePart (reference : String) : String :=
  let cs := reference.toList
  let cs := (Reference.localMark.toList.isPrefixOf? cs).getD cs
  .ofList (Text.dropEndWhile (· == '/') cs)

/-- The paths where the manifest of a local reference may be, preferred first. -/
def candidates (document : Path) (reference : String) : List Path :=
  match baseOf document with
  | some base => manifestNames.map ((base.join (relativePart reference)).join ·)
  | none => []

def findManifest (files : FileTree) (document : Path) (reference : String) : Option Path :=
  (candidates document reference).find? files.isFile

def manifest? (files : FileTree) (document : Path) (reference : String) : Option Manifest := do
  let path ← findManifest files document reference
  let text ← (files.readText path).toOption
  (Manifest.parse text).toOption

end WorkflowLint.LocalAction
