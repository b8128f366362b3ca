/-
# WorkflowLint.FileTree -- the files that can be read

A `FileTree` says what stands at each path; everything that reads files takes it
as an argument.  `FileTree.ofDirectory` is a tree in memory: a path is followed
step by step, every step but the last has to be a directory, and a slash at the
end asks for a directory as well.
-/
import WorkflowLint.Path

namespace WorkflowLint

set_option autoImplicit false

inductive FileError where
  | notFound
  | notDirectory
  | isDirectory
  /-- The contents are no UTF-8 text. -/
  | invalidData
  deriving DecidableEq, Repr, Inhabited

def FileError.message : FileError → String
  | .notFound => "No such file or directory (os error 2)"
  | .notDirectory => "Not a directory (os error 20)"
  | .isDirectory => "Is a directory (os error 21)"
  | .invalidData => "stream did not contain valid UTF-8"

inductive FileEntry where
  | file (contents : ByteArray)
  | directory

/-- What stands at each path, or why nothing can be said. -/
structure FileTree where
  entry : Path → Except FileError FileEntry

namespace FileTree

def exists? (t : FileTree) (p : Path) : Bool :=
  match t.entry p with
  | .ok _ => true
  | .error _ => false

def isFile (t : FileTree) (p : Path) : Bool :=
  match t.entry p with
  | .ok (.file _) => true
  | _ => false

def isDirectory (t : FileTree) (p : Path) : Bool :=
  match t.entry p with
  | .ok .directory => true
  | _ => false

def readText (t : FileTree) (p : Path) : Except FileError String :=
  match t.entry p with
  | .ok (.file contents) =>
    match String.fromUTF8? contents with
    | some text => .ok text
    | none => .error .invalidData
  | .ok .directory => .error .isDirectory
  | .error e => .error e

end FileTree

/-! ## Trees in memory -/

/-- A file or a directory with what is in it. -/
inductive Directory where
  | file (contents : ByteArray)
  | directory (children : List (String × Directory))
  deriving Inhabited

namespace Directory

def empty : Directory := .directory []

/-- What a directory holds; a file holds nothing. -/
def children : Directory → List (String × Directory)
  | .file _ => []
  | .directory cs => cs

def child? (d : Directory) (name : String) : Option Directory := d.children.lookup name

/-- The directory with something else under a name. -/
def setChild (d : Directory) (name : String) (c : Directory) : Directory :=
  .directory (d.children.filter (fun (n, _) => n != name) ++ [(name, c)])

/-- Puts something at the end of a chain of names; the directories on the way are made. -/
def put (d : Directory) : List String → Directory → Directory
  | [], c => c
  | name :: names, c => d.setChild name (((d.child? name).getD empty).put names c)

/-- Makes the directories on a chain of names, keeping what is there. -/
def makeDirectories (d : Directory) : List String → Directory
  | [] => d
  | name :: names => d.setChild name (((d.child? name).getD empty).makeDirectories names)

/-- Follows the pieces of a path.  `above` holds the directories around the current
one, innermost first. -/
def walk (above : List Directory) (here : Directory) :
    List (List Char) → Except FileError Directory
  | [] => .ok here
  | piece :: pieces =>
    match here with
    | .file _ => .error .notDirectory
    | .directory _ =>
      if Path.isFiller piece then walk above here pieces
      else if piece == ['.', '.'] then
        match above with
        | [] => walk [] here pieces
        | outer :: above => walk above outer pieces
      else
        match here.child? (.ofList piece) with
        | some next => walk (here :: above) next pieces
        | none => .error .notFound

end Directory

/-- The tree below the root directory `top`, seen from the directory `cwd`. -/
def FileTree.ofDirectory (top : Directory) (cwd : Path) : FileTree where
  entry p :=
    if p.text.isEmpty then .error .notFound
    else
      match Directory.walk [] top (Text.splitAll '/' (cwd.join p.text).text.toList) with
      | .ok (.file contents) => .ok (.file contents)
      | .ok (.directory _) => .ok .directory
      | .error e => .error e

end WorkflowLint
