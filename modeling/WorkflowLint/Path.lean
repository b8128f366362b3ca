/-
# WorkflowLint.Path -- paths as texts and as components

A path is a text cut at slashes.  Empty pieces and pieces `.` mean nothing, except
that a leading slash is the root and a leading `.` is the current directory.
`components` is what a path means; `parent?`, `join` and `fileName?` work on the
text and leave the rest of it as it is written.
-/
import WorkflowLint.Text.Split
import WorkflowLint.Text.Blank

namespace WorkflowLint

set_option autoImplicit false

structure Path where
  text : String
  deriving DecidableEq, Repr, Inhabited

/-- One step of a path. -/
inductive Component where
  | root
  | current
  | parent
  | name (text : String)
  deriving DecidableEq, Repr, Inhabited

namespace Path

/-- The leading slash or `.` of a path, and the text behind it. -/
def cutLead : List Char → List Char × List Char
  | '/' :: rest => (['/'], rest)
  | ['.'] => (['.'], [])
  | '.' :: '/' :: rest => (['.'], '/' :: rest)
  | cs => ([], cs)

/-- Pieces between slashes that mean nothing. -/
def isFiller (piece : List Char) : Bool := piece.isEmpty || piece == ['.']

/-- The pieces up to the last one that means something. -/
def withoutFillers (pieces : List (List Char)) : List (List Char) :=
  (pieces.reverse.dropWhile isFiller).reverse

def pieces (p : Path) : List (List Char) :=
  withoutFillers (Text.splitAll '/' (cutLead p.text.toList).2)

def stepOf (piece : List Char) : Option Component :=
  if isFiller piece then none
  else if piece == ['.', '.'] then some .parent
  else some (.name (.ofList piece))

def leadStep : List Char → Option Component
  | ['/'] => some .root
  | ['.'] => some .current
  | _ => none

def components (p : Path) : List Component :=
  (leadStep (cutLead p.text.toList).1).toList ++ p.pieces.filterMap stepOf

/-- Whether a path starts at the root. -/
def isAbsolute (p : Path) : Bool := p.text.toList.head? == some '/'

/-- The path without its last step, unless that is the root or missing. -/
def parent? (p : Path) : Option Path :=
  let lead := (cutLead p.text.toList).1
  if p.pieces.isEmpty then
    if lead == ['.'] then some ⟨""⟩ else none
  else
    some ⟨.ofList (lead ++ Text.joinWith '/' (withoutFillers p.pieces.dropLast))⟩

/-- The last step of a path, if it is a name. -/
def fileName? (p : Path) : Option String :=
  match p.pieces.getLast? with
  | some piece => if piece == ['.', '.'] then none else some (.ofList piece)
  | none => none

/-- What stands behind the last dot of a text, if something stands before it. -/
def extensionOf? (cs : List Char) : Option (List Char) :=
  let back := cs.reverse
  let after := back.takeWhile (· != '.')
  if after.length + 1 < cs.length then some after.reverse else none

def extension? (p : Path) : Option String :=
  p.fileName?.bind fun name => (extensionOf? name.toList).map .ofList

/-- The path `q`, seen from the directory `p`. -/
def join (p : Path) (q : String) : Path :=
  if isAbsolute ⟨q⟩ then ⟨q⟩
  else
    match p.text.toList.getLast? with
    | none => ⟨q⟩
    | some '/' => ⟨p.text ++ q⟩
    | some _ => ⟨p.text ++ "/" ++ q⟩

/-- The path and all its parents, nearest first, in at most so many steps. -/
def ancestorsIn : Nat → Path → List Path
  | 0, _ => []
  | steps + 1, p =>
    p :: (match p.parent? with
      | some parent => ancestorsIn steps parent
      | none => [])

def ancestors (p : Path) : List Path := ancestorsIn (p.text.length + 2) p

end Path

end WorkflowLint
