/-
# WorkflowLint.Http -- downloads over HTTP

`Http.target?` says what is asked of the server for an address, in the form of the
URL standard: dot segments are resolved and characters that may not stand in a URL
are escaped.  `Http.outcomeOf` says how a download ends: an answer with a status
from 200 to 299 is a success, any other a failure that keeps its status.
-/
import WorkflowLint.Fetch.Record
import WorkflowLint.Text.Blank
import WorkflowLint.Text.Split

namespace WorkflowLint.Http

set_option autoImplicit false

open Fetch (Failure Outcome)

inductive Error where
  | status (code : Nat) (url : String)
  /-- No answer was received. -/
  | transport
  deriving DecidableEq, Repr

def Error.message : Error → String
  | .status code url => "request failed with status code " ++ toString code ++ ": " ++ url
  | .transport => "error sending request"

/-- The status of the answer, if there was one. -/
def Error.status? : Error → Option Nat
  | .status code _ => some code
  | .transport => none

def Error.toFailure (e : Error) : Failure := ⟨e.status?, e.message⟩

/-- Whether a text may be the value of a header: no control character but the tab. -/
def isHeaderValue (s : String) : Bool :=
  s.toUTF8.toList.all fun b => b == 9 || (0x20 ≤ b && b != 0x7f)

structure Answer where
  status : Nat
  body : String
  deriving DecidableEq, Repr, Inhabited

/-- How the download of an address ends with this answer.  An answer without
content has no body, whatever the server sends. -/
def Answer.result (a : Answer) (url : String) : Except Error String :=
  if 200 ≤ a.status && a.status < 300 then .ok (if a.status = 204 then "" else a.body)
  else if a.status < 200 || 1000 ≤ a.status then .error .transport
  else .error (.status a.status url)

def outcomeOf : Except Error String → Outcome
  | .ok body => .body body
  | .error e => .failure e.toFailure

/-! ## Request targets -/

def escapeOctet (b : UInt8) : List Char :=
  let digit (n : Nat) : Char := ((Nat.toDigits 16 n).headD '0').toUpper
  ['%', digit (b.toNat / 16), digit (b.toNat % 16)]

/-- Escapes the characters beyond printable ASCII and those of a set. -/
def escapeChars (set : List Char) (cs : List Char) : List Char :=
  cs.flatMap fun c =>
    if c.toNat ≤ 0x20 || 0x7F ≤ c.toNat || set.contains c then
      (String.singleton c).toUTF8.toList.flatMap escapeOctet
    else [c]

def pathSet : List Char := ['"', '#', '<', '>', '?', '\x60', '\x7b', '\x7d']

def querySet : List Char := ['"', '#', '<', '>', '\'']

/-- A segment with its escaped dots written out, in lower case. -/
def plainDots : List Char → List Char
  | '%' :: '2' :: c :: cs => if c.toLower = 'e' then '.' :: plainDots cs else '%' :: '2' :: c :: cs
  | '.' :: cs => '.' :: plainDots cs
  | cs => cs

/-- Resolves dot segments.  `kept` holds the segments before these, last one first. -/
def resolveDots (kept : List (List Char)) : List (List Char) → List (List Char)
  | [] => kept.reverse
  | segment :: rest =>
    let dots := plainDots segment
    if dots = ['.', '.'] then
      if rest.isEmpty then (([] : List Char) :: kept.drop 1).reverse
      else resolveDots (kept.drop 1) rest
    else if dots = ['.'] then
      if rest.isEmpty then (([] : List Char) :: kept).reverse else resolveDots kept rest
    else resolveDots (segment :: kept) rest

def pathOf (cs : List Char) : List Char :=
  let segments := Text.splitAll '/' (cs.map fun c => if c = '\\' then '/' else c)
  '/' :: Text.joinWith '/' ((resolveDots [] (segments.drop 1)).map (escapeChars pathSet))

/-- What is asked of a server for the text behind its host and port; `none` if the
text would change the host or the port. -/
def target? (behind : String) : Option String :=
  let cs := behind.toList.filter fun c => c != '\t' && c != '\n' && c != '\r'
  let cs := Text.dropEndWhile (fun c => c.toNat ≤ 0x20) cs
  let beforeFragment := (Text.splitAll '#' cs).headD []
  let (path, query) := (Text.splitOnce ['?'] beforeFragment).map
    (fun (p, q) => (p, '?' :: escapeChars querySet q)) |>.getD (beforeFragment, [])
  match path with
  | [] => some (.ofList ('/' :: query))
  | c :: _ => if c = '/' || c = '\\' then some (.ofList (pathOf path ++ query)) else none

end WorkflowLint.Http
