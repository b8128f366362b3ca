/-
# WorkflowLint.Http.Client -- who makes the downloads

A client takes its name and its patience from the settings.  The server is a function
from addresses to answers; where it gives none, nothing is received.
-/
import WorkflowLint.Config
import WorkflowLint.Http

namespace WorkflowLint.Http

set_option autoImplicit false

structure Client where
  /-- The name that it sends with every request. -/
  userAgent : String
  timeoutSecs : Nat
  deriving DecidableEq, Repr

namespace Client

/-- The client that settings ask for, unless its name cannot be sent. -/
def ofConfig (c : FetchConfig) : Option Client :=
  if isHeaderValue c.userAgent then some ⟨c.userAgent, c.requestTimeoutSecs⟩ else none

/-- Whether the client waits for answers at all. -/
def isPatient (c : Client) : Bool := c.timeoutSecs != 0

def isHeaderBlank (ch : Char) : Bool := ch == ' ' || ch == '\t'

/-- The name as a server reads it, if there is one. -/
def shownAgent (c : Client) : Option String :=
  Text.nonempty (Text.dropEndWhile isHeaderBlank (c.userAgent.toList.dropWhile isHeaderBlank))

def get (c : Client) (server : String → Option Answer) (url : String) : Except Error String :=
  if c.isPatient then
    match server url with
    | some answer => answer.result url
    | none => .error .transport
  else .error .transport

end Client

end WorkflowLint.Http
