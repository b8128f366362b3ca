/-
# WorkflowLint.Command -- commands that a script prints

A line of output is a command when it has the form

    ::name key=value,key=value::data

The marker `::` opens it, and the next `::` separates the data.  Names and keys are
read in lower case; of two pairs with one key the later counts; a pair without a
key or without a value does not count.  Of a pair with several equals signs the
value is what stands between the first two.

Four commands are replaced by files that a script writes to (`Command.successor?`).
-/
import WorkflowLint.Text.Blank
import WorkflowLint.Text.Lowercase
import WorkflowLint.Text.Split

namespace WorkflowLint

set_option autoImplicit false

/-- A command; its properties have distinct keys in ascending order. -/
structure Command where
  name : String
  properties : List (String × String)
  data : Option String
  deriving DecidableEq, Repr, Inhabited

namespace Command

/-- The marker at the start of a command and before its data. -/
def marker : List Char := [':', ':']

def setProperty (key value : String) : List (String × String) → List (String × String)
  | [] => [(key, value)]
  | (k, v) :: rest =>
    if key = k then (key, value) :: rest
    else if key < k then (key, value) :: (k, v) :: rest
    else (k, v) :: setProperty key value rest

/-- The key in lower case and the value of a pair that counts. -/
def pairOf (pair : List Char) : Option (String × String) :=
  match Text.splitAll '=' pair with
  | key :: value :: _ =>
    let key := Text.trim key
    if key.isEmpty || value.isEmpty then none
    else some (Text.lowercase (.ofList key), .ofList value)
  | _ => none

def pairsOf (text : List Char) : List (String × String) :=
  (Text.splitAll ',' (Text.trim text)).filterMap pairOf

/-- The properties that pairs set, one after the other. -/
def propertiesOf (pairs : List (String × String)) : List (String × String) :=
  pairs.foldl (fun properties (key, value) => setProperty key value properties) []

/-- Cuts a message into what stands before and after its second marker. -/
def cut (message : String) : Option (List Char × List Char) := do
  let rest ← marker.isPrefixOf? (Text.trim message.toList)
  Text.splitOnce marker rest

/-- Reads a command; `none` if the message is none. -/
def parse (message : String) : Option Command :=
  (cut message).map fun (info, data) =>
    let (name, properties) := (Text.splitOnce [' '] info).getD (info, [])
    { name := Text.lowercase (.ofList name)
      properties := propertiesOf (pairsOf properties)
      data := Text.nonempty (Text.trim data) }

/-- The value of a key, in letters of any case. -/
def property? (c : Command) (key : String) : Option String :=
  c.properties.lookup (Text.lowercase key)

/-- Where the end of the commands that set outputs and states was announced. -/
def outputNotice : String :=
  "https://github.blog/changelog/2022-10-11-github-actions-deprecating-save-state-and-set-output-commands/"

def environmentNotice : String :=
  "https://github.blog/changelog/2020-10-01-github-actions-deprecating-set-env-and-add-path-commands/"

/-- What replaces a command: the variable that names the file to write to, and
the page that announces it. -/
structure Successor where
  file : String
  notice : String
  deriving DecidableEq, Repr

def successor? (c : Command) : Option Successor :=
  match c.name with
  | "save-state" => some ⟨"GITHUB_STATE", outputNotice⟩
  | "set-output" => some ⟨"GITHUB_OUTPUT", outputNotice⟩
  | "set-env" => some ⟨"GITHUB_ENV", environmentNotice⟩
  | "add-path" => some ⟨"GITHUB_PATH", environmentNotice⟩
  | _ => none

end Command

end WorkflowLint
