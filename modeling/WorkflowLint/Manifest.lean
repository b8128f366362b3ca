/-
# WorkflowLint.Manifest -- what an action declares

A manifest is a stream of YAML documents, of which those that are mappings count:

* the name and the description are each the first scalar one;
* the inputs are those of all documents, in the order in which their names first
  occur; a later declaration of a name replaces the earlier one where it stands.

A stream without a mapping is no manifest.
-/
import WorkflowLint.Text.Lowercase
import WorkflowLint.Yaml.Value

namespace WorkflowLint

set_option autoImplicit false

structure Input where
  name : String
  description : Option String
  defaultValue : Option String
  required : Bool
  deprecation : Option String
  deriving DecidableEq, Repr, Inhabited

/-- Whether a caller has to set the input. -/
def Input.isMandatory (i : Input) : Bool := i.required && i.defaultValue.isNone

/-- The parts of an action's description that a caller needs. -/
structure Manifest where
  name : Option String
  description : Option String
  inputs : List Input
  deriving DecidableEq, Repr, Inhabited

inductive ManifestError where
  | yaml (cause : Yaml.Error)
  /-- No document of the stream is a mapping. -/
  | noMapping
  deriving DecidableEq, Repr

namespace Manifest

open Yaml (Value Entries)

def empty : Manifest := ⟨none, none, []⟩

/-- The text of the scalar at a string key. -/
def scalarAt (entries : Entries) (key : String) : Option String :=
  (Value.lookup? entries key).bind Value.scalarText?

/-- Whether a value says yes: true, or its text in letters of any case. -/
def saysTrue : Value → Bool
  | .bool b => b
  | .string s => Text.equalIgnoringCase s "true"
  | _ => false

/-- The input that an entry of an `inputs` mapping declares.  Its key is a scalar
with a text, and its value a mapping. -/
def inputOf : Value × Value → Option Input
  | (key, .mapping fields) =>
    match key.scalarText? with
    | some name =>
      if name.isEmpty then none
      else
        some
          { name
            description := scalarAt fields "description"
            defaultValue := scalarAt fields "default"
            required := (Value.lookup? fields "required").any saysTrue
            deprecation := scalarAt fields "deprecationMessage" }
    | none => none
  | _ => none

def declarations (document : Entries) : List Input :=
  match Value.lookup? document "inputs" with
  | some (.mapping inputs) => inputs.filterMap inputOf
  | _ => []

/-- Declares an input: in the place of the one of its name, or else as the last one. -/
def declare (inputs : List Input) (i : Input) : List Input :=
  match inputs with
  | [] => [i]
  | j :: js => if j.name = i.name then i :: js else j :: declare js i

/-- What the manifest says once a further document is read. -/
def addDocument (m : Manifest) (document : Entries) : Manifest :=
  { name := m.name <|> scalarAt document "name"
    description := m.description <|> scalarAt document "description"
    inputs := (declarations document).foldl declare m.inputs }

def mappingOf? : Value → Option Entries
  | .mapping entries => some entries
  | _ => none

/-- The manifest that documents make up, unless none of them is a mapping. -/
def ofDocuments (documents : List Value) : Option Manifest :=
  match documents.filterMap mappingOf? with
  | [] => none
  | mappings => some (mappings.foldl addDocument empty)

/-- Reads the manifest in the documents that a reader of YAML finds in a text. -/
def parseWith (reader : String → Except Yaml.Error (List Value)) (text : String) :
    Except ManifestError Manifest :=
  match reader text with
  | .error e => .error (.yaml e)
  | .ok documents =>
    match ofDocuments documents with
    | some m => .ok m
    | none => .error .noMapping

def parse (text : String) : Except ManifestError Manifest := parseWith Yaml.values text

def input? (m : Manifest) (name : String) : Option Input := m.inputs.find? (·.name == name)

def mandatory (m : Manifest) : List Input := m.inputs.filter Input.isMandatory

end Manifest

end WorkflowLint
