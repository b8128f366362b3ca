/-
# WorkflowLint.Yaml.Field -- reading settings straight from nodes

Settings are read by the type that is wanted, not by the type that a scalar looks
like: a text field takes the text of any scalar, a number field only a plain one.
Tags ask for nothing here.  `fields` lists the entries of a mapping by the texts
of their keys; a node of which nothing is written has no fields.
-/
import WorkflowLint.Yaml.Number
import WorkflowLint.Yaml.Reader

namespace WorkflowLint.Yaml

set_option autoImplicit false

namespace Document

/-- The text of a scalar, however it is written. -/
def textOf? (d : Document) (n : Node Nat) : Option String :=
  match d.follow n with
  | some (.scalar _ _ text) => some text
  | _ => none

/-- Whether a scalar may be read as a number: a plain one, or a literal block whose
tag asks for an integer. -/
def isNumeric (properties : Properties) (style : Style) : Bool :=
  style == .plain ||
    (style == .literal && properties.tag == some (octetsOf "tag:yaml.org,2002:int"))

/-- The natural number below `2 ^ 64` that a scalar writes. -/
def numberOf? (d : Document) (n : Node Nat) : Option Nat :=
  match d.follow n with
  | some (.scalar properties style text) =>
    if isNumeric properties style then
      (Number.natural? text.toList).filter (· < Number.unsignedLimit)
    else none
  | _ => none

/-- The entries of a mapping by the texts of their keys, if all keys are scalars. -/
def keyed? (d : Document) (entries : List (Node Nat × Node Nat)) :
    Option (List (String × Node Nat)) :=
  entries.mapM fun (key, value) => (d.textOf? key).map fun text => (text, value)

/-- The fields of a node: those of a mapping, none of a blank node. -/
def fields? (d : Document) (n : Node Nat) : Option (List (String × Node Nat)) :=
  match d.follow n with
  | some (.mapping _ entries) => d.keyed? entries
  | some (.scalar _ style text) => if style == .plain && text.isEmpty then some [] else none
  | _ => none

/-- The fields of the root; an empty stream has none. -/
def rootFields? (d : Document) : Option (List (String × Node Nat)) :=
  match d.root with
  | some root => d.fields? root
  | none => some []

end Document

def valuesAt (fields : List (String × Node Nat)) (key : String) : List (Node Nat) :=
  (fields.filter fun (k, _) => k == key).map (·.2)

/-- Reads a setting that may be given once: a missing one has a default, and a
given one has to be readable. -/
def setting? {α : Type} (fields : List (String × Node Nat)) (key : String) (missing : α)
    (read : Node Nat → Option α) : Option α :=
  match valuesAt fields key with
  | [] => some missing
  | [n] => read n
  | _ => none

end WorkflowLint.Yaml
