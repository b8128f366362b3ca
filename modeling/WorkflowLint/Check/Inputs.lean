/-
# WorkflowLint.Check.Inputs -- checking the inputs passed to an action

Every key that is passed has to be declared and should not be deprecated; every
input that has to be set has to be among the keys.
-/
import WorkflowLint.Finding
import WorkflowLint.Manifest

namespace WorkflowLint.Check

set_option autoImplicit false

def inputKey (m : Manifest) (key : String) : Option InputFinding :=
  match m.input? key with
  | none => some (.unknown key)
  | some i => i.deprecation.map fun message => .deprecated key message

/-- The findings on the keys, in their order, and then on the inputs that are not set. -/
def inputs (m : Manifest) (keys : List String) : List InputFinding :=
  keys.filterMap (inputKey m) ++
    (m.mandatory.filter fun i => !keys.contains i.name).map fun i => .missing i.name

end WorkflowLint.Check
