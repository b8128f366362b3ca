/-
# WorkflowLint.Text.Digit -- digits and their values
-/

namespace WorkflowLint.Text

set_option autoImplicit false

/-- The value of a digit in bases up to sixteen; letters of either case count. -/
def digit? (c : Char) : Option Nat :=
  if '0' ≤ c ∧ c ≤ '9' then some (c.toNat - '0'.toNat)
  else if 'a' ≤ c ∧ c ≤ 'f' then some (c.toNat - 'a'.toNat + 10)
  else if 'A' ≤ c ∧ c ≤ 'F' then some (c.toNat - 'A'.toNat + 10)
  else none

/-- The value of the digits, continuing from `value`. -/
def digitsFrom? (base value : Nat) : List Char → Option Nat
  | [] => some value
  | c :: cs =>
    match digit? c with
    | some d => if d < base then digitsFrom? base (value * base + d) cs else none
    | none => none

/-- The value of at least one digit. -/
def digits? (base : Nat) (cs : List Char) : Option Nat :=
  if cs.isEmpty then none else digitsFrom? base 0 cs

end WorkflowLint.Text
