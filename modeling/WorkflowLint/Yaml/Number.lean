/-
# WorkflowLint.Yaml.Number -- numbers as YAML scalars write them

An integer is decimal, or hexadecimal, octal or binary behind `0x`, `0o` or `0b`.
More than one decimal digit with a zero in front is no number.  A float follows
the usual decimal grammar, or is `.inf` or `.nan`; a decimal beyond the range of
double precision is no float.
-/
import WorkflowLint.Decimal.Shortest
import WorkflowLint.Text.Digit

namespace WorkflowLint.Yaml

set_option autoImplicit false

open WorkflowLint.Decimal (Binary64)
open WorkflowLint.Text (digits?)

inductive Number where
  | integer (value : Int)
  | float (value : Binary64)
  deriving DecidableEq, Repr, Inhabited

namespace Number

/-- The text of a number: integers in decimal, floats as their shortest decimal. -/
def text : Number → String
  | .integer value => toString value
  | .float value => value.text

/-- Equality of numbers as mapping keys; an integer never equals a float. -/
def same : Number → Number → Bool
  | .integer a, .integer b => a == b
  | .float a, .float b => a.same b
  | _, _ => false

/-- More than one decimal digit, the first one zero. -/
def isZeroPadded : List Char → Bool
  | '0' :: c :: cs => (c :: cs).all Char.isDigit
  | _ => false

def magnitude? : List Char → Option Nat
  | '0' :: 'x' :: cs => digits? 16 cs
  | '0' :: 'o' :: cs => digits? 8 cs
  | '0' :: 'b' :: cs => digits? 2 cs
  | cs => if isZeroPadded cs then none else digits? 10 cs

/-- The natural number that a text denotes; it may have a plus sign. -/
def natural? : List Char → Option Nat
  | '+' :: cs => magnitude? cs
  | cs => magnitude? cs

def integer? : List Char → Option Int
  | '-' :: cs => (magnitude? cs).map fun n => -(n : Int)
  | cs => (natural? cs).map fun n => (n : Int)

def unsignedLimit : Nat := Nat.pow 2 64

/-- Integers of so many bits, with or without sign. -/
def fitsBits (bits : Nat) (n : Int) : Bool :=
  -(Nat.pow 2 (bits - 1) : Nat) ≤ n && n < (Nat.pow 2 bits : Nat)

def isNarrow (n : Int) : Bool := fitsBits 64 n

def isWide (n : Int) : Bool := fitsBits 128 n

/-- An exponent: a sign and at least one digit, or nothing. -/
def exponent? : List Char → Option Int
  | [] => some 0
  | e :: cs =>
    if e == 'e' || e == 'E' then
      match cs with
      | '-' :: ds => (digits? 10 ds).map fun n => -(n : Int)
      | '+' :: ds => (digits? 10 ds).map fun n => (n : Int)
      | ds => (digits? 10 ds).map fun n => (n : Int)
    else none

/-- A decimal without sign: digits, a point and more digits, at least one digit in
all, and an exponent; its digits and the power of ten that scales them. -/
def decimal? (cs : List Char) : Option (Nat × Int) := do
  let (whole, rest) := cs.span Char.isDigit
  let (fraction, rest) :=
    match rest with
    | '.' :: after => after.span Char.isDigit
    | rest => ([], rest)
  let digits ← digits? 10 (whole ++ fraction)
  let exponent ← exponent? rest
  return (digits, exponent - fraction.length)

def finite? : Binary64 → Option Binary64
  | .finite negative mantissa exponent => some (.finite negative mantissa exponent)
  | _ => none

/-- The finite number that a decimal with an optional minus sign denotes. -/
def finiteFloat? : List Char → Option Binary64
  | '-' :: cs => (decimal? cs).bind fun (digits, power) => finite? (.ofDecimal true digits power)
  | cs => (decimal? cs).bind fun (digits, power) => finite? (.ofDecimal false digits power)

def float? (cs : List Char) : Option Binary64 :=
  let s := String.ofList cs
  if [".inf", ".Inf", ".INF", "+.inf", "+.Inf", "+.INF"].contains s then some (.infinite false)
  else if ["-.inf", "-.Inf", "-.INF"].contains s then some (.infinite true)
  else if [".nan", ".NaN", ".NAN"].contains s then some .nan
  else
    match cs with
    | '+' :: '-' :: _ => none
    | '+' :: rest => finiteFloat? rest
    | cs => finiteFloat? cs

end Number

end WorkflowLint.Yaml
