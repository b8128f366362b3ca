/-
# WorkflowLint.Decimal.Binary64 -- double-precision numbers as exact pairs

A finite number is `± mantissa · 2 ^ exponent` with natural `mantissa`.  Values
built by `ofDecimal` are canonical: the mantissa is below `2 ^ 53`, the exponent
at least `-1074`, and the mantissa at least `2 ^ 52` unless the exponent is
`-1074`.  Rounding is exact: to the nearest value, ties to the even mantissa.
-/

namespace WorkflowLint.Decimal

set_option autoImplicit false

/-- A double-precision number; one NaN stands for all. -/
inductive Binary64 where
  | nan
  | infinite (negative : Bool)
  | finite (negative : Bool) (mantissa : Nat) (exponent : Int)
  deriving DecidableEq, Repr, Inhabited

namespace Binary64

def minExponent : Int := -1074

def maxExponent : Int := 971

/-- The number of bits of a full mantissa. -/
def precision : Nat := 53

def zero (negative : Bool) : Binary64 := .finite negative 0 minExponent

/-- Equality of numbers: zeros of both signs are one number, and so is NaN. -/
def same : Binary64 → Binary64 → Bool
  | .nan, .nan => true
  | .infinite a, .infinite b => a == b
  | .finite a m p, .finite b n q => (m == 0 && n == 0) || (a == b && m == n && p == q)
  | _, _ => false

/-- `num / den` to the nearest natural number, ties to even. -/
def roundToEven (num den : Nat) : Nat :=
  let quotient := num / den
  let twice := 2 * (num % den)
  if twice < den then quotient
  else if den < twice then quotient + 1
  else if quotient % 2 == 0 then quotient
  else quotient + 1

/-- The largest `e` with `2 ^ e ≤ num / den`, for positive `num` and `den`. -/
def floorLog2 (num den : Nat) : Int :=
  let guess : Int := (Nat.log2 num : Int) - Nat.log2 den
  let reached :=
    if 0 ≤ guess then den * Nat.pow 2 guess.toNat ≤ num
    else den ≤ num * Nat.pow 2 (-guess).toNat
  if reached then guess else guess - 1

/-- The number nearest to the positive quotient `num / den`. -/
def ofQuotient (negative : Bool) (num den : Nat) : Binary64 :=
  let exponent := max (floorLog2 num den - (precision - 1)) minExponent
  let mantissa :=
    if 0 ≤ exponent then roundToEven num (den * Nat.pow 2 exponent.toNat)
    else roundToEven (num * Nat.pow 2 (-exponent).toNat) den
  let (mantissa, exponent) :=
    if mantissa == Nat.pow 2 precision then (Nat.pow 2 (precision - 1), exponent + 1)
    else (mantissa, exponent)
  if maxExponent < exponent then .infinite negative else .finite negative mantissa exponent

/-- The number nearest to `± digits · 10 ^ power`.  Powers far outside the range
are settled by the position of the leading digit. -/
def ofDecimal (negative : Bool) (digits : Nat) (power : Int) : Binary64 :=
  if digits == 0 then zero negative
  else
    let magnitude := power + (Nat.toDigits 10 digits).length
    if 400 < magnitude then .infinite negative
    else if magnitude < -400 then zero negative
    else if 0 ≤ power then ofQuotient negative (digits * Nat.pow 10 power.toNat) 1
    else ofQuotient negative digits (Nat.pow 10 (-power).toNat)

end Binary64

end WorkflowLint.Decimal
