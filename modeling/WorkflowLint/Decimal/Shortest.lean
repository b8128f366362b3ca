/-
# WorkflowLint.Decimal.Shortest -- the shortest decimal that reads back

`shortest` finds, for a positive finite number, a decimal with as few digits as
possible among those that round to the number, and the nearest of these.  For
one digit, two digits and so on it tests the two neighbours of the number on
that decimal grid; the first grid with a hit wins.

`Layout` holds the decisions of a notation about where the point goes;
`Binary64.text` writes a number in the notation of this library.
-/
import WorkflowLint.Decimal.Binary64

namespace WorkflowLint.Decimal

set_option autoImplicit false

/-- The positive decimal `digits · 10 ^ power`. -/
structure Shortest where
  digits : Nat
  power : Int
  deriving DecidableEq, Repr

/-- The numbers between `low / den` and `high / den`, with or without the ends. -/
structure Interval where
  low : Nat
  value : Nat
  high : Nat
  den : Nat
  closed : Bool

namespace Interval

/-- The numbers that round to `mantissa · 2 ^ exponent`: half a step to either
side, a quarter below a power of two.  An even mantissa owns both ends. -/
def ofBinary (mantissa : Nat) (exponent : Int) : Interval :=
  let below :=
    if mantissa == Nat.pow 2 (Binary64.precision - 1) && Binary64.minExponent < exponent then 1
    else 2
  let scale := exponent - 2
  let up := Nat.pow 2 scale.toNat
  { low := (4 * mantissa - below) * up
    value := 4 * mantissa * up
    high := (4 * mantissa + 2) * up
    den := Nat.pow 2 (-scale).toNat
    closed := mantissa % 2 == 0 }

def contains (range : Interval) (digits : Nat) (power : Int) : Bool :=
  let point := digits * Nat.pow 10 power.toNat * range.den
  let unit := Nat.pow 10 (-power).toNat
  if range.closed then range.low * unit ≤ point && point ≤ range.high * unit
  else range.low * unit < point && point < range.high * unit

/-- The position of the leading decimal digit: the largest `k` with
`10 ^ k ≤ value`, for values that are at least `10 ^ -400`. -/
def leading (range : Interval) : Int :=
  (Nat.toDigits 10 (range.value * Nat.pow 10 400 / range.den)).length - 401

/-- The better of the two neighbours of the value on the grid of `10 ^ power`,
if one of them lies in the interval. -/
def onGrid (range : Interval) (power : Int) : Option Shortest :=
  let num := range.value * Nat.pow 10 (-power).toNat
  let den := range.den * Nat.pow 10 power.toNat
  let below := num / den
  let above := below + 1
  let nearest := Binary64.roundToEven num den
  let other := if nearest == below then above else below
  if range.contains nearest power then some ⟨nearest, power⟩
  else if range.contains other power then some ⟨other, power⟩
  else none

/-- The first hit on the grids of one digit, two digits, ..., seventeen digits. -/
def shortest (range : Interval) : Shortest :=
  let top := range.leading
  match (List.range 17).findSome? fun n : Nat => range.onGrid (top - n) with
  | some found => found
  | none => ⟨range.value / range.den, 0⟩

end Interval

/-- Where a notation changes from positional to scientific.  A number is written
positionally when the position of its point, counted from before the first
digit, is above `least` and at most `greatest`. -/
structure Layout where
  least : Int
  greatest : Int
  exponentMark : String

/-- From `0.00001` up to sixteen places before the point, else with an `e`. -/
def Layout.standard : Layout := ⟨-5, 16, "e"⟩

/-- The digits of a decimal without its trailing zeros, and the power left. -/
def Shortest.stripped (d : Shortest) : List Char × Int :=
  let digits := Nat.toDigits 10 d.digits
  let kept := (digits.reverse.dropWhile (· == '0')).reverse
  (kept, d.power + (digits.length - kept.length : Nat))

def Layout.write (layout : Layout) (d : Shortest) : String :=
  let (digits, power) := d.stripped
  let point : Int := digits.length + power
  if layout.least < point && point ≤ layout.greatest then
    if 0 ≤ power then
      .ofList (digits ++ List.replicate power.toNat '0') ++ ".0"
    else if 0 < point then
      .ofList (digits.take point.toNat) ++ "." ++ .ofList (digits.drop point.toNat)
    else
      "0." ++ .ofList (List.replicate (-point).toNat '0' ++ digits)
  else
    let head := String.ofList (digits.take 1)
    let tail := if digits.length ≤ 1 then "" else "." ++ .ofList (digits.drop 1)
    head ++ tail ++ layout.exponentMark ++ toString (point - 1)

/-- The text of a number: the shortest decimal, `.inf`, `-.inf` or `.nan`. -/
def Binary64.text : Binary64 → String
  | .nan => ".nan"
  | .infinite negative => if negative then "-.inf" else ".inf"
  | .finite negative mantissa exponent =>
    let sign := if negative then "-" else ""
    if mantissa == 0 then sign ++ "0.0"
    else sign ++ Layout.standard.write (Interval.ofBinary mantissa exponent).shortest

end WorkflowLint.Decimal
