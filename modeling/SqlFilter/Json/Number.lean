import SqlFilter.Json.Basic
import SqlFilter.Text.Basic

/-!
# The value of a JSON number

A number is taken as a **significand** of at most 64 bits and a power of ten. Digits that no longer
fit into the significand are not rounded in but dropped, those before the decimal point raising the
power. The significand is rounded to a floating-point number and then multiplied or divided by the
power of ten, so the result may be off by a few of its last places.

An integer stays an integer as long as it fits into 64 bits, unsigned, or signed if it is negative.
The negative zero does not.
-/

namespace SqlFilter

namespace Json

/-- The parts of a number's text. -/
structure Numeral where
  negative : Bool
  /-- The digits before the decimal point. -/
  whole : List Char
  /-- The digits behind the decimal point, if there is one. -/
  fraction : Option (List Char)
  /-- The exponent, if there is one: whether it is negative, and its digits. -/
  exponent : Option (Bool × List Char)
deriving DecidableEq, Repr

namespace Numeral

/-- The significand is below this bound, that of 64 bits. -/
def significandBound : Nat := UInt64.size

/-- The value of an exponent's digits is below this bound, that of 31 bits. -/
def exponentBound : Nat := 0x80000000

/-- Takes digits into the significand as long as they fit, and counts those that are left. -/
def take (significand : Nat) : List Char → Nat × Nat
  | [] => (significand, 0)
  | c :: rest =>
    let next := 10 * significand + Digits.digitValue c
    if next < significandBound then take next rest else (significand, rest.length + 1)

/-- The number of digits until an exponent's value leaves its bounds, if it does. -/
def excess? (value count : Nat) : List Char → Option Nat
  | [] => none
  | c :: rest =>
    let next := 10 * value + Digits.digitValue c
    if next < exponentBound then excess? next (count + 1) rest else some (count + 1)

/-- The greatest power of ten that is a floating-point number. -/
def greatestPower : Nat := 308

/-- A power of ten, correctly rounded. -/
def powerOfTen (k : Nat) : Float := Float.ofScientific 1 false k

/-- Division by a power of ten, in several steps if the power is too great for one. -/
def divide (x : Float) (k : Nat) : Float :=
  if k ≤ greatestPower then x / powerOfTen k
  else if x == 0 then x
  else divide (x / powerOfTen greatestPower) (k - greatestPower)
termination_by k
decreasing_by
  simp only [greatestPower] at *
  omega

/-- Multiplication by a power of ten; none if the result would not be finite. -/
def multiply? (x : Float) (k : Nat) : Option Float :=
  if k ≤ greatestPower then
    let y := x * powerOfTen k
    if y.isInf then none else some y
  else if x == 0 then some x
  else none

/-- The significand times a power of ten; none if it is too great for a finite number. -/
def scale? (significand : Nat) (power : Int) : Option Float :=
  let x := (UInt64.ofNat significand).toFloat
  if 0 ≤ power then multiply? x power.toNat else some (divide x power.natAbs)

/-- An integer's value; one that does not fit is a floating-point number. -/
def integerValue (negative : Bool) (significand : Nat) : Json :=
  if !negative then .int significand
  else if significand = 0 ∨ -(significand : Int) < Int64.minValue.toInt then
    .float (-(UInt64.ofNat significand).toFloat)
  else .int (-significand)

/-- The value of a number. If it is too great, the error is how many digits of its exponent are
read until that shows; all of them, unless the exponent itself is out of bounds. -/
def value (n : Numeral) : Except Nat Json :=
  let (whole, dropped) := take 0 n.whole
  let fraction := n.fraction.getD []
  -- digits of the fraction may still fit where one of the whole part did not
  let (significand, ignored) := take whole fraction
  let power : Int := dropped - (fraction.length - ignored : Nat)
  let sign (x : Float) : Json := .float (if n.negative then -x else x)
  match n.exponent with
  | none =>
    if n.fraction.isNone && dropped = 0 then .ok (integerValue n.negative significand)
    else
      match scale? significand power with
      | some x => .ok (sign x)
      | none => .error 0
  | some (downward, digits) =>
    match excess? 0 0 digits with
    -- an exponent out of bounds leaves zero, or a number that is too great
    | some read => if significand = 0 || downward then .ok (sign 0) else .error read
    | none =>
      let exponent : Int := if downward then -(Digits.value digits : Int) else Digits.value digits
      match scale? significand (power + exponent) with
      | some x => .ok (sign x)
      | none => .error digits.length

end Numeral

end Json

end SqlFilter
