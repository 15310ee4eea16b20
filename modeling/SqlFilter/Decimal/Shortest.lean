import SqlFilter.Decimal.Binary64

/-!
# The fewest digits that read back

A decimal text of a floating-point number needs only so many digits that reading it gives the
number back. `Decimal.shortest` tries the decimal grids from coarse to fine, in exact arithmetic:
on each it tests the two grid points next to the value, and the first grid with a point in the
number's basin wins. Of two points that both lie in the basin the nearer is taken; a value exactly
halfway is settled by a `Tie` rule, which is a parameter.
-/

namespace SqlFilter

/-- The number `coefficient * 10 ^ exponent`. -/
structure Decimal where
  coefficient : Nat
  exponent : Int
deriving DecidableEq, Repr

/-- Which neighbour a value takes that lies exactly between two. -/
inductive Tie where
  | toEven
  | up
deriving DecidableEq, Repr

/-- Which of the neighbours `floor` and `floor + 1` is taken. -/
def Tie.choose (tie : Tie) (floor : Nat) : Nat :=
  match tie with
  | .toEven => if floor % 2 = 0 then floor else floor + 1
  | .up => floor + 1

namespace Decimal

open Binary64 (Basin)

/-- The step `10 ^ place` of a decimal grid, counted in the unit `2 ^ unit`, as a quotient of
natural numbers. -/
def step (place unit : Int) : Nat × Nat :=
  (Nat.pow 10 place.toNat * Nat.pow 2 (-unit).toNat,
    Nat.pow 10 (-place).toNat * Nat.pow 2 unit.toNat)

/-- Whether the grid point `point * p / q` lies in the basin. -/
def hits (b : Basin) (p q point : Nat) : Bool :=
  if b.closed then b.low * q ≤ point * p && point * p ≤ b.high * q
  else b.low * q < point * p && point * p < b.high * q

/-- The point of the grid with step `10 ^ place` that stands for the basin's value: a neighbour of
the value that lies in the basin, the nearer one if both do. -/
def onGrid? (tie : Tie) (b : Basin) (place : Int) : Option Nat :=
  let (p, q) := step place b.unit
  let floor := b.value * q / p
  match hits b p q floor, hits b p q (floor + 1) with
  | true, true =>
    -- both neighbours read back: the value is compared with the middle between them
    match compare (2 * (b.value * q)) ((2 * floor + 1) * p) with
    | .lt => some floor
    | .gt => some (floor + 1)
    | .eq => some (tie.choose floor)
  | true, false => some floor
  | false, true => some (floor + 1)
  | false, false => none

/-- The number of decimal digits of `n`. -/
def width (n : Nat) : Nat := (Nat.toDigits 10 n).length

/-- The decimal exponent of `n * 2 ^ unit`: the place of its leading digit. -/
def leadingPlace (n : Nat) (unit : Int) : Int :=
  let top := n * Nat.pow 2 unit.toNat
  let bottom := Nat.pow 2 (-unit).toNat
  let place : Int := (width top : Int) - (width bottom : Int)
  if bottom * Nat.pow 10 place.toNat ≤ top * Nat.pow 10 (-place).toNat then place else place - 1

/-- The search over finer and finer grids. Seventeen digits always suffice. -/
def search (tie : Tie) (b : Basin) : Nat → Int → Decimal
  | 0, place => ⟨b.value * (step place b.unit).2 / (step place b.unit).1, place⟩
  | grids + 1, place =>
    match onGrid? tie b place with
    | some point => ⟨point, place⟩
    | none => search tie b grids (place - 1)

/-- **The shortest decimal** that reads back as `mantissa * 2 ^ exponent`. -/
def shortest (tie : Tie) (mantissa : Nat) (exponent : Int) : Decimal :=
  if mantissa = 0 then ⟨0, 0⟩
  else
    let b := Binary64.basin mantissa exponent
    search tie b 17 (leadingPlace b.value b.unit)

end Decimal

end SqlFilter
