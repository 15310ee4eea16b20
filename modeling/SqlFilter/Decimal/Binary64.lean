/-!
# Floating-point numbers as exact values

A `Float` is read apart into what its 64 bits stand for. A finite one is
`± mantissa * 2 ^ exponent`, exactly; `Binary64.basin` gives the interval of reals that round to it,
which is what a decimal text of it has to hit.
-/

namespace SqlFilter

/-- What the 64 bits of a floating-point number stand for. -/
inductive Binary64 where
  | nan
  | infinite (negative : Bool)
  /-- The value `mantissa * 2 ^ exponent`, negated if `negative`. -/
  | finite (negative : Bool) (mantissa : Nat) (exponent : Int)
deriving DecidableEq, Repr

namespace Binary64

/-- The least exponent; numbers that have it may lack the leading bit. -/
def leastExponent : Int := -1074

/-- The fraction field has 52 bits; the leading bit of a mantissa stands above them. -/
def leadingBit : Nat := 0x10000000000000

/-- Sign, exponent and fraction field of a bit pattern. -/
def ofBits (bits : Nat) : Binary64 :=
  let negative := bits.testBit 63
  let field : Nat := bits / leadingBit % 2048
  let fraction : Nat := bits % leadingBit
  if field = 2047 then
    if fraction = 0 then .infinite negative else .nan
  else if field = 0 then .finite negative fraction leastExponent
  else .finite negative (leadingBit + fraction) (field - 1075)

def ofFloat (x : Float) : Binary64 := ofBits x.toBits.toNat

/-- **The reals that round to one number.** All bounds count the same small unit, a power of two;
the two ends belong to the basin if it is `closed`. -/
structure Basin where
  low : Nat
  value : Nat
  high : Nat
  closed : Bool
  /-- The power of two that is counted. -/
  unit : Int
deriving DecidableEq, Repr

/-- The basin of `mantissa * 2 ^ exponent`, counted in quarters of the last place. It reaches half
a place up and down, but only a quarter down at a power of two, below which the numbers lie twice
as close. Ends round to the even mantissa. -/
def basin (mantissa : Nat) (exponent : Int) : Basin where
  low :=
    if mantissa = leadingBit ∧ leastExponent < exponent then 4 * mantissa - 1
    else 4 * mantissa - 2
  value := 4 * mantissa
  high := 4 * mantissa + 2
  closed := mantissa % 2 = 0
  unit := exponent - 2

end Binary64

end SqlFilter
