import SqlFilter.Decimal.Shortest

/-!
# Layouts of decimal numbers

A `Decimal.Layout` holds the decisions of one number format: which exponents are written out in
full, whether a whole number keeps a fraction digit, and how ties between digits go. `Layout.text?`
writes a finite floating-point number under such a layout, with the fewest digits that read back.
-/

namespace SqlFilter

namespace Decimal

/-- The decisions of one number format. -/
structure Layout where
  /-- How a value halfway between two shortest decimals is settled. -/
  tie : Tie
  /-- The least and greatest decimal exponents written without an exponent; `none` for all. -/
  positional : Option (Int × Int)
  /-- A whole number written out in full keeps one fraction digit. -/
  keepFraction : Bool
deriving DecidableEq, Repr

/-- The digits of `n`, without the zeros at the end. -/
def significant (n : Nat) : List Char :=
  ((Nat.toDigits 10 n).reverse.dropWhile (· = '0')).reverse

/-- Digits written out in full, the first of them standing at `place`. -/
def positionalText (keepFraction : Bool) (digits : List Char) (place : Int) : List Char :=
  if 0 ≤ place then
    let whole := place.toNat + 1
    let fraction := digits.drop whole
    digits.take whole ++ List.replicate (whole - digits.length) '0' ++
      (if !fraction.isEmpty then '.' :: fraction
       else if keepFraction then ['.', '0'] else [])
  else '0' :: '.' :: List.replicate (-place - 1).toNat '0' ++ digits

/-- Digits with an exponent, whose sign is always written. -/
def exponentText (digits : List Char) (place : Int) : List Char :=
  digits.take 1 ++ (if (digits.drop 1).isEmpty then [] else '.' :: digits.drop 1) ++
    'e' :: (if 0 ≤ place then '+' else '-') :: Nat.toDigits 10 place.natAbs

namespace Layout

/-- Whether a number whose leading digit stands at `place` is written out in full. -/
def isPositional (layout : Layout) (place : Int) : Bool :=
  match layout.positional with
  | none => true
  | some (least, greatest) => least ≤ place && place ≤ greatest

/-- A decimal number without sign. -/
def unsigned (layout : Layout) (d : Decimal) : List Char :=
  if d.coefficient = 0 then positionalText layout.keepFraction ['0'] 0
  else
    let digits := significant d.coefficient
    let place := d.exponent + width d.coefficient - 1
    if layout.isPositional place then positionalText layout.keepFraction digits place
    else exponentText digits place

/-- A finite number, its sign first; `none` for the others. A negative zero keeps its sign. -/
def text? (layout : Layout) (x : Float) : Option (List Char) :=
  match Binary64.ofFloat x with
  | .finite negative mantissa exponent =>
    let digits := layout.unsigned (shortest layout.tie mantissa exponent)
    some (if negative then '-' :: digits else digits)
  | _ => none

end Layout

end Decimal

end SqlFilter
