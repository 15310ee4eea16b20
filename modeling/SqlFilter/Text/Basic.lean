/-!
# Characters and digits

What readers and printers of all kinds share: the number of octets of a text, in which places are
counted; numbers in decimal, with leading zeros where a field has a fixed width; classes of
characters given by ranges of code points, and the blank characters, which dates may have between
their fields.
-/

namespace SqlFilter

/-- The number of octets of a text in UTF-8. -/
def octets (cs : List Char) : Nat := (String.ofList cs).utf8ByteSize

/-! ### Digits -/

namespace Digits

/-- The decimal digits of `n`. -/
def decimal (n : Nat) : List Char := Nat.toDigits 10 n

/-- The decimal digits of `n`, filled up with zeros to at least `width` places. -/
def padded (width n : Nat) : List Char :=
  let digits := decimal n
  List.replicate (width - digits.length) '0' ++ digits

/-- The value of one decimal digit. -/
def digitValue (c : Char) : Nat := c.toNat - '0'.toNat

/-- The value of a run of decimal digits. -/
def value (digits : List Char) : Nat :=
  digits.foldl (fun n c => 10 * n + digitValue c) 0

/-- An integer, with a minus sign if it is negative. -/
def integer (n : Int) : List Char :=
  if n < 0 then '-' :: decimal n.natAbs else decimal n.natAbs

end Digits

/-! ### Ranges -/

/-- Whether a number lies in one of several ranges, given in their order: a range that begins above
the number ends the search. -/
def inRanges (n : Nat) : List (Nat × Nat) → Bool
  | [] => false
  | (first, last) :: rest => first ≤ n && (n ≤ last || inRanges n rest)

/-- The code points of the property *White_Space* of the Unicode standard, as ranges in their
order. -/
def blankRanges : List (Nat × Nat) :=
  [(0x9, 0xD), (0x20, 0x20), (0x85, 0x85), (0xA0, 0xA0), (0x1680, 0x1680), (0x2000, 0x200A),
    (0x2028, 0x2029), (0x202F, 0x202F), (0x205F, 0x205F), (0x3000, 0x3000)]

/-- Whether a character is blank. -/
def isBlank (c : Char) : Bool := inRanges c.toNat blankRanges

/-- The text without the blank characters at its beginning. -/
def trimBlank (cs : List Char) : List Char := cs.dropWhile isBlank

end SqlFilter
