import SqlFilter.Calendar.Date
import SqlFilter.Text.Basic
import SqlFilter.Toml.Basic

/-!
# Numbers and dates of TOML

A number or a date is a run of characters that holds no blank, or two such runs where a blank stands
between day and time. What it means is decided on the whole run.
-/

namespace SqlFilter

namespace Toml

open Digits (value digitValue)

/-- Digits with single underscores between them, without the underscores. -/
def joinDigits? (isDigit : Char → Bool) : List Char → Option (List Char)
  | [] => none
  | [c] => if isDigit c then some [c] else none
  | c :: d :: rest =>
    if !isDigit c then none
    else if d = '_' then (joinDigits? isDigit rest).map (c :: ·)
    else (joinDigits? isDigit (d :: rest)).map (c :: ·)

/-- A sign, and the text after it. -/
def splitSign : List Char → Bool × List Char
  | '+' :: rest => (false, rest)
  | '-' :: rest => (true, rest)
  | rest => (false, rest)

/-- Decimal digits without a leading zero. -/
def wholeDigits? (cs : List Char) : Option (List Char) := do
  let digits ← joinDigits? Char.isDigit cs
  if 1 < digits.length ∧ digits.head? = some '0' then none else some digits

/-! ### Integers -/

/-- The value of digits in a base, letters counting on from nine. -/
def valueIn (base : Nat) (digits : List Char) : Nat :=
  digits.foldl (fun n c =>
    base * n + (if c.isDigit then digitValue c else c.toLower.toNat - 'a'.toNat + 10)) 0

/-- Whether a character is a digit in a base up to sixteen. -/
def isDigitIn (base : Nat) (c : Char) : Bool :=
  (c.isDigit && digitValue c < base) ||
    (base = 16 && 'a' ≤ c.toLower && c.toLower ≤ 'f')

/-- Integers have 64 bits. -/
def bounded? (n : Int) : Option Toml :=
  if Int64.minValue.toInt ≤ n ∧ n ≤ Int64.maxValue.toInt then some (.integer n) else none

/-- An integer, in decimal with a sign or in another base without. -/
def integer? : List Char → Option Toml
  | '0' :: 'x' :: rest => do bounded? (valueIn 16 (← joinDigits? (isDigitIn 16) rest))
  | '0' :: 'o' :: rest => do bounded? (valueIn 8 (← joinDigits? (isDigitIn 8) rest))
  | '0' :: 'b' :: rest => do bounded? (valueIn 2 (← joinDigits? (isDigitIn 2) rest))
  | cs => do
    let (negative, rest) := splitSign cs
    let n := value (← wholeDigits? rest)
    bounded? (if negative then -(n : Int) else n)

/-! ### Floats -/

/-- The least number that rounds to infinity: half a place above the greatest finite one. -/
def infinityBound : Nat := Nat.pow 2 1024 - Nat.pow 2 970

/-- Whether a decimal number rounds to infinity. Only numbers with some 309 digits before the point
are in doubt. -/
def overflows (digits : List Char) (exponent : Int) : Bool :=
  let significand := value digits
  -- the place of the leading digit tells all but the numbers around the bound
  let place : Int := (digits.dropWhile (· = '0')).length + exponent
  if significand = 0 then false
  else if 400 < place then true
  else if place < 300 then false
  else infinityBound * Nat.pow 10 (-exponent).toNat ≤ significand * Nat.pow 10 exponent.toNat

/-- The exponent of a float, after its letter. -/
def exponent? (cs : List Char) : Option Int := do
  let (negative, rest) := splitSign cs
  let n := value (← joinDigits? Char.isDigit rest)
  some (if negative then -(n : Int) else n)

/-- Whether a character begins an exponent. -/
def isExponentMark (c : Char) : Bool := c = 'e' || c = 'E'

/-- A float: a fraction, an exponent or both behind the digits, or a special value. One that is too
great is refused unless it is negative. -/
def float? (cs : List Char) : Option Toml := do
  let (negative, rest) := splitSign cs
  if rest = ['i', 'n', 'f'] ∨ rest = ['n', 'a', 'n'] then some .float
  else
    let mantissa := rest.takeWhile fun c => !isExponentMark c
    let power := (rest.drop mantissa.length).drop 1
    let hasPower := mantissa.length < rest.length
    let whole := mantissa.takeWhile (· ≠ '.')
    let hasFraction := whole.length < mantissa.length
    let wholeDigits ← wholeDigits? whole
    let fraction ← if hasFraction then joinDigits? Char.isDigit (mantissa.drop (whole.length + 1))
      else some []
    let exponent ← if hasPower then exponent? power else some 0
    -- digits alone are an integer
    if !hasFraction && !hasPower then none
    else if !negative && overflows (wholeDigits ++ fraction) (exponent - fraction.length) then none
    else some .float

/-! ### Dates -/

/-- A number of exactly `width` digits between two bounds, and the text after it. -/
def fixed? (width least greatest : Nat) (cs : List Char) : Option (Nat × List Char) :=
  let digits := cs.take width
  let n := value digits
  if digits.length = width ∧ digits.all Char.isDigit ∧ least ≤ n ∧ n ≤ greatest then
    some (n, cs.drop width)
  else none

/-- The text after one character. -/
def after? (mark : Char) : List Char → Option (List Char)
  | c :: rest => if c = mark then some rest else none
  | [] => none

/-- The text after a day. -/
def afterDay? (cs : List Char) : Option (List Char) := do
  let (year, rest) ← fixed? 4 0 9999 cs
  let (month, rest) ← fixed? 2 1 12 (← after? '-' rest)
  let (_, rest) ← fixed? 2 1 (Calendar.daysIn year month) (← after? '-' rest)
  some rest

/-- The text after a time of day. -/
def afterTime? (cs : List Char) : Option (List Char) := do
  let (_, rest) ← fixed? 2 0 23 cs
  let (_, rest) ← fixed? 2 0 59 (← after? ':' rest)
  -- the second 60 is a leap second
  let (_, rest) ← fixed? 2 0 60 (← after? ':' rest)
  match rest with
  | '.' :: rest =>
    let fraction := rest.takeWhile Char.isDigit
    if fraction.isEmpty then none else some (rest.drop fraction.length)
  | rest => some rest

/-- Whether a text is an offset from universal time, or empty. -/
def isOffset (cs : List Char) : Bool :=
  match cs with
  | [] => true
  | ['Z'] | ['z'] => true
  | c :: rest =>
    (c = '+' || c = '-') && (do
      let (_, rest) ← fixed? 2 0 23 rest
      let (_, rest) ← fixed? 2 0 59 (← after? ':' rest)
      some rest.isEmpty).getD false

/-- Whether a text is a time of day with an offset or without. -/
def isTimeWithOffset (cs : List Char) : Bool :=
  match afterTime? cs with
  | some rest => isOffset rest
  | none => false

/-- A day, a time of day, or both. -/
def datetime? (cs : List Char) : Option Toml :=
  match afterDay? cs with
  | some [] => some .datetime
  | some (c :: rest) =>
    if (c = 'T' || c = 't' || c = ' ') && isTimeWithOffset rest then some .datetime else none
  | none =>
    match afterTime? cs with
    | some [] => some .datetime
    | _ => none

/-! ### Runs -/

/-- The characters of numbers and dates. -/
def isRunChar (c : Char) : Bool :=
  c.isAlphanum || c = '+' || c = '-' || c = '_' || c = '.' || c = ':'

/-- Whether a text goes on with a blank and the hour of a time. -/
def goesOn : List Char → Bool
  | ' ' :: a :: b :: ':' :: _ => a.isDigit && b.isDigit
  | _ => false

/-- The run of a number or a date, and the text after it. -/
def readRun (cs : List Char) : List Char × List Char :=
  let run := cs.takeWhile isRunChar
  let rest := cs.drop run.length
  -- a blank is a part of a date only between a day and a time
  if (afterDay? run = some []) && goesOn rest then
    let time := (rest.drop 1).takeWhile isRunChar
    (run ++ ' ' :: time, rest.drop (time.length + 1))
  else (run, rest)

/-- A number, a date, or one of the words for truth values. -/
def readRunValue (cs : List Char) : Option (Toml × List Char) :=
  let (run, rest) := readRun cs
  if run = ['t', 'r', 'u', 'e'] then some (.boolean true, rest)
  else if run = ['f', 'a', 'l', 's', 'e'] then some (.boolean false, rest)
  else
    match datetime? run with
    | some t => some (t, rest)
    | none =>
      match float? run with
      | some t => some (t, rest)
      | none => (integer? run).map (·, rest)

end Toml

end SqlFilter
