import SqlFilter.Calendar.Timestamp
import SqlFilter.Text.Basic

/-!
# Reading dates and timestamps

The fields of a timestamp, `2023-07-04T13:45:00.25`, are read in order. Blank characters may stand
before every number and after every field; a number may have fewer digits than its field is wide.
The year alone takes a sign, and with a sign any number of digits. A field out of its range is
refused at once, a day that the month does not have at the end.
-/

namespace SqlFilter

namespace Calendar

/-- Why a text is no date. -/
inductive ReadError where
  /-- A character stands where it must not. -/
  | invalid
  /-- A number or the whole day lies outside its range. -/
  | outOfRange
  /-- The text ends too early. -/
  | tooShort
  /-- Text follows the last field. -/
  | tooLong
deriving DecidableEq, Repr

/-- The wording of a reading error. -/
def ReadError.message : ReadError → String
  | .invalid => "input contains invalid characters"
  | .outOfRange => "input is out of range"
  | .tooShort => "premature end of input"
  | .tooLong => "trailing input"

/-- What a step of reading gives: its value and the text that is left. -/
abbrev Read (α : Type) := List Char → Except ReadError (α × List Char)

/-- Exactly the character `c`. -/
def mark (c : Char) : List Char → Except ReadError (List Char)
  | [] => .error .tooShort
  | d :: rest => if d = c then .ok rest else .error .invalid

/-- A number of at least one digit, and at most `width` if a width is given. -/
def number (width : Option Nat) : Read Nat := fun cs =>
  let field := match width with
    | some w => cs.take w
    | none => cs
  let digits := field.takeWhile Char.isDigit
  if cs.isEmpty then .error .tooShort
  else if digits.isEmpty then .error .invalid
  else .ok (Digits.value digits, cs.drop digits.length)

/-- A number of one or two digits between two bounds, with blanks before and after it. -/
def field (least greatest : Nat) : Read Nat := fun cs => do
  let (n, rest) ← number (some 2) (trimBlank cs)
  if least ≤ n ∧ n ≤ greatest then .ok (n, trimBlank rest) else .error .outOfRange

/-- Years are counted in 32 bits before it is known whether they have dates. -/
def yearBound : Nat := 0x80000000

/-- A year: up to four digits, or a sign and any number of digits. -/
def year : Read Int := fun cs => do
  -- a sign lifts the bound on the number of digits
  let (n, rest) ← match trimBlank cs with
    | '-' :: rest => (fun (n, r) => (-(n : Int), r)) <$> number none rest
    | '+' :: rest => (fun (n, r) => ((n : Int), r)) <$> number none rest
    | cs => (fun (n, r) => ((n : Int), r)) <$> number (some 4) cs
  if -(yearBound : Int) ≤ n ∧ n < yearBound then .ok (n, trimBlank rest) else .error .outOfRange

/-- The digits behind the decimal point as nanoseconds; digits beyond the ninth are dropped. -/
def nanoseconds : Read Nat := fun cs => do
  let (n, rest) ← number (some 9) cs
  -- the digits that are there count from the point on
  .ok (n * Nat.pow 10 (9 - (cs.length - rest.length)), rest.dropWhile Char.isDigit)

/-- The fraction of a second, which may be missing. -/
def fraction : Read Nat
  | '.' :: rest => nanoseconds rest
  | cs => .ok (0, cs)

/-- The fields of a day, before it is known whether there is such a day. -/
def dayFields : Read (Int × Nat × Nat) := fun cs => do
  let (year, cs) ← year cs
  let cs ← mark '-' cs
  let (month, cs) ← field 1 12 cs
  let cs ← mark '-' cs
  let (day, cs) ← field 1 31 cs
  .ok ((year, month, day), cs)

/-- The fields of a time of day. -/
def timeFields : Read (Nat × Nat × Nat × Nat) := fun cs => do
  let (hour, cs) ← field 0 23 cs
  let cs ← mark ':' cs
  let (minute, cs) ← field 0 59 cs
  let cs ← mark ':' cs
  let (second, cs) ← number (some 2) (trimBlank cs)
  if 60 < second then .error .outOfRange
  else
    let (nanos, cs) ← fraction cs
    .ok ((hour, minute, second, nanos), trimBlank cs)

/-- The end of the text. -/
def finish : List Char → Except ReadError Unit
  | [] => .ok ()
  | _ => .error .tooLong

/-- The day of the given fields. -/
def dayOf (year : Int) (month day : Nat) : Except ReadError Date :=
  match Date.ofFields? year month day with
  | some d => .ok d
  | none => .error .outOfRange

/-- The time of day of the given fields; the second 60 is a leap second. -/
def timeOf (hour minute second nanos : Nat) : Except ReadError Clock :=
  let clock := if second = 60 then Clock.ofFields? hour minute 59 (nanosPerSecond + nanos)
    else Clock.ofFields? hour minute second nanos
  match clock with
  | some t => .ok t
  | none => .error .outOfRange

end Calendar

open Calendar in
/-- The day that a text names. -/
def Date.read (cs : List Char) : Except ReadError Date := do
  let ((year, month, day), rest) ← dayFields cs
  finish rest
  dayOf year month day

open Calendar in
/-- **The timestamp that a text names.** -/
def Timestamp.read (cs : List Char) : Except ReadError Timestamp := do
  let ((year, month, day), rest) ← dayFields cs
  let rest ← mark 'T' rest
  let ((hour, minute, second, nanos), rest) ← timeFields rest
  finish rest
  -- that the month has no such day is told last, behind what is wrong with the text
  let date ← dayOf year month day
  let clock ← timeOf hour minute second nanos
  .ok ⟨date, clock⟩

end SqlFilter
