import SqlFilter.Calendar.Timestamp
import SqlFilter.Text.Basic

/-!
# Timestamps as text

Timestamps are written in two ways.

* `Timestamp.isoText` is the form of documents, `2023-07-04T13:45:00.250`, with the fewest of 0, 3,
  6 and 9 fraction digits that lose nothing.
* `Timestamp.databaseText` is the form of clauses, `07/04/2023 01:45:00.2500000 PM`, on a
  twelve-hour clock with ticks of a hundred nanoseconds; what lies below a tick is dropped.
-/

namespace SqlFilter

open Digits (decimal padded)

namespace Calendar

/-- A year in four digits; outside 0 to 9999 it has a sign and at least four digits. -/
def yearText (year : Int) : List Char :=
  if 0 ≤ year ∧ year ≤ 9999 then padded 4 year.toNat
  else (if year < 0 then '-' else '+') :: padded 4 year.natAbs

/-- The fewest of 0, 3, 6 and 9 digits that write the nanoseconds of a second exactly. -/
def fractionText (nanos : Nat) : List Char :=
  if nanos = 0 then []
  else if nanos % 1000000 = 0 then '.' :: padded 3 (nanos / 1000000)
  else if nanos % 1000 = 0 then '.' :: padded 6 (nanos / 1000)
  else '.' :: padded 9 nanos

end Calendar

namespace Clock

/-- The hour on a twelve-hour clock, which shows 12 at midnight and at noon. -/
def hour12 (t : Clock) : Nat := if t.hour % 12 = 0 then 12 else t.hour % 12

/-- The half of the day. -/
def halfText (t : Clock) : List Char := if t.hour < 12 then ['A', 'M'] else ['P', 'M']

/-- The hundreds of nanoseconds since the shown second began. -/
def ticks (t : Clock) : Nat := t.fraction / 100

/-- The time of day in the form of documents. -/
def isoText (t : Clock) : List Char :=
  padded 2 t.hour ++ ':' :: padded 2 t.minute ++ ':' :: padded 2 t.shownSecond ++
    Calendar.fractionText t.fraction

/-- The time of day in the form of clauses. -/
def databaseText (t : Clock) : List Char :=
  padded 2 t.hour12 ++ ':' :: padded 2 t.minute ++ ':' :: padded 2 t.shownSecond ++
    '.' :: padded 7 t.ticks ++ ' ' :: t.halfText

end Clock

namespace Date

/-- The day in the form of documents. -/
def isoText (d : Date) : List Char :=
  Calendar.yearText d.year ++ '-' :: padded 2 d.month ++ '-' :: padded 2 d.day

/-- The day in the form of clauses. -/
def databaseText (d : Date) : List Char :=
  padded 2 d.month ++ '/' :: padded 2 d.day ++ '/' :: Calendar.yearText d.year

end Date

namespace Timestamp

/-- The form of documents. -/
def isoText (ts : Timestamp) : List Char := ts.date.isoText ++ 'T' :: ts.clock.isoText

/-- **The form of clauses.** -/
def databaseText (ts : Timestamp) : List Char :=
  ts.date.databaseText ++ ' ' :: ts.clock.databaseText

end Timestamp

end SqlFilter
