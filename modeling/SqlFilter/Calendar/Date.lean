/-!
# Dates

Days of the proleptic Gregorian calendar, in the years from -262143 to 262142. The year 0 precedes
the year 1. A `Date` carries the proof that its day exists.
-/

namespace SqlFilter

namespace Calendar

/-- Every fourth year is a leap year, but of the full centuries only every fourth. -/
def isLeap (year : Int) : Bool :=
  year % 4 = 0 && (year % 100 ≠ 0 || year % 400 = 0)

/-- The number of days of a month; none outside 1 to 12. -/
def daysIn (year : Int) (month : Nat) : Nat :=
  match month with
  | 1 | 3 | 5 | 7 | 8 | 10 | 12 => 31
  | 4 | 6 | 9 | 11 => 30
  | 2 => if isLeap year then 29 else 28
  | _ => 0

/-- The first and the last year that have dates. -/
def firstYear : Int := -262143

@[inherit_doc firstYear]
def lastYear : Int := 262142

/-- Whether a year, month and day name a day. -/
structure IsDay (year : Int) (month day : Nat) : Prop where
  first_le : firstYear ≤ year
  le_last : year ≤ lastYear
  day_pos : 1 ≤ day
  day_le : day ≤ daysIn year month

instance (year : Int) (month day : Nat) : Decidable (IsDay year month day) :=
  decidable_of_iff (firstYear ≤ year ∧ year ≤ lastYear ∧ 1 ≤ day ∧ day ≤ daysIn year month)
    ⟨fun h => ⟨h.1, h.2.1, h.2.2.1, h.2.2.2⟩, fun h => ⟨h.1, h.2, h.3, h.4⟩⟩

/-- The months are 1 to 12: no other has a day. -/
theorem IsDay.month_bounds {year : Int} {month day : Nat} (h : IsDay year month day) :
    1 ≤ month ∧ month ≤ 12 := by
  have pos := h.day_pos
  have le := h.day_le
  unfold daysIn at le
  split at le <;> omega

/-- A day has at most two digits. -/
theorem IsDay.day_le_31 {year : Int} {month day : Nat} (h : IsDay year month day) :
    day ≤ 31 := by
  have le := h.day_le
  unfold daysIn at le
  split at le
  all_goals first | omega | skip
  split at le <;> omega

end Calendar

/-- A day. -/
structure Date where
  year : Int
  month : Nat
  day : Nat
  isDay : Calendar.IsDay year month day
deriving DecidableEq

/-- The day of the given year, month and number, if there is one. -/
def Date.ofFields? (year : Int) (month day : Nat) : Option Date :=
  if h : Calendar.IsDay year month day then some ⟨year, month, day, h⟩ else none

@[simp] theorem Date.ofFields?_self (d : Date) : Date.ofFields? d.year d.month d.day = some d := by
  simp [Date.ofFields?, d.isDay]

end SqlFilter
