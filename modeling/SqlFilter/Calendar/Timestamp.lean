import SqlFilter.Calendar.Date

/-!
# Times of day and timestamps

A `Clock` is a time of day to the nanosecond. A **leap second** is the second 59 with a nanosecond
count of a full second or more; only the second 59 has one.
-/

namespace SqlFilter

namespace Calendar

/-- The nanoseconds of a second. -/
def nanosPerSecond : Nat := 1000000000

/-- Whether the four counts make a time of day. -/
structure IsTime (hour minute second nanos : Nat) : Prop where
  hour_lt : hour < 24
  minute_lt : minute < 60
  second_lt : second < 60
  nanos_lt : nanos < 2 * nanosPerSecond
  leap_at_59 : nanosPerSecond ≤ nanos → second = 59

instance (hour minute second nanos : Nat) : Decidable (IsTime hour minute second nanos) :=
  decidable_of_iff (hour < 24 ∧ minute < 60 ∧ second < 60 ∧ nanos < 2 * nanosPerSecond ∧
      (nanosPerSecond ≤ nanos → second = 59))
    ⟨fun h => ⟨h.1, h.2.1, h.2.2.1, h.2.2.2.1, h.2.2.2.2⟩, fun h => ⟨h.1, h.2, h.3, h.4, h.5⟩⟩

end Calendar

/-- A time of day. -/
structure Clock where
  hour : Nat
  minute : Nat
  second : Nat
  /-- The nanoseconds of the second; those of a leap second count from a full second on. -/
  nanos : Nat
  isTime : Calendar.IsTime hour minute second nanos
deriving DecidableEq

namespace Clock

/-- The time of day with the given counts, if there is one. -/
def ofFields? (hour minute second nanos : Nat) : Option Clock :=
  if h : Calendar.IsTime hour minute second nanos then some ⟨hour, minute, second, nanos, h⟩
  else none

@[simp] theorem ofFields?_self (t : Clock) :
    ofFields? t.hour t.minute t.second t.nanos = some t := by
  simp [ofFields?, t.isTime]

/-- The start of the day. -/
def midnight : Clock := ⟨0, 0, 0, 0, by decide⟩

/-- Whether the time lies in a leap second. -/
def isLeap (t : Clock) : Bool := Calendar.nanosPerSecond ≤ t.nanos

/-- The second as it is shown: a leap second is the second 60. -/
def shownSecond (t : Clock) : Nat := if t.isLeap then t.second + 1 else t.second

/-- The nanoseconds since the shown second began. -/
def fraction (t : Clock) : Nat := t.nanos % Calendar.nanosPerSecond

end Clock

/-- A day and a time of day, in no particular time zone. -/
structure Timestamp where
  date : Date
  clock : Clock
deriving DecidableEq

/-- A bare date stands for its midnight. -/
def Timestamp.ofDate (d : Date) : Timestamp := ⟨d, Clock.midnight⟩

end SqlFilter
