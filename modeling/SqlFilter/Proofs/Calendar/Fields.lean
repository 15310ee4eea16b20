import Mathlib.Data.List.Forall2
import SqlFilter.Calendar.Text
import SqlFilter.Proofs.Text.Digits

/-!
# The fields of a timestamp in a clause

The form of clauses shows a timestamp to the tick of a hundred nanoseconds. Two timestamps have the
same text exactly if they agree in date, hour, minute and second, in being a leap second or not, and
in their ticks (`Timestamp.databaseText_eq_iff`). The twelve-hour clock loses nothing, since the
half of the day is written behind the time; nor does the second 60, which only a leap second shows.

In the years from 0 to 9999 every field has its fixed width (`Timestamp.hasForm_databaseText`), so
the texts are all of one length. Other years have a sign, and as many digits as they need.
-/

namespace SqlFilter

open Digits (padded)

namespace Calendar

/-! ### Years -/

/-- The sign of a year outside 0 to 9999. -/
def yearSign (year : Int) : List Char :=
  if 0 ≤ year ∧ year ≤ 9999 then [] else if year < 0 then ['-'] else ['+']

theorem yearText_eq (year : Int) : yearText year = yearSign year ++ padded 4 year.natAbs := by
  unfold yearText yearSign
  -- in these years there is no sign, and the year is its absolute value
  split
  · next short =>
    rw [show year.toNat = year.natAbs by omega]
    rfl
  · split <;> rfl

theorem yearSign_eq_minus_iff (year : Int) : yearSign year = ['-'] ↔ year < 0 := by
  unfold yearSign
  split
  · next short =>
    refine ⟨fun h => ?_, fun negative => ?_⟩
    · cases h
    · omega
  · split
    · next negative => exact iff_of_true rfl negative
    · next positive => exact iff_of_false (by decide) positive

/-- The sign is what stands before the first digit. -/
theorem takeWhile_yearText (year : Int) (rest : List Char) :
    (yearText year ++ rest).takeWhile (fun c => !c.isDigit) = yearSign year := by
  have sign : ∀ c ∈ yearSign year, (!c.isDigit) = true := by
    unfold yearSign
    split
    · simp
    · split <;> simp
  rw [yearText_eq, List.append_assoc, List.takeWhile_append_of_pos sign]
  -- the digits are there, and the first of them ends the sign
  obtain ⟨d, ds, digits, isDigit⟩ := Digits.exists_padded_eq_cons 4 year.natAbs
  rw [digits]
  simp [isDigit]

/-- **A year is told by its text**, if a mark stands behind it. -/
theorem yearText_append_cons_inj {year year' : Int} {c c' : Char} {rest rest' : List Char}
    (hc : c.isDigit = false) (hc' : c'.isDigit = false)
    (h : yearText year ++ c :: rest = yearText year' ++ c' :: rest') :
    year = year' ∧ c :: rest = c' :: rest' := by
  -- the signs first, then what stands behind them
  have sign := congrArg (List.takeWhile fun c => !c.isDigit) h
  rw [takeWhile_yearText, takeWhile_yearText] at sign
  rw [yearText_eq, yearText_eq, sign, List.append_assoc, List.append_assoc,
    List.append_cancel_left_eq] at h
  obtain ⟨same, behind⟩ := Digits.padded_append_cons_inj hc hc' h
  refine ⟨?_, behind⟩
  -- equal digits are equal absolute values, and the sign tells the two years apart
  have negative : year < 0 ↔ year' < 0 := by
    rw [← yearSign_eq_minus_iff, ← yearSign_eq_minus_iff, sign]
  omega

/-! ### Forms -/

/-- The text has the given form, in which `d` stands for any digit and all else for itself. -/
def HasForm (form text : List Char) : Prop :=
  List.Forall₂ (fun f c => if f = 'd' then c.isDigit else c = f) form text

theorem HasForm.append {form text form' text' : List Char} (h : HasForm form text)
    (h' : HasForm form' text') : HasForm (form ++ form') (text ++ text') := List.rel_append h h'

theorem hasForm_self {cs : List Char} (h : 'd' ∉ cs) : HasForm cs cs := by
  refine List.forall₂_same.mpr fun c hc => ?_
  have noDigit : c ≠ 'd' := fun same => h (same ▸ hc)
  rw [if_neg noDigit]

theorem HasForm.cons {c : Char} (hc : c ≠ 'd') {form text : List Char} (h : HasForm form text) :
    HasForm (c :: form) (c :: text) := List.Forall₂.cons (by rw [if_neg hc]) h

/-- A number that fits into its field, in front of text that has a form. -/
theorem HasForm.padded_append (width : Nat) {n : Nat} (pos : 0 < width)
    (fits : n < Nat.pow 10 width) {form text : List Char} (h : HasForm form text) :
    HasForm (List.replicate width 'd' ++ form) (padded width n ++ text) := by
  -- place by place, since the field is as wide as the form says
  have length : (List.replicate width 'd').length = (padded width n).length := by
    rw [List.length_replicate, Digits.length_padded pos fits]
  have digits : HasForm (List.replicate width 'd') (padded width n) := by
    refine List.forall₂_iff_zip.mpr ⟨length, fun mem => ?_⟩
    obtain ⟨form, digit⟩ := List.of_mem_zip mem
    rw [if_pos (List.eq_of_mem_replicate form)]
    exact Digits.isDigit_of_mem_padded digit
  exact digits.append h

end Calendar

open Calendar

namespace Clock

theorem hour12_bounds (t : Clock) : 1 ≤ t.hour12 ∧ t.hour12 ≤ 12 := by
  unfold hour12
  split <;> omega

theorem halfText_eq_am_iff (t : Clock) : t.halfText = ['A', 'M'] ↔ t.hour < 12 := by
  unfold halfText
  split
  · next morning => exact iff_of_true rfl morning
  · next afternoon => exact iff_of_false (by decide) afternoon

/-- **The hour is told** by the twelve-hour clock and the half of the day. -/
theorem hour_inj {s t : Clock} (hour : s.hour12 = t.hour12) (half : s.halfText = t.halfText) :
    s.hour = t.hour := by
  have range := s.isTime.hour_lt
  have range' := t.isTime.hour_lt
  have morning : s.hour < 12 ↔ t.hour < 12 := by
    rw [← halfText_eq_am_iff, ← halfText_eq_am_iff, half]
  -- twelve hours of each half, told by a number from 1 to 12, are twelve different ones
  unfold hour12 at hour
  split at hour <;> split at hour <;> omega

theorem shownSecond_eq_60_iff (t : Clock) : t.shownSecond = 60 ↔ t.isLeap := by
  have range := t.isTime.second_lt
  unfold shownSecond
  split
  · next leap =>
    have last : t.second = 59 := t.isTime.leap_at_59 (of_decide_eq_true leap)
    exact iff_of_true (by omega) leap
  · next noLeap => exact iff_of_false (by omega) noLeap

/-- **The second is told** as it is shown, and so is whether it is a leap second. -/
theorem second_inj {s t : Clock} (h : s.shownSecond = t.shownSecond) :
    s.second = t.second ∧ s.isLeap = t.isLeap := by
  have leap : s.isLeap = t.isLeap := by
    rw [Bool.eq_iff_iff, ← shownSecond_eq_60_iff, ← shownSecond_eq_60_iff, h]
  refine ⟨?_, leap⟩
  -- in a leap second the second is 59 for both, and else it is what is shown
  unfold shownSecond at h
  rw [leap] at h
  split at h <;> omega

/-- The seconds and ticks of a leap second have no more digits than those of any other. -/
theorem fields_lt (t : Clock) :
    t.hour12 < 100 ∧ t.minute < 100 ∧ t.shownSecond < 100 ∧ t.ticks < 10000000 := by
  have hour := t.hour12_bounds
  have minute := t.isTime.minute_lt
  have second := t.isTime.second_lt
  have fraction : t.fraction < Calendar.nanosPerSecond := Nat.mod_lt _ (by decide)
  unfold Calendar.nanosPerSecond at fraction
  refine ⟨by omega, by omega, ?_, ?_⟩
  · unfold shownSecond
    split <;> omega
  · unfold ticks
    omega

/-- **What the time of day in a clause tells.** -/
theorem databaseText_inj {s t : Clock} (h : s.databaseText = t.databaseText) :
    s.hour = t.hour ∧ s.minute = t.minute ∧ s.second = t.second ∧ s.isLeap = t.isLeap
      ∧ s.ticks = t.ticks := by
  simp only [databaseText, List.append_assoc, List.cons_append] at h
  -- read from the front: each field ends at the first mark behind it
  obtain ⟨hour, h⟩ := Digits.padded_append_cons_inj rfl rfl h
  obtain ⟨minute, h⟩ := Digits.padded_append_cons_inj rfl rfl (List.cons.inj h).2
  obtain ⟨second, h⟩ := Digits.padded_append_cons_inj rfl rfl (List.cons.inj h).2
  obtain ⟨ticks, h⟩ := Digits.padded_append_cons_inj rfl rfl (List.cons.inj h).2
  have half : s.halfText = t.halfText := (List.cons.inj h).2
  obtain ⟨sameSecond, leap⟩ := second_inj second
  exact ⟨hour_inj hour half, minute, sameSecond, leap, ticks⟩

end Clock

/-- **What the day in a clause tells**: all of it, if a mark stands behind it. -/
theorem Date.databaseText_append_cons_inj {d e : Date} {c c' : Char} {rest rest' : List Char}
    (hc : c.isDigit = false) (hc' : c'.isDigit = false)
    (h : d.databaseText ++ c :: rest = e.databaseText ++ c' :: rest') :
    d = e ∧ c :: rest = c' :: rest' := by
  simp only [databaseText, List.append_assoc, List.cons_append] at h
  obtain ⟨month, h⟩ := Digits.padded_append_cons_inj rfl rfl h
  obtain ⟨day, h⟩ := Digits.padded_append_cons_inj rfl rfl (List.cons.inj h).2
  obtain ⟨year, h⟩ := yearText_append_cons_inj hc hc' (List.cons.inj h).2
  -- two days with the same fields are the same, whatever the proofs in them
  refine ⟨?_, h⟩
  cases d
  cases e
  simp_all

namespace Timestamp

/-- **What a timestamp in a clause tells**: all but what lies below a tick. -/
theorem databaseText_eq_iff (a b : Timestamp) :
    a.databaseText = b.databaseText ↔
      a.date = b.date ∧ a.clock.hour = b.clock.hour ∧ a.clock.minute = b.clock.minute
        ∧ a.clock.second = b.clock.second ∧ a.clock.isLeap = b.clock.isLeap
        ∧ a.clock.ticks = b.clock.ticks := by
  constructor
  · intro h
    obtain ⟨date, h⟩ := Date.databaseText_append_cons_inj rfl rfl h
    exact ⟨date, Clock.databaseText_inj (List.cons.inj h).2⟩
  · -- the text is made of these fields, the hour by its two parts
    rintro ⟨date, hour, minute, second, leap, ticks⟩
    simp only [databaseText, Clock.databaseText, Clock.hour12, Clock.halfText, Clock.shownSecond,
      date, hour, minute, second, leap, ticks]

/-- **The form of a timestamp** in the years that have four digits. -/
theorem hasForm_databaseText {ts : Timestamp} (first : 0 ≤ ts.date.year)
    (last : ts.date.year ≤ 9999) :
    HasForm ("dd/dd/dddd ".toList ++ padded 2 ts.clock.hour12 ++ ":dd:dd.ddddddd ".toList
      ++ ts.clock.halfText) ts.databaseText := by
  -- every field fits its width, and the year is one of four digits
  obtain ⟨-, minute, second, ticks⟩ := ts.clock.fields_lt
  have month := ts.date.isDay.month_bounds
  have day := ts.date.isDay.day_le_31
  have year : yearText ts.date.year = padded 4 ts.date.year.toNat := if_pos ⟨first, last⟩
  have letters : 'd' ∉ padded 2 ts.clock.hour12 ∧ 'd' ∉ ts.clock.halfText := by
    refine ⟨fun mem => absurd (Digits.isDigit_of_mem_padded mem) (by decide), ?_⟩
    unfold Clock.halfText
    split <;> decide
  -- the hour and the half of the day are in the form as they are, all other fields as digits
  have time : HasForm (":dd:dd.ddddddd ".toList ++ ts.clock.halfText)
      (':' :: (padded 2 ts.clock.minute ++ ':' :: (padded 2 ts.clock.shownSecond
        ++ '.' :: (padded 7 ts.clock.ticks ++ ' ' :: ts.clock.halfText)))) :=
    .cons (by decide) <| .padded_append 2 (by decide) minute <|
    .cons (by decide) <| .padded_append 2 (by decide) second <|
    .cons (by decide) <| .padded_append 7 (by decide) ticks <|
    .cons (by decide) <| hasForm_self letters.2
  have whole := (hasForm_self letters.1).append time
  have date : HasForm ("dd/dd/dddd ".toList ++ (padded 2 ts.clock.hour12
      ++ (":dd:dd.ddddddd ".toList ++ ts.clock.halfText))) _ :=
    .padded_append 2 (by decide) (show ts.date.month < 100 by omega) <|
    .cons (c := '/') (by decide) <|
    .padded_append 2 (by decide) (show ts.date.day < 100 by omega) <|
    .cons (c := '/') (by decide) <|
    .padded_append 4 (by decide) (show ts.date.year.toNat < 10000 by omega) <|
    .cons (c := ' ') (by decide) whole
  simpa only [databaseText, Date.databaseText, Clock.databaseText, year, List.append_assoc,
    List.cons_append] using date

/-- In these years all texts are of one length. -/
theorem length_databaseText {ts : Timestamp} (first : 0 ≤ ts.date.year)
    (last : ts.date.year ≤ 9999) : ts.databaseText.length = 30 := by
  have hour : (padded 2 ts.clock.hour12).length = 2 :=
    Digits.length_padded (by decide) ts.clock.fields_lt.1
  have half : ts.clock.halfText.length = 2 := by
    unfold Clock.halfText
    split <;> rfl
  rw [← (hasForm_databaseText first last).length_eq, List.length_append, List.length_append,
    List.length_append, hour, half]
  rfl

/-- **The fields of a timestamp in a clause.** Two timestamps have the same text exactly if they
differ in nothing but the digits of the nanoseconds below a hundred. In the years that have four
digits all other fields have a fixed width as well: thirty characters, with an hour from 01 to 12
and seven digits for the fraction, also in a leap second. -/
theorem databaseText_fields (a b : Timestamp) :
    (a.databaseText = b.databaseText ↔
      a.date = b.date ∧ a.clock.hour = b.clock.hour ∧ a.clock.minute = b.clock.minute
        ∧ a.clock.second = b.clock.second ∧ a.clock.isLeap = b.clock.isLeap
        ∧ a.clock.nanos % 1000000000 / 100 = b.clock.nanos % 1000000000 / 100)
      ∧ (0 ≤ a.date.year → a.date.year ≤ 9999 →
        a.databaseText.length = 30
          ∧ ∃ hour half, 1 ≤ hour ∧ hour ≤ 12 ∧ half ∈ [['A', 'M'], ['P', 'M']]
            ∧ HasForm ("dd/dd/dddd ".toList ++ padded 2 hour ++ ":dd:dd.ddddddd ".toList ++ half)
              a.databaseText) := by
  refine ⟨databaseText_eq_iff a b, fun first last => ⟨length_databaseText first last, ?_⟩⟩
  have hour := a.clock.hour12_bounds
  refine ⟨a.clock.hour12, a.clock.halfText, hour.1, hour.2, ?_, hasForm_databaseText first last⟩
  unfold Clock.halfText
  split <;> simp

/-- A leap second just before midnight, to the last nanosecond and to the last tick. -/
theorem databaseText_fields_of_leap_second :
    let lastDay : Date := ⟨2016, 12, 31, by decide⟩
    let a : Timestamp := ⟨lastDay, ⟨23, 59, 59, 1999999999, by decide⟩⟩
    let b : Timestamp := ⟨lastDay, ⟨23, 59, 59, 1999999900, by decide⟩⟩
    a.databaseText = b.databaseText ∧ a ≠ b
      ∧ a.databaseText = "12/31/2016 11:59:60.9999999 PM".toList
      ∧ a.databaseText.length = 30 := by
  intro lastDay a b
  have same : a.databaseText = b.databaseText :=
    (databaseText_fields a b).1.mpr ⟨rfl, rfl, rfl, rfl, by decide, by decide⟩
  have width := ((databaseText_fields a b).2 (by decide) (by decide)).1
  exact ⟨same, by decide, by decide, width⟩

end Timestamp

end SqlFilter
