import SqlFilter.Calendar.Reader
import SqlFilter.Calendar.Text
import SqlFilter.Proofs.Result
import SqlFilter.Proofs.Text.Digits

/-!
# Timestamps are read back

A timestamp in the form of documents is read back as the timestamp it was written from
(`Timestamp.read_isoText`): every date of the calendar, also in years with a sign, every time of
day, and the leap seconds, which are shown as the second 60.

The reader takes one field after the other, so there is one lemma for each of its steps, with the
text behind the field left open. What a field must know of that text is only that it does not begin
with a digit or a blank, where it could be taken for a part of the field.
-/

namespace SqlFilter

open Digits (padded value EndsDigits)

/-! ### Blanks -/

theorem trimBlank_of_head? {cs : List Char} (h : ∀ c ∈ cs.head?, isBlank c = false) :
    trimBlank cs = cs := by
  cases cs with
  | nil => rfl
  | cons c cs => rw [trimBlank, List.dropWhile_cons, h c rfl]; rfl

theorem trimBlank_cons {c : Char} (h : isBlank c = false) (cs : List Char) :
    trimBlank (c :: cs) = c :: cs := by
  refine trimBlank_of_head? ?_
  intro x hx
  obtain rfl : c = x := by simpa using hx
  exact h

theorem isBlank_of_isDigit {c : Char} (h : c.isDigit) : isBlank c = false := by
  have bounds : 48 ≤ c.toNat ∧ c.toNat ≤ 57 := by
    simpa [Char.isDigit, UInt32.le_iff_toNat_le] using h
  -- the digits lie between the second range, which is the blank, and the third one
  simp only [isBlank, blankRanges, inRanges, Bool.and_eq_false_iff, Bool.or_eq_false_iff,
    decide_eq_false_iff_not]
  omega

theorem trimBlank_digits {digits : List Char} (h : ∀ c ∈ digits, c.isDigit)
    (nonempty : digits ≠ []) (rest : List Char) : trimBlank (digits ++ rest) = digits ++ rest := by
  cases digits with
  | nil => exact absurd rfl nonempty
  | cons c digits => exact trimBlank_cons (isBlank_of_isDigit (h c List.mem_cons_self)) _

theorem trimBlank_padded (width n : Nat) (rest : List Char) :
    trimBlank (padded width n ++ rest) = padded width n ++ rest :=
  trimBlank_digits (fun _ hc => Digits.isDigit_of_mem_padded hc) (Digits.padded_ne_nil width n) rest

namespace Calendar

/-! ### Numbers and marks -/

@[simp] theorem mark_cons (c : Char) (rest : List Char) : mark c (c :: rest) = .ok rest := by
  simp [mark]

/-- What a number is read from: as much of the text as its field is wide. -/
theorem number_eq (width : Option Nat) (cs : List Char) :
    number width cs
      = if cs.isEmpty then .error .tooShort
        else if ((cs.take (width.getD cs.length)).takeWhile Char.isDigit).isEmpty then
          .error .invalid
        else
          .ok (value ((cs.take (width.getD cs.length)).takeWhile Char.isDigit),
            cs.drop ((cs.take (width.getD cs.length)).takeWhile Char.isDigit).length) := by
  cases width with
  | none =>
    rw [Option.getD_none, List.take_length]
    rfl
  | some w => rfl

/-- **A number is read to its end**: up to the width of the field, or to a character that is no
digit. -/
theorem number_append (width : Option Nat) {digits rest : List Char}
    (h : ∀ c ∈ digits, c.isDigit) (nonempty : digits ≠ []) (fits : ∀ w ∈ width, digits.length ≤ w)
    (ends : width = some digits.length ∨ EndsDigits rest) :
    number width (digits ++ rest) = .ok (value digits, rest) := by
  -- the field is as wide as it says, or as wide as the text
  have wide : digits.length ≤ width.getD (digits ++ rest).length := by
    cases width with
    | none => simp
    | some w => exact fits w rfl
  -- the field holds the digits, and perhaps some of the text behind them
  have read : ((digits ++ rest).take (width.getD (digits ++ rest).length)).takeWhile Char.isDigit
      = digits := by
    rw [List.take_append, List.take_of_length_le wide]
    refine Digits.takeWhile_append h ?_
    -- the field is full, or the text goes on with no digit
    rcases ends with full | ends
    · rw [full, Option.getD_some, Nat.sub_self]
      exact EndsDigits.nil
    · intro c hc
      rw [List.head?_take] at hc
      split at hc
      · cases hc
      · exact ends c hc
  have digits_there : (digits ++ rest).isEmpty = false ∧ digits.isEmpty = false := by
    cases digits with
    | nil => exact absurd rfl nonempty
    | cons c digits => exact ⟨rfl, rfl⟩
  rw [number_eq, read, digits_there.1, digits_there.2, List.drop_left]
  rfl

/-- A number in a field of its own width. -/
theorem number_padded {width n : Nat} (pos : 0 < width) (fits : n < Nat.pow 10 width)
    (rest : List Char) : number (some width) (padded width n ++ rest) = .ok (n, rest) := by
  have length := Digits.length_padded pos fits
  have digits : ∀ c ∈ padded width n, c.isDigit := fun c hc => Digits.isDigit_of_mem_padded hc
  -- the width of the field ends the number, whatever the text behind it
  have read := number_append (some width) digits (Digits.padded_ne_nil width n)
    (by simp [length]) (.inl (by rw [length]) : _ ∨ EndsDigits rest)
  rwa [Digits.value_padded] at read

/-- A field of two digits, with a mark behind it. -/
theorem field_padded {least greatest n : Nat} (hleast : least ≤ n) (hgreatest : n ≤ greatest)
    (fits : n < 100) {c : Char} (hc : isBlank c = false) (rest : List Char) :
    field least greatest (padded 2 n ++ c :: rest) = .ok (n, c :: rest) := by
  rw [field, trimBlank_padded, number_padded (by decide) fits]
  simp only [ok_bind]
  rw [if_pos ⟨hleast, hgreatest⟩, trimBlank_cons hc]

/-! ### Days -/

theorem yearBound_of_dates {y : Int} (first : firstYear ≤ y) (last : y ≤ lastYear) :
    -(yearBound : Int) ≤ y ∧ y < yearBound := by
  unfold firstYear at first
  unfold lastYear at last
  unfold yearBound
  omega

/-- A year without a sign. -/
theorem year_padded {n : Nat} (fits : n < 10000) {c : Char} (hc : isBlank c = false)
    (rest : List Char) : year (padded 4 n ++ c :: rest) = .ok ((n : Int), c :: rest) := by
  have read : number (some 4) (padded 4 n ++ c :: rest) = .ok (n, c :: rest) :=
    number_padded (by decide) fits _
  have bounds : -(yearBound : Int) ≤ n ∧ (n : Int) < yearBound := by
    unfold yearBound
    omega
  obtain ⟨d, ds, front, isDigit⟩ := Digits.exists_padded_eq_cons 4 n
  unfold year
  rw [trimBlank_padded]
  rw [front, List.cons_append] at read ⊢
  -- the text begins with a digit, not with a sign
  split
  · next h =>
    obtain ⟨rfl, -⟩ := List.cons.inj h
    cases isDigit
  · next h =>
    obtain ⟨rfl, -⟩ := List.cons.inj h
    cases isDigit
  · simp only [read, bind, Except.bind, Functor.map, Except.map]
    rw [if_pos bounds, trimBlank_cons hc]

/-- **A year is read back**, with its sign if it has one. -/
theorem year_yearText {y : Int} (first : firstYear ≤ y) (last : y ≤ lastYear) {c : Char}
    (hc : isBlank c = false) (digit : c.isDigit = false) (rest : List Char) :
    year (yearText y ++ c :: rest) = .ok (y, c :: rest) := by
  by_cases short : 0 ≤ y ∧ y ≤ 9999
  · -- four digits without a sign
    obtain ⟨n, rfl⟩ := Int.eq_ofNat_of_zero_le short.1
    have text : yearText n = padded 4 n := if_pos short
    have fits : n < 10000 := by omega
    rw [text]
    exact year_padded fits hc rest
  · -- a sign, behind which any number of digits is read
    have digits : ∀ x ∈ padded 4 y.natAbs, x.isDigit :=
      fun x hx => Digits.isDigit_of_mem_padded hx
    have read := number_append none digits (Digits.padded_ne_nil 4 y.natAbs) (by simp)
      (.inr (EndsDigits.cons digit rest))
    rw [Digits.value_padded] at read
    have text : yearText y = (if y < 0 then '-' else '+') :: padded 4 y.natAbs := if_neg short
    have bounds := yearBound_of_dates first last
    unfold year
    -- from here on the sign decides, and both signs are read in the same way
    by_cases negative : y < 0
    · have same : -((y.natAbs : Nat) : Int) = y := by omega
      rw [text, if_pos negative, List.cons_append, trimBlank_cons (by decide)]
      simp only [read, bind, Except.bind, Functor.map, Except.map]
      rw [same, if_pos bounds, trimBlank_cons hc]
    · have same : ((y.natAbs : Nat) : Int) = y := by omega
      rw [text, if_neg negative, List.cons_append, trimBlank_cons (by decide)]
      simp only [read, bind, Except.bind, Functor.map, Except.map]
      rw [same, if_pos bounds, trimBlank_cons hc]

/-- **A day is read back**, up to the mark behind it. -/
theorem dayFields_isoText (d : Date) {c : Char} (hc : isBlank c = false) (rest : List Char) :
    dayFields (d.isoText ++ c :: rest) = .ok ((d.year, d.month, d.day), c :: rest) := by
  -- each field is read with the mark behind it, and the last one with what follows the day
  have months := d.isDay.month_bounds
  have days := d.isDay.day_le_31
  have year := year_yearText d.isDay.first_le d.isDay.le_last (c := '-') (by decide) rfl
    (padded 2 d.month ++ '-' :: (padded 2 d.day ++ c :: rest))
  have month := field_padded months.1 months.2 (by omega) (c := '-') (by decide)
    (padded 2 d.day ++ c :: rest)
  have day := field_padded d.isDay.day_pos days (by omega) hc rest
  rw [dayFields, Date.isoText]
  simp only [List.append_assoc, List.cons_append, year, month, day, mark_cons, ok_bind]

theorem dayOf_fields (d : Date) : dayOf d.year d.month d.day = .ok d := by
  rw [dayOf, Date.ofFields?_self]

/-! ### Times of day -/

/-- Fraction digits that end the text, at most nine of them, count nanoseconds. -/
theorem nanoseconds_padded (width : Nat) {n : Nat} (pos : 0 < width) (short : width ≤ 9)
    (fits : n < Nat.pow 10 width) :
    nanoseconds (padded width n) = .ok (n * Nat.pow 10 (9 - width), []) := by
  have length := Digits.length_padded pos fits
  have digits : ∀ c ∈ padded width n, c.isDigit := fun c hc => Digits.isDigit_of_mem_padded hc
  have read := number_append (some 9) digits (Digits.padded_ne_nil width n)
    (by simp [length, short]) (.inr EndsDigits.nil)
  rw [List.append_nil, Digits.value_padded] at read
  rw [nanoseconds, read]
  simp only [ok_bind, List.length_nil, length, Nat.sub_zero, List.dropWhile_nil]

/-- **The fraction of a second is read back** from the fewest digits that write it. -/
theorem fraction_fractionText {nanos : Nat} (h : nanos < nanosPerSecond) :
    fraction (fractionText nanos) = .ok (nanos, []) := by
  unfold nanosPerSecond at h
  unfold fractionText
  -- none, three, six or nine digits are written, as few as hold the whole fraction
  split
  · next zero =>
    rw [zero]
    rfl
  split
  · have fits : nanos / 1000000 < 1000 := by omega
    have whole : nanos / 1000000 * 1000000 = nanos := by omega
    rw [fraction, nanoseconds_padded 3 (by decide) (by decide) fits]
    exact congrArg (fun n => Except.ok (n, [])) whole
  split
  · have fits : nanos / 1000 < 1000000 := by omega
    have whole : nanos / 1000 * 1000 = nanos := by omega
    rw [fraction, nanoseconds_padded 6 (by decide) (by decide) fits]
    exact congrArg (fun n => Except.ok (n, [])) whole
  · -- nine digits count the nanoseconds themselves, so nothing is multiplied
    rw [fraction, nanoseconds_padded 9 (by decide) (by decide) h]
    exact congrArg (fun n => Except.ok (n, [])) (Nat.mul_one nanos)

/-- **The fields of a time of day are read back** as they are shown. -/
theorem timeFields_isoText (t : Clock) :
    timeFields t.isoText = .ok ((t.hour, t.minute, t.shownSecond, t.fraction), []) := by
  have hours := t.isTime.hour_lt
  have minutes := t.isTime.minute_lt
  have seconds := t.isTime.second_lt
  have shown : t.shownSecond ≤ 60 := by
    unfold Clock.shownSecond
    split <;> omega
  have below : t.fraction < nanosPerSecond := Nat.mod_lt _ (by decide)
  have hour := field_padded (Nat.zero_le t.hour) (by omega : t.hour ≤ 23) (by omega)
    (c := ':') (by decide)
    (padded 2 t.minute ++ ':' :: (padded 2 t.shownSecond ++ fractionText t.fraction))
  have minute := field_padded (Nat.zero_le t.minute) (by omega : t.minute ≤ 59) (by omega)
    (c := ':') (by decide) (padded 2 t.shownSecond ++ fractionText t.fraction)
  -- the last number of the time is the only one that the end of the text may follow
  have second : number (some 2) (padded 2 t.shownSecond ++ fractionText t.fraction)
      = .ok (t.shownSecond, fractionText t.fraction) :=
    number_padded (by decide) (show t.shownSecond < 100 by omega) _
  rw [timeFields, Clock.isoText]
  simp only [List.append_assoc, List.cons_append, hour, minute, mark_cons, trimBlank_padded, second,
    ok_bind]
  rw [if_neg (by omega), fraction_fractionText below]
  rfl

/-- **The time of the shown fields** is the time they were taken from, also in a leap second. -/
theorem timeOf_fields (t : Clock) :
    timeOf t.hour t.minute t.shownSecond t.fraction = .ok t := by
  have seconds := t.isTime.second_lt
  have nanos := t.isTime.nanos_lt
  have at59 := t.isTime.leap_at_59
  unfold nanosPerSecond at nanos at59
  by_cases leap : t.isLeap
  · -- a leap second is shown as the second 60 and counts its nanoseconds from a full second on
    have late : 1000000000 ≤ t.nanos := of_decide_eq_true leap
    have shown : t.shownSecond = 60 := by
      rw [Clock.shownSecond, if_pos leap, at59 late]
    have fraction : nanosPerSecond + t.fraction = t.nanos := by
      unfold Clock.fraction nanosPerSecond
      omega
    rw [timeOf, if_pos shown, fraction, ← at59 late, Clock.ofFields?_self]
  · -- in any other second the two fields are the second and the nanoseconds as they are
    have early : ¬ 1000000000 ≤ t.nanos := by
      intro late
      exact leap (decide_eq_true late)
    have shown : t.shownSecond = t.second := by
      rw [Clock.shownSecond, if_neg leap]
    have fraction : t.fraction = t.nanos := by
      unfold Clock.fraction nanosPerSecond
      omega
    rw [timeOf, shown, if_neg (by omega), fraction, Clock.ofFields?_self]

end Calendar

open Calendar in
/-- **A timestamp is read back** from the form of documents. -/
theorem Timestamp.read_isoText (t : Timestamp) : Timestamp.read t.isoText = .ok t := by
  rw [Timestamp.read, Timestamp.isoText, dayFields_isoText t.date (by decide)]
  simp only [ok_bind, mark_cons, timeFields_isoText, finish, dayOf_fields, timeOf_fields]

end SqlFilter
