import SqlFilter.Json.Reader
import SqlFilter.Proofs.Result
import SqlFilter.Proofs.Text.Digits

/-!
# Integers are read back

An integer that fits into 64 bits, signed or unsigned, is read back from its decimal digits
(`Json.readNumber_decimal` with the sign read, `Json.integerValue_natAbs` for the value). What
follows must not continue the number: text that begins with a digit, a point or an exponent would.
Within a document, a value is followed by a comma, by a closing bracket or brace, or by nothing.
-/

namespace SqlFilter

namespace Json

open Digits (decimal digitValue value EndsDigits)

/-- What may follow a value in a text. -/
def EndsValue (cs : List Char) : Prop := ∀ c ∈ cs.head?, c = ',' ∨ c = ']' ∨ c = '\x7d'

theorem EndsValue.nil : EndsValue [] := by
  intro c hc
  cases hc

theorem EndsValue.cons {c : Char} (h : c = ',' ∨ c = ']' ∨ c = '\x7d') (cs : List Char) :
    EndsValue (c :: cs) := by
  intro x hx
  obtain rfl : c = x := by simpa using hx
  exact h

theorem EndsValue.endsDigits {cs : List Char} (h : EndsValue cs) : EndsDigits cs := by
  intro c hc
  rcases h c hc with rfl | rfl | rfl <;> rfl

/-! ### The parts of a number -/

/-- The digits before the point are read to their end. -/
theorem readWhole_decimal (n : Nat) {tail : List Char} (ends : EndsValue tail) :
    readWhole (decimal n ++ tail) = .ok (decimal n, tail) := by
  by_cases zero : n = 0
  · subst zero
    show readWhole ('0' :: tail) = .ok (['0'], tail)
    cases tail with
    | nil => rfl
    | cons c tail =>
      have stops := ends.endsDigits c rfl
      rw [readWhole]
      simp only [stops]
      rfl
  · have digits : ∀ c ∈ decimal n, c.isDigit := fun c hc => Digits.isDigit_of_mem_decimal hc
    have split : readDigits (decimal n ++ tail) = (decimal n, tail) := by
      rw [readDigits, Digits.takeWhile_append digits ends.endsDigits,
        Digits.dropWhile_append digits ends.endsDigits]
    -- the digits of a number that is not zero do not begin with a zero
    have leading := Digits.head_decimal zero
    obtain ⟨c, cs, front, isDigit⟩ := Digits.exists_decimal_eq_cons n
    rw [front] at split leading ⊢
    have notZero : c ≠ '0' := leading c rfl
    rw [List.cons_append] at split ⊢
    rw [readWhole.eq_4 c (cs ++ tail) notZero, if_pos isDigit, split]

theorem readFraction_end {tail : List Char} (ends : EndsValue tail) :
    readFraction tail = .ok (none, tail) := by
  cases tail with
  | nil => rfl
  | cons c tail => rcases ends c rfl with rfl | rfl | rfl <;> rfl

theorem readExponent_end {tail : List Char} (ends : EndsValue tail) :
    readExponent tail = .ok (none, tail) := by
  cases tail with
  | nil => rfl
  | cons c tail => rcases ends c rfl with rfl | rfl | rfl <;> rfl

/-! ### Its value -/

theorem le_foldl_digits (n : Nat) (digits : List Char) :
    n ≤ digits.foldl (fun n c => 10 * n + digitValue c) n := by
  induction digits generalizing n with
  | nil => exact Nat.le_refl n
  | cons c digits ih =>
    calc n ≤ 10 * n + digitValue c := by omega
      _ ≤ _ := ih _

/-- Digits whose number fits are all taken into the significand. -/
theorem take_of_fits (n : Nat) (digits : List Char)
    (fits : digits.foldl (fun n c => 10 * n + digitValue c) n < Numeral.significandBound) :
    Numeral.take n digits = (digits.foldl (fun n c => 10 * n + digitValue c) n, 0) := by
  induction digits generalizing n with
  | nil => rfl
  | cons c digits ih =>
    -- what has been taken so far is no more than the whole number
    have sofar : 10 * n + digitValue c < Numeral.significandBound :=
      Nat.lt_of_le_of_lt (le_foldl_digits _ digits) fits
    rw [Numeral.take, if_pos sofar, ih _ fits]
    rfl

theorem take_decimal {n : Nat} (fits : n < Numeral.significandBound) :
    Numeral.take 0 (decimal n) = (n, 0) := by
  have same : (decimal n).foldl (fun n c => 10 * n + digitValue c) 0 = n := Digits.value_decimal n
  rw [take_of_fits 0 (decimal n) (by rw [same]; exact fits), same]

/-- **An integer is read back** after its sign. -/
theorem readNumber_decimal (negative : Bool) {n : Nat} (fits : n < Numeral.significandBound)
    {tail : List Char} (ends : EndsValue tail) :
    readNumber negative (decimal n ++ tail) = .ok (Numeral.integerValue negative n, tail) := by
  have value : Numeral.value ⟨negative, decimal n, none, none⟩
      = .ok (Numeral.integerValue negative n) := by
    rw [Numeral.value, take_decimal fits]
    rfl
  rw [readNumber, readWhole_decimal n ends]
  simp only [ok_bind, readFraction_end ends, readExponent_end ends, value]

/-- The value of an integer's sign and digits is the integer. -/
theorem integerValue_natAbs {n : Int} (least : Int64.minValue.toInt ≤ n) :
    Numeral.integerValue (n < 0) n.natAbs = .int n := by
  -- below zero the least integer still fits, and the reader negates the digits
  by_cases negative : n < 0
  · have same : -((n.natAbs : Nat) : Int) = n := by omega
    have nonzero : n.natAbs ≠ 0 := by omega
    rw [decide_eq_true negative, Numeral.integerValue, if_neg (by decide), same,
      if_neg (by omega)]
  · have same : ((n.natAbs : Nat) : Int) = n := by omega
    rw [decide_eq_false negative, Numeral.integerValue, if_pos (by decide), same]

end Json

end SqlFilter
