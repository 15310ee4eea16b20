import SqlFilter.Text.Basic

/-!
# Digits and their values

A number that is written in decimal is read back as the number: `Digits.value` undoes
`Digits.decimal`, and leading zeros do not matter to it. The rest is about where a run of digits
ends: at the first character that is no digit.
-/

namespace SqlFilter

namespace Digits

/-! ### Written digits -/

theorem isDigit_of_mem_decimal {n : Nat} {c : Char} (h : c ∈ decimal n) : c.isDigit :=
  Nat.isDigit_of_mem_toDigits (by decide) (by decide) h

theorem isDigit_of_mem_padded {width n : Nat} {c : Char} (h : c ∈ padded width n) : c.isDigit := by
  rcases List.mem_append.mp h with zero | digit
  · rw [List.eq_of_mem_replicate zero]
    rfl
  · exact isDigit_of_mem_decimal digit

@[simp] theorem count_padded {c : Char} (h : c.isDigit = false) (width n : Nat) :
    (padded width n).count c = 0 := by
  refine List.count_eq_zero.mpr fun mem => ?_
  rw [isDigit_of_mem_padded mem] at h
  exact Bool.noConfusion h

/-- A digit is none of the marks that stand between digits or begin other values. -/
theorem ne_of_isDigit {c : Char} (digit : c.isDigit) (mark : Char) (isMark : mark.isDigit = false) :
    c ≠ mark := by
  rintro rfl
  rw [digit] at isMark
  cases isMark

theorem decimal_ne_nil (n : Nat) : decimal n ≠ [] := Nat.toDigits_ne_nil

theorem padded_ne_nil (width n : Nat) : padded width n ≠ [] := by
  intro h
  exact decimal_ne_nil n (List.append_eq_nil_iff.mp h).2

/-- A number begins with a digit. -/
theorem exists_decimal_eq_cons (n : Nat) : ∃ c cs, decimal n = c :: cs ∧ c.isDigit := by
  obtain ⟨c, cs, front⟩ := List.exists_cons_of_ne_nil (decimal_ne_nil n)
  exact ⟨c, cs, front, isDigit_of_mem_decimal (front ▸ List.mem_cons_self)⟩

/-- A field begins with a digit, if only a zero to fill it. -/
theorem exists_padded_eq_cons (width n : Nat) : ∃ c cs, padded width n = c :: cs ∧ c.isDigit := by
  obtain ⟨c, cs, front⟩ := List.exists_cons_of_ne_nil (padded_ne_nil width n)
  exact ⟨c, cs, front, isDigit_of_mem_padded (front ▸ List.mem_cons_self)⟩

/-- A field is exactly as wide as it is meant to be, if the number fits. -/
theorem length_padded {width n : Nat} (pos : 0 < width) (fits : n < Nat.pow 10 width) :
    (padded width n).length = width := by
  -- the zeros make up for what the digits are too short
  have short : (decimal n).length ≤ width := (Nat.length_toDigits_le_iff (by decide) pos).mpr fits
  rw [padded, List.length_append, List.length_replicate]
  omega

/-- Only zero is written with a zero in front. -/
theorem head_decimal {n : Nat} (h : n ≠ 0) : ∀ c ∈ (decimal n).head?, c ≠ '0' := by
  induction n using Nat.strongRecOn with
  | ind n ih =>
    rw [decimal]
    rcases Nat.lt_or_ge n 10 with single | more
    · rw [Nat.toDigits_of_lt_base single]
      have nonzero : ∀ n, n < 10 → n ≠ 0 → n.digitChar ≠ '0' := by decide
      intro c hc
      obtain rfl : n.digitChar = c := by simpa using hc
      exact nonzero n single h
    · -- the leading digit is that of the number without its last digit
      have leading := ih (n / 10) (by omega) (by omega)
      rw [decimal] at leading
      rw [Nat.toDigits_of_base_le (by decide) more, List.head?_append]
      cases front : Nat.toDigits 10 (n / 10) with
      | nil => exact absurd front (decimal_ne_nil (n / 10))
      | cons c cs =>
        rw [front] at leading
        exact leading

/-! ### The value -/

@[simp] theorem value_decimal (n : Nat) : value (decimal n) = n := Nat.ofDigitChars_ten_toDigits

@[simp] theorem value_padded (width n : Nat) : value (padded width n) = n := by
  -- zeros in front leave the value at zero
  have zeros : (List.replicate (width - (decimal n).length) '0').foldl
      (fun n c => 10 * n + digitValue c) 0 = 0 := by
    induction width - (decimal n).length with
    | zero => rfl
    | succ k ih => exact ih
  rw [value, padded, List.foldl_append, zeros]
  exact value_decimal n

/-! ### Where digits end -/

/-- The text does not begin with a digit. -/
def EndsDigits (cs : List Char) : Prop := ∀ c ∈ cs.head?, c.isDigit = false

theorem EndsDigits.nil : EndsDigits [] := by
  intro c hc
  cases hc

theorem EndsDigits.cons {c : Char} (h : c.isDigit = false) (cs : List Char) :
    EndsDigits (c :: cs) := by
  intro x hx
  obtain rfl : c = x := by simpa using hx
  exact h

variable {digits rest : List Char}

theorem takeWhile_append (h : ∀ c ∈ digits, c.isDigit) (ends : EndsDigits rest) :
    (digits ++ rest).takeWhile Char.isDigit = digits := by
  have stops : rest.takeWhile Char.isDigit = [] := by
    cases rest with
    | nil => rfl
    | cons c rest => rw [List.takeWhile_cons, ends c rfl]; rfl
  rw [List.takeWhile_append_of_pos h, stops, List.append_nil]

theorem dropWhile_append (h : ∀ c ∈ digits, c.isDigit) (ends : EndsDigits rest) :
    (digits ++ rest).dropWhile Char.isDigit = rest := by
  have stops : rest.dropWhile Char.isDigit = rest := by
    cases rest with
    | nil => rfl
    | cons c rest => rw [List.dropWhile_cons, ends c rfl]; rfl
  rw [List.dropWhile_append_of_pos h, stops]

/-- **A field is told by its digits**, if a mark stands behind it. -/
theorem padded_append_cons_inj {width width' n n' : Nat} {c c' : Char} {rest rest' : List Char}
    (hc : c.isDigit = false) (hc' : c'.isDigit = false)
    (h : padded width n ++ c :: rest = padded width' n' ++ c' :: rest') :
    n = n' ∧ c :: rest = c' :: rest' := by
  have digits : ∀ width n, ∀ x ∈ padded width n, x.isDigit :=
    fun width n x hx => isDigit_of_mem_padded hx
  have front := congrArg (List.takeWhile Char.isDigit) h
  have behind := congrArg (List.dropWhile Char.isDigit) h
  -- the marks end the digits on both sides
  rw [takeWhile_append (digits _ _) (.cons hc _), takeWhile_append (digits _ _) (.cons hc' _)]
    at front
  rw [dropWhile_append (digits _ _) (.cons hc _), dropWhile_append (digits _ _) (.cons hc' _)]
    at behind
  have value := congrArg value front
  rw [value_padded, value_padded] at value
  exact ⟨value, behind⟩

end Digits

end SqlFilter
