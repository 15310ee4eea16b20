import SqlFilter.Proofs.Sanitize.Stripped
import SqlFilter.Proofs.Text.Digits
import SqlFilter.Proofs.Uuid
import SqlFilter.Scalar

/-!
# Display texts with nothing to sanitize

Only the values of one kind, texts, can hold something that the sanitizer looks for. The display
text of every other value is **inert** (`Scalar.isInert_displayChars`): it passes the sanitizer
unchanged.

Control characters, stars and quotes are ruled out by the characters that values are written with,
letters, digits and some marks. Slashes are among them, between the fields of a date, but each
bracket of a comment has a star. Dashes are among them too, and it takes a reason why two of them
never meet: a number has at most one, in front, and so has a year; the hyphens of an identifier have
digits between them.
-/

namespace SqlFilter

namespace Sanitize

/-! ### Inert texts -/

/-- The text holds nothing that the sanitizer looks for. -/
structure IsInert (cs : List Char) : Prop where
  visible : ∀ c ∈ cs, isControl c = false
  noStar : '*' ∉ cs
  noQuote : quote ∉ cs
  noDashes : dashes.IsFree cs

theorem IsInert.stripped_eq {cs : List Char} (h : IsInert cs) : stripped cs = cs :=
  stripped_of_isFree h.visible h.noDashes (Delimiter.isFree_of_second_notMem h.noStar)
    (Delimiter.isFree_of_first_notMem h.noStar)

/-- **An inert text passes the sanitizer unchanged.** -/
theorem IsInert.chars_eq {cs : List Char} (h : IsInert cs) : chars cs = cs := by
  rw [chars, h.stripped_eq, doubleQuotes_of_notMem h.noQuote]

/-- The characters that values are written with: letters, digits and marks. -/
def isValueChar (c : Char) : Bool := c.isAlphanum || ['/', ':', ' ', '.', '+', '-'].contains c

theorem isValueChar_of_isDigit {c : Char} (h : c.isDigit) : isValueChar c = true := by
  simp [isValueChar, Char.isAlphanum, h]

theorem isControl_of_le {c : Char} {bound : UInt32} (high : 32 ≤ bound) (h : bound ≤ c.val) :
    isControl c = false :=
  decide_eq_false (UInt32.not_lt.mpr (UInt32.le_trans high h))

theorem isControl_of_isAlphanum {c : Char} (h : c.isAlphanum) : isControl c = false := by
  -- letters and digits lie between bounds, and the lower one is no control character
  rcases Bool.or_eq_true_iff.mp h with letter | digit
  · rcases Bool.or_eq_true_iff.mp letter with upper | lower
    · exact isControl_of_le (by decide) (of_decide_eq_true upper).1
    · exact isControl_of_le (by decide) (of_decide_eq_true (Bool.and_eq_true_iff.mp lower).1)
  · exact isControl_of_le (by decide) (of_decide_eq_true (Bool.and_eq_true_iff.mp digit).1)

theorem isControl_of_isValueChar {c : Char} (h : isValueChar c = true) : isControl c = false := by
  rcases Bool.or_eq_true_iff.mp h with alphanum | mark
  · exact isControl_of_isAlphanum alphanum
  · have above : ['/', ':', ' ', '.', '+', '-'].all (!isControl ·) := by decide
    simpa using List.all_eq_true.mp above c (List.contains_iff_mem.mp mark)

/-- Of texts in these characters, two dashes next to each other are all that needs a look. -/
theorem isInert_of_isValueChar {cs : List Char} (h : ∀ c ∈ cs, isValueChar c = true)
    (noDashes : dashes.IsFree cs) : IsInert cs where
  visible := fun c hc => isControl_of_isValueChar (h c hc)
  noStar := fun star => absurd (h '*' star) (by decide)
  noQuote := fun mem => absurd (h quote mem) (by decide)
  noDashes := noDashes

theorem isFree_dashes_of_count_le_one {cs : List Char} (h : cs.count '-' ≤ 1) :
    dashes.IsFree cs := by
  intro occurs
  -- an occurrence of two dashes would count for two
  have two : 2 ≤ cs.count '-' := occurs.sublist.count_le '-'
  omega

/-! ### Numbers -/

/-- At most a sign, and then letters, digits and points. -/
def IsSigned (cs : List Char) : Prop :=
  ∃ body, (cs = body ∨ cs = '-' :: body) ∧ ∀ c ∈ body, c.isAlphanum ∨ c = '.'

theorem IsSigned.isInert {cs : List Char} (h : IsSigned cs) : IsInert cs := by
  obtain ⟨body, sign, plain⟩ := h
  -- a point and a letter are no dash, so the sign is the only one
  have noDash : body.count '-' = 0 :=
    List.count_eq_zero.mpr fun mem => absurd (plain '-' mem) (by decide)
  have valueChars : ∀ c ∈ body, isValueChar c = true := by
    intro c hc
    rcases plain c hc with alphanum | rfl
    · simp [isValueChar, alphanum]
    · decide
  rcases sign with rfl | rfl
  · exact isInert_of_isValueChar valueChars (isFree_dashes_of_count_le_one (by omega))
  · refine isInert_of_isValueChar (List.forall_mem_cons.mpr ⟨by decide, valueChars⟩) ?_
    exact isFree_dashes_of_count_le_one (by simp [noDash])

theorem isAlphanum_of_isDigit {c : Char} (h : c.isDigit) : c.isAlphanum := by
  simp [Char.isAlphanum, h]

theorem isSigned_integer (n : Int) : IsSigned (Digits.integer n) := by
  refine ⟨Digits.decimal n.natAbs, ?_, fun c hc => .inl ?_⟩
  · -- the sign is there exactly if the number is negative
    unfold Digits.integer
    split
    · exact .inr rfl
    · exact .inl rfl
  · exact isAlphanum_of_isDigit (Digits.isDigit_of_mem_decimal hc)

end Sanitize

open Sanitize

namespace Decimal

theorem isDigit_of_mem_significant {n : Nat} {c : Char} (h : c ∈ significant n) : c.isDigit := by
  have kept := (List.dropWhile_sublist _).subset (List.mem_reverse.mp h)
  exact Nat.isDigit_of_mem_toDigits (by decide) (by decide) (List.mem_reverse.mp kept)

/-- Written out in full, a number has its digits, zeros and a point. -/
theorem mem_positionalText {keepFraction : Bool} {digits : List Char} {place : Int} {c : Char}
    (h : c ∈ positionalText keepFraction digits place) : c ∈ digits ∨ c = '0' ∨ c = '.' := by
  unfold positionalText at h
  split at h
  · -- the point, if there is one, stands among the digits or behind them
    rw [List.mem_append, List.mem_append] at h
    rcases h with (whole | zero) | fraction
    · exact .inl (List.mem_of_mem_take whole)
    · exact .inr (.inl (List.eq_of_mem_replicate zero))
    · split at fraction
      · rcases List.mem_cons.mp fraction with point | digit
        · exact .inr (.inr point)
        · exact .inl (List.mem_of_mem_drop digit)
      · split at fraction
        · exact .inr (Or.symm (by simpa using fraction))
        · cases fraction
  · -- a fraction below one, with the point in front of all its digits
    simp only [List.mem_cons, List.mem_append] at h
    rcases h with (zero | point | zero) | digit
    · exact .inr (.inl zero)
    · exact .inr (.inr point)
    · exact .inr (.inl (List.eq_of_mem_replicate zero))
    · exact .inl digit

end Decimal

namespace Scalar

/-- Displayed numbers are never written with an exponent. -/
theorem mem_unsigned_floatLayout {d : Decimal} {c : Char} (h : c ∈ floatLayout.unsigned d) :
    c.isDigit ∨ c = '.' := by
  have digit : ∀ digits place, (∀ x ∈ digits, x.isDigit) →
      c ∈ Decimal.positionalText floatLayout.keepFraction digits place → c.isDigit ∨ c = '.' := by
    intro digits place all mem
    rcases Decimal.mem_positionalText mem with hc | rfl | rfl
    · exact .inl (all c hc)
    · exact .inl rfl
    · exact .inr rfl
  unfold Decimal.Layout.unsigned at h
  split at h
  · exact digit _ _ (by simp) h
  · exact digit _ _ (fun x hx => Decimal.isDigit_of_mem_significant hx) h

theorem isSigned_floatText (x : Float) : IsSigned (floatText x) := by
  unfold floatText Decimal.Layout.text?
  -- what is not finite is a word, and only infinity takes a sign
  cases Binary64.ofFloat x with
  | nan => exact ⟨['N', 'a', 'N'], .inl rfl, by simp⟩
  | infinite negative =>
    refine ⟨['i', 'n', 'f'], ?_, by simp⟩
    cases negative
    · exact .inl rfl
    · exact .inr rfl
  | finite negative mantissa exponent =>
    refine ⟨floatLayout.unsigned (Decimal.shortest floatLayout.tie mantissa exponent), ?_,
      fun c hc => (mem_unsigned_floatLayout hc).imp_left isAlphanum_of_isDigit⟩
    cases negative
    · exact .inl rfl
    · exact .inr rfl

end Scalar

/-! ### Identifiers -/

namespace Uuid

theorem mem_hyphenate {lengths : List Nat} {cs : List Char} {c : Char}
    (h : c ∈ hyphenate lengths cs) : c = '-' ∨ c ∈ cs := by
  induction lengths generalizing cs with
  | nil => cases h
  | cons n lengths ih =>
    rw [hyphenate, List.cons_append, List.mem_cons, List.mem_append] at h
    rcases h with hyphen | group | rest
    · exact .inl hyphen
    · exact .inr (List.mem_of_mem_take group)
    · exact (ih rest).imp_right List.mem_of_mem_drop

/-- **Hyphens never meet**, if no group is empty. -/
theorem isFree_dashes_hyphenate {lengths : List Nat} {cs : List Char}
    (nonempty : ∀ n ∈ lengths, 0 < n) (enough : lengths.foldr (· + ·) 0 ≤ cs.length)
    (noDash : '-' ∉ cs) : dashes.IsFree (hyphenate lengths cs) := by
  rw [Delimiter.isFree_iff_isChain]
  -- a chain of neighbours that are not both hyphens
  induction lengths generalizing cs with
  | nil => exact List.isChain_nil
  | cons n lengths ih =>
    rw [List.forall_mem_cons] at nonempty
    rw [List.foldr_cons] at enough
    have noDashIn : '-' ∉ cs.take n := fun mem => noDash (List.mem_of_mem_take mem)
    have remaining : lengths.foldr (· + ·) 0 ≤ (cs.drop n).length := by
      rw [List.length_drop]
      omega
    have rest := ih nonempty.2 remaining fun mem => noDash (List.mem_of_mem_drop mem)
    rw [hyphenate, List.cons_append, List.isChain_cons, List.isChain_append]
    refine ⟨?_, ?_, rest, ?_⟩
    · -- behind the hyphen the group begins
      rintro c hc ⟨-, rfl⟩
      have group : cs.take n ≠ [] := by
        rw [Ne, List.take_eq_nil_iff]
        rintro (zero | rfl)
        · omega
        · simp at enough
          omega
      rw [List.head?_append_of_ne_nil _ group] at hc
      exact noDashIn (List.mem_of_mem_head? hc)
    · exact Delimiter.isFree_iff_isChain.mp (Delimiter.isFree_of_first_notMem noDashIn)
    · -- a hyphen may follow the group, but the group does not end with one
      rintro c hc next - ⟨rfl, -⟩
      exact noDashIn (List.mem_of_mem_getLast? hc)

theorem isInert_toList (u : Uuid) : IsInert u.toList := by
  have digit : ∀ c ∈ u.digits.map digitChar, c.isAlphanum := by
    have every : ∀ d, (digitChar d).isAlphanum := by decide
    intro c hc
    obtain ⟨d, -, rfl⟩ := List.mem_map.mp hc
    exact every d
  have noDash : '-' ∉ u.digits.map digitChar := fun mem => absurd (digit '-' mem) (by decide)
  refine isInert_of_isValueChar (fun c hc => ?_) fun occurs => ?_
  · rcases mem_hyphenate (List.mem_of_mem_drop hc) with rfl | hc
    · decide
    · simp [isValueChar, digit c hc]
  · -- with the hyphen in front that `hyphenate` writes and the text leaves out
    have free : dashes.IsFree (hyphenate groups (u.digits.map digitChar)) :=
      isFree_dashes_hyphenate (by decide) (by rw [List.length_map, u.length_eq]; decide) noDash
    rw [← u.cons_toList] at free
    exact free (List.infix_cons occurs)

end Uuid

/-! ### Timestamps -/

namespace Timestamp

theorem all_databaseText (ts : Timestamp) : ts.databaseText.all isValueChar = true := by
  have padded : ∀ width n, (Digits.padded width n).all isValueChar = true :=
    fun width n => List.all_eq_true.mpr fun c hc =>
      isValueChar_of_isDigit (Digits.isDigit_of_mem_padded hc)
  -- the marks between the fields, all of them visible
  have marks : isValueChar '/' ∧ isValueChar ':' ∧ isValueChar ' ' ∧ isValueChar '.' := by decide
  have half : ts.clock.halfText.all isValueChar = true := by
    unfold Clock.halfText
    split <;> decide
  have year : (Calendar.yearText ts.date.year).all isValueChar = true := by
    unfold Calendar.yearText
    split
    · exact padded ..
    · rw [List.all_cons, padded, Bool.and_true]
      split <;> decide
  -- what is left is a list of fields and marks
  simp only [databaseText, Date.databaseText, Clock.databaseText, List.all_append, List.all_cons,
    padded, half, year, marks, Bool.and_true]

/-- There is at most one dash, the sign of the year. -/
theorem count_dash_databaseText (ts : Timestamp) : ts.databaseText.count '-' ≤ 1 := by
  -- a field of digits has no dash, whatever its width
  have digits : ∀ width n, (Digits.padded width n).count '-' = 0 := Digits.count_padded rfl
  have half : ts.clock.halfText.count '-' = 0 := by
    unfold Clock.halfText
    split <;> rfl
  have year : (Calendar.yearText ts.date.year).count '-' ≤ 1 := by
    unfold Calendar.yearText
    split
    · simp [digits]
    · split <;> simp [digits]
  simpa [databaseText, Date.databaseText, Clock.databaseText, digits, half] using year

theorem isInert_databaseText (ts : Timestamp) : IsInert ts.databaseText :=
  isInert_of_isValueChar (List.all_eq_true.mp ts.all_databaseText)
    (isFree_dashes_of_count_le_one ts.count_dash_databaseText)

end Timestamp

/-! ### All kinds -/

/-- **Only texts need the sanitizer.** -/
theorem Scalar.isInert_displayChars {value : Scalar} (h : value.kind ≠ .text) :
    IsInert value.displayChars := by
  cases value with
  | text s => exact absurd rfl h
  | int n => exact (isSigned_integer n.toInt).isInert
  | float x => exact (isSigned_floatText x).isInert
  | bool b =>
    cases b with
    | false => exact IsSigned.isInert ⟨['f', 'a', 'l', 's', 'e'], .inl rfl, by simp⟩
    | true => exact IsSigned.isInert ⟨['t', 'r', 'u', 'e'], .inl rfl, by simp⟩
  | uuid u => exact u.isInert_toList
  | timestamp ts => exact ts.isInert_databaseText

end SqlFilter
