import SqlFilter.Clause.Normal
import SqlFilter.Proofs.Sanitize.Display

/-!
# What stands between the quotes of a literal

A literal holds the display text of its scalar, stripped and with every quote doubled. For five of
the six kinds this is how literals are written. A timestamp is written as it is, past the sanitizer,
which would have changed nothing; so `Clause.toList_literalText` holds for every scalar. Nor does
the sanitizer change any other value that is no text, which
`Clause.literal_eq_sanitize_display` adds.
-/

namespace SqlFilter

open Sanitize (doubleQuotes)

/-- **What stands between the quotes**, for every scalar. -/
theorem Clause.toList_literalText (value : Scalar) :
    (literalText value).toList = doubleQuotes value.written := by
  cases value with
  | timestamp ts =>
    -- the one kind that is not sanitized, and would not be changed by it
    have inert := ts.isInert_databaseText
    rw [Scalar.written, Scalar.displayChars, inert.stripped_eq,
      Sanitize.doubleQuotes_of_notMem inert.noQuote]
    exact String.toList_ofList
  | text | int | float | bool | uuid =>
    rw [literalText, toList_sanitize, Scalar.toList_display]
    · rfl
    · simp

/-- Every scalar is written as if it had passed the sanitizer. -/
theorem Clause.literalText_eq_sanitize (value : Scalar) :
    literalText value = sanitize value.display := by
  rw [← String.toList_inj, toList_literalText, toList_sanitize, Scalar.toList_display]
  rfl

/-- **Values other than texts pass the sanitizer unchanged.** -/
theorem Scalar.sanitize_display {value : Scalar} (h : value.kind ≠ .text) :
    sanitize value.display = value.display := by
  rw [← String.toList_inj, toList_sanitize, toList_display, (isInert_displayChars h).chars_eq]

/-- **The literal of a scalar** is its sanitized display text in quotes, also where the sanitizer is
left out. Of a value that is no text it is the display text itself, which the sanitizer does not
change. -/
theorem Clause.literal_eq_sanitize_display (value : Scalar) :
    literal value = "'" ++ sanitize value.display ++ "'"
      ∧ (value.kind ≠ .text →
          sanitize value.display = value.display
            ∧ literal value = "'" ++ value.display ++ "'") := by
  have sanitized : literal value = "'" ++ sanitize value.display ++ "'" := by
    rw [literal, literalText_eq_sanitize]
  refine ⟨sanitized, fun noText => ?_⟩
  -- values other than texts are written by printers, and none of them writes what is stripped
  have same := Scalar.sanitize_display noText
  rw [same] at sanitized
  exact ⟨same, sanitized⟩

/-- A leap second of a year before the year 0, which has slashes next to a dash. -/
theorem Clause.literal_eq_sanitize_display_of_leap_second :
    let value := Scalar.timestamp
      ⟨⟨-44, 3, 15, by decide⟩, ⟨23, 59, 59, 1999999999, by decide⟩⟩
    value.kind ≠ .text
      ∧ sanitize value.display = "03/15/-0044 11:59:60.9999999 PM"
      ∧ literal value = "'03/15/-0044 11:59:60.9999999 PM'" := by
  intro value
  have noText : value.kind ≠ .text := by decide
  have display : value.display = "03/15/-0044 11:59:60.9999999 PM" := by decide
  obtain ⟨same, literal⟩ := (literal_eq_sanitize_display value).2 noText
  rw [display] at same literal
  exact ⟨noText, by rw [display, same], literal⟩

end SqlFilter
