import SqlFilter.Uuid

/-!
# Identifiers are read back

An identifier is written in one form and read in four. The written form has hyphens, so it is not
taken for a plain run of digits, and its groups are read back digit by digit
(`Uuid.groupDigits?_hyphenate`, for groups of any lengths).
-/

namespace SqlFilter

namespace Uuid

theorem mapM_digit? (digits : List (Fin 16)) :
    (digits.map digitChar).mapM digit? = some digits := by
  induction digits with
  | nil => rfl
  | cons d digits ih => simp [ih]

/-- **Groups are read back**, if their lengths are those of the digits. -/
theorem groupDigits?_hyphenate (lengths : List Nat) (digits : List (Fin 16))
    (h : digits.length = lengths.foldr (· + ·) 0) :
    groupDigits? lengths (hyphenate lengths (digits.map digitChar)) = some digits := by
  induction lengths generalizing digits with
  | nil =>
    obtain rfl : digits = [] := List.length_eq_zero_iff.mp h
    rfl
  | cons n lengths ih =>
    rw [List.foldr_cons] at h
    have long : n ≤ digits.length := by omega
    -- the group in front is the first `n` digits, and the rest are those of the other groups
    have width : ((digits.take n).map digitChar).length = n := by simp [long]
    have rest := ih (digits.drop n) (by rw [List.length_drop]; omega)
    rw [List.map_drop] at rest
    rw [hyphenate, List.cons_append, groupDigits?, ← List.map_take, List.take_left' width,
      List.drop_left' width, mapM_digit?, rest]
    simp [long]

/-- A text with a hyphen is no plain run of digits. -/
theorem mapM_digit?_of_mem {cs : List Char} (h : '-' ∈ cs) : cs.mapM digit? = none := by
  have noDigit : digit? '-' = none := by decide
  induction cs with
  | nil => cases h
  | cons c cs ih =>
    rw [List.mapM_cons]
    rcases List.mem_cons.mp h with rfl | later
    · rw [noDigit]
      rfl
    · rw [ih later]
      cases digit? c <;> rfl

/-- The groups of the written form, with a hyphen before each. -/
theorem cons_toList (u : Uuid) : '-' :: u.toList = hyphenate groups (u.digits.map digitChar) := rfl

/-- **An identifier is read back** from its written form. -/
theorem read_toList (u : Uuid) : read u.toList = .ok u := by
  have hyphenated : '-' ∈ u.toList := by
    have later : '-' ∈ hyphenate [4, 4, 4, 12] ((u.digits.map digitChar).drop 8) :=
      List.mem_cons_self
    exact List.mem_append_right ((u.digits.map digitChar).take 8) later
  have plain : ofPlain? u.toList = none := by
    rw [ofPlain?, mapM_digit?_of_mem hyphenated]
    rfl
  have grouped : ofGroups? u.toList = some u := by
    rw [ofGroups?, cons_toList, groupDigits?_hyphenate groups u.digits u.length_eq,
      Option.bind_some, ofDigits?, dif_pos u.length_eq]
  rw [read, ofList?, plain, grouped]

end Uuid

end SqlFilter
