import Mathlib.Data.List.Induction
import SqlFilter.Expression.Nesting
import SqlFilter.Json.Reader
import SqlFilter.Proofs.Result

/-!
# The levels of a reader

A reader allows a number of lists and objects to be open at a time. What it reads keeps to that
number (`Json.nesting_le_of_read`), and a reader that allows more reads the same
(`Json.readValue_mono`). The first says nothing about fields that a later field of the same name has
replaced, which count for the reader but are not in the value.

Both are inductions on the steps of the reader. One step is described once for each of the three
functions: `Json.readValue_cases`, `Json.readItems_cases` and `Json.readFields_cases` say all that a
step which succeeds can have done.
-/

namespace SqlFilter

namespace Json

/-! ### Nesting -/

theorem listNesting_le_iff {items : List Json} {n : Nat} :
    listNesting items ≤ n ↔ ∀ item ∈ items, item.nesting ≤ n := by
  induction items with
  | nil => simp [listNesting]
  | cons item items ih => rw [listNesting, Nat.max_le, ih, List.forall_mem_cons]

theorem fieldNesting_le_iff {fields : List (String × Json)} {n : Nat} :
    fieldNesting fields ≤ n ↔ ∀ field ∈ fields, field.2.nesting ≤ n := by
  induction fields with
  | nil => simp [fieldNesting]
  | cons field fields ih => rw [fieldNesting, Nat.max_le, ih, List.forall_mem_cons]

theorem nesting_le_of_field? {name : String} {fields : List (String × Json)} {value : Json}
    (h : field? name fields = some value) : value.nesting ≤ fieldNesting fields := by
  obtain ⟨field, found, rfl⟩ := Option.map_eq_some_iff.mp h
  exact fieldNesting_le_iff.mp (Nat.le_refl _) field (List.mem_of_find?_eq_some found)

/-- The field read first is looked at last, and dropped if a later one has its name. -/
theorem keepLast_concat (latest : List (String × Json)) (first : String × Json) :
    keepLast (latest ++ [first])
      = if (keepLast latest).any (·.1 == first.1) then keepLast latest
        else first :: keepLast latest := by
  rw [keepLast, List.foldl_append]
  rfl

/-- The fields that are kept are some of those that were read. -/
theorem mem_of_mem_keepLast {field : String × Json} {read : List (String × Json)}
    (h : field ∈ keepLast read) : field ∈ read := by
  -- the latest field is the head, so the one looked at last is at the other end
  induction read using List.reverseRecOn with
  | nil => cases h
  | append_singleton latest first ih =>
    rw [keepLast_concat] at h
    split at h
    · exact List.mem_append_left [first] (ih h)
    · rcases List.mem_cons.mp h with rfl | later
      · exact List.mem_concat_self
      · exact List.mem_append_left [first] (ih later)

theorem nesting_integerValue (negative : Bool) (significand : Nat) :
    (Numeral.integerValue negative significand).nesting = 0 := by
  unfold Numeral.integerValue
  split
  · rfl
  · split <;> rfl

/-- A numeral is an integer or a floating-point number. -/
theorem nesting_of_value {n : Numeral} {v : Json} (h : n.value = .ok v) : v.nesting = 0 := by
  unfold Numeral.value at h
  simp only at h
  -- by the fraction and the exponent, and then by the size of the number
  split at h
  · -- without an exponent
    split at h
    · cases h
      exact nesting_integerValue _ _
    · split at h <;> cases h
      rfl
  · split at h
    · split at h <;> cases h
      rfl
    · split at h <;> cases h
      rfl

/-- A number nests nothing. -/
theorem nesting_of_readNumber {negative : Bool} {cs rest : List Char} {v : Json}
    (h : readNumber negative cs = .ok (v, rest)) : v.nesting = 0 := by
  unfold readNumber at h
  obtain ⟨⟨whole, rest⟩, -, h⟩ := bind_eq_ok.mp h
  obtain ⟨⟨fraction, rest⟩, -, h⟩ := bind_eq_ok.mp h
  obtain ⟨⟨exponent, rest⟩, -, h⟩ := bind_eq_ok.mp h
  simp only at h
  split at h
  · next value =>
    cases h
    exact nesting_of_value value
  · cases h

/-! ### One step -/

variable {steps levels levels' : Nat} {cs rest text : List Char} {v : Json}

theorem readValue_list (first : skipBlank cs = '[' :: text) :
    readValue (steps + 1) (levels + 1) cs = readItems steps levels [] text := by
  rw [readValue, first]
  rfl

theorem readValue_object (first : skipBlank cs = '\x7b' :: text) :
    readValue (steps + 1) (levels + 1) cs = readFields steps levels [] text := by
  rw [readValue, first]
  rfl

/-- The levels do not matter to a value that is neither a list nor an object. -/
theorem readValue_flat {c : Char} (first : skipBlank cs = c :: text) (list : c ≠ '[')
    (object : c ≠ '\x7b') (levels levels' : Nat) :
    readValue (steps + 1) levels cs = readValue (steps + 1) levels' cs := by
  rw [readValue, readValue, first]
  simp only [if_neg list, if_neg object]

/-- What is neither a list nor an object nests nothing: strings, words and numbers. -/
theorem nesting_of_readValue_flat {c : Char} (first : skipBlank cs = c :: text) (list : c ≠ '[')
    (object : c ≠ '\x7b') (h : readValue (steps + 1) levels cs = .ok (v, rest)) :
    v.nesting = 0 := by
  rw [readValue, first] at h
  simp only [if_neg list, if_neg object] at h
  -- by the first character, in the order of the reader
  split at h
  · obtain ⟨⟨s, rest⟩, -, h⟩ := bind_eq_ok.mp h
    cases h
    rfl
  -- the three words
  iterate 3
    split at h
    · obtain ⟨rest, -, h⟩ := bind_eq_ok.mp h
      cases h
      rfl
  split at h
  · -- a minus sign, or a digit
    exact nesting_of_readNumber h
  split at h
  · exact nesting_of_readNumber h
  · cases h

/-- **What one step reads**: a list, an object, or a value that nests nothing and takes no level. -/
theorem readValue_cases (h : readValue (steps + 1) levels cs = .ok (v, rest)) :
    (v.nesting = 0 ∧ ∀ levels', readValue (steps + 1) levels' cs = .ok (v, rest)) ∨
    (∃ l text, levels = l + 1 ∧ skipBlank cs = '[' :: text ∧
      readItems steps l [] text = .ok (v, rest)) ∨
    (∃ l text, levels = l + 1 ∧ skipBlank cs = '\x7b' :: text ∧
      readFields steps l [] text = .ok (v, rest)) := by
  -- without a character there is no value, and a bracket needs a level
  cases first : skipBlank cs with
  | nil =>
    rw [readValue, first] at h
    cases h
  | cons c text =>
    by_cases list : c = '['
    · subst list
      cases levels with
      | zero =>
        rw [readValue, first] at h
        cases h
      | succ l =>
        rw [readValue_list first] at h
        exact .inr (.inl ⟨l, text, rfl, rfl, h⟩)
    by_cases object : c = '\x7b'
    · subst object
      cases levels with
      | zero =>
        rw [readValue, first] at h
        cases h
      | succ l =>
        rw [readValue_object first] at h
        exact .inr (.inr ⟨l, text, rfl, rfl, h⟩)
    exact .inl ⟨nesting_of_readValue_flat first list object h,
      fun levels' => (readValue_flat first list object levels' levels).trans h⟩

theorem readItems_more {read : List Json} {item : Json} {left : List Char}
    (found : nextItem read.isEmpty cs = .ok (.more text))
    (value : readValue steps levels text = .ok (item, left)) :
    readItems (steps + 1) levels read cs = readItems steps levels (item :: read) left := by
  rw [readItems, found, ok_bind]
  simp only [value, ok_bind]

theorem readFields_more {read : List (String × Json)} {name : String} {value : Json}
    {afterName afterColon left : List Char} (found : nextField read.isEmpty cs = .ok (.more text))
    (string : readString [] text = .ok (name, afterName))
    (colon : readColon afterName = .ok afterColon)
    (content : readValue steps levels afterColon = .ok (value, left)) :
    readFields (steps + 1) levels read cs
      = readFields steps levels ((name, value) :: read) left := by
  rw [readFields, found, ok_bind]
  simp only [string, colon, content, ok_bind]

/-- What one step within a list does: it ends the list or reads one more item. -/
theorem readItems_cases {read : List Json}
    (h : readItems (steps + 1) levels read cs = .ok (v, rest)) :
    (nextItem read.isEmpty cs = .ok (.done rest) ∧ v = .list read.reverse) ∨
    ∃ text item left, nextItem read.isEmpty cs = .ok (.more text) ∧
      readValue steps levels text = .ok (item, left) ∧
      readItems steps levels (item :: read) left = .ok (v, rest) := by
  rw [readItems] at h
  obtain ⟨next, found, h⟩ := bind_eq_ok.mp h
  cases next with
  | done left =>
    cases h
    exact .inl ⟨found, rfl⟩
  | more text =>
    obtain ⟨⟨item, left⟩, value, h⟩ := bind_eq_ok.mp h
    exact .inr ⟨text, item, left, found, value, h⟩

/-- What one step within an object does: it ends the object or reads one more field. -/
theorem readFields_cases {read : List (String × Json)}
    (h : readFields (steps + 1) levels read cs = .ok (v, rest)) :
    (nextField read.isEmpty cs = .ok (.done rest) ∧ v = .object (keepLast read)) ∨
    ∃ text name afterName afterColon value left, nextField read.isEmpty cs = .ok (.more text) ∧
      readString [] text = .ok (name, afterName) ∧ readColon afterName = .ok afterColon ∧
      readValue steps levels afterColon = .ok (value, left) ∧
      readFields steps levels ((name, value) :: read) left = .ok (v, rest) := by
  rw [readFields] at h
  obtain ⟨next, found, h⟩ := bind_eq_ok.mp h
  cases next with
  | done left =>
    cases h
    exact .inl ⟨found, rfl⟩
  | more text =>
    obtain ⟨⟨name, afterName⟩, string, h⟩ := bind_eq_ok.mp h
    obtain ⟨afterColon, colon, h⟩ := bind_eq_ok.mp h
    obtain ⟨⟨value, left⟩, read, h⟩ := bind_eq_ok.mp h
    exact .inr ⟨text, name, afterName, afterColon, value, left, found, string, colon, read, h⟩

/-! ### All steps -/

mutual

/-- **What is read keeps to the levels** of the reader. -/
theorem nesting_le_of_readValue {steps levels : Nat} {cs rest : List Char} {v : Json}
    (h : readValue steps levels cs = .ok (v, rest)) : v.nesting ≤ levels := by
  cases steps with
  | zero => cases h
  | succ steps =>
    rcases readValue_cases h with ⟨flat, -⟩ | ⟨l, text, rfl, -, items⟩ | ⟨l, text, rfl, -, fields⟩
    · omega
    -- a list or an object takes one level and leaves the others to what it holds
    · exact nesting_le_of_readItems (by simp) items
    · exact nesting_le_of_readFields (by simp) fields

theorem nesting_le_of_readItems {steps levels : Nat} {read : List Json} {cs rest : List Char}
    {v : Json} (before : ∀ item ∈ read, item.nesting ≤ levels)
    (h : readItems steps levels read cs = .ok (v, rest)) : v.nesting ≤ levels + 1 := by
  cases steps with
  | zero => cases h
  | succ steps =>
    rcases readItems_cases h with ⟨-, rfl⟩ | ⟨text, item, left, -, value, later⟩
    · -- at the end of a list nothing is left but what was read before
      have items : listNesting read.reverse ≤ levels :=
        listNesting_le_iff.mpr fun item mem => before item (List.mem_reverse.mp mem)
      rw [nesting]
      omega
    · have first := nesting_le_of_readValue value
      exact nesting_le_of_readItems (List.forall_mem_cons.mpr ⟨first, before⟩) later

theorem nesting_le_of_readFields {steps levels : Nat} {read : List (String × Json)}
    {cs rest : List Char} {v : Json} (before : ∀ field ∈ read, field.2.nesting ≤ levels)
    (h : readFields steps levels read cs = .ok (v, rest)) : v.nesting ≤ levels + 1 := by
  cases steps with
  | zero => cases h
  | succ steps =>
    rcases readFields_cases h with ⟨-, rfl⟩ | ⟨text, name, _, _, value, left, -, -, -, read, later⟩
    · have fields : fieldNesting (keepLast read) ≤ levels :=
        fieldNesting_le_iff.mpr fun field mem => before field (mem_of_mem_keepLast mem)
      rw [nesting]
      omega
    · -- the field is one more of those read, and its value keeps to the levels too
      have first := nesting_le_of_readValue read
      exact nesting_le_of_readFields (List.forall_mem_cons.mpr ⟨first, before⟩) later

end

/-- The value of a text keeps to the levels of its reader. -/
theorem nesting_le_of_read {levels : Nat} {text : String} {v : Json}
    (h : read levels text = .ok v) : v.nesting ≤ levels := by
  rw [read] at h
  split at h
  · next all =>
    cases h
    -- what is behind the value is blank, and does not change it
    obtain ⟨⟨value, rest⟩, first, trailing⟩ := bind_eq_ok.mp all
    simp only at trailing
    split at trailing
    · cases trailing
      exact nesting_le_of_readValue first
    · cases trailing
  · cases h

mutual

/-- **A reader that allows more levels reads the same.** -/
theorem readValue_mono {steps levels levels' : Nat} (more : levels ≤ levels') {cs rest : List Char}
    {v : Json} (h : readValue steps levels cs = .ok (v, rest)) :
    readValue steps levels' cs = .ok (v, rest) := by
  cases steps with
  | zero => cases h
  | succ steps =>
    rcases readValue_cases h with ⟨-, any⟩ | ⟨l, text, rfl, first, items⟩ |
      ⟨l, text, rfl, first, fields⟩
    · exact any levels'
    -- the reader that allows more has a level left for the list as well
    · obtain ⟨l', rfl⟩ := Nat.exists_eq_add_of_le' (Nat.le_trans (Nat.le_add_left 1 l) more)
      rw [readValue_list first]
      exact readItems_mono (by omega) items
    · obtain ⟨l', rfl⟩ := Nat.exists_eq_add_of_le' (Nat.le_trans (Nat.le_add_left 1 l) more)
      rw [readValue_object first]
      exact readFields_mono (by omega) fields

theorem readItems_mono {steps levels levels' : Nat} (more : levels ≤ levels') {read : List Json}
    {cs rest : List Char} {v : Json} (h : readItems steps levels read cs = .ok (v, rest)) :
    readItems steps levels' read cs = .ok (v, rest) := by
  cases steps with
  | zero => cases h
  | succ steps =>
    rcases readItems_cases h with ⟨found, rfl⟩ | ⟨text, item, left, found, value, later⟩
    · -- the end of the list takes no level
      rw [readItems, found]
      rfl
    · rw [readItems_more found (readValue_mono more value)]
      exact readItems_mono more later

theorem readFields_mono {steps levels levels' : Nat} (more : levels ≤ levels')
    {read : List (String × Json)} {cs rest : List Char} {v : Json}
    (h : readFields steps levels read cs = .ok (v, rest)) :
    readFields steps levels' read cs = .ok (v, rest) := by
  cases steps with
  | zero => cases h
  | succ steps =>
    rcases readFields_cases h with ⟨found, rfl⟩ |
      ⟨text, name, _, _, value, left, found, string, colon, read, later⟩
    · rw [readFields, found]
      rfl
    · rw [readFields_more found string colon (readValue_mono more read)]
      exact readFields_mono more later

end

end Json

end SqlFilter
