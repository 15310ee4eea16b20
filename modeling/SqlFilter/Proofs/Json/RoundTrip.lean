import Mathlib.Data.List.Nodup
import SqlFilter.Proofs.Json.Levels
import SqlFilter.Proofs.Json.Numbers
import SqlFilter.Proofs.Json.Strings

/-!
# JSON values are read back

A value is read back from its text: `Json.readValue_write` says so for a value within a text, and
`Json.read_toText` for a value that is the whole text. Three kinds of values are left out
(`Json.IsReadable`). An integer beyond 64 bits and a finite floating-point number may be read as
another number, and of two fields of one name only the later is read. A number that is not finite is
written as null and read back as that (`Json.readBack`).

The nesting of the value is compared with the levels of the reader: where it is greater, the text is
refused (`Json.exists_read_toText_eq_error`).

The proof is by recursion on the value. A list or an object takes one level, and the reader has
steps for it because two steps read at least one character; `2 * length` is therefore on both sides
of the inequality that carries the induction.
-/

namespace SqlFilter

/-- Whether the 64 bits stand for a number. -/
def Binary64.isFinite : Binary64 → Bool
  | .finite .. => true
  | .nan | .infinite _ => false

namespace Json

/-! ### Values with their texts -/

mutual

/-- A value that its text determines, up to numbers that are not finite. -/
def IsReadable : Json → Prop
  | .int n => Int64.minValue.toInt ≤ n ∧ n < Numeral.significandBound
  | .float x => (Binary64.ofFloat x).isFinite = false
  | .list items => AllReadable items
  | .object fields => FieldsReadable fields ∧ (fields.map Prod.fst).Nodup
  | .null | .bool _ | .text _ => True

/-- All items are readable. -/
def AllReadable : List Json → Prop
  | [] => True
  | item :: items => IsReadable item ∧ AllReadable items

/-- The values of all fields are readable. -/
def FieldsReadable : List (String × Json) → Prop
  | [] => True
  | (_, value) :: fields => IsReadable value ∧ FieldsReadable fields

end

mutual

/-- What a value is read back as: a number that is not finite has become null. -/
def readBack : Json → Json
  | .float _ => .null
  | .list items => .list (readBackAll items)
  | .object fields => .object (readBackFields fields)
  | .null => .null
  | .bool b => .bool b
  | .int n => .int n
  | .text s => .text s

/-- What items are read back as. -/
def readBackAll : List Json → List Json
  | [] => []
  | item :: items => readBack item :: readBackAll items

/-- What fields are read back as. -/
def readBackFields : List (String × Json) → List (String × Json)
  | [] => []
  | (name, value) :: fields => (name, readBack value) :: readBackFields fields

end

mutual

theorem nesting_readBack (v : Json) : v.readBack.nesting = v.nesting := by
  cases v with
  | list items => rw [readBack, nesting, nesting, listNesting_readBackAll items]
  | object fields => rw [readBack, nesting, nesting, fieldNesting_readBackFields fields]
  | null => rfl
  | bool b => rfl
  | int n => rfl
  | float x => rfl
  | text s => rfl

theorem listNesting_readBackAll (items : List Json) :
    listNesting (readBackAll items) = listNesting items := by
  cases items with
  | nil => rfl
  | cons item items =>
    rw [readBackAll, listNesting, listNesting, nesting_readBack item, listNesting_readBackAll items]

theorem fieldNesting_readBackFields (fields : List (String × Json)) :
    fieldNesting (readBackFields fields) = fieldNesting fields := by
  match fields with
  | [] => rfl
  | (name, value) :: fields =>
    rw [readBackFields, fieldNesting, fieldNesting, nesting_readBack value,
      fieldNesting_readBackFields fields]

end

/-! ### The written text -/

theorem floatText_of_not_finite {x : Float} (h : (Binary64.ofFloat x).isFinite = false) :
    floatText x = ['n', 'u', 'l', 'l'] := by
  unfold floatText Decimal.Layout.text?
  cases bits : Binary64.ofFloat x with
  | nan => rfl
  | infinite negative => rfl
  | finite negative mantissa exponent =>
    rw [bits] at h
    cases h

theorem skipBlank_cons {c : Char} (h : isBlank c = false) (cs : List Char) :
    skipBlank (c :: cs) = c :: cs := by
  rw [skipBlank, List.dropWhile_cons, h]
  rfl

theorem isBlank_of_isDigit {c : Char} (h : c.isDigit) : isBlank c = false := by
  have notMark := Digits.ne_of_isDigit h
  simp [isBlank, notMark ' ' rfl, notMark '\t' rfl, notMark '\n' rfl, notMark '\r' rfl]

/-- Where a value begins there is neither a blank nor the end of a list. -/
def BeginsValue (cs : List Char) : Prop := ∃ c rest, cs = c :: rest ∧ isBlank c = false ∧ c ≠ ']'

theorem beginsValue_integer (n : Int) (tail : List Char) :
    BeginsValue (Digits.integer n ++ tail) := by
  -- a minus sign, or else the first digit
  unfold Digits.integer
  split
  · exact ⟨'-', _, rfl, rfl, by decide⟩
  · obtain ⟨c, cs, front, digit⟩ := Digits.exists_decimal_eq_cons n.natAbs
    rw [front]
    exact ⟨c, cs ++ tail, rfl, isBlank_of_isDigit digit, Digits.ne_of_isDigit digit ']' rfl⟩

theorem beginsValue_write {v : Json} (readable : v.IsReadable) (tail : List Char) :
    BeginsValue (write v tail) := by
  cases v with
  | null => exact ⟨'n', _, rfl, rfl, by decide⟩
  | bool b => cases b <;> exact ⟨_, _, rfl, rfl, by decide⟩
  | int n => exact beginsValue_integer n tail
  | float x =>
    rw [write, floatText_of_not_finite readable]
    exact ⟨'n', _, rfl, rfl, by decide⟩
  | text s => exact ⟨'"', _, rfl, rfl, by decide⟩
  | list items => cases items <;> exact ⟨'[', _, rfl, rfl, by decide⟩
  | object fields => cases fields <;> exact ⟨'\x7b', _, rfl, rfl, by decide⟩

theorem length_le_foldr_escapeChar (cs tail : List Char) :
    tail.length ≤ (cs.foldr (fun c rest => escapeChar c ++ rest) tail).length := by
  induction cs with
  | nil => exact Nat.le_refl _
  | cons c cs ih =>
    rw [List.foldr_cons, List.length_append]
    omega

theorem length_lt_writeString (s : String) (tail : List Char) :
    tail.length + 2 ≤ (writeString s tail).length := by
  have inner := length_le_foldr_escapeChar s.toList ('"' :: tail)
  rw [List.length_cons] at inner
  rw [writeString, List.length_cons]
  omega

mutual

/-- A written value has at least one character. -/
theorem length_lt_write {v : Json} (readable : v.IsReadable) (tail : List Char) :
    tail.length < (write v tail).length := by
  match v with
  -- from the back: the tail, the closing mark, the other items or fields, the first one
  | .list (item :: items) =>
    have first := length_lt_write readable.1 (writeItems items (']' :: tail))
    have others := length_le_writeItems readable.2 (']' :: tail)
    rw [List.length_cons] at others
    rw [write, List.length_cons]
    omega
  | .object ((name, value) :: fields) =>
    have first := length_lt_write readable.1.1 (writeFields fields ('\x7d' :: tail))
    have others := length_le_writeFields readable.1.2 ('\x7d' :: tail)
    have string := length_lt_writeString name
      (':' :: write value (writeFields fields ('\x7d' :: tail)))
    rw [List.length_cons] at others string
    rw [write, List.length_cons]
    omega
  | .text s =>
    have string := length_lt_writeString s tail
    rw [write]
    omega
  | .int n =>
    -- a number has a digit, with or without the sign in front
    have digits : 0 < (Digits.decimal n.natAbs).length :=
      List.length_pos_iff.mpr (Digits.decimal_ne_nil _)
    rw [write, Digits.integer, List.length_append]
    split
    · rw [List.length_cons]
      omega
    · omega
  | .float x =>
    rw [write, floatText_of_not_finite readable, List.length_append]
    simp
  | .null | .bool true | .bool false | .list [] | .object [] =>
    simp only [write, List.length_cons]
    omega

theorem length_le_writeItems {items : List Json} (readable : AllReadable items)
    (tail : List Char) : tail.length ≤ (writeItems items tail).length := by
  match items with
  | [] => exact Nat.le_refl _
  | item :: items =>
    have first := length_lt_write readable.1 (writeItems items tail)
    have others := length_le_writeItems readable.2 tail
    rw [writeItems, List.length_cons]
    omega

theorem length_le_writeFields {fields : List (String × Json)} (readable : FieldsReadable fields)
    (tail : List Char) : tail.length ≤ (writeFields fields tail).length := by
  match fields with
  | [] => exact Nat.le_refl _
  | (name, value) :: fields =>
    have first := length_lt_write readable.1 (writeFields fields tail)
    have others := length_le_writeFields readable.2 tail
    have string := length_lt_writeString name (':' :: write value (writeFields fields tail))
    rw [List.length_cons] at string
    rw [writeFields, List.length_cons]
    omega

end

/-- The end of a list makes its items longer than what follows. -/
theorem length_lt_writeItems {items : List Json} (readable : AllReadable items)
    (tail : List Char) : tail.length < (writeItems items (']' :: tail)).length :=
  length_le_writeItems readable (']' :: tail)

/-- The end of an object makes its fields longer than what follows. -/
theorem length_lt_writeFields {fields : List (String × Json)} (readable : FieldsReadable fields)
    (tail : List Char) : tail.length < (writeFields fields ('\x7d' :: tail)).length :=
  length_le_writeFields readable ('\x7d' :: tail)

/-- A value is shorter than the field that it is written in. -/
theorem length_lt_writeField (name : String) (value : List Char) :
    value.length < (writeString name (':' :: value)).length := by
  have string := length_lt_writeString name (':' :: value)
  rw [List.length_cons] at string
  omega

/-- **The steps are shared** by a value and what is behind it, `after`, in the rest of a list or an
object, `whole`. The two steps that lead to the value are paid by the mark in front of it. -/
theorem share_steps (steps : Nat) {whole value after tail : Nat} (mark : value < whole)
    (shorter : after < value) (longer : tail < after)
    (enough : 2 * whole ≤ steps + 2 + 2 * tail) :
    2 * value ≤ steps + 2 * after ∧ 2 * after + 1 ≤ steps + 2 * tail := by
  constructor <;> omega

/-! ### Fields -/

/-- Fields of distinct names are all kept. -/
theorem keepLast_of_nodup {read : List (String × Json)} (distinct : (read.map Prod.fst).Nodup) :
    keepLast read = read.reverse := by
  -- the latest field comes first, so the induction is from the other end
  induction read using List.reverseRecOn with
  | nil => rfl
  | append_singleton latest first ih =>
    rw [List.map_append, List.map_singleton, ← List.concat_eq_append, List.nodup_concat]
      at distinct
    have fresh : latest.reverse.any (·.1 == first.1) = false := by
      rw [List.any_eq_false]
      intro other mem same
      exact distinct.1 (List.mem_map.mpr ⟨other, List.mem_reverse.mp mem, by simpa using same⟩)
    rw [keepLast_concat, ih distinct.2, fresh, List.reverse_append]
    rfl

/-! ### Values within a text -/

/-- A text that begins with a digit is a number without a sign. -/
theorem readValue_digit {c : Char} (h : c.isDigit) (steps levels : Nat) (cs : List Char) :
    readValue (steps + 1) levels (c :: cs) = readNumber false (c :: cs) := by
  have notMark := Digits.ne_of_isDigit h
  rw [readValue, skipBlank_cons (isBlank_of_isDigit h)]
  simp only [if_neg (notMark '"' rfl), if_neg (notMark '[' rfl), if_neg (notMark '\x7b' rfl),
    if_neg (notMark 'n' rfl), if_neg (notMark 't' rfl), if_neg (notMark 'f' rfl),
    if_neg (notMark '-' rfl), if_pos h]

theorem readValue_integer {n : Int} (least : Int64.minValue.toInt ≤ n)
    (greatest : n < Numeral.significandBound) (steps levels : Nat) {tail : List Char}
    (ends : EndsValue tail) :
    readValue (steps + 1) levels (Digits.integer n ++ tail) = .ok (.int n, tail) := by
  -- the reader takes the sign first, and what it compares with its bound is the rest
  have fits : n.natAbs < Numeral.significandBound := by
    have lower : (-9223372036854775808 : Int) ≤ n := least
    have bound : Numeral.significandBound = 18446744073709551616 := rfl
    omega
  have value := integerValue_natAbs least
  unfold Digits.integer
  by_cases negative : n < 0
  · -- the sign is read by itself, and the digits behind it without looking for a value
    rw [decide_eq_true negative] at value
    rw [if_pos negative, List.cons_append, readValue, skipBlank_cons rfl]
    show readNumber true (Digits.decimal n.natAbs ++ tail) = _
    rw [readNumber_decimal true fits ends, value]
  · rw [decide_eq_false negative] at value
    have number := readNumber_decimal false fits ends
    obtain ⟨c, cs, front, digit⟩ := Digits.exists_decimal_eq_cons n.natAbs
    rw [front, List.cons_append] at number
    rw [if_neg negative, front, List.cons_append, readValue_digit digit, number, value]

theorem nextItem_first {cs : List Char} (begins : BeginsValue cs) :
    nextItem (List.isEmpty ([] : List Json)) cs = .ok (.more cs) := by
  obtain ⟨c, rest, rfl, blank, bracket⟩ := begins
  rw [List.isEmpty_nil, nextItem, skipBlank_cons blank]
  simp only [if_neg bracket, if_true]

theorem nextItem_comma {cs : List Char} (begins : BeginsValue cs) (latest : Json)
    (before : List Json) : nextItem (latest :: before).isEmpty (',' :: cs) = .ok (.more cs) := by
  obtain ⟨c, rest, rfl, blank, bracket⟩ := begins
  rw [List.isEmpty_cons, nextItem, skipBlank_cons rfl]
  simp only [skipBlank_cons blank, if_neg bracket]
  rfl

/-- Behind an item stands a comma or the end of the list. -/
theorem endsValue_writeItems (items : List Json) (tail : List Char) :
    EndsValue (writeItems items (']' :: tail)) := by
  cases items with
  | nil => exact .cons (.inr (.inl rfl)) _
  | cons item items => exact .cons (.inl rfl) _

/-- Behind a field stands a comma or the end of the object. -/
theorem endsValue_writeFields (fields : List (String × Json)) (tail : List Char) :
    EndsValue (writeFields fields ('\x7d' :: tail)) := by
  cases fields with
  | nil => exact .cons (.inr (.inr rfl)) _
  | cons field fields => exact .cons (.inl rfl) _

mutual

/-- **A value within a text is read back**, and nothing behind it, by a reader that allows as many
levels as the value has. -/
theorem readValue_write {v : Json} (readable : v.IsReadable) {steps levels : Nat}
    {tail : List Char} (ends : EndsValue tail) (deep : v.nesting ≤ levels)
    (enough : 2 * (write v tail).length ≤ steps + 2 * tail.length) :
    readValue steps levels (write v tail) = .ok (v.readBack, tail) := by
  -- the text has a character, which comes with two steps
  have longer := length_lt_write readable tail
  obtain ⟨steps, rfl⟩ : ∃ s, steps = s + 1 + 1 := ⟨steps - 2, by omega⟩
  match v with
  | .null => rfl
  | .bool true => rfl
  | .bool false => rfl
  | .int n => exact readValue_integer readable.1 readable.2 _ _ ends
  | .float x =>
    rw [write, floatText_of_not_finite readable]
    rfl
  | .text s =>
    rw [write, writeString, readValue, skipBlank_cons rfl]
    simp only [if_true, readString_quoted, ok_bind]
    rfl
  | .list [] =>
    obtain ⟨levels, rfl⟩ := Nat.exists_eq_add_of_le' deep
    rfl
  | .object [] =>
    obtain ⟨levels, rfl⟩ := Nat.exists_eq_add_of_le' deep
    rfl
  | .list (item :: items) =>
    -- one level is for the list, the others are for its items
    obtain ⟨levels, rfl⟩ : ∃ l, levels = l + 1 := ⟨levels - 1, by rw [nesting] at deep; omega⟩
    rw [nesting, listNesting, Nat.add_comm, Nat.add_le_add_iff_right, Nat.max_le] at deep
    rw [write, List.length_cons] at enough
    obtain ⟨forItem, forOthers⟩ := share_steps steps (Nat.lt_succ_self _)
      (length_lt_write readable.1 _) (length_lt_writeItems readable.2 tail) enough
    have first := readValue_write readable.1 (endsValue_writeItems items tail) deep.1 forItem
    have others := readItems_writeItems readable.2 item.readBack [] deep.2 forOthers
    rw [write, readValue_list (skipBlank_cons rfl _),
      readItems_more (nextItem_first (beginsValue_write readable.1 _)) first, others]
    rfl
  | .object ((name, value) :: fields) =>
    -- as for a list, with the name of a field in front of its value
    obtain ⟨levels, rfl⟩ : ∃ l, levels = l + 1 := ⟨levels - 1, by rw [nesting] at deep; omega⟩
    rw [nesting, fieldNesting, Nat.add_comm, Nat.add_le_add_iff_right, Nat.max_le] at deep
    rw [write, List.length_cons] at enough
    obtain ⟨forValue, forOthers⟩ := share_steps steps
      (Nat.lt_succ_of_lt (length_lt_writeField name _)) (length_lt_write readable.1.1 _)
      (length_lt_writeFields readable.1.2 tail) enough
    have first := readValue_write readable.1.1 (endsValue_writeFields fields tail) deep.1 forValue
    have others := readFields_writeFields readable.1.2 (name, value.readBack) [] readable.2 deep.2
      forOthers
    rw [write, readValue_object (skipBlank_cons rfl _),
      readFields_more rfl (readString_quoted name _) rfl first, others]
    rfl

theorem readItems_writeItems {items : List Json} (readable : AllReadable items) (latest : Json)
    (before : List Json) {steps levels : Nat} {tail : List Char} (deep : listNesting items ≤ levels)
    (enough : 2 * (writeItems items (']' :: tail)).length + 1 ≤ steps + 2 * tail.length) :
    readItems steps levels (latest :: before) (writeItems items (']' :: tail))
      = .ok (.list ((latest :: before).reverse ++ readBackAll items), tail) := by
  have longer := length_lt_writeItems readable tail
  obtain ⟨steps, rfl⟩ : ∃ s, steps = s + 1 := ⟨steps - 1, by omega⟩
  match items with
  | [] =>
    -- nothing but the end is left, and the items read so far are put in order
    rw [readBackAll, List.append_nil]
    rfl
  | item :: items =>
    rw [listNesting, Nat.max_le] at deep
    rw [writeItems, List.length_cons] at enough
    -- the steps go to this item and to the others, as above
    obtain ⟨forItem, forOthers⟩ := share_steps steps (Nat.lt_succ_self _)
      (length_lt_write readable.1 _) (length_lt_writeItems readable.2 tail) (by omega)
    have first := readValue_write readable.1 (endsValue_writeItems items tail) deep.1 forItem
    have others := readItems_writeItems readable.2 item.readBack (latest :: before) deep.2 forOthers
    rw [writeItems, readItems_more (nextItem_comma (beginsValue_write readable.1 _) _ _) first,
      others, readBackAll, List.reverse_cons, List.append_assoc, List.singleton_append]

theorem readFields_writeFields {fields : List (String × Json)} (readable : FieldsReadable fields)
    (latest : String × Json) (before : List (String × Json))
    (distinct : (((latest :: before).reverse ++ fields).map Prod.fst).Nodup) {steps levels : Nat}
    {tail : List Char} (deep : fieldNesting fields ≤ levels)
    (enough : 2 * (writeFields fields ('\x7d' :: tail)).length + 1 ≤ steps + 2 * tail.length) :
    readFields steps levels (latest :: before) (writeFields fields ('\x7d' :: tail))
      = .ok (.object ((latest :: before).reverse ++ readBackFields fields), tail) := by
  have longer := length_lt_writeFields readable tail
  obtain ⟨steps, rfl⟩ : ∃ s, steps = s + 1 := ⟨steps - 1, by omega⟩
  match fields with
  | [] =>
    -- at the end, the fields in reverse are put in order, and none of them is dropped
    rw [List.append_nil, List.map_reverse] at distinct
    have names : ((latest :: before).map Prod.fst).Nodup :=
      (List.pairwise_reverse.mp distinct).imp Ne.symm
    rw [readBackFields, List.append_nil, ← keepLast_of_nodup names]
    rfl
  | (name, value) :: fields =>
    rw [fieldNesting, Nat.max_le] at deep
    rw [writeFields, List.length_cons] at enough
    obtain ⟨forValue, forOthers⟩ := share_steps steps
      (Nat.lt_succ_of_lt (length_lt_writeField name _)) (length_lt_write readable.1 _)
      (length_lt_writeFields readable.2 tail) (by omega)
    have first := readValue_write readable.1 (endsValue_writeFields fields tail) deep.1 forValue
    -- reading the value may have changed it, but not the names
    have names : (((name, value.readBack) :: latest :: before).reverse ++ fields).map Prod.fst
        = ((latest :: before).reverse ++ (name, value) :: fields).map Prod.fst := by
      rw [List.reverse_cons, List.append_assoc, List.singleton_append, List.map_append,
        List.map_append, List.map_cons, List.map_cons]
    have others := readFields_writeFields readable.2 (name, value.readBack) (latest :: before)
      (by rw [names]; exact distinct) deep.2 forOthers
    rw [writeFields, writeString, readFields_more rfl (readString_quoted name _) rfl first, others,
      readBackFields, List.reverse_cons, List.append_assoc, List.singleton_append]

end

/-! ### Whole texts -/

theorem readAll_write {v : Json} (readable : v.IsReadable) {levels : Nat}
    (deep : v.nesting ≤ levels) : readAll levels (write v []) = .ok v.readBack := by
  -- a whole text has steps for twice its length, and two more
  have value := readValue_write readable EndsValue.nil deep
    (Nat.le_add_right (2 * (write v []).length) 2)
  rw [readAll, value]
  rfl

/-- **A value is read back from its text**, if the reader allows enough levels. -/
theorem read_toText {v : Json} (readable : v.IsReadable) {levels : Nat}
    (deep : v.nesting ≤ levels) : read levels v.toText = .ok v.readBack := by
  rw [read, toText, String.toList_ofList, readAll_write readable deep]

/-- **A value of more levels than the reader allows is refused.** If it were read, a reader with
levels enough would read the same, and that would be the value with all its levels. -/
theorem exists_read_toText_eq_error {v : Json} (readable : v.IsReadable) {levels : Nat}
    (deep : levels < v.nesting) : ∃ cause, read levels v.toText = .error cause := by
  have refused : ∀ result, readAll levels (write v []) ≠ .ok result := by
    intro result h
    obtain ⟨⟨value, rest⟩, found, -⟩ := bind_eq_ok.mp h
    -- what was read with too few levels would be read with enough of them
    have more := readValue_mono (Nat.le_of_lt deep) found
    have whole := readValue_write readable EndsValue.nil (Nat.le_refl v.nesting)
      (Nat.le_add_right (2 * (write v []).length) 2)
    obtain ⟨rfl, rfl⟩ : value = v.readBack ∧ rest = [] := by
      have same := more.symm.trans whole
      cases same
      exact ⟨rfl, rfl⟩
    have kept := nesting_le_of_readValue found
    rw [nesting_readBack] at kept
    omega
  rw [read, toText, String.toList_ofList]
  cases outcome : readAll levels (write v []) with
  | ok result => exact absurd outcome (refused result)
  | error fault => exact ⟨_, rfl⟩

end Json

end SqlFilter
