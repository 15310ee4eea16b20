import SqlFilter.Expression.Spelling
import SqlFilter.Proofs.Calendar.Reader
import SqlFilter.Proofs.Uuid

/-!
# Spellings are decoded

Decoding accepts every spelling of an expression and gives the expression that is spelled
(`Expression.ofJson_of_spells`). The JSON form that encoding writes is one of the spellings
(`Expression.spells_toJson`), so decoding undoes encoding (`Expression.ofJson_toJson`).

Both go by rule induction, or by induction on the tree, with one lemma for operators, scalars and
terms each.
-/

namespace SqlFilter

open Json (Mismatch field?)

/-! ### Operators -/

theorem Operator.ofJson_of_spells {value : Json} {op : Operator} (h : Operator.Spells value op) :
    Operator.ofJson value = .ok op := by
  cases h with
  | bare => simp [Operator.ofJson, Json.asName, Json.choice, bind, Except.bind]
  | withNull => simp [Operator.ofJson, Json.asName, Json.choice, bind, Except.bind]

/-! ### Scalars -/

theorem Json.asInt_toInt (n : Int64) : Json.asInt (.int n.toInt) = .ok n := by
  have bounds : Int64.minValue.toInt ≤ n.toInt ∧ n.toInt ≤ Int64.maxValue.toInt :=
    ⟨n.minValue_le_toInt, n.toInt_le⟩
  rw [Json.asInt, if_pos bounds, Int64.ofInt_toInt]

theorem Scalar.ofJson_of_spells {value : Json} {s : Scalar} (h : Scalar.Spells value s) :
    Scalar.ofJson value = .ok s := by
  cases h with
  | text s => rfl
  | int n =>
    -- the one kind whose range is checked, and every value of the kind is within it
    show Scalar.int <$> Json.asInt (.int n.toInt) = _
    rw [Json.asInt_toInt]
    rfl
  | float x => rfl
  | floatOfInt n => rfl
  | bool b => rfl
  | uuid read =>
    -- of these two kinds a spelling is any text that reads as the value
    show Scalar.uuid <$> (Uuid.read _).mapError Mismatch.uuid = _
    rw [read]
    rfl
  | timestamp read =>
    show Scalar.timestamp <$> (Timestamp.read _).mapError Mismatch.timestamp = _
    rw [read]
    rfl

theorem Scalar.mapM_ofJson_of_spells {values : List Json} {items : List Scalar}
    (h : Scalar.SpellsAll values items) : values.mapM Scalar.ofJson = .ok items := by
  induction h with
  | nil => rfl
  | cons first _ ih =>
    rw [List.mapM_cons, Scalar.ofJson_of_spells first, ih]
    rfl

theorem Scalar.spells_toJson (s : Scalar) : Scalar.Spells s.toJson s := by
  cases s with
  | text s => exact .text s
  | int n => exact .int n
  | float x => exact .float x
  | bool b => exact .bool b
  | uuid u => exact .uuid (by rw [String.toList_ofList, Uuid.read_toList])
  | timestamp t => exact .timestamp (by rw [String.toList_ofList, Timestamp.read_isoText])

theorem Scalar.spellsAll_map_toJson (items : List Scalar) :
    Scalar.SpellsAll (items.map Scalar.toJson) items := by
  induction items with
  | nil => exact .nil
  | cons s items ih => exact .cons s.spells_toJson ih

/-! ### Terms and expressions -/

/-! The four kinds of terms, each decoded by its own decoder. -/

theorem Term.ofJson_column (value : Json) :
    Term.ofJson (.object [("Column", value)]) = Term.column <$> value.asText := by
  rw [Term.ofJson, if_neg (by decide)]
  rfl

theorem Term.ofJson_scalar (value : Json) :
    Term.ofJson (.object [("Scalar", value)]) = Term.scalar <$> Scalar.ofJson value := by
  rw [Term.ofJson, if_neg (by decide)]
  rfl

theorem Term.ofJson_list (value : Json) :
    Term.ofJson (.object [("List", value)]) = Term.list <$> Scalar.listOfJson value := by
  rw [Term.ofJson, if_neg (by decide)]
  rfl

theorem Term.ofJson_nested (value : Json) :
    Term.ofJson (.object [("Nested", value)]) = Term.nested <$> Expression.ofJson value := by
  -- a nested term is told apart first, as the one kind that the recursion goes into
  rw [Term.ofJson, if_pos rfl]

theorem Term.optionalOfJson_of_ne_null {value : Json} (h : value ≠ .null) :
    Term.optionalOfJson value = some <$> Term.ofJson value :=
  Term.optionalOfJson.eq_2 value h

/-- A term is never spelled by null, which is left to the terms that are missing. -/
theorem Term.optionalOfJson_of_spells {value : Json} {t : Term} (h : Term.Spells value t)
    (decoded : Term.ofJson value = .ok t) : Term.optionalOfJson value = .ok (some t) := by
  -- each kind of term is spelled by an object
  have notNull : value ≠ .null := by
    rintro rfl
    cases h
  rw [Term.optionalOfJson_of_ne_null notNull, decoded]
  rfl

/-- The fields of an expression are decoded in their order, whatever else the object holds. -/
theorem Expression.ofJson_object (fields : List (String × Json)) :
    Expression.ofJson (.object fields) = (do
      let left ← (field? "left" fields).mapM Term.ofJson
      let op ← (field? "op" fields).mapM Operator.ofJson
      let right ← (field? "right" fields).elim (.ok none) Term.optionalOfJson
      match left, op with
      | none, _ => .error (.missingField "left")
      | some _, none => .error (.missingField "op")
      | some left, some op => .ok (Expression.ofParts left op right)) := by
  rw [Expression.ofJson]
  -- a field is looked up with a proof of where it was found, so it is split and not rewritten
  cases ho : field? "op" fields <;> split
  all_goals
    next hl =>
    rw [hl]
    split <;> (next hr => rw [hr]; rfl)

mutual

theorem Term.ofJson_of_spells {value : Json} {t : Term} (h : Term.Spells value t) :
    Term.ofJson value = .ok t := by
  cases h with
  | column name =>
    rw [Term.ofJson_column]
    rfl
  | scalar spelled =>
    rw [Term.ofJson_scalar, Scalar.ofJson_of_spells spelled]
    rfl
  | list spelled =>
    rw [Term.ofJson_list, Scalar.listOfJson, Scalar.mapM_ofJson_of_spells spelled]
    rfl
  | nested spelled =>
    rw [Term.ofJson_nested, Expression.ofJson_of_spells spelled]
    rfl

/-- **A spelling is decoded** as what it spells. -/
theorem Expression.ofJson_of_spells {value : Json} {e : Expression}
    (h : Expression.Spells value e) : Expression.ofJson value = .ok e := by
  cases h with
  | object hl ho hr left op right =>
    have right := Term.optionalOfJson_of_spells right (Term.ofJson_of_spells right)
    rw [Expression.ofJson_object, hl, ho, hr]
    simp only [Option.mapM_some, Option.elim, Term.ofJson_of_spells left,
      Operator.ofJson_of_spells op, right]
    rfl
  | objectUnary hl ho hr left op =>
    rw [Expression.ofJson_object, hl, ho]
    simp only [Option.mapM_some, Term.ofJson_of_spells left, Operator.ofJson_of_spells op]
    -- an operator without a right side spells it as null or not at all
    rcases hr with none | null
    · rw [none]
      rfl
    · rw [null, Option.elim_some, Term.optionalOfJson]
      rfl
  | list left op right =>
    have right := Term.optionalOfJson_of_spells right (Term.ofJson_of_spells right)
    rw [Expression.ofJson, Term.ofJson_of_spells left, Operator.ofJson_of_spells op, right]
    rfl
  | listUnary left op =>
    rw [Expression.ofJson, Term.ofJson_of_spells left, Operator.ofJson_of_spells op]
    rfl
  | listNull left op =>
    rw [Expression.ofJson, Term.ofJson_of_spells left, Operator.ofJson_of_spells op,
      Term.optionalOfJson]
    rfl

end

mutual

theorem Term.spells_toJson (t : Term) : Term.Spells t.toJson t := by
  cases t with
  | column name => exact .column name
  | scalar s => exact .scalar s.spells_toJson
  | list items => exact .list (Scalar.spellsAll_map_toJson items)
  | nested inner => exact .nested inner.spells_toJson

/-- **Encoding spells** an expression. -/
theorem Expression.spells_toJson (e : Expression) : Expression.Spells e.toJson e := by
  cases e with
  | binary left op right =>
    exact .object rfl rfl rfl left.spells_toJson (.bare op) right.spells_toJson
  -- encoding always writes the field, with null in it
  | unary left op => exact .objectUnary rfl rfl (.inr rfl) left.spells_toJson (.bare op)

end

/-- **Decoding undoes encoding.** -/
theorem Expression.ofJson_toJson (e : Expression) : Expression.ofJson e.toJson = .ok e :=
  Expression.ofJson_of_spells e.spells_toJson

end SqlFilter
