import SqlFilter.Proofs.Expression.Spelling
import SqlFilter.Proofs.Result

/-!
# Only spellings are decoded

What decoding accepts is a spelling of the expression that it gives
(`Expression.spells_of_ofJson`), so whatever holds of all spellings holds of everything that can be
decoded. Together with `Expression.ofJson_of_spells`, decoding accepts the spellings and nothing
else.

Operators, scalars and terms are all spelled as one of several names with a payload. What a decoder
of that form has read is said once, by `Json.choice_cases` and by `Json.payload_cases`.
-/

namespace SqlFilter

open Json (Mismatch field?)

/-! ### Names with payloads -/

namespace Json

/-- A name stands alone, or is the only field of an object that holds the payload. -/
theorem choice_cases {value : Json} {name : String} {payload : Option Json}
    (h : choice value = .ok (name, payload)) :
    (value = .text name ∧ payload = none) ∨
    ∃ content, value = .object [(name, content)] ∧ payload = some content := by
  match value with
  | .text s =>
    cases h
    exact .inl ⟨rfl, rfl⟩
  | .object [(s, content)] =>
    cases h
    exact .inr ⟨content, rfl, rfl⟩
  | .null | .bool _ | .int _ | .float _ | .list _ | .object [] | .object (_ :: _ :: _) => cases h

/-- **A name that takes a payload** is one of those known, and the only field of an object. -/
theorem payload_cases {known : List String} {value content : Json} {name : String}
    {payload : Option Json} (chosen : choice value = .ok (name, payload))
    (needed : needPayload known name payload = .ok content) :
    name ∈ known ∧ value = .object [(name, content)] := by
  unfold needPayload at needed
  split at needed
  · next isKnown =>
    -- an object of two fields is refused, and a name alone has no payload to give
    rcases choice_cases chosen with ⟨-, rfl⟩ | ⟨content', object, rfl⟩
    · cases needed
    · cases needed
      exact ⟨isKnown, object⟩
  · cases needed

end Json

/-! ### Operators -/

theorem Operator.spells_of_ofJson {value : Json} {op : Operator}
    (h : Operator.ofJson value = .ok op) : Operator.Spells value op := by
  -- the payload is looked at after the name: none, or null, which counts as none
  rw [Operator.ofJson, Json.asName] at h
  obtain ⟨⟨name, payload⟩, chosen, h⟩ := bind_eq_ok.mp h
  simp only at h
  split at h
  · cases h
  · next found =>
    obtain rfl := Operator.name_of_ofName? found
    split at h
    · cases h
      -- a bare name and a name with null spell the same operator
      rcases Json.choice_cases chosen with ⟨rfl, -⟩ | ⟨content, -, none⟩
      · exact .bare op
      · cases none
    · cases h
      rcases Json.choice_cases chosen with ⟨-, none⟩ | ⟨content, rfl, same⟩
      · cases none
      · cases same
        exact .withNull op
    · cases h

/-! ### Scalars -/

namespace Json

theorem eq_text_of_asText {value : Json} {s : String} (h : value.asText = .ok s) :
    value = .text s := by
  cases value <;> cases h
  rfl

theorem eq_bool_of_asBool {value : Json} {b : Bool} (h : value.asBool = .ok b) :
    value = .bool b := by
  cases value <;> cases h
  rfl

theorem eq_int_of_asInt {value : Json} {n : Int64} (h : value.asInt = .ok n) :
    value = .int n.toInt := by
  cases value with
  | int m =>
    rw [asInt] at h
    split at h
    · next bounds =>
      -- within its bounds the number survives the conversion to 64 bits
      have greatest : Int64.maxValue.toInt = 2 ^ 63 - 1 := rfl
      cases h
      rw [Int64.toInt_ofInt_of_le bounds.1 (by omega)]
    · cases h
  | null | bool | float | text | list | object => cases h

/-- An integer may stand for a floating-point number. -/
theorem asFloat_cases {value : Json} {x : Float} (h : value.asFloat = .ok x) :
    value = .float x ∨ ∃ n, value = .int n ∧ x = floatOfInt n := by
  cases value with
  | float y =>
    cases h
    exact .inl rfl
  | int n =>
    cases h
    exact .inr ⟨n, rfl, rfl⟩
  | null | bool | text | list | object => cases h

theorem asRead_cases {ε α : Type} {read : List Char → Except ε α} {wrong : ε → Mismatch}
    {wanted : Wanted} {value : Json} {a : α} (h : asRead read wrong wanted value = .ok a) :
    ∃ s, value = .text s ∧ read s.toList = .ok a := by
  cases value with
  | text s => exact ⟨s, rfl, mapError_eq_ok.mp h⟩
  | null | bool | int | float | list | object => cases h

end Json

theorem Scalar.spells_of_ofJson {value : Json} {s : Scalar} (h : Scalar.ofJson value = .ok s) :
    Scalar.Spells value s := by
  rw [Scalar.ofJson] at h
  obtain ⟨⟨name, payload⟩, chosen, h⟩ := bind_eq_ok.mp h
  obtain ⟨content, needed, h⟩ := bind_eq_ok.mp h
  obtain ⟨isKnown, rfl⟩ := Json.payload_cases chosen needed
  simp only [Scalar.jsonNames, List.mem_cons, List.not_mem_nil, or_false] at isKnown
  -- one case for each kind of scalar
  rcases isKnown with rfl | rfl | rfl | rfl | rfl | rfl
  · obtain ⟨s, text, rfl⟩ := map_eq_ok.mp h
    rw [Json.eq_text_of_asText text]
    exact .text s
  · obtain ⟨n, int, rfl⟩ := map_eq_ok.mp h
    rw [Json.eq_int_of_asInt int]
    exact .int n
  · obtain ⟨x, float, rfl⟩ := map_eq_ok.mp h
    -- an integer will do for a floating-point number
    rcases Json.asFloat_cases float with rfl | ⟨n, rfl, rfl⟩
    · exact .float x
    · exact .floatOfInt n
  · obtain ⟨b, bool, rfl⟩ := map_eq_ok.mp h
    rw [Json.eq_bool_of_asBool bool]
    exact .bool b
  · obtain ⟨u, uuid, rfl⟩ := map_eq_ok.mp h
    obtain ⟨s, rfl, read⟩ := Json.asRead_cases uuid
    exact .uuid read
  · obtain ⟨t, timestamp, rfl⟩ := map_eq_ok.mp h
    obtain ⟨s, rfl, read⟩ := Json.asRead_cases timestamp
    exact .timestamp read

theorem Scalar.spellsAll_of_mapM {values : List Json} {items : List Scalar}
    (h : values.mapM Scalar.ofJson = .ok items) : Scalar.SpellsAll values items := by
  induction values generalizing items with
  | nil =>
    cases h
    exact .nil
  | cons value values ih =>
    rw [List.mapM_cons] at h
    -- the first fault among the items would end the whole list
    obtain ⟨first, hfirst, h⟩ := bind_eq_ok.mp h
    obtain ⟨others, hothers, h⟩ := bind_eq_ok.mp h
    cases h
    exact .cons (Scalar.spells_of_ofJson hfirst) (ih hothers)

theorem Scalar.spellsAll_of_listOfJson {value : Json} {items : List Scalar}
    (h : Scalar.listOfJson value = .ok items) :
    ∃ values, value = .list values ∧ Scalar.SpellsAll values items := by
  cases value with
  | list values => exact ⟨values, rfl, Scalar.spellsAll_of_mapM h⟩
  | null | bool | int | float | text | object => cases h

/-! ### Terms and expressions -/

/-- A term that nests no expression is spelled under its name. -/
theorem Term.spells_of_flatOfJson {value : Json} {t : Term} (h : Term.flatOfJson value = .ok t)
    (flat : ∀ content, value ≠ .object [("Nested", content)]) : Term.Spells value t := by
  rw [Term.flatOfJson] at h
  obtain ⟨⟨name, payload⟩, chosen, h⟩ := bind_eq_ok.mp h
  obtain ⟨content, needed, h⟩ := bind_eq_ok.mp h
  obtain ⟨isKnown, rfl⟩ := Json.payload_cases chosen needed
  simp only [Term.jsonNames, List.mem_cons, List.not_mem_nil, or_false] at isKnown
  -- one case for each kind of term; the last of them is excluded
  rcases isKnown with rfl | rfl | rfl | rfl
  · obtain ⟨s, text, rfl⟩ := map_eq_ok.mp h
    rw [Json.eq_text_of_asText text]
    exact .column s
  · obtain ⟨s, scalar, rfl⟩ := map_eq_ok.mp h
    exact .scalar (Scalar.spells_of_ofJson scalar)
  · obtain ⟨items, list, rfl⟩ := map_eq_ok.mp h
    obtain ⟨values, rfl, spelled⟩ := Scalar.spellsAll_of_listOfJson list
    exact .list spelled
  · exact absurd rfl (flat content)

/-- A term that is not missing has a spelling of its own. -/
theorem Term.optionalOfJson_cases {value : Json} {right : Option Term}
    (h : Term.optionalOfJson value = .ok right) :
    (value = .null ∧ right = none) ∨ ∃ t, right = some t ∧ Term.ofJson value = .ok t := by
  by_cases null : value = .null
  · subst null
    rw [Term.optionalOfJson] at h
    cases h
    exact .inl ⟨rfl, rfl⟩
  · rw [Term.optionalOfJson_of_ne_null null] at h
    obtain ⟨t, decoded, rfl⟩ := map_eq_ok.mp h
    exact .inr ⟨t, rfl, decoded⟩

/-- A field that is decoded if it is there. -/
theorem Json.optional_field_cases {α : Type} {field : Option Json}
    {decode : Json → Except Mismatch α} {a : α} (h : field.mapM decode = .ok (some a)) :
    ∃ value, field = some value ∧ decode value = .ok a := by
  cases field with
  | none => cases h
  | some value =>
    rw [Option.mapM_some] at h
    obtain ⟨a', decoded, same⟩ := map_eq_ok.mp h
    cases same
    exact ⟨value, rfl, decoded⟩

/-- What an object holds that is decoded as an expression: a left term, an operator, and a right
term unless it is missing or null. -/
theorem Expression.ofJson_object_cases {fields : List (String × Json)} {e : Expression}
    (h : Expression.ofJson (.object fields) = .ok e) :
    ∃ l o left op, field? "left" fields = some l ∧ field? "op" fields = some o ∧
      Term.ofJson l = .ok left ∧ Operator.ofJson o = .ok op ∧
      ((e = .unary left op ∧
          (field? "right" fields = none ∨ field? "right" fields = some .null)) ∨
        ∃ r right, e = .binary left op right ∧ field? "right" fields = some r ∧
          Term.ofJson r = .ok right) := by
  rw [Expression.ofJson_object] at h
  obtain ⟨left?, hleft, h⟩ := bind_eq_ok.mp h
  obtain ⟨op?, hop, h⟩ := bind_eq_ok.mp h
  obtain ⟨right?, hright, h⟩ := bind_eq_ok.mp h
  -- the places are looked at in the end only: the first two must be taken, the third need not
  cases left? with
  | none => cases h
  | some left =>
  cases op? with
  | none => cases h
  | some op =>
  cases h
  obtain ⟨l, foundLeft, decodedLeft⟩ := Json.optional_field_cases hleft
  obtain ⟨o, foundOp, decodedOp⟩ := Json.optional_field_cases hop
  refine ⟨l, o, left, op, foundLeft, foundOp, decodedLeft, decodedOp, ?_⟩
  -- the operator does not decide here whether there has to be a right term
  cases found : field? "right" fields with
  | none =>
    rw [found] at hright
    cases hright
    exact .inl ⟨rfl, .inl rfl⟩
  | some r =>
    rw [found] at hright
    rcases Term.optionalOfJson_cases hright with ⟨rfl, rfl⟩ | ⟨right, rfl, decodedRight⟩
    · exact .inl ⟨rfl, .inr rfl⟩
    · exact .inr ⟨r, right, rfl, rfl, decodedRight⟩

/-- Every term but those that nest an expression is decoded as one that does not. -/
theorem Term.ofJson_of_flat {value : Json}
    (flat : ∀ content, value ≠ .object [("Nested", content)]) :
    Term.ofJson value = Term.flatOfJson value := by
  match value with
  | .object [(name, content)] =>
    have notNested : name ≠ "Nested" := by
      rintro rfl
      exact flat content rfl
    rw [Term.ofJson, if_neg notNested]
  | .null | .bool _ | .int _ | .float _ | .text _ | .list _ | .object [] | .object (_ :: _ :: _) =>
    rw [Term.ofJson]
    simp

mutual

theorem Term.spells_of_ofJson {value : Json} {t : Term} (h : Term.ofJson value = .ok t) :
    Term.Spells value t := by
  -- only the nested case recurs, so it is split off first
  by_cases nested : ∃ content, value = .object [("Nested", content)]
  · obtain ⟨content, object⟩ := nested
    rw [object, Term.ofJson_nested] at h
    obtain ⟨inner, decoded, rfl⟩ := map_eq_ok.mp h
    rw [object]
    exact .nested (Expression.spells_of_ofJson decoded)
  · have flat := not_exists.mp nested
    rw [Term.ofJson_of_flat flat] at h
    exact Term.spells_of_flatOfJson h flat
termination_by sizeOf value
decreasing_by
  rw [object]
  simp
  omega

/-- **What is decoded is a spelling** of the expression that comes out. -/
theorem Expression.spells_of_ofJson {value : Json} {e : Expression}
    (h : Expression.ofJson value = .ok e) : Expression.Spells value e := by
  match value with
  | .object fields =>
    obtain ⟨l, o, left, op, hl, ho, decodedLeft, decodedOp, unary | binary⟩ :=
      Expression.ofJson_object_cases h
    · obtain ⟨rfl, missing⟩ := unary
      exact .objectUnary hl ho missing (Term.spells_of_ofJson decodedLeft)
        (Operator.spells_of_ofJson decodedOp)
    · obtain ⟨r, right, rfl, hr, decodedRight⟩ := binary
      exact .object hl ho hr (Term.spells_of_ofJson decodedLeft)
        (Operator.spells_of_ofJson decodedOp) (Term.spells_of_ofJson decodedRight)
  -- a list is read place by place: it ends too early, or it has two or three places
  | .list [] =>
    rw [Expression.ofJson] at h
    cases h
  | .list [l] =>
    rw [Expression.ofJson] at h
    obtain ⟨left, -, h⟩ := bind_eq_ok.mp h
    cases h
  | .list [l, o] =>
    rw [Expression.ofJson] at h
    obtain ⟨left, decodedLeft, h⟩ := bind_eq_ok.mp h
    obtain ⟨op, decodedOp, h⟩ := bind_eq_ok.mp h
    cases h
    exact .listUnary (Term.spells_of_ofJson decodedLeft) (Operator.spells_of_ofJson decodedOp)
  | .list (l :: o :: r :: rest) =>
    rw [Expression.ofJson] at h
    obtain ⟨left, decodedLeft, h⟩ := bind_eq_ok.mp h
    obtain ⟨op, decodedOp, h⟩ := bind_eq_ok.mp h
    -- a place more is refused, and the third may hold a null
    obtain ⟨right?, optional, h⟩ := bind_eq_ok.mp h
    cases rest with
    | cons => cases h
    | nil =>
      cases h
      rcases Term.optionalOfJson_cases optional with ⟨rfl, rfl⟩ | ⟨right, rfl, decodedRight⟩
      · exact .listNull (Term.spells_of_ofJson decodedLeft) (Operator.spells_of_ofJson decodedOp)
      · exact .list (Term.spells_of_ofJson decodedLeft) (Operator.spells_of_ofJson decodedOp)
          (Term.spells_of_ofJson decodedRight)
  | .null | .bool _ | .int _ | .float _ | .text _ =>
    rw [Expression.ofJson] at h
    · cases h
    all_goals simp
termination_by sizeOf value
decreasing_by
  all_goals first
    | (have lt := Json.sizeOf_field? hl; simp; omega)
    | (have lt := Json.sizeOf_field? hr; simp; omega)
    | (simp; omega)

end

end SqlFilter
