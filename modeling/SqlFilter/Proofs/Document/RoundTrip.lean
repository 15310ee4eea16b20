import Mathlib.Logic.Function.Iterate
import SqlFilter.Document
import SqlFilter.Expression.Build
import SqlFilter.Expression.Scalars
import SqlFilter.Proofs.Expression.Spelling
import SqlFilter.Proofs.Json.RoundTrip

/-!
# Expressions are read back as documents

The JSON text of an expression is a document, and reading it gives the expression back, the same
tree with the same scalars (`Expression.read_toText_toJson`). Only two things stand in the way:

* The text has no form for a floating-point number that is not finite. It is written as null, which
  is then no number (`Expression.no_float_of_ofJson_readBack`).
* A reader allows only so many open lists and objects, and an expression needs as many as its
  nesting says (`Expression.nesting_toJson`).

In both cases the document is refused. It is never taken for a group, since an expression is written
with three fields and a group has one.
-/

namespace SqlFilter

open Json (IsReadable AllReadable readBack readBackAll)

/-! ### Nesting -/

theorem Scalar.nesting_toJson (s : Scalar) : s.toJson.nesting = 1 := by
  cases s <;> rfl

theorem Scalar.listNesting_map_toJson (s : Scalar) (items : List Scalar) :
    Json.listNesting ((s :: items).map Scalar.toJson) = 1 := by
  induction items generalizing s with
  | nil => rw [List.map_cons, Json.listNesting, s.nesting_toJson]; rfl
  | cons next items ih => rw [List.map_cons, Json.listNesting, s.nesting_toJson, ih next]; rfl

mutual

theorem Term.nesting_toJson (t : Term) : t.toJson.nesting = t.nesting := by
  match t with
  | .column name => rfl
  | .scalar s => simp [Term.toJson, Json.nesting, Json.fieldNesting, s.nesting_toJson, Term.nesting]
  | .list [] => rfl
  -- a list that is not empty has one more level for its items
  | .list (s :: items) =>
    rw [Term.toJson, Json.nesting, Json.fieldNesting, Json.nesting, s.listNesting_map_toJson]
    rfl
  | .nested inner =>
    have inner := inner.nesting_toJson
    simp [Term.toJson, Json.nesting, Json.fieldNesting, inner, Term.nesting]

/-- **The nesting of an expression** is that of its JSON form. -/
theorem Expression.nesting_toJson (e : Expression) : e.toJson.nesting = e.nesting := by
  match e with
  | .unary left op =>
    simp [Expression.toJson, Operator.toJson, Json.nesting, Json.fieldNesting, left.nesting_toJson,
      Expression.nesting]
  | .binary left op right =>
    simp [Expression.toJson, Operator.toJson, Json.nesting, Json.fieldNesting, left.nesting_toJson,
      right.nesting_toJson, Expression.nesting]

end

/-! ### The text of the JSON form -/

/-- Whether a scalar is a floating-point number that has a text. -/
def Scalar.isFiniteFloat : Scalar → Bool
  | .float x => (Binary64.ofFloat x).isFinite
  | _ => false

theorem Scalar.isReadable_toJson {s : Scalar} (h : s.isFiniteFloat = false) :
    s.toJson.IsReadable := by
  -- only the two kinds of numbers have bounds to keep; the other texts are free
  cases s with
  | int n =>
    have least : Int64.minValue.toInt ≤ n.toInt := n.minValue_le_toInt
    have greatest : n.toInt < Json.Numeral.significandBound := by
      have : n.toInt ≤ 9223372036854775807 := n.toInt_le
      have bound : Json.Numeral.significandBound = 18446744073709551616 := rfl
      omega
    exact ⟨⟨⟨least, greatest⟩, trivial⟩, by simp⟩
  | float x => exact ⟨⟨h, trivial⟩, by simp⟩
  | text s => exact ⟨⟨trivial, trivial⟩, by simp⟩
  | bool b => exact ⟨⟨trivial, trivial⟩, by simp⟩
  | uuid u => exact ⟨⟨trivial, trivial⟩, by simp⟩
  | timestamp t => exact ⟨⟨trivial, trivial⟩, by simp⟩

theorem Scalar.allReadable_map_toJson {items : List Scalar}
    (h : ∀ s ∈ items, s.isFiniteFloat = false) : AllReadable (items.map Scalar.toJson) := by
  induction items with
  | nil => trivial
  | cons s items ih =>
    obtain ⟨first, others⟩ := List.forall_mem_cons.mp h
    exact ⟨Scalar.isReadable_toJson first, ih others⟩

mutual

theorem Term.isReadable_toJson {t : Term} (h : ∀ s ∈ t.scalars, s.isFiniteFloat = false) :
    t.toJson.IsReadable := by
  match t with
  | .column name => exact ⟨⟨trivial, trivial⟩, by simp⟩
  | .scalar s => exact ⟨⟨Scalar.isReadable_toJson (h s (by simp [Term.scalars])), trivial⟩, by simp⟩
  | .list items => exact ⟨⟨Scalar.allReadable_map_toJson h, trivial⟩, by simp⟩
  | .nested inner => exact ⟨⟨Expression.isReadable_toJson h, trivial⟩, by simp⟩

/-- The text of an expression without finite floating-point numbers determines its JSON form. -/
theorem Expression.isReadable_toJson {e : Expression}
    (h : ∀ s ∈ e.scalars, s.isFiniteFloat = false) : e.toJson.IsReadable := by
  match e with
  | .unary left op => exact ⟨⟨Term.isReadable_toJson h, trivial, trivial, trivial⟩, by simp⟩
  | .binary left op right =>
    obtain ⟨first, second⟩ := List.forall_mem_append.mp h
    exact ⟨⟨Term.isReadable_toJson first, trivial, Term.isReadable_toJson second, trivial⟩,
      by simp⟩

end

/-! ### What is read back -/

theorem Scalar.readBack_toJson {s : Scalar} (h : s.kind ≠ .float) :
    s.toJson.readBack = s.toJson := by
  cases s with
  | float x => exact absurd rfl h
  | _ => rfl

theorem Scalar.readBackAll_map_toJson {items : List Scalar} (h : ∀ s ∈ items, s.kind ≠ .float) :
    readBackAll (items.map Scalar.toJson) = items.map Scalar.toJson := by
  induction items with
  | nil => rfl
  | cons s items ih =>
    obtain ⟨first, others⟩ := List.forall_mem_cons.mp h
    rw [List.map_cons, readBackAll, Scalar.readBack_toJson first, ih others]

mutual

theorem Term.readBack_toJson {t : Term} (h : ∀ s ∈ t.scalars, s.kind ≠ .float) :
    t.toJson.readBack = t.toJson := by
  match t with
  | .column name => rfl
  | .scalar s =>
    have same := Scalar.readBack_toJson (h s (by simp [Term.scalars]))
    rw [Term.toJson, readBack, Json.readBackFields, same]
    rfl
  | .list items =>
    have same : readBackAll (items.map Scalar.toJson) = items.map Scalar.toJson :=
      Scalar.readBackAll_map_toJson h
    rw [Term.toJson, readBack, Json.readBackFields, readBack, same]
    rfl
  | .nested inner =>
    rw [Term.toJson, readBack, Json.readBackFields, Expression.readBack_toJson h]
    rfl

/-- Without floating-point numbers, the JSON form is read back as it is. -/
theorem Expression.readBack_toJson {e : Expression} (h : ∀ s ∈ e.scalars, s.kind ≠ .float) :
    e.toJson.readBack = e.toJson := by
  match e with
  | .unary left op =>
    rw [Expression.toJson, readBack, Json.readBackFields, Term.readBack_toJson h]
    rfl
  | .binary left op right =>
    obtain ⟨first, second⟩ := List.forall_mem_append.mp h
    rw [Expression.toJson, readBack, Json.readBackFields, Term.readBack_toJson first,
      Json.readBackFields, Json.readBackFields, Term.readBack_toJson second]
    rfl

end

/-! ### Numbers that are lost -/

/-- Null is no number. -/
theorem Scalar.kind_ne_float_of_ofJson {s s' : Scalar}
    (h : Scalar.ofJson s.toJson.readBack = .ok s') : s.kind ≠ .float := by
  -- a number was written as null, which no float is read from
  cases s with
  | float x => cases h
  | _ => exact Scalar.Kind.noConfusion

theorem Scalar.kind_ne_float_of_mapM {items read : List Scalar}
    (h : (readBackAll (items.map Scalar.toJson)).mapM Scalar.ofJson = .ok read) :
    ∀ s ∈ items, s.kind ≠ .float := by
  induction items generalizing read with
  | nil => simp
  | cons s items ih =>
    -- each item is decoded by itself, so none of them is a lost number
    rw [List.map_cons, readBackAll, List.mapM_cons] at h
    obtain ⟨first, hfirst, h⟩ := bind_eq_ok.mp h
    obtain ⟨others, hothers, -⟩ := bind_eq_ok.mp h
    exact List.forall_mem_cons.mpr ⟨Scalar.kind_ne_float_of_ofJson hfirst, ih hothers⟩

mutual

theorem Term.no_float_of_ofJson_readBack {t t' : Term}
    (h : Term.ofJson t.toJson.readBack = .ok t') : ∀ s ∈ t.scalars, s.kind ≠ .float := by
  -- the payload stands in the only field, and it must be decoded for the term to be
  match t with
  | .column name => simp [Term.scalars]
  | .scalar s =>
    rw [Term.toJson, readBack, Json.readBackFields, Json.readBackFields, Term.ofJson_scalar] at h
    obtain ⟨s', decoded, -⟩ := map_eq_ok.mp h
    simpa [Term.scalars] using Scalar.kind_ne_float_of_ofJson decoded
  | .list items =>
    rw [Term.toJson, readBack, Json.readBackFields, Json.readBackFields, Term.ofJson_list,
      readBack] at h
    obtain ⟨items', decoded, -⟩ := map_eq_ok.mp h
    exact Scalar.kind_ne_float_of_mapM decoded
  | .nested inner =>
    rw [Term.toJson, readBack, Json.readBackFields, Json.readBackFields, Term.ofJson_nested] at h
    obtain ⟨inner', decoded, -⟩ := map_eq_ok.mp h
    exact Expression.no_float_of_ofJson_readBack decoded

/-- **What is still an expression when it is read back** had no floating-point number. -/
theorem Expression.no_float_of_ofJson_readBack {e e' : Expression}
    (h : Expression.ofJson e.toJson.readBack = .ok e') : ∀ s ∈ e.scalars, s.kind ≠ .float := by
  match e with
  | .unary left op =>
    -- the left term is decoded first, whatever the others are
    rw [Expression.toJson, readBack, Json.readBackFields, Expression.ofJson_object] at h
    obtain ⟨left', hleft, -⟩ := bind_eq_ok.mp h
    obtain ⟨left', decoded, -⟩ := map_eq_ok.mp hleft
    exact Term.no_float_of_ofJson_readBack decoded
  | .binary left op right =>
    rw [Expression.toJson, readBack, Json.readBackFields, Json.readBackFields, Json.readBackFields,
      Expression.ofJson_object] at h
    obtain ⟨left', hleft, h⟩ := bind_eq_ok.mp h
    obtain ⟨op', -, h⟩ := bind_eq_ok.mp h
    obtain ⟨right', hright, -⟩ := bind_eq_ok.mp h
    obtain ⟨left', first, -⟩ := map_eq_ok.mp hleft
    -- a right term that is missing is null, but no term is written as null
    have notNull : right.toJson.readBack ≠ .null := by cases right <;> exact Json.noConfusion
    rw [show Json.field? "right" _ = some right.toJson.readBack from rfl, Option.elim_some,
      Term.optionalOfJson_of_ne_null notNull] at hright
    obtain ⟨right', second, -⟩ := map_eq_ok.mp hright
    exact List.forall_mem_append.mpr
      ⟨Term.no_float_of_ofJson_readBack first, Term.no_float_of_ofJson_readBack second⟩

end

/-! ### Documents -/

/-- An expression is not written as a group. -/
theorem Document.ofJson_readBack_toJson (e : Expression) :
    Document.ofJson e.toJson.readBack = Document.leaf e.toJson.readBack := by
  cases e <;> rfl

/-- As long as the reader has levels enough, all depends on what the decoder makes of the value. -/
theorem Document.read_toText {e : Expression} (readable : e.toJson.IsReadable)
    (fits : e.nesting ≤ 127) :
    Document.read e.toJson.toText = Document.leaf e.toJson.readBack := by
  have text : Json.read Json.levels e.toJson.toText = .ok e.toJson.readBack :=
    Json.read_toText readable (by rw [e.nesting_toJson]; exact fits)
  rw [Document.read, text]
  exact Document.ofJson_readBack_toJson e

/-- **A document that was written is read back**, if its expression has no floating-point number
and no more levels than a reader allows. -/
theorem Document.read_toText_eq_ok {e : Expression} (noFloat : ∀ s ∈ e.scalars, s.kind ≠ .float)
    (fits : e.nesting ≤ 127) : Document.read e.toJson.toText = .ok (some e) := by
  have noFinite : ∀ s ∈ e.scalars, s.isFiniteFloat = false := by
    intro s mem
    cases s with
    | float x => exact absurd rfl (noFloat _ mem)
    | text | int | bool | uuid | timestamp => rfl
  rw [Document.read_toText (Expression.isReadable_toJson noFinite) fits, Document.leaf,
    Expression.readBack_toJson noFloat, Expression.ofJson_toJson]

/-- **An expression is read back from its text** as the same expression, unless it has a
floating-point number or more levels than a reader allows; in these cases its text is refused as
malformed. Finite floating-point numbers, which do have a text, are left out. -/
theorem Expression.read_toText_toJson (e : Expression)
    (h : ∀ s ∈ e.scalars, s.isFiniteFloat = false) :
    ((∀ s ∈ e.scalars, s.kind ≠ .float) ∧ e.nesting ≤ 127 →
      Document.read e.toJson.toText = .ok (some e)) ∧
    (¬ ((∀ s ∈ e.scalars, s.kind ≠ .float) ∧ e.nesting ≤ 127) →
      ∃ err, Document.read e.toJson.toText = .error err ∧ err.isMissing = false) := by
  refine ⟨fun ⟨noFloat, fits⟩ => Document.read_toText_eq_ok noFloat fits, fun lost => ?_⟩
  have readable := Expression.isReadable_toJson h
  by_cases fits : e.nesting ≤ 127
  · -- what the decoder still takes has lost no number
    rw [Document.read_toText readable fits, Document.leaf]
    cases decoded : Expression.ofJson e.toJson.readBack with
    | ok e' => exact absurd ⟨Expression.no_float_of_ofJson_readBack decoded, fits⟩ lost
    | error cause => exact ⟨.shape cause, rfl, rfl⟩
  · -- the reader runs out of levels and nothing is decoded
    obtain ⟨cause, text⟩ := Json.exists_read_toText_eq_error readable
      (by rw [e.nesting_toJson]; exact Nat.lt_of_not_le fits : Json.levels < e.toJson.nesting)
    have refused : Document.read e.toJson.toText = .error (.text cause) := by
      rw [Document.read, text]
    exact ⟨.text cause, refused, rfl⟩

/-- The two sides of the limit, which is met by a value compared under 62 tests for `NULL` and
passed by one more test. -/
theorem Expression.read_toText_toJson_of_tests :
    (let inside := (fun e => unary (.nested e) .isNull)^[62] (eq "name" (.text "it\"s\n"))
     Document.read inside.toJson.toText = .ok (some inside)) ∧
    (let outside := (fun e => unary (.nested e) .isNull)^[63] (eq "name" (.text "it\"s\n"))
     ∃ err, Document.read outside.toJson.toText = .error err ∧ err.isMissing = false) :=
  ⟨(Expression.read_toText_toJson _ (by decide +kernel)).1 (by decide +kernel),
    (Expression.read_toText_toJson _ (by decide +kernel)).2 (by decide +kernel)⟩

end SqlFilter
