import SqlFilter.Expression.Json

/-!
# The spellings of an expression

An expression can be spelled in more than one way. `Expression.Spells value e` says that the JSON
value `value` is one of the spellings of `e`; it is the format of documents as a grammar, with a
rule for each form. Decoding accepts the spellings and nothing else.
-/

namespace SqlFilter

open Json (field?)

/-- The spellings of an operator: its name, alone or with null as its payload. -/
inductive Operator.Spells : Json → Operator → Prop where
  | bare (op : Operator) : Spells (.text op.name) op
  | withNull (op : Operator) : Spells (.object [(op.name, .null)]) op

/-- The spellings of a scalar: its value, under the name of its kind. An integer may stand for a
floating-point number. -/
inductive Scalar.Spells : Json → Scalar → Prop where
  | text (s : String) : Spells (.object [("Text", .text s)]) (.text s)
  | int (n : Int64) : Spells (.object [("Int", .int n.toInt)]) (.int n)
  | float (x : Float) : Spells (.object [("Float", .float x)]) (.float x)
  | floatOfInt (n : Int) : Spells (.object [("Float", .int n)]) (.float (Json.floatOfInt n))
  | bool (b : Bool) : Spells (.object [("Bool", .bool b)]) (.bool b)
  | uuid {s : String} {u : Uuid} :
    Uuid.read s.toList = .ok u → Spells (.object [("Uuid", .text s)]) (.uuid u)
  | timestamp {s : String} {t : Timestamp} :
    Timestamp.read s.toList = .ok t → Spells (.object [("Timestamp", .text s)]) (.timestamp t)

/-- The spellings of several scalars, one after another. -/
inductive Scalar.SpellsAll : List Json → List Scalar → Prop where
  | nil : SpellsAll [] []
  | cons {value : Json} {s : Scalar} {values : List Json} {scalars : List Scalar} :
    Scalar.Spells value s → SpellsAll values scalars →
      SpellsAll (value :: values) (s :: scalars)

mutual

/-- The spellings of a term: its content, under the name of its kind. -/
inductive Term.Spells : Json → Term → Prop where
  | column (name : String) : Term.Spells (.object [("Column", .text name)]) (.column name)
  | scalar {value : Json} {s : Scalar} :
    Scalar.Spells value s → Term.Spells (.object [("Scalar", value)]) (.scalar s)
  | list {values : List Json} {items : List Scalar} :
    Scalar.SpellsAll values items → Term.Spells (.object [("List", .list values)]) (.list items)
  | nested {value : Json} {inner : Expression} :
    Expression.Spells value inner → Term.Spells (.object [("Nested", value)]) (.nested inner)

/-- **The spellings of an expression**: an object with the fields `left`, `op` and perhaps `right`,
among others that mean nothing, or a list of the parts. Null stands for a right term that is
missing. -/
inductive Expression.Spells : Json → Expression → Prop where
  | object {fields : List (String × Json)} {l o r : Json} {left right : Term} {op : Operator} :
    field? "left" fields = some l → field? "op" fields = some o →
      field? "right" fields = some r → Term.Spells l left → Operator.Spells o op →
      Term.Spells r right → Expression.Spells (.object fields) (.binary left op right)
  | objectUnary {fields : List (String × Json)} {l o : Json} {left : Term} {op : Operator} :
    field? "left" fields = some l → field? "op" fields = some o →
      (field? "right" fields = none ∨ field? "right" fields = some .null) →
      Term.Spells l left → Operator.Spells o op →
      Expression.Spells (.object fields) (.unary left op)
  | list {l o r : Json} {left right : Term} {op : Operator} :
    Term.Spells l left → Operator.Spells o op → Term.Spells r right →
      Expression.Spells (.list [l, o, r]) (.binary left op right)
  | listUnary {l o : Json} {left : Term} {op : Operator} :
    Term.Spells l left → Operator.Spells o op → Expression.Spells (.list [l, o]) (.unary left op)
  | listNull {l o : Json} {left : Term} {op : Operator} :
    Term.Spells l left → Operator.Spells o op →
      Expression.Spells (.list [l, o, .null]) (.unary left op)

end

end SqlFilter
