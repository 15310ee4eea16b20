import SqlFilter.Operator
import SqlFilter.Scalar

/-!
# Expressions

A boolean condition is an `Expression`: a left `Term`, an operator, and mostly a right term. Terms
are columns, scalars, lists of scalars and nested expressions. Nothing about the shape is checked
here; what cannot be written as a clause shows when it is compiled.
-/

namespace SqlFilter

mutual

/-- One side of an expression. -/
inductive Term where
  /-- The name of a column. -/
  | column (name : String)
  | scalar (value : Scalar)
  /-- The values of a membership test. -/
  | list (items : List Scalar)
  | nested (inner : Expression)

/-- A condition: a left term and an operator, with or without a right term. -/
inductive Expression where
  | binary (left : Term) (op : Operator) (right : Term)
  | unary (left : Term) (op : Operator)

end

namespace Term

/-- The kinds of terms. -/
inductive Kind where
  | column
  | scalar
  | list
  | nested
deriving DecidableEq, Repr

/-- The name of a kind. -/
def Kind.name : Kind → String
  | .column => "column"
  | .scalar => "scalar"
  | .list => "value list"
  | .nested => "nested expression"

/-- The kind of a term. -/
def kind : Term → Kind
  | .column _ => .column
  | .scalar _ => .scalar
  | .list _ => .list
  | .nested _ => .nested

/-- The expression that a term nests. -/
def nested? : Term → Option Expression
  | .nested inner => some inner
  | _ => none

end Term

namespace Expression

instance : Inhabited Expression := ⟨.unary (.column "") .isNull⟩

/-- The left term. -/
def left : Expression → Term
  | .binary left _ _ => left
  | .unary left _ => left

/-- The operator. -/
def op : Expression → Operator
  | .binary _ op _ => op
  | .unary _ op => op

/-- The right term, if there is one. -/
def right? : Expression → Option Term
  | .binary _ _ right => some right
  | .unary _ _ => none

/-- The expression of the given parts. -/
def ofParts (left : Term) (op : Operator) : Option Term → Expression
  | some right => .binary left op right
  | none => .unary left op

@[simp] theorem ofParts_parts (e : Expression) : ofParts e.left e.op e.right? = e := by
  cases e <;> rfl

end Expression

/-! ### Equality -/

mutual

/-- Equality of terms, with scalars compared as values. -/
def Term.beq : Term → Term → Bool
  | .column a, .column b => a == b
  | .scalar a, .scalar b => a == b
  | .list a, .list b => a == b
  | .nested a, .nested b => a.beq b
  | _, _ => false

/-- Equality of expressions, with scalars compared as values. -/
def Expression.beq : Expression → Expression → Bool
  | .binary l o r, .binary l' o' r' => o == o' && l.beq l' && r.beq r'
  | .unary l o, .unary l' o' => o == o' && l.beq l'
  | _, _ => false

end

instance : BEq Term := ⟨Term.beq⟩

instance : BEq Expression := ⟨Expression.beq⟩

/-! ### Display -/

/-- Display texts joined by a comma and a blank, in front of `tail`. -/
def Scalar.writeDisplays : List Scalar → List Char → List Char
  | [], tail => tail
  | [v], tail => v.displayChars ++ tail
  | v :: vs, tail => v.displayChars ++ ',' :: ' ' :: writeDisplays vs tail

mutual

/-- The display text of a term, in front of `tail`. -/
def Term.writeDisplay : Term → List Char → List Char
  | .column name, tail => name.toList ++ tail
  | .scalar value, tail => value.displayChars ++ tail
  | .list items, tail => '[' :: Scalar.writeDisplays items (']' :: tail)
  | .nested inner, tail => inner.writeDisplay tail

/-- The display text of an expression, in front of `tail`. -/
def Expression.writeDisplay : Expression → List Char → List Char
  | .binary left op right, tail =>
    '(' :: left.writeDisplay (' ' :: op.name.toList ++ ' ' :: right.writeDisplay (')' :: tail))
  | .unary left op, tail => '(' :: left.writeDisplay (' ' :: op.name.toList ++ ')' :: tail)

end

/-- The display text of a term. -/
def Term.display (t : Term) : String := String.ofList (t.writeDisplay [])

/-- The display text of an expression: its parts in parentheses, a blank between them. -/
def Expression.display (e : Expression) : String := String.ofList (e.writeDisplay [])

end SqlFilter
