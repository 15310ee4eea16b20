import SqlFilter.Clause.Side
import SqlFilter.Expression.Scalars

/-!
# What a clause tells of its expression

A clause does not tell everything about the expression it was made from: the kind of a scalar is
lost, so is what the sanitizer removes, and a null test ignores its right term. What is left is the
**normal form** of the expression. Expressions of the same normal form have the same clause.

`Expression.literals` lists the contents of the literals of a clause, as a reader of SQL understands
them.
-/

namespace SqlFilter

/-- A scalar as the text that a clause holds between the quotes. -/
def Scalar.normal (value : Scalar) : Scalar := .text (Clause.literalText value)

mutual

/-- The normal form of a term. -/
def Term.normal : Term → Term
  | .column name => .column name
  | .scalar value => .scalar value.normal
  | .list items => .list (items.map Scalar.normal)
  | .nested inner => .nested inner.normal

/-- **The normal form**: scalars are texts, and null tests have no right term. -/
def Expression.normal : Expression → Expression
  | .unary left op => .unary left.normal op
  | .binary left op right =>
    match op.family with
    | .nullTest => .unary left.normal op
    | _ => .binary left.normal op right.normal

end

/-- A scalar as a reader of the clause understands it. -/
def Scalar.written (value : Scalar) : List Char := Sanitize.stripped value.displayChars

mutual

/-- **The literals** of an expression's clause, in their order. -/
def Expression.literals : Expression → List (List Char)
  | .unary left _ => left.literalsLeft
  | .binary left op right => left.literalsLeft ++ right.literalsRight op

/-- The literals of a left side. -/
def Term.literalsLeft : Term → List (List Char)
  | .nested inner => inner.literals
  | _ => []

/-- The literals of a right side. A pattern operator writes its text three times, with wildcards;
the null tests write nothing. -/
def Term.literalsRight (op : Operator) (right : Term) : List (List Char) :=
  match op.family with
  | .nullTest => []
  | .pattern =>
    match right with
    | .scalar value =>
      [value.written ++ ['%'], '%' :: value.written ++ ['%'], '%' :: value.written]
    | _ => []
  | .connective | .comparison | .membership =>
    match right with
    | .column _ => []
    | .scalar value => [value.written]
    | .list items => items.map Scalar.written
    | .nested inner => inner.literals

end

end SqlFilter
