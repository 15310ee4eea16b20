import SqlFilter.Expression.Basic

/-!
# The scalars of an expression

`Expression.mapScalars` changes the scalars of an expression and keeps all else. Two expressions are
**alike** if they differ at most in the values of scalars of the same kind.
-/

namespace SqlFilter

mutual

/-- A term with each of its scalars changed. -/
def Term.mapScalars (f : Scalar → Scalar) : Term → Term
  | .column name => .column name
  | .scalar value => .scalar (f value)
  | .list items => .list (items.map f)
  | .nested inner => .nested (inner.mapScalars f)

/-- An expression with each of its scalars changed. -/
def Expression.mapScalars (f : Scalar → Scalar) : Expression → Expression
  | .unary left op => .unary (left.mapScalars f) op
  | .binary left op right => .binary (left.mapScalars f) op (right.mapScalars f)

end

/-- Some scalar of the same kind, the same for all of that kind. -/
def Scalar.sample (value : Scalar) : Scalar :=
  match value.kind with
  | .text => .text ""
  | .integer => .int 0
  | .float => .float 0.0
  | .boolean => .bool false
  | .uuid => .uuid ⟨List.replicate 32 ⟨0, by decide⟩, by decide⟩
  | .timestamp => .timestamp (Timestamp.ofDate ⟨0, 1, 1, by decide⟩)

/-- **Alike** expressions have the same tree, columns and operators, and scalars of the same kinds
in the same places. -/
def Expression.Alike (a b : Expression) : Prop :=
  a.mapScalars Scalar.sample = b.mapScalars Scalar.sample

mutual

/-- The columns named in a term. -/
def Term.columns : Term → List String
  | .column name => [name]
  | .nested inner => inner.columns
  | .scalar _ | .list _ => []

/-- The columns named in an expression, from left to right. -/
def Expression.columns : Expression → List String
  | .unary left _ => left.columns
  | .binary left _ right => left.columns ++ right.columns

/-- The scalars in a term. -/
def Term.scalars : Term → List Scalar
  | .scalar value => [value]
  | .list items => items
  | .nested inner => inner.scalars
  | .column _ => []

/-- The scalars in an expression, from left to right. -/
def Expression.scalars : Expression → List Scalar
  | .unary left _ => left.scalars
  | .binary left _ right => left.scalars ++ right.scalars

end

end SqlFilter
