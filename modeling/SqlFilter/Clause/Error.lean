import SqlFilter.Expression.Basic

/-!
# Why an expression has no clause

An expression that cannot be written as a clause is refused with the operator at fault and what was
found in the place of one of its terms.
-/

namespace SqlFilter

/-- What was found in the place of a term. -/
inductive Found where
  | term (kind : Term.Kind)
  | scalar (kind : Scalar.Kind)
  /-- A list of no values. -/
  | emptyList
deriving DecidableEq, Repr

/-- The name of what was found. -/
def Found.name : Found → String
  | .term kind => kind.name
  | .scalar kind => kind.name
  | .emptyList => "empty value list"

/-- Why an expression has no clause. -/
inductive ClauseError where
  /-- The operator needs a right term. -/
  | missingRight (op : Operator)
  /-- The left term is neither a column nor an expression that the operator can take. -/
  | invalidLeft (op : Operator) (found : Found)
  /-- The operator cannot take this right term. -/
  | unexpectedRight (op : Operator) (found : Found)
  /-- The operator needs a list of values. -/
  | expectedList (op : Operator) (found : Found)
  /-- The operator needs a text. -/
  | expectedText (op : Operator) (found : Found)
  /-- Expressions are nested deeper than the limit. -/
  | depthExceeded (limit : Nat)
deriving DecidableEq, Repr

/-- The wording of an error. -/
def ClauseError.message : ClauseError → String
  | .missingRight op => "Operator " ++ op.name ++ " requires a right-hand term"
  | .invalidLeft _ found =>
    "Left term must be a column or nested expression, found " ++ found.name
  | .unexpectedRight op found =>
    "Operator " ++ op.name ++ " cannot take " ++ found.name ++ " as its right-hand term"
  | .expectedList op found =>
    "Operator " ++ op.name ++ " requires a value list, found " ++ found.name
  | .expectedText op found =>
    "Operator " ++ op.name ++ " requires a text value, found " ++ found.name
  | .depthExceeded limit =>
    "Expression nesting exceeds maximum depth of " ++ toString limit

end SqlFilter
