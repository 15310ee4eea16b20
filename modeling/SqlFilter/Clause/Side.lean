import SqlFilter.Clause.Error
import SqlFilter.Sanitize

/-!
# The two sides of a clause

A clause is `(left operator right)`. This module writes the sides that nest no further expression:
columns, quoted scalars, lists of values, and the three-way `LIKE` of the pattern operators, which
repeats the column and therefore leaves the left side empty.
-/

namespace SqlFilter

namespace Clause

/-- What stands between the quotes of a literal: the display text of a scalar, sanitized. In a
timestamp there is nothing to sanitize. -/
def literalText : Scalar → String
  | .timestamp t => String.ofList t.databaseText
  | value => sanitize value.display

/-- **A literal**: a scalar in single quotes. -/
def literal (value : Scalar) : String := "'" ++ literalText value ++ "'"

/-- The values of a membership test, in parentheses and joined by commas. -/
def valueList (items : List Scalar) : String :=
  "(" ++ ",".intercalate (items.map literal) ++ ")"

/-- The three patterns of a text: it starts, occurs within, or ends the column's value. There is no
blank in front of `OR`. -/
def patterns (keyword column text : String) : String :=
  let c := sanitize column
  let t := sanitize text
  "(" ++ c ++ " " ++ keyword ++ " '" ++ t ++ "%'OR " ++ c ++ " " ++ keyword ++ " '%" ++ t ++
    "%'OR " ++ c ++ " " ++ keyword ++ " '%" ++ t ++ "')"

/-- Operator and right side where there is no right term: only the null tests need none. -/
def withoutRight (op : Operator) : Except ClauseError String :=
  match op.family with
  | .nullTest => .ok op.keyword
  | _ => .error (.missingRight op)

/-- Operator and right side of the pattern operators. -/
def patternRight (op : Operator) (left right : Term) : Except ClauseError String :=
  match right with
  | .scalar value =>
    match value.asText? with
    | none => .error (.expectedText op (.scalar value.kind))
    | some text =>
      match left with
      | .column name => .ok (patterns op.keyword name text)
      | other => .error (.invalidLeft op (.term other.kind))
  | other => .error (.expectedText op (.term other.kind))

/-- Operator and right side for a right term that is not compiled as an expression. -/
def flatRight (op : Operator) (left right : Term) : Except ClauseError String :=
  match op.family with
  | .connective | .comparison =>
    match right with
    | .scalar value => .ok (op.keyword ++ literal value)
    | .column name => .ok (op.keyword ++ sanitize name)
    | other => .error (.unexpectedRight op (.term other.kind))
  | .membership =>
    match right with
    | .list [] => .error (.expectedList op .emptyList)
    | .list items => .ok (op.keyword ++ valueList items)
    | other => .error (.expectedList op (.term other.kind))
  | .pattern => patternRight op left right
  | .nullTest => .ok op.keyword

/-- A left side that is not compiled as an expression. The pattern operators take a column only,
and write it themselves. -/
def flatLeft (op : Operator) (left : Term) : Except ClauseError String :=
  match left with
  | .column name =>
    match op.family with
    | .pattern => .ok ""
    | _ => .ok (sanitize name ++ " ")
  | other => .error (.invalidLeft op (.term other.kind))

/-- Fails where expressions are nested deeper than the limit. -/
def checkDepth (limit depth : Nat) : Except ClauseError Unit :=
  if limit < depth then .error (.depthExceeded limit) else .ok ()

end Clause

end SqlFilter
