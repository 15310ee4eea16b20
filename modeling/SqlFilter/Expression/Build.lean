import SqlFilter.Expression.Basic

/-!
# Building expressions

Tests of one column, connectives of two expressions, and chains of many. A chain leans to the
right: `a AND (b AND (c AND d))`.
-/

namespace SqlFilter

namespace Expression

/-! ### Tests of a column -/

/-- A column compared with a value. -/
def compare (column : String) (op : Operator) (value : Scalar) : Expression :=
  .binary (.column column) op (.scalar value)

/-- A column tested against a list of values. -/
def among (column : String) (op : Operator) (values : List Scalar) : Expression :=
  .binary (.column column) op (.list values)

def eq (column : String) (value : Scalar) : Expression := compare column .equals value

def ne (column : String) (value : Scalar) : Expression := compare column .notEquals value

def gt (column : String) (value : Scalar) : Expression := compare column .greaterThan value

def gte (column : String) (value : Scalar) : Expression :=
  compare column .greaterThanOrEqualTo value

def lt (column : String) (value : Scalar) : Expression := compare column .lessThan value

def lte (column : String) (value : Scalar) : Expression := compare column .lessThanOrEqualTo value

def isIn (column : String) (values : List Scalar) : Expression := among column .isIn values

def notIn (column : String) (values : List Scalar) : Expression := among column .notIn values

/-- The column starts with, contains or ends with a text. -/
def contains (column text : String) : Expression := compare column .contains (.text text)

/-- The three tests of `contains`, each of them negated: the column does not start with, does not
contain or does not end with a text. -/
def containsNot (column text : String) : Expression := compare column .containsNot (.text text)

def isNull (column : String) : Expression := .unary (.column column) .isNull

def isNotNull (column : String) : Expression := .unary (.column column) .isNotNull

/-! ### Connectives -/

/-- Two expressions joined. -/
def join (left : Expression) (joiner : Joiner) (right : Expression) : Expression :=
  .binary (.nested left) joiner.operator (.nested right)

def and (left right : Expression) : Expression := join left .and right

def or (left right : Expression) : Expression := join left .or right

/-- A condition put in front of an expression. -/
def prepend (e : Expression) (joiner : Joiner) (condition : Expression) : Expression :=
  join condition joiner e

/-- Conditions put in front of an expression one after another, so the last comes first. -/
def prependAll (e : Expression) (conditions : List (Joiner × Expression)) : Expression :=
  conditions.foldl (fun e (joiner, condition) => e.prepend joiner condition) e

/-- A condition put in front of an expression in its own place. The expression is taken out, the
default one standing in for it, and comes back as a part of the new one. -/
def prependInPlace (joiner : Joiner) (condition : Expression) : StateM Expression Unit := do
  let original ← modifyGet fun e => (e, default)
  set (join condition joiner original)

/-- **A chain** of expressions, leaning to the right. One expression is its own chain; of none
there is no chain. -/
def fold (links : List Expression) (joiner : Joiner) : Option Expression :=
  match links.reverse with
  | [] => none
  | last :: before => some (before.foldl (fun chain link => join link joiner chain) last)

end Expression

/-- A condition that is to be put in front of an expression, as a whole or by its parts. -/
inductive Prepending where
  | whole (joiner : Joiner) (condition : Expression)
  | parts (joiner : Joiner) (left : Term) (op : Operator) (right : Term)

namespace Prepending

def joiner : Prepending → Joiner
  | whole joiner _ => joiner
  | parts joiner _ _ _ => joiner

/-- The condition as a whole. -/
def condition : Prepending → Expression
  | whole _ condition => condition
  | parts _ left op right => .binary left op right

/-- Conditions put in front of an expression in its own place, one after another. -/
def runAll (prependings : List Prepending) : StateM Expression Unit :=
  prependings.forM fun p => Expression.prependInPlace p.joiner p.condition

end Prepending

end SqlFilter
