import SqlFilter.Clause.Side

/-!
# Clauses by recursion

The rule of the clause, told by recursion on the expression: parentheses around left side, operator
and right side. An expression nested on either side is a clause of its own, one level deeper, except
that the right side of a connective stays at the same depth. The first error from left to right is
the error of the whole.
-/

namespace SqlFilter

open Clause

mutual

/-- The clause of an expression at the given depth. -/
def Expression.plainClause (limit depth : Nat) : Expression → Except ClauseError String
  | .unary left op => do
    checkDepth limit depth
    let left ← left.plainLeft limit depth op
    let right ← withoutRight op
    .ok ("(" ++ left ++ right ++ ")")
  | .binary left op right => do
    checkDepth limit depth
    let leftText ← left.plainLeft limit depth op
    let rightText ← Term.plainRight limit depth op left right
    .ok ("(" ++ leftText ++ rightText ++ ")")

/-- The left side of an expression at the given depth. -/
def Term.plainLeft (limit depth : Nat) (op : Operator) : Term → Except ClauseError String
  | .nested inner =>
    match op.family with
    | .pattern => .error (.invalidLeft op (.term .nested))
    | _ => do
      let clause ← inner.plainClause limit (depth + 1)
      .ok (clause ++ " ")
  | left => flatLeft op left

/-- Operator and right side of an expression at the given depth, whose left term is `left`. -/
def Term.plainRight (limit depth : Nat) (op : Operator) (left : Term) :
    Term → Except ClauseError String
  | .nested inner =>
    match op.family with
    | .connective => do
      let clause ← inner.plainClause limit depth
      .ok (op.keyword ++ clause)
    | .comparison | .membership => do
      let clause ← inner.plainClause limit (depth + 1)
      .ok (op.keyword ++ clause)
    | .pattern | .nullTest => flatRight op left (.nested inner)
  | right => flatRight op left right

end

end SqlFilter
