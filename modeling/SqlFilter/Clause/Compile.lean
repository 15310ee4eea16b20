import SqlFilter.Clause.Side

/-!
# Compiling expressions to clauses

`Expression.toClause` writes an expression as the text that follows `WHERE`. Every expression
becomes one pair of parentheses.

Depth is limited, but **a chain of connectives costs no depth**: the expression nested on the right
of an `AND` or `OR` stands at the same depth as the chain itself, and is reached in a loop. The loop
`Expression.writeFrom` therefore counts the parentheses it has opened and closes them all at the
end. The recursive function in `SqlFilter.Clause.Plain` closes each where it belongs and gives the
same text.
-/

namespace SqlFilter

namespace Clause

/-- A text with `count` closing parentheses behind it. -/
def close (text : String) (count : Nat) : String := text ++ String.ofList (List.replicate count ')')

end Clause

open Clause

mutual

/-- The clause of an expression at the given depth, written behind `text`; `opened` parentheses are
still to be closed behind it. -/
def Expression.writeFrom (limit depth opened : Nat) (text : String) :
    Expression → Except ClauseError String
  | .unary left op => do
    let text ← left.writeLeft limit depth op (text ++ "(")
    let right ← withoutRight op
    .ok (close (text ++ right) (opened + 1))
  | .binary left op right => do
    let text ← left.writeLeft limit depth op (text ++ "(")
    match right with
    | .nested inner =>
      match op.family with
      -- the loop: the same depth, one more parenthesis to close
      | .connective => inner.writeFrom limit depth (opened + 1) (text ++ op.keyword)
      | .comparison | .membership => do
        checkDepth limit (depth + 1)
        let text ← inner.writeFrom limit (depth + 1) 0 (text ++ op.keyword)
        .ok (close text (opened + 1))
      | .pattern | .nullTest => do
        let right ← flatRight op left (.nested inner)
        .ok (close (text ++ right) (opened + 1))
    | right => do
      let right ← flatRight op left right
      .ok (close (text ++ right) (opened + 1))

/-- The left side of an expression at the given depth, written behind `text`. -/
def Term.writeLeft (limit depth : Nat) (op : Operator) (text : String) :
    Term → Except ClauseError String
  | .nested inner =>
    match op.family with
    | .pattern => .error (.invalidLeft op (.term .nested))
    | _ => do
      checkDepth limit (depth + 1)
      let text ← inner.writeFrom limit (depth + 1) 0 text
      .ok (text ++ " ")
  | left => do
    let side ← flatLeft op left
    .ok (text ++ side)

end

/-- How deep expressions may be nested, unless told otherwise. -/
def defaultDepthLimit : Nat := 256

/-- **The clause of an expression**, or why it has none. Expressions may be nested `limit` deep. -/
def Expression.toClause (limit : Nat) (e : Expression) : Except ClauseError String := do
  checkDepth limit 1
  e.writeFrom limit 1 0 ""

end SqlFilter
