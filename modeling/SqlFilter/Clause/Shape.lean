import SqlFilter.Clause.Compile

/-!
# Expressions that have a clause

Whether an expression has a clause is a matter of two things that can be told without writing it:
its shape, and the depth that it needs.

* `Expression.isWritable` says which terms each operator takes, on either side and at every level.
* `Expression.need` is the least depth limit under which the clause can be written. A chain of
  connectives needs no more than its links do.
-/

namespace SqlFilter

mutual

/-- **Whether every operator has the terms that it takes.** -/
def Expression.isWritable : Expression → Bool
  | .unary left op => left.fitsLeft op && op.family = .nullTest
  | .binary left op right => left.fitsLeft op && right.fitsRight op

/-- Whether a term can stand on the left of an operator. Only a column can be matched with a
pattern. -/
def Term.fitsLeft (op : Operator) : Term → Bool
  | .column _ => true
  | .nested inner => op.family ≠ .pattern && inner.isWritable
  | .scalar _ | .list _ => false

/-- Whether a term can stand on the right of an operator. The null tests ignore it. -/
def Term.fitsRight (op : Operator) : Term → Bool
  | .column _ =>
    match op.family with
    | .connective | .comparison | .nullTest => true
    | .membership | .pattern => false
  | .scalar value =>
    match op.family with
    | .connective | .comparison | .nullTest => true
    | .membership => false
    | .pattern => value.kind = .text
  | .list items =>
    match op.family with
    | .membership => !items.isEmpty
    | .nullTest => true
    | .connective | .comparison | .pattern => false
  | .nested inner =>
    match op.family with
    | .connective | .comparison | .membership => inner.isWritable
    | .nullTest => true
    | .pattern => false

end

mutual

/-- **The least depth limit** under which an expression can be written. -/
def Expression.need : Expression → Nat
  | .unary left _ => max 1 left.needLeft
  | .binary left op right => max (max 1 left.needLeft) (right.needRight op)

/-- The depth that a left term needs. -/
def Term.needLeft : Term → Nat
  | .nested inner => 1 + inner.need
  | _ => 0

/-- The depth that a right term needs: a link of a chain stays at the depth of the chain, and what
is ignored needs none. -/
def Term.needRight (op : Operator) : Term → Nat
  | .nested inner =>
    match op.family with
    | .connective => inner.need
    | .comparison | .membership => 1 + inner.need
    | .pattern | .nullTest => 0
  | _ => 0

end

end SqlFilter
