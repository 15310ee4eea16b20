import SqlFilter.Expression.Basic

/-!
# The depth of an expression

The depth counts the levels of nesting; an expression that nests none has depth 1. Chains of
thousands of links are common, so `Expression.depth` keeps a list of the expressions still to be
visited and does not recurse into them. `Expression.height` says the same by recursion on the tree.
-/

namespace SqlFilter

mutual

/-- The number of expressions in a term. -/
def Term.size : Term → Nat
  | .nested inner => inner.size
  | _ => 0

/-- The number of expressions in an expression, itself included. -/
def Expression.size : Expression → Nat
  | .binary left _ right => 1 + left.size + right.size
  | .unary left _ => 1 + left.size

end

namespace Expression

/-- The expressions nested directly in the two terms; those of the right term come first. -/
def children (e : Expression) : List Expression :=
  (e.right?.bind Term.nested?).toList ++ e.left.nested?.toList

/-- The total size of pending expressions. -/
def pendingSize : List (Expression × Nat) → Nat
  | [] => 0
  | (e, _) :: rest => e.size + pendingSize rest

theorem pendingSize_append (xs ys : List (Expression × Nat)) :
    pendingSize (xs ++ ys) = pendingSize xs + pendingSize ys := by
  induction xs with
  | nil => simp [pendingSize]
  | cons x xs ih => simp [pendingSize, ih, Nat.add_assoc]

theorem pendingSize_nested? (t : Term) (level : Nat) :
    pendingSize (t.nested?.toList.map (·, level)) = t.size := by
  cases t <;> simp [Term.nested?, pendingSize, Term.size]

theorem size_eq_pendingSize (e : Expression) (level : Nat) :
    e.size = 1 + pendingSize (e.children.map (·, level)) := by
  rw [children, List.map_append, pendingSize_append, pendingSize_nested?]
  cases e with
  | binary left op right =>
    rw [right?, Option.bind_some, pendingSize_nested?, size, Expression.left]
    omega
  | unary left op =>
    rw [right?, size, Expression.left]
    simp [pendingSize]

/-- The greatest of `deepest` and the levels reached in the pending expressions, each of which is
given with the level at which it stands. -/
def deepestLevel (deepest : Nat) (pending : List (Expression × Nat)) : Nat :=
  match pending with
  | [] => deepest
  | (e, level) :: rest => deepestLevel (max deepest level) (e.children.map (·, level + 1) ++ rest)
termination_by pendingSize pending
decreasing_by
  -- the children together are smaller than their parent
  rw [pendingSize_append]
  have size := size_eq_pendingSize e (level + 1)
  rw [pendingSize]
  omega

/-- **The depth** of an expression. -/
def depth (e : Expression) : Nat := deepestLevel 0 [(e, 1)]

end Expression

mutual

/-- The levels of nesting below a term. -/
def Term.height : Term → Nat
  | .nested inner => inner.height
  | _ => 0

/-- One more than the greater height of the two terms. -/
def Expression.height : Expression → Nat
  | .binary left _ right => 1 + max left.height right.height
  | .unary left _ => 1 + left.height

end

end SqlFilter
