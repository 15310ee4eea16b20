import SqlFilter.Expression.Depth

/-!
# The depth is the height of the tree

`Expression.depth` visits the expressions of a tree from a list of pending ones and keeps the
deepest level met so far. `Expression.height` recurses on the tree. They agree
(`Expression.depth_eq_height`).

The invariant of the loop looks ahead: an expression that is pending at some level will bring the
loop down to that level and its height below it, whatever the order of the visits. The deepest level
at the end is therefore known at every step, from the deepest one so far and from
`Expression.lowest`, the place below all that the pending expressions reach.
-/

namespace SqlFilter

namespace Expression

/-- The first level that none of the pending expressions reaches. -/
def lowest : List (Expression × Nat) → Nat
  | [] => 0
  | (e, level) :: rest => max (level + e.height) (lowest rest)

theorem lowest_append (xs ys : List (Expression × Nat)) :
    lowest (xs ++ ys) = max (lowest xs) (lowest ys) := by
  induction xs with
  | nil => simp [lowest]
  | cons x xs ih =>
    obtain ⟨e, level⟩ := x
    rw [List.cons_append, lowest, lowest, ih, Nat.max_assoc]

/-- What a term nests reaches below the level at which it stands, and a flat term reaches
nothing. -/
theorem max_lowest_nested? (t : Term) (level : Nat) :
    max level (lowest (t.nested?.toList.map (·, level))) = level + t.height := by
  cases t <;> simp [Term.nested?, lowest, Term.height]

/-- A visit replaces an expression by its children one level below, and looks no less far ahead. -/
theorem max_lowest_children (e : Expression) (level : Nat) :
    max (level + 1) (lowest (e.children.map (·, level + 1))) = level + e.height := by
  have below := fun t : Term => max_lowest_nested? t (level + 1)
  -- the right term's child is visited first, which a maximum does not tell apart
  rw [children, List.map_append, lowest_append]
  cases e with
  | binary left op right =>
    have first := below left
    have second := below right
    rw [right?, Option.bind_some, Expression.left, height]
    omega
  | unary left op =>
    have only := below left
    have nothing : lowest ((((unary left op).right?.bind Term.nested?).toList).map
        (·, level + 1)) = 0 := rfl
    rw [nothing, Expression.left, height]
    omega

/-- **The invariant of the loop**: where it ends is known from the start. -/
theorem deepestLevel_add_one (deepest : Nat) (pending : List (Expression × Nat)) :
    deepestLevel deepest pending + 1 = max (deepest + 1) (lowest pending) := by
  -- along the visits of the loop itself: the list of pending expressions need not get shorter
  induction deepest, pending using deepestLevel.induct with
  | case1 deepest => simp [deepestLevel, lowest]
  | case2 deepest e level rest ih =>
    have visit := max_lowest_children e level
    rw [deepestLevel, ih, lowest_append, lowest]
    omega

/-- **The depth of an expression is the height of its tree.** -/
theorem depth_eq_height (e : Expression) : e.depth = e.height := by
  have whole := deepestLevel_add_one 0 [(e, 1)]
  rw [lowest, lowest] at whole
  rw [depth]
  omega

end Expression

end SqlFilter
