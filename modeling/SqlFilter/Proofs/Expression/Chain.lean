import SqlFilter.Expression.Build

/-!
# Chains by recursion

`Expression.fold` builds a chain from its last link, in a loop over the links in reverse.
`Expression.chain` builds the same from its first link by recursion (`Expression.fold_cons`), which
is the form that goes with an induction over the links. Where the last link plays a part of its own,
`Expression.chainTo` sets it apart (`Expression.fold_concat`).
-/

namespace SqlFilter

namespace Expression

/-- The chain of a link and those after it: each is joined to the chain of the rest. -/
def chain (joiner : Joiner) : Expression → List Expression → Expression
  | link, [] => link
  | link, next :: links => join link joiner (chain joiner next links)

/-- A link in front of a chain is joined to it. -/
theorem fold_cons_cons (link next : Expression) (links : List Expression) (joiner : Joiner) :
    fold (link :: next :: links) joiner
      = (fold (next :: links) joiner).map (join link joiner) := by
  cases back : (next :: links).reverse with
  | nil => simp at back
  | cons last before =>
    -- in the loop, the new link is the last one to be joined
    have longer : (link :: next :: links).reverse = last :: (before ++ [link]) := by
      rw [List.reverse_cons, back, List.cons_append]
    rw [fold, fold, longer, back]
    simp only [List.foldl_append, List.foldl_cons, List.foldl_nil, Option.map_some]

/-- **The loop builds the chain.** -/
theorem fold_cons (link : Expression) (links : List Expression) (joiner : Joiner) :
    fold (link :: links) joiner = some (chain joiner link links) := by
  induction links generalizing link with
  | nil => rfl
  | cons next links ih => rw [fold_cons_cons, ih next, Option.map_some, chain]

example (a b c : Expression) : fold [a, b, c] .or = some (or a (or b c)) := rfl

/-- Another link in front of a chain is prepended to it, and is a chain if there was none. -/
theorem fold_cons_eq_prepend (link : Expression) (links : List Expression)
    (joiner : Joiner) :
    fold (link :: links) joiner = some (match fold links joiner with
      | some e => e.prepend joiner link
      | none => link) := by
  cases links with
  | nil => rfl
  | cons next links =>
    rw [fold_cons_cons, fold_cons]
    rfl

/-- The chain of some links and a last one. -/
def chainTo (joiner : Joiner) (last : Expression) : List Expression → Expression
  | [] => last
  | link :: links => join link joiner (chainTo joiner last links)

/-- **The loop starts from the last link.** -/
theorem fold_concat (before : List Expression) (last : Expression) (joiner : Joiner) :
    fold (before ++ [last]) joiner = some (chainTo joiner last before) := by
  induction before with
  | nil => rfl
  | cons link before ih =>
    rw [List.cons_append, fold_cons_eq_prepend, ih]
    rfl

/-! ### Chains in chains -/

/-- A chain in the place of the last link goes on with its own links. -/
theorem chainTo_append (joiner : Joiner) (last : Expression) (links others : List Expression) :
    chainTo joiner last (links ++ others) = chainTo joiner (chainTo joiner last others) links := by
  induction links with
  | nil => rfl
  | cons link links ih => rw [List.cons_append, chainTo, chainTo, ih]

/-- **A chain at the end of a chain** of the same joiner is a part of it. -/
theorem fold_concat_fold {joiner : Joiner} {others : List Expression} {inner : Expression}
    (h : fold others joiner = some inner) (links : List Expression) :
    fold (links ++ [inner]) joiner = fold (links ++ others) joiner := by
  rcases List.eq_nil_or_concat others with rfl | ⟨before, last, rfl⟩
  · cases h
  · rw [List.concat_eq_append] at h ⊢
    rw [fold_concat] at h
    obtain rfl := Option.some.inj h
    rw [fold_concat, ← List.append_assoc, fold_concat, chainTo_append]

/-- **Prepending builds a chain** from its end, if the joiner is the same all along. -/
theorem prependAll_eq_chainTo (e : Expression) (joiner : Joiner) (conditions : List Expression) :
    e.prependAll (conditions.map (joiner, ·)) = chainTo joiner e conditions.reverse := by
  induction conditions generalizing e with
  | nil => rfl
  | cons condition conditions ih =>
    -- the first condition ends up deepest, just in front of the expression
    rw [List.reverse_cons, chainTo_append]
    exact ih (e.prepend joiner condition)

end Expression

end SqlFilter
