import Mathlib.Logic.Function.Iterate
import SqlFilter.Proofs.Expression.Chain
import SqlFilter.Proofs.Expression.Depth

/-!
# The levels of trees and of chains

`Expression.depth` is the outcome of a loop over pending expressions. This module says that the loop
ends and what its outcome is, for the two ways in which expressions are put together
(`Expression.depth_of_trees_and_chains`).

* **The loop** takes one pending expression off its list in each visit and puts its children in its
  place, so a visit makes the pending expressions smaller by one (`Expression.pendingSize_visit`).
  It ends after as many visits as there are expressions in the tree (`Expression.iterate_visit`).
* **A tree** is one level deeper than the deeper of its two terms, whatever its operator
  (`Expression.depth_eq_one_add_max`).
* **A chain** puts each of its links one level below the link in front, save the last one, which is
  on a level with the link before it (`Expression.add_depth_chainTo`).
-/

namespace SqlFilter

/-- The depth of what a term nests. A term that nests nothing has none. -/
def Term.nestedDepth (t : Term) : Nat := t.nested?.elim 0 Expression.depth

theorem Term.nestedDepth_eq_height (t : Term) : t.nestedDepth = t.height := by
  cases t with
  | nested inner => exact inner.depth_eq_height
  | column | scalar | list => rfl

namespace Expression

/-! ### The loop -/

/-- **One visit of the loop**, from the deepest level met so far and the pending expressions to the
next ones. With nothing pending the loop is over. -/
def visit : Nat × List (Expression × Nat) → Nat × List (Expression × Nat)
  | (deepest, []) => (deepest, [])
  | (deepest, (e, level) :: rest) => (max deepest level, e.children.map (·, level + 1) ++ rest)

/-- **A visit takes one expression off**: the children together have all that their parent has but
the parent itself. -/
theorem pendingSize_visit (deepest level : Nat) (e : Expression) (rest : List (Expression × Nat)) :
    pendingSize (visit (deepest, (e, level) :: rest)).2 + 1 = pendingSize ((e, level) :: rest) := by
  -- all expressions of the tree but its root are within its children
  have size := size_eq_pendingSize e (level + 1)
  rw [visit, pendingSize_append, pendingSize]
  omega

/-- **The loop ends** after as many visits as there are pending expressions, those within others
included, and with the deepest level. -/
theorem iterate_visit (deepest : Nat) (pending : List (Expression × Nat)) :
    visit^[pendingSize pending] (deepest, pending) = (deepestLevel deepest pending, []) := by
  induction deepest, pending using deepestLevel.induct with
  | case1 deepest =>
    rw [pendingSize, deepestLevel]
    rfl
  | case2 deepest e level rest ih =>
    rw [← pendingSize_visit deepest, Function.iterate_succ_apply, deepestLevel]
    exact ih

/-! ### Trees -/

/-- **A tree is one level deeper than its terms**, of which both count under every operator. -/
theorem depth_eq_one_add_max (e : Expression) :
    e.depth = 1 + max e.left.nestedDepth (e.right?.elim 0 Term.nestedDepth) := by
  rw [depth_eq_height]
  cases e with
  | binary left op right =>
    rw [height, ← Term.nestedDepth_eq_height, ← Term.nestedDepth_eq_height]
    rfl
  | unary left op =>
    rw [height, ← Term.nestedDepth_eq_height]
    -- a term that is missing counts for nothing
    exact congrArg (1 + ·) (Nat.max_zero _).symm

theorem depth_join (left : Expression) (joiner : Joiner) (right : Expression) :
    (join left joiner right).depth = 1 + max left.depth right.depth :=
  depth_eq_one_add_max _

/-! ### Chains -/

/-- **The depth of a chain** that starts below `level` others. Each link is one level below the one
in front, and the last link stands beside the link before it. -/
theorem add_depth_chainTo (level : Nat) (joiner : Joiner) (last : Expression)
    (before : List Expression) :
    level + (chainTo joiner last before).depth
      = (before.mapIdx fun i link => level + i + 1 + link.depth).foldr max
          (level + before.length + last.depth) := by
  -- the level moves along the links, and with it the place from which they are counted
  induction before generalizing level with
  | nil => rfl
  | cons link before ih =>
    have places : (fun i (link : Expression) => level + (i + 1) + 1 + link.depth)
        = fun i link => level + 1 + i + 1 + link.depth := by
      funext i link
      omega
    have base : level + (link :: before).length = level + 1 + before.length := by
      rw [List.length_cons]
      omega
    calc level + (chainTo joiner last (link :: before)).depth
        = max (level + 1 + link.depth) (level + 1 + (chainTo joiner last before).depth) := by
          rw [chainTo, depth_join]
          omega
      _ = max (level + 1 + link.depth)
            ((before.mapIdx fun i link => level + 1 + i + 1 + link.depth).foldr max
              (level + 1 + before.length + last.depth)) := by rw [ih]
      _ = ((link :: before).mapIdx fun i link => level + i + 1 + link.depth).foldr max
            (level + (link :: before).length + last.depth) := by
          rw [List.mapIdx_cons, List.foldr_cons, places, Nat.add_zero, base]

/-! ### The account -/

/-- **The depth of an expression.** The loop that counts it ends after as many visits as the tree
has expressions, with nothing pending. The depth is one more than the greater depth of the two
terms, which is none for a term that nests nothing. The depth of a chain of `n` links is the
greatest among that of the last link, taken `n - 1` levels below, and those of the others, taken as
many levels below as their place in the chain says, from the first. -/
theorem depth_of_trees_and_chains :
    (∀ e : Expression,
      visit^[e.size] (0, [(e, 1)]) = (e.depth, [])
        ∧ e.depth = 1 + max e.left.nestedDepth (e.right?.elim 0 Term.nestedDepth))
      ∧ ∀ (before : List Expression) (last : Expression) (joiner : Joiner),
          ∃ chain, fold (before ++ [last]) joiner = some chain
            ∧ chain.depth = (before.mapIdx fun i link => i + 1 + link.depth).foldr max
                (before.length + last.depth) := by
  refine ⟨fun e => ⟨?_, depth_eq_one_add_max e⟩, fun before last joiner => ?_⟩
  · exact iterate_visit 0 [(e, 1)]
  · refine ⟨chainTo joiner last before, fold_concat before last joiner, ?_⟩
    simpa using add_depth_chainTo 0 joiner last before

end Expression

end SqlFilter
