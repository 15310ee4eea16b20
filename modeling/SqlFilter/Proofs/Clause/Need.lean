import SqlFilter.Clause.Shape
import SqlFilter.Proofs.Expression.Chain
import SqlFilter.Proofs.Expression.Depth

/-!
# The depth that an expression needs

`Expression.need` counts the levels that the compiler will stand below an expression's own. It is
never more than the height of the tree (`Expression.need_le_depth`), and often much less, since a
chain of connectives is as high as it is long and needs one level more than its links do
(`Expression.need_chain_le`).
-/

namespace SqlFilter

/-- On the right a term needs no more depth than it would on the left. -/
theorem Term.needRight_le_needLeft (op : Operator) (t : Term) : t.needRight op ≤ t.needLeft := by
  cases t with
  | nested inner =>
    rw [Term.needRight, Term.needLeft]
    cases op.family <;> simp
  | column | scalar | list => simp [Term.needRight, Term.needLeft]

/-! ### Chains -/

theorem Joiner.family_operator (joiner : Joiner) : joiner.operator.family = .connective := by
  cases joiner <;> rfl

theorem Expression.need_join (left : Expression) (joiner : Joiner) (right : Expression) :
    (join left joiner right).need = max (1 + left.need) right.need := by
  -- on the right of a connective the compiler does not go a level deeper
  rw [join, need, Term.needLeft, Term.needRight, joiner.family_operator]
  simp only
  omega

/-- **A chain needs one level more than its links**, no matter how long it is. -/
theorem Expression.need_chain_le {need : Nat} (joiner : Joiner) {link : Expression}
    {links : List Expression} (h : ∀ e ∈ link :: links, e.need ≤ need) :
    (chain joiner link links).need ≤ need + 1 := by
  induction links generalizing link with
  | nil =>
    have only := h link List.mem_cons_self
    rw [chain]
    omega
  | cons next links ih =>
    obtain ⟨first, others⟩ := List.forall_mem_cons.mp h
    -- the next link takes a level of its own, and the chain behind it stays on this one
    have rest := ih others
    rw [chain, need_join]
    omega

/-! ### The height of the tree -/

mutual

theorem Expression.need_le_height (e : Expression) : e.need ≤ e.height := by
  cases e with
  | unary left op =>
    have below := left.needLeft_le_height
    rw [Expression.need, Expression.height]
    omega
  | binary left op right =>
    have below := left.needLeft_le_height
    have beside := right.needLeft_le_height
    -- the height counts both sides as the left is counted
    have onRight := right.needRight_le_needLeft op
    rw [Expression.need, Expression.height]
    omega

theorem Term.needLeft_le_height (t : Term) : t.needLeft ≤ 1 + t.height := by
  cases t with
  | nested inner =>
    have inside := inner.need_le_height
    rw [Term.needLeft, Term.height]
    omega
  | column | scalar | list => simp [Term.needLeft]

end

/-- **No more depth is needed than the tree has.** -/
theorem Expression.need_le_depth (e : Expression) : e.need ≤ e.depth := by
  rw [e.depth_eq_height]
  exact e.need_le_height

end SqlFilter
