import SqlFilter.Clause.Compile
import SqlFilter.Clause.Plain
import SqlFilter.Proofs.Result

/-!
# The loop writes the clause of the recursion

`Expression.writeFrom` runs along a chain of connectives in a loop, and closes at the end all the
parentheses it has opened. `Expression.plainClause` recurses and closes each where it belongs. The
two agree in text and in error, at every depth and under every limit:

* `Expression.checkDepth_writeFrom` is the invariant of the loop. Whatever has been written before,
  and however many parentheses are open, the loop adds the clause of what is left of the chain and
  then closes them.
* `Expression.loop_eq_recursion` starts the loop with nothing written and nothing open.

The two check the depth at different places. The loop checks before it enters a nested expression,
once for a whole chain; the recursion checks in every expression. The invariant therefore has the
check in front of the loop, and the links of a chain pass it because they stay at one depth.
-/

namespace SqlFilter

namespace Clause

/-! ### The check of the depth -/

theorem checkDepth_of_le {limit depth : Nat} (h : depth ≤ limit) :
    checkDepth limit depth = .ok () := if_neg (by omega)

theorem checkDepth_of_lt {limit depth : Nat} (h : limit < depth) :
    checkDepth limit depth = .error (.depthExceeded limit) := if_pos h

/-! ### Closing parentheses -/

@[simp] theorem close_zero (text : String) : close text 0 = text := by
  simp [close]

/-- A parenthesis at the end of the text may as well be counted. -/
theorem close_append_paren (text : String) (count : Nat) :
    close (text ++ ")") count = close text (count + 1) := by
  rw [close, close, List.replicate_succ, String.append_assoc, ← String.toList_inj]
  simp

/-- The loop leaves the parenthesis of an expression to the end, behind those that were open
before; the recursion writes it at once. -/
theorem bind_close (side : Except ClauseError String) (text left : String) (opened : Nat) :
    (side >>= fun right => .ok (close (text ++ "(" ++ left ++ right) (opened + 1)))
      = (side >>= fun right => Except.ok ("(" ++ left ++ right ++ ")")) >>= fun clause =>
          .ok (close (text ++ clause) opened) := by
  cases side with
  | error err => rfl
  | ok right =>
    simp only [ok_bind]
    rw [← close_append_paren]
    simp only [String.append_assoc]

end Clause

open Clause

mutual

/-- **The invariant of the loop.** Behind `text`, and with `opened` parentheses to close, the loop
writes the clause of the recursion and closes them. -/
theorem Expression.checkDepth_writeFrom (limit depth opened : Nat) (text : String)
    (e : Expression) :
    (checkDepth limit depth >>= fun _ => e.writeFrom limit depth opened text)
      = e.plainClause limit depth >>= fun clause => .ok (close (text ++ clause) opened) := by
  -- the check in front fails, or every link of the chain passes it
  rcases Nat.lt_or_ge limit depth with deep | fits
  · cases e <;> rw [Expression.plainClause, checkDepth_of_lt deep] <;> rfl
  cases e with
  | unary left op =>
    rw [Expression.writeFrom, Expression.plainClause, checkDepth_of_le fits, ok_bind, ok_bind,
      left.writeLeft_eq, bind_assoc, bind_assoc]
    congr 1
    funext leftText
    exact bind_close (withoutRight op) text leftText opened
  | binary left op right =>
    rw [Expression.writeFrom, Expression.plainClause, checkDepth_of_le fits, ok_bind, ok_bind,
      left.writeLeft_eq, bind_assoc, bind_assoc]
    congr 1
    funext leftText
    rw [ok_bind, ← bind_close]
    cases right with
    | column | scalar | list =>
      rw [Term.plainRight]
      simp
    | nested inner =>
      rw [Term.plainRight]
      cases op.family with
      | connective =>
        -- the loop goes on at the same depth, whose check has been passed
        have chain := inner.checkDepth_writeFrom limit depth (opened + 1)
          (text ++ "(" ++ leftText ++ op.keyword)
        rw [checkDepth_of_le fits, ok_bind] at chain
        simp only [chain, bind_assoc, ok_bind]
        simp only [String.append_assoc]
      | comparison | membership =>
        -- a loop of its own, one level deeper, which starts with nothing open
        have below := inner.checkDepth_writeFrom limit (depth + 1) 0
          (text ++ "(" ++ leftText ++ op.keyword)
        simp only [← bind_assoc (checkDepth limit (depth + 1)), below]
        simp only [bind_assoc, ok_bind, close_zero, String.append_assoc]
      | pattern | nullTest => rfl

/-- The left side is written behind `text`. -/
theorem Term.writeLeft_eq (limit depth : Nat) (op : Operator) (text : String) (t : Term) :
    t.writeLeft limit depth op text
      = t.plainLeft limit depth op >>= fun side => .ok (text ++ side) := by
  cases t with
  | column | scalar | list => rw [Term.writeLeft, Term.plainLeft] <;> simp
  | nested inner =>
    have below := inner.checkDepth_writeFrom limit (depth + 1) 0 text
    rw [Term.writeLeft, Term.plainLeft]
    cases op.family with
    | pattern => rfl
    | connective | comparison | membership | nullTest =>
      simp only [← bind_assoc (checkDepth limit (depth + 1)), below]
      simp only [bind_assoc, ok_bind, close_zero, String.append_assoc]

end

/-- **The loop and the recursion agree**, in the text of the clause and in the error if there is
none. -/
theorem Expression.loop_eq_recursion (limit depth : Nat) (e : Expression) :
    (do checkDepth limit depth; e.writeFrom limit depth 0 "") = e.plainClause limit depth := by
  rw [e.checkDepth_writeFrom limit depth 0 ""]
  simp only [close_zero, String.empty_append]
  exact bind_pure (e.plainClause limit depth)

/-- The clause of an expression is that of the recursion at depth 1. -/
theorem Expression.toClause_eq_plainClause (limit : Nat) (e : Expression) :
    e.toClause limit = e.plainClause limit 1 := by
  rw [toClause, e.checkDepth_writeFrom limit 1 0 ""]
  simp only [close_zero, String.empty_append]
  exact bind_pure (e.plainClause limit 1)

end SqlFilter
