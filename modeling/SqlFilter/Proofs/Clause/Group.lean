import SqlFilter.Expression.Build
import SqlFilter.Proofs.Clause.Pieces
import SqlFilter.Proofs.Sql.Balance

/-!
# A clause is one group

The parenthesis that opens a clause is closed by the last character of the clause and not before
(`Expression.isGroup_of_toClause`), whatever stands in its literals, if the names of columns have no
parentheses. So a clause stays one condition wherever it is put, as in front of a further `AND`.

The compiler closes the parentheses of a chain all at the end. This does not show in the pieces,
where each expression closes its own, so the proof goes along the expression: what stands between
its parentheses is balanced (`Expression.exists_balanced_pieces`).
-/

namespace SqlFilter

open Sql (codes write inParens IsBalanced isBalanced_codes isBalanced_literal isBalanced_of_notMem)
open Clause

/-- A name without parentheses. -/
def IsParenFree (name : String) : Prop := '(' ∉ name.toList ∧ ')' ∉ name.toList

instance (name : String) : Decidable (IsParenFree name) :=
  inferInstanceAs (Decidable (_ ∧ _))

/-! ### Names, lists and patterns -/

namespace Clause

/-- A character outside the literals of a name is one of the name. -/
theorem mem_of_code_mem_namePieces {name : String} {c : Char}
    (h : .code c ∈ namePieces name) : c ∈ name.toList := by
  have written : c ∈ write (namePieces name) :=
    List.mem_flatMap.mpr ⟨.code c, h, List.mem_singleton_self c⟩
  rw [← toList_name, toList_sanitize, Sanitize.chars, Sanitize.mem_doubleQuotes] at written
  exact Sanitize.mem_of_mem_stripped written

theorem isBalanced_namePieces {name : String} (h : IsParenFree name) :
    IsBalanced (namePieces name) :=
  isBalanced_of_notMem (fun mem => h.1 (mem_of_code_mem_namePieces mem))
    (fun mem => h.2 (mem_of_code_mem_namePieces mem))

theorem isBalanced_keyword (op : Operator) : IsBalanced (codes op.keyword.toList) := by
  cases op <;> exact isBalanced_codes (by decide) (by decide)

theorem isBalanced_listPieces (items : List Scalar) : IsBalanced (listPieces items) := by
  have comma : IsBalanced (codes [',']) := isBalanced_codes (by decide) (by decide)
  -- items are literals, so the parentheses in them do not count
  refine IsBalanced.inParens (forall_separated .nil ?_ ?_ items)
  · intro v
    exact isBalanced_literal v.written
  · intro v ps rest
    exact (isBalanced_literal v.written).append (comma.append rest)

theorem isBalanced_testPieces (op : Operator) {name : String} (h : IsParenFree name)
    (pattern : List Char) : IsBalanced (testPieces op.keyword name pattern) := by
  have blank : IsBalanced (codes [' ']) := isBalanced_codes (by decide) (by decide)
  have keyword := (blank.append (isBalanced_keyword op)).append blank
  have whole := ((isBalanced_namePieces h).append keyword).append (isBalanced_literal pattern)
  simpa [testPieces, codes] using whole

theorem isBalanced_patternPieces (op : Operator) {name : String} (h : IsParenFree name)
    (text : List Char) : IsBalanced (patternPieces op.keyword name text) := by
  -- the name stands in all three tests, and the text is in literals
  have next : IsBalanced (codes ['O', 'R', ' ']) := isBalanced_codes (by decide) (by decide)
  have tests := ((((isBalanced_testPieces op h (text ++ ['%'])).append next).append
    (isBalanced_testPieces op h ('%' :: text ++ ['%']))).append next).append
    (isBalanced_testPieces op h ('%' :: text))
  simpa [patternPieces, inParens] using tests.inParens

end Clause

/-! ### Expressions -/

mutual

/-- **Between the parentheses** of an expression, the pieces are balanced. -/
theorem Expression.exists_balanced_pieces {e : Expression}
    (h : ∀ name ∈ e.columns, IsParenFree name) :
    ∃ ps, IsBalanced ps ∧ e.pieces = inParens ps := by
  cases e with
  | unary left op =>
    exact ⟨_, (Term.isBalanced_leftPieces h op).append (isBalanced_keyword op), rfl⟩
  | binary left op right =>
    obtain ⟨first, second⟩ := List.forall_mem_append.mp h
    -- the outer parentheses are those of this expression alone, whatever it nests
    exact ⟨_, (Term.isBalanced_leftPieces first op).append
      (Term.isBalanced_rightPieces second op first), rfl⟩

theorem Term.isBalanced_leftPieces {t : Term} (h : ∀ name ∈ t.columns, IsParenFree name)
    (op : Operator) : IsBalanced (t.leftPieces op) := by
  have blank : IsBalanced (codes [' ']) := isBalanced_codes (by decide) (by decide)
  cases t with
  | column name =>
    have named := (isBalanced_namePieces (h name (by simp [Term.columns]))).append blank
    rw [Term.leftPieces]
    cases op.family with
    | pattern => exact .nil
    | connective | comparison | membership | nullTest => exact named
  | nested inner =>
    obtain ⟨ps, balanced, whole⟩ := Expression.exists_balanced_pieces h
    rw [Term.leftPieces, whole]
    exact balanced.inParens.append blank
  | scalar | list => exact .nil

/-- A pattern operator writes the column of its left side. -/
theorem Term.isBalanced_rightPieces {left right : Term}
    (h : ∀ name ∈ right.columns, IsParenFree name) (op : Operator)
    (hleft : ∀ name ∈ left.columns, IsParenFree name) :
    IsBalanced (right.rightPieces op left) := by
  by_cases isTest : op.family = .nullTest
  · rw [Term.rightPieces_of_nullTest isTest]
    exact isBalanced_keyword op
  by_cases isPattern : op.family = .pattern
  · -- a pattern names the column of the left side three times more
    unfold Term.rightPieces
    rw [isPattern]
    cases left with
    | column name =>
      cases right with
      | scalar value =>
        exact isBalanced_patternPieces op (hleft name (by simp [Term.columns])) value.written
      | column | list | nested => exact .nil
    | scalar | list | nested => exact .nil
  · rw [Term.rightPieces_of_operand isTest isPattern]
    refine (isBalanced_keyword op).append ?_
    cases right with
    | column name => exact isBalanced_namePieces (h name (by simp [Term.columns]))
    | scalar value => exact isBalanced_literal value.written
    | list items => exact isBalanced_listPieces items
    | nested inner =>
      obtain ⟨ps, balanced, whole⟩ := Expression.exists_balanced_pieces h
      rw [Term.pieces, whole]
      exact balanced.inParens

end

/-! ### Clauses -/

/-- **A clause is one group**: its first parenthesis is closed by its last character. Names of
columns may hold anything but parentheses, and scalars anything at all. -/
theorem Expression.isGroup_of_toClause {e : Expression}
    (h : ∀ name ∈ e.columns, IsParenFree name) {limit : Nat} {s : String}
    (hs : e.toClause limit = .ok s) : Sql.IsGroup s.toList := by
  obtain ⟨ps, balanced, whole⟩ := Expression.exists_balanced_pieces h
  -- what is outside of literals is told by reading the text back
  have back := e.readsBack_pieces.pieces?
  rw [(toClause_ok hs).2]
  rw [whole] at back ⊢
  exact balanced.isGroup back

/-- Parentheses and quotes in values, a quote in a name, and a chain in which the last parentheses
are closed together. -/
theorem Expression.isGroup_of_toClause_of_quotes :
    let e := (eq "it's" (.text ")'(")).and ((isIn "n" [.text "))", .int 1]).and
      (contains "c" "a('"))
    let s := "((it''s = ')''(') AND ((n  IN ('))','1')) AND ((c LIKE 'a(''%'OR c LIKE '%a(''%'OR "
      ++ "c LIKE '%a('''))))"
    e.toClause 2 = .ok s ∧ Sql.IsGroup s.toList := by
  intro e s
  have names : ∀ name ∈ e.columns, IsParenFree name := by
    change ∀ name ∈ ["it's", "n", "c"], IsParenFree name
    decide
  have compiled : e.toClause 2 = .ok s := by decide
  exact ⟨compiled, isGroup_of_toClause names compiled⟩

end SqlFilter
