import SqlFilter.Expression.Build
import SqlFilter.Proofs.Clause.Success
import SqlFilter.Proofs.Sql.Like

/-!
# What the pattern operators test

The clause of `Expression.contains` is an `OR` of three tests of the column, and a reader of SQL
finds these tests in it and no others (`Expression.toClause_pattern`). Evaluated on a value of the
column,

* it says no more than the test in the middle, and without wildcards that the text occurs in the
  value (`Expression.contains_isTrue_iff`);
* the clause of `Expression.containsNot` has by design the same three tests, each of them negated,
  and again joined by `OR`. So it is not the negation of the whole: it is false only where the text
  is matched both at the start and at the end of the value (`Expression.containsNot_isTrue_iff`). A
  value in which the text occurs, but not in both places, passes both.

The text is what the sanitizer leaves of the one that is asked for, and may contain wildcards.
-/

namespace SqlFilter

open Sanitize (chars stripped)
open Like (IsTrue IsFalse Matches clauseOf threeWay startingWith containing endingWith)
open Clause

/-! ### The clause of a pattern operator -/

namespace Clause

/-- The pattern operators, by whether they are negated. -/
def patternOperator (negated : Bool) : Operator := if negated then .containsNot else .contains

/-- A test, as a reader of SQL understands it. -/
theorem write_testPieces_eq (negated : Bool) (name : String) (pattern : List Char) :
    Sql.write (testPieces (patternOperator negated).keyword name pattern)
      = (Like.Test.mk negated pattern).write (chars name.toList) := by
  rw [write_testPieces, Like.Test.write]
  cases negated
  · simp [patternOperator, Operator.keyword, Sanitize.quote]
  · simp [patternOperator, Operator.keyword, Sanitize.quote]

theorem write_patternPieces (negated : Bool) (name : String) (text : List Char) :
    Sql.write (patternPieces (patternOperator negated).keyword name text)
      = Like.writeAny (chars name.toList) (threeWay negated text) := by
  simp [patternPieces, Sql.Piece.write, write_testPieces_eq, Like.writeAny, threeWay, startingWith,
    containing, endingWith]

end Clause

namespace Expression

/-- **The clause of a pattern operator** consists of three tests of the column. -/
theorem toClause_pattern (negated : Bool) (column text : String) {limit : Nat} (h : 0 < limit) :
    ∃ clause, (compare column (patternOperator negated) (.text text)).toClause limit = .ok clause
      ∧ clause.toList
        = clauseOf (chars column.toList) (threeWay negated (stripped text.toList)) := by
  -- the two operators have the same shape, and a pattern needs a level of its own only
  have family : (patternOperator negated).family = .pattern := by cases negated <;> rfl
  have writable : (compare column (patternOperator negated) (.text text)).isWritable := by
    cases negated <;> rfl
  have need : (compare column (patternOperator negated) (.text text)).need = 1 := by
    cases negated <;> rfl
  obtain ⟨clause, compiled⟩ := (exists_plainClause_iff limit 1 _).mpr ⟨writable, by omega⟩
  refine ⟨clause, (toClause_eq_plainClause ..).trans compiled, ?_⟩
  rw [(plainClause_ok compiled).2, compare, pieces, Term.leftPieces, Term.rightPieces, family]
  -- nothing stands on the left, since the tests name the column themselves
  change Sql.write (.code '(' :: [] ++ patternPieces _ column (stripped text.toList) ++ [.code ')'])
    = clauseOf _ _
  simp [write_patternPieces, clauseOf, Sql.Piece.write]

/-! ### Evaluated on a value -/

/-- **The three tests of a text are one**: the clause is true of a value exactly if the text, as a
pattern, is matched somewhere in it. If the text has no wildcards, this is to say that it occurs
there. -/
theorem contains_isTrue_iff (column text : String) {limit : Nat} (h : 0 < limit) :
    let name := chars column.toList
    let s := stripped text.toList
    ∃ clause, (contains column text).toClause limit = .ok clause
      ∧ (∀ tests, clause.toList = clauseOf name tests ↔ tests = threeWay false s)
      ∧ ∀ value, (IsTrue name clause.toList value ↔ Matches (containing s) value)
          ∧ ('%' ∉ s → '_' ∉ s → (IsTrue name clause.toList value ↔ s <:+: value)) := by
  intro name s
  obtain ⟨clause, compiled, read⟩ := toClause_pattern false column text h
  have evaluated : ∀ value, IsTrue name clause.toList value ↔ Matches (containing s) value := by
    intro value
    -- a text at the start or at the end is one within, so the test in the middle decides
    rw [read, Like.isTrue_clauseOf_iff, Like.any_threeWay_iff]
  refine ⟨clause, compiled, fun tests => ?_, fun value => ⟨evaluated value, ?_⟩⟩
  · rw [read]
    constructor
    · intro same
      exact (Like.clauseOf_injective same).symm
    · rintro rfl
      rfl
  · intro noRun noOne
    rw [evaluated, Like.matches_containing_iff_infix noRun noOne]

/-- What the sanitizer takes out of a text is not looked for, and a quote in it is no wildcard. -/
theorem contains_isTrue_iff_of_quote :
    0 < 1 ∧ stripped "O--'N".toList = "O'N".toList
      ∧ '%' ∉ "O'N".toList ∧ '_' ∉ "O'N".toList
      ∧ ∃ clause, (contains "it's" "O--'N").toClause 1 = .ok clause
        ∧ ∀ value, IsTrue "it''s".toList clause.toList value ↔ "O'N".toList <:+: value := by
  have name : chars "it's".toList = "it''s".toList := by decide
  have text : stripped "O--'N".toList = "O'N".toList := by decide
  have noRun : '%' ∉ "O'N".toList := by decide
  have noOne : '_' ∉ "O'N".toList := by decide
  obtain ⟨clause, compiled, -, evaluated⟩ := contains_isTrue_iff "it's" "O--'N" Nat.one_pos
  rw [name, text] at evaluated
  exact ⟨Nat.one_pos, text, noRun, noOne, clause, compiled,
    fun value => (evaluated value).2 noRun noOne⟩

/-- **What the negated tests of a text say**: the clause is true of a value unless the text is
matched both at the start and at the end of it. So it is true wherever the clause of
`Expression.contains` is false, and the two are the negation of each other on a value exactly if the
text is matched nowhere in it, or both at its start and at its end. -/
theorem containsNot_isTrue_iff (column text : String) {limit : Nat} (h : 0 < limit) :
    let name := chars column.toList
    let s := stripped text.toList
    ∃ clause negated, (contains column text).toClause limit = .ok clause
      ∧ (containsNot column text).toClause limit = .ok negated
      ∧ ∀ value,
          (IsTrue name negated.toList value
            ↔ ¬ (Matches (startingWith s) value ∧ Matches (endingWith s) value))
          ∧ (IsFalse name clause.toList value → IsTrue name negated.toList value)
          ∧ ((IsTrue name negated.toList value ↔ IsFalse name clause.toList value)
              ↔ (Matches (containing s) value →
                  Matches (startingWith s) value ∧ Matches (endingWith s) value)) := by
  intro name s
  obtain ⟨clause, compiled, read⟩ := toClause_pattern false column text h
  obtain ⟨negated, compiled', read'⟩ := toClause_pattern true column text h
  refine ⟨clause, negated, compiled, compiled', fun value => ?_⟩
  rw [read, read', Like.isTrue_clauseOf_iff, Like.isFalse_clauseOf_iff, Like.any_threeWay_iff,
    Like.any_threeWay_negated_iff]
  -- a text that is matched nowhere is not matched at the start either
  have notBoth_of_notWithin : ¬ Matches (containing s) value →
      ¬ (Matches (startingWith s) value ∧ Matches (endingWith s) value) :=
    fun notWithin both => notWithin both.1.containing_of_startingWith
  refine ⟨Iff.rfl, notBoth_of_notWithin, ?_⟩
  constructor
  · -- the clause of the text itself is true here, so that of the negated tests has to be false
    intro negation within
    by_contra notBoth
    exact negation.mp notBoth within
  · intro bothWhereWithin
    exact ⟨fun notBoth within => notBoth (bothWhereWithin within), notBoth_of_notWithin⟩

/-- On a value that begins and ends with the text the two clauses are the negation of each other. -/
theorem containsNot_isTrue_iff_of_aba :
    0 < 1 ∧ ∃ clause negated, (contains "c" "a").toClause 1 = .ok clause
      ∧ (containsNot "c" "a").toClause 1 = .ok negated
      ∧ (IsTrue ['c'] negated.toList ['a', 'b', 'a']
          ↔ IsFalse ['c'] clause.toList ['a', 'b', 'a']) := by
  have name : chars "c".toList = ['c'] := by decide
  have text : stripped "a".toList = ['a'] := by decide
  have both : Matches (startingWith ['a']) ['a', 'b', 'a']
      ∧ Matches (endingWith ['a']) ['a', 'b', 'a'] := by decide
  obtain ⟨clause, negated, compiled, compiled', evaluated⟩ :=
    containsNot_isTrue_iff "c" "a" Nat.one_pos
  rw [name, text] at evaluated
  exact ⟨Nat.one_pos, clause, negated, compiled, compiled',
    (evaluated ['a', 'b', 'a']).2.2.mpr fun _ => both⟩

/-- On a value in which the text occurs, but not at its end, both clauses are true. -/
theorem contains_and_containsNot_of_ab :
    ∃ clause negated, (contains "c" "a").toClause defaultDepthLimit = .ok clause
      ∧ (containsNot "c" "a").toClause defaultDepthLimit = .ok negated
      ∧ IsTrue ['c'] clause.toList ['a', 'b'] ∧ IsTrue ['c'] negated.toList ['a', 'b']
      ∧ ¬ (IsTrue ['c'] negated.toList ['a', 'b'] ↔ IsFalse ['c'] clause.toList ['a', 'b']) := by
  have name : chars "c".toList = ['c'] := by decide
  have text : stripped "a".toList = ['a'] := by decide
  have someDepth : 0 < defaultDepthLimit := by decide
  obtain ⟨clause, compiled, read⟩ := toClause_pattern false "c" "a" someDepth
  obtain ⟨negated, compiled', read'⟩ := toClause_pattern true "c" "a" someDepth
  rw [name, text] at read read'
  -- the text is at the start and so within, but not at the end
  have within : Matches (containing ['a']) ['a', 'b'] := by decide
  have notBoth : ¬ (Matches (startingWith ['a']) ['a', 'b']
      ∧ Matches (endingWith ['a']) ['a', 'b']) := by decide
  refine ⟨clause, negated, compiled, compiled', ?_⟩
  rw [read, read', Like.isTrue_clauseOf_iff, Like.isTrue_clauseOf_iff, Like.isFalse_clauseOf_iff,
    Like.any_threeWay_iff, Like.any_threeWay_negated_iff]
  exact ⟨within, notBoth, fun negation => negation.mp notBoth within⟩

end Expression

end SqlFilter
