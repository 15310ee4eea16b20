import SqlFilter.Proofs.Clause.Pieces
import SqlFilter.Proofs.Sanitize.Clean

/-!
# Clauses are clean

No clause holds a control character or a bracket of a comment, in its literals or outside of them.
Names and literals are clean because they have been stripped, and the statement is about what stands
between them: every name has a blank or a parenthesis behind it and a literal its closing quote, so
a slash at the end of the one never meets a star at the beginning of the next.

`Expression.staysClean_pieces` goes by recursion on the expression, like `readsBack_pieces`, and for
the same reason: a clause ends with a parenthesis, so anything may follow it.
-/

namespace SqlFilter

open Sanitize (quote IsBarrier IsClean StaysClean isClean_append_cons staysClean_concat)
open Sql (Piece codes write)

namespace Clause

theorem isBarrier_quote : IsBarrier quote := by decide

/-! ### Parts of a clause -/

/-- A literal is clean if its content is, and its closing quote keeps it apart from the rest. -/
theorem staysClean_literal {content : List Char} (h : IsClean content) :
    StaysClean (write [.literal content]) := by
  have body := staysClean_concat h.doubleQuotes isBarrier_quote
  simpa [Piece.write] using body.cons isBarrier_quote

theorem isClean_written (value : Scalar) : IsClean value.written :=
  Sanitize.isClean_stripped value.displayChars

theorem isClean_namePieces (name : String) : IsClean (write (namePieces name)) := by
  rw [← toList_name, toList_sanitize]
  exact Sanitize.isClean_chars name.toList

theorem staysClean_keyword (op : Operator) : StaysClean (write (codes op.keyword.toList)) := by
  rw [Sql.write_codes]
  exact Sanitize.staysClean_of_barriers (by cases op <;> decide)

theorem staysClean_listPieces (items : List Scalar) : StaysClean (write (listPieces items)) := by
  -- items end with a quote and have commas between them, so the list grows without a seam
  have separated : StaysClean
      (write ((items.map fun v => Piece.literal v.written).intersperse (.code ','))) := by
    refine forall_separated (p := fun ps => StaysClean (write ps)) .nil ?_ ?_ items
    · intro v
      exact staysClean_literal (isClean_written v)
    · intro v ps rest
      have comma : StaysClean [','] := Sanitize.staysClean_of_barriers (by decide)
      have all := ((staysClean_literal (isClean_written v)).append comma).append rest
      simpa [Piece.write] using all
  have closed := staysClean_concat separated.isClean (show IsBarrier ')' by decide)
  simpa [listPieces, Piece.write] using closed.cons (show IsBarrier '(' by decide)

theorem staysClean_testPieces (op : Operator) (name : String) {pattern : List Char}
    (h : IsClean pattern) : StaysClean (write (testPieces op.keyword name pattern)) := by
  -- the name ends with its blank, and the pattern with its closing quote
  have front := staysClean_concat (isClean_namePieces name) (show IsBarrier ' ' by decide)
  have blank : StaysClean [' '] := Sanitize.staysClean_of_barriers (by decide)
  have keyword := staysClean_keyword op
  have all := ((front.append keyword).append blank).append (staysClean_literal h)
  rw [Sql.write_codes] at all
  simpa [testPieces, Piece.write] using all

/-- The wildcards of a pattern are barriers. -/
theorem staysClean_patternPieces (op : Operator) (name : String) {text : List Char}
    (h : IsClean text) : StaysClean (write (patternPieces op.keyword name text)) := by
  have wildcard : IsBarrier '%' := by decide
  -- a wildcard cannot complete a bracket at either end of the text
  have starts : IsClean (text ++ ['%']) := (Sanitize.isClean_concat wildcard).mpr h
  have ends : IsClean ('%' :: text) := (Sanitize.isClean_cons wildcard).mpr h
  have within : IsClean ('%' :: text ++ ['%']) := (Sanitize.isClean_cons wildcard).mpr starts
  have next : StaysClean ['O', 'R', ' '] := Sanitize.staysClean_of_barriers (by decide)
  have close : StaysClean [')'] := Sanitize.staysClean_of_barriers (by decide)
  have first := (staysClean_testPieces op name starts).append next
  have second := (staysClean_testPieces op name within).append next
  have third := (staysClean_testPieces op name ends).append close
  have all := (first.append (second.append third)).cons (show IsBarrier '(' by decide)
  simpa [patternPieces, Piece.write] using all

end Clause

open Clause

/-! ### The whole clause -/

mutual

/-- **A clause is clean**, and whatever clean text follows it leaves it so. -/
theorem Expression.staysClean_pieces (e : Expression) : StaysClean (write e.pieces) := by
  have opened : IsBarrier '(' := by decide
  have closed : IsBarrier ')' := by decide
  cases e with
  | unary left op =>
    have inner := (left.staysClean_leftPieces op).append (staysClean_keyword op)
    have all := (staysClean_concat inner.isClean closed).cons opened
    simpa [Expression.pieces, Piece.write] using all
  | binary left op right =>
    -- what the right side ends with is followed by the parenthesis
    have inner := left.staysClean_leftPieces op _ (right.isClean_rightPieces op left)
    have all := (staysClean_concat inner closed).cons opened
    simpa [Expression.pieces, Piece.write] using all

/-- The left side ends with a blank. -/
theorem Term.staysClean_leftPieces (op : Operator) (t : Term) :
    StaysClean (write (t.leftPieces op)) := by
  have blank : IsBarrier ' ' := by decide
  cases t with
  | column name =>
    -- a name can end with a slash, so it is its blank that counts
    have named := staysClean_concat (isClean_namePieces name) blank
    rw [Term.leftPieces]
    cases op.family with
    | pattern => exact .nil
    | connective | comparison | membership | nullTest => simpa [Piece.write] using named
  | nested inner =>
    have side := staysClean_concat inner.staysClean_pieces.isClean blank
    rw [Term.leftPieces]
    simpa [Piece.write] using side
  | scalar | list =>
    rw [Term.leftPieces]
    exact .nil

/-- The right side may end with a name, so nothing is said of what follows it. -/
theorem Term.isClean_rightPieces (right : Term) (op : Operator) (left : Term) :
    IsClean (write (right.rightPieces op left)) := by
  unfold Term.rightPieces
  cases op.family with
  | nullTest => exact (staysClean_keyword op).isClean
  | pattern =>
    cases left with
    | column name =>
      cases right with
      | scalar value => exact (staysClean_patternPieces op name (isClean_written value)).isClean
      | column | list | nested => exact Sanitize.isClean_nil
    | scalar | list | nested => exact Sanitize.isClean_nil
  | connective | comparison | membership =>
    rw [Sql.write_append]
    -- a keyword has neither slash nor star, so only the operand behind it is looked at
    refine staysClean_keyword op _ ?_
    cases right with
    | column name => exact isClean_namePieces name
    | scalar value => exact (staysClean_literal (isClean_written value)).isClean
    | list items => exact (staysClean_listPieces items).isClean
    | nested inner => exact inner.staysClean_pieces.isClean

end

end SqlFilter
