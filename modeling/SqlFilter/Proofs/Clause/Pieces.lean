import SqlFilter.Clause.Shape
import SqlFilter.Proofs.Clause.Loop
import SqlFilter.Proofs.Sanitize.Literal
import SqlFilter.Proofs.Sql.Writing

/-!
# The pieces of a clause

`Expression.pieces` tells the clause of an expression as a list of pieces, code and literals, with
no text in between: it is defined by recursion on the expression, and asks neither for a limit of
depth nor whether the expression can be written. Two facts tie it to the clause.

* `Expression.plainClause_ok`: if there is a clause, it is these pieces, written.
* `Expression.readsBack_pieces`: these pieces are read back from what is written, wherever they
  stand.

Together, a reader of the clause finds exactly these pieces (`Expression.pieces?_of_toClause`), and
what is to be said about clauses can be said about lists of pieces.

A name is written without quotes around it, and a quote in it comes doubled, so that the reader
finds literals there too (`Clause.namePieces`). A clause never ends with a name nor has two literals
side by side: a blank, a comma or a parenthesis always follows. The proof that the pieces are read
back rests on this alone.
-/

namespace SqlFilter

open Sanitize (quote doubleQuotes)
open Sql (Piece codes write pieces? ReadsBack)

namespace Clause

/-! ### The pieces of names, lists and patterns -/

/-- The pieces of a name. -/
def namePieces (name : String) : List Piece := (pieces? (Sanitize.chars name.toList)).getD []

/-- The pieces of a list of values. -/
def listPieces (items : List Scalar) : List Piece :=
  .code '(' :: (items.map fun v => Piece.literal v.written).intersperse (.code ',') ++ [.code ')']

/-- **Along a list of values**: what every value has, and what stays when one more value is put in
front with a comma, all the values have together. -/
theorem forall_separated {p : List Piece → Prop} (none : p [])
    (one : ∀ v : Scalar, p [.literal v.written])
    (more : ∀ (v : Scalar) (ps : List Piece), p ps → p (.literal v.written :: .code ',' :: ps))
    (items : List Scalar) :
    p ((items.map fun v => Piece.literal v.written).intersperse (.code ',')) := by
  induction items with
  | nil => exact none
  -- the last value has no comma behind it
  | cons v items ih =>
    cases items with
    | nil => exact one v
    | cons w items => exact more v _ ih

/-- The pieces of one test of a name against a pattern. -/
def testPieces (keyword name : String) (pattern : List Char) : List Piece :=
  namePieces name ++ codes (' ' :: keyword.toList ++ [' ']) ++ [.literal pattern]

/-- The pieces of the three tests of a name against a text. -/
def patternPieces (keyword name : String) (text : List Char) : List Piece :=
  .code '(' :: testPieces keyword name (text ++ ['%']) ++ codes ['O', 'R', ' '] ++
    testPieces keyword name ('%' :: text ++ ['%']) ++ codes ['O', 'R', ' '] ++
    testPieces keyword name ('%' :: text) ++ [.code ')']

end Clause

open Clause

theorem Scalar.eq_text_of_kind {v : Scalar} (h : v.kind = .text) : ∃ text, v = .text text := by
  cases v with
  | text text => exact ⟨text, rfl⟩
  | int | float | bool | uuid | timestamp => simp [Scalar.kind] at h

theorem Expression.isWritable_unary {left : Term} {op : Operator} :
    (unary left op).isWritable ↔ left.fitsLeft op ∧ op.family = .nullTest := by
  rw [isWritable, Bool.and_eq_true, decide_eq_true_eq]

theorem Expression.isWritable_binary {left right : Term} {op : Operator} :
    (binary left op right).isWritable ↔ left.fitsLeft op ∧ right.fitsRight op := by
  rw [isWritable, Bool.and_eq_true]

mutual

/-- **The pieces of an expression's clause.** -/
def Expression.pieces : Expression → List Piece
  | .unary left op => .code '(' :: left.leftPieces op ++ codes op.keyword.toList ++ [.code ')']
  | .binary left op right =>
    .code '(' :: left.leftPieces op ++ right.rightPieces op left ++ [.code ')']

/-- The pieces of a left side. The pattern operators write the column themselves. -/
def Term.leftPieces (op : Operator) : Term → List Piece
  | .column name =>
    match op.family with
    | .pattern => []
    | _ => namePieces name ++ [.code ' ']
  | .nested inner => inner.pieces ++ [.code ' ']
  | .scalar _ | .list _ => []

/-- The pieces of an operator and its right side, with `left` on the left. -/
def Term.rightPieces (right : Term) (op : Operator) (left : Term) : List Piece :=
  match op.family with
  | .nullTest => codes op.keyword.toList
  | .pattern =>
    match left, right with
    | .column name, .scalar value => patternPieces op.keyword name value.written
    | _, _ => []
  | .connective | .comparison | .membership =>
    codes op.keyword.toList ++
      match right with
      | .column name => namePieces name
      | .scalar value => [.literal value.written]
      | .list items => listPieces items
      | .nested inner => inner.pieces

end

/-- The pieces of a term, whichever side it stands on. -/
def Term.pieces : Term → List Piece
  | .column name => namePieces name
  | .scalar value => [.literal value.written]
  | .list items => listPieces items
  | .nested inner => inner.pieces

theorem Term.rightPieces_of_nullTest {op : Operator} (h : op.family = .nullTest)
    (left right : Term) : right.rightPieces op left = codes op.keyword.toList := by
  unfold Term.rightPieces
  rw [h]

theorem Term.rightPieces_of_operand {op : Operator} (notTest : op.family ≠ .nullTest)
    (notPattern : op.family ≠ .pattern) (left right : Term) :
    right.rightPieces op left = codes op.keyword.toList ++ right.pieces := by
  unfold Term.rightPieces
  cases family : op.family with
  | nullTest => exact absurd family notTest
  | pattern => exact absurd family notPattern
  | connective | comparison | membership => cases right <;> rfl

/-! ### The clause is its pieces, written -/

namespace Clause

/-- A name is read as its pieces. -/
theorem pieces?_name (name : String) :
    pieces? (Sanitize.chars name.toList) = some (namePieces name) := by
  obtain ⟨ps, h⟩ := Sql.exists_pieces?_doubleQuotes (Sanitize.stripped name.toList)
  rw [namePieces, Sanitize.chars, h]
  rfl

/-- A name without quotes is all code, without what the sanitizer takes out. -/
theorem namePieces_of_notMem {name : String} (h : quote ∉ name.toList) :
    namePieces name = codes (Sanitize.stripped name.toList) := by
  -- what is stripped has no quote left, so no quote is doubled and none opens a literal
  have stripped : quote ∉ Sanitize.stripped name.toList := by
    intro mem
    exact h (Sanitize.mem_of_mem_stripped mem)
  rw [namePieces, Sanitize.chars, Sanitize.doubleQuotes_of_notMem stripped,
    Sql.pieces?_of_notMem stripped]
  rfl

theorem toList_name (name : String) : (sanitize name).toList = write (namePieces name) := by
  rw [toList_sanitize, Sql.write_of_pieces? (pieces?_name name)]

theorem toList_literal (value : Scalar) :
    (literal value).toList = write [.literal value.written] := by
  rw [literal, String.toList_append, String.toList_append, toList_literalText]
  simp [Piece.write, quote]

theorem toList_valueList (items : List Scalar) :
    (valueList items).toList = write (listPieces items) := by
  -- the separators of the text are the code between the pieces
  have inner : (",".intercalate (items.map literal)).toList
      = write ((items.map fun v => Piece.literal v.written).intersperse (.code ',')) := by
    induction items with
    | nil => rfl
    | cons v items ih =>
      cases items with
      | nil => simpa using toList_literal v
      | cons w items =>
        rw [List.map_cons, List.map_cons, String.intercalate_cons_cons, ← List.map_cons,
          String.toList_append, String.toList_append, ih, toList_literal]
        simp [Piece.write]
  rw [valueList, String.toList_append, String.toList_append, inner]
  simp [listPieces, Piece.write]

theorem write_testPieces (keyword name : String) (pattern : List Char) :
    write (testPieces keyword name pattern)
      = Sanitize.chars name.toList ++ ' ' :: keyword.toList ++ ' ' :: quote :: doubleQuotes pattern
        ++ [quote] := by
  simp [testPieces, Piece.write, ← toList_name]

theorem toList_patterns (keyword name text : String) :
    (patterns keyword name text).toList
      = write (patternPieces keyword name (Scalar.text text).written) := by
  have percent : ∀ cs, doubleQuotes ('%' :: cs) = '%' :: doubleQuotes cs :=
    Sanitize.doubleQuotes_cons_of_ne (by decide)
  have quoted : Sanitize.chars text.toList = doubleQuotes (Scalar.text text).written := rfl
  -- the texts between the parts, as they stand in the source
  have start : " '".toList = [' ', quote] := by decide
  have fromStart : " '%".toList = [' ', quote, '%'] := by decide
  have next : "%'OR ".toList = ['%', quote, 'O', 'R', ' '] := by decide
  have stop : "')".toList = [quote, ')'] := by decide
  unfold patterns
  simp only [String.toList_append, toList_sanitize, quoted, patternPieces, Sql.write_cons,
    Sql.write_append, Sql.write_codes, Sql.write_nil, Piece.write, write_testPieces,
    Sanitize.doubleQuotes_append, percent, start, fromStart, next, stop]
  simp

/-- No right side. -/
theorem withoutRight_ok {op : Operator} {s : String} (h : withoutRight op = .ok s) :
    op.family = .nullTest ∧ s = op.keyword := by
  unfold withoutRight at h
  split at h
  · next family => exact ⟨family, (Except.ok.inj h).symm⟩
  · simp at h

/-- A left side that nests nothing. -/
theorem flatLeft_ok {op : Operator} {left : Term} {s : String} (h : flatLeft op left = .ok s) :
    left.fitsLeft op ∧ s.toList = write (left.leftPieces op) := by
  cases left with
  | column name =>
    refine ⟨rfl, ?_⟩
    rw [flatLeft] at h
    rw [Term.leftPieces]
    cases family : op.family with
    -- the column is left to the right side, which writes it once for each test
    | pattern =>
      simp only [family, Except.ok.injEq] at h
      rw [← h]
      rfl
    | connective | comparison | membership | nullTest =>
      simp only [family, Except.ok.injEq] at h
      rw [← h, String.toList_append, toList_name, Sql.write_append]
      rfl
  | scalar | list | nested => simp [flatLeft] at h

/-- The right side of a pattern operator. -/
theorem patternRight_ok {op : Operator} {left right : Term} {s : String}
    (h : patternRight op left right = .ok s) :
    ∃ name text, left = .column name ∧ right = .scalar (.text text) ∧
      s = patterns op.keyword name text := by
  unfold patternRight at h
  cases right with
  | scalar value =>
    cases value with
    | text text =>
      cases left with
      | column name => exact ⟨name, text, rfl, rfl, (Except.ok.inj h).symm⟩
      | scalar | list | nested => simp [Scalar.asText?] at h
    | int | float | bool | uuid | timestamp => simp [Scalar.asText?] at h
  | column | list | nested => simp at h

/-- A right side that is not compiled as an expression. -/
theorem flatRight_ok {op : Operator} {left right : Term} {s : String}
    (h : flatRight op left right = .ok s) :
    right.fitsRight op ∧ s.toList = write (right.rightPieces op left) := by
  unfold flatRight at h
  unfold Term.fitsRight Term.rightPieces
  cases family : op.family with
  | connective | comparison =>
    -- the family decides on both sides of the goal, so it is put in before the terms are looked at
    simp only [family] at h ⊢
    cases right with
    | column name =>
      rw [← Except.ok.inj h, String.toList_append, toList_name]
      simp
    | scalar value =>
      rw [← Except.ok.inj h, String.toList_append, toList_literal]
      simp
    | list | nested => simp at h
  | membership =>
    simp only [family] at h ⊢
    cases right with
    | list items =>
      cases items with
      | nil => simp at h
      | cons v items =>
        rw [← Except.ok.inj h, String.toList_append, toList_valueList]
        simp
    | column | scalar | nested => simp at h
  | pattern =>
    simp only [family] at h ⊢
    obtain ⟨name, text, rfl, rfl, rfl⟩ := patternRight_ok h
    exact ⟨rfl, toList_patterns op.keyword name text⟩
  | nullTest =>
    -- the right term is not looked at, whatever it is
    simp only [family] at h ⊢
    rw [← Except.ok.inj h, Sql.write_codes]
    cases right <;> simp

end Clause

mutual

/-- **A clause is written by a writable expression, and consists of its pieces.** -/
theorem Expression.plainClause_ok {limit depth : Nat} {e : Expression} {s : String}
    (h : e.plainClause limit depth = .ok s) : e.isWritable ∧ s.toList = write e.pieces := by
  cases e with
  | unary left op =>
    rw [Expression.plainClause] at h
    -- the depth has been checked, and the check gives nothing
    obtain ⟨-, -, h⟩ := bind_eq_ok.mp h
    obtain ⟨leftText, hleft, h⟩ := bind_eq_ok.mp h
    obtain ⟨rightText, hright, h⟩ := bind_eq_ok.mp h
    obtain ⟨fits, written⟩ := Term.plainLeft_ok hleft
    obtain ⟨isTest, rfl⟩ := withoutRight_ok hright
    refine ⟨Expression.isWritable_unary.mpr ⟨fits, isTest⟩, ?_⟩
    rw [← Except.ok.inj h]
    simp [Expression.pieces, written, Piece.write]
  | binary left op right =>
    -- as above, with a right side that is written with the left term at hand
    rw [Expression.plainClause] at h
    obtain ⟨-, -, h⟩ := bind_eq_ok.mp h
    obtain ⟨leftText, hleft, h⟩ := bind_eq_ok.mp h
    obtain ⟨rightText, hright, h⟩ := bind_eq_ok.mp h
    obtain ⟨fitsLeft, leftWritten⟩ := Term.plainLeft_ok hleft
    obtain ⟨fitsRight, rightWritten⟩ := Term.plainRight_ok hright
    refine ⟨Expression.isWritable_binary.mpr ⟨fitsLeft, fitsRight⟩, ?_⟩
    rw [← Except.ok.inj h]
    simp [Expression.pieces, leftWritten, rightWritten, Piece.write]

/-- The left side of a clause consists of its pieces. -/
theorem Term.plainLeft_ok {limit depth : Nat} {op : Operator} {t : Term} {s : String}
    (h : t.plainLeft limit depth op = .ok s) :
    t.fitsLeft op ∧ s.toList = write (t.leftPieces op) := by
  cases t with
  | nested inner =>
    rw [Term.plainLeft] at h
    cases family : op.family with
    -- such a left side is refused
    | pattern => simp [family] at h
    | connective | comparison | membership | nullTest =>
      simp only [family] at h
      obtain ⟨clause, hclause, h⟩ := bind_eq_ok.mp h
      obtain ⟨writable, written⟩ := Expression.plainClause_ok hclause
      refine ⟨by simp [Term.fitsLeft, family, writable], ?_⟩
      rw [← Except.ok.inj h]
      simp [Term.leftPieces, written, Piece.write]
  | column | scalar | list =>
    rw [Term.plainLeft] at h
    · exact flatLeft_ok h
    · simp

/-- The operator and the right side of a clause consist of their pieces. -/
theorem Term.plainRight_ok {limit depth : Nat} {op : Operator} {left right : Term} {s : String}
    (h : Term.plainRight limit depth op left right = .ok s) :
    right.fitsRight op ∧ s.toList = write (right.rightPieces op left) := by
  cases right with
  | nested inner =>
    rw [Term.plainRight] at h
    cases family : op.family with
    | connective | comparison | membership =>
      simp only [family] at h
      obtain ⟨clause, hclause, h⟩ := bind_eq_ok.mp h
      obtain ⟨writable, written⟩ := Expression.plainClause_ok hclause
      refine ⟨by simp [Term.fitsRight, family, writable], ?_⟩
      rw [← Except.ok.inj h]
      simp [Term.rightPieces, family, written]
    -- neither is compiled as an expression: one is refused, the other is not looked at
    | pattern | nullTest =>
      simp only [family] at h
      exact flatRight_ok h
  | column | scalar | list =>
    rw [Term.plainRight] at h
    · exact flatRight_ok h
    · simp

end

/-! ### The pieces are read back -/

namespace Clause

theorem readsBack_keyword (op : Operator) : ReadsBack (codes op.keyword.toList) :=
  Sql.readsBack_codes (by cases op <;> decide)

theorem pieces?_namePieces (name : String) :
    pieces? (write (namePieces name)) = some (namePieces name) :=
  Sql.pieces?_write_of_pieces? (pieces?_name name)

theorem readsBack_listPieces (items : List Scalar) : ReadsBack (listPieces items) := by
  -- the opening parenthesis is no quote, and the closing one ends the last literal
  refine .cons (by decide) (Sql.readsBack_concat ?_ (by decide))
  refine forall_separated (p := fun ps => pieces? (write ps) = some ps) rfl ?_ ?_ items
  · intro v
    exact Sql.pieces?_write_literal v.written
  · intro v ps rest
    have first := Sql.readsBack_concat (Sql.pieces?_write_literal v.written)
      (show ',' ≠ quote by decide)
    exact first.pieces?_append rest

/-- Behind the name stands a blank, so that no quote in it meets the quote of the literal. -/
theorem pieces?_testPieces (op : Operator) (name : String) (pattern : List Char) :
    pieces? (write (testPieces op.keyword name pattern))
      = some (testPieces op.keyword name pattern) := by
  -- the name and the keyword, up to the blank before the literal
  have front : ReadsBack (namePieces name ++ codes (' ' :: op.keyword.toList ++ [' '])) := by
    refine Sql.readsBack_append_cons (pieces?_namePieces name) (by decide) ?_
    exact Sql.readsBack_codes (by cases op <;> decide)
  exact front.pieces?_append (Sql.pieces?_write_literal pattern)

theorem readsBack_patternPieces (op : Operator) (name : String) (text : List Char) :
    ReadsBack (patternPieces op.keyword name text) := by
  -- the rest of each test, up to the blank behind `OR`
  have next : ReadsBack (codes ['R', ' ']) := Sql.readsBack_codes (by decide)
  have test : ∀ pattern, ReadsBack (testPieces op.keyword name pattern ++ codes ['O', 'R', ' ']) :=
    fun pattern => Sql.readsBack_append_cons (pieces?_testPieces op name pattern) (by decide) next
  have last : ReadsBack (testPieces op.keyword name ('%' :: text) ++ [.code ')']) :=
    Sql.readsBack_concat (pieces?_testPieces op name ('%' :: text)) (by decide)
  have all := ((test (text ++ ['%'])).append (test ('%' :: text ++ ['%']))).append last
  simpa [patternPieces] using all.cons (show '(' ≠ quote by decide)

end Clause

mutual

/-- **The pieces of a clause are read back**, and its last parenthesis tells their end. -/
theorem Expression.readsBack_pieces (e : Expression) : ReadsBack e.pieces := by
  cases e with
  | unary left op =>
    -- a keyword has no quote, so it can be followed by anything
    have inner := left.readsBack_leftPieces op |>.append (readsBack_keyword op)
    rw [Expression.pieces, List.cons_append]
    exact .cons (by decide) (Sql.readsBack_concat inner.pieces? (by decide))
  | binary left op right =>
    have inner := left.readsBack_leftPieces op |>.pieces?_append (right.pieces?_rightPieces op left)
    rw [Expression.pieces, List.cons_append]
    exact .cons (by decide) (Sql.readsBack_concat inner (by decide))

/-- The left side ends with a blank. -/
theorem Term.readsBack_leftPieces (op : Operator) (t : Term) : ReadsBack (t.leftPieces op) := by
  cases t with
  | column name =>
    -- a quote at the end of the name is ended by the blank
    have blank := Sql.readsBack_concat (pieces?_namePieces name) (show ' ' ≠ quote by decide)
    rw [Term.leftPieces]
    cases op.family with
    | pattern => exact .nil
    | connective | comparison | membership | nullTest => exact blank
  | nested inner =>
    rw [Term.leftPieces]
    exact Sql.readsBack_concat inner.readsBack_pieces.pieces? (by decide)
  | scalar | list =>
    rw [Term.leftPieces]
    exact .nil

/-- The right side may end with a literal or a name, and then the parenthesis behind it counts. -/
theorem Term.pieces?_rightPieces (right : Term) (op : Operator) (left : Term) :
    pieces? (write (right.rightPieces op left)) = some (right.rightPieces op left) := by
  unfold Term.rightPieces
  cases op.family with
  | nullTest => exact (readsBack_keyword op).pieces?
  | pattern =>
    cases left with
    | column name =>
      cases right with
      | scalar value => exact (readsBack_patternPieces op name value.written).pieces?
      | column | list | nested => rfl
    | scalar | list | nested => rfl
  | connective | comparison | membership =>
    refine (readsBack_keyword op).pieces?_append ?_
    cases right with
    | column name => exact pieces?_namePieces name
    | scalar value => exact Sql.pieces?_write_literal value.written
    | list items => exact (readsBack_listPieces items).pieces?
    | nested inner => exact inner.readsBack_pieces.pieces?

end

/-! ### The clause as a reader finds it -/

theorem Expression.toClause_ok {limit : Nat} {e : Expression} {s : String}
    (h : e.toClause limit = .ok s) : e.isWritable ∧ s.toList = write e.pieces := by
  rw [e.toClause_eq_plainClause] at h
  exact Expression.plainClause_ok h

/-- **A reader of the clause finds its pieces.** -/
theorem Expression.pieces?_of_toClause {limit : Nat} {e : Expression} {s : String}
    (h : e.toClause limit = .ok s) : pieces? s.toList = some e.pieces := by
  rw [(Expression.toClause_ok h).2]
  exact e.readsBack_pieces.pieces?

end SqlFilter
