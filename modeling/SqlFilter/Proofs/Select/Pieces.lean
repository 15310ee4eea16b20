import SqlFilter.Proofs.Clause.Pieces
import SqlFilter.Select

/-!
# The pieces of a statement

A statement is told as pieces like a clause is (`Expression.pieces`): names, keywords and numbers,
with the pieces of the filter between them. If a statement has a text, it is these pieces, written
(`Select.toSql_ok`).

The parts behind the table may be missing. Each of them begins with a blank, which ends the name
before it.
-/

namespace SqlFilter

open Clause (namePieces)
open Sql (Piece codes write)

namespace Select

/-- The pieces of the selected columns. -/
def columnPieces : List String → List Piece
  | [] => codes ['*']
  | [name] => namePieces name
  | name :: names => namePieces name ++ codes [',', ' '] ++ columnPieces names

/-- The pieces of the `WHERE` part. -/
def filterPieces : Option Expression → List Piece
  | none => []
  | some e => codes " WHERE ".toList ++ e.pieces

/-- The pieces of the `ORDER BY` part. -/
def orderPieces : Option (String × SortOrder) → List Piece
  | none => []
  | some (column, order) =>
    codes " ORDER BY ".toList ++ namePieces column ++ codes (' ' :: order.keyword.toList)

/-- The pieces of a part that counts rows, behind its keyword. -/
def countPieces (keyword : String) : Option Nat → List Piece
  | none => []
  | some rows => codes keyword.toList ++ codes (Nat.toDigits 10 rows)

/-- **The pieces of a statement.** -/
def pieces (s : Select) : List Piece :=
  codes "SELECT ".toList ++ columnPieces s.columns ++ codes " FROM ".toList ++
    namePieces s.table ++ filterPieces s.filter ++ orderPieces s.orderBy ++
    countPieces " LIMIT " s.limit ++ countPieces " OFFSET " s.offset

/-- The pieces of the statement that counts rows. -/
def countSqlPieces (table : String) (filter : Option Expression) : List Piece :=
  codes "SELECT count(*) FROM ".toList ++ namePieces table ++ filterPieces filter

/-! ### The text is its pieces, written -/

theorem toList_columnsText (s : Select) :
    s.columnsText.toList = write (columnPieces s.columns) := by
  -- no columns are written as a star, so the induction starts with the first name
  have joined : ∀ name names, (", ".intercalate ((name :: names).map sanitize)).toList
      = write (columnPieces (name :: names)) := by
    intro name names
    induction names generalizing name with
    | nil => simpa [columnPieces] using Clause.toList_name name
    | cons next names ih =>
      have first := Clause.toList_name name
      have rest := ih next
      simp only [List.map_cons] at rest ⊢
      rw [String.intercalate_cons_cons, String.toList_append, String.toList_append, first, rest]
      simp [columnPieces]
  unfold columnsText
  cases s.columns with
  | nil => rfl
  | cons name names => exact joined name names

/-- The `WHERE` part, if the filter has a clause. -/
theorem whereText_ok {limit : Nat} {filter : Option Expression} {s : String}
    (h : whereText limit filter = .ok s) : s.toList = write (filterPieces filter) := by
  cases filter with
  | none =>
    cases h
    rfl
  | some e =>
    rw [whereText] at h
    obtain ⟨clause, hclause, h⟩ := bind_eq_ok.mp h
    -- there is a text, so the filter has a clause, and its pieces are known
    rw [← Except.ok.inj h, String.toList_append, (Expression.toClause_ok hclause).2]
    simp [filterPieces]

theorem toList_orderText (s : Select) : s.orderText.toList = write (orderPieces s.orderBy) := by
  unfold orderText
  cases s.orderBy with
  | none => rfl
  | some order =>
    simp [orderPieces, ← Clause.toList_name]

theorem toList_limitText (s : Select) :
    s.limitText.toList = write (countPieces " LIMIT " s.limit) := by
  unfold limitText
  cases s.limit with
  | none => rfl
  | some rows => simp [countPieces]

theorem toList_offsetText (s : Select) :
    s.offsetText.toList = write (countPieces " OFFSET " s.offset) := by
  unfold offsetText
  cases s.offset with
  | none => rfl
  | some rows => simp [countPieces]

/-- **A statement's text consists of its pieces.** -/
theorem toSql_ok {limit : Nat} {s : Select} {text : String} (h : s.toSql limit = .ok text) :
    text.toList = write s.pieces := by
  rw [toSql] at h
  obtain ⟨filter, hfilter, h⟩ := bind_eq_ok.mp h
  -- the parts are written one behind the other, and so are their pieces
  rw [← Except.ok.inj h]
  simp only [String.toList_append, toList_columnsText, whereText_ok hfilter, toList_orderText,
    toList_limitText, toList_offsetText, Clause.toList_name, pieces, Sql.write_append,
    Sql.write_codes]

/-- The text that counts rows consists of its pieces. -/
theorem countSql_ok {table : String} {filter : Option Expression} {text : String}
    (h : countSql table filter = .ok text) : text.toList = write (countSqlPieces table filter) := by
  rw [countSql] at h
  obtain ⟨clause, hclause, h⟩ := bind_eq_ok.mp h
  rw [← Except.ok.inj h]
  simp only [String.toList_append, whereText_ok hclause, Clause.toList_name, countSqlPieces,
    Sql.write_append, Sql.write_codes]

end Select

end SqlFilter
