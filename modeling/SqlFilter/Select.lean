import SqlFilter.Clause.Compile
import SqlFilter.Expression.Build

/-!
# SELECT statements

A statement is put together step by step: `Select.apply` takes one step, and the last step on a part
decides it, except that `andFilter` puts a condition in front of the filter there is.
`Select.toSql` writes the statement. Every name passes the sanitizer.
-/

namespace SqlFilter

/-- A statement under construction. -/
structure Select where
  table : String
  /-- The selected columns; all if there are none. -/
  columns : List String
  filter : Option Expression
  orderBy : Option (String × SortOrder)
  limit : Option Nat
  offset : Option Nat

namespace Select

/-- All columns and rows of a table. -/
def ofTable (table : String) : Select := ⟨table, [], none, none, none, none⟩

/-- One step of building a statement. -/
inductive Step where
  | columns (names : List String)
  | filter (e : Expression)
  | andFilter (condition : Expression)
  | orderBy (column : String) (order : SortOrder)
  | limit (rows : Nat)
  | offset (rows : Nat)

/-- The statement after a step. -/
def apply (s : Select) : Step → Select
  | .columns names => { s with columns := names }
  | .filter e => { s with filter := some e }
  | .andFilter condition =>
    { s with filter := some (match s.filter with
      | some e => e.prepend .and condition
      | none => condition) }
  | .orderBy column order => { s with orderBy := some (column, order) }
  | .limit rows => { s with limit := some rows }
  | .offset rows => { s with offset := some rows }

/-- The statement after several steps. -/
def applyAll (s : Select) (steps : List Step) : Select := steps.foldl apply s

/-- The columns of a statement. -/
def columnsText (s : Select) : String :=
  match s.columns with
  | [] => "*"
  | names => ", ".intercalate (names.map sanitize)

/-- The `WHERE` part, which is missing without a filter. -/
def whereText (limit : Nat) : Option Expression → Except ClauseError String
  | none => .ok ""
  | some e => do
    let clause ← e.toClause limit
    .ok (" WHERE " ++ clause)

/-- The `ORDER BY` part. -/
def orderText (s : Select) : String :=
  match s.orderBy with
  | none => ""
  | some (column, order) => " ORDER BY " ++ sanitize column ++ " " ++ order.keyword

/-- The `LIMIT` part. -/
def limitText (s : Select) : String :=
  match s.limit with
  | none => ""
  | some rows => " LIMIT " ++ toString rows

/-- The `OFFSET` part. -/
def offsetText (s : Select) : String :=
  match s.offset with
  | none => ""
  | some rows => " OFFSET " ++ toString rows

/-- **The text of a statement.** It fails as its filter does, with expressions nested `depthLimit`
deep at most. -/
def toSql (depthLimit : Nat) (s : Select) : Except ClauseError String := do
  let clause ← whereText depthLimit s.filter
  .ok ("SELECT " ++ s.columnsText ++ " FROM " ++ sanitize s.table ++ clause ++ s.orderText ++
    s.limitText ++ s.offsetText)

/-- The statement that counts the rows of a table that pass a filter. -/
def countSql (table : String) (filter : Option Expression) : Except ClauseError String := do
  let clause ← whereText defaultDepthLimit filter
  .ok ("SELECT count(*) FROM " ++ sanitize table ++ clause)

end Select

end SqlFilter
