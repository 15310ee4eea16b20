import SqlFilter.Clause.Normal
import SqlFilter.Select

/-!
# What statements come from, and what they tell

A statement stands between the steps that build it and the text that is written of it.

* **By its history** (`Select.ofHistory`), it is read off the series of steps as a whole: each part
  is that of the last step on it, and the filter is the chain of the conditions added since the last
  `filter` step, the latest first, with that step's filter at its end.
* **By its text**, all of it is known but what the clause does not tell of the filter. So its
  **normal form** (`Select.normal`) is the statement with its filter in normal form.
-/

namespace SqlFilter

namespace Select

/-- The parts of a statement that steps are on. -/
inductive Part where
  | columns
  | filter
  | order
  | limit
  | offset
deriving DecidableEq

namespace Step

/-- The part that a step is on. A condition is added to the filter. -/
def part : Step → Part
  | .columns _ => .columns
  | .filter _ | .andFilter _ => .filter
  | .orderBy _ _ => .order
  | .limit _ => .limit
  | .offset _ => .offset

/-- The columns that a step selects. -/
def columns? : Step → Option (List String)
  | .columns names => some names
  | _ => none

/-- The filter that a step sets. -/
def filter? : Step → Option Expression
  | .filter e => some e
  | _ => none

/-- The condition that a step adds. -/
def condition? : Step → Option Expression
  | .andFilter condition => some condition
  | _ => none

/-- The order that a step asks for. -/
def order? : Step → Option (String × SortOrder)
  | .orderBy column order => some (column, order)
  | _ => none

/-- The limit that a step sets. -/
def limit? : Step → Option Nat
  | .limit rows => some rows
  | _ => none

/-- The offset that a step sets. -/
def offset? : Step → Option Nat
  | .offset rows => some rows
  | _ => none

end Step

/-- The argument of the last step that has one of this sort. -/
def last? {α : Type} (argument? : Step → Option α) (steps : List Step) : Option α :=
  steps.reverse.findSome? argument?

/-- The conditions added since the last step that set a filter, the latest first. -/
def conditions (steps : List Step) : List Expression :=
  (steps.reverse.takeWhile fun step => step.filter?.isNone).filterMap Step.condition?

/-- The filter that the steps lead to. -/
def filterOf (steps : List Step) : Option Expression :=
  Expression.fold (conditions steps ++ (last? Step.filter? steps).toList) .and

/-- **The statement with the given history.** -/
def ofHistory (table : String) (steps : List Step) : Select where
  table := table
  columns := (last? Step.columns? steps).getD []
  filter := filterOf steps
  orderBy := last? Step.order? steps
  limit := last? Step.limit? steps
  offset := last? Step.offset? steps

/-! ### The text -/

/-- The normal form of a statement. -/
def normal (s : Select) : Select := { s with filter := s.filter.map Expression.normal }

/-- The names that a statement's text holds outside literals. -/
def names (s : Select) : List String :=
  s.table :: s.columns ++ (s.orderBy.map Prod.fst).toList ++
    (s.filter.map Expression.columns).getD []

end Select

/-- A name that the sanitizer leaves alone and that a reader can tell from what stands around it:
ASCII letters, digits, underscores and points, at least one of them. -/
def IsPlainName (name : String) : Prop :=
  name ≠ "" ∧ ∀ c ∈ name.toList, c.isAlphanum ∨ c = '_' ∨ c = '.'

end SqlFilter
