/-!
# Operators

The fourteen operators that join the two terms of an expression, the two joiners of boolean chains,
and the two directions of sorting. Each is known in documents by its name.
-/

namespace SqlFilter

/-- What joins the left and the right term of an expression. -/
inductive Operator where
  | and
  | or
  | equals
  | notEquals
  | isIn
  | notIn
  | contains
  | containsNot
  | greaterThan
  | greaterThanOrEqualTo
  | lessThan
  | lessThanOrEqualTo
  | isNull
  | isNotNull
deriving DecidableEq, Repr, Inhabited

namespace Operator

/-- All operators, in their order. -/
def all : List Operator :=
  [.and, .or, .equals, .notEquals, .isIn, .notIn, .contains, .containsNot, .greaterThan,
    .greaterThanOrEqualTo, .lessThan, .lessThanOrEqualTo, .isNull, .isNotNull]

theorem mem_all (op : Operator) : op ∈ all := by cases op <;> decide

/-- The name of an operator in documents and messages. -/
def name : Operator → String
  | .and => "And"
  | .or => "Or"
  | .equals => "Equals"
  | .notEquals => "NotEquals"
  | .isIn => "In"
  | .notIn => "NotIn"
  | .contains => "Contains"
  | .containsNot => "ContainsNot"
  | .greaterThan => "GreaterThan"
  | .greaterThanOrEqualTo => "GreaterThanOrEqualTo"
  | .lessThan => "LessThan"
  | .lessThanOrEqualTo => "LessThanOrEqualTo"
  | .isNull => "IsNull"
  | .isNotNull => "IsNotNull"

theorem name_injective {a b : Operator} (h : a.name = b.name) : a = b := by
  revert h
  cases a <;> cases b <;> decide

/-- The operator of the given name. -/
def ofName? (name : String) : Option Operator := all.find? fun op => op.name = name

theorem name_of_ofName? {name : String} {op : Operator} (h : ofName? name = some op) :
    op.name = name := by
  simpa using List.find?_some h

/-- **Every operator is found by its name**, since each has a name of its own. -/
@[simp] theorem ofName?_name (op : Operator) : ofName? op.name = some op := by
  have named : (ofName? op.name).isSome := List.find?_isSome.mpr ⟨op, mem_all op, by simp⟩
  obtain ⟨other, found⟩ := Option.isSome_iff_exists.mp named
  have same := name_injective (name_of_ofName? found)
  rw [found, same]

/-- The place of an operator in the order of all. -/
def index (op : Operator) : Nat := all.idxOf op

/-- How an operator takes its right term. -/
inductive Family where
  /-- `AND` and `OR`. -/
  | connective
  /-- The six comparisons of values. -/
  | comparison
  /-- `IN` and `NOT IN`. -/
  | membership
  /-- The three-way `LIKE` and its negated form. -/
  | pattern
  /-- The tests for `NULL`, which have no right side. -/
  | nullTest
deriving DecidableEq, Repr

/-- The family of an operator. -/
def family : Operator → Family
  | .and | .or => .connective
  | .equals | .notEquals => .comparison
  | .greaterThan | .greaterThanOrEqualTo | .lessThan | .lessThanOrEqualTo => .comparison
  | .isIn | .notIn => .membership
  | .contains | .containsNot => .pattern
  | .isNull | .isNotNull => .nullTest

/-- Connectives and comparisons, which are written alike. -/
def isComparison (op : Operator) : Bool :=
  match op.family with
  | .connective | .comparison => true
  | _ => false

/-- The keyword of an operator in a clause, with the blanks it brings along. The patterns bring
none. -/
def keyword : Operator → String
  | .and => "AND "
  | .or => "OR "
  | .equals => "= "
  | .notEquals => "<> "
  | .greaterThan => "> "
  | .greaterThanOrEqualTo => ">= "
  | .lessThan => "< "
  | .lessThanOrEqualTo => "<= "
  | .isIn => " IN "
  | .notIn => " NOT IN "
  | .contains => "LIKE"
  | .containsNot => "NOT LIKE"
  | .isNull => " IS NULL"
  | .isNotNull => " IS NOT NULL"

end Operator

/-- The connective of a chain of expressions. -/
inductive Joiner where
  | and
  | or
deriving DecidableEq, Repr, Inhabited

namespace Joiner

/-- Chains are conjunctions unless told otherwise. -/
def standard : Joiner := .and

def all : List Joiner := [.and, .or]

/-- The operator that joins the links of a chain. -/
def operator : Joiner → Operator
  | .and => .and
  | .or => .or

/-- The name of a joiner in documents. -/
def name (j : Joiner) : String := j.operator.name

/-- The joiner of the given name. -/
def ofName? (name : String) : Option Joiner := all.find? fun j => j.name = name

/-- The key under which a document lists the links of a chain. -/
def groupKey : Joiner → String
  | .and => "all"
  | .or => "any"

end Joiner

/-- The direction of sorting. -/
inductive SortOrder where
  | ascending
  | descending
deriving DecidableEq, Repr, Inhabited

namespace SortOrder

/-- Sorting goes upward unless told otherwise. -/
def standard : SortOrder := .ascending

def all : List SortOrder := [.ascending, .descending]

/-- The name of a direction in documents. -/
def name : SortOrder → String
  | .ascending => "Asc"
  | .descending => "Desc"

/-- The direction of the given name. -/
def ofName? (name : String) : Option SortOrder := all.find? fun o => o.name = name

/-- The keyword of a direction in a statement. -/
def keyword : SortOrder → String
  | .ascending => "ASC"
  | .descending => "DESC"

end SortOrder

end SqlFilter
