import SqlFilter.Expression.Json

/-!
# The nesting of JSON values

A reader of JSON text counts the lists and objects that are open at a time. `Json.nesting` is the
greatest count that a value reaches, and `Expression.nesting` that of an expression's JSON form,
told from the expression.
-/

namespace SqlFilter

mutual

/-- The most lists and objects that are open at a time. -/
def Json.nesting : Json → Nat
  | .list items => 1 + Json.listNesting items
  | .object fields => 1 + Json.fieldNesting fields
  | _ => 0

/-- The nesting of the deepest item. -/
def Json.listNesting : List Json → Nat
  | [] => 0
  | item :: items => max item.nesting (Json.listNesting items)

/-- The nesting of the deepest field. -/
def Json.fieldNesting : List (String × Json) → Nat
  | [] => 0
  | (_, value) :: fields => max value.nesting (Json.fieldNesting fields)

end

mutual

/-- The nesting of a term's JSON form. -/
def Term.nesting : Term → Nat
  | .column _ => 1
  | .scalar _ => 2
  | .list [] => 2
  | .list (_ :: _) => 3
  | .nested inner => 1 + inner.nesting

/-- **The nesting of an expression's JSON form.** -/
def Expression.nesting : Expression → Nat
  | .unary left _ => 1 + left.nesting
  | .binary left _ right => 1 + max left.nesting right.nesting

end

end SqlFilter
