import SqlFilter.Expression.Basic
import SqlFilter.Terminal.Style

/-!
# Outlines of expressions

An outline shows an expression as an indented tree: its operator, and one level deeper its terms.
-/

namespace SqlFilter

open Terminal (paint)

namespace Outline

/-- The indentation of a level. -/
def indent (level : Nat) : String := String.ofList (List.replicate (2 * level) ' ')

/-- A line of a term: what it is, and its text. -/
def line (colored : Bool) (level : Nat) (label : String) (style : Terminal.Style)
    (text : String) : String :=
  indent level ++ paint colored .dimmed label ++ " " ++ paint colored style text ++ "\n"

end Outline

mutual

/-- The lines of an expression at a level, behind `text`. -/
def Expression.writeOutline (colored : Bool) (level : Nat) (text : String) : Expression → String
  | .binary left op right =>
    let head := text ++ (Outline.indent level ++ (paint colored .cyan op.name ++ "\n"))
    right.writeOutline colored (level + 1) (left.writeOutline colored (level + 1) head)
  | .unary left op =>
    let head := text ++ (Outline.indent level ++ (paint colored .cyan op.name ++ "\n"))
    left.writeOutline colored (level + 1) head

/-- The lines of a term at a level, behind `text`. -/
def Term.writeOutline (colored : Bool) (level : Nat) (text : String) : Term → String
  | .column name => text ++ Outline.line colored level "column" .white name
  | .scalar value => text ++ Outline.line colored level value.kind.name .yellow value.display
  | .list items => text ++ Outline.line colored level "list" .yellow (Term.list items).display
  | .nested inner => inner.writeOutline colored level text

end

/-- **The outline** of an expression. -/
def Expression.outline (colored : Bool) (e : Expression) : String :=
  e.writeOutline colored 1 ""

end SqlFilter
