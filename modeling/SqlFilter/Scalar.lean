import SqlFilter.Calendar.Text
import SqlFilter.Decimal.Layout
import SqlFilter.Uuid

/-!
# Scalars

A scalar is a value that a column is compared with. It has a kind, and a display text, which is
what a clause holds between its quotes.
-/

namespace SqlFilter

/-- A value of one of six kinds. Integers are those of 64 bits. -/
inductive Scalar where
  | text (value : String)
  | int (value : Int64)
  | float (value : Float)
  | bool (value : Bool)
  | uuid (value : Uuid)
  | timestamp (value : Timestamp)

namespace Scalar

/-- The kinds of scalars. -/
inductive Kind where
  | text
  | integer
  | float
  | boolean
  | uuid
  | timestamp
deriving DecidableEq, Repr

/-- The name of a kind. -/
def Kind.name : Kind → String
  | .text => "text"
  | .integer => "integer"
  | .float => "float"
  | .boolean => "boolean"
  | .uuid => "uuid"
  | .timestamp => "timestamp"

/-- The kind of a scalar. -/
def kind : Scalar → Kind
  | .text _ => .text
  | .int _ => .integer
  | .float _ => .float
  | .bool _ => .boolean
  | .uuid _ => .uuid
  | .timestamp _ => .timestamp

/-- The string of a text; nothing for the other kinds. -/
def asText? : Scalar → Option String
  | .text s => some s
  | _ => none

/-- Equality of values. Floating-point numbers are compared as numbers: a NaN differs from itself,
and the two zeros are equal. -/
def beq : Scalar → Scalar → Bool
  | .text a, .text b => a == b
  | .int a, .int b => a == b
  | .float a, .float b => a == b
  | .bool a, .bool b => a == b
  | .uuid a, .uuid b => a == b
  | .timestamp a, .timestamp b => a == b
  | _, _ => false

instance : BEq Scalar := ⟨beq⟩

/-- How floating-point numbers are displayed: always written out in full, a whole number without a
fraction; a tie goes up. -/
def floatLayout : Decimal.Layout where
  tie := .up
  positional := none
  keepFraction := false

/-- A floating-point number as it is displayed. A NaN has no sign. -/
def floatText (x : Float) : List Char :=
  match Binary64.ofFloat x with
  | .nan => ['N', 'a', 'N']
  | .infinite true => ['-', 'i', 'n', 'f']
  | .infinite false => ['i', 'n', 'f']
  | .finite .. => (floatLayout.text? x).getD []

/-- **The display text** of a scalar, as characters. -/
def displayChars : Scalar → List Char
  | .text s => s.toList
  | .int n => Digits.integer n.toInt
  | .float x => floatText x
  | .bool true => ['t', 'r', 'u', 'e']
  | .bool false => ['f', 'a', 'l', 's', 'e']
  | .uuid u => u.toList
  | .timestamp t => t.databaseText

/-- The display text of a scalar. -/
def display (value : Scalar) : String := String.ofList value.displayChars

@[simp] theorem toList_display (value : Scalar) : value.display.toList = value.displayChars := by
  simp [display]

end Scalar

end SqlFilter
