import SqlFilter.Json.Basic
import SqlFilter.Decimal.Layout
import SqlFilter.Text.Basic

/-!
# Writing JSON

The compact form: no blanks, fields in their order. Each function writes in front of the text that
follows, `tail`, so a value of any size is written in one sweep.
-/

namespace SqlFilter

namespace Json

/-- A hexadecimal digit in lower case. -/
def hexChar (n : Nat) : Char := Nat.digitChar (n % 16)

/-- A character of a string: quotes, backslashes and the characters below the space are escaped,
the latter by a letter if there is one. -/
def escapeChar (c : Char) : List Char :=
  if c = '"' then ['\\', '"']
  else if c = '\\' then ['\\', '\\']
  else if c = '\x08' then ['\\', 'b']
  else if c = '\x0c' then ['\\', 'f']
  else if c = '\n' then ['\\', 'n']
  else if c = '\r' then ['\\', 'r']
  else if c = '\t' then ['\\', 't']
  else if c.toNat < 0x20 then ['\\', 'u', '0', '0', hexChar (c.toNat / 16), hexChar c.toNat]
  else [c]

/-- A string, in quotes. -/
def writeString (s : String) (tail : List Char) : List Char :=
  '"' :: s.toList.foldr (fun c rest => escapeChar c ++ rest) ('"' :: tail)

/-- How floating-point numbers are written: in full from 0.00001 up to sixteen digits before the
point and then with at least one fraction digit, and otherwise with an exponent; a tie goes to the
even digit. -/
def floatLayout : Decimal.Layout where
  tie := .toEven
  positional := some (-5, 15)
  keepFraction := true

/-- A number; what is not finite has no number and is written as `null`. -/
def floatText (x : Float) : List Char :=
  (floatLayout.text? x).getD ['n', 'u', 'l', 'l']

mutual

/-- A value in front of the text that follows. -/
def write : Json → List Char → List Char
  | .null, tail => 'n' :: 'u' :: 'l' :: 'l' :: tail
  | .bool true, tail => 't' :: 'r' :: 'u' :: 'e' :: tail
  | .bool false, tail => 'f' :: 'a' :: 'l' :: 's' :: 'e' :: tail
  | .int n, tail => Digits.integer n ++ tail
  | .float x, tail => floatText x ++ tail
  | .text s, tail => writeString s tail
  | .list [], tail => '[' :: ']' :: tail
  | .list (item :: items), tail => '[' :: write item (writeItems items (']' :: tail))
  | .object [], tail => '\x7b' :: '\x7d' :: tail
  | .object ((name, value) :: fields), tail =>
    '\x7b' :: writeString name (':' :: write value (writeFields fields ('\x7d' :: tail)))

/-- The items after the first, a comma before each. -/
def writeItems : List Json → List Char → List Char
  | [], tail => tail
  | item :: items, tail => ',' :: write item (writeItems items tail)

/-- The fields after the first, a comma before each. -/
def writeFields : List (String × Json) → List Char → List Char
  | [], tail => tail
  | (name, value) :: fields, tail =>
    ',' :: writeString name (':' :: write value (writeFields fields tail))

end

/-- **The text of a value.** -/
def toText (value : Json) : String := String.ofList (write value [])

end Json

end SqlFilter
