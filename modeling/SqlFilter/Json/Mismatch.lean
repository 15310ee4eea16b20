import SqlFilter.Calendar.Reader
import SqlFilter.Json.Printer
import SqlFilter.Text.Hidden
import SqlFilter.Uuid

/-!
# Why a JSON value has not the expected shape

A value that is decoded as something else than it is gives a `Mismatch`: what was found and what was
wanted in its place, or which name, field or length is wrong. A mismatch has no position in the
text.
-/

namespace SqlFilter

namespace Json

/-- What a decoder wants. -/
inductive Wanted where
  | expression
  /-- One of several names, alone or with a payload. -/
  | choice
  | text
  | integer
  | float
  | boolean
  | list
  | uuid
  | timestamp
  /-- No payload. -/
  | nothing
  /-- A payload. -/
  | payload
  /-- An object of exactly one field. -/
  | singleField
deriving DecidableEq, Repr

/-- The wording of what is wanted. -/
def Wanted.name : Wanted → String
  | .expression => "struct Expression"
  | .choice => "string or map"
  | .text => "a string"
  | .integer => "i64"
  | .float => "f64"
  | .boolean => "a boolean"
  | .list => "a sequence"
  | .uuid => "a formatted UUID string"
  | .timestamp => "a formatted date and time string"
  | .nothing => "unit"
  | .payload => "newtype variant"
  | .singleField => "map with a single key"

/-- What a decoder has found. -/
inductive Seen where
  | null
  | bool (value : Bool)
  | int (value : Int)
  | float (value : Float)
  | text (value : String)
  | list
  | object
  /-- A name without a payload. -/
  | bareName

/-- The wording of what is found. -/
def Seen.name : Seen → String
  | .null => "null"
  | .bool true => "boolean \x60true\x60"
  | .bool false => "boolean \x60false\x60"
  | .int n => "integer \x60" ++ toString n ++ "\x60"
  | .float x => "floating point \x60" ++ String.ofList (floatText x) ++ "\x60"
  | .text s => "string " ++ String.ofList (Quoted.encode s.toList)
  | .list => "sequence"
  | .object => "map"
  | .bareName => "unit variant"

/-- What a decoder finds in a value. -/
def seen : Json → Seen
  | .null => .null
  | .bool b => .bool b
  | .int n => .int n
  | .float x => .float x
  | .text s => .text s
  | .list _ => .list
  | .object _ => .object

/-- Why a value has not the expected shape. -/
inductive Mismatch where
  /-- The value is of another kind. -/
  | kind (found : Seen) (wanted : Wanted)
  /-- The value is of the right kind, but out of bounds. -/
  | value (found : Seen) (wanted : Wanted)
  /-- None of the known names. -/
  | unknownName (name : String) (known : List String)
  /-- A field is missing. -/
  | missingField (name : String)
  /-- A list of too few items for an expression. -/
  | tooFew (length : Nat)
  /-- A list of too many items for an expression. -/
  | tooMany (length : Nat)
  | uuid (cause : Uuid.ReadError)
  | timestamp (cause : Calendar.ReadError)

/-- A list of names of which one is wanted. -/
def nameList : List String → String
  | [] => "there are no variants"
  | [a] => "expected \x60" ++ a ++ "\x60"
  | [a, b] => "expected \x60" ++ a ++ "\x60 or \x60" ++ b ++ "\x60"
  | names => "expected one of " ++ ", ".intercalate (names.map fun n => "\x60" ++ n ++ "\x60")

/-- The wording of a mismatch. -/
def Mismatch.message : Mismatch → String
  | .kind found wanted => "invalid type: " ++ found.name ++ ", expected " ++ wanted.name
  | .value found wanted => "invalid value: " ++ found.name ++ ", expected " ++ wanted.name
  | .unknownName name known => "unknown variant \x60" ++ name ++ "\x60, " ++ nameList known
  | .missingField name => "missing field \x60" ++ name ++ "\x60"
  | .tooFew length =>
    "invalid length " ++ toString length ++ ", expected struct Expression with 3 elements"
  | .tooMany length =>
    "invalid length " ++ toString length ++ ", expected fewer elements in array"
  | .uuid cause => "UUID parsing failed: " ++ cause.message
  | .timestamp cause => cause.message

/-- A value of another kind than the wanted one. -/
def mismatch {α : Type} (found : Json) (wanted : Wanted) : Except Mismatch α :=
  .error (.kind found.seen wanted)

end Json

end SqlFilter
