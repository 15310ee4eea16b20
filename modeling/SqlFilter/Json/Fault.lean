import SqlFilter.Text.Basic

/-!
# Faults in JSON text

A reader that meets a fault says what is wrong and what it has not read yet. The line and column
that the message names are counted afterwards, from the whole text.
-/

namespace SqlFilter

namespace Json

/-- What can be wrong with a JSON text. -/
inductive Cause where
  | unfinishedValue
  | unfinishedList
  | unfinishedObject
  | unfinishedString
  | expectedValue
  | expectedWord
  | expectedColon
  | expectedItemEnd
  | expectedFieldEnd
  | invalidEscape
  | invalidNumber
  | numberTooGreat
  | controlCharacter
  | nameNotString
  | loneSurrogate
  | unfinishedSurrogates
  | trailingComma
  | trailingText
  | tooDeep
deriving DecidableEq, Repr

/-- The wording of a cause. -/
def Cause.message : Cause → String
  | .unfinishedValue => "EOF while parsing a value"
  | .unfinishedList => "EOF while parsing a list"
  | .unfinishedObject => "EOF while parsing an object"
  | .unfinishedString => "EOF while parsing a string"
  | .expectedValue => "expected value"
  | .expectedWord => "expected ident"
  | .expectedColon => "expected \x60:\x60"
  | .expectedItemEnd => "expected \x60,\x60 or \x60]\x60"
  | .expectedFieldEnd => "expected \x60,\x60 or \x60\x7d\x60"
  | .invalidEscape => "invalid escape"
  | .invalidNumber => "invalid number"
  | .numberTooGreat => "number out of range"
  | .controlCharacter => "control character (\\u0000-\\u001F) found while parsing a string"
  | .nameNotString => "key must be a string"
  | .loneSurrogate => "lone leading surrogate in hex escape"
  | .unfinishedSurrogates => "unexpected end of hex escape"
  | .trailingComma => "trailing comma"
  | .trailingText => "trailing characters"
  | .tooDeep => "recursion limit exceeded"

/-- A fault, found with `rest` still unread; of `rest`, some octets count as read. -/
structure Fault where
  cause : Cause
  rest : List Char
  counted : Nat
deriving DecidableEq, Repr

namespace Fault

/-- A fault at the next character, which counts as read. -/
def here (cause : Cause) (rest : List Char) : Fault := ⟨cause, rest, 1⟩

/-- A fault before the next character. -/
def before (cause : Cause) (rest : List Char) : Fault := ⟨cause, rest, 0⟩

end Fault

/-- A place in a text: the line, counted from one, and the octets of it that were read. -/
structure Position where
  line : Nat
  column : Nat
deriving DecidableEq, Repr

namespace Position

/-- The start of a text. -/
def start : Position := ⟨1, 0⟩

/-- The place reached after reading some octets from a given place, at most to the end. -/
def advance : Position → List Char → Nat → Position
  | p, [], _ => p
  | p, c :: rest, count =>
    if count = 0 then p
    else if count < c.utf8Size then ⟨p.line, p.column + count⟩
    else if c = '\n' then advance ⟨p.line + 1, 0⟩ rest (count - 1)
    else advance ⟨p.line, p.column + c.utf8Size⟩ rest (count - c.utf8Size)

end Position

/-- A fault of a text, at its place. -/
structure TextError where
  cause : Cause
  position : Position
deriving DecidableEq, Repr

/-- The place of a fault in the whole text. -/
def Fault.toError (text : List Char) (fault : Fault) : TextError where
  cause := fault.cause
  position := Position.start.advance text
    (octets text - octets fault.rest + fault.counted)

/-- The wording of a text error. -/
def TextError.message (e : TextError) : String :=
  e.cause.message ++ " at line " ++ toString e.position.line ++ " column " ++
    toString e.position.column

end Json

end SqlFilter
