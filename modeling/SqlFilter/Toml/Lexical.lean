import SqlFilter.Toml.Basic

/-!
# Blanks, keys and strings of TOML

A reader takes the text still unread and gives what it reads and what follows, or nothing if the
text is not TOML. Readers that repeat count down a supply of steps, for which the length of the
text is enough.
-/

namespace SqlFilter

namespace Toml

/-- What a reader gives. -/
abbrev Reads (α : Type) := List Char → Option (α × List Char)

/-! ### Blanks, comments and ends of lines -/

def isBlank (c : Char) : Bool := c = ' ' || c = '\t'

def skipBlank (cs : List Char) : List Char := cs.dropWhile isBlank

/-- The characters of comments and strings: all but the control characters other than the tab. -/
def isPlain (c : Char) : Bool := c = '\t' || (0x20 ≤ c.toNat && c.toNat ≠ 0x7F)

/-- What follows the end of a line, if the text begins with one. -/
def newline? : List Char → Option (List Char)
  | '\n' :: rest => some rest
  | '\r' :: '\n' :: rest => some rest
  | _ => none

/-- The text after a comment, if it begins with one. -/
def skipComment : List Char → List Char
  | '#' :: rest => rest.dropWhile isPlain
  | rest => rest

/-- The text after a line's last blanks and comment and its end. -/
def endLine (cs : List Char) : Option (List Char) :=
  match skipComment (skipBlank cs) with
  | [] => some []
  | rest => newline? rest

/-- The text after blanks, comments and ends of lines. A comment ends with its line. -/
def skipLines : Nat → List Char → Option (List Char)
  | 0, _ => none
  | steps + 1, cs =>
    match skipBlank cs with
    | [] => some []
    | c :: rest =>
      if c = '#' then
        match skipComment (c :: rest) with
        | [] => some []
        | rest =>
          match newline? rest with
          | some rest => skipLines steps rest
          | none => none
      else
        match newline? (c :: rest) with
        | some rest => skipLines steps rest
        | none => some (c :: rest)

/-! ### Strings -/

/-- The value of a hexadecimal digit, in either case. -/
def hexDigit? (c : Char) : Option Nat :=
  if '0' ≤ c ∧ c ≤ '9' then some (c.toNat - '0'.toNat)
  else if 'a' ≤ c ∧ c ≤ 'f' then some (c.toNat - 'a'.toNat + 10)
  else if 'A' ≤ c ∧ c ≤ 'F' then some (c.toNat - 'A'.toNat + 10)
  else none

/-- The character with the number that `width` hexadecimal digits write. -/
def readCodePoint (width : Nat) : Reads Char := fun cs => do
  let digits ← (cs.take width).mapM hexDigit?
  let n := digits.foldl (fun n d => 16 * n + d) 0
  if digits.length = width ∧ n.isValidChar then some (Char.ofNat n, cs.drop width) else none

/-- The character that an escape writes, after its backslash. -/
def readEscape : Reads Char
  | 'b' :: rest => some ('\x08', rest)
  | 't' :: rest => some ('\t', rest)
  | 'n' :: rest => some ('\n', rest)
  | 'f' :: rest => some ('\x0c', rest)
  | 'r' :: rest => some ('\r', rest)
  | '"' :: rest => some ('"', rest)
  | '\\' :: rest => some ('\\', rest)
  | 'u' :: rest => readCodePoint 4 rest
  | 'U' :: rest => readCodePoint 8 rest
  | _ => none

/-- The rest of a string with escapes, after its opening quote. -/
def readBasic : Nat → List Char → Reads String
  | 0, _, _ => none
  | steps + 1, read, cs =>
    match cs with
    | [] => none
    | '"' :: rest => some (String.ofList read.reverse, rest)
    | '\\' :: rest => do
      let (c, rest) ← readEscape rest
      readBasic steps (c :: read) rest
    | c :: rest => if isPlain c then readBasic steps (c :: read) rest else none

/-- The rest of a string without escapes, after its opening quote. -/
def readLiteral (cs : List Char) : Option (String × List Char) :=
  let content := cs.takeWhile fun c => isPlain c && c ≠ '\x27'
  match cs.drop content.length with
  | '\x27' :: rest => some (String.ofList content, rest)
  | _ => none

/-- How many quotes a text begins with, up to five. -/
def quoteRun (quote : Char) (cs : List Char) : Nat := ((cs.take 5).takeWhile (· = quote)).length

/-- What follows a backslash at the end of a line: the text from the next character on that is
neither blank nor the end of a line. -/
def continueLine? : Nat → List Char → Option (List Char)
  | 0, _ => none
  | steps + 1, cs =>
    match newline? (skipBlank cs) with
    | none => none
    | some rest =>
      -- further ends of lines are skipped too, as long as only blanks stand between them
      match continueLine? steps rest with
      | some rest => some rest
      | none => some (skipBlank rest)

/-- The rest of a string of several lines, after its three opening quotes. Three quotes end it; one
or two more before the end belong to it. -/
def readLines (escapes : Bool) (quote : Char) : Nat → List Char → Reads String
  | 0, _, _ => none
  | steps + 1, read, cs =>
    let run := quoteRun quote cs
    -- the last three of the quotes end the string
    if 3 ≤ run then
      some (String.ofList (List.replicate (run - 3) quote ++ read).reverse, cs.drop run)
    else
      match newline? cs with
      | some rest => readLines escapes quote steps ('\n' :: read) rest
      | none =>
        match cs with
        | [] => none
        | c :: rest =>
          if escapes && c = '\\' then
            match continueLine? steps rest with
            | some rest => readLines escapes quote steps read rest
            | none =>
              match readEscape rest with
              | some (c, rest) => readLines escapes quote steps (c :: read) rest
              | none => none
          else if isPlain c then readLines escapes quote steps (c :: read) rest
          else none

/-- A text without the end of a line it begins with. -/
def dropNewline (cs : List Char) : List Char := (newline? cs).getD cs

/-- A string in any of its four forms. -/
def readText (cs : List Char) : Option (String × List Char) :=
  let steps := cs.length + 1
  match cs with
  | '"' :: '"' :: '"' :: rest => readLines true '"' steps [] (dropNewline rest)
  | '"' :: rest => readBasic steps [] rest
  | '\x27' :: '\x27' :: '\x27' :: rest => readLines false '\x27' steps [] (dropNewline rest)
  | '\x27' :: rest => readLiteral rest
  | _ => none

/-! ### Keys -/

/-- The characters of keys without quotes. -/
def isKeyChar (c : Char) : Bool := c.isAlphanum || c = '_' || c = '-'

/-- One key. -/
def readKey (cs : List Char) : Option (String × List Char) :=
  match cs with
  | '"' :: rest => readBasic (rest.length + 1) [] rest
  | '\x27' :: rest => readLiteral rest
  | cs =>
    let name := cs.takeWhile isKeyChar
    if name.isEmpty then none else some (String.ofList name, cs.drop name.length)

/-- Keys joined by dots, with blanks around each; a path has at most `steps` of them. -/
def readPath : Nat → Reads (List String)
  | 0, _ => none
  | steps + 1, cs => do
    let (key, rest) ← readKey (skipBlank cs)
    match skipBlank rest with
    | '.' :: rest =>
      let (keys, rest) ← readPath steps rest
      some (key :: keys, rest)
    | rest => some ([key], rest)

/-- How deep values may be nested, and how many keys a path may have. -/
def nestingLimit : Nat := 79

end Toml

end SqlFilter
