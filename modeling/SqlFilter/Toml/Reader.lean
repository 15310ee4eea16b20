import SqlFilter.Toml.Lexical
import SqlFilter.Toml.Number

/-!
# Reading TOML

A text is a sequence of lines: headers, and keys with values. `Toml.read` gives the table they
define, or nothing if the text is not TOML. A byte order mark at the beginning is skipped.
-/

namespace SqlFilter

namespace Toml

mutual

/-- A value, nested at most `levels` deep. -/
def readValue : Nat → Nat → Reads Toml
  | 0, _, _ => none
  | steps + 1, levels, cs =>
    match cs with
    | [] => none
    | c :: rest =>
      if c = '"' || c = '\x27' then (readText (c :: rest)).map fun (s, rest) => (.text s, rest)
      else if c = '[' then
        match levels with
        | 0 => none
        | levels + 1 => readItems steps levels [] rest
      else if c = '\x7b' then
        match levels with
        | 0 => none
        | levels + 1 =>
          match skipBlank rest with
          -- an inline table may be empty, but no comma may stand in front of its end
          | '\x7d' :: rest => some (.table .inline [], rest)
          | rest => readEntries steps levels (.table .inline []) rest
      else readRunValue (c :: rest)

/-- The rest of an array, before an item or its end; `read` holds its items so far, the latest
first. -/
def readItems : Nat → Nat → List Toml → Reads Toml
  | 0, _, _, _ => none
  | steps + 1, levels, read, cs => do
    match ← skipLines (cs.length + 1) cs with
    | ']' :: rest => some (.array false read.reverse, rest)
    | rest =>
      let (item, rest) ← readValue steps levels rest
      -- an array may have a comma in front of its end, which the next step sees
      match ← skipLines (rest.length + 1) rest with
      | ',' :: rest => readItems steps levels (item :: read) rest
      | ']' :: rest => some (.array false (item :: read).reverse, rest)
      | _ => none

/-- The rest of an inline table, before an entry; `read` holds its entries so far. -/
def readEntries : Nat → Nat → Toml → Reads Toml
  | 0, _, _, _ => none
  | steps + 1, levels, read, cs => do
    let (path, rest) ← readPath nestingLimit cs
    let (value, rest) ← readValue steps levels (skipBlank (← after? '=' rest))
    let read ← assign path value read
    match skipBlank rest with
    | ',' :: rest => readEntries steps levels read rest
    | '\x7d' :: rest => some (read, rest)
    | _ => none

end

/-- One line of a text. -/
inductive Line where
  /-- A header of a table, `[path]`. -/
  | table (path : List String)
  /-- A header of an item of an array of tables, `[[path]]`. -/
  | item (path : List String)
  /-- A key with its value. -/
  | value (path : List String) (value : Toml)

/-- A line, up to its last blanks and comment. -/
def readLine (cs : List Char) : Option (Line × List Char) :=
  match cs with
  | '[' :: '[' :: rest => do
    let (path, rest) ← readPath nestingLimit rest
    let rest ← after? ']' (← after? ']' rest)
    some (.item path, rest)
  | '[' :: rest => do
    let (path, rest) ← readPath nestingLimit rest
    let rest ← after? ']' rest
    some (.table path, rest)
  | cs => do
    let (path, rest) ← readPath nestingLimit cs
    -- the steps are enough, as each character takes two of them at most
    let (value, rest) ← readValue (2 * rest.length + 2) nestingLimit
      (skipBlank (← after? '=' rest))
    some (.value path value, rest)

/-- The header in force after a line, and the whole. -/
def applyLine (header : List String) (whole : Toml) : Line → Option (List String × Toml)
  | .table path => do some (path, ← headTable path whole)
  | .item path => do some (path, ← headItem path whole)
  | .value path value => do some (header, ← define header path value whole)

/-- The whole after all lines of a text. -/
def readAll : Nat → List String → Toml → List Char → Option Toml
  | 0, _, _, _ => none
  | steps + 1, header, whole, cs => do
    match ← skipLines (cs.length + 1) cs with
    | [] => some whole
    | rest =>
      let (line, rest) ← readLine rest
      let rest ← endLine rest
      let (header, whole) ← applyLine header whole line
      readAll steps header whole rest

/-- A text without a byte order mark. -/
def dropMark : List Char → List Char
  | '\ufeff' :: rest => rest
  | rest => rest

/-- **The table that a text defines**, if it is TOML. -/
def read (text : String) : Option Toml :=
  let cs := dropMark text.toList
  readAll (cs.length + 1) [] empty cs

end Toml

end SqlFilter
