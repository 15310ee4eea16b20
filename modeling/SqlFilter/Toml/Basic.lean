/-!
# TOML values and how tables grow

A TOML text defines one table, bit by bit. Which bits may be added to a table later depends on how
it came to be, so every table keeps its `Origin`:

* a table **headed** by its own line is closed to dotted keys and to a second header;
* a table **implied** by the header of a table within it may still get its own header;
* a table made by a **dotted** key takes further dotted keys, but no header of its own;
* an **inline** table is closed once it is written.

`Toml.headTable`, `Toml.headItem` and `Toml.define` are the three ways to add to the whole; each
fails where the addition is not allowed.
-/

namespace SqlFilter

/-- How a table came to be. -/
inductive Toml.Origin where
  | headed
  | implied
  | dotted
  | inline
deriving DecidableEq, Repr

/-- A TOML value. What no setting uses, the value of a float or of a date, is not kept. -/
inductive Toml where
  | text (value : String)
  | integer (value : Int)
  | float
  | boolean (value : Bool)
  | datetime
  /-- An array; one that is made of headed tables can grow. -/
  | array (headed : Bool) (items : List Toml)
  | table (origin : Toml.Origin) (entries : List (String × Toml))
deriving Inhabited

namespace Toml

/-- The table of a text before its first line. -/
def empty : Toml := .table .headed []

/-- The value of a key. -/
def valueOf? (key : String) (entries : List (String × Toml)) : Option Toml := entries.lookup key

/-- The entries with the value of one key replaced. -/
def replace (key : String) (value : Toml) (entries : List (String × Toml)) :
    List (String × Toml) :=
  entries.map fun e => if e.1 = key then (key, value) else e

/-- Whether a key path leads on into a table of the given origin. -/
def isOpen (dotted : Bool) : Origin → Bool
  | .inline => false
  | .headed => !dotted
  | .implied | .dotted => true

/-- Changes the table at the end of a path of keys. Tables missing on the way are made, and of an
array of headed tables the last one is meant. The path belongs to a dotted key or to a header. -/
def change (dotted : Bool) (f : Toml → Option Toml) : List String → Toml → Option Toml
  | [], t => f t
  | key :: keys, .table origin entries =>
    match valueOf? key entries with
    | none => do
      -- what a table is made by tells later how it may be added to
      let made ← change dotted f keys (.table (if dotted then .dotted else .implied) [])
      some (.table origin (entries ++ [(key, made)]))
    | some (.table inner fields) =>
      if isOpen dotted inner then do
        let changed ← change dotted f keys (.table inner fields)
        some (.table origin (replace key changed entries))
      else none
    | some (.array true items) =>
      -- headers go on with the item that was added last
      match items.getLast? with
      | none => none
      | some last => do
        let changed ← change dotted f keys last
        some (.table origin (replace key (.array true (items.dropLast ++ [changed])) entries))
    | some _ => none
  | _ :: _, _ => none

/-- Adds a headed table under a key. -/
def addTable (key : String) : Toml → Option Toml
  | .table origin entries =>
    match valueOf? key entries with
    | none => some (.table origin (entries ++ [(key, .table .headed [])]))
    -- the table has been there for the sake of those within it, and gets its header now
    | some (.table .implied fields) =>
      some (.table origin (replace key (.table .headed fields) entries))
    | some _ => none
  | _ => none

/-- Adds a headed table to the array under a key. -/
def addItem (key : String) : Toml → Option Toml
  | .table origin entries =>
    match valueOf? key entries with
    | none => some (.table origin (entries ++ [(key, .array true [.table .headed []])]))
    | some (.array true items) =>
      some (.table origin
        (replace key (.array true (items ++ [.table .headed []])) entries))
    | some _ => none
  | _ => none

/-- Adds a value under a key that has none. The table is one that dotted keys have made if the key
is the last of several. -/
def addValue (viaDots : Bool) (key : String) (value : Toml) : Toml → Option Toml
  | .table origin entries =>
    -- a dotted key does not add to a table that has a header of its own
    if viaDots && origin ≠ .dotted then none
    else if (valueOf? key entries).isSome then none
    else some (.table origin (entries ++ [(key, value)]))
  | _ => none

/-- A path without its last key, and that key. -/
def splitLast : List String → Option (List String × String)
  | [] => none
  | [key] => some ([], key)
  | key :: keys => (splitLast keys).map fun (path, last) => (key :: path, last)

/-- The whole after the header of a table. -/
def headTable (path : List String) (whole : Toml) : Option Toml := do
  let (path, key) ← splitLast path
  change false (addTable key) path whole

/-- The whole after the header of an item of an array of tables. -/
def headItem (path : List String) (whole : Toml) : Option Toml := do
  let (path, key) ← splitLast path
  change false (addItem key) path whole

/-- A table after a line that gives a key its value. -/
def assign (path : List String) (value : Toml) (t : Toml) : Option Toml := do
  let (path, key) ← splitLast path
  change true (addValue (!path.isEmpty) key value) path t

/-- The whole after a line that gives a key its value, under the header `header`. -/
def define (header path : List String) (value whole : Toml) : Option Toml :=
  change false (assign path value) header whole

end Toml

end SqlFilter
