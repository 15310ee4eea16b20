/-!
# Arguments of the command line

`Arguments.parse` reads the words after the program's name. Two options stand before or after the
command: `-c PATH`, `--config PATH` names the settings file, `-v`, `--verbose` may be repeated. A
value follows its option as the next word, or attached behind `=`, or directly behind a short
option. A word that begins with a hyphen is never a value, but a lone hyphen is. After `--` every
word is positional.

The words are read in their order. The first that is not understood, or is one too many, makes the
whole a `Usage.misuse`, and the first that asks for the version or for help ends the reading.
-/

namespace SqlFilter

namespace Arguments

/-- What the program is asked to do. -/
inductive Command where
  /-- Writes the clause of a document. -/
  | compile (input : String)
  /-- Shows the tree of a document and its clause. -/
  | explain (input : String)
  /-- Writes a statement with a document as its filter. -/
  | select (table input : String) (columns : List String) (order : Option String)
      (descending : Bool) (limit offset : Option Nat)
  /-- Writes a text as a clause would hold it. -/
  | sanitize (text : String)
deriving DecidableEq, Repr

/-- A command and where its settings are. -/
structure Request where
  settings : Option String
  command : Command
deriving DecidableEq, Repr

/-- Why there is nothing to run. -/
inductive Usage where
  | misuse
  | version
  | help
deriving DecidableEq, Repr

/-- The options. -/
inductive Name where
  | config
  | verbose
  | help
  | version
  | columns
  | order
  | descending
  | limit
  | offset
deriving DecidableEq, Repr

/-- Whether an option takes a value. -/
def Name.takesValue : Name → Bool
  | .config | .columns | .order | .limit | .offset => true
  | .verbose | .help | .version | .descending => false

/-- Where options stand: before the command, or behind one. -/
inductive Place where
  | program
  | command (isSelect : Bool)
deriving DecidableEq, Repr

/-- How many positional words a place holds. The command's name is not one of them. -/
def Place.capacity : Place → Nat
  | .program => 0
  | .command isSelect => if isSelect then 2 else 1

/-- The option of a long name at a place. -/
def long? (place : Place) (name : String) : Option Name :=
  match name, place with
  | "config", _ => some .config
  | "verbose", _ => some .verbose
  | "help", _ => some .help
  | "version", .program => some .version
  | "columns", .command true => some .columns
  | "order", .command true => some .order
  | "desc", .command true => some .descending
  | "limit", .command true => some .limit
  | "offset", .command true => some .offset
  | _, _ => none

/-- The option of a letter at a place. -/
def short? (place : Place) (letter : Char) : Option Name :=
  match letter, place with
  | 'c', _ => some .config
  | 'v', _ => some .verbose
  | 'h', _ => some .help
  | 'V', .program => some .version
  | _, _ => none

/-- What was read so far at one place. -/
structure Seen where
  /-- The values of options, the latest first. -/
  values : List (Name × String)
  /-- The options without values, the latest first. -/
  flags : List Name
  /-- The positional words, the latest first. -/
  words : List String

/-- The value of an option. -/
def Seen.value? (s : Seen) (name : Name) : Option String := s.values.lookup name

/-- A number of 64 bits, with a plus sign or without. -/
def number? (text : String) : Option Nat :=
  let digits := match text.toList with
    | '+' :: rest => rest
    | cs => cs
  if digits.isEmpty || !digits.all Char.isDigit then none
  else
    let n := digits.foldl (fun n c => 10 * n + (c.toNat - '0'.toNat)) 0
    if n < UInt64.size then some n else none

/-- Whether an option accepts a value. A path is not empty, and the limits are numbers. -/
def accepts (name : Name) (value : String) : Bool :=
  match name with
  | .config => value ≠ ""
  | .limit | .offset => (number? value).isSome
  | _ => true

/-- An option with its value. Only columns may be given more than once. -/
def Seen.addValue (s : Seen) (name : Name) (value : String) : Except Usage Seen :=
  if !accepts name value then .error .misuse
  else if name ≠ .columns && (s.value? name).isSome then .error .misuse
  else .ok { s with values := (name, value) :: s.values }

/-- An option without value. Only the verbosity may be raised more than once. -/
def Seen.addFlag (s : Seen) (name : Name) : Except Usage Seen :=
  match name with
  | .help => .error .help
  | .version => .error .version
  | _ =>
    if name = .descending && s.flags.contains name then .error .misuse
    else .ok { s with flags := name :: s.flags }

/-- Whether a word can be the value of an option before it. -/
def isValue (word : String) : Bool :=
  match word.toList with
  | '-' :: _ :: _ => false
  | _ => true

/-- What a word is. -/
inductive Word where
  /-- `--`, after which no word is an option. -/
  | stop
  /-- `--name` or `--name=value`. -/
  | long (name : String) (value : Option String)
  /-- A hyphen with letters behind it. -/
  | short (letters : List Char)
  | positional
deriving DecidableEq, Repr

/-- What a word is. -/
def classify (word : String) : Word :=
  match word.toList with
  | ['-', '-'] => .stop
  | '-' :: '-' :: rest =>
    let name := rest.takeWhile (· ≠ '=')
    let value := rest.drop name.length
    .long (String.ofList name) (if value.isEmpty then none else some (String.ofList (value.drop 1)))
  | '-' :: c :: rest => .short (c :: rest)
  | _ => .positional

/-- What letters behind a hyphen set: each is an option of its own, until one takes a value, which
is the rest of the word if there is one. The result tells an option whose value is the next word. -/
def readLetters (place : Place) (s : Seen) : List Char → Except Usage (Seen × Option Name)
  | [] => .ok (s, none)
  | letter :: rest =>
    match short? place letter with
    | none => .error .misuse
    | some name =>
      if name.takesValue then
        match rest with
        | [] => .ok (s, some name)
        -- the equality sign between a letter and its value may be left out
        | '=' :: value => do .ok (← s.addValue name (String.ofList value), none)
        | value => do .ok (← s.addValue name (String.ofList value), none)
      else do
        let s ← s.addFlag name
        readLetters place s rest

/-- What a long option sets. The result tells an option whose value is the next word. -/
def readLong (place : Place) (s : Seen) (name : String) (value : Option String) :
    Except Usage (Seen × Option Name) :=
  match long? place name with
  | none => .error .misuse
  | some name =>
    match name.takesValue, value with
    | true, some value => do .ok (← s.addValue name value, none)
    | true, none => .ok (s, some name)
    | false, none => do .ok (← s.addFlag name, none)
    | false, some _ => .error .misuse

/-- Reads the words at one place: before the command up to the command's name, which is left over
with what follows it, and behind a command all words. An option may be waiting for its value. -/
def readWords (place : Place) (waiting : Option Name) (s : Seen) :
    List String → Except Usage (Seen × List String)
  | [] => if waiting.isSome then .error .misuse else .ok (s, [])
  | word :: rest =>
    match waiting with
    | some name =>
      if isValue word then do
        let s ← s.addValue name word
        readWords place none s rest
      else .error .misuse
    | none =>
      match classify word with
      | .stop =>
        match place with
        | .program => .error .misuse
        | .command _ => .ok ({ s with words := rest.reverse ++ s.words }, [])
      | .long name value => do
        let (s, waiting) ← readLong place s name value
        readWords place waiting s rest
      | .short letters => do
        let (s, waiting) ← readLetters place s letters
        readWords place waiting s rest
      | .positional =>
        match place with
        | .program => .ok (s, word :: rest)
        | .command _ =>
          -- a word too many is a misuse
          if s.words.length < place.capacity then
            readWords place none { s with words := word :: s.words } rest
          else .error .misuse

/-- The number that an option was given. -/
def Seen.number? (s : Seen) (name : Name) : Option Nat := (s.value? name).bind Arguments.number?

/-- The columns that were named, those of one word joined by commas. -/
def Seen.columns (s : Seen) : List String :=
  let named := s.values.filterMap fun (name, value) => if name = .columns then some value else none
  named.reverse.flatMap fun value => value.splitOn ","

/-- The command of the given name, with the words and options behind it. -/
def command (name : String) (s : Seen) : Except Usage Command :=
  match name, s.words.reverse with
  | "compile", [input] => .ok (.compile input)
  | "explain", [input] => .ok (.explain input)
  | "sanitize", [text] => .ok (.sanitize text)
  | "select", [table, input] =>
    let descending := s.flags.contains .descending
    if descending && (s.value? .order).isNone then .error .misuse
    else .ok (.select table input s.columns (s.value? .order) descending (s.number? .limit)
      (s.number? .offset))
  | _, _ => .error .misuse

/-- The names of the commands. -/
def commandNames : List String := ["compile", "explain", "select", "sanitize"]

/-- The settings file: the one named last wins, and any that is named wins over the environment's,
`fallback`. The environment's is looked at wherever none is named, and must not be empty there. -/
def settingsPath (before behind fallback : Option String) : Except Usage (Option String) :=
  if fallback = some "" && (before.isNone || behind.isNone) then .error .misuse
  else .ok (behind.or (before.or fallback))

/-- **What the words ask for.** `fallback` is the settings file that the environment names. -/
def parse (fallback : Option String) (words : List String) : Except Usage Request := do
  let (before, rest) ← readWords .program none ⟨[], [], []⟩ words
  match rest with
  | [] => .error .misuse
  | name :: rest =>
    if name = "help" then
      match rest with
      | [] => .error .help
      | [topic] =>
        -- help is also given on a command
        if topic = "help" ∨ commandNames.contains topic then .error .help else .error .misuse
      | _ => .error .misuse
    else if !commandNames.contains name then .error .misuse
    else
      let (behind, _) ← readWords (.command (name = "select")) none ⟨[], [], []⟩ rest
      let settings ← settingsPath (before.value? .config) (behind.value? .config) fallback
      let command ← command name behind
      .ok ⟨settings, command⟩

end Arguments

end SqlFilter
