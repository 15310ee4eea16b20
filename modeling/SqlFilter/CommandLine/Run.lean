import SqlFilter.CommandLine.Arguments
import SqlFilter.CommandLine.Host
import SqlFilter.CommandLine.Outline
import SqlFilter.Document
import SqlFilter.Expression.Depth
import SqlFilter.Select
import SqlFilter.Settings

/-!
# Running the command line

`CommandLine.run` takes the words after the program's name and gives a `Report`: what is written to
the two outputs, and how the program ends. The settings are read first; what fails ends the program
with one line about the error, behind whatever was written before.
-/

namespace SqlFilter

open Terminal (paint)

namespace CommandLine

/-- Why a command fails. -/
inductive Failure where
  /-- The settings file cannot be read. -/
  | unreadableSettings (path : String) (cause : FileError)
  /-- The settings file is not TOML, or gives a setting of the wrong kind. -/
  | malformedSettings
  /-- The document, a file or the standard input, cannot be read. -/
  | unreadableDocument (name : String) (cause : FileError)
  | document (cause : DocumentError)
  | clause (cause : ClauseError)

/-- The wording of a failure. -/
def Failure.message : Failure → String
  | .unreadableSettings path cause => "Configuration error: " ++ path ++ ": " ++ cause.message
  | .malformedSettings => "Configuration error: TOML"
  | .unreadableDocument name cause => "Failed to read " ++ name ++ ": " ++ cause.message
  | .document cause => cause.message
  | .clause cause => cause.message

/-- How a program ends. -/
inductive Ending where
  | success
  /-- A command failed; the message is in color or not. -/
  | failed (cause : Failure) (colored : Bool)
  /-- The words on the command line make no command. -/
  | misuse

/-- What a program has written, and how it ends. -/
structure Report where
  output : String
  errors : String
  ending : Ending

namespace Report

/-- The status with which the program exits. -/
def status (r : Report) : Nat :=
  match r.ending with
  | .success => 0
  | .failed .. => 1
  | .misuse => 2

/-- The line that tells the failure. -/
def failureLine (cause : Failure) (colored : Bool) : String :=
  paint colored .boldRed "Error:" ++ " " ++ cause.message

/-- A program that succeeds after writing to its output. -/
def success (output : String) : Report := ⟨output, "", .success⟩

end Report

/-! ### Settings -/

/-- The name of the settings file in the working directory. -/
def localSettings : String := "sieve.toml"

/-- The settings file of the user, in the directory of the environment for settings. -/
def userSettings? (directory home : Option String) : Option String :=
  let base := match directory with
    -- a directory that is not absolute is as good as none
    | some d => if d.startsWith "/" then some d else none
    | none => none
  let base := base.or (match home with
    | some h => if h = "" then none else some (h ++ "/.config")
    | none => none)
  base.map fun d => d ++ "/sieve/config.toml"

variable {m : Type → Type} [Monad m]

/-- The first of several paths that leads to anything. -/
def firstExisting (host : Host m) : List String → m (Option String)
  | [] => return none
  | path :: paths => do
    if ← host.pathExists path then return some path
    firstExisting host paths

/-- The settings file: the one that is named, or the first of the standard places. -/
def settingsFile (host : Host m) (named : Option String) : m (Option String) := do
  match named with
  | some path => return some path
  | none =>
    -- the working directory comes before the directory of the user
    let user := userSettings? (← host.environment "XDG_CONFIG_HOME") (← host.environment "HOME")
    firstExisting host (localSettings :: user.toList)

/-- The settings of a run; the standard ones where there is no file. -/
def loadSettings (host : Host m) (named : Option String) : m (Except Failure Settings) := do
  match ← settingsFile host named with
  | none => return .ok .standard
  | some path =>
    match ← host.readText path with
    | .error cause => return .error (.unreadableSettings path cause)
    | .ok text =>
      match Settings.read? text with
      | some settings => return .ok settings
      | none => return .error .malformedSettings

/-! ### Commands -/

/-- The filter of a document; a hyphen names the standard input. -/
def readDocument (host : Host m) (name : String) : m (Except Failure (Option Expression)) := do
  let (name, text) ←
    if name = "-" then pure ("stdin", ← host.readInputText) else pure (name, ← host.readText name)
  match text with
  | .error cause => return .error (.unreadableDocument name cause)
  | .ok text => return (Document.read text).mapError .document

/-- What stands in the place of a filter that a document does not give. -/
def noFilter (colored : Bool) : String := paint colored .dimmed "(empty filter)" ++ "\n"

/-- The report of a text that may fail, as one line behind what was written before. -/
def reportLine (colored : Bool) (before : String) (text : Except ClauseError String) : Report :=
  match text with
  | .ok text => .success (before ++ text ++ "\n")
  | .error cause => ⟨before, "", .failed (.clause cause) colored⟩

/-- The report of `compile`. -/
def compile (depthLimit : Nat) (colored : Bool) : Option Expression → Report
  | none => ⟨"", noFilter colored, .success⟩
  | some e => reportLine colored "" (e.toClause depthLimit)

/-- The title of an explanation. -/
def explainTitle (colored : Bool) : String := paint colored .boldCyan "Filter Explanation" ++ "\n\n"

/-- What an explanation shows before the clause: the outline and the depth. -/
def explainTree (colored : Bool) (e : Expression) : String :=
  explainTitle colored ++ paint colored .boldGreen "Tree:" ++ "\n" ++ e.outline colored ++
    "\n  " ++ paint colored .dimmed "Depth:" ++ " " ++ toString e.depth ++ "\n\n" ++
    paint colored .boldGreen "WHERE clause:" ++ "\n"

/-- The report of `explain`: the tree, and the clause if there is one. -/
def explain (depthLimit : Nat) (colored : Bool) : Option Expression → Report
  | none => .success (explainTitle colored ++ noFilter colored)
  | some e =>
    reportLine colored (explainTree colored e)
      ((e.toClause depthLimit).map fun clause => "  " ++ paint colored .white clause)

/-- The statement that `select` writes. -/
def statement (table : String) (columns : List String) (filter : Option Expression)
    (order : Option String) (descending : Bool) (limit offset : Option Nat) : Select where
  table := table
  columns := columns
  filter := filter
  orderBy := order.map fun column =>
    (column, if descending then SortOrder.descending else SortOrder.ascending)
  limit := limit
  offset := offset

/-- The report of a command, given its document's filter if it has a document. -/
def report (depthLimit : Nat) (colored : Bool) (filter : Option Expression) :
    Arguments.Command → Report
  | .compile _ => compile depthLimit colored filter
  | .explain _ => explain depthLimit colored filter
  | .select table _ columns order descending limit offset =>
    reportLine colored ""
      ((statement table columns filter order descending limit offset).toSql depthLimit)
  | .sanitize text => .success (sanitize text ++ "\n")

/-- The document of a command. -/
def documentOf : Arguments.Command → Option String
  | .compile input | .explain input | .select _ input .. => some input
  | .sanitize _ => none

/-- The report of a request. Colors must be forced by the environment, and the settings can still
switch them off. -/
def answer (host : Host m) (forced : Bool) (request : Arguments.Request) : m Report := do
  match ← loadSettings host request.settings with
  | .error cause => return ⟨"", "", .failed cause forced⟩
  | .ok settings =>
    let colored := forced && settings.color
    let filter ← match documentOf request.command with
      | some name => readDocument host name
      | none => pure (.ok none)
    match filter with
    | .error cause => return ⟨"", "", .failed cause colored⟩
    | .ok filter => return report settings.depthLimit colored filter request.command

/-- The name of the program and its version. -/
def versionText : String := "sieve 0.1.0\n"

/-- How the program is used. -/
def helpText : String :=
  "Compile boolean filter trees to SQL WHERE clauses\n\n" ++
    "Usage: sieve [OPTIONS] <COMMAND>\n\n" ++
    "Commands:\n" ++
    "  compile   Compile a filter document to a WHERE clause\n" ++
    "  explain   Show the expression tree and its compiled clause\n" ++
    "  select    Render a SELECT statement using the filter\n" ++
    "  sanitize  Print text as the compiler would inline it\n\n" ++
    "Options:\n" ++
    "  -c, --config <CONFIG>  Path to a config file\n" ++
    "  -v, --verbose...       Increase log verbosity\n" ++
    "  -h, --help             Print help\n" ++
    "  -V, --version          Print version\n"

/-- **Runs the program** on the words after its name. -/
def run (host : Host m) (words : List String) : m Report := do
  match Arguments.parse (← host.environment "SIEVE_CONFIG") words with
  | .error .version => return .success versionText
  | .error .help => return .success helpText
  | .error .misuse => return ⟨"", helpText, .misuse⟩
  | .ok request =>
    answer host (Terminal.forced (← host.environment "CLICOLOR_FORCE")) request

end CommandLine

end SqlFilter
