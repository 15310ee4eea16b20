/-!
# The host of the command line

The program reads files, its standard input and the environment. A `Host` provides these in some
monad: the operating system's, or a pure one that holds everything in memory.
-/

namespace SqlFilter

/-- Why a file cannot be read. -/
inductive FileError where
  /-- The content is not UTF-8. -/
  | notText
  /-- The system refuses, with its number for the reason. -/
  | system (code : Nat)
deriving DecidableEq, Repr

namespace FileError

def notFound : FileError := .system 2

def notDirectory : FileError := .system 20

def isDirectory : FileError := .system 21

def nameTooLong : FileError := .system 36

/-- The system's wording for its numbers. -/
def reason : Nat → String
  | 2 => "No such file or directory"
  | 5 => "Input/output error"
  | 13 => "Permission denied"
  | 20 => "Not a directory"
  | 21 => "Is a directory"
  | 24 => "Too many open files"
  | 36 => "File name too long"
  | 40 => "Too many levels of symbolic links"
  | code => "Unknown error " ++ toString code

/-- The wording of an error. -/
def message : FileError → String
  | .notText => "stream did not contain valid UTF-8"
  | .system code => reason code ++ " (os error " ++ toString code ++ ")"

end FileError

/-- What the program needs of its surroundings. -/
structure Host (m : Type → Type) where
  /-- The octets of a file. -/
  readFile : String → m (Except FileError ByteArray)
  /-- The octets of the standard input. -/
  readInput : m (Except FileError ByteArray)
  /-- Whether a path leads to anything. -/
  pathExists : String → m Bool
  /-- The value of a variable of the environment. -/
  environment : String → m (Option String)

/-- Octets as text. -/
def decodeText (octets : Except FileError ByteArray) : Except FileError String := do
  match String.fromUTF8? (← octets) with
  | some text => .ok text
  | none => .error .notText

namespace Host

variable {m : Type → Type} [Monad m]

/-- The text of a file. -/
def readText (host : Host m) (path : String) : m (Except FileError String) := do
  return decodeText (← host.readFile path)

/-- The text of the standard input. -/
def readInputText (host : Host m) : m (Except FileError String) := do
  return decodeText (← host.readInput)

end Host

end SqlFilter
