import SqlFilter.CommandLine.Run

/-!
# The program

Connects the command line to the operating system.
-/

namespace SqlFilter

/-- The system's number for why a file cannot be read. -/
def fileErrorOf : IO.Error → FileError
  | .noFileOrDirectory .. => .notFound
  | .permissionDenied .. => .system 13
  | .inappropriateType _ code _ => .system code.toNat
  | .resourceExhausted _ code _ => .system code.toNat
  | .invalidArgument _ code _ => .system code.toNat
  | .otherError code _ => .system code.toNat
  | _ => .system 5

/-- An action that reads octets. -/
def readingOctets (action : IO ByteArray) : IO (Except FileError ByteArray) := do
  try
    return .ok (← action)
  catch e =>
    return .error (fileErrorOf e)

/-- The octets of a stream up to its end, behind those read before. -/
partial def readToEnd (stream : IO.FS.Stream) (before : ByteArray) : IO ByteArray := do
  let octets ← stream.read 65536
  if octets.isEmpty then return before
  readToEnd stream (before ++ octets)

/-- The operating system as a host. A path leads to something unless the system says otherwise. -/
def systemHost : Host IO where
  readFile path := readingOctets (IO.FS.readBinFile path)
  readInput := readingOctets do readToEnd (← IO.getStdin) ByteArray.empty
  pathExists path := do
    match ← readingOctets (IO.FS.readBinFile path) with
    | .error (.system 2) | .error (.system 20) => return false
    | _ => return true
  environment name := IO.getEnv name

end SqlFilter

open SqlFilter in
/-- Runs the command line and exits with the status of its report. -/
def main (words : List String) : IO UInt32 := do
  let report ← CommandLine.run systemHost words
  IO.print report.output
  IO.eprint report.errors
  match report.ending with
  | .failed cause colored => IO.eprintln (CommandLine.Report.failureLine cause colored)
  | _ => pure ()
  return report.status.toUInt32
