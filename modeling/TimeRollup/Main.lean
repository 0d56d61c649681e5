import Std.Time.DateTime.Timestamp
import TimeRollup.CommandLine.Run

/-!
# The program

The command line on the machine itself.
-/

namespace TimeRollup

open TimeRollup.Calendar
open TimeRollup.CommandLine

def FileFault.ofError : IO.Error → FileFault
  | .noFileOrDirectory .. => .notFound
  | .alreadyExists .. => .alreadyExists
  | .inappropriateType _ code _ => if code = 21 then .isDirectory else .notDirectory
  | .invalidArgument _ code details =>
    if code = 36 then .nameTooLong else .other details
  | error => .other (toString error)

def attempt {α : Type} (action : IO α) : IO (Except FileFault α) := do
  match ← action.toBaseIO with
  | .ok value => return .ok value
  | .error error => return .error (.ofError error)

def currentInstant : IO Instant := do
  let timestamp ← Std.Time.Timestamp.now
  return ⟨timestamp.toSecondsSinceUnixEpoch.val, timestamp.val.nano.val.toNat⟩

def readFile (path : String) : IO (Except FileFault String) :=
  attempt (IO.FS.readFile path)

/-- A directory is what cannot be read because it is one. -/
def isUnreadable (path : String) : IO Bool := do
  match ← readFile path with
  | .error .isDirectory => return true
  | _ => return false

instance : Host IO where
  readText := readFile
  writeFile path text := attempt (IO.FS.writeFile path text)
  isDirectory := isUnreadable
  makeDirectory path := attempt (IO.FS.createDir path)
  getVariable name := IO.getEnv name
  now := currentInstant

def printReport (report : Report) : IO UInt32 := do
  (← IO.getStdout).putStr report.output
  (← IO.getStderr).putStr report.errors
  return UInt32.ofNat report.exitCode

end TimeRollup

def main (arguments : List String) : IO UInt32 := do
  TimeRollup.printReport (← TimeRollup.CommandLine.run arguments)
