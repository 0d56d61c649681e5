import TimeRollup.Calendar.Instant
import TimeRollup.FileTree

/-!
# Hosts

What the program asks of the machine that it runs on.  A `Machine` answers from a file tree, a list of
variables and a clock that stands still.
-/

namespace TimeRollup.CommandLine

open TimeRollup.Calendar

class Host (m : Type → Type) where
  readText : String → m (Except FileFault String)
  /-- Writes a file in a directory that is there. -/
  writeFile : String → String → m (Except FileFault Unit)
  isDirectory : String → m Bool
  /-- Makes one directory in a directory that is there. -/
  makeDirectory : String → m (Except FileFault Unit)
  getVariable : String → m (Option String)
  now : m Instant

/-! ## Writing files -/

section

variable {m : Type → Type} [Monad m] [Host m]

/-- That a directory cannot be made is no fault if it is there. -/
def orDirectory (path : String) (result : Except FileFault Unit) :
    m (Except FileFault Unit) := do
  match result with
  | .ok () => return .ok ()
  | .error fault => return if ← Host.isDirectory path then .ok () else .error fault

/-- Makes a directory with the directories around it that are missing.  The steps of its path stand in
reverse. -/
def makeDirectories (absolute : Bool) : List String → m (Except FileFault Unit)
  | [] => return .ok ()
  | step :: outer => do
    let path := Path.ofSteps absolute (step :: outer).reverse
    match ← Host.makeDirectory path with
    | .error .notFound =>
      match ← makeDirectories absolute outer with
      | .error fault => return .error fault
      | .ok () => orDirectory path (← Host.makeDirectory path)
    | result => orDirectory path result

/-- Writes a file and makes the directories around it that are missing. -/
def writeText (path text : String) : m (Except FileFault Unit) := do
  match ← makeDirectories (Path.isAbsolute path) (Path.parentSteps path).reverse with
  | .error fault => return .error fault
  | .ok () => Host.writeFile path text

end

/-! ## Machines -/

structure Machine where
  files : FileTree
  environment : List (String × String)
  now : Instant
  deriving DecidableEq, Repr

/-- Takes over the changed files, if there was no fault. -/
def Machine.update (machine : Machine) :
    Except FileFault FileTree → Except FileFault Unit × Machine
  | .ok files => (.ok (), { machine with files := files })
  | .error fault => (.error fault, machine)

instance : Host (StateM Machine) where
  readText path machine := (machine.files.readText path, machine)
  writeFile path text machine := machine.update (machine.files.writeFile path text)
  isDirectory path machine := (machine.files.isDirectory path, machine)
  makeDirectory path machine := machine.update (machine.files.makeDirectory path)
  getVariable name machine := (machine.environment.lookup name, machine)
  now machine := (machine.now, machine)

end TimeRollup.CommandLine
