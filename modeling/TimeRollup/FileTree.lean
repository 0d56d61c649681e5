/-!
# File trees

Directories and files with texts in them, and a working directory from which paths go that do not start
at the root.  A path is followed step by step, and every place on the way must be a directory.  Names and
paths that are too long are not looked for.
-/

namespace TimeRollup

inductive FileFault where
  | notFound
  | alreadyExists
  | notDirectory
  | isDirectory
  | nameTooLong
  | other (text : String)
  deriving DecidableEq, Repr

def FileFault.message : FileFault → String
  | .notFound => "No such file or directory (os error 2)"
  | .alreadyExists => "File exists (os error 17)"
  | .notDirectory => "Not a directory (os error 20)"
  | .isDirectory => "Is a directory (os error 21)"
  | .nameTooLong => "File name too long (os error 36)"
  | .other text => text

inductive FileNode where
  | file (text : String)
  | directory
  deriving DecidableEq, Repr

namespace Path

def splitSteps : List Char → List Char × List String
  | [] => ([], [])
  | c :: rest =>
    let (step, later) := splitSteps rest
    if c = '/' then ([], if step.isEmpty then later else String.ofList step :: later)
    else (c :: step, later)

/-- The names between the slashes of a path. -/
def steps (path : String) : List String :=
  let (step, later) := splitSteps path.toList
  if step.isEmpty then later else String.ofList step :: later

def isAbsolute (path : String) : Bool :=
  path.toList.head? == some '/'

def endsInSlash (path : String) : Bool :=
  path.toList.getLast? == some '/'

/-- The most bytes that a name may have. -/
def nameLimit : Nat := 255

/-- The most bytes that a path may have. -/
def pathLimit : Nat := 4095

/-- A path without the steps that stay where they are, of which only one at the front counts. -/
def significant : List String → List String
  | [] => []
  | step :: rest => step :: rest.filter (· ≠ ".")

/-- The steps to the directory of what the path names. -/
def parentSteps (path : String) : List String :=
  (significant (steps path)).dropLast

def ofSteps (absolute : Bool) (steps : List String) : String :=
  (if absolute then "/" else "") ++ "/".intercalate steps

def join (directory name : String) : String :=
  if endsInSlash directory then directory ++ name else directory ++ "/" ++ name

end Path

structure FileTree where
  /-- What stands at a place, which is given by the names from the root on. -/
  nodes : List (List String × FileNode)
  workingDirectory : List String
  deriving DecidableEq, Repr

namespace FileTree

def node? (tree : FileTree) (place : List String) : Option FileNode :=
  if place.isEmpty then some .directory else tree.nodes.lookup place

def put (tree : FileTree) (place : List String) (node : FileNode) : FileTree :=
  { tree with nodes := (place, node) :: tree.nodes }

/-- The place that one step leads to. -/
def stepFrom (place : List String) : String → List String
  | "." => place
  | ".." => place.dropLast
  | name => place ++ [name]

/-- The place that a path leads to, whether or not anything stands there. -/
def follow (tree : FileTree) (place : List String) : List String → Except FileFault (List String)
  | [] => .ok place
  | step :: rest =>
    match tree.node? place with
    | some .directory =>
      if Path.nameLimit < step.utf8ByteSize then .error .nameTooLong
      else tree.follow (stepFrom place step) rest
    | some (.file _) => .error .notDirectory
    | none => .error .notFound

def start (tree : FileTree) (path : String) : List String :=
  if Path.isAbsolute path then [] else tree.workingDirectory

/-- The place that the given steps lead to from where the path starts. -/
def reach (tree : FileTree) (path : String) (steps : List String) :
    Except FileFault (List String) :=
  if path.isEmpty then .error .notFound
  else if Path.pathLimit < path.utf8ByteSize then .error .nameTooLong
  else tree.follow (tree.start path) steps

def place (tree : FileTree) (path : String) : Except FileFault (List String) :=
  tree.reach path (Path.steps path)

def readText (tree : FileTree) (path : String) : Except FileFault String := do
  let place ← tree.place path
  match tree.node? place with
  | none => .error .notFound
  | some .directory => .error .isDirectory
  | some (.file text) => if Path.endsInSlash path then .error .notDirectory else .ok text

def isDirectory (tree : FileTree) (path : String) : Bool :=
  match tree.place path with
  | .ok place => tree.node? place == some .directory
  | .error _ => false

/-- Makes one directory in a directory that is there. -/
def makeDirectory (tree : FileTree) (path : String) : Except FileFault FileTree := do
  let place ← tree.place path
  match tree.node? place with
  | some _ => .error .alreadyExists
  | none => .ok (tree.put place .directory)

/-- Writes a file in a directory that is there.  A name with a slash behind it is not looked for, as no
file can have it. -/
def writeFile (tree : FileTree) (path text : String) : Except FileFault FileTree := do
  if Path.endsInSlash path then
    discard (tree.reach path ((Path.steps path).dropLast ++ ["."]))
    .error .isDirectory
  else
    let place ← tree.place path
    if tree.node? place == some .directory then .error .isDirectory
    else .ok (tree.put place (.file text))

/-- The places on the way to a place, and that place. -/
def placesTo : List String → List (List String)
  | [] => []
  | name :: rest => [name] :: (placesTo rest).map (name :: ·)

/-- A tree without files. -/
def empty (workingDirectory : List String) : FileTree :=
  ⟨(placesTo workingDirectory).map fun place => (place, .directory), workingDirectory⟩

@[simp]
theorem node?_nil (tree : FileTree) : tree.node? [] = some .directory :=
  rfl

theorem node?_put {tree : FileTree} {place : List String} (node : FileNode) (h : place ≠ []) :
    (tree.put place node).node? place = some node := by
  simp [node?, put, h]

theorem node?_put_of_ne {tree : FileTree} {place other : List String} (node : FileNode)
    (h : other ≠ place) : (tree.put place node).node? other = tree.node? other := by
  simp [node?, put, List.lookup_cons, beq_false_of_ne h]

end FileTree

end TimeRollup
