import Accord.Files.Path

/-!
# Files

A tree of files and directories, as far as a program sees it: what a path leads to, what a file
holds, and what changes when directories are made and files are written.
-/

namespace Accord

/-- Why a file cannot be read or written. -/
inductive FileProblem where
  | missing
  /-- A file is there already. -/
  | exists
  /-- The path goes through a file. -/
  | notDirectory
  /-- The path leads to a directory. -/
  | isDirectory
  | longName
  | nullInPath
  /-- The content of the file is no text. -/
  | notText
deriving DecidableEq, Repr

/-- The wording of a problem; those of the operating system have a number. -/
def FileProblem.message : FileProblem → String
  | .missing => "No such file or directory (os error 2)"
  | .exists => "File exists (os error 17)"
  | .notDirectory => "Not a directory (os error 20)"
  | .isDirectory => "Is a directory (os error 21)"
  | .longName => "File name too long (os error 36)"
  | .nullInPath => "file name contained an unexpected NUL byte"
  | .notText => "stream did not contain valid UTF-8"

/-- What a path can lead to. -/
inductive Entry where
  /-- A file with a text, or with bytes that are no text. -/
  | file (content : Option String)
  | directory
deriving DecidableEq

/-- A place in the tree: the names on the way from the root, the last one first, and how many they
are.  Places of unlike depth are told apart without a look at their names. -/
structure Location where
  depth : Nat
  names : List String
  depth_eq : depth = names.length
deriving DecidableEq

namespace Location

/-- The place where all absolute paths start. -/
def root : Location := ⟨0, [], rfl⟩

/-- The place of a name in the directory at `place`. -/
def child (place : Location) (name : String) : Location :=
  ⟨place.depth + 1, name :: place.names, congrArg (· + 1) place.depth_eq⟩

/-- The directory that a place is in.  The root is in itself. -/
def parent : Location → Location
  | ⟨_, _ :: names, _⟩ => ⟨names.length, names, rfl⟩
  | place => place

/-- The absolute path of a place. -/
def path (place : Location) : String :=
  "/" ++ "/".intercalate place.names.reverse

end Location

/-- A tree of files and directories.  The root is always there. -/
structure Files where
  entries : List (Location × Entry)
  /-- Where paths start that do not start at the root. -/
  directory : Location

namespace Files

/-- The longest name of a file, in bytes. -/
def maxNameLength : Nat := 255

/-- The longest path, in bytes. -/
def maxPathLength : Nat := 4095

/-- A tree without any file. -/
def empty : Files := ⟨[], .root⟩

/-- What there is at a place.  The latest change of a place stands, and the root is a directory. -/
def entry? (f : Files) (place : Location) : Option Entry :=
  if place = .root then some .directory else f.entries.lookup place

/-- Puts something at a place. -/
def set (f : Files) (place : Location) (e : Entry) : Files :=
  { f with entries := (place, e) :: f.entries }

/-- Fails unless there is a directory. -/
def requireDirectory (f : Files) (place : Location) : Except FileProblem Unit :=
  match f.entry? place with
  | some .directory => .ok ()
  | some (.file _) => .error .notDirectory
  | none => .error .missing

/-- Where one part of a path leads to from a place, whether or not there is anything. -/
def next (place : Location) (part : String) : Except FileProblem Location :=
  if Path.isIdle part then .ok place
  else if part = ".." then .ok place.parent
  else if maxNameLength < part.utf8ByteSize then .error .longName
  else .ok (place.child part)

/-- Follows one part of a path. -/
def step (f : Files) (place : Location) (part : String) : Except FileProblem Location := do
  f.requireDirectory place
  next place part

/-- Fails if no path can be written like this. -/
def checkPath (path : String) : Except FileProblem Unit :=
  if path.toList.contains '\x00' then .error .nullInPath
  else if path = "" then .error .missing
  else if maxPathLength < path.utf8ByteSize then .error .longName
  else .ok ()

/-- The place where the parts of a path are counted from. -/
def start (f : Files) (path : String) : Location :=
  if Path.isAbsolute path then .root else f.directory

/-- The place that a path leads to. -/
def locate (f : Files) (path : String) : Except FileProblem Location := do
  checkPath path
  (Path.parts path).foldlM f.step (f.start path)

/-- What a path leads to; nothing there is a problem. -/
def find (f : Files) (path : String) : Except FileProblem Entry := do
  match f.entry? (← f.locate path) with
  | some e => return e
  | none => .error .missing

/-- Whether a path leads to anything. -/
def contains (f : Files) (path : String) : Bool :=
  match f.find path with
  | .ok _ => true
  | .error _ => false

/-- The text of the file that a path leads to. -/
def readText (f : Files) (path : String) : Except FileProblem String := do
  match ← f.find path with
  | .directory => .error .isDirectory
  | .file none => .error .notText
  | .file (some text) => return text

/-- Makes the directory that a path leads to the one that paths start at. -/
def enter (f : Files) (path : String) : Except FileProblem Files := do
  let place ← f.locate path
  f.requireDirectory place
  return { f with directory := place }

/-- Makes the directories of a path from a place on, as far as they are missing.  `made` tells
whether one was made before: what follows is then made one by one, so that a file on the way is met
as the last part of a path. -/
def makeParts (f : Files) (place : Location) (made : Bool) :
    List String → Except FileProblem Unit × Files
  | [] => (.ok (), f)
  | part :: rest =>
    match next place part with
    | .error p => (.error p, f)
    | .ok place =>
      match f.entry? place with
      | some .directory => f.makeParts place made rest
      | some (.file _) => (.error (if made || rest.isEmpty then .exists else .notDirectory), f)
      | none => (f.set place .directory).makeParts place true rest

/-- Makes a directory and all directories on the way to it, as far as they are missing.  What was
made before a problem is met stays. -/
def makeDirectory (f : Files) (path : String) : Except FileProblem Unit × Files :=
  if path = "" then (.ok (), f)
  else
    match checkPath path with
    | .error p => (.error p, f)
    | .ok () => f.makeParts (f.start path) false (Path.parts path)

/-- Writes a file in a directory that is there. -/
def write (f : Files) (path : String) (content : Option String) : Except FileProblem Files := do
  let place ← f.locate path
  if f.entry? place = some .directory then .error .isDirectory
  else return f.set place (.file content)

end Files

end Accord
