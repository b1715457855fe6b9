import Accord.Files.Tree
import Accord.Json.Writer
import Accord.Profile.Format

/-!
# Stored profiles

Profiles are kept in two files: one in the directory of the project, and one for all projects of the
user.  What the project says stands over what the user says (`loadProfiles`).
-/

namespace Accord

/-- The name of the files that hold profiles. -/
def profileFile : String := "connections.json"

/-- The file with the profiles of a project. -/
def localPath (project : String) : String :=
  Path.join (Path.join project ".pgconverge") profileFile

/-- The home directory of the user: the one that the environment names, else the one of the
account. -/
def Environment.home? (env : Environment) : Option String :=
  ((env.find? "HOME").filter fun dir => decide (dir ≠ "")).or env.accountHome

/-- The directory for the configuration of the user. -/
def Environment.configDirectory? (env : Environment) : Option String :=
  match (env.find? "XDG_CONFIG_HOME").filter Path.isAbsolute with
  | some dir => some dir
  | none => env.home?.map fun dir => Path.join dir ".config"

/-- The file with the profiles of all projects of the user. -/
def globalPath (env : Environment) : Except Error String :=
  match env.configDirectory? with
  | some dir => .ok (Path.join (Path.join dir "pgconverge") profileFile)
  | none => .error (.config .noConfigDirectory)

/-- The text of a file, for messages that name the path. -/
def Files.text (f : Files) (path : String) : Except Error String :=
  match f.readText path with
  | .ok text => .ok text
  | .error p => .error (.config (.cannotRead path p.message))

/-- What a file holds, or `start` when there is no file. -/
def Files.load {α : Type} (f : Files) (item : Decoder α) (start : α) (path : String) :
    Except Error α := do
  if !f.contains path then return start
  match Decoder.ofText item (← f.text path) with
  | .ok v => return v
  | .error p => .error (.config (.invalidFile path p))

/-- Writes a file, with all directories on the way to it.  Directories stay even if the file cannot
be written. -/
def Files.save (f : Files) (path : String) (v : Json) : Except Error Unit × Files :=
  match f.makeDirectory (Path.parent path) with
  | (.error p, f) => (.error (.config (.cannotMakeDirectory p.message)), f)
  | (.ok (), f) =>
    match f.write path (some v.pretty) with
    | .error p => (.error (.config (.cannotWrite path p.message)), f)
    | .ok f => (.ok (), f)

/-- The profiles in the file of a project. -/
def Files.loadLocal (f : Files) (path : String) : Except Error Profiles :=
  f.load Profiles.decoder .empty path

/-- The profiles in the file of the user. -/
def Files.loadGlobal (f : Files) (path : String) : Except Error Registry :=
  f.load Registry.decoder .empty path

/-- The profiles of a project: those in its own file, over those of the user for it. -/
def Files.loadProfiles (f : Files) (project globalFile : String) : Except Error Profiles := do
  let registry ← f.loadGlobal globalFile
  let mine ← f.loadLocal (localPath project)
  return (registry.projects.getD project .empty).merge mine

/-- Which of the two files. -/
inductive ProfileScope where
  | project
  | user
deriving DecidableEq, Repr

/-- The file that a profile of a project is stored in, and what that file holds with the profile. -/
def Files.withProfile (f : Files) (project globalFile name : String) (c : Profile) :
    ProfileScope → Except Error (String × Json)
  | .project => do
    let path := localPath project
    let profiles ← f.loadLocal path
    return (path, (profiles.insert name c).toJson)
  | .user => do
    let registry ← f.loadGlobal globalFile
    let profiles := registry.projects.getD project .empty
    let registry : Registry := ⟨registry.projects.insert project (profiles.insert name c)⟩
    return (globalFile, registry.toJson)

/-- Stores a profile of a project; gives the file that it is stored in, and the files afterwards. -/
def Files.saveProfile (f : Files) (project globalFile name : String) (c : Profile)
    (scope : ProfileScope) : Except Error String × Files :=
  match f.withProfile project globalFile name c scope with
  | .error e => (.error e, f)
  | .ok (path, v) =>
    let (saved, f) := f.save path v
    (saved.map fun _ => path, f)

end Accord
