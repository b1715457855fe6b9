import Accord.Program.Arguments
import Accord.Program.Run

/-!
# The command line

Looks up what a run may need (the environment and the files that a request can name), performs the
request, writes the profiles that it saved and prints its envelope.  No wire protocol is spoken
here, so every request that needs a server ends with the error of a server that cannot be reached.
-/

namespace Accord.CommandLine

/-- The arguments, and what stands in them after an equals sign. -/
def words (args : List String) : List String :=
  args.flatMap fun a => [a, ((a.splitOn "=").drop 1).headD ""]

/-- The variables of the environment that have some names. -/
def bindings (names : List String) : IO (List (String × String)) :=
  names.filterMapM fun name => do
    if name = "" ∨ name.toList.contains '=' then return none
    return (← IO.getEnv name).map fun value => (name, value)

/-- What a path leads to; `none` if there is nothing. -/
def entryAt (path : String) : IO (Option Entry) := do
  try
    return some (.file (String.fromUTF8? (← IO.FS.readBinFile path)))
  catch
    | .inappropriateType .. => return some .directory
    | _ => return none

/-- Looks up what the parts of a path lead to, from a place on. -/
def look (files : Files) (place : Location) : List String → IO Files
  | [] => return files
  | part :: rest => do
    match Files.next place part with
    | .error _ => return files
    | .ok place =>
      match ← entryAt place.path with
      | some .directory => look (files.set place .directory) place rest
      | some file => return files.set place file
      | none => return files

/-- Looks up what a path leads to. -/
def lookUp (files : Files) (path : String) : IO Files :=
  look files (files.start path) (Path.parts path)

/-- Looks up all that a run may need. -/
def workplace (args : List String) : IO Workplace := do
  let directory := toString (← IO.currentDir)
  let files ← lookUp .empty directory
  let files := (files.enter directory).toOption.getD files
  let found ← bindings (["XDG_CONFIG_HOME", "HOME", passwordFallback] ++ words args)
  let globalFile := (globalPath ⟨found, none⟩).toOption.getD ""
  let files ← (localPath directory :: globalFile :: words args).foldlM lookUp files
  let stored := match files.loadProfiles directory globalFile with
    | .ok profiles => profiles.connections.entries.filterMap fun e => e.2.passwordVariable
    | .error _ => []
  return ⟨files, directory, ⟨found ++ (← bindings stored), none⟩⟩

/-- Writes a file that is not the same as before. -/
def writeBack (before after : Files) (path : String) : IO Unit := do
  match before.readText path, after.readText path with
  | was, .ok text =>
    if was.toOption = some text then return
    IO.FS.createDirAll (Path.parent path)
    IO.FS.writeFile path text
  | _, .error _ => return

/-- Performs a request and gives the status of the program. -/
def perform (args : List String) (request : Request) : IO UInt32 := do
  let start ← IO.monoMsNow
  let w ← workplace args
  let (result, _) := (request.run w fun _ => (Server.unreachable : Server Unit)).run.run ()
  if let .ok report := result then
    for path in localPath w.directory :: (globalPath w.environment).toOption.toList do
      writeBack w.files report.files path
  let (envelope, succeeded) := request.envelope ((← IO.monoMsNow) - start) result
  IO.println envelope.compact
  return if succeeded then 0 else 1

end Accord.CommandLine

open Accord in
/-- Reads the arguments and performs the request that they make. -/
def main (args : List String) : IO UInt32 :=
  match Request.parse args with
  | .ok request => CommandLine.perform args request
  | .error .version => do
    IO.println Request.versionLine
    return 0
  | .error .help => return 0
  | .error .misuse => return 2
