import Accord.Extension.Basic
import Accord.Statement.Plan

/-!
# Changes of an extension

An installed extension can be moved to another schema and updated to another version, but it keeps
its name and its database.
-/

namespace Accord

/-- A change of an installed extension. -/
inductive ExtensionChange where
  | setSchema (schema : String)
  | updateVersion (version : String)
deriving DecidableEq

/-- What an installed extension lacks to be a declared one.  When no version is declared, the one
that the server would install now is wanted. -/
def InstalledExtension.changesTo (current : InstalledExtension) (desired : DeclaredExtension) :
    Except Error (List ExtensionChange) :=
  if current.name ≠ desired.name then
    .error (.validation (.renamedExtension current.name desired.name))
  else
    match desired.database.filter fun d => decide (d ≠ current.database) with
    | some database =>
      .error (.validation (.movedExtension current.name current.database database))
    | none =>
      let schema := desired.schema.filter fun s => decide (s ≠ current.schema)
      let version := (desired.version.or current.defaultVersion).filter
        fun v => decide (v ≠ current.version)
      .ok ((schema.map .setSchema).toList ++ (version.map .updateVersion).toList)

/-- The statement for a change of the extension of the given name. -/
def ExtensionChange.statement (name : String) : ExtensionChange → Statement
  | .setSchema schema => .moveExtension name schema
  | .updateVersion version => .updateExtension name version

/-- The statements that install an extension. -/
def DeclaredExtension.creationPlan (spec : DeclaredExtension) : Plan :=
  [.createExtension spec.name spec.schema spec.version]

/-- The statements that make an installed extension the declared one. -/
def DeclaredExtension.updatePlan (spec : DeclaredExtension) (current : InstalledExtension) :
    Except Error Plan :=
  (current.changesTo spec).map fun changes => changes.map (ExtensionChange.statement spec.name)

end Accord
