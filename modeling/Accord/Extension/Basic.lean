import Accord.Name

/-!
# Extensions

`DeclaredExtension` is an extension as it is declared, `InstalledExtension` an installed extension
as the catalog shows it.
-/

namespace Accord

/-- An extension as it is declared. -/
structure DeclaredExtension where
  name : String
  /-- The database of the extension; the default one if none is named. -/
  database : Option String
  /-- The schema of the objects of the extension; any if none is named. -/
  schema : Option String
  /-- The version; the one that the server installs if none is named. -/
  version : Option String
deriving DecidableEq

/-- An extension as the catalog shows it. -/
structure InstalledExtension where
  name : String
  database : String
  schema : String
  version : String
  /-- The version that the server would install now, if it has one. -/
  defaultVersion : Option String
deriving DecidableEq

namespace DeclaredExtension

/-- The extension with all names in the form that the catalog uses; a blank version is none. -/
def normalize (spec : DeclaredExtension) (defaultDatabase : String) :
    Except Error DeclaredExtension := do
  let name ← normalizeName spec.name "extension"
  let database ← normalizeName (spec.database.getD defaultDatabase) "database"
  let schema ← spec.schema.mapM fun s => normalizeName s "schema"
  let version := (spec.version.map Text.trim).filter fun v => decide (v ≠ "")
  return ⟨name, some database, schema, version⟩

/-- The database of an extension, which `normalize` has set. -/
def databaseOf (spec : DeclaredExtension) : Except Error String :=
  match spec.database with
  | some database => .ok database
  | none => .error (.validation .databaseNotSet)

end DeclaredExtension

/-! ## Identities -/

/-- What the parts of the identity of an extension are, as messages name them. -/
def extensionIdentity : List String := ["database", "extension"]

/-- The database and the name that an identity stands for. -/
def InstalledExtension.decodeKey (id : String) : Except Error (String × String) := do
  let parts ← splitIdentity id extensionIdentity
  let database ← normalizeName (parts.getD 0 "") "database"
  let name ← normalizeName (parts.getD 1 "") "extension"
  return (database, name)

end Accord
