import Accord.Error
import Accord.Ordered.Map

/-!
# Connection profiles

A profile says how to connect to a server.  A project has several of them under their names, and one
of them may be the default.  Passwords need not be stored: they can come from the environment.
-/

namespace Accord

/-- How to connect to a server. -/
structure Connection where
  host : String
  port : Nat
  user : String
  password : Option String
  database : String
deriving DecidableEq

/-- A connection as it is stored; its password may be left to a variable of the environment. -/
structure Profile where
  config : Connection
  /-- The variable of the environment that holds the password. -/
  passwordVariable : Option String
  /-- Whether nothing may be changed through this profile, if that is said. -/
  readOnly : Option Bool
deriving DecidableEq

/-- The profiles of one project. -/
structure Profiles where
  connections : OrderedMap String Profile
  /-- The name of the profile that is used when none is named. -/
  default : Option String
deriving DecidableEq

/-- The profiles of all projects of a user, by the directory of the project. -/
structure Registry where
  projects : OrderedMap String Profiles
deriving DecidableEq

/-- What is known of the user who runs the program. -/
structure Environment where
  /-- The variables of the environment. -/
  bindings : List (String × String)
  accountHome : Option String

/-- The value of a variable.  The name of a variable is not empty and holds neither an equals sign
nor a null character. -/
def Environment.find? (env : Environment) (name : String) : Option String :=
  if name = "" ∨ name.toList.contains '=' ∨ name.toList.contains '\x00' then none
  else env.bindings.lookup name

/-- The connection without a database, a host or a user that it needs. -/
def Connection.check (c : Connection) (database : Option String) :
    Except Error Unit :=
  if c.host = "" then .error (.config (.missingParameter "host"))
  else if c.user = "" then .error (.config (.missingParameter "user"))
  else if database.getD c.database = "" then .error (.config (.missingParameter "database"))
  else .ok ()

/-- The variable that holds the password when a profile names none and stores none. -/
def passwordFallback : String := "PGPASSWORD"

namespace Profile

/-- A profile that stores no more than how to connect. -/
def ofConfig (config : Connection) : Profile := ⟨config, none, none⟩

/-- The connection with its password, and whether nothing may be changed.  The password comes from
the variable that the profile names, else from the profile, else from the usual variable. -/
def resolve (c : Profile) (env : Environment) :
    Except Error (Connection × Bool) := do
  let password ← match c.passwordVariable with
    | some name =>
      match env.find? name with
      | some password => pure (some password)
      | none => .error (.config (.noVariable name))
    | none => pure (c.config.password.or (env.find? passwordFallback))
  return ({ c.config with password }, c.readOnly.getD false)

end Profile

namespace Profiles

/-- No profiles, and so no default. -/
def empty : Profiles := ⟨∅, none⟩

/-- Lays other profiles over these: where both say something, the others stand. -/
def merge (p other : Profiles) : Profiles :=
  ⟨p.connections.insertAll other.connections.entries, other.default.or p.default⟩

/-- Sets a profile.  The first one of all becomes the default. -/
def insert (p : Profiles) (name : String) (c : Profile) : Profiles :=
  ⟨p.connections.insert name c, if p.connections.isEmpty then some name else p.default⟩

/-- The names of all profiles, in ascending order. -/
def names (p : Profiles) : List String :=
  p.connections.keys.toList

/-- The profile of a name, or the default one if no name is given, with its name. -/
def get (p : Profiles) (name : Option String) : Except Error (String × Profile) :=
  match name.or p.default with
  | none => .error (.config (.noDefaultProfile p.names))
  | some name =>
    match p.connections.get? name with
    | some c => .ok (name, c)
    | none => .error (.config (.unknownProfile name p.names))

end Profiles

/-- No profiles of any project. -/
def Registry.empty : Registry := ⟨∅⟩

end Accord
