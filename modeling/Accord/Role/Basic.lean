import Accord.Name
import Accord.Time.Expiry

/-!
# Roles

`DeclaredRole` is a role as it is declared, `ObservedRole` a role as the catalog shows it.
-/

namespace Accord

/-- A role as it is declared. -/
structure DeclaredRole where
  /-- The name of the role, which identifies it. -/
  name : String
  /-- The password to set, if it is managed; the word `NULL` removes the password. -/
  password : Option String
  /-- Whether the server stores the password encrypted. -/
  encryptedPassword : Bool
  /-- When the password expires; `infinity` for never, empty if the expiry is not managed. -/
  validUntil : String
  /-- How many connections may be open at once; -1 for any number. -/
  connectionLimit : Int
  superuser : Bool
  createDatabase : Bool
  createRole : Bool
  inherit : Bool
  login : Bool
  replication : Bool
  /-- Whether the role bypasses row-level security, if that is managed. -/
  bypassRowLevelSecurity : Option Bool
  /-- The roles that this role is a member of. -/
  roles : OrderedSet String
  /-- Whether the role itself stays when it is deleted. -/
  skipDropRole : Bool
  /-- Whether what the role owns stays as it is when the role is deleted. -/
  skipReassignOwned : Bool
deriving DecidableEq

/-- What is left of a role when it is deleted. -/
structure RoleRemoval where
  /-- What the role owns stays as it is. -/
  skipReassignOwned : Bool
  /-- The role itself stays. -/
  skipDropRole : Bool
deriving DecidableEq

/-- A role as the catalog shows it. -/
structure ObservedRole where
  name : String
  superuser : Bool
  createDatabase : Bool
  createRole : Bool
  inherit : Bool
  login : Bool
  replication : Bool
  connectionLimit : Int
  validUntil : String
  /-- Nothing when the server cannot tell. -/
  bypassRowLevelSecurity : Option Bool
  /-- The roles that this role is directly a member of. -/
  roles : OrderedSet String
  /-- The password that was last set, as the caller remembers it. -/
  password : Option String
  /-- The hash of the password, which only superusers see. -/
  passwordHash : Option String
deriving DecidableEq

namespace DeclaredRole

/-- A role with the attributes that it has when nothing is declared. -/
def named (name : String) : DeclaredRole where
  name
  password := none
  encryptedPassword := true
  validUntil := Expiry.never
  connectionLimit := -1
  superuser := false
  createDatabase := false
  createRole := false
  inherit := true
  login := false
  replication := false
  bypassRowLevelSecurity := none
  roles := ∅
  skipDropRole := false
  skipReassignOwned := false

/-- The expiry without blanks around it, and the word for never in one spelling. -/
def normalizeExpiry (raw : String) : String :=
  let s := Text.trim raw
  if Text.sameIgnoringCase s Expiry.never then Expiry.never else s

/-- The role with all names and the expiry in the form that the catalog uses. -/
def normalize (spec : DeclaredRole) : Except Error DeclaredRole := do
  if spec.connectionLimit < -1 then throw (.validation .connectionLimit)
  let roles ← spec.roles.toList.mapM fun r => normalizeName r "granted role"
  let name ← normalizeName spec.name "role"
  return { spec with
    name
    roles := OrderedSet.ofList roles
    validUntil := normalizeExpiry spec.validUntil }

/-- What is left of the role when it is deleted. -/
def removal (spec : DeclaredRole) : RoleRemoval :=
  ⟨spec.skipReassignOwned, spec.skipDropRole⟩

/-- Whether the declared password asks to remove the password. -/
def removesPassword (spec : DeclaredRole) : Bool :=
  spec.password.any fun p => Text.sameIgnoringCase p "NULL"

end DeclaredRole

end Accord
