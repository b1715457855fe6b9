import Accord.Access.Privilege
import Accord.Name

/-!
# Default-privilege rules

A rule says which privileges a role gets on the objects of one type that an owner creates in a
schema.  `Rule` is a rule in the form of the catalog; `DeclaredRule` is a rule as it is declared,
with privileges in any spelling and the word `ALL` for all that the type allows.
-/

namespace Accord

/-- What a rule is about; there is one rule at most for each key. -/
structure RuleKey where
  database : String
  schema : String
  /-- The role whose objects the rule is about. -/
  owner : String
  /-- The role that gets the privileges. -/
  role : String
  type : ObjectType
deriving DecidableEq

/-- A rule: what it is about, and which privileges it gives. -/
structure Rule where
  key : RuleKey
  privileges : OrderedSet Privilege
deriving DecidableEq

/-- A rule as it is declared. -/
structure DeclaredRule where
  /-- The database of the schema; the default one if none is named. -/
  database : Option String
  schema : String
  owner : String
  role : String
  objectType : String
  privileges : List String
deriving DecidableEq

/-! ## Privileges -/

/-- Reads the name of an object type. -/
def ObjectType.parse (raw : String) : Except Error ObjectType :=
  match ObjectType.parse? raw with
  | some type => .ok type
  | none => .error (.validation (.unknownObjectType (Text.trim raw).toLower))

/-- The privileges that a word stands for on objects of a type. -/
def ObjectType.privileges (type : ObjectType) (raw : String) : Except Error (List Privilege) :=
  let refused : Error := .validation (.privilegeNotAllowed raw type)
  if Text.sameIgnoringCase (Text.trim raw) "ALL" then .ok type.allowed
  else
    match Privilege.parse? raw with
    | some p => if type.allowed.contains p then .ok [p] else .error refused
    | none => .error refused

/-- The privileges that some words stand for on objects of a type. -/
def ObjectType.privilegeSet (type : ObjectType) (raw : List String) :
    Except Error (OrderedSet Privilege) := do
  let privileges ← raw.mapM type.privileges
  return .ofList privileges.flatten

/-! ## Keys -/

/-- What the parts of the identity of a rule are, as messages name them. -/
def ruleIdentity : List String := ["database", "schema", "owner", "role", "object_type"]

namespace RuleKey

/-- The identity of the rule of a key, made of all of it. -/
def identity (key : RuleKey) : String :=
  joinIdentity [key.database, key.schema, key.owner, key.role, key.type.name]

/-- The key of rules between the named objects, once the type is known. -/
def ofNames (database schema owner role : String) : Except Error (ObjectType → RuleKey) := do
  let database ← normalizeName database "database"
  let schema ← normalizeName schema "schema"
  let owner ← normalizeName owner "owner"
  let role ← normalizeName role "role"
  return fun type => { database, schema, owner, role, type }

/-- The key that an identity stands for. -/
def decode (id : String) : Except Error RuleKey := do
  let parts ← splitIdentity id ruleIdentity
  let key ← ofNames (parts.getD 0 "") (parts.getD 1 "") (parts.getD 2 "") (parts.getD 3 "")
  return key (← ObjectType.parse (parts.getD 4 ""))

end RuleKey

/-- The declared rule in the form of the catalog. -/
def DeclaredRule.normalize (spec : DeclaredRule) (defaultDatabase : String) :
    Except Error Rule := do
  let type ← ObjectType.parse spec.objectType
  let privileges ← type.privilegeSet spec.privileges
  if privileges.isEmpty then throw (.validation .noPrivileges)
  let key ← RuleKey.ofNames (spec.database.getD defaultDatabase) spec.schema spec.owner spec.role
  return ⟨key type, privileges⟩

end Accord
