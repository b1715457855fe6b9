import Accord.Access.Privilege
import Accord.Name
import Accord.Ordered.Map

/-!
# Schemas and their policies

`DeclaredSchema` is a schema as it is declared, with one `DeclaredPolicy` per entry of its policy
list, and `ObservedSchema` a schema as the catalog shows it.  Both kinds of policy come down to a
set of rights per grantee; entries for the same grantee are united.
-/

namespace Accord

/-- What is declared for a role on a schema. -/
structure DeclaredPolicy where
  role : String
  create : Bool
  createWithGrant : Bool
  usage : Bool
  usageWithGrant : Bool
deriving DecidableEq

namespace DeclaredPolicy

/-- The rights of one privilege; the option to grant it comes with the privilege. -/
def rightsOf (p : SchemaPrivilege) (base grant : Bool) : List SchemaRight :=
  (if base || grant then [.base p] else []) ++ (if grant then [.withGrant p] else [])

/-- The rights that a policy declares. -/
def rights (p : DeclaredPolicy) : SchemaRights :=
  .ofList (rightsOf .create p.create p.createWithGrant ++ rightsOf .usage p.usage p.usageWithGrant)

/-- The shortest declaration of some rights: the option to grant stands for the privilege as
well. -/
def ofRights (role : String) (rights : SchemaRights) : DeclaredPolicy where
  role
  create := rights.contains (.base .create) && !rights.contains (.withGrant .create)
  createWithGrant := rights.contains (.withGrant .create)
  usage := rights.contains (.base .usage) && !rights.contains (.withGrant .usage)
  usageWithGrant := rights.contains (.withGrant .usage)

end DeclaredPolicy

/-- The rights that each grantee holds on a schema. -/
abbrev Policies := OrderedMap String SchemaRights

/-- Adds rights to those of a grantee. -/
def Policies.add (policies : Policies) (role : String) (rights : SchemaRights) : Policies :=
  policies.insert role ((policies.getD role ∅).union rights)

theorem Policies.getD_add (policies : Policies) (role g : String) (rights : SchemaRights) :
    (policies.add role rights).getD g ∅ =
      if g = role then (policies.getD role ∅).union rights else policies.getD g ∅ := by
  unfold add OrderedMap.getD
  rw [OrderedMap.get?_insert]
  by_cases hg : g = role
  · rw [if_pos hg, if_pos hg]
    rfl
  · rw [if_neg hg, if_neg hg]

/-- A schema as it is declared. -/
structure DeclaredSchema where
  name : String
  /-- The database of the schema; the default one if none is named. -/
  database : Option String
  /-- The owner of the schema; the current user if none is named. -/
  owner : Option String
  /-- Whether it is no error that the schema exists when it is created. -/
  ifNotExists : Bool
  policies : List DeclaredPolicy
deriving DecidableEq

/-- A declared schema with all names in the form that the catalog uses. -/
structure NormalSchema where
  name : String
  database : String
  owner : Option String
  ifNotExists : Bool
  policies : Policies
deriving DecidableEq

/-- A schema as the catalog shows it. -/
structure ObservedSchema where
  name : String
  database : String
  owner : String
  /-- The rights of every grantee but the owner and the public. -/
  policies : Policies
deriving DecidableEq

/-- What becomes of the objects in a schema that is deleted. -/
structure SchemaRemoval where
  /-- They are deleted as well. -/
  cascade : Bool
deriving DecidableEq

namespace DeclaredSchema

/-- A schema about which nothing but its name is declared. -/
def named (name : String) : DeclaredSchema where
  name
  database := none
  owner := none
  ifNotExists := true
  policies := []

/-- The rights of every grantee that is declared with at least one. -/
def normalizePolicies : List DeclaredPolicy → Policies → Except Error Policies
  | [], policies => .ok policies
  | p :: rest, policies => do
    let role ← normalizeName p.role "policy role"
    normalizePolicies rest (if p.rights.isEmpty then policies else policies.add role p.rights)

/-- The schema with all names in the form that the catalog uses. -/
def normalize (spec : DeclaredSchema) (defaultDatabase : String) : Except Error NormalSchema := do
  let policies ← normalizePolicies spec.policies ∅
  let name ← normalizeName spec.name "schema"
  let database ← normalizeName (spec.database.getD defaultDatabase) "database"
  let owner ← spec.owner.mapM fun o => normalizeName o "owner"
  return ⟨name, database, owner, spec.ifNotExists, policies⟩

end DeclaredSchema

/-! ## Identities -/

/-- What the parts of the identity of a schema are, as messages name them. -/
def schemaIdentity : List String := ["database", "schema"]

/-- The identity of a schema: its database and its name. -/
def NormalSchema.identity (s : NormalSchema) : String :=
  joinIdentity [s.database, s.name]

/-- The database and the name that an identity stands for. -/
def ObservedSchema.decodeKey (id : String) : Except Error (String × String) := do
  let parts ← splitIdentity id schemaIdentity
  let database ← normalizeName (parts.getD 0 "") "database"
  let name ← normalizeName (parts.getD 1 "") "schema"
  return (database, name)

end Accord
