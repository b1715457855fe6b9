import Accord.Schema.Basic
import Accord.Server.Feature
import Accord.Statement.Plan

/-!
# Changes of a schema

`policyChanges` lists what the grantees of a schema hold too much or too little, grantee by grantee
and privilege by privilege.  The owner is left out: what an owner holds is no policy.
-/

namespace Accord

/-- One change of what a grantee holds on a schema. -/
inductive GranteeChange where
  /-- Takes everything away. -/
  | revokeAll (role : String)
  /-- Takes a privilege away, and the option to grant it. -/
  | revoke (role : String) (privilege : SchemaPrivilege)
  | grant (role : String) (privilege : SchemaPrivilege) (withGrantOption : Bool)
deriving DecidableEq

namespace GranteeChange

/-- The grantee. -/
def role : GranteeChange → String
  | .revokeAll role | .revoke role _ | .grant role _ _ => role

/-- Whether the change takes something away. -/
def isRevoke : GranteeChange → Bool
  | .grant .. => false
  | _ => true

end GranteeChange

/-- The changes of one privilege of a grantee.  The option to grant cannot be taken away alone: the
privilege goes with it and is granted again. -/
def privilegeChanges (role : String) (held wanted : SchemaRights) (p : SchemaPrivilege) :
    List GranteeChange :=
  let had := held.contains (.base p)
  let hadGrant := held.contains (.withGrant p)
  let wants := wanted.contains (.base p)
  let wantsGrant := wanted.contains (.withGrant p)
  if had && !wants then [.revoke role p]
  else if hadGrant && !wantsGrant then [.revoke role p, .grant role p false]
  else if wantsGrant && !hadGrant then [.grant role p true]
  else if wants && !had then [.grant role p false]
  else []

/-- The changes of a grantee.  Whoever is to hold nothing loses everything at once. -/
def granteeChanges (role : String) (held wanted : SchemaRights) : List GranteeChange :=
  if held = wanted then []
  else if wanted.isEmpty then [.revokeAll role]
  else SchemaPrivilege.all.flatMap (privilegeChanges role held wanted)

/-- The changes of all grantees but the owner, in the order of their names. -/
def policyChanges (current desired : Policies) (owner : String) : List GranteeChange :=
  ((current.keys.union desired.keys).toList.filter fun role => decide (role ≠ owner)).flatMap
    fun role => granteeChanges role (current.getD role ∅) (desired.getD role ∅)

/-- What an observed schema lacks to be a declared one. -/
structure SchemaChanges where
  /-- The old name and the new one. -/
  rename : Option (String × String)
  owner : Option String
  policies : List GranteeChange
deriving DecidableEq

/-- Whether nothing has to change. -/
def SchemaChanges.isEmpty (c : SchemaChanges) : Bool :=
  c.rename.isNone && c.owner.isNone && c.policies.isEmpty

/-- What an observed schema lacks to be a declared one.  A schema cannot change its database. -/
def ObservedSchema.changesTo (current : ObservedSchema) (desired : NormalSchema) :
    Except Error SchemaChanges :=
  if current.database ≠ desired.database then
    .error (.validation (.movedSchema current.name current.database desired.database))
  else .ok {
    rename := if current.name = desired.name then none else some (current.name, desired.name)
    owner := desired.owner.filter fun o => decide (o ≠ current.owner)
    policies := policyChanges current.policies desired.policies
      (desired.owner.getD current.owner) }

/-! ## Plans -/

/-- The statement for a change of what a grantee holds on the schema of the given name. -/
def GranteeChange.statement (schema : String) : GranteeChange → Statement
  | .revokeAll role => .revokeAllSchema schema role
  | .revoke role privilege => .revokeSchema schema role privilege
  | .grant role privilege withGrantOption => .grantSchema schema role privilege withGrantOption

/-- The statements for the changes of a schema to the declared one. -/
def SchemaChanges.plan (c : SchemaChanges) (name : String) : Plan :=
  (c.rename.map fun (old, new) => Statement.renameSchema old new).toList
    ++ (c.owner.map fun o => Statement.alterSchemaOwner name o).toList
    ++ c.policies.map (GranteeChange.statement name)

/-- Creates a schema; servers that do not know the words are not told that it may exist. -/
def Statement.newSchema (name : String) (owner : Option String) (ifNotExists : Bool)
    (dialect : Dialect) : Statement :=
  .createSchema name owner (ifNotExists && dialect.supports .createSchemaIfNotExists)

/-- The statements that create a schema with its policies, for the given current user. -/
def NormalSchema.creationPlan (s : NormalSchema) (currentUser : String) (dialect : Dialect) :
    Plan :=
  .newSchema s.name s.owner s.ifNotExists dialect
    :: (policyChanges ∅ s.policies (s.owner.getD currentUser)).map (GranteeChange.statement s.name)

/-- The statements that make an observed schema the declared one. -/
def NormalSchema.updatePlan (s : NormalSchema) (current : ObservedSchema) : Except Error Plan :=
  (current.changesTo s).map fun c => c.plan s.name

/-- The statements that delete a schema. -/
def SchemaRemoval.plan (options : SchemaRemoval) (name : String) : Plan :=
  [.dropSchema name options.cascade]

end Accord
