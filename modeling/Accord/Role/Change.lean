import Accord.Ordered.Difference
import Accord.Role.Basic
import Accord.Server.Feature
import Accord.Statement.Plan

/-!
# Changes of a role

`ObservedRole.changesTo` lists what an observed role lacks to be the declared one, and
`RoleChange.statement?` says each change as a statement.  All statements but the renaming address
the role by its declared name, and a plan renames first.
-/

namespace Accord

/-- A scalar attribute of a role with the value that it should have. -/
inductive AttributeValue where
  | flag (f : RoleFlag) (on : Bool)
  | connectionLimit (limit : Int)
deriving DecidableEq

/-- A change of an observed role. -/
inductive RoleChange where
  | rename (old new : String)
  | attribute (a : AttributeValue)
  /-- Sets the declared password. -/
  | password
  | validUntil (expiry : String)
  | revokeMembership (group : String)
  | grantMembership (group : String)
deriving DecidableEq

/-- The change of a flag; none if it is as declared. -/
def RoleFlag.change (f : RoleFlag) (observed declared : Bool) : List RoleChange :=
  if observed = declared then [] else [.attribute (.flag f declared)]

/-- What an observed role lacks to be a declared one.  A password is compared with the one that was
last set; attributes that are not managed are left alone. -/
def ObservedRole.changesTo (current : ObservedRole) (desired : DeclaredRole) : List RoleChange :=
  let memberships := Difference.between current.roles desired.roles
  (if current.name = desired.name then [] else [.rename current.name desired.name])
    ++ RoleFlag.superuser.change current.superuser desired.superuser
    ++ RoleFlag.createDatabase.change current.createDatabase desired.createDatabase
    ++ RoleFlag.createRole.change current.createRole desired.createRole
    ++ RoleFlag.inherit.change current.inherit desired.inherit
    ++ RoleFlag.login.change current.login desired.login
    ++ RoleFlag.replication.change current.replication desired.replication
    ++ (match desired.bypassRowLevelSecurity with
      | none => []
      | some on =>
        if current.bypassRowLevelSecurity = some on then []
        else [.attribute (.flag .bypassRowLevelSecurity on)])
    ++ (if current.connectionLimit = desired.connectionLimit then []
      else [.attribute (.connectionLimit desired.connectionLimit)])
    ++ (if desired.password.isNone || desired.password = current.password then []
      else [.password])
    ++ (if expiryMatches current.validUntil desired.validUntil then []
      else [.validUntil desired.validUntil])
    ++ memberships.surplus.map .revokeMembership
    ++ memberships.missing.map .grantMembership

/-! ## Statements -/

/-- The password clause for a declared role; nothing if the password is not managed. -/
def DeclaredRole.passwordClause (spec : DeclaredRole) (dialect : Dialect) :
    Except Error (Option PasswordClause) :=
  match spec.password with
  | none => return none
  | some password =>
    if spec.removesPassword then return some .clear
    else if spec.encryptedPassword then return some (.encrypted password)
    else do
      dialect.require .unencryptedPassword
      return some (.unencrypted password)

/-- The setting for bypassing row-level security; nothing if that is not managed. -/
def bypassSetting (bypass : Option Bool) (dialect : Dialect) :
    Except Error (Option RoleSetting) :=
  match bypass with
  | none => return none
  | some on => do
    dialect.require .rowLevelSecurity
    return some (.flag .bypassRowLevelSecurity on)

/-- Creates a role with all managed settings. -/
def DeclaredRole.creation (spec : DeclaredRole) (dialect : Dialect) : Except Error Statement := do
  let bypass ← bypassSetting spec.bypassRowLevelSecurity dialect
  let password ← spec.passwordClause dialect
  return .createRole spec.name (dialect.supports .createRoleWith)
    ([.flag .superuser spec.superuser,
      .flag .createDatabase spec.createDatabase,
      .flag .createRole spec.createRole,
      .flag .inherit spec.inherit,
      .flag .login spec.login,
      .flag .replication spec.replication,
      .connectionLimit spec.connectionLimit]
      ++ bypass.toList
      ++ (if spec.validUntil = "" then [] else [.validUntil spec.validUntil])
      ++ (password.map .password).toList)

/-- Gives what a role owns to the current user, by name if the server does not know the words for
that. -/
def Statement.reassign (role currentUser : String) (dialect : Dialect) : Statement :=
  .reassignOwned role
    (if dialect.supports .reassignOwnedCurrentUser then none else some currentUser)

/-- The statement for a change to the declared role; nothing if there is nothing to say. -/
def RoleChange.statement? (spec : DeclaredRole) (dialect : Dialect) :
    RoleChange → Except Error (Option Statement)
  | .rename old new => return some (.renameRole old new)
  | .attribute (.flag f on) => do
    if f = .bypassRowLevelSecurity then dialect.require .rowLevelSecurity
    return some (.alterRole spec.name (.flag f on))
  | .attribute (.connectionLimit limit) =>
    return some (.alterRole spec.name (.connectionLimit limit))
  | .password => do
    let clause ← spec.passwordClause dialect
    return clause.map fun c => .alterRole spec.name (.password c)
  | .validUntil expiry => return some (.alterRole spec.name (.validUntil expiry))
  | .revokeMembership group => return some (.revokeMembership group spec.name)
  | .grantMembership group => return some (.grantMembership group spec.name)

/-- The statements for some changes, in their order.  There is no plan if the server lacks a feature
that one of them needs. -/
def DeclaredRole.planChanges (spec : DeclaredRole) (dialect : Dialect) (changes : List RoleChange) :
    Except Error Plan := do
  let statements ← changes.mapM (RoleChange.statement? spec dialect)
  return statements.filterMap id

/-! ## Plans -/

/-- The statements that create a role and its memberships. -/
def DeclaredRole.creationPlan (spec : DeclaredRole) (dialect : Dialect) : Except Error Plan := do
  let creation ← spec.creation dialect
  return creation :: spec.roles.toList.map fun group => .grantMembership group spec.name

/-- The statements that make an observed role the declared one. -/
def DeclaredRole.updatePlan (spec : DeclaredRole) (dialect : Dialect) (current : ObservedRole) :
    Except Error Plan :=
  spec.planChanges dialect (current.changesTo spec)

/-- The statements that delete a role. -/
def RoleRemoval.plan (options : RoleRemoval) (name currentUser : String)
    (dialect : Dialect) : Plan :=
  (if options.skipReassignOwned then []
    else [.reassign name currentUser dialect, .dropOwned name])
    ++ (if options.skipDropRole then [] else [.dropRole name])

end Accord
