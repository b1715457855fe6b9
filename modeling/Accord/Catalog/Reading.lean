import Accord.Catalog.Result
import Accord.Extension.Basic
import Accord.Role.Basic
import Accord.Rule.Basic
import Accord.Schema.Basic
import Accord.Server.Facts

/-!
# Reading the catalog

How the answers to catalog queries are read: what the server is, and what roles, schemas, rules and
extensions are like.  An answer without rows is no error; it says that there is no such object.
-/

namespace Accord

/-- What the row of the first query says about the server and the session. -/
def ServerFacts.ofRow (row : Row) : Except Error ServerFacts := do
  let version ← row.text "server_version"
  let currentUser ← row.text "username"
  let database ← row.text "database"
  let isSuperuser ← row.bool "is_superuser"
  return { version, currentUser, database, isSuperuser }

/-- A connection limit, which has 32 bits. -/
def Row.connectionLimit (row : Row) : Except Error Int := do
  let limit ← row.integer "connection_limit"
  if limit < -2147483648 then badRow .smallConnectionLimit
  else if 2147483647 < limit then badRow .largeConnectionLimit
  else return limit

/-- The role that a row describes, without its passwords. -/
def ObservedRole.ofRow (row : Row) : Except Error ObservedRole := do
  let connectionLimit ← row.connectionLimit
  let name ← row.text "name"
  let superuser ← row.bool "superuser"
  let createDatabase ← row.bool "create_database"
  let createRole ← row.bool "create_role"
  let inherit ← row.bool "inherit"
  let login ← row.bool "login"
  let replication ← row.bool "replication"
  let validUntil ← row.text "valid_until"
  let bypassRowLevelSecurity ← row.bool? "bypass_row_level_security"
  let roles ← row.texts "roles"
  return {
    name, superuser, createDatabase, createRole, inherit, login, replication, connectionLimit
    validUntil, bypassRowLevelSecurity
    roles := .ofList roles
    password := none
    passwordHash := none }

/-- The hash in the answer to the query for it; none if the role has no password or is not there. -/
def passwordHashOf (result : ResultTable) : Except Error (Option String) :=
  match result.first? with
  | none => return none
  | some row => row.text? "passwd"

/-- What one row of grants adds to the policies of a schema; privileges that no policy is about are
passed over. -/
def Policies.addRow (policies : Policies) (row : Row) : Except Error Policies := do
  let raw ← row.text "privilege"
  match SchemaPrivilege.parse? raw with
  | none => return policies
  | some p =>
    let grantee ← row.text "grantee"
    let grantable ← row.bool "grantable"
    return policies.add grantee (.ofList (.base p :: if grantable then [.withGrant p] else []))

/-- The policies that the rows of a query for grants come to, in any order and with repeats. -/
def Policies.ofResult (result : ResultTable) : Except Error Policies :=
  result.toRows.foldlM Policies.addRow ∅

/-- The privilege in a row of a rule.  Unlike in policies, an unknown one is an error. -/
def Row.rulePrivilege (row : Row) : Except Error Privilege := do
  let raw ← row.text "privilege"
  match Privilege.parse? raw with
  | some p => return p
  | none => badRow (.unknownPrivilege raw)

/-- The rule of a key, with the privileges of all rows.  A rule that gives nothing is no rule. -/
def Rule.ofResult (key : RuleKey) (result : ResultTable) : Except Error (Option Rule) :=
  if result.isEmpty then return none
  else do
    let privileges ← result.toRows.mapM Row.rulePrivilege
    return some ⟨key, .ofList privileges⟩

/-- The installed extension that a row describes, in the database that was asked. -/
def InstalledExtension.ofRow (database : String) (row : Row) : Except Error InstalledExtension := do
  let name ← row.text "name"
  let schema ← row.text "schema"
  let version ← row.text "version"
  let defaultVersion ← row.text? "default_version"
  return { name, database, schema, version, defaultVersion }

end Accord
