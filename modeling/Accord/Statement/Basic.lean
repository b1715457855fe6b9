import Accord.Access.Privilege
import Accord.Sql.Quote

/-!
# Statements

A `Statement` says what is to be done, and three functions say how: `Statement.sql` writes it for
the server, `Statement.operation` names it in messages, and `Statement.phase` gives its place among
the statements of a plan.  A statement that carries a password is never shown as it is
(`Statement.shown`).
-/

namespace Accord

/-! ## Settings of a role -/

/-- An attribute that a role has or has not. -/
inductive RoleFlag where
  | superuser
  | createDatabase
  | createRole
  | inherit
  | login
  | replication
  | bypassRowLevelSecurity
deriving DecidableEq, Repr

/-- The keyword for having the attribute. -/
def RoleFlag.keyword : RoleFlag → String
  | .superuser => "SUPERUSER"
  | .createDatabase => "CREATEDB"
  | .createRole => "CREATEROLE"
  | .inherit => "INHERIT"
  | .login => "LOGIN"
  | .replication => "REPLICATION"
  | .bypassRowLevelSecurity => "BYPASSRLS"

/-- The keyword of a flag; a `NO` in front of it turns the flag off. -/
def Sql.switch (keyword : String) (on : Bool) : String :=
  if on then keyword else "NO" ++ keyword

/-- What is to become of the password of a role. -/
inductive PasswordClause where
  /-- The role has none. -/
  | clear
  /-- The server stores it encrypted. -/
  | encrypted (password : String)
  /-- The server stores it as it is. -/
  | unencrypted (password : String)
deriving DecidableEq

/-- The clause in the words of the server. -/
def PasswordClause.sql : PasswordClause → String
  | .clear => "PASSWORD NULL"
  | .encrypted password => "ENCRYPTED PASSWORD " ++ Sql.literal password
  | .unencrypted password => "UNENCRYPTED PASSWORD " ++ Sql.literal password

/-- A setting of a role, as it stands in statements. -/
inductive RoleSetting where
  | flag (f : RoleFlag) (on : Bool)
  | connectionLimit (limit : Int)
  | validUntil (expiry : String)
  | password (clause : PasswordClause)
  /-- A setting in the words of the server. -/
  | other (what option : String) (sensitive : Bool)
deriving DecidableEq

namespace RoleSetting

/-- The setting in the words of the server. -/
def option : RoleSetting → String
  | .flag f on => Sql.switch f.keyword on
  | .connectionLimit limit => "CONNECTION LIMIT " ++ toString limit
  | .validUntil expiry => "VALID UNTIL " ++ Sql.literal expiry
  | .password clause => clause.sql
  | .other _ option _ => option

/-- The name of the setting in messages. -/
def what : RoleSetting → String
  | .flag f _ => f.keyword.toLower
  | .connectionLimit _ => "connection limit"
  | .validUntil _ => "password expiry"
  | .password _ => "password"
  | .other what _ _ => what

/-- Whether the setting carries a password. -/
def isSensitive : RoleSetting → Bool
  | .password _ => true
  | .other _ _ sensitive => sensitive
  | _ => false

end RoleSetting

/-! ## Statements -/

/-- The place of a statement in a plan. -/
inductive Phase where
  | create
  | rename
  | ownership
  | attribute
  | revoke
  | grant
  | reassign
  | dropOwned
  | drop
deriving DecidableEq, Repr

namespace Phase

/-- All phases, in the order in which they are run. -/
def all : List Phase :=
  [.create, .rename, .ownership, .attribute, .revoke, .grant, .reassign, .dropOwned, .drop]

/-- The name in documents. -/
def name : Phase → String
  | .create => "create"
  | .rename => "rename"
  | .ownership => "ownership"
  | .attribute => "attribute"
  | .revoke => "revoke"
  | .grant => "grant"
  | .reassign => "reassign"
  | .dropOwned => "drop_owned"
  | .drop => "drop"

/-- How many phases come before. -/
def rank : Phase → Nat
  | .create => 0
  | .rename => 1
  | .ownership => 2
  | .attribute => 3
  | .revoke => 4
  | .grant => 5
  | .reassign => 6
  | .dropOwned => 7
  | .drop => 8

end Phase

/-- What the server is told to do. -/
inductive Statement where
  /-- Creates a role with some settings; `spelled` asks for the word `WITH`. -/
  | createRole (name : String) (spelled : Bool) (settings : List RoleSetting)
  | renameRole (old new : String)
  | alterRole (role : String) (setting : RoleSetting)
  /-- Makes a role a member of a group. -/
  | grantMembership (group role : String)
  | revokeMembership (group role : String)
  /-- Gives what a role owns to another one, or to the current user if none is named. -/
  | reassignOwned (role : String) (heir : Option String)
  | dropOwned (role : String)
  | dropRole (role : String)
  /-- Creates a schema; `tolerant` accepts that it may exist. -/
  | createSchema (name : String) (owner : Option String) (tolerant : Bool)
  | renameSchema (old new : String)
  | alterSchemaOwner (schema owner : String)
  | grantSchema (schema role : String) (privilege : SchemaPrivilege) (withGrantOption : Bool)
  | revokeSchema (schema role : String) (privilege : SchemaPrivilege)
  | revokeAllSchema (schema role : String)
  | dropSchema (name : String) (cascade : Bool)
  /-- Adds privileges on the objects that `owner` will create in a schema. -/
  | grantDefaults (owner schema : String) (type : ObjectType) (privileges : List Privilege)
      (role : String)
  /-- Takes such privileges away, all of them if none are named. -/
  | revokeDefaults (owner schema : String) (type : ObjectType)
      (privileges : Option (List Privilege)) (role : String)
  | createExtension (name : String) (schema version : Option String)
  | moveExtension (name schema : String)
  | updateExtension (name version : String)
  | dropExtension (name : String)
  /-- A statement in the words of the server. -/
  | verbatim (phase : Phase) (operation sql : String) (sensitive : Bool)
deriving DecidableEq

namespace Statement

open Sql (identifier literal)

/-- The place of the statement in a plan. -/
def phase : Statement → Phase
  | .createRole .. | .createSchema .. | .createExtension .. => .create
  | .renameRole .. | .renameSchema .. => .rename
  | .alterSchemaOwner .. => .ownership
  | .alterRole .. | .moveExtension .. | .updateExtension .. => .attribute
  | .revokeMembership .. | .revokeSchema .. | .revokeAllSchema .. | .revokeDefaults .. => .revoke
  | .grantMembership .. | .grantSchema .. | .grantDefaults .. => .grant
  | .reassignOwned .. => .reassign
  | .dropOwned .. => .dropOwned
  | .dropRole .. | .dropSchema .. | .dropExtension .. => .drop
  | .verbatim phase .. => phase

/-- Whether the statement carries a password. -/
def isSensitive : Statement → Bool
  | .createRole _ _ settings => settings.any RoleSetting.isSensitive
  | .alterRole _ setting => setting.isSensitive
  | .verbatim _ _ _ sensitive => sensitive
  | _ => false

/-- What the statement does, as messages say it. -/
def operation : Statement → String
  | .createRole name _ _ => "creating role " ++ identifier name
  | .renameRole old new => "renaming role " ++ identifier old ++ " to " ++ identifier new
  | .alterRole role setting => "updating " ++ setting.what ++ " of role " ++ identifier role
  | .grantMembership group role =>
    "granting role " ++ identifier group ++ " to " ++ identifier role
  | .revokeMembership group role =>
    "revoking role " ++ identifier group ++ " from " ++ identifier role
  | .reassignOwned role _ => "reassigning objects owned by " ++ identifier role
  | .dropOwned role => "dropping objects owned by " ++ identifier role
  | .dropRole role => "dropping role " ++ identifier role
  | .createSchema name _ _ => "creating schema " ++ identifier name
  | .renameSchema old new => "renaming schema " ++ identifier old ++ " to " ++ identifier new
  | .alterSchemaOwner schema _ => "changing owner of schema " ++ identifier schema
  | .grantSchema schema role privilege _ =>
    "granting " ++ privilege.sql ++ " on schema " ++ identifier schema ++ " to " ++ identifier role
  | .revokeSchema schema role privilege =>
    "revoking " ++ privilege.sql ++ " on schema " ++ identifier schema ++ " from "
      ++ identifier role
  | .revokeAllSchema schema role =>
    "revoking all on schema " ++ identifier schema ++ " from " ++ identifier role
  | .dropSchema name _ => "dropping schema " ++ identifier name
  | .grantDefaults _ schema type _ role =>
    "granting default privileges on " ++ type.plural.toLower ++ " in schema " ++ identifier schema
      ++ " to " ++ identifier role
  | .revokeDefaults _ schema type _ role =>
    "revoking default privileges on " ++ type.plural.toLower ++ " in schema " ++ identifier schema
      ++ " from " ++ identifier role
  | .createExtension name _ _ => "creating extension " ++ identifier name
  | .moveExtension name schema =>
    "moving extension " ++ identifier name ++ " to schema " ++ identifier schema
  | .updateExtension name version =>
    "updating extension " ++ identifier name ++ " to version " ++ version
  | .dropExtension name => "dropping extension " ++ identifier name
  | .verbatim _ operation _ _ => operation

/-- Privileges between commas. -/
def privilegeList (l : List Privilege) : String :=
  String.intercalate "," (l.map Privilege.sql)

/-- A clause that is left out when there is nothing to say. -/
def clause (keyword : String) (quote : String → String) : Option String → String
  | none => ""
  | some s => keyword ++ quote s

/-- The statement in the words of the server. -/
def sql : Statement → String
  | .createRole name spelled settings =>
    "CREATE ROLE " ++ identifier name ++ (if spelled then " WITH" else "") ++ " "
      ++ String.intercalate " " (settings.map RoleSetting.option)
  | .renameRole old new => "ALTER ROLE " ++ identifier old ++ " RENAME TO " ++ identifier new
  | .alterRole role setting => "ALTER ROLE " ++ identifier role ++ " WITH " ++ setting.option
  | .grantMembership group role => "GRANT " ++ identifier group ++ " TO " ++ identifier role
  | .revokeMembership group role => "REVOKE " ++ identifier group ++ " FROM " ++ identifier role
  | .reassignOwned role heir =>
    "REASSIGN OWNED BY " ++ identifier role ++ " TO "
      ++ (match heir with
        | none => "CURRENT_USER"
        | some user => identifier user)
  | .dropOwned role => "DROP OWNED BY " ++ identifier role
  | .dropRole role => "DROP ROLE " ++ identifier role
  | .createSchema name owner tolerant =>
    "CREATE SCHEMA " ++ (if tolerant then "IF NOT EXISTS " else "") ++ identifier name
      ++ clause " AUTHORIZATION " identifier owner
  | .renameSchema old new => "ALTER SCHEMA " ++ identifier old ++ " RENAME TO " ++ identifier new
  | .alterSchemaOwner schema owner =>
    "ALTER SCHEMA " ++ identifier schema ++ " OWNER TO " ++ identifier owner
  | .grantSchema schema role privilege withGrantOption =>
    "GRANT " ++ privilege.sql ++ " ON SCHEMA " ++ identifier schema ++ " TO " ++ identifier role
      ++ (if withGrantOption then " WITH GRANT OPTION" else "")
  | .revokeSchema schema role privilege =>
    "REVOKE " ++ privilege.sql ++ " ON SCHEMA " ++ identifier schema ++ " FROM " ++ identifier role
  | .revokeAllSchema schema role =>
    "REVOKE ALL ON SCHEMA " ++ identifier schema ++ " FROM " ++ identifier role
  | .dropSchema name cascade =>
    "DROP SCHEMA " ++ identifier name ++ (if cascade then " CASCADE" else " RESTRICT")
  | .grantDefaults owner schema type privileges role =>
    "ALTER DEFAULT PRIVILEGES FOR ROLE " ++ identifier owner ++ " IN SCHEMA " ++ identifier schema
      ++ " GRANT " ++ privilegeList privileges ++ " ON " ++ type.plural ++ " TO "
      ++ identifier role
  | .revokeDefaults owner schema type privileges role =>
    "ALTER DEFAULT PRIVILEGES FOR ROLE " ++ identifier owner ++ " IN SCHEMA " ++ identifier schema
      ++ " REVOKE "
      ++ (match privileges with
        | none => "ALL"
        | some l => privilegeList l)
      ++ " ON " ++ type.plural ++ " FROM " ++ identifier role
  | .createExtension name schema version =>
    "CREATE EXTENSION " ++ identifier name ++ clause " SCHEMA " identifier schema
      ++ clause " VERSION " literal version
  | .moveExtension name schema =>
    "ALTER EXTENSION " ++ identifier name ++ " SET SCHEMA " ++ identifier schema
  | .updateExtension name version =>
    "ALTER EXTENSION " ++ identifier name ++ " UPDATE TO " ++ literal version
  | .dropExtension name => "DROP EXTENSION " ++ identifier name
  | .verbatim _ _ sql _ => sql

/-- The statement as it may be shown: in the words of the server, unless it carries a password. -/
def shown (s : Statement) : String :=
  if s.isSensitive then "-- " ++ s.operation ++ " (statement redacted, contains a password)"
  else s.sql

end Statement

end Accord
