import Accord.Server.Version

/-!
# Features of a server

What a statement looks like depends on the version of the server that runs it.  A `Dialect`
knows the version and answers which features the server has.
-/

namespace Accord

/-- A feature that changes how statements are written. -/
inductive Feature where
  /-- `CREATE ROLE name WITH …`. -/
  | createRoleWith
  /-- `ALTER DEFAULT PRIVILEGES`. -/
  | defaultPrivileges
  /-- `CREATE EXTENSION` and the like. -/
  | extension
  /-- `CREATE SCHEMA IF NOT EXISTS`. -/
  | createSchemaIfNotExists
  /-- The role attribute `BYPASSRLS`. -/
  | rowLevelSecurity
  /-- `REASSIGN OWNED BY name TO CURRENT_USER`. -/
  | reassignOwnedCurrentUser
  /-- `UNENCRYPTED PASSWORD`. -/
  | unencryptedPassword
deriving DecidableEq, Repr

namespace Feature

/-- All features, in the order in which they are listed. -/
def all : List Feature :=
  [.createRoleWith, .defaultPrivileges, .extension, .createSchemaIfNotExists, .rowLevelSecurity,
    .reassignOwnedCurrentUser, .unencryptedPassword]

/-- The name in documents. -/
def name : Feature → String
  | .createRoleWith => "create_role_with"
  | .defaultPrivileges => "default_privileges"
  | .extension => "extension"
  | .createSchemaIfNotExists => "create_schema_if_not_exists"
  | .rowLevelSecurity => "row_level_security"
  | .reassignOwnedCurrentUser => "reassign_owned_current_user"
  | .unencryptedPassword => "unencrypted_password"

/-- The name in messages. -/
def title : Feature → String
  | .createRoleWith => "CREATE ROLE ... WITH"
  | .defaultPrivileges => "ALTER DEFAULT PRIVILEGES"
  | .extension => "extensions"
  | .createSchemaIfNotExists => "CREATE SCHEMA IF NOT EXISTS"
  | .rowLevelSecurity => "row-level security (BYPASSRLS)"
  | .reassignOwnedCurrentUser => "REASSIGN OWNED ... TO CURRENT_USER"
  | .unencryptedPassword => "UNENCRYPTED PASSWORD"

/-- Whether a server of the version has the feature.  Unencrypted passwords went away, all other
features came and stayed. -/
def supportedBy : Feature → Version → Bool
  | .createRoleWith, v => v.atLeast 8 1
  | .defaultPrivileges, v => v.atLeast 9 0
  | .extension, v => v.atLeast 9 1
  | .createSchemaIfNotExists, v => v.atLeast 9 3
  | .rowLevelSecurity, v => v.atLeast 9 5
  | .reassignOwnedCurrentUser, v => v.atLeast 9 5
  | .unencryptedPassword, v => !v.atLeast 10 0

end Feature

/-- What the connected server can do. -/
structure Dialect where
  version : Version
deriving DecidableEq, Repr

namespace Dialect

/-- The dialect of a server that reports the version as a text. -/
def ofReported (raw : String) : Except Error Dialect :=
  (Version.parse raw).map Dialect.mk

/-- Whether the server has a feature. -/
def supports (dialect : Dialect) (f : Feature) : Bool :=
  f.supportedBy dialect.version

/-- Fails unless the server has a feature. -/
def require (dialect : Dialect) (f : Feature) : Except Error Unit :=
  if dialect.supports f then .ok () else .error (.unsupported f.title dialect.version.render)

/-- The features of the server, in the order in which they are listed. -/
def features (dialect : Dialect) : List Feature :=
  Feature.all.filter dialect.supports

end Dialect

end Accord
