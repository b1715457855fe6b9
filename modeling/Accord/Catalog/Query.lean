import Accord.Rule.Basic
import Accord.Time.Expiry

/-!
# Catalog queries

A `Query` is a question about the catalog, `Query.sql` is the question in the words of the server,
and `Query.parameters` are the texts that it is asked about.
-/

namespace Accord

/-- A question about the catalog. -/
inductive Query where
  | serverInfo
  | roleExists (name : String)
  /-- The attributes of a role; `bypass` asks for the one that not all servers know. -/
  | role (name : String) (bypass : Bool)
  | passwordHash (name : String)
  | databaseExists (name : String)
  | schemaExists (name : String)
  | schema (name : String)
  /-- The privileges on a schema of all roles but its owner. -/
  | schemaGrants (name : String)
  /-- The privileges that a rule gives. -/
  | rule (key : RuleKey)
  | extensionExists (name : String)
  | extension (name : String)
deriving DecidableEq

namespace Query

/-- The question in the words of the server. -/
def sql : Query → String
  | .serverInfo =>
    "SELECT current_setting('server_version') AS server_version, "
      ++ "current_user::TEXT AS username, "
      ++ "current_database()::TEXT AS database, "
      ++ "COALESCE((SELECT rolsuper FROM pg_catalog.pg_roles WHERE rolname = current_user), false) "
      ++ "AS is_superuser"
  | .roleExists _ => "SELECT 1 FROM pg_catalog.pg_roles WHERE rolname = $1"
  | .role _ bypass =>
    "SELECT r.rolname::TEXT AS name, "
      ++ "r.rolsuper AS superuser, "
      ++ "r.rolinherit AS inherit, "
      ++ "r.rolcreaterole AS create_role, "
      ++ "r.rolcreatedb AS create_database, "
      ++ "r.rolcanlogin AS login, "
      ++ "r.rolreplication AS replication, "
      ++ "r.rolconnlimit AS connection_limit, "
      ++ "COALESCE(r.rolvaliduntil::TEXT, '" ++ Expiry.never ++ "') AS valid_until, "
      ++ (if bypass then "r.rolbypassrls" else "NULL::BOOL") ++ " AS bypass_row_level_security, "
      ++ "ARRAY(SELECT g.rolname::TEXT FROM pg_catalog.pg_auth_members m "
      ++ "JOIN pg_catalog.pg_roles g ON g.oid = m.roleid "
      ++ "WHERE m.member = r.oid ORDER BY 1) AS roles "
      ++ "FROM pg_catalog.pg_roles r WHERE r.rolname = $1"
  | .passwordHash _ =>
    "SELECT passwd::TEXT AS passwd FROM pg_catalog.pg_shadow WHERE usename = $1"
  | .databaseExists _ => "SELECT 1 FROM pg_catalog.pg_database WHERE datname = $1"
  | .schemaExists _ => "SELECT 1 FROM pg_catalog.pg_namespace WHERE nspname = $1"
  | .schema _ =>
    "SELECT n.nspname::TEXT AS name, "
      ++ "pg_catalog.pg_get_userbyid(n.nspowner)::TEXT AS owner "
      ++ "FROM pg_catalog.pg_namespace n WHERE n.nspname = $1"
  | .schemaGrants _ =>
    "SELECT g.rolname::TEXT AS grantee, "
      ++ "a.privilege_type::TEXT AS privilege, "
      ++ "a.is_grantable AS grantable "
      ++ "FROM (SELECT n.nspowner, (pg_catalog.aclexplode(n.nspacl)).* "
      ++ "FROM pg_catalog.pg_namespace n WHERE n.nspname = $1) a "
      ++ "JOIN pg_catalog.pg_roles g ON g.oid = a.grantee "
      ++ "WHERE a.grantee <> a.nspowner "
      ++ "ORDER BY 1, 2"
  | .rule _ =>
    "SELECT a.privilege_type::TEXT AS privilege "
      ++ "FROM (SELECT (pg_catalog.aclexplode(d.defaclacl)).* "
      ++ "FROM pg_catalog.pg_default_acl d "
      ++ "JOIN pg_catalog.pg_namespace n ON n.oid = d.defaclnamespace "
      ++ "JOIN pg_catalog.pg_roles o ON o.oid = d.defaclrole "
      ++ "WHERE n.nspname = $1 AND o.rolname = $2 AND d.defaclobjtype::TEXT = $3) a "
      ++ "JOIN pg_catalog.pg_roles g ON g.oid = a.grantee "
      ++ "WHERE g.rolname = $4 "
      ++ "ORDER BY 1"
  | .extensionExists _ => "SELECT 1 FROM pg_catalog.pg_extension WHERE extname = $1"
  | .extension _ =>
    "SELECT e.extname::TEXT AS name, "
      ++ "n.nspname::TEXT AS schema, "
      ++ "e.extversion::TEXT AS version, "
      ++ "a.default_version::TEXT AS default_version "
      ++ "FROM pg_catalog.pg_extension e "
      ++ "JOIN pg_catalog.pg_namespace n ON n.oid = e.extnamespace "
      ++ "LEFT JOIN pg_catalog.pg_available_extensions a ON a.name = e.extname "
      ++ "WHERE e.extname = $1"

/-- The texts that the question is about, in the order of their numbers. -/
def parameters : Query → List String
  | .serverInfo => []
  | .roleExists name | .role name _ | .passwordHash name | .databaseExists name
  | .schemaExists name | .schema name | .schemaGrants name | .extensionExists name
  | .extension name => [name]
  | .rule key => [key.schema, key.owner, key.type.code, key.role]

end Query

end Accord
