import Accord.Document.Basic

/-!
# The outline of a document

Editors and other tools learn from a JSON Schema what a document may hold.  A `RecordOutline`
describes one record, `Document.outline` the whole document.
-/

namespace Accord

/-- What the value of a field looks like. -/
inductive Shape where
  | text
  | bool
  | int32
  | optionalText
  /-- A truth value or null. -/
  | optionalBool
  | texts
  /-- Texts without repetition. -/
  | textSet
  /-- Records with the outline of the given name. -/
  | records (name : String)
deriving DecidableEq

/-- What is told about one field of a record. -/
structure FieldOutline where
  name : String
  shape : Shape
  /-- The value when the field is left out; nothing for fields that have none then. -/
  default : Option Json
  /-- What the field is about, if its name does not say it. -/
  description : Option String

/-- What is told about a record. -/
structure RecordOutline where
  name : String
  description : String
  fields : List FieldOutline

/-- The members that describe a shape. -/
def Shape.members : Shape → List (String × Json)
  | .text => [("type", .text "string")]
  | .bool => [("type", .text "boolean")]
  | .int32 => [("type", .text "integer"), ("format", .text "int32")]
  | .optionalText => [("type", .texts ["string", "null"])]
  | .optionalBool => [("type", .texts ["boolean", "null"])]
  | .texts => [("type", .text "array"), ("items", .object [("type", .text "string")])]
  | .textSet =>
    [("type", .text "array"), ("items", .object [("type", .text "string")]),
      ("uniqueItems", .bool true)]
  | .records name =>
    [("type", .text "array"), ("items", .object [("$ref", .text ("#/definitions/" ++ name))])]

namespace FieldOutline

/-- Writes the description of a field. -/
def toJson (f : FieldOutline) : Json :=
  .object (
    Json.optionalMember "description" .text f.description
    ++ Json.optionalMember "default" id f.default
    ++ f.shape.members)

/-- A text that is empty when it is left out. -/
def text (name : String) (description : Option String) : FieldOutline :=
  ⟨name, .text, some (.text ""), description⟩

/-- A truth value with the given default. -/
def bool (name : String) (default : Bool) (description : Option String) : FieldOutline :=
  ⟨name, .bool, some (.bool default), description⟩

/-- A text or null, which is null when it is left out. -/
def optionalText (name : String) (description : Option String) : FieldOutline :=
  ⟨name, .optionalText, none, description⟩

/-- A list of records that is empty when it is left out. -/
def records (name record : String) : FieldOutline :=
  ⟨name, .records record, some (.array []), none⟩

end FieldOutline

/-- The members that describe a record, apart from its name. -/
def RecordOutline.members (r : RecordOutline) : List (String × Json) :=
  [("description", .text r.description),
    ("type", .text "object"),
    ("properties", .object (r.fields.map fun f => (f.name, f.toJson)))]

/-- The outline of a declared role; its defaults are those of `DeclaredRole.named`. -/
def DeclaredRole.outline : RecordOutline where
  name := "RoleSpec"
  description := "Declared role"
  fields := [
    .text "name" (some "Role name, the natural identity once created"),
    .optionalText "password" (some ("Password to set. `\"NULL\"` removes the password. "
      ++ "WARNING: Sensitive data, never logged")),
    .bool "encrypted_password" true (some "Store the password encrypted (`ENCRYPTED PASSWORD`)"),
    ⟨"valid_until", .text, some (.text Expiry.never),
      some "Password expiry timestamp, `infinity` for never, empty to leave unmanaged"⟩,
    ⟨"connection_limit", .int32, some (.int (-1)),
      some "Concurrent connection limit, `-1` for unlimited"⟩,
    .bool "superuser" false none,
    .bool "create_database" false none,
    .bool "create_role" false none,
    .bool "inherit" true none,
    .bool "login" false none,
    .bool "replication" false none,
    ⟨"bypass_row_level_security", .optionalBool, none,
      some ("Bypass row-level security. Unset means \"not managed\", which lets the same document "
        ++ "apply to servers without row-level security.")⟩,
    ⟨"roles", .textSet, some (.array []), some "Roles this role is a member of"⟩,
    .bool "skip_drop_role" false (some "Skip `DROP ROLE` when deleting"),
    .bool "skip_reassign_owned" false
      (some "Skip `REASSIGN OWNED` and `DROP OWNED` when deleting")]

/-- The outline of a policy of a declared schema. -/
def DeclaredPolicy.outline : RecordOutline where
  name := "PolicySpec"
  description := "Declared grantee policy on a schema"
  fields := [
    .text "role" (some "Grantee role"),
    .bool "create" false none,
    .bool "create_with_grant" false none,
    .bool "usage" false none,
    .bool "usage_with_grant" false none]

/-- The outline of a declared schema. -/
def DeclaredSchema.outline : RecordOutline where
  name := "SchemaSpec"
  description := "Declared schema"
  fields := [
    .text "name" none,
    .optionalText "database" (some "Target database, the connection's database when unset"),
    .optionalText "owner" (some "Owning role, the connecting user when unset"),
    .bool "if_not_exists" true (some "Use `CREATE SCHEMA IF NOT EXISTS`"),
    .records "policy" DeclaredPolicy.outline.name]

/-- The outline of a declared default-privilege rule. -/
def DeclaredRule.outline : RecordOutline where
  name := "DefaultPrivilegeSpec"
  description := "Declared default-privilege rule"
  fields := [
    .optionalText "database" none,
    .text "schema" none,
    .text "owner" (some "Role whose future objects are affected"),
    .text "role" (some "Grantee"),
    .text "object_type" none,
    ⟨"privileges", .texts, some (.array []), none⟩]

/-- The outline of a declared extension. -/
def DeclaredExtension.outline : RecordOutline where
  name := "ExtensionSpec"
  description := "Declared extension"
  fields := [
    .text "name" none,
    .optionalText "database" none,
    .optionalText "schema" (some "Installation schema, server default when unset"),
    .optionalText "version" (some "Version, latest available when unset")]

/-- The outline of a document: four sections, each of which may be left out. -/
def Document.outline : RecordOutline where
  name := "DesiredState"
  description :=
    "Declared state for one server\n\nEvery section is optional; missing sections are empty."
  fields := [
    .records "roles" DeclaredRole.outline.name,
    .records "schemas" DeclaredSchema.outline.name,
    .records "default_privileges" DeclaredRule.outline.name,
    .records "extensions" DeclaredExtension.outline.name]

/-- The JSON Schema of documents, which lists the records that they refer to by name. -/
def Document.jsonSchema : Json :=
  let parts := [DeclaredRule.outline, DeclaredExtension.outline, DeclaredPolicy.outline,
    DeclaredRole.outline, DeclaredSchema.outline]
  .object (
    [("$schema", .text "http://json-schema.org/draft-07/schema#"),
      ("title", .text Document.outline.name)]
    ++ Document.outline.members
    ++ [("additionalProperties", .bool false),
      ("definitions", .object (parts.map fun r => (r.name, .object r.members)))])

end Accord
