import Accord.Access.Format
import Accord.Schema.Basic

/-!
# Schemas in documents

How schemas and the options for removing them are read from JSON and written to it.  The policies
of an observed schema are written as declarations, and they are not read.
-/

namespace Accord

open Decoder (field record)

/-- A declaration of no rights for nobody, which fields are read into. -/
def DeclaredPolicy.blank : DeclaredPolicy := ⟨"", false, false, false, false⟩

/-- The fields of a policy; all of them may be left out. -/
def DeclaredPolicy.fields : List (Decoder.Field DeclaredPolicy) := [
  field "role" .defaulted .text fun v p => { p with role := v },
  field "create" .defaulted .bool fun v p => { p with create := v },
  field "create_with_grant" .defaulted .bool fun v p => { p with createWithGrant := v },
  field "usage" .defaulted .bool fun v p => { p with usage := v },
  field "usage_with_grant" .defaulted .bool fun v p => { p with usageWithGrant := v }]

/-- Reads a policy; other fields are passed over. -/
def DeclaredPolicy.decoder : Decoder DeclaredPolicy :=
  record "PolicySpec" DeclaredPolicy.blank DeclaredPolicy.fields false

/-- Writes a policy. -/
def DeclaredPolicy.toJson (p : DeclaredPolicy) : Json :=
  .object [("role", .text p.role),
    ("create", .bool p.create),
    ("create_with_grant", .bool p.createWithGrant),
    ("usage", .bool p.usage),
    ("usage_with_grant", .bool p.usageWithGrant)]

/-- Reads the rights of all grantees. -/
def Policies.decoder : Decoder Policies :=
  Decoder.map SchemaRights.decoder

/-- Writes the rights of all grantees. -/
def Policies.toJson (policies : Policies) : Json :=
  .object (policies.entries.map fun e => (e.1, SchemaRights.toJson e.2))

/-- The fields of a declared schema; all of them may be left out. -/
def DeclaredSchema.fields : List (Decoder.Field DeclaredSchema) := [
  field "name" .defaulted .text fun v s => { s with name := v },
  field "database" .defaulted (.option .text) fun v s => { s with database := v },
  field "owner" .defaulted (.option .text) fun v s => { s with owner := v },
  field "if_not_exists" .defaulted .bool fun v s => { s with ifNotExists := v },
  field "policy" .defaulted (.list DeclaredPolicy.decoder) fun v s => { s with policies := v }]

/-- Reads a declared schema; other fields are passed over. -/
def DeclaredSchema.decoder : Decoder DeclaredSchema :=
  record "SchemaSpec" (DeclaredSchema.named "") DeclaredSchema.fields false

/-- Writes a declared schema, with its policies as they were declared. -/
def DeclaredSchema.toJson (s : DeclaredSchema) : Json :=
  .object (
    [("name", .text s.name)]
    ++ Json.optionalMember "database" .text s.database
    ++ Json.optionalMember "owner" .text s.owner
    ++ [("if_not_exists", .bool s.ifNotExists),
      ("policy", .array (s.policies.map DeclaredPolicy.toJson))])

/-- The fields of an observed schema that are read. -/
def ObservedSchema.fields : List (Decoder.Field ObservedSchema) := [
  field "name" .required .text fun v s => { s with name := v },
  field "database" .required .text fun v s => { s with database := v },
  field "owner" .required .text fun v s => { s with owner := v }]

/-- Reads an observed schema, without its policies. -/
def ObservedSchema.decoder : Decoder ObservedSchema :=
  record "SchemaState" ⟨"", "", "", ∅⟩ ObservedSchema.fields false

/-- Writes an observed schema, with one policy for each grantee. -/
def ObservedSchema.toJson (s : ObservedSchema) : Json :=
  .object [("name", .text s.name),
    ("database", .text s.database),
    ("owner", .text s.owner),
    ("policies", .array (s.policies.entries.map fun e => (DeclaredPolicy.ofRights e.1 e.2).toJson))]

/-- Reads the options for a removal. -/
def SchemaRemoval.decoder : Decoder SchemaRemoval :=
  record "SchemaDropOptions" ⟨false⟩ [
    field "cascade" .required .bool fun v o => { o with cascade := v }] false

/-- Writes the options for a removal. -/
def SchemaRemoval.toJson (o : SchemaRemoval) : Json :=
  .object [("cascade", .bool o.cascade)]

end Accord
