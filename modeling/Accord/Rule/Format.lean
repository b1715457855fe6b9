import Accord.Access.Format
import Accord.Rule.Basic

/-!
# Default-privilege rules in documents

How declared and observed rules are read from JSON and written to it.
-/

namespace Accord

open Decoder (field record)

/-- A rule about nothing, which fields are read into. -/
def DeclaredRule.blank : DeclaredRule := ⟨none, "", "", "", "", []⟩

/-- The fields of a declared rule; all of them may be left out. -/
def DeclaredRule.fields : List (Decoder.Field DeclaredRule) := [
  field "database" .defaulted (.option .text) fun v r => { r with database := v },
  field "schema" .defaulted .text fun v r => { r with schema := v },
  field "owner" .defaulted .text fun v r => { r with owner := v },
  field "role" .defaulted .text fun v r => { r with role := v },
  field "object_type" .defaulted .text fun v r => { r with objectType := v },
  field "privileges" .defaulted (.list .text) fun v r => { r with privileges := v }]

/-- Reads a declared rule; other fields are passed over. -/
def DeclaredRule.decoder : Decoder DeclaredRule :=
  record "DefaultPrivilegeSpec" DeclaredRule.blank DeclaredRule.fields false

/-- Writes a declared rule, with its privileges as they were spelled. -/
def DeclaredRule.toJson (r : DeclaredRule) : Json :=
  .object (
    Json.optionalMember "database" .text r.database
    ++ [("schema", .text r.schema),
      ("owner", .text r.owner),
      ("role", .text r.role),
      ("object_type", .text r.objectType),
      ("privileges", .texts r.privileges)])

/-- A rule that gives nothing, which fields are read into. -/
def Rule.blank : Rule := ⟨⟨"", "", "", "", .table⟩, ∅⟩

/-- The fields of an observed rule, none of which may be left out. -/
def Rule.fields : List (Decoder.Field Rule) := [
  field "database" .required .text fun v r => { r with key := { r.key with database := v } },
  field "schema" .required .text fun v r => { r with key := { r.key with schema := v } },
  field "owner" .required .text fun v r => { r with key := { r.key with owner := v } },
  field "role" .required .text fun v r => { r with key := { r.key with role := v } },
  field "object_type" .required ObjectType.decoder
    fun v r => { r with key := { r.key with type := v } },
  field "privileges" .required (.set Privilege.decoder) fun v r => { r with privileges := v }]

/-- Reads an observed rule. -/
def Rule.decoder : Decoder Rule :=
  record "DefaultPrivilegeState" Rule.blank Rule.fields false

/-- The members that an observed rule is written with. -/
def Rule.members (r : Rule) : List (String × Json) :=
  [("database", .text r.key.database),
    ("schema", .text r.key.schema),
    ("owner", .text r.key.owner),
    ("role", .text r.key.role),
    ("object_type", r.key.type.toJson),
    ("privileges", .array (r.privileges.toList.map Privilege.toJson))]

/-- Writes an observed rule. -/
def Rule.toJson (r : Rule) : Json :=
  .object r.members

end Accord
