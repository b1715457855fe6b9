import Accord.Json.Decoder
import Accord.Role.Basic

/-!
# Roles in documents

How roles and the options for removing them are read from JSON and written to it.  What a declared
role leaves out has the value of `DeclaredRole.named`; an observed role is written without its
password.
-/

namespace Accord

open Decoder (field record)

/-- The fields of a declared role; all of them may be left out. -/
def DeclaredRole.fields : List (Decoder.Field DeclaredRole) := [
  field "name" .defaulted .text fun v r => { r with name := v },
  field "password" .defaulted (.option .text) fun v r => { r with password := v },
  field "encrypted_password" .defaulted .bool fun v r => { r with encryptedPassword := v },
  field "valid_until" .defaulted .text fun v r => { r with validUntil := v },
  field "connection_limit" .defaulted .int32 fun v r => { r with connectionLimit := v },
  field "superuser" .defaulted .bool fun v r => { r with superuser := v },
  field "create_database" .defaulted .bool fun v r => { r with createDatabase := v },
  field "create_role" .defaulted .bool fun v r => { r with createRole := v },
  field "inherit" .defaulted .bool fun v r => { r with inherit := v },
  field "login" .defaulted .bool fun v r => { r with login := v },
  field "replication" .defaulted .bool fun v r => { r with replication := v },
  field "bypass_row_level_security" .defaulted (.option .bool)
    fun v r => { r with bypassRowLevelSecurity := v },
  field "roles" .defaulted (.set .text) fun v r => { r with roles := v },
  field "skip_drop_role" .defaulted .bool fun v r => { r with skipDropRole := v },
  field "skip_reassign_owned" .defaulted .bool fun v r => { r with skipReassignOwned := v }]

/-- Reads a declared role; other fields are passed over. -/
def DeclaredRole.decoder : Decoder DeclaredRole :=
  record "RoleSpec" (DeclaredRole.named "") DeclaredRole.fields false

/-- Writes a declared role, with its password. -/
def DeclaredRole.toJson (r : DeclaredRole) : Json :=
  .object (
    [("name", .text r.name)]
    ++ Json.optionalMember "password" .text r.password
    ++ [("encrypted_password", .bool r.encryptedPassword),
      ("valid_until", .text r.validUntil),
      ("connection_limit", .int r.connectionLimit),
      ("superuser", .bool r.superuser),
      ("create_database", .bool r.createDatabase),
      ("create_role", .bool r.createRole),
      ("inherit", .bool r.inherit),
      ("login", .bool r.login),
      ("replication", .bool r.replication)]
    ++ Json.optionalMember "bypass_row_level_security" .bool r.bypassRowLevelSecurity
    ++ [("roles", .texts r.roles.toList),
      ("skip_drop_role", .bool r.skipDropRole),
      ("skip_reassign_owned", .bool r.skipReassignOwned)])

/-- Reads the options for a removal. -/
def RoleRemoval.decoder : Decoder RoleRemoval :=
  record "RoleDropOptions" ⟨false, false⟩ [
    field "skip_reassign_owned" .required .bool fun v r => { r with skipReassignOwned := v },
    field "skip_drop_role" .required .bool fun v r => { r with skipDropRole := v }] false

/-- Writes the options for a removal. -/
def RoleRemoval.toJson (r : RoleRemoval) : Json :=
  .object [("skip_reassign_owned", .bool r.skipReassignOwned),
    ("skip_drop_role", .bool r.skipDropRole)]

/-- A role without a name, which the fields of an observed role are read into. -/
def ObservedRole.blank : ObservedRole :=
  ⟨"", false, false, false, false, false, false, 0, "", none, ∅, none, none⟩

/-- The fields of an observed role; those that not every reader of the catalog can know may be left
out. -/
def ObservedRole.fields : List (Decoder.Field ObservedRole) := [
  field "name" .required .text fun v r => { r with name := v },
  field "superuser" .required .bool fun v r => { r with superuser := v },
  field "create_database" .required .bool fun v r => { r with createDatabase := v },
  field "create_role" .required .bool fun v r => { r with createRole := v },
  field "inherit" .required .bool fun v r => { r with inherit := v },
  field "login" .required .bool fun v r => { r with login := v },
  field "replication" .required .bool fun v r => { r with replication := v },
  field "connection_limit" .required .int32 fun v r => { r with connectionLimit := v },
  field "valid_until" .required .text fun v r => { r with validUntil := v },
  field "bypass_row_level_security" .optional (.option .bool)
    fun v r => { r with bypassRowLevelSecurity := v },
  field "roles" .required (.set .text) fun v r => { r with roles := v },
  field "password" .optional (.option .text) fun v r => { r with password := v },
  field "password_hash" .optional (.option .text) fun v r => { r with passwordHash := v }]

/-- Reads an observed role; other fields are passed over. -/
def ObservedRole.decoder : Decoder ObservedRole :=
  record "RoleState" ObservedRole.blank ObservedRole.fields false

/-- The members that an observed role is written with; neither its password nor the hash is among
them. -/
def ObservedRole.members (r : ObservedRole) : List (String × Json) :=
  [("name", .text r.name),
    ("superuser", .bool r.superuser),
    ("create_database", .bool r.createDatabase),
    ("create_role", .bool r.createRole),
    ("inherit", .bool r.inherit),
    ("login", .bool r.login),
    ("replication", .bool r.replication),
    ("connection_limit", .int r.connectionLimit),
    ("valid_until", .text r.validUntil)]
  ++ Json.optionalMember "bypass_row_level_security" .bool r.bypassRowLevelSecurity
  ++ [("roles", .texts r.roles.toList)]

/-- Writes an observed role. -/
def ObservedRole.toJson (r : ObservedRole) : Json :=
  .object r.members

end Accord
