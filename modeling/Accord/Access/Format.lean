import Accord.Access.Privilege
import Accord.Json.Decoder

/-!
# Privileges in documents

How object types, privileges and rights on schemas are read from JSON and written to it.
-/

namespace Accord

open Decoder (field record)

/-- Reads an object type by its name; other spellings are no names. -/
def ObjectType.decoder : Decoder ObjectType :=
  Decoder.enumeration (ObjectType.all.map fun t => (t.name, t))

/-- Writes an object type by its name. -/
def ObjectType.toJson (t : ObjectType) : Json := .text t.name

/-- Reads a privilege by its keyword; other spellings are no keywords. -/
def Privilege.decoder : Decoder Privilege :=
  Decoder.enumeration (Privilege.all.map fun p => (p.sql, p))

/-- Writes a privilege as its keyword. -/
def Privilege.toJson (p : Privilege) : Json := .text p.sql

/-- Reads a schema privilege by its keyword; other spellings are no keywords. -/
def SchemaPrivilege.decoder : Decoder SchemaPrivilege :=
  Decoder.enumeration (SchemaPrivilege.all.map fun p => (p.sql, p))

/-- Writes a schema privilege as its keyword. -/
def SchemaPrivilege.toJson (p : SchemaPrivilege) : Json := .text p.sql

/-- Reads a right; whether it is the option to grant must be said. -/
def SchemaRight.decoder : Decoder SchemaRight :=
  record "PolicyBit" ⟨.create, false⟩ [
    field "privilege" .required SchemaPrivilege.decoder fun v b => { b with privilege := v },
    field "grant_option" .required .bool fun v b => { b with grantOption := v }] false

/-- Writes a right as its privilege and whether it is the option to grant. -/
def SchemaRight.toJson (b : SchemaRight) : Json :=
  .object [("privilege", b.privilege.toJson), ("grant_option", .bool b.grantOption)]

/-- Reads the rights of one grantee. -/
def SchemaRights.decoder : Decoder SchemaRights :=
  Decoder.set SchemaRight.decoder

/-- Writes the rights of one grantee. -/
def SchemaRights.toJson (rights : SchemaRights) : Json :=
  .array (rights.toList.map SchemaRight.toJson)

end Accord
