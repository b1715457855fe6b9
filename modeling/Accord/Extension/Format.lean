import Accord.Extension.Basic
import Accord.Json.Decoder

/-!
# Extensions in documents

How declared and installed extensions are read from JSON and written to it.
-/

namespace Accord

open Decoder (field record)

/-- An extension without a name, which fields are read into. -/
def DeclaredExtension.blank : DeclaredExtension := ⟨"", none, none, none⟩

/-- The fields of a declared extension; all of them may be left out. -/
def DeclaredExtension.fields : List (Decoder.Field DeclaredExtension) := [
  field "name" .defaulted .text fun v e => { e with name := v },
  field "database" .defaulted (.option .text) fun v e => { e with database := v },
  field "schema" .defaulted (.option .text) fun v e => { e with schema := v },
  field "version" .defaulted (.option .text) fun v e => { e with version := v }]

/-- Reads a declared extension; other fields are passed over. -/
def DeclaredExtension.decoder : Decoder DeclaredExtension :=
  record "ExtensionSpec" DeclaredExtension.blank DeclaredExtension.fields false

/-- Writes a declared extension without the fields that are not set. -/
def DeclaredExtension.toJson (e : DeclaredExtension) : Json :=
  .object (
    [("name", .text e.name)]
    ++ Json.optionalMember "database" .text e.database
    ++ Json.optionalMember "schema" .text e.schema
    ++ Json.optionalMember "version" .text e.version)

/-- The fields of an installed extension; only the version on offer may be left out. -/
def InstalledExtension.fields : List (Decoder.Field InstalledExtension) := [
  field "name" .required .text fun v e => { e with name := v },
  field "database" .required .text fun v e => { e with database := v },
  field "schema" .required .text fun v e => { e with schema := v },
  field "version" .required .text fun v e => { e with version := v },
  field "default_version" .optional (.option .text) fun v e => { e with defaultVersion := v }]

/-- Reads an installed extension; other fields are passed over. -/
def InstalledExtension.decoder : Decoder InstalledExtension :=
  record "ExtensionState" ⟨"", "", "", "", none⟩ InstalledExtension.fields false

/-- Writes an installed extension. -/
def InstalledExtension.toJson (e : InstalledExtension) : Json :=
  .object (
    [("name", .text e.name),
      ("database", .text e.database),
      ("schema", .text e.schema),
      ("version", .text e.version)]
    ++ Json.optionalMember "default_version" .text e.defaultVersion)

end Accord
