import Accord.Json.Flattened
import Accord.Profile.Basic

/-!
# Profiles in documents

How connections, profiles and registries are read from JSON and written to it.  A stored profile is
one object with the fields of its connection beside its own.
-/

namespace Accord

open Decoder (field record)

namespace Connection

/-- A connection to nowhere, which fields are read into. -/
def blank : Connection := ⟨"", 0, "", none, ""⟩

/-- The fields of a connection; only the password may be left out. -/
def fields : List (Decoder.Field Connection) := [
  field "host" .required .text fun v c => { c with host := v },
  field "port" .required .port fun v c => { c with port := v },
  field "user" .required .text fun v c => { c with user := v },
  field "password" .optional (.option .text) fun v c => { c with password := v },
  field "database" .required .text fun v c => { c with database := v }]

/-- Reads a connection; other fields are passed over. -/
def decoder : Decoder Connection :=
  record "ConnectionConfig" blank fields false

/-- The members that a connection is written with, also as part of a stored profile. -/
def members (c : Connection) : List (String × Json) :=
  [("host", .text c.host), ("port", .int c.port), ("user", .text c.user)]
    ++ Json.optionalMember "password" .text c.password
    ++ [("database", .text c.database)]

/-- Writes a connection. -/
def toJson (c : Connection) : Json :=
  .object c.members

end Connection

namespace Profile

/-- The fields that a stored profile has beside those of its connection. -/
def fields : List (Decoder.Field Profile) := [
  field "password_env" .defaulted (.option .text) fun v c => { c with passwordVariable := v },
  field "readonly" .defaulted (.option .bool) fun v c => { c with readOnly := v }]

/-- Reads a stored profile. -/
def decoder : Decoder Profile :=
  Decoder.flattened "StoredConnection" (ofConfig .blank) fields Connection.decoder
    fun v c => { c with config := v }

/-- Writes a stored profile. -/
def toJson (c : Profile) : Json :=
  .object (
    c.config.members
    ++ Json.optionalMember "password_env" .text c.passwordVariable
    ++ Json.optionalMember "readonly" .bool c.readOnly)

end Profile

namespace Profiles

/-- Reads the profiles of a project. -/
def decoder : Decoder Profiles :=
  record "ProjectProfiles" empty [
    field "connections" .required (.map Profile.decoder)
      fun v p => { p with connections := v },
    field "default" .defaulted (.option .text) fun v p => { p with default := v }] false

/-- Writes the profiles of a project. -/
def toJson (p : Profiles) : Json :=
  .object (
    [("connections", .object (p.connections.entries.map fun e => (e.1, e.2.toJson)))]
    ++ Json.optionalMember "default" .text p.default)

end Profiles

namespace Registry

/-- Reads the profiles of all projects. -/
def decoder : Decoder Registry :=
  record "GlobalRegistry" empty [
    field "projects" .required (.map Profiles.decoder) fun v r => { r with projects := v }] false

/-- Writes the profiles of all projects, in ascending order of their directories. -/
def toJson (r : Registry) : Json :=
  .object [("projects", .object (r.projects.entries.map fun e => (e.1, e.2.toJson)))]

end Registry

end Accord
