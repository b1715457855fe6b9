import Accord.Json.Decoder

/-!
# Facts about a server

What is asked of a server once, when the first session is opened.
-/

namespace Accord

open Decoder (field record)

/-- The connected server and the user that is connected to it. -/
structure ServerFacts where
  /-- The version, as the server reports it. -/
  version : String
  currentUser : String
  database : String
  isSuperuser : Bool
deriving DecidableEq

namespace ServerFacts

/-- Reads the facts about a server. -/
def decoder : Decoder ServerFacts :=
  record "ServerInfo" ⟨"", "", "", false⟩ [
    field "server_version" .required .text fun v i => { i with version := v },
    field "current_user" .required .text fun v i => { i with currentUser := v },
    field "database" .required .text fun v i => { i with database := v },
    field "is_superuser" .required .bool fun v i => { i with isSuperuser := v }] false

/-- Writes the facts about a server. -/
def toJson (i : ServerFacts) : Json :=
  .object [("server_version", .text i.version),
    ("current_user", .text i.currentUser),
    ("database", .text i.database),
    ("is_superuser", .bool i.isSuperuser)]

end ServerFacts

end Accord
