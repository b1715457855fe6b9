import Accord.Extension.Format
import Accord.Role.Format
import Accord.Rule.Format
import Accord.Schema.Format

/-!
# Documents

A document declares roles, schemas, default-privilege rules and extensions of one server.  Every
section may be left out, but there are no other sections.
-/

namespace Accord

open Decoder (field record)

/-- What is declared for one server. -/
structure Document where
  roles : List DeclaredRole
  schemas : List DeclaredSchema
  rules : List DeclaredRule
  extensions : List DeclaredExtension
deriving DecidableEq

namespace Document

/-- A document that declares nothing. -/
def empty : Document := ⟨[], [], [], []⟩

/-- Whether nothing is declared. -/
def isEmpty (d : Document) : Bool :=
  d.roles.isEmpty && d.schemas.isEmpty && d.rules.isEmpty && d.extensions.isEmpty

/-- The sections of a document, each a list that may be left out. -/
def fields : List (Decoder.Field Document) := [
  field "roles" .defaulted (.list DeclaredRole.decoder) fun v d => { d with roles := v },
  field "schemas" .defaulted (.list DeclaredSchema.decoder) fun v d => { d with schemas := v },
  field "default_privileges" .defaulted (.list DeclaredRule.decoder)
    fun v d => { d with rules := v },
  field "extensions" .defaulted (.list DeclaredExtension.decoder)
    fun v d => { d with extensions := v }]

/-- Reads a document; a section of another name is an error. -/
def decoder : Decoder Document :=
  record "DesiredState" empty fields true

/-- Writes a document with all of its sections, also the empty ones. -/
def toJson (d : Document) : Json :=
  .object [("roles", .array (d.roles.map DeclaredRole.toJson)),
    ("schemas", .array (d.schemas.map DeclaredSchema.toJson)),
    ("default_privileges", .array (d.rules.map DeclaredRule.toJson)),
    ("extensions", .array (d.extensions.map DeclaredExtension.toJson))]

/-- The document that a text holds. -/
def parse (text : String) : Except Error Document :=
  match Decoder.ofText decoder text with
  | .ok d => .ok d
  | .error p => .error (.config (.invalidDocument p))

end Document

end Accord
