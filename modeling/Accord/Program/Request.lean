import Accord.Profile.Store
import Accord.Role.Basic

/-!
# Requests

What the program can be asked to do, one request a run.
-/

namespace Accord

/-- A kind of object. -/
inductive Kind where
  | role
  | schema
  | rule
  | extension
deriving DecidableEq, Repr

namespace Kind

/-- All kinds. -/
def all : List Kind := [.role, .schema, .rule, .extension]

/-- The name of a kind among the arguments of the program. -/
def argument : Kind → String
  | .role => "role"
  | .schema => "schema"
  | .rule => "default-privileges"
  | .extension => "extension"

/-- The kind that an argument names. -/
def ofArgument? (s : String) : Option Kind :=
  all.find? fun k => k.argument = s

end Kind

/-- Which server to talk to. -/
structure Target where
  /-- The profile; the default one if none is named. -/
  profile : Option String
  /-- Whether nothing may be changed, whatever the profile says. -/
  readOnly : Bool
deriving DecidableEq

/-- What is asked for when an object is deleted. -/
structure Deletion where
  kind : Kind
  id : String
  /-- Whether no confirmation is needed. -/
  confirmed : Bool
  /-- What becomes of the objects in a schema. -/
  cascade : Bool
  role : RoleRemoval
deriving DecidableEq

/-- What the program is asked to do. -/
inductive Request where
  /-- Tries a connection and stores it as a profile. -/
  | connect (name : String) (connection : Profile) (scope : ProfileScope)
  /-- Shows what the objects of a document still need. -/
  | plan (target : Target) (file : String)
  /-- Creates or updates the objects of a document. -/
  | apply (target : Target) (file : String)
  /-- Shows an object as it is. -/
  | read (target : Target) (kind : Kind) (id : String)
  | delete (target : Target) (deletion : Deletion)
  /-- Shows the JSON Schema of a document. -/
  | schema
deriving DecidableEq

/-- What the program says when it is asked for its version. -/
def Request.versionLine : String := "pgconverge 0.3.0"

/-- The name of a request among the arguments of the program, and in envelopes. -/
def Request.command : Request → String
  | .connect .. => "connect"
  | .plan .. => "plan"
  | .apply .. => "apply"
  | .read .. => "read"
  | .delete .. => "delete"
  | .schema => "schema"

end Accord
