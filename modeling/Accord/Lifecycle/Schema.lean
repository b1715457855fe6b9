import Accord.Lifecycle.Basic
import Accord.Schema.Change
import Accord.Schema.Format

/-!
# The lifecycle of schemas

A schema is identified by its database and its name, and what is done to it is done in a session on
its database.  Reading asks first whether there is such a database.
-/

namespace Accord

namespace Lifecycle.Schema

variable {σ : Type}

/-- Applies a plan and reads the declared schema again. -/
def applyPlan (ctx : Context σ) (spec : NormalSchema) (plan : Plan) :
    Run σ (Outcome ObservedSchema) := do
  ctx.hold .exclusive
  let s ← ctx.session spec.database
  let applied ← s.apply plan
  let observed ← s.schema? spec.database spec.name
  Run.ofExcept (Outcome.ofReread "schema" spec.identity applied observed spec.updatePlan)

/-- Creates a declared schema.  Without a declared owner the current user owns it, who needs no
grants. -/
def create (ctx : Context σ) (desired : DeclaredSchema) : Run σ (Outcome ObservedSchema) := do
  ctx.requireWritable
  let spec ← desired.normalize ctx.defaultDatabase
  applyPlan ctx spec (spec.creationPlan ctx.facts.currentUser ctx.dialect)

/-- Reads the schema of an identity. -/
def read (ctx : Context σ) (id : String) : Run σ (Option ObservedSchema) := do
  let (database, name) ← ObservedSchema.decodeKey id
  ctx.hold .shared
  let s ← ctx.session ctx.defaultDatabase
  if ← s.exists? (.databaseExists database) then
    let s ← ctx.session database
    s.schema? database name
  else return none

/-- Makes an observed schema the declared one. -/
def update (ctx : Context σ) (current : ObservedSchema) (desired : DeclaredSchema) :
    Run σ (Outcome ObservedSchema) := do
  ctx.requireWritable
  let spec ← desired.normalize ctx.defaultDatabase
  let plan ← spec.updatePlan current
  applyPlan ctx spec plan

/-- Deletes the schema of an identity. -/
def delete (ctx : Context σ) (id : String) (options : SchemaRemoval) : Run σ Unit := do
  ctx.requireWritable
  let (database, name) ← ObservedSchema.decodeKey id
  ctx.hold .exclusive
  let s ← ctx.session database
  let _ ← s.apply (options.plan name)

/-- Whether there is a schema of an identity. -/
def exists? (ctx : Context σ) (id : String) : Run σ Bool := do
  let (database, name) ← ObservedSchema.decodeKey id
  ctx.hold .shared
  let s ← ctx.session ctx.defaultDatabase
  if ← s.exists? (.databaseExists database) then
    let s ← ctx.session database
    s.exists? (.schemaExists name)
  else return false

/-- The statements that a creation or an update would apply. -/
def plan (ctx : Context σ) (current : Option ObservedSchema) (desired : DeclaredSchema) :
    Except Error Plan := do
  let spec ← desired.normalize ctx.defaultDatabase
  match current with
  | some current => spec.updatePlan current
  | none => return spec.creationPlan ctx.facts.currentUser ctx.dialect

end Lifecycle.Schema

/-- The lifecycle of schemas.  The catalog tells all about them. -/
def Lifecycle.schemas : Lifecycle DeclaredSchema ObservedSchema SchemaRemoval where
  kind := "schema"
  decoder := DeclaredSchema.decoder
  toJson := ObservedSchema.toJson
  identity ctx desired := (desired.normalize ctx.defaultDatabase).map NormalSchema.identity
  create := Schema.create
  read ctx id _ := Schema.read ctx id
  update ctx _ := Schema.update ctx
  delete := Schema.delete
  exists? := Schema.exists?
  plan := Schema.plan

end Accord
