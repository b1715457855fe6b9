import Accord.Extension.Change
import Accord.Extension.Format
import Accord.Lifecycle.Basic
import Accord.Session.Context

/-!
# The lifecycle of extensions

An extension is identified by its database and its name.  Its schema and its version can be changed,
its name and its database cannot.
-/

namespace Accord

namespace Lifecycle.Extension

variable {σ : Type}

/-- Applies a plan and reads the declared extension again. -/
def applyPlan (ctx : Context σ) (spec : DeclaredExtension) (plan : Plan) :
    Run σ (Outcome InstalledExtension) := do
  let database ← spec.databaseOf
  ctx.hold .exclusive
  let s ← ctx.session database
  let applied ← s.apply plan
  let observed ← s.extension? database spec.name
  Run.ofExcept (Outcome.ofReread "extension" (joinIdentity [database, spec.name]) applied observed
    spec.updatePlan)

/-- Installs a declared extension. -/
def create (ctx : Context σ) (desired : DeclaredExtension) :
    Run σ (Outcome InstalledExtension) := do
  ctx.requireWritable
  ctx.dialect.require .extension
  let spec ← desired.normalize ctx.defaultDatabase
  applyPlan ctx spec spec.creationPlan

/-- Reads the extension of an identity. -/
def read (ctx : Context σ) (id : String) : Run σ (Option InstalledExtension) := do
  let (database, name) ← InstalledExtension.decodeKey id
  ctx.hold .shared
  let s ← ctx.session ctx.defaultDatabase
  if ← s.exists? (.databaseExists database) then
    let s ← ctx.session database
    s.extension? database name
  else return none

/-- Makes an installed extension the declared one. -/
def update (ctx : Context σ) (current : InstalledExtension) (desired : DeclaredExtension) :
    Run σ (Outcome InstalledExtension) := do
  ctx.requireWritable
  ctx.dialect.require .extension
  let spec ← desired.normalize ctx.defaultDatabase
  let plan ← spec.updatePlan current
  applyPlan ctx spec plan

/-- Removes the extension of an identity. -/
def delete (ctx : Context σ) (id : String) : Run σ Unit := do
  ctx.requireWritable
  ctx.dialect.require .extension
  let (database, name) ← InstalledExtension.decodeKey id
  ctx.hold .exclusive
  let s ← ctx.session database
  let _ ← s.apply [.dropExtension name]

/-- Whether the extension of an identity is installed. -/
def exists? (ctx : Context σ) (id : String) : Run σ Bool := do
  let (database, name) ← InstalledExtension.decodeKey id
  ctx.hold .shared
  let s ← ctx.session ctx.defaultDatabase
  if ← s.exists? (.databaseExists database) then
    let s ← ctx.session database
    s.exists? (.extensionExists name)
  else return false

/-- The statements that a creation or an update would apply. -/
def plan (ctx : Context σ) (current : Option InstalledExtension) (desired : DeclaredExtension) :
    Except Error Plan := do
  ctx.dialect.require .extension
  let spec ← desired.normalize ctx.defaultDatabase
  match current with
  | some current => spec.updatePlan current
  | none => return spec.creationPlan

/-- The identity of a declared extension: its database and its name. -/
def identity (ctx : Context σ) (desired : DeclaredExtension) : Except Error String := do
  let spec ← desired.normalize ctx.defaultDatabase
  return joinIdentity [← spec.databaseOf, spec.name]

end Lifecycle.Extension

/-- The lifecycle of extensions.  The catalog tells all about them, and their deletion has no
options. -/
def Lifecycle.extensions : Lifecycle DeclaredExtension InstalledExtension Unit where
  kind := "extension"
  decoder := DeclaredExtension.decoder
  toJson := InstalledExtension.toJson
  identity := Extension.identity
  create := Extension.create
  read ctx id _ := Extension.read ctx id
  update ctx _ := Extension.update ctx
  delete ctx id _ := Extension.delete ctx id
  exists? := Extension.exists?
  plan := Extension.plan

end Accord
