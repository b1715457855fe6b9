import Accord.Lifecycle.Basic
import Accord.Role.Change
import Accord.Role.Format

/-!
# The lifecycle of roles

Roles belong to the whole server, so all sessions are opened on the default database.  A role is
identified by its name.
-/

namespace Accord

/-- The role of a name.  The catalog does not tell the password, and old servers do not know who
bypasses row-level security: both come from what was last applied, and without that nobody does. -/
def Session.knownRole? {σ : Type} (s : Session σ) (ctx : Context σ) (name : String)
    (lastKnown : Option DeclaredRole) : Run σ (Option ObservedRole) := do
  let state ← s.role? name ctx.dialect ctx.facts.isSuperuser
  let password := lastKnown.bind DeclaredRole.password
  let lastBypass := (lastKnown.bind DeclaredRole.bypassRowLevelSecurity).getD false
  return state.map fun r => { r with
    password
    bypassRowLevelSecurity :=
      if ctx.dialect.supports .rowLevelSecurity then r.bypassRowLevelSecurity else some lastBypass }

namespace Lifecycle.Role

variable {σ : Type}

/-- Applies a plan and reads the declared role again. -/
def applyPlan (ctx : Context σ) (spec : DeclaredRole) (plan : Plan) :
    Run σ (Outcome ObservedRole) := do
  ctx.hold .exclusive
  let s ← ctx.session ctx.defaultDatabase
  let applied ← s.apply plan
  let observed ← s.knownRole? ctx spec.name (some spec)
  Run.ofExcept (Outcome.ofReread "role" spec.name applied observed (spec.updatePlan ctx.dialect))

/-- Creates a declared role. -/
def create (ctx : Context σ) (desired : DeclaredRole) : Run σ (Outcome ObservedRole) := do
  ctx.requireWritable
  let spec ← desired.normalize
  let plan ← spec.creationPlan ctx.dialect
  applyPlan ctx spec plan

/-- Reads the role of an identity. -/
def read (ctx : Context σ) (id : String) (lastKnown : Option DeclaredRole) :
    Run σ (Option ObservedRole) := do
  let name ← normalizeName id "role"
  ctx.hold .shared
  let s ← ctx.session ctx.defaultDatabase
  s.knownRole? ctx name lastKnown

/-- Makes an observed role, which must be the one of the identity, the declared one. -/
def update (ctx : Context σ) (id : String) (current : ObservedRole) (desired : DeclaredRole) :
    Run σ (Outcome ObservedRole) := do
  ctx.requireWritable
  let name ← normalizeName id "role"
  if name ≠ current.name then
    throw (.failed (.validation (.otherRole current.name name)))
  let spec ← desired.normalize
  let plan ← spec.updatePlan ctx.dialect current
  applyPlan ctx spec plan

/-- Deletes the role of an identity; when the options leave nothing to do, nothing is done. -/
def delete (ctx : Context σ) (id : String) (options : RoleRemoval) : Run σ Unit := do
  ctx.requireWritable
  let name ← normalizeName id "role"
  let plan := options.plan name ctx.facts.currentUser ctx.dialect
  if plan.isEmpty then return ()
  ctx.hold .exclusive
  let s ← ctx.session ctx.defaultDatabase
  let _ ← s.apply plan

/-- Whether there is a role of an identity. -/
def exists? (ctx : Context σ) (id : String) : Run σ Bool := do
  let name ← normalizeName id "role"
  ctx.hold .shared
  let s ← ctx.session ctx.defaultDatabase
  s.exists? (.roleExists name)

/-- The statements that a creation or an update would apply. -/
def plan (ctx : Context σ) (current : Option ObservedRole) (desired : DeclaredRole) :
    Except Error Plan := do
  let spec ← desired.normalize
  match current with
  | some current => spec.updatePlan ctx.dialect current
  | none => spec.creationPlan ctx.dialect

end Lifecycle.Role

/-- The lifecycle of roles, which takes passwords from what was last applied. -/
def Lifecycle.roles : Lifecycle DeclaredRole ObservedRole RoleRemoval where
  kind := "role"
  decoder := DeclaredRole.decoder
  toJson := ObservedRole.toJson
  identity _ desired := normalizeName desired.name "role"
  create := Role.create
  read := Role.read
  update := Role.update
  delete := Role.delete
  exists? := Role.exists?
  plan := Role.plan

end Accord
