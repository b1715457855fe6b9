import Accord.Document.Basic
import Accord.Lifecycle.Extension
import Accord.Lifecycle.Role
import Accord.Lifecycle.Rule
import Accord.Lifecycle.Schema
import Accord.Statement.Format

/-!
# Whole documents

The objects of a document are visited kind by kind, so that everything is there before it is
referred to: roles first, then schemas and extensions, then default-privilege rules.  Every object
has a transaction of its own, and the first failure ends the visit.
-/

namespace Accord

/-- What a declared object still needs. -/
structure PlannedObject where
  kind : String
  id : String
  statements : Plan

/-- What came of a declared object. -/
structure AppliedObject where
  kind : String
  id : String
  applied : Nat
  /-- The object as it was read afterwards. -/
  observed : Json
  /-- The statements that the object would still need, as they may be shown. -/
  drift : List String

/-- Writes what an object still needs. -/
def PlannedObject.toJson (c : PlannedObject) : Json :=
  .object [("kind", .text c.kind), ("id", .text c.id), ("statements", c.statements.toJson)]

/-- The drift of an object, as a member that is left out when there is none. -/
def driftMember (drift : List String) : List (String × Json) :=
  if drift.isEmpty then [] else [("drift", .texts drift)]

/-- Writes what came of an object. -/
def AppliedObject.toJson (c : AppliedObject) : Json :=
  .object (
    [("kind", .text c.kind), ("id", .text c.id), ("applied", .int c.applied),
      ("observed", c.observed)]
    ++ driftMember c.drift)

namespace Lifecycle

variable {σ δ ο ω : Type}

/-- What the declared objects of one kind still need; those that need nothing are left out. -/
def planAll (k : Lifecycle δ ο ω) (ctx : Context σ) : List δ → Run σ (List PlannedObject)
  | [] => return []
  | desired :: rest => do
    let plan ← k.pending ctx desired
    let here ← if plan.isEmpty then pure []
      else pure [⟨k.kind, ← k.identity ctx desired, plan⟩]
    return here ++ (← k.planAll ctx rest)

/-- Creates or updates the declared objects of one kind. -/
def applyAll (k : Lifecycle δ ο ω) (ctx : Context σ) : List δ → Run σ (List AppliedObject)
  | [] => return []
  | desired :: rest => do
    let outcome ← k.converge ctx desired
    let here : AppliedObject :=
      ⟨k.kind, outcome.id, outcome.applied, k.toJson outcome.observed, outcome.drift⟩
    return here :: (← k.applyAll ctx rest)

end Lifecycle

namespace Document

variable {σ : Type}

/-- What the objects of a document still need, kind by kind. -/
def plan (d : Document) (ctx : Context σ) : Run σ (List PlannedObject) := do
  let roles ← Lifecycle.roles.planAll ctx d.roles
  let schemas ← Lifecycle.schemas.planAll ctx d.schemas
  let extensions ← Lifecycle.extensions.planAll ctx d.extensions
  let rules ← Lifecycle.rules.planAll ctx d.rules
  return roles ++ schemas ++ extensions ++ rules

/-- Creates or updates the objects of a document. -/
def apply (d : Document) (ctx : Context σ) : Run σ (List AppliedObject) := do
  let roles ← Lifecycle.roles.applyAll ctx d.roles
  let schemas ← Lifecycle.schemas.applyAll ctx d.schemas
  let extensions ← Lifecycle.extensions.applyAll ctx d.extensions
  let rules ← Lifecycle.rules.applyAll ctx d.rules
  return roles ++ schemas ++ extensions ++ rules

end Document

end Accord
