import Accord.Json.Decoder
import Accord.Session.Context
import Accord.Session.Transaction

/-!
# Lifecycles

Objects of every kind are created, read, updated and deleted in the same way.  A `Lifecycle` says
how for one kind, and `converge` and `pending` work for all of them: they look the declared object
up and go on from what they find.

After each change the object is read again.  What it still lacks is drift, which is reported and not
mended (`Outcome.ofReread`).
-/

namespace Accord

/-- What came of a creation or an update. -/
structure Outcome (ο : Type) where
  /-- The identity of the object afterwards. -/
  id : String
  /-- The object as it was read afterwards. -/
  observed : ο
  /-- How many statements were applied. -/
  applied : Nat
  /-- The statements that the object would still need, as they may be shown. -/
  drift : List String

/-- Whether the object is what it was declared to be. -/
def Outcome.converged {ο : Type} (o : Outcome ο) : Bool :=
  o.drift.isEmpty

/-- Checks an object that was read after a change; `replan` says what it still needs. -/
def Outcome.ofReread {ο : Type} (kind id : String) (applied : Nat) (observed : Option ο)
    (replan : ο → Except Error Plan) : Except Error (Outcome ο) :=
  match observed with
  | none => .error (.notFound (kind ++ " '" ++ id ++ "' not found after commit"))
  | some observed => do
    let plan ← replan observed
    return { id, observed, applied, drift := plan.shown }

/-- How declared objects of type `δ` become observed objects of type `ο`, and how they are deleted
with options of type `ω`. -/
structure Lifecycle (δ ο ω : Type) where
  /-- The name of the kind of object. -/
  kind : String
  /-- Reads a declared object. -/
  decoder : Decoder δ
  /-- Writes an observed object. -/
  toJson : ο → Json
  /-- The identity of a declared object. -/
  identity : {σ : Type} → Context σ → δ → Except Error String
  /-- Creates a declared object. -/
  create : {σ : Type} → Context σ → δ → Run σ (Outcome ο)
  /-- Reads the object of an identity, if there is one.  What the catalog does not tell is taken
  from the declaration that was last applied. -/
  read : {σ : Type} → Context σ → String → Option δ → Run σ (Option ο)
  /-- Makes an observed object the declared one. -/
  update : {σ : Type} → Context σ → String → ο → δ → Run σ (Outcome ο)
  /-- Deletes the object of an identity. -/
  delete : {σ : Type} → Context σ → String → ω → Run σ Unit
  /-- Whether there is an object of an identity. -/
  exists? : {σ : Type} → Context σ → String → Run σ Bool
  /-- The statements that a creation or an update would apply. -/
  plan : {σ : Type} → Context σ → Option ο → δ → Except Error Plan

namespace Lifecycle

variable {σ δ ο ω : Type}

/-- The statements that a declared object needs now. -/
def pending (k : Lifecycle δ ο ω) (ctx : Context σ) (desired : δ) : Run σ Plan := do
  let id ← k.identity ctx desired
  let current ← k.read ctx id none
  Run.ofExcept (k.plan ctx current desired)

/-- Creates or updates a declared object. -/
def converge (k : Lifecycle δ ο ω) (ctx : Context σ) (desired : δ) : Run σ (Outcome ο) := do
  let id ← k.identity ctx desired
  match ← k.read ctx id none with
  | some current => k.update ctx id current desired
  | none => k.create ctx desired

end Lifecycle

end Accord
