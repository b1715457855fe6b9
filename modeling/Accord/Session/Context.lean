import Accord.Session.Catalog
import Accord.Session.Lock

/-!
# Contexts

A `Context` is what every operation needs: a server, what is known about it, whether it may be
changed, and the catalog lock.
-/

namespace Accord

/-- What operations on a server need to know. -/
structure Context (σ : Type) where
  server : Server σ
  dialect : Dialect
  facts : ServerFacts
  /-- Whether nothing may be changed. -/
  readOnly : Bool
  /-- What others hold of the catalog lock. -/
  lock : Lock

namespace Context

variable {σ : Type}

/-- The database that a session is opened on when none is named. -/
def defaultDatabase (ctx : Context σ) : String :=
  ctx.facts.database

/-- The context of a server that is met for the first time: its version and the current user are
asked for, changes are allowed, and nobody holds the lock. -/
def connect (server : Server σ) : Run σ (Context σ) := do
  let s ← Session.connect server none
  match (← s.query .serverInfo).first? with
  | none => throw (.failed (.connectionFailed "Server probe returned no rows"))
  | some row =>
    let facts ← ServerFacts.ofRow row
    let dialect ← Dialect.ofReported facts.version
    return { server, dialect, facts, readOnly := false, lock := .free }

/-- Opens a session on a database; on the default one without naming it. -/
def session (ctx : Context σ) (database : String) : Run σ (Session σ) :=
  Session.connect ctx.server
    (if database = ctx.defaultDatabase then none else some database)

/-- Fails if nothing may be changed. -/
def requireWritable (ctx : Context σ) : Except Error Unit :=
  if ctx.readOnly then .error (.config .readOnly) else .ok ()

/-- Takes a side of the lock for the rest of an operation. -/
def hold (ctx : Context σ) (side : Side) : Run σ Unit :=
  if ctx.lock.grants side then return () else throw .waiting

end Context

end Accord
