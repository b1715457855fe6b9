import Accord.Catalog.Query
import Accord.Catalog.Result
import Accord.Statement.Basic

/-!
# Servers and sessions

A `Server` says how a server in some state reacts when a session is opened, when it gets a command,
and when it is asked a question.  A `Run` is an operation on such a server: it changes the state,
and it gives a result, fails, or has to wait for the catalog lock.
-/

namespace Accord

/-- What a session tells the server. -/
inductive Command where
  /-- Opens a transaction. -/
  | start
  | run (s : Statement)
  | commit
  | rollback
deriving DecidableEq

/-- The command in the words of the server. -/
def Command.sql : Command → String
  | .start => "BEGIN"
  | .run s => s.sql
  | .commit => "COMMIT"
  | .rollback => "ROLLBACK"

/-- How a server reacts.  `none` as a database stands for the default one. -/
structure Server (σ : Type) where
  /-- Opens a session on a database. -/
  connect : Option String → σ → Except Error Unit × σ
  execute : Option String → Command → σ → Except Error Unit × σ
  /-- Answers a question. -/
  query : Option String → Query → σ → Except Error ResultTable × σ

/-- A server that cannot be reached. -/
def Server.unreachable {σ : Type} : Server σ where
  connect _ s :=
    (.error (.connectionFailed "Failed to connect to PostgreSQL: error connecting to server"), s)
  execute _ _ s := (.error (.connectionFailed "no session"), s)
  query _ _ s := (.error (.connectionFailed "no session"), s)

/-- Why an operation does not come to a result. -/
inductive Halt where
  | failed (cause : Error)
  /-- The catalog lock is held by someone else. -/
  | waiting
deriving DecidableEq

/-- An operation on a server whose states are of type `σ`. -/
abbrev Run (σ : Type) := ExceptT Halt (StateM σ)

/-- A reaction of the server as an operation that cannot fail. -/
def Run.attempt {σ α : Type} (f : σ → Except Error α × σ) : Run σ (Except Error α) :=
  ExceptT.lift f

/-- An outcome as an operation without any effect. -/
def Run.ofExcept {σ α : Type} : Except Error α → Run σ α
  | .ok a => pure a
  | .error e => throw (.failed e)

/-- A reaction of the server as an operation. -/
def Run.reaction {σ α : Type} (f : σ → Except Error α × σ) : Run σ α := do
  Run.ofExcept (← Run.attempt f)

instance {σ : Type} : MonadLift (Except Error) (Run σ) where
  monadLift := Run.ofExcept

/-- A session on a database of a server. -/
structure Session (σ : Type) where
  server : Server σ
  database : Option String

namespace Session

variable {σ : Type}

/-- Opens a session on a database, the default one if none is named. -/
def connect (server : Server σ) (database : Option String) : Run σ (Session σ) := do
  Run.reaction (server.connect database)
  return ⟨server, database⟩

/-- Gives a command and says whether it succeeded. -/
def attempt (s : Session σ) (c : Command) : Run σ (Except Error Unit) :=
  Run.attempt (s.server.execute s.database c)

/-- Asks a question. -/
def query (s : Session σ) (q : Query) : Run σ ResultTable :=
  Run.reaction (s.server.query s.database q)

/-- Asks whether there is something. -/
def exists? (s : Session σ) (q : Query) : Run σ Bool := do
  return !(← s.query q).isEmpty

end Session

end Accord
