import Accord.Session.Server

/-!
# Scripted servers

A scripted server needs no database: it answers questions with prepared results, fails where it was
told to fail, and keeps a record of all that was asked and told.  A question or a command is
recognized by a marker, which is a part of its text.
-/

namespace Accord

/-- Whether the second text starts with the first one. -/
def startsText : List Char → List Char → Bool
  | [], _ => true
  | _, [] => false
  | a :: r, b :: s => a == b && startsText r s

/-- Whether a text is a part of another one. -/
def occursIn (part : List Char) : List Char → Bool
  | [] => part.isEmpty
  | c :: rest => startsText part (c :: rest) || occursIn part rest

/-- Whether a marker is a part of the text. -/
def isMarkedBy (text marker : String) : Bool :=
  occursIn marker.toList text.toList

/-- A result for all questions with a marker, and with a parameter if one is named. -/
structure PreparedAnswer where
  marker : String
  parameter : Option String
  result : ResultTable

/-- What passed between the sessions and the server. -/
structure Traffic where
  /-- The databases that sessions were opened on. -/
  opened : List (Option String)
  /-- The questions with their parameters. -/
  queries : List (String × List String)
  /-- The commands, also those that failed. -/
  executed : List String
  /-- The statements that took effect for good. -/
  committed : List String

/-- Nothing has passed yet. -/
def Traffic.none : Traffic := ⟨[], [], [], []⟩

/-- A script: what the server answers, where it fails, and what happened so far. -/
structure Script where
  answers : List PreparedAnswer
  /-- Answers that hold after a commit; some wait for a commit with a statement about a marker. -/
  afterCommit : List (Option String × PreparedAnswer)
  failingCommands : List (String × Error)
  failingQueries : List (String × Error)
  failingDatabases : List (Option String × Error)
  inTransaction : Bool
  /-- The statements of the open transaction. -/
  uncommitted : List String
  traffic : Traffic

namespace Script

/-- A server that has an empty answer to everything. -/
def empty : Script := ⟨[], [], [], [], [], false, [], .none⟩

/-- Puts an answer in the place of the one for the same questions, or behind all others. -/
def placeAnswer (a : PreparedAnswer) : List PreparedAnswer → List PreparedAnswer
  | [] => [a]
  | b :: rest =>
    if a.marker = b.marker ∧ a.parameter = b.parameter then a :: rest
    else b :: placeAnswer a rest

/-- Prepares an answer, in place of an earlier one for the same questions. -/
def prepare (s : Script) (a : PreparedAnswer) : Script :=
  { s with answers := placeAnswer a s.answers }

/-- Drops the answers with a marker. -/
def forget (s : Script) (marker : String) : Script :=
  { s with answers := s.answers.filter fun a => decide (a.marker ≠ marker) }

/-- Lets everything succeed again. -/
def clearFailures (s : Script) : Script :=
  { s with failingCommands := [], failingQueries := [], failingDatabases := [] }

/-- Whether an answer is for a question. -/
def fits (sql : String) (parameters : List String) (a : PreparedAnswer) : Bool :=
  isMarkedBy sql a.marker && a.parameter.all parameters.contains

/-- The failure that a text runs into, if there is any. -/
def failure? (failing : List (String × Error)) (text : String) : Option Error :=
  (failing.find? fun f => isMarkedBy text f.1).map Prod.snd

/-- Opens a session. -/
def connect (database : Option String) (s : Script) : Except Error Unit × Script :=
  let s := { s with traffic.opened := s.traffic.opened ++ [database] }
  match s.failingDatabases.find? fun f => f.1 = database with
  | some f => (.error f.2, s)
  | none => (.ok (), s)

/-- Answers a question. -/
def query (sql : String) (parameters : List String) (s : Script) :
    Except Error ResultTable × Script :=
  let s := { s with traffic.queries := s.traffic.queries ++ [(sql, parameters)] }
  match failure? s.failingQueries sql with
  | some e => (.error e, s)
  | none =>
    match s.answers.find? (fits sql parameters) with
    | some a => (.ok a.result, s)
    | none => (.ok .none, s)

/-- Whether an answer holds after a commit of some statements. -/
def isDue (statements : List String) (a : Option String × PreparedAnswer) : Bool :=
  match a.1 with
  | none => true
  | some marker => statements.any fun sql => isMarkedBy sql marker

/-- Ends a transaction for good. -/
def commit (s : Script) : Script :=
  let due := s.afterCommit.filter (isDue s.uncommitted)
  let waiting := s.afterCommit.filter fun a => !isDue s.uncommitted a
  { (due.foldl (fun s a => s.prepare a.2) s) with
    afterCommit := waiting
    inTransaction := false
    uncommitted := []
    traffic.committed := s.traffic.committed ++ s.uncommitted }

/-- Does what a command says. -/
def perform (sql : String) (s : Script) : Script :=
  if sql = Command.start.sql then { s with inTransaction := true, uncommitted := [] }
  else if sql = Command.commit.sql then s.commit
  else if sql = Command.rollback.sql then { s with inTransaction := false, uncommitted := [] }
  else if s.inTransaction then { s with uncommitted := s.uncommitted ++ [sql] }
  else { s with traffic.committed := s.traffic.committed ++ [sql] }

/-- Takes a command. -/
def execute (sql : String) (s : Script) : Except Error Unit × Script :=
  let s := { s with traffic.executed := s.traffic.executed ++ [sql] }
  match failure? s.failingCommands sql with
  | some e => (.error e, s)
  | none => (.ok (), s.perform sql)

/-- The server that a script plays, which knows commands and questions by their texts alone. -/
def server : Server Script where
  connect := connect
  execute _ c := execute c.sql
  query _ q := query q.sql q.parameters

end Script

end Accord
