import Accord.Json.Basic
import Accord.Statement.Plan

/-!
# Statements in answers

A statement is written as it may be shown, and a plan in the order in which it is run.
-/

namespace Accord

/-- Writes a statement with its phase, its operation and its text as it may be shown. -/
def Statement.toJson (s : Statement) : Json :=
  .object [("phase", .text s.phase.name),
    ("operation", .text s.operation),
    ("sql", .text s.shown)]

/-- Writes the statements of a plan in the order in which they are run. -/
def Plan.toJson (plan : Plan) : Json :=
  .array ((Plan.ordered plan).map Statement.toJson)

end Accord
