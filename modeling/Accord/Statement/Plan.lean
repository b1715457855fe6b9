import Accord.Statement.Basic

/-!
# Plans

A plan is a list of statements.  They are run phase by phase, and within a phase in the order in
which they were added.
-/

namespace Accord

/-- The statements that bring one object to its declared state. -/
abbrev Plan := List Statement

namespace Plan

/-- The statements in the order in which they are run: phase by phase, and within a phase as they
were added. -/
def ordered (plan : Plan) : List Statement :=
  Phase.all.flatMap fun p => plan.filter fun s => s.phase = p

/-- The statements in the order in which they are run, as they may be shown. -/
def shown (plan : Plan) : List String :=
  (ordered plan).map Statement.shown

end Plan

end Accord
