import Accord.Session.Server
import Accord.Statement.Plan

/-!
# Transactions

A plan is applied in one transaction: all of its statements take effect or none of them.  An empty
plan needs no transaction.
-/

namespace Accord

namespace Session

variable {σ : Type}

/-- Runs some statements in an open transaction.  When one fails, the transaction is rolled back and
the statements after it are not run. -/
def runAll (s : Session σ) : List Statement → Run σ Unit
  | [] => return ()
  | c :: rest => do
    match ← s.attempt (.run c) with
    | .ok () => s.runAll rest
    | .error e =>
      let _ ← s.attempt .rollback
      throw (.failed (.statement c.operation e.detail))

/-- Applies a plan and says how many statements it has. -/
def apply (s : Session σ) (plan : Plan) : Run σ Nat := do
  if plan.isEmpty then return 0
  if let .error e ← s.attempt .start then
    throw (.failed (.statement "opening transaction" e.detail))
  s.runAll plan.ordered
  if let .error e ← s.attempt .commit then
    throw (.failed (.commit e.detail))
  return plan.length

end Session

end Accord
