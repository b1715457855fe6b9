import Accord.Ordered.Difference
import Accord.Rule.Basic
import Accord.Statement.Plan

/-!
# Changes of a default-privilege rule

A rule with another key is another rule: all that the old one gives is taken away, and the new one
is granted as a whole.
-/

namespace Accord

/-- Adds privileges to a rule; nothing if there are none to add. -/
def RuleKey.grant (key : RuleKey) (privileges : List Privilege) : Plan :=
  if privileges.isEmpty then []
  else [.grantDefaults key.owner key.schema key.type privileges key.role]

/-- Takes privileges off a rule; nothing if there are none to take. -/
def RuleKey.revoke (key : RuleKey) (privileges : List Privilege) : Plan :=
  if privileges.isEmpty then []
  else [.revokeDefaults key.owner key.schema key.type (some privileges) key.role]

/-- Takes everything off a rule. -/
def RuleKey.revokeAll (key : RuleKey) : Plan :=
  [.revokeDefaults key.owner key.schema key.type none key.role]

/-- The statements that lead from some privileges under the key of a rule to those of the rule. -/
def Rule.planFrom (rule : Rule) (held : OrderedSet Privilege) : Plan :=
  let d := Difference.between held rule.privileges
  rule.key.revoke d.surplus ++ rule.key.grant d.missing

/-- The statements that make an observed rule, if there is one, the declared one.  A rule cannot
change its database. -/
def Rule.plan (rule : Rule) (current : Option Rule) : Except Error Plan :=
  match current with
  | none => .ok (rule.planFrom ∅)
  | some old =>
    if old.key = rule.key then .ok (rule.planFrom old.privileges)
    else if old.key.database ≠ rule.key.database then
      .error (.validation (.movedRule old.key.database rule.key.database))
    else .ok (old.key.revokeAll ++ rule.planFrom ∅)

end Accord
