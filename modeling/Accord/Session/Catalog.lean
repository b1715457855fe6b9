import Accord.Catalog.Reading
import Accord.Server.Feature
import Accord.Session.Server

/-!
# Reading the catalog in a session

The objects of the catalog, read by the questions that are asked about them.
-/

namespace Accord.Session

variable {σ : Type}

/-- The role of a name, if there is one.  Only superusers can read the hash of its password. -/
def role? (s : Session σ) (name : String) (dialect : Dialect) (withHash : Bool) :
    Run σ (Option ObservedRole) := do
  let result ← s.query (.role name (dialect.supports .rowLevelSecurity))
  match result.first? with
  | none => return none
  | some row =>
    let state ← ObservedRole.ofRow row
    if withHash then
      let hash ← passwordHashOf (← s.query (.passwordHash name))
      return some { state with passwordHash := hash }
    else return some state

/-- The schema of a name with its policies, if there is one in the database of the session. -/
def schema? (s : Session σ) (database name : String) : Run σ (Option ObservedSchema) := do
  let result ← s.query (.schema name)
  match result.first? with
  | none => return none
  | some row =>
    let found ← row.text "name"
    let owner ← row.text "owner"
    let policies ← Policies.ofResult (← s.query (.schemaGrants name))
    return some { name := found, database, owner, policies }

/-- The rule of a key, if it gives anything. -/
def rule? (s : Session σ) (key : RuleKey) : Run σ (Option Rule) := do
  Run.ofExcept (Rule.ofResult key (← s.query (.rule key)))

/-- The installed extension of a name, if there is one in the database of the session. -/
def extension? (s : Session σ) (database name : String) : Run σ (Option InstalledExtension) := do
  let result ← s.query (.extension name)
  match result.first? with
  | none => return none
  | some row => return some (← InstalledExtension.ofRow database row)

end Accord.Session
