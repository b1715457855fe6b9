import Accord.Lifecycle.Basic
import Accord.Rule.Change
import Accord.Rule.Format

/-!
# The lifecycle of default-privilege rules

A rule is identified by all of its key.  Creating a rule that is there already makes it the declared
one, and rules never touch the privileges on objects that exist.
-/

namespace Accord

namespace Lifecycle.Rule

variable {σ : Type}

/-- Makes an observed rule the declared one; when none is given, the rule is looked up first. -/
def apply (ctx : Context σ) (current : Option Rule) (desired : DeclaredRule) :
    Run σ (Outcome Rule) := do
  ctx.requireWritable
  ctx.dialect.require .defaultPrivileges
  let rule ← desired.normalize ctx.defaultDatabase
  ctx.hold .exclusive
  let s ← ctx.session rule.key.database
  let before ← match current with
    | some old => pure (some old)
    | none => s.rule? rule.key
  let plan ← rule.plan before
  let applied ← s.apply plan
  let observed ← s.rule? rule.key
  Run.ofExcept (Outcome.ofReread "default_privileges" rule.key.identity applied observed
    fun o => rule.plan (some o))

/-- Reads the rule of an identity. -/
def read (ctx : Context σ) (id : String) : Run σ (Option Rule) := do
  let key ← RuleKey.decode id
  ctx.hold .shared
  let s ← ctx.session key.database
  s.rule? key

/-- Takes away all that the rule of an identity gives. -/
def delete (ctx : Context σ) (id : String) : Run σ Unit := do
  ctx.requireWritable
  ctx.dialect.require .defaultPrivileges
  let key ← RuleKey.decode id
  ctx.hold .exclusive
  let s ← ctx.session key.database
  let _ ← s.apply key.revokeAll

/-- Whether there is a rule of an identity. -/
def exists? (ctx : Context σ) (id : String) : Run σ Bool := do
  return (← read ctx id).isSome

/-- The statements that a creation or an update would apply. -/
def plan (ctx : Context σ) (current : Option Rule) (desired : DeclaredRule) :
    Except Error Plan := do
  ctx.dialect.require .defaultPrivileges
  let rule ← desired.normalize ctx.defaultDatabase
  rule.plan current

end Lifecycle.Rule

/-- The lifecycle of default-privilege rules. -/
def Lifecycle.rules : Lifecycle DeclaredRule Rule Unit where
  kind := "default_privileges"
  decoder := DeclaredRule.decoder
  toJson := Rule.toJson
  identity ctx desired := (desired.normalize ctx.defaultDatabase).map fun r => r.key.identity
  create ctx := Rule.apply ctx none
  read ctx id _ := Rule.read ctx id
  update ctx _ current := Rule.apply ctx (some current)
  delete ctx id _ := Rule.delete ctx id
  exists? := Rule.exists?
  plan := Rule.plan

end Accord
