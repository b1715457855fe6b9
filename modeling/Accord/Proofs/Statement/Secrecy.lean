import Accord.Proofs.Statement.Tokens
import Accord.Statement.Format

/-!
# Statements without their passwords

`Statement.hidePassword` takes the text of a password out of a statement and leaves everything else
as it is.  Nothing that is ever shown of a statement or of a plan depends on that text: a statement
that carries a password is announced by its operation, and all others stay the same.
-/

namespace Accord

/-- The setting without the text of the password in it. -/
def RoleSetting.hidePassword : RoleSetting → RoleSetting
  | .password clause => .password clause.form
  | s => s

namespace RoleSetting

@[simp] theorem what_hidePassword (s : RoleSetting) : s.hidePassword.what = s.what := by
  cases s <;> rfl

@[simp] theorem isSensitive_hidePassword (s : RoleSetting) :
    s.hidePassword.isSensitive = s.isSensitive := by
  cases s <;> rfl

theorem hidePassword_of_isSensitive_eq_false {s : RoleSetting} (h : s.isSensitive = false) :
    s.hidePassword = s := by
  cases s with
  | password clause => cases h
  | _ => rfl

end RoleSetting

namespace Statement

/-- The statement without the text of the password in it. -/
def hidePassword : Statement → Statement
  | .createRole name spelled settings =>
    .createRole name spelled (settings.map RoleSetting.hidePassword)
  | .alterRole role setting => .alterRole role setting.hidePassword
  | c => c

@[simp] theorem phase_hidePassword (c : Statement) : c.hidePassword.phase = c.phase := by
  cases c <;> rfl

@[simp] theorem operation_hidePassword (c : Statement) :
    c.hidePassword.operation = c.operation := by
  cases c with
  | alterRole role setting =>
    exact congrArg (fun what => "updating " ++ what ++ " of role " ++ Sql.identifier role)
      setting.what_hidePassword
  | _ => rfl

@[simp] theorem isSensitive_hidePassword (c : Statement) :
    c.hidePassword.isSensitive = c.isSensitive := by
  cases c with
  | createRole name spelled settings =>
    simp [hidePassword, isSensitive, Function.comp_def]
  | alterRole role setting => exact setting.isSensitive_hidePassword
  | _ => rfl

theorem hidePassword_of_isSensitive_eq_false {c : Statement} (h : c.isSensitive = false) :
    c.hidePassword = c := by
  cases c with
  | createRole name spelled settings =>
    have hsettings : ∀ s ∈ settings, s.hidePassword = s := by
      intro s hs
      apply RoleSetting.hidePassword_of_isSensitive_eq_false
      exact Bool.eq_false_iff.2 (List.any_eq_false.1 h s hs)
    show Statement.createRole name spelled _ = _
    rw [List.map_congr_left hsettings, List.map_id']
  | alterRole role setting =>
    exact congrArg _ (RoleSetting.hidePassword_of_isSensitive_eq_false h)
  | _ => rfl

/-- What is shown of a statement does not depend on the text of a password in it. -/
@[simp] theorem shown_hidePassword (c : Statement) : c.hidePassword.shown = c.shown := by
  unfold shown
  rw [isSensitive_hidePassword, operation_hidePassword]
  by_cases h : c.isSensitive = true
  · rw [if_pos h, if_pos h]
  · rw [hidePassword_of_isSensitive_eq_false (Bool.eq_false_iff.2 h)]

theorem toJson_hidePassword (c : Statement) : c.hidePassword.toJson = c.toJson := by
  simp [toJson]

end Statement

/-! ## Plans -/

/-- Two plans differ in nothing but the texts of passwords. -/
def Plan.SameButPasswords (plan plan' : Plan) : Prop :=
  plan.map Statement.hidePassword = plan'.map Statement.hidePassword

namespace Plan.SameButPasswords

variable {plan plan' : Plan}

theorem refl (plan : Plan) : plan.SameButPasswords plan :=
  Eq.refl _

theorem length_eq (h : plan.SameButPasswords plan') : plan.length = plan'.length := by
  have hlength := congrArg List.length h
  rwa [List.length_map, List.length_map] at hlength

theorem isEmpty_eq (h : plan.SameButPasswords plan') : plan.isEmpty = plan'.isEmpty := by
  have hempty := congrArg List.isEmpty h
  rwa [List.isEmpty_map, List.isEmpty_map] at hempty

theorem map_ordered (plan : Plan) :
    (Plan.ordered plan).map Statement.hidePassword =
      Plan.ordered (plan.map Statement.hidePassword) := by
  unfold Plan.ordered
  rw [List.map_flatMap]
  congr 1
  funext p
  rw [List.filter_map]
  simp [Function.comp_def]

/-- They are run in the same order. -/
theorem ordered (h : plan.SameButPasswords plan') :
    Plan.SameButPasswords plan.ordered plan'.ordered := by
  unfold Plan.SameButPasswords
  rw [map_ordered, map_ordered, h]

/-- The same is shown of both. -/
theorem map_eq {α : Type} {f : Statement → α} (hf : ∀ c, f c.hidePassword = f c)
    (h : plan.SameButPasswords plan') : plan.map f = plan'.map f := by
  have hmap := congrArg (List.map f) h
  rw [List.map_map, List.map_map] at hmap
  rwa [show f ∘ Statement.hidePassword = f from funext hf] at hmap

theorem shown_eq (h : plan.SameButPasswords plan') : plan.shown = plan'.shown :=
  h.ordered.map_eq Statement.shown_hidePassword

theorem toJson_eq (h : plan.SameButPasswords plan') : plan.toJson = plan'.toJson :=
  congrArg Json.array (h.ordered.map_eq Statement.toJson_hidePassword)

end Plan.SameButPasswords

end Accord
