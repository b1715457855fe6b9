import Accord.Proofs.Role.Wording
import Accord.Proofs.Session.Related
import Accord.Role.Format

/-!
# Roles that differ in their passwords

Declarations that differ in the texts of passwords only (`DeclaredRole.SameButPassword`) lead to the
same failure, or to plans that differ in the texts of passwords only.  For a change of a role this
needs that the password that was last set is the declared one for both, or is known for neither
(`ObservedRole.SameButPasswords`).
-/

namespace Accord

/-! ## Declared roles -/

/-- Two declarations differ in nothing but the text of the password.  Whether there is one, and
whether it stands for having none, is the same for both. -/
structure DeclaredRole.SameButPassword (spec spec' : DeclaredRole) : Prop where
  rest : { spec with password := none } = { spec' with password := none }
  declared : spec.password.isSome = spec'.password.isSome
  removes : spec.removesPassword = spec'.removesPassword

namespace DeclaredRole.SameButPassword

variable {spec spec' : DeclaredRole}

/-- The second declaration is the first one with a password of its own. -/
theorem exists_eq (h : spec.SameButPassword spec') :
    ∃ password, spec' = { spec with password } :=
  ⟨spec'.password,
    congrArg (fun r : DeclaredRole => { r with password := spec'.password }) h.rest.symm⟩

theorem name_eq (h : spec.SameButPassword spec') : spec.name = spec'.name := by
  obtain ⟨password, rfl⟩ := h.exists_eq
  rfl

theorem sameForm (h : spec.SameButPassword spec') : spec.SameForm spec' := by
  have hdeclared := h.declared
  have hremoves := h.removes
  obtain ⟨password, rfl⟩ := h.exists_eq
  exact ⟨rfl, rfl, rfl, Iff.rfl, hdeclared, hremoves⟩

theorem normalize (h : spec.SameButPassword spec') :
    SameOutcome SameButPassword spec.normalize spec'.normalize := by
  have hdeclared := h.declared
  have hremoves := h.removes
  obtain ⟨password, rfl⟩ := h.exists_eq
  unfold DeclaredRole.normalize
  by_cases hlimit : spec.connectionLimit < -1
  · rw [if_pos hlimit, if_pos hlimit]
    exact .error _
  · rw [if_neg hlimit, if_neg hlimit]
    refine SameOutcome.bind_eq fun roles => ?_
    refine SameOutcome.bind_eq fun name => ?_
    exact .ok ⟨rfl, hdeclared, hremoves⟩

/-! ## Plans -/

theorem map_password_hidePassword (clause : Option PasswordClause) :
    (clause.map RoleSetting.password).map RoleSetting.hidePassword =
      (clause.map PasswordClause.form).map RoleSetting.password := by
  cases clause <;> rfl

theorem creation (h : spec.SameButPassword spec') (dialect : Dialect) :
    SameOutcome (fun c c' => c.hidePassword = c'.hidePassword)
      (spec.creation dialect) (spec'.creation dialect) := by
  have hpassword := h.sameForm.passwordClause dialect
  obtain ⟨password, rfl⟩ := h.exists_eq
  unfold DeclaredRole.creation
  refine SameOutcome.bind_eq fun bypass => ?_
  refine hpassword.bind fun clause clause' hclause => .ok ?_
  apply congrArg (Statement.createRole spec.name _)
  simp only [List.map_append, ← Option.toList_map, map_password_hidePassword, hclause]

theorem creationPlan (h : spec.SameButPassword spec') (dialect : Dialect) :
    SameOutcome Plan.SameButPasswords (spec.creationPlan dialect) (spec'.creationPlan dialect) := by
  have hcreation := h.creation dialect
  obtain ⟨password, rfl⟩ := h.exists_eq
  unfold DeclaredRole.creationPlan
  refine hcreation.bind fun c c' hc => .ok ?_
  exact congrArg (· :: _) hc

theorem statement? (h : spec.SameButPassword spec') (dialect : Dialect) (change : RoleChange) :
    SameOutcome (fun c c' => c.map Statement.hidePassword = c'.map Statement.hidePassword)
      (change.statement? spec dialect) (change.statement? spec' dialect) := by
  have hpassword := h.sameForm.passwordClause dialect
  obtain ⟨password, rfl⟩ := h.exists_eq
  rcases change with ⟨old, new⟩ | (⟨f, on⟩ | limit) | _ | e | g | g
  case password =>
    refine hpassword.bind fun clause clause' hclause => .ok ?_
    have hmap := congrArg (Option.map fun c => Statement.alterRole spec.name (.password c)) hclause
    rw [Option.map_map, Option.map_map] at hmap ⊢
    exact hmap
  -- No other change asks for the password.
  all_goals exact (SameOutcome.refl _).mono fun c c' hc => congrArg _ hc

theorem planChanges (h : spec.SameButPassword spec') (dialect : Dialect)
    (changes : List RoleChange) :
    SameOutcome Plan.SameButPasswords (spec.planChanges dialect changes)
      (spec'.planChanges dialect changes) := by
  unfold DeclaredRole.planChanges
  refine (SameOutcome.mapM (h.statement? dialect) changes).bind fun cs cs' hcs => .ok ?_
  have hmap := congrArg (List.filterMap id) hcs
  rw [List.filterMap_map, List.filterMap_map] at hmap
  unfold Plan.SameButPasswords
  rw [List.map_filterMap, List.map_filterMap]
  exact hmap

end DeclaredRole.SameButPassword

/-! ## Observed roles -/

/-- The role without what is known of its password. -/
def ObservedRole.hidePassword (r : ObservedRole) : ObservedRole :=
  { r with password := none, passwordHash := none }

/-- Two observed roles differ in nothing but what is known of their passwords.  What was last set is
`password` for the first and `password'` for the second. -/
structure ObservedRole.SameButPasswords (password password' : Option String)
    (r r' : ObservedRole) : Prop where
  rest : r.hidePassword = r'.hidePassword
  password : r.password = password
  password' : r'.password = password'

namespace ObservedRole.SameButPasswords

variable {password password' : Option String} {r r' : ObservedRole} {spec spec' : DeclaredRole}

theorem exists_eq (h : r.SameButPasswords password password' r') :
    ∃ hash, r' = { r with password := password', passwordHash := hash } := by
  refine ⟨r'.passwordHash, ?_⟩
  have hrest := congrArg
    (fun o : ObservedRole => { o with password := password', passwordHash := r'.passwordHash })
    h.rest.symm
  rw [← h.password'] at hrest ⊢
  exact hrest

theorem name_eq (h : r.SameButPasswords password password' r') : r.name = r'.name := by
  obtain ⟨hash, rfl⟩ := h.exists_eq
  rfl

theorem toJson_eq (h : r.SameButPasswords password password' r') : r.toJson = r'.toJson := by
  obtain ⟨hash, rfl⟩ := h.exists_eq
  rfl

/-- The same changes are needed, if a password has to be set for both or for neither. -/
theorem changesTo_eq (h : r.SameButPasswords password password' r')
    (hspec : spec.SameButPassword spec')
    (hpassword : spec.password = password ↔ spec'.password = password') :
    r.changesTo spec = r'.changesTo spec' := by
  have hdeclared := hspec.declared
  obtain ⟨password'', rfl⟩ := hspec.exists_eq
  obtain rfl := h.password
  obtain ⟨hash, rfl⟩ := h.exists_eq
  have hnone : spec.password.isNone = password''.isNone := by
    rw [← Option.not_isSome, ← Option.not_isSome, hdeclared]
  unfold ObservedRole.changesTo
  dsimp only
  simp only [hnone, hpassword]

theorem updatePlan (h : r.SameButPasswords password password' r')
    (hspec : spec.SameButPassword spec')
    (hpassword : spec.password = password ↔ spec'.password = password') (dialect : Dialect) :
    SameOutcome Plan.SameButPasswords (spec.updatePlan dialect r)
      (spec'.updatePlan dialect r') := by
  unfold DeclaredRole.updatePlan
  rw [h.changesTo_eq hspec hpassword]
  exact hspec.planChanges dialect _

end ObservedRole.SameButPasswords

end Accord
