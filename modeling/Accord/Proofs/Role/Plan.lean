import Accord.Proofs.Session.Run
import Accord.Role.Change

/-!
# Plans for roles

The plan for some changes is the list of their statements (`mem_planChanges`), so it renames a role
if and only if one of the changes does (`rename_mem_updatePlan`).
-/

namespace Accord

namespace DeclaredRole

variable {spec : DeclaredRole} {dialect : Dialect}

theorem planChanges_nil (spec : DeclaredRole) (dialect : Dialect) :
    spec.planChanges dialect [] = .ok [] :=
  rfl

theorem planChanges_cons {change : RoleChange} {changes : List RoleChange} {plan : Plan} :
    spec.planChanges dialect (change :: changes) = .ok plan ↔
      ∃ c rest, change.statement? spec dialect = .ok c ∧
        spec.planChanges dialect changes = .ok rest ∧ plan = c.toList ++ rest := by
  unfold planChanges
  rw [List.mapM_cons]
  simp only [bind_assoc, Except.bind_ok, pure, Except.pure, Except.ok.injEq]
  constructor
  · rintro ⟨c, hc, cs, hcs, _, rfl, rfl⟩
    refine ⟨c, _, hc, ⟨cs, hcs, rfl⟩, ?_⟩
    cases c <;> rfl
  · rintro ⟨c, rest, hc, ⟨cs, hcs, rfl⟩, rfl⟩
    refine ⟨c, hc, cs, hcs, _, rfl, ?_⟩
    cases c <;> rfl

/-- The statements of a plan are the statements of the changes. -/
theorem mem_planChanges {changes : List RoleChange} {plan : Plan} {c : Statement}
    (h : spec.planChanges dialect changes = .ok plan) :
    c ∈ plan ↔ ∃ change ∈ changes, change.statement? spec dialect = .ok (some c) := by
  induction changes generalizing plan with
  | nil =>
    obtain rfl := Except.ok.inj ((planChanges_nil spec dialect).symm.trans h)
    simp
  | cons change changes ih =>
    obtain ⟨d, rest, hd, hrest, rfl⟩ := planChanges_cons.1 h
    rw [List.mem_append, ih hrest, Option.mem_toList]
    simp [hd]

end DeclaredRole

/-! ## Normalizing -/

/-- What normalizing a role checks and changes. -/
theorem DeclaredRole.normalize_ok {desired spec : DeclaredRole}
    (h : desired.normalize = .ok spec) :
    ∃ groups name, ¬desired.connectionLimit < -1 ∧
      (desired.roles.toList.mapM fun r => normalizeName r "granted role") = .ok groups ∧
      normalizeName desired.name "role" = .ok name ∧
      spec = { desired with
        name
        roles := OrderedSet.ofList groups
        validUntil := normalizeExpiry desired.validUntil } := by
  unfold normalize at h
  by_cases hlimit : desired.connectionLimit < -1
  · rw [if_pos hlimit] at h
    simp [throw, throwThe, MonadExceptOf.throw, bind, Except.bind] at h
  · rw [if_neg hlimit] at h
    obtain ⟨groups, hgroups, h⟩ := Except.bind_ok.1 h
    obtain ⟨name, hname, h⟩ := Except.bind_ok.1 h
    exact ⟨groups, name, hlimit, hgroups, hname, (Except.ok.inj h).symm⟩

theorem DeclaredRole.normalize_name {desired spec : DeclaredRole}
    (h : desired.normalize = .ok spec) : normalizeName desired.name "role" = .ok spec.name := by
  obtain ⟨groups, name, -, -, hname, rfl⟩ := normalize_ok h
  exact hname

/-! ## Renaming -/

theorem ObservedRole.rename_mem_changesTo {current : ObservedRole} {desired : DeclaredRole}
    {old new : String} :
    .rename old new ∈ current.changesTo desired ↔
      current.name ≠ desired.name ∧ old = current.name ∧ new = desired.name := by
  unfold changesTo RoleFlag.change
  cases desired.bypassRowLevelSecurity <;> simp [List.mem_ite_nil_left]

/-- A plan renames exactly the roles that have another name than the declared one. -/
theorem DeclaredRole.rename_mem_updatePlan {spec : DeclaredRole} {dialect : Dialect}
    {current : ObservedRole} {plan : Plan} (h : spec.updatePlan dialect current = .ok plan) :
    (∃ old new, .renameRole old new ∈ plan) ↔ current.name ≠ spec.name := by
  have hstatement : ∀ (change : RoleChange) (old new : String),
      change.statement? spec dialect = .ok (some (.renameRole old new)) ↔
        change = .rename old new := by
    intro change old new
    rcases change with ⟨a, b⟩ | ⟨f, on⟩ | limit | _ | e | g | g
    case attribute.flag =>
      simp only [RoleChange.statement?]
      split <;> simp [Except.bind_ok, pure, Except.pure]
    all_goals simp [RoleChange.statement?, Except.bind_ok, pure, Except.pure]
  simp only [mem_planChanges h, hstatement, exists_eq_right, ObservedRole.rename_mem_changesTo]
  constructor
  · rintro ⟨old, new, hne, -⟩
    exact hne
  · intro hne
    exact ⟨_, _, hne, rfl, rfl⟩

/-- A plan that creates a role renames none. -/
theorem DeclaredRole.rename_not_mem_creationPlan {spec : DeclaredRole} {dialect : Dialect}
    {plan : Plan} (h : spec.creationPlan dialect = .ok plan) {old new : String} :
    .renameRole old new ∉ plan := by
  unfold creationPlan at h
  obtain ⟨c, hc, hplan⟩ := Except.bind_ok.1 h
  obtain rfl := Except.ok.inj hplan
  unfold creation at hc
  obtain ⟨bypass, -, hc⟩ := Except.bind_ok.1 hc
  obtain ⟨password, -, hc⟩ := Except.bind_ok.1 hc
  obtain rfl := Except.ok.inj hc
  simp

end Accord
