import Accord.Proofs.Role.Aspect
import Accord.Proofs.Statement.Order

/-!
# Parts of a role that a plan sets

Besides the aspects of a role a plan can set its name and its password; together these are the parts
of a role.  Every statement of a plan sets one part, and a plan sets exactly the parts in which the
observed role and the declared one do not agree (`rolePart_mem_updatePlan`).  A role that has to be
renamed is renamed first, and the rest is the plan for the renamed role (`updatePlan_of_name_ne`).
-/

namespace Accord

/-- What a plan for a role can set. -/
inductive RolePart where
  | name
  | password
  | aspect (a : RoleAspect)

/-- An observed role and a declared one agree in one part.  They agree in what is not managed. -/
def ObservedRole.Agrees (r : ObservedRole) (spec : DeclaredRole) : RolePart → Prop
  | .name => r.name = spec.name
  | .password => spec.password = none ∨ spec.password = r.password
  | .aspect a => r.Meets spec a

/-- The declaration says what a part is to be. -/
def DeclaredRole.Manages (spec : DeclaredRole) : RolePart → Prop
  | .password => spec.password ≠ none
  | .aspect (.flag f) => spec.flag f ≠ none
  | .aspect .expiry => spec.validUntil ≠ ""
  | _ => True

/-- What is not managed needs no change. -/
theorem ObservedRole.agrees_of_not_manages {r : ObservedRole} {spec : DeclaredRole} {p : RolePart}
    (h : ¬spec.Manages p) : r.Agrees spec p := by
  cases p with
  | name => exact absurd trivial h
  | password => exact .inl (Classical.not_not.1 h)
  | aspect a =>
    cases a with
    | flag f =>
      intro on hon
      have hnone : spec.flag f = none := Classical.not_not.1 h
      simp [hnone] at hon
    | connectionLimit => exact absurd trivial h
    | expiry =>
      have hempty : spec.validUntil = "" := Classical.not_not.1 h
      show expiryMatches r.validUntil spec.validUntil = true
      rw [hempty]
      unfold expiryMatches
      simp
    | membership g => exact absurd trivial h

/-- The part that a setting sets. -/
def RoleSetting.rolePart : RoleSetting → Option RolePart
  | .password _ => some .password
  | s => s.roleAspect.map .aspect

/-- The part of a role that a statement sets. -/
def Statement.rolePart : Statement → Option RolePart
  | .renameRole .. => some .name
  | .alterRole _ setting => setting.rolePart
  | c => c.roleAspect.map .aspect

theorem Statement.rolePart_eq_aspect {c : Statement} {a : RoleAspect} :
    c.rolePart = some (.aspect a) ↔ c.roleAspect = some a := by
  cases c with
  | alterRole role setting =>
    cases setting <;> simp [rolePart, RoleSetting.rolePart, roleAspect, RoleSetting.roleAspect]
  | _ => simp [rolePart, roleAspect]

theorem Statement.rolePart_eq_password {c : Statement} :
    c.rolePart = some .password ↔ ∃ role clause, c = .alterRole role (.password clause) := by
  cases c with
  | alterRole role setting =>
    cases setting <;> simp [rolePart, RoleSetting.rolePart, RoleSetting.roleAspect]
  | _ => simp [rolePart, roleAspect]

/-- A statement that is about the declared role sets some part of it, and not its name. -/
theorem Statement.LeadsTo.rolePart {c : Statement} {spec : DeclaredRole} (h : c.LeadsTo spec) :
    ∃ p, c.rolePart = some p ∧ p ≠ .name := by
  cases c with
  | alterRole role setting =>
    obtain ⟨-, hset⟩ := h
    cases setting with
    | other what option sensitive => exact hset.elim
    | _ => simp [Statement.rolePart, RoleSetting.rolePart, RoleSetting.roleAspect]
  | grantMembership group role => simp [Statement.rolePart, Statement.roleAspect]
  | revokeMembership group role => simp [Statement.rolePart, Statement.roleAspect]
  | _ => exact h.elim

namespace DeclaredRole

variable {spec : DeclaredRole} {dialect : Dialect} {r : ObservedRole} {plan : Plan}

/-! ## Renaming first -/

theorem changesTo_of_name_ne (h : r.name ≠ spec.name) :
    r.changesTo spec =
      .rename r.name spec.name :: { r with name := spec.name }.changesTo spec := by
  unfold ObservedRole.changesTo
  rw [if_neg h, if_pos rfl]
  simp only [List.cons_append, List.nil_append]

/-- A role with another name is renamed, and then it is changed like one with the declared name. -/
theorem updatePlan_of_name_ne (h : r.name ≠ spec.name) :
    spec.updatePlan dialect r = .ok plan ↔
      ∃ rest, spec.updatePlan dialect { r with name := spec.name } = .ok rest ∧
        plan = .renameRole r.name spec.name :: rest := by
  unfold updatePlan
  rw [changesTo_of_name_ne h, planChanges_cons]
  constructor
  · rintro ⟨c, rest, hc, hrest, rfl⟩
    obtain rfl := Except.ok.inj hc
    exact ⟨rest, hrest, rfl⟩
  · rintro ⟨rest, hrest, rfl⟩
    exact ⟨_, rest, rfl, hrest, rfl⟩

/-- All statements but the renaming come after it. -/
theorem ordered_renameRole {old new : String} {rest : Plan} (hrest : ∀ c ∈ rest, c.LeadsTo spec) :
    Plan.ordered (.renameRole old new :: rest) = .renameRole old new :: Plan.ordered rest := by
  apply Plan.ordered_cons
  intro c hc
  have hleads := hrest c hc
  cases c with
  | alterRole role setting => exact Nat.le_of_ble_eq_true rfl
  | grantMembership group role => exact Nat.le_of_ble_eq_true rfl
  | revokeMembership group role => exact Nat.le_of_ble_eq_true rfl
  | _ => exact hleads.elim

/-! ## What a plan sets -/

/-- The statement of each change. -/
theorem statement?_cases {c : RoleChange} {t : Statement}
    (h : c.statement? spec dialect = .ok (some t)) :
    match c with
    | .rename old new => t = .renameRole old new
    | .attribute (.flag f on) => t = .alterRole spec.name (.flag f on)
    | .attribute (.connectionLimit limit) => t = .alterRole spec.name (.connectionLimit limit)
    | .password => ∃ clause, spec.passwordClause dialect = .ok (some clause) ∧
        t = .alterRole spec.name (.password clause)
    | .validUntil e => t = .alterRole spec.name (.validUntil e)
    | .revokeMembership g => t = .revokeMembership g spec.name
    | .grantMembership g => t = .grantMembership g spec.name := by
  rcases c with ⟨old, new⟩ | (⟨f, on⟩ | limit) | _ | e | g | g
  case attribute.flag => exact Option.some.inj (statement?_flag h)
  case password =>
    obtain ⟨declared, hdeclared, h⟩ := Except.bind_ok.1 h
    obtain ⟨clause, rfl, hclause⟩ := Option.map_eq_some_iff.1 (Except.ok.inj h)
    exact ⟨clause, hdeclared, hclause.symm⟩
  all_goals exact (Option.some.inj (Except.ok.inj h)).symm

/-- The password is set if and only if another one is declared, and to the declared one. -/
theorem password_mem_updatePlan (h : spec.updatePlan dialect r = .ok plan) {role : String}
    {clause : PasswordClause} :
    .alterRole role (.password clause) ∈ plan ↔
      role = spec.name ∧ spec.passwordClause dialect = .ok (some clause) ∧
        ¬r.Agrees spec .password := by
  have hneeds : ¬r.Agrees spec .password ↔ r.Needs spec .password := not_or
  rw [hneeds, mem_planChanges h]
  simp only [ObservedRole.mem_changesTo]
  constructor
  · rintro ⟨c, hc, hs⟩
    have hcases := statement?_cases hs
    rcases c with ⟨old, new⟩ | (⟨f, on⟩ | limit) | _ | e | g | g
    case password =>
      obtain ⟨d, hd, heq⟩ := hcases
      obtain ⟨rfl, hset⟩ := Statement.alterRole.inj heq
      obtain rfl := RoleSetting.password.inj hset
      exact ⟨rfl, hd, hc⟩
    all_goals simp at hcases
  · rintro ⟨rfl, hclause, hpassword⟩
    refine ⟨.password, hpassword, ?_⟩
    simp [RoleChange.statement?, hclause, Except.bind_ok, pure, Except.pure]

/-- A membership is revoked only if the role was observed to have it. -/
theorem mem_roles_of_revoke (h : spec.updatePlan dialect r = .ok plan) {group role : String}
    (hmem : .revokeMembership group role ∈ plan) : group ∈ r.roles := by
  obtain ⟨c, hc, hs⟩ := (mem_planChanges h).1 hmem
  have hneeds := ObservedRole.mem_changesTo.1 hc
  have hcases := statement?_cases hs
  rcases c with ⟨old, new⟩ | (⟨f, on⟩ | limit) | _ | e | g | g
  case revokeMembership =>
    obtain ⟨rfl, -⟩ := Statement.revokeMembership.inj hcases
    exact hneeds.1
  all_goals simp at hcases

/-- A declared password has a clause in every plan that can be made. -/
theorem exists_passwordClause (h : spec.updatePlan dialect r = .ok plan)
    (hpassword : ¬r.Agrees spec .password) :
    ∃ clause, spec.passwordClause dialect = .ok (some clause) := by
  have hneeds : r.Needs spec .password := not_or.1 hpassword
  obtain ⟨s, hs⟩ := statement?_of_planChanges h (ObservedRole.mem_changesTo.2 hneeds)
  obtain ⟨clause, hclause, -⟩ := Except.bind_ok.1 hs
  cases clause with
  | none => exact absurd (passwordClause_eq_none hclause) hneeds.1
  | some clause => exact ⟨clause, hclause⟩

theorem exists_rolePart_of_mem_updatePlan (h : spec.updatePlan dialect r = .ok plan)
    {c : Statement} (hc : c ∈ plan) : ∃ p, c.rolePart = some p := by
  by_cases hname : r.name = spec.name
  · obtain ⟨p, hp, -⟩ := (leadsTo_of_mem_updatePlan h hname c hc).rolePart
    exact ⟨p, hp⟩
  · obtain ⟨rest, hrest, rfl⟩ := (updatePlan_of_name_ne hname).1 h
    rcases List.mem_cons.1 hc with rfl | hc
    · exact ⟨.name, rfl⟩
    · obtain ⟨p, hp, -⟩ := (leadsTo_of_mem_updatePlan hrest rfl c hc).rolePart
      exact ⟨p, hp⟩

/-- A plan sets exactly the parts in which the role does not agree with the declared one. -/
theorem rolePart_mem_updatePlan (h : spec.updatePlan dialect r = .ok plan) (p : RolePart) :
    (∃ t ∈ plan, t.rolePart = some p) ↔ ¬r.Agrees spec p := by
  -- The parts other than the name are set by what comes after the renaming.
  have hsame : ∀ {r' : ObservedRole} {rest : Plan}, r'.name = spec.name →
      spec.updatePlan dialect r' = .ok rest →
      ((∃ t ∈ rest, t.rolePart = some p) ↔ ¬r'.Agrees spec p) := by
    intro r' rest hname hrest
    cases p with
    | name =>
      refine iff_of_false ?_ fun hne => hne hname
      rintro ⟨t, ht, hpart⟩
      obtain ⟨q, hq, hne⟩ := (leadsTo_of_mem_updatePlan hrest hname t ht).rolePart
      exact hne (Option.some.inj (hq.symm.trans hpart))
    | password =>
      constructor
      · rintro ⟨t, ht, hpart⟩
        obtain ⟨role, clause, rfl⟩ := Statement.rolePart_eq_password.1 hpart
        exact ((password_mem_updatePlan hrest).1 ht).2.2
      · intro hpassword
        obtain ⟨clause, hclause⟩ := exists_passwordClause hrest hpassword
        exact ⟨_, (password_mem_updatePlan hrest).2 ⟨rfl, hclause, hpassword⟩, rfl⟩
    | aspect a =>
      simp only [Statement.rolePart_eq_aspect]
      exact mem_roleAspect_updatePlan hrest hname a
  by_cases hname : r.name = spec.name
  · exact hsame hname h
  · obtain ⟨rest, hrest, rfl⟩ := (updatePlan_of_name_ne hname).1 h
    have hrest := hsame rfl hrest
    simp only [List.mem_cons, or_and_right, exists_or, exists_eq_left]
    rw [hrest]
    cases p with
    | name => exact iff_of_true (.inl rfl) hname
    | password => exact or_iff_right (by simp [Statement.rolePart])
    | aspect a =>
      have hagree : { r with name := spec.name }.Agrees spec (.aspect a) ↔
          r.Agrees spec (.aspect a) := by
        cases a <;> exact Iff.rfl
      rw [hagree]
      exact or_iff_right (by simp [Statement.rolePart])

end DeclaredRole

end Accord
