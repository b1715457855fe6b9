import Accord.Proofs.Role.Plan

/-!
# Roles, aspect by aspect

A role is compared with a declared one aspect by aspect: its attributes, its connection limit, its
expiry, and every single membership.  Only the password is left out, which the catalog does not
show.  The plan for an observed role sets exactly the aspects in which the role is not as declared
(`mem_roleAspect_updatePlan`), and it sets them to what is declared (`leadsTo_of_mem_updatePlan`).
-/

namespace Accord

/-- What can be declared about a role, apart from its name and its password. -/
inductive RoleAspect where
  | flag (f : RoleFlag)
  | connectionLimit
  | expiry
  | membership (group : String)

/-! ## Declared and observed aspects -/

/-- The declared value of an attribute, if it is managed. -/
def DeclaredRole.flag (spec : DeclaredRole) : RoleFlag → Option Bool
  | .superuser => some spec.superuser
  | .createDatabase => some spec.createDatabase
  | .createRole => some spec.createRole
  | .inherit => some spec.inherit
  | .login => some spec.login
  | .replication => some spec.replication
  | .bypassRowLevelSecurity => spec.bypassRowLevelSecurity

/-- The observed value of an attribute, if it is known. -/
def ObservedRole.flag (r : ObservedRole) : RoleFlag → Option Bool
  | .superuser => some r.superuser
  | .createDatabase => some r.createDatabase
  | .createRole => some r.createRole
  | .inherit => some r.inherit
  | .login => some r.login
  | .replication => some r.replication
  | .bypassRowLevelSecurity => r.bypassRowLevelSecurity

/-- An observed role is as declared in one aspect. -/
def ObservedRole.Meets (r : ObservedRole) (spec : DeclaredRole) : RoleAspect → Prop
  | .flag f => ∀ on, spec.flag f = some on → r.flag f = some on
  | .connectionLimit => r.connectionLimit = spec.connectionLimit
  | .expiry => expiryMatches r.validUntil spec.validUntil = true
  | .membership g => g ∈ r.roles ↔ g ∈ spec.roles

/-- When an observed role needs a change. -/
def ObservedRole.Needs (r : ObservedRole) (spec : DeclaredRole) : RoleChange → Prop
  | .rename old new => r.name ≠ spec.name ∧ old = r.name ∧ new = spec.name
  | .attribute (.flag f on) => spec.flag f = some on ∧ r.flag f ≠ some on
  | .attribute (.connectionLimit limit) =>
    r.connectionLimit ≠ spec.connectionLimit ∧ limit = spec.connectionLimit
  | .password => spec.password ≠ none ∧ spec.password ≠ r.password
  | .validUntil e => expiryMatches r.validUntil spec.validUntil = false ∧ e = spec.validUntil
  | .revokeMembership g => g ∈ r.roles ∧ g ∉ spec.roles
  | .grantMembership g => g ∈ spec.roles ∧ g ∉ r.roles

theorem RoleFlag.mem_change {f : RoleFlag} {observed declared : Bool} {c : RoleChange} :
    c ∈ f.change observed declared ↔
      c = .attribute (.flag f declared) ∧ observed ≠ declared := by
  unfold RoleFlag.change
  by_cases h : observed = declared <;> simp [h]

theorem RoleFlag.attribute_mem_change {f g : RoleFlag} {observed declared on : Bool} :
    .attribute (.flag g on) ∈ f.change observed declared ↔
      f = g ∧ declared = on ∧ observed ≠ on := by
  rw [mem_change]
  constructor
  · rintro ⟨h, hne⟩
    obtain ⟨rfl, rfl⟩ := AttributeValue.flag.inj (RoleChange.attribute.inj h)
    exact ⟨rfl, rfl, hne⟩
  · rintro ⟨rfl, rfl, hne⟩
    exact ⟨rfl, hne⟩

theorem ObservedRole.mem_changesTo {r : ObservedRole} {spec : DeclaredRole} {c : RoleChange} :
    c ∈ r.changesTo spec ↔ r.Needs spec c := by
  unfold changesTo
  rcases c with ⟨old, new⟩ | (⟨f, on⟩ | limit) | _ | e | g | g
  case attribute.flag =>
    cases hbypass : spec.bypassRowLevelSecurity with
    | none =>
      cases f <;> simp [Needs, flag, DeclaredRole.flag, RoleFlag.attribute_mem_change, hbypass,
        List.mem_ite_nil_left]
    | some on' =>
      cases f <;> simp [Needs, flag, DeclaredRole.flag, RoleFlag.attribute_mem_change, hbypass,
        List.mem_ite_nil_left]
      constructor
      · rintro ⟨hne, rfl⟩
        exact ⟨rfl, hne⟩
      · rintro ⟨rfl, hne⟩
        exact ⟨hne, rfl⟩
  all_goals
    cases spec.bypassRowLevelSecurity <;>
      simp [Needs, RoleFlag.mem_change, List.mem_ite_nil_left]

theorem ObservedRole.changesTo_eq_nil {r : ObservedRole} {spec : DeclaredRole} :
    r.changesTo spec = [] ↔
      r.name = spec.name ∧ (spec.password = none ∨ spec.password = r.password) ∧
        ∀ a, r.Meets spec a := by
  rw [List.eq_nil_iff_forall_not_mem]
  simp only [mem_changesTo]
  constructor
  · intro h
    refine ⟨?_, ?_, fun a => ?_⟩
    · by_cases hname : r.name = spec.name
      · exact hname
      · exact absurd ⟨hname, rfl, rfl⟩ (h (.rename r.name spec.name))
    · exact Decidable.not_and_iff_not_or_not.1 (h .password) |>.imp
        Decidable.not_not.1 Decidable.not_not.1
    · cases a with
      | flag f =>
        intro on hon
        exact Decidable.not_not.1 fun hne => h (.attribute (.flag f on)) ⟨hon, hne⟩
      | connectionLimit =>
        show r.connectionLimit = spec.connectionLimit
        exact Decidable.not_not.1 fun hne =>
          h (.attribute (.connectionLimit spec.connectionLimit)) ⟨hne, rfl⟩
      | expiry =>
        exact eq_true_of_ne_false fun hne => h (.validUntil spec.validUntil) ⟨hne, rfl⟩
      | membership g =>
        constructor
        · intro hg
          exact Decidable.not_not.1 fun hs => h (.revokeMembership g) ⟨hg, hs⟩
        · intro hs
          exact Decidable.not_not.1 fun hg => h (.grantMembership g) ⟨hs, hg⟩
  · rintro ⟨hname, hpassword, hmeets⟩ c hc
    rcases c with ⟨old, new⟩ | (⟨f, on⟩ | limit) | _ | e | g | g
    · exact hc.1 hname
    · exact hc.2 (hmeets (.flag f) on hc.1)
    · exact hc.1 (hmeets .connectionLimit)
    · exact hpassword.elim hc.1 hc.2
    · exact Bool.false_ne_true (hc.1.symm.trans (hmeets .expiry))
    · exact hc.2 ((hmeets (.membership g)).1 hc.1)
    · exact hc.2 ((hmeets (.membership g)).2 hc.1)

/-! ## What statements set -/

/-- The aspect that a setting sets. -/
def RoleSetting.roleAspect : RoleSetting → Option RoleAspect
  | .flag f _ => some (.flag f)
  | .connectionLimit _ => some .connectionLimit
  | .validUntil _ => some .expiry
  | .password _ | .other .. => none

/-- The aspect of a role that a statement sets. -/
def Statement.roleAspect : Statement → Option RoleAspect
  | .alterRole _ setting => setting.roleAspect
  | .grantMembership group _ | .revokeMembership group _ => some (.membership group)
  | _ => none

/-- The setting sets what is declared. -/
def RoleSetting.LeadsTo (spec : DeclaredRole) : RoleSetting → Prop
  | .flag f on => spec.flag f = some on
  | .connectionLimit limit => limit = spec.connectionLimit
  | .validUntil expiry => expiry = spec.validUntil
  | .password _ => True
  | .other .. => False

/-- The statement is about the declared role and sets what is declared. -/
def Statement.LeadsTo (spec : DeclaredRole) : Statement → Prop
  | .alterRole role setting => role = spec.name ∧ setting.LeadsTo spec
  | .grantMembership group role => role = spec.name ∧ group ∈ spec.roles
  | .revokeMembership group role => role = spec.name ∧ group ∉ spec.roles
  | _ => False

namespace DeclaredRole

variable {spec : DeclaredRole} {dialect : Dialect} {r : ObservedRole} {plan : Plan}

/-- Every change has its statement, or the plan could not be made. -/
theorem statement?_of_planChanges {changes : List RoleChange} {c : RoleChange}
    (h : spec.planChanges dialect changes = .ok plan) (hc : c ∈ changes) :
    ∃ s, c.statement? spec dialect = .ok s := by
  induction changes generalizing plan with
  | nil => exact absurd hc List.not_mem_nil
  | cons d changes ih =>
    obtain ⟨s, rest, hs, hrest, -⟩ := planChanges_cons.1 h
    rcases List.mem_cons.1 hc with rfl | hc
    · exact ⟨s, hs⟩
    · exact ih hrest hc

theorem passwordClause_ok {clause : Option PasswordClause} :
    spec.passwordClause dialect = .ok clause ↔
      match spec.password with
      | none => clause = none
      | some p =>
        if spec.removesPassword then clause = some .clear
        else if spec.encryptedPassword then clause = some (.encrypted p)
        else dialect.supports .unencryptedPassword = true ∧ clause = some (.unencrypted p) := by
  unfold passwordClause
  cases spec.password with
  | none => exact ⟨fun h => (Except.ok.inj h).symm, fun h => congrArg _ h.symm⟩
  | some p =>
    dsimp only
    by_cases hremoves : spec.removesPassword = true
    · rw [if_pos hremoves, if_pos hremoves]
      exact ⟨fun h => (Except.ok.inj h).symm, fun h => congrArg _ h.symm⟩
    · rw [if_neg hremoves, if_neg hremoves]
      by_cases hencrypted : spec.encryptedPassword = true
      · rw [if_pos hencrypted, if_pos hencrypted]
        exact ⟨fun h => (Except.ok.inj h).symm, fun h => congrArg _ h.symm⟩
      · rw [if_neg hencrypted, if_neg hencrypted, Except.bind_ok]
        constructor
        · rintro ⟨_, hrequire, h⟩
          exact ⟨Dialect.require_ok.1 hrequire, (Except.ok.inj h).symm⟩
        · rintro ⟨hsupports, rfl⟩
          exact ⟨(), Dialect.require_ok.2 hsupports, rfl⟩

theorem passwordClause_eq_none (h : spec.passwordClause dialect = .ok none) :
    spec.password = none := by
  have hclause := passwordClause_ok.1 h
  cases hp : spec.password with
  | none => rfl
  | some p =>
    rw [hp] at hclause
    dsimp only at hclause
    split at hclause
    · cases hclause
    · split at hclause
      · cases hclause
      · cases hclause.2

theorem statement?_flag {f : RoleFlag} {on : Bool} {s : Option Statement}
    (h : (RoleChange.attribute (.flag f on)).statement? spec dialect = .ok s) :
    s = some (.alterRole spec.name (.flag f on)) := by
  simp only [RoleChange.statement?] at h
  by_cases hf : f = .bypassRowLevelSecurity
  · rw [if_pos hf, Except.bind_ok] at h
    obtain ⟨-, -, h⟩ := h
    exact (Except.ok.inj h).symm
  · rw [if_neg hf] at h
    exact (Except.ok.inj h).symm

/-- A change that is needed has a statement, and the statement sets what is declared. -/
theorem statement?_of_needs {c : RoleChange} {s : Option Statement} (hname : r.name = spec.name)
    (hneeds : r.Needs spec c) (h : c.statement? spec dialect = .ok s) :
    ∃ t, s = some t ∧ t.LeadsTo spec := by
  rcases c with ⟨old, new⟩ | (⟨f, on⟩ | limit) | _ | e | g | g
  · exact absurd hname hneeds.1
  · exact ⟨_, statement?_flag h, rfl, hneeds.1⟩
  · exact ⟨_, (Except.ok.inj h).symm, rfl, hneeds.2⟩
  · obtain ⟨clause, hclause, h⟩ := Except.bind_ok.1 h
    cases clause with
    | none => exact absurd (passwordClause_eq_none hclause) hneeds.1
    | some clause => exact ⟨_, (Except.ok.inj h).symm, rfl, trivial⟩
  · exact ⟨_, (Except.ok.inj h).symm, rfl, hneeds.2⟩
  · exact ⟨_, (Except.ok.inj h).symm, rfl, hneeds.2⟩
  · exact ⟨_, (Except.ok.inj h).symm, rfl, hneeds.1⟩

/-- A plan is empty if and only if nothing has to change. -/
theorem updatePlan_eq_nil (h : spec.updatePlan dialect r = .ok plan) :
    plan = [] ↔ r.changesTo spec = [] := by
  constructor
  · rintro rfl
    rw [List.eq_nil_iff_forall_not_mem]
    intro c hc
    obtain ⟨s, hs⟩ := statement?_of_planChanges h hc
    have hne : ∃ t, s = some t := by
      by_cases hname : r.name = spec.name
      · obtain ⟨t, ht, -⟩ := statement?_of_needs hname (ObservedRole.mem_changesTo.1 hc) hs
        exact ⟨t, ht⟩
      · -- A rename has a statement as well.
        have hrename : .rename r.name spec.name ∈ r.changesTo spec :=
          ObservedRole.mem_changesTo.2 ⟨hname, rfl, rfl⟩
        exact absurd ((mem_planChanges h).2 ⟨_, hrename, rfl⟩) List.not_mem_nil
    obtain ⟨t, rfl⟩ := hne
    exact absurd ((mem_planChanges h).2 ⟨c, hc, hs⟩) List.not_mem_nil
  · intro hnil
    unfold updatePlan at h
    rw [hnil] at h
    exact (Except.ok.inj h).symm

/-- All statements of a plan set what is declared. -/
theorem leadsTo_of_mem_updatePlan (h : spec.updatePlan dialect r = .ok plan)
    (hname : r.name = spec.name) : ∀ t ∈ plan, t.LeadsTo spec := by
  intro t ht
  obtain ⟨c, hc, hs⟩ := (mem_planChanges h).1 ht
  obtain ⟨t', ht', hleads⟩ := statement?_of_needs hname (ObservedRole.mem_changesTo.1 hc) hs
  rwa [Option.some.inj ht']

/-- The aspect that the statement of a change sets. -/
theorem roleAspect_of_statement? {c : RoleChange} {t : Statement} {a : RoleAspect}
    (h : c.statement? spec dialect = .ok (some t)) :
    t.roleAspect = some a ↔ match c with
      | .attribute (.flag f _) => a = .flag f
      | .attribute (.connectionLimit _) => a = .connectionLimit
      | .validUntil _ => a = .expiry
      | .revokeMembership g | .grantMembership g => a = .membership g
      | .rename .. | .password => False := by
  rcases c with ⟨old, new⟩ | (⟨f, on⟩ | limit) | _ | e | g | g
  case attribute.flag =>
    obtain rfl := Option.some.inj (statement?_flag h)
    exact ⟨fun h => (Option.some.inj h).symm, fun h => congrArg some h.symm⟩
  case password =>
    obtain ⟨clause, -, h⟩ := Except.bind_ok.1 h
    obtain ⟨_, -, rfl⟩ := Option.map_eq_some_iff.1 (Except.ok.inj h)
    simp [Statement.roleAspect, RoleSetting.roleAspect]
  all_goals
    obtain rfl := Option.some.inj (Except.ok.inj h)
    simp [Statement.roleAspect, RoleSetting.roleAspect, eq_comm]

/-- A plan sets exactly the aspects in which the role is not as declared. -/
theorem mem_roleAspect_updatePlan (h : spec.updatePlan dialect r = .ok plan)
    (hname : r.name = spec.name) (a : RoleAspect) :
    (∃ t ∈ plan, t.roleAspect = some a) ↔ ¬r.Meets spec a := by
  constructor
  · rintro ⟨t, ht, ha⟩ hmeets
    obtain ⟨c, hc, hs⟩ := (mem_planChanges h).1 ht
    rw [roleAspect_of_statement? hs] at ha
    have hneeds := ObservedRole.mem_changesTo.1 hc
    rcases c with ⟨old, new⟩ | (⟨f, on⟩ | limit) | _ | e | g | g
    · exact ha
    · subst ha
      exact hneeds.2 (hmeets on hneeds.1)
    · subst ha
      exact hneeds.1 hmeets
    · exact ha
    · subst ha
      exact Bool.false_ne_true (hneeds.1.symm.trans hmeets)
    · subst ha
      exact hneeds.2 (hmeets.1 hneeds.1)
    · subst ha
      exact hneeds.2 (hmeets.2 hneeds.1)
  · intro hmeets
    -- It is enough to find a change that is needed and whose statement sets the aspect.
    have hset : ∀ c, r.Needs spec c →
        (∀ t, c.statement? spec dialect = .ok (some t) → t.roleAspect = some a) →
        ∃ t ∈ plan, t.roleAspect = some a := by
      intro c hneeds ha
      have hc := ObservedRole.mem_changesTo.2 hneeds
      obtain ⟨s, hs⟩ := statement?_of_planChanges h hc
      obtain ⟨t, rfl, -⟩ := statement?_of_needs hname hneeds hs
      exact ⟨t, (mem_planChanges h).2 ⟨c, hc, hs⟩, ha t hs⟩
    cases a with
    | flag f =>
      obtain ⟨on, hnot⟩ := Classical.not_forall.1 hmeets
      obtain ⟨hon, hne⟩ := Classical.not_imp.1 hnot
      exact hset (.attribute (.flag f on)) ⟨hon, hne⟩
        fun t ht => (roleAspect_of_statement? ht).2 rfl
    | connectionLimit =>
      exact hset (.attribute (.connectionLimit spec.connectionLimit)) ⟨hmeets, rfl⟩
        fun t ht => (roleAspect_of_statement? ht).2 rfl
    | expiry =>
      exact hset (.validUntil spec.validUntil) ⟨Bool.eq_false_iff.2 hmeets, rfl⟩
        fun t ht => (roleAspect_of_statement? ht).2 rfl
    | membership g =>
      by_cases hg : g ∈ r.roles
      · have hs : g ∉ spec.roles := fun hs => hmeets (iff_of_true hg hs)
        exact hset (.revokeMembership g) ⟨hg, hs⟩ fun t ht => (roleAspect_of_statement? ht).2 rfl
      · have hs : g ∈ spec.roles := by
          by_cases hs : g ∈ spec.roles
          · exact hs
          · exact absurd (iff_of_false hg hs) hmeets
        exact hset (.grantMembership g) ⟨hs, hg⟩ fun t ht => (roleAspect_of_statement? ht).2 rfl

end DeclaredRole

end Accord
