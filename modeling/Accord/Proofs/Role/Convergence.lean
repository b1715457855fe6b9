import Accord.Proofs.Catalog.Faithful
import Accord.Proofs.Role.Aspect

/-!
# Roles in the catalog and plans for them

What a statement sets is as declared afterwards, and every other aspect is as it was
(`effect_meets`).  So after a plan has been carried out, a role is as declared in all the aspects
that the plan sets, and in all those in which it was as declared before (`effects_meets`); the order
of the statements does not matter.  A role that is created is as declared in every aspect
(`meets_of_creationPlan`).
-/

namespace Accord

/-- The value of an attribute as it is shown: where there is no row-level security, nobody bypasses
it. -/
def RoleEntry.flag (e : RoleEntry) (bypass : Bool) (f : RoleFlag) : Bool :=
  e.has f && (bypass || decide (f ≠ .bypassRowLevelSecurity))

/-- A role in the catalog is as declared in one aspect. -/
def RoleEntry.Meets (e : RoleEntry) (bypass : Bool) (spec : DeclaredRole) : RoleAspect → Prop
  | .flag f => ∀ on, spec.flag f = some on → e.flag bypass f = on
  | .connectionLimit => e.connectionLimit = spec.connectionLimit
  | .expiry => expiryMatches e.expiry spec.validUntil = true
  | .membership g => g ∈ e.groups ↔ g ∈ spec.roles

/-- The server can make the role bypass row-level security, if that is declared. -/
def DeclaredRole.Feasible (spec : DeclaredRole) (bypass : Bool) : Prop :=
  bypass = true ∨ spec.bypassRowLevelSecurity ≠ some true

section Effect

variable {host : Host} {database : String} {spec : DeclaredRole} {bypass : Bool} {k k' : Catalog}
  {e e' : RoleEntry}

theorem RoleEntry.set_meets {s : RoleSetting} (hfeasible : spec.Feasible bypass)
    (hs : s.LeadsTo spec) (h : e.set host s = some e') (a : RoleAspect) :
    e'.Meets bypass spec a ↔ s.roleAspect = some a ∨ e.Meets bypass spec a := by
  cases s with
  | flag f on =>
    obtain rfl := Option.some.inj h
    cases a with
    | flag g =>
      by_cases hg : g = f
      · subst hg
        refine iff_of_true (fun on' hon => ?_) (.inl rfl)
        obtain rfl : on = on' := Option.some.inj (hs.symm.trans hon)
        show ((if g = g then on else e.has g) &&
          (bypass || decide (g ≠ .bypassRowLevelSecurity))) = on
        rw [if_pos rfl]
        by_cases hb : bypass = true ∨ g ≠ .bypassRowLevelSecurity
        · rcases hb with hb | hb <;> simp [hb]
        · rw [not_or, Decidable.not_not] at hb
          obtain ⟨hb, rfl⟩ := hb
          have hoff : on ≠ true := fun hon => hfeasible.elim hb fun hne => hne (hon ▸ hs)
          simp [hoff]
      · have hne : RoleSetting.roleAspect (.flag f on) ≠ some (.flag g) :=
          fun heq => hg (RoleAspect.flag.inj (Option.some.inj heq)).symm
        rw [or_iff_right hne]
        simp only [RoleEntry.Meets, RoleEntry.flag, if_neg hg]
    | _ => exact (or_iff_right (by simp [RoleSetting.roleAspect])).symm
  | connectionLimit limit =>
    simp only [RoleEntry.set, Option.dite_none_right_eq_some, Option.some.injEq] at h
    obtain ⟨-, rfl⟩ := h
    cases a with
    | connectionLimit => exact iff_of_true hs (.inl rfl)
    | _ => exact (or_iff_right (by simp [RoleSetting.roleAspect])).symm
  | validUntil expiry =>
    obtain rfl := Option.some.inj h
    cases a with
    | expiry =>
      refine iff_of_true ?_ (.inl rfl)
      obtain rfl : expiry = spec.validUntil := hs
      exact host.showExpiry_matches _
    | _ => exact (or_iff_right (by simp [RoleSetting.roleAspect])).symm
  | password clause =>
    obtain rfl := Option.some.inj h
    have hne : RoleSetting.roleAspect (.password clause) ≠ some a := by
      simp [RoleSetting.roleAspect]
    rw [or_iff_right hne]
    cases a <;> exact Iff.rfl
  | other what option sensitive => exact hs.elim

/-- Joining or leaving one group concerns only the membership in it. -/
theorem RoleEntry.meets_groups {groups : OrderedSet String} {group : String}
    (hgroup : group ∈ groups ↔ group ∈ spec.roles)
    (hother : ∀ g, g ≠ group → (g ∈ groups ↔ g ∈ e.groups)) (a : RoleAspect) :
    { e with groups }.Meets bypass spec a ↔
      some (RoleAspect.membership group) = some a ∨ e.Meets bypass spec a := by
  cases a with
  | membership g =>
    by_cases hg : g = group
    · subst hg
      exact iff_of_true hgroup (.inl rfl)
    · have hne : some (RoleAspect.membership group) ≠ some (.membership g) :=
        fun heq => hg (RoleAspect.membership.inj (Option.some.inj heq)).symm
      rw [or_iff_right hne]
      show (g ∈ groups ↔ g ∈ spec.roles) ↔ (g ∈ e.groups ↔ g ∈ spec.roles)
      rw [hother g hg]
  | _ => exact (or_iff_right (by simp)).symm

/-- What one statement sets is as declared afterwards, and everything else is as it was. -/
theorem Statement.effect_meets {c : Statement} (hfeasible : spec.Feasible bypass)
    (hc : c.LeadsTo spec) (h : c.effect host database k = some k') :
    ∃ e e', k.roles spec.name = some e ∧ k'.roles spec.name = some e' ∧
      k.DifferAt k' (.role spec.name) ∧
      ∀ a, e'.Meets bypass spec a ↔ c.roleAspect = some a ∨ e.Meets bypass spec a := by
  -- All these statements change one role that there is.
  have hchange : ∀ f, k.changeRole spec.name f = some k' →
      ∃ e e', k.roles spec.name = some e ∧ f e = some e' ∧ k'.roles spec.name = some e' ∧
        k.DifferAt k' (.role spec.name) := by
    intro f hf
    obtain ⟨e, he, hf⟩ := Option.bind_eq_some_iff.1 hf
    obtain ⟨e', he', rfl⟩ := Option.map_eq_some_iff.1 hf
    exact ⟨e, e', he, he', if_pos rfl, k.differAt_setRole spec.name (some e')⟩
  cases c with
  | alterRole role setting =>
    obtain ⟨rfl, hset⟩ := hc
    obtain ⟨e, e', he, hf, he', hdiffer⟩ := hchange _ h
    exact ⟨e, e', he, he', hdiffer, RoleEntry.set_meets hfeasible hset hf⟩
  | grantMembership group role =>
    obtain ⟨rfl, hgroup⟩ := hc
    obtain ⟨e, e', he, hf, he', hdiffer⟩ := hchange _ h
    obtain rfl := Option.some.inj hf
    refine ⟨e, _, he, he', hdiffer, RoleEntry.meets_groups ?_ fun g hg => ?_⟩
    · simp [hgroup]
    · simp [hg]
  | revokeMembership group role =>
    obtain ⟨rfl, hgroup⟩ := hc
    obtain ⟨e, e', he, hf, he', hdiffer⟩ := hchange _ h
    obtain rfl := Option.some.inj hf
    refine ⟨e, _, he, he', hdiffer, RoleEntry.meets_groups ?_ fun g hg => ?_⟩
    · simp [hgroup]
    · simp [hg]
  | _ => exact hc.elim

/-- Such statements neither create the role nor drop it. -/
theorem effects_isSome {l : List Statement} (hfeasible : spec.Feasible bypass)
    (hl : ∀ c ∈ l, c.LeadsTo spec)
    (h : effects (Statement.effect host database) l k = some k') :
    (k'.roles spec.name).isSome = (k.roles spec.name).isSome := by
  induction l generalizing k with
  | nil => rw [Option.some.inj h]
  | cons c l ih =>
    obtain ⟨k₁, hc, hrest⟩ := effects_cons.1 h
    obtain ⟨e, e₁, he, he₁, -⟩ :=
      Statement.effect_meets hfeasible (hl c (List.mem_cons_self ..)) hc
    rw [ih (fun c hc => hl c (List.mem_cons_of_mem _ hc)) hrest, he, he₁]
    rfl

/-- After some statements, a role is as declared in what they set and in what was so before. -/
theorem effects_meets {l : List Statement} (hfeasible : spec.Feasible bypass)
    (hl : ∀ c ∈ l, c.LeadsTo spec)
    (h : effects (Statement.effect host database) l k = some k')
    (he' : k'.roles spec.name = some e') :
    ∃ e, k.roles spec.name = some e ∧ k.DifferAt k' (.role spec.name) ∧
      ∀ a, e'.Meets bypass spec a ↔
        (∃ c ∈ l, c.roleAspect = some a) ∨ e.Meets bypass spec a := by
  induction l generalizing k with
  | nil =>
    obtain rfl := Option.some.inj h
    exact ⟨e', he', .refl k _, fun a => by simp⟩
  | cons c l ih =>
    obtain ⟨k₁, hc, hrest⟩ := effects_cons.1 h
    obtain ⟨e₁, he₁, hdiffer', hmeets'⟩ := ih (fun c hc => hl c (List.mem_cons_of_mem _ hc)) hrest
    obtain ⟨e, e₁', he, he₁', hdiffer, hmeets⟩ :=
      Statement.effect_meets hfeasible (hl c (List.mem_cons_self ..)) hc
    obtain rfl := Option.some.inj (he₁'.symm.trans he₁)
    refine ⟨e, he, hdiffer.trans hdiffer', fun a => ?_⟩
    rw [hmeets', hmeets]
    simp only [List.mem_cons, or_and_right, exists_or, exists_eq_left]
    exact or_left_comm.trans or_assoc.symm

/-! ## Creating a role -/

theorem foldlM_set_meets {l : List RoleSetting} (hfeasible : spec.Feasible bypass)
    (hl : ∀ s ∈ l, s.LeadsTo spec) (h : l.foldlM (RoleEntry.set host) e = some e')
    (a : RoleAspect) :
    e'.Meets bypass spec a ↔ (∃ s ∈ l, s.roleAspect = some a) ∨ e.Meets bypass spec a := by
  induction l generalizing e with
  | nil =>
    obtain rfl := Option.some.inj h
    simp
  | cons s l ih =>
    rw [List.foldlM_cons] at h
    obtain ⟨e₁, hs, hrest⟩ := Option.bind_eq_some_iff.1 h
    rw [ih (fun s hs => hl s (List.mem_cons_of_mem _ hs)) hrest,
      RoleEntry.set_meets hfeasible (hl s (List.mem_cons_self ..)) hs]
    simp only [List.mem_cons, or_and_right, exists_or, exists_eq_left]
    exact or_left_comm.trans or_assoc.symm

end Effect

theorem bypassSetting_ok {bypass : Option Bool} {dialect : Dialect} {setting : Option RoleSetting} :
    bypassSetting bypass dialect = .ok setting ↔
      (dialect.supports .rowLevelSecurity = true ∨ bypass = none) ∧
        setting = bypass.map (.flag .bypassRowLevelSecurity) := by
  cases bypass with
  | none => exact ⟨fun h => ⟨.inr rfl, (Except.ok.inj h).symm⟩, fun h => congrArg _ h.2.symm⟩
  | some on =>
    refine Except.bind_ok.trans ⟨?_, ?_⟩
    · rintro ⟨_, hrequire, h⟩
      exact ⟨.inl (Dialect.require_ok.1 hrequire), (Except.ok.inj h).symm⟩
    · rintro ⟨hsupports | hnone, rfl⟩
      · exact ⟨(), Dialect.require_ok.2 hsupports, rfl⟩
      · cases hnone

section Settings

variable {spec : DeclaredRole} {dialect : Dialect} {password : Option PasswordClause}

/-- The settings with which a role is created. -/
def DeclaredRole.settings (spec : DeclaredRole) (password : Option PasswordClause) :
    List RoleSetting :=
  [.flag .superuser spec.superuser, .flag .createDatabase spec.createDatabase,
    .flag .createRole spec.createRole, .flag .inherit spec.inherit, .flag .login spec.login,
    .flag .replication spec.replication, .connectionLimit spec.connectionLimit]
  ++ (spec.bypassRowLevelSecurity.map (.flag .bypassRowLevelSecurity)).toList
  ++ (if spec.validUntil = "" then [] else [.validUntil spec.validUntil])
  ++ (password.map .password).toList

theorem DeclaredRole.creation_eq_ok {c : Statement} :
    spec.creation dialect = .ok c ↔
      (dialect.supports .rowLevelSecurity = true ∨ spec.bypassRowLevelSecurity = none) ∧
        ∃ password, spec.passwordClause dialect = .ok password ∧
          c = .createRole spec.name (dialect.supports .createRoleWith) (spec.settings password) := by
  unfold creation
  simp only [Except.bind_ok, bypassSetting_ok]
  constructor
  · rintro ⟨_, ⟨hsupports, rfl⟩, password, hpassword, h⟩
    exact ⟨hsupports, password, hpassword, (Except.ok.inj h).symm⟩
  · rintro ⟨hsupports, password, hpassword, rfl⟩
    exact ⟨_, ⟨hsupports, rfl⟩, password, hpassword, rfl⟩

theorem DeclaredRole.creation_ok {c : Statement} (h : spec.creation dialect = .ok c) :
    spec.Feasible (dialect.supports .rowLevelSecurity) ∧ ∃ password,
      spec.passwordClause dialect = .ok password ∧
      c = .createRole spec.name (dialect.supports .createRoleWith) (spec.settings password) := by
  obtain ⟨hsupports, hcreate⟩ := creation_eq_ok.1 h
  exact ⟨hsupports.imp_right fun hnone => by simp [hnone], hcreate⟩

theorem DeclaredRole.leadsTo_of_mem_settings {s : RoleSetting} (hs : s ∈ spec.settings password) :
    s.LeadsTo spec := by
  simp only [settings, List.cons_append, List.nil_append, List.mem_cons, List.mem_append,
    Option.mem_toList, Option.map_eq_some_iff] at hs
  rcases hs with rfl | rfl | rfl | rfl | rfl | rfl | rfl |
    (⟨on, hon, rfl⟩ | hexpiry) | ⟨clause, -, rfl⟩
  any_goals rfl
  · exact hon
  · by_cases hempty : spec.validUntil = ""
    · simp [hempty] at hexpiry
    · rw [if_neg hempty, List.mem_singleton] at hexpiry
      subst hexpiry
      rfl
  · trivial

theorem DeclaredRole.mem_settings_of_flag {f : RoleFlag} {on : Bool} (h : spec.flag f = some on) :
    .flag f on ∈ spec.settings password := by
  cases f <;> simp_all [flag, settings]

/-- The settings set everything but the memberships, unless it is as declared without being set. -/
theorem DeclaredRole.settings_cover (spec : DeclaredRole) (password : Option PasswordClause)
    (bypass : Bool) (a : RoleAspect) :
    (∃ s ∈ spec.settings password, s.roleAspect = some a) ∨ RoleEntry.fresh.Meets bypass spec a ∨
      ∃ g ∈ spec.roles, a = .membership g := by
  cases a with
  | flag f =>
    cases hon : spec.flag f with
    | none =>
      refine .inr (.inl fun on hdeclared => ?_)
      exact absurd (hon.symm.trans hdeclared) (by simp)
    | some on => exact .inl ⟨.flag f on, mem_settings_of_flag hon, rfl⟩
  | connectionLimit =>
    exact .inl ⟨.connectionLimit spec.connectionLimit, by simp [settings], rfl⟩
  | expiry =>
    by_cases hempty : spec.validUntil = ""
    · refine .inr (.inl ?_)
      show expiryMatches _ spec.validUntil = true
      rw [hempty]
      decide +kernel
    · exact .inl ⟨.validUntil spec.validUntil, by simp [settings, hempty], rfl⟩
  | membership g =>
    by_cases hg : g ∈ spec.roles
    · exact .inr (.inr ⟨g, hg, rfl⟩)
    · exact .inr (.inl (iff_of_false (OrderedSet.not_mem_empty g) hg))

end Settings

section Creation

variable {host : Host} {database : String} {spec : DeclaredRole} {dialect : Dialect} {plan : Plan}
  {k k' : Catalog}

/-- A role that is created was not there before, and it is as declared in every aspect. -/
theorem DeclaredRole.meets_of_creationPlan (h : spec.creationPlan dialect = .ok plan)
    (hk : effects (Statement.effect host database) plan.ordered k = some k') :
    spec.Feasible (dialect.supports .rowLevelSecurity) ∧ k.roles spec.name = none ∧
      k.DifferAt k' (.role spec.name) ∧
      ∃ e', k'.roles spec.name = some e' ∧
        ∀ a, e'.Meets (dialect.supports .rowLevelSecurity) spec a := by
  unfold DeclaredRole.creationPlan at h
  obtain ⟨c, hc, h⟩ := Except.bind_ok.1 h
  obtain rfl := Except.ok.inj h
  obtain ⟨hfeasible, password, -, rfl⟩ := DeclaredRole.creation_ok hc
  rw [Plan.ordered_cons fun _ _ => Nat.zero_le _] at hk
  obtain ⟨k₁, hcreate, hk⟩ := effects_cons.1 hk
  simp only [Statement.effect, Option.ite_none_left_eq_some, Option.map_eq_some_iff,
    Bool.not_eq_true, Option.isSome_eq_false_iff, Option.isNone_iff_eq_none] at hcreate
  obtain ⟨hnew, e, he, rfl⟩ := hcreate
  have hl : ∀ c ∈ Plan.ordered (spec.roles.toList.map fun g => .grantMembership g spec.name),
      c.LeadsTo spec := by
    intro c hc
    obtain ⟨g, hg, rfl⟩ := List.mem_map.1 (Plan.mem_ordered.1 hc)
    exact ⟨rfl, hg⟩
  have hthere : ((k.setRole spec.name (some e)).roles spec.name) = some e := if_pos rfl
  obtain ⟨e', he'⟩ : ∃ e', k'.roles spec.name = some e' := by
    rw [← Option.isSome_iff_exists, effects_isSome hfeasible hl hk, hthere]
    rfl
  obtain ⟨e₁, he₁, hdiffer, hmeets⟩ := effects_meets hfeasible hl hk he'
  obtain rfl := Option.some.inj (hthere.symm.trans he₁)
  refine ⟨hfeasible, hnew, (k.differAt_setRole _ _).trans hdiffer, e', he', fun a => ?_⟩
  rw [hmeets, foldlM_set_meets hfeasible (fun s => DeclaredRole.leadsTo_of_mem_settings) he]
  rcases spec.settings_cover password _ a with hset | hfresh | ⟨g, hg, rfl⟩
  · exact .inr (.inl hset)
  · exact .inr (.inr hfresh)
  · exact .inl ⟨_, Plan.mem_ordered.2 (List.mem_map.2 ⟨g, hg, rfl⟩), rfl⟩

end Creation

/-! ## What is read and what there is -/

/-- A role is observed to be as declared if and only if it is, as far as the server tells. -/
theorem RoleEntry.Shown.meets {σ : Type} {ctx : Context σ} {e : RoleEntry} {name : String}
    {lastKnown : Option DeclaredRole} {r : ObservedRole} (h : e.Shown ctx name lastKnown r)
    (hlast : ∀ last ∈ lastKnown, last.Feasible (ctx.dialect.supports .rowLevelSecurity))
    (spec : DeclaredRole) (a : RoleAspect) :
    r.Meets spec a ↔ e.Meets (ctx.dialect.supports .rowLevelSecurity) spec a := by
  obtain ⟨hash, rfl⟩ := h
  cases a with
  | flag f =>
    have hflag : (Session.known ctx lastKnown { e.read name
        (ctx.dialect.supports .rowLevelSecurity) with passwordHash := hash }).flag f =
        some (e.flag (ctx.dialect.supports .rowLevelSecurity) f) := by
      cases f with
      | bypassRowLevelSecurity =>
        cases hb : ctx.dialect.supports .rowLevelSecurity with
        | true => simp [Session.known, ObservedRole.flag, RoleEntry.read, RoleEntry.flag, hb]
        | false =>
          have hoff : (lastKnown.bind DeclaredRole.bypassRowLevelSecurity).getD false = false := by
            cases lastKnown with
            | none => rfl
            | some last =>
              have hne := (hlast last rfl).resolve_left (by simp [hb])
              revert hne
              show last.bypassRowLevelSecurity ≠ some true →
                last.bypassRowLevelSecurity.getD false = false
              rcases last.bypassRowLevelSecurity with _ | _ | _ <;> simp
          simp [Session.known, ObservedRole.flag, RoleEntry.flag, hb, hoff]
      | _ => simp [Session.known, ObservedRole.flag, RoleEntry.read, RoleEntry.flag]
    show (∀ on, spec.flag f = some on → _ = some on) ↔ _
    rw [hflag]
    simp only [Option.some.injEq]
    rfl
  | _ => exact Iff.rfl

/-- A plan for a role whose attributes are known is feasible. -/
theorem RoleEntry.Shown.feasible {σ : Type} {ctx : Context σ} {e : RoleEntry} {name : String}
    {r : ObservedRole} {spec : DeclaredRole} {plan : Plan} (h : e.Shown ctx name none r)
    (hplan : spec.updatePlan ctx.dialect r = .ok plan) :
    spec.Feasible (ctx.dialect.supports .rowLevelSecurity) := by
  refine Decidable.or_iff_not_imp_left.2 fun hb hon => hb ?_
  obtain ⟨hash, rfl⟩ := h
  have hneeds : (Session.known ctx none { e.read name (ctx.dialect.supports .rowLevelSecurity) with
      passwordHash := hash }).Needs spec (.attribute (.flag .bypassRowLevelSecurity true)) := by
    refine ⟨hon, ?_⟩
    simp [Session.known, ObservedRole.flag, hb]
  obtain ⟨s, hs⟩ :=
    DeclaredRole.statement?_of_planChanges hplan (ObservedRole.mem_changesTo.2 hneeds)
  simp only [RoleChange.statement?, if_pos, Except.bind_ok] at hs
  obtain ⟨_, hrequire, -⟩ := hs
  exact Dialect.require_ok.1 hrequire

theorem RoleEntry.Shown.name {σ : Type} {ctx : Context σ} {e : RoleEntry} {name : String}
    {lastKnown : Option DeclaredRole} {r : ObservedRole} (h : e.Shown ctx name lastKnown r) :
    r.name = name := by
  obtain ⟨hash, rfl⟩ := h
  rfl

theorem RoleEntry.Shown.password {σ : Type} {ctx : Context σ} {e : RoleEntry} {name : String}
    {lastKnown : Option DeclaredRole} {r : ObservedRole} (h : e.Shown ctx name lastKnown r) :
    r.password = lastKnown.bind DeclaredRole.password := by
  obtain ⟨hash, rfl⟩ := h
  rfl


end Accord
