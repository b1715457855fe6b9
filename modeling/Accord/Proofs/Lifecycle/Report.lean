import Accord.Proofs.Extension.Convergence
import Accord.Proofs.Lifecycle.Course
import Accord.Proofs.Lifecycle.Lookup
import Accord.Proofs.Role.Aspect
import Accord.Proofs.Rule.Convergence
import Accord.Proofs.Schema.Aspect

/-!
# What the report of a change says

A creation or an update that succeeds reports drift if and only if the object, as it was read again,
does not satisfy the declaration, whatever the server made of the statements
(`Lifecycle.drift_eq_nil_iff_satisfied`).
-/

namespace Accord

variable {σ δ ο ω ν : Type}

/-! ## Satisfying a declaration -/

/-- A role that was read is as declared in all that is managed.  Passwords are not read. -/
structure ObservedRole.Satisfies (r : ObservedRole) (spec : DeclaredRole) : Prop where
  name : r.name = spec.name
  superuser : r.superuser = spec.superuser
  createDatabase : r.createDatabase = spec.createDatabase
  createRole : r.createRole = spec.createRole
  inherit : r.inherit = spec.inherit
  login : r.login = spec.login
  replication : r.replication = spec.replication
  connectionLimit : r.connectionLimit = spec.connectionLimit
  bypassRowLevelSecurity (on : Bool) :
    spec.bypassRowLevelSecurity = some on → r.bypassRowLevelSecurity = some on
  validUntil : expiryMatches r.validUntil spec.validUntil = true
  roles : r.roles = spec.roles

/-- A schema that was read is as declared.  What its owner holds is no policy. -/
structure ObservedSchema.Satisfies (s : ObservedSchema) (spec : NormalSchema) : Prop where
  name : s.name = spec.name
  owner (o : String) : spec.owner = some o → s.owner = o
  policies (g : String) :
    g ≠ spec.owner.getD s.owner → s.policies.getD g ∅ = spec.policies.getD g ∅

/-- An extension that was read is as declared.  If no version is declared, it has the one that the
server would install now. -/
structure InstalledExtension.Satisfies (e : InstalledExtension) (spec : DeclaredExtension) :
    Prop where
  schema (s : String) : spec.schema = some s → e.schema = s
  version (v : String) : spec.version.or e.defaultVersion = some v → e.version = v

theorem ObservedRole.satisfies_iff {r : ObservedRole} {spec : DeclaredRole} :
    r.Satisfies spec ↔ r.name = spec.name ∧ ∀ a, r.Meets spec a := by
  constructor
  · intro h
    refine ⟨h.name, fun a => ?_⟩
    cases a with
    | flag f =>
      intro on hon
      cases f with
      | bypassRowLevelSecurity => exact h.bypassRowLevelSecurity on hon
      | superuser => exact (congrArg some h.superuser).trans hon
      | createDatabase => exact (congrArg some h.createDatabase).trans hon
      | createRole => exact (congrArg some h.createRole).trans hon
      | inherit => exact (congrArg some h.inherit).trans hon
      | login => exact (congrArg some h.login).trans hon
      | replication => exact (congrArg some h.replication).trans hon
    | connectionLimit => exact h.connectionLimit
    | expiry => exact h.validUntil
    | membership g =>
      show g ∈ r.roles ↔ g ∈ spec.roles
      rw [h.roles]
  · rintro ⟨hname, hmeets⟩
    have hflag : ∀ f on, spec.flag f = some on → r.flag f = some on := fun f => hmeets (.flag f)
    exact {
      name := hname
      superuser := Option.some.inj (hflag .superuser _ rfl)
      createDatabase := Option.some.inj (hflag .createDatabase _ rfl)
      createRole := Option.some.inj (hflag .createRole _ rfl)
      inherit := Option.some.inj (hflag .inherit _ rfl)
      login := Option.some.inj (hflag .login _ rfl)
      replication := Option.some.inj (hflag .replication _ rfl)
      connectionLimit := hmeets .connectionLimit
      bypassRowLevelSecurity := hflag .bypassRowLevelSecurity
      validUntil := hmeets .expiry
      roles := OrderedSet.ext fun g => hmeets (.membership g) }

/-! ## Plans for what was read again -/

/-- Nothing is planned for a role whose password is known to be the declared one exactly if it is as
declared. -/
theorem DeclaredRole.updatePlan_eq_nil_of_password {spec : DeclaredRole} {dialect : Dialect}
    {r : ObservedRole} {plan : Plan} (hpassword : r.password = spec.password)
    (h : spec.updatePlan dialect r = .ok plan) : plan = [] ↔ r.Satisfies spec := by
  rw [updatePlan_eq_nil h, ObservedRole.changesTo_eq_nil, ObservedRole.satisfies_iff, hpassword]
  simp

/-- Nothing is planned for a schema exactly if it is as declared. -/
theorem NormalSchema.updatePlan_eq_nil {spec : NormalSchema} {current : ObservedSchema}
    {plan : Plan} (hspec : ∀ g, (spec.policies.getD g ∅).Closed)
    (hcurrent : ∀ g, (current.policies.getD g ∅).Closed)
    (h : spec.updatePlan current = .ok plan) : plan = [] ↔ current.Satisfies spec := by
  obtain ⟨-, rfl⟩ := updatePlan_ok.1 h
  rw [List.append_eq_nil_iff, List.append_eq_nil_iff, List.map_eq_nil_iff, Option.toList_eq_nil_iff,
    Option.map_eq_none_iff, filter_ne_eq_none_iff, policyChanges_eq_nil hcurrent hspec]
  constructor
  · rintro ⟨⟨hname, howner⟩, hpolicies⟩
    refine ⟨?_, howner, fun g hg => OrderedSet.ext (hpolicies g hg)⟩
    by_cases hne : current.name = spec.name
    · exact hne
    · rw [if_neg hne] at hname
      exact absurd hname (List.cons_ne_nil _ _)
  · intro hsat
    exact ⟨⟨if_pos hsat.name, hsat.owner⟩, fun g hg r => hsat.policies g hg ▸ Iff.rfl⟩

/-- Nothing is planned for an extension exactly if it is as declared. -/
theorem DeclaredExtension.updatePlan_eq_nil {spec : DeclaredExtension}
    {current : InstalledExtension} {database : String} {plan : Plan}
    (hdatabase : spec.database = some database) (h : spec.updatePlan current = .ok plan) :
    plan = [] ↔ current.Satisfies spec := by
  obtain ⟨-, -, rfl⟩ := (updatePlan_ok hdatabase).1 h
  rw [List.append_eq_nil_iff, Option.toList_eq_nil_iff, Option.toList_eq_nil_iff,
    Option.map_eq_none_iff, Option.map_eq_none_iff, filter_ne_eq_none_iff, filter_ne_eq_none_iff]
  exact ⟨fun h => ⟨h.1, h.2⟩, fun h => ⟨h.schema, h.version⟩⟩

/-- Nothing is planned for a rule of the same key exactly if it gives what is declared. -/
theorem Rule.plan_eq_nil {rule current : Rule} {plan : Plan} (hkey : current.key = rule.key)
    (h : rule.plan (some current) = .ok plan) :
    plan = [] ↔ current.privileges = rule.privileges := by
  simp only [Rule.plan] at h
  rw [if_pos hkey] at h
  obtain rfl := Except.ok.inj h
  rw [planFrom_eq_nil]
  exact ⟨OrderedSet.ext, fun heq p => heq ▸ Iff.rfl⟩

/-! ## Creations and updates -/

/-- A write section that succeeds ends with reading the object, and its drift is what the object
still needs. -/
theorem Writing.result_run_ok {w : Writing σ ο} {ctx : Context σ} {outcome : Outcome ο} {s t : σ}
    (h : (w.run ctx).result s = (.ok outcome, t)) :
    ∃ u left, (w.reread (ctx.opened w.database)).result u = (.ok (some outcome.observed), t) ∧
      w.replan outcome.observed = .ok left ∧ outcome.drift = left.shown := by
  obtain ⟨-, _, _, _, _, u, o, left, -, -, -, hreread, hleft, rfl⟩ := result_writeSection.1 h
  exact ⟨u, left, hreread, hleft, rfl⟩

/-- The creations and updates of a kind that succeed: the last thing that was done is to read the
object again, and there is no drift exactly if what was read satisfies the declaration. -/
def Lifecycle.Reports (k : Lifecycle δ ο ω) (ctx : Context σ)
    (writing : String → Option ο → δ → Except Error (Writing σ ο))
    (normalize : δ → Except Error ν) (Satisfies : ο → ν → Prop) : Prop :=
  ∀ id found desired s outcome t,
    (k.write ctx id found desired).result s = (.ok outcome, t) →
    ∃ w spec u, writing id found desired = .ok w ∧ normalize desired = .ok spec ∧
      (w.reread (ctx.opened w.database)).result u = (.ok (some outcome.observed), t) ∧
      (outcome.drift = [] ↔ Satisfies outcome.observed spec)

namespace Lifecycle

/-- It is enough that nothing is planned for what is read again exactly if that satisfies the
declaration. -/
theorem Writes.reports {k : Lifecycle δ ο ω} {ctx : Context σ}
    {writing : String → Option ο → δ → Except Error (Writing σ ο)}
    {normalize : δ → Except Error ν} {Satisfies : ο → ν → Prop} (h : k.Writes ctx writing)
    (hreplan : ∀ {id found desired w}, writing id found desired = .ok w →
      ∃ spec, normalize desired = .ok spec ∧ ∀ {u t o left},
        (w.reread (ctx.opened w.database)).result u = (.ok (some o), t) →
        w.replan o = .ok left → (left = [] ↔ Satisfies o spec)) :
    k.Reports ctx writing normalize Satisfies := by
  intro id found desired s outcome t hrun
  rw [h.write, Run.result_bind_ok] at hrun
  obtain ⟨w, _, hlift, hrun⟩ := hrun
  obtain ⟨hw, rfl⟩ := Run.result_liftM.1 hlift
  obtain ⟨u, left, hreread, hleft, hdrift⟩ := Writing.result_run_ok hrun
  obtain ⟨spec, hspec, hnil⟩ := hreplan hw
  refine ⟨w, spec, u, hw, hspec, hreread, ?_⟩
  rw [hdrift, Plan.shown_eq_nil]
  exact hnil hreread hleft

theorem reports_roles (ctx : Context σ) :
    roles.Reports ctx (Role.writing ctx) DeclaredRole.normalize ObservedRole.Satisfies := by
  refine (writes_roles ctx).reports fun {id found desired w} hw => ?_
  obtain ⟨-, -, spec, plan, hspec, -, rfl⟩ := Role.writing_ok.1 hw
  refine ⟨spec, hspec, fun {u t r left} hreread hleft => ?_⟩
  obtain ⟨seen, -, hseen⟩ := Session.result_knownRole?.1 hreread
  obtain ⟨r', -, rfl⟩ := Option.map_eq_some_iff.1 hseen.symm
  exact DeclaredRole.updatePlan_eq_nil_of_password rfl hleft

theorem reports_schemas (ctx : Context σ) :
    schemas.Reports ctx (fun _ => Schema.writing ctx)
      (fun desired => desired.normalize ctx.defaultDatabase) ObservedSchema.Satisfies := by
  refine (writes_schemas ctx).reports fun {id found desired w} hw => ?_
  obtain ⟨-, spec, plan, hspec, -, rfl⟩ := Schema.writing_ok.1 hw
  refine ⟨spec, hspec, fun {u t current left} hreread hleft => ?_⟩
  obtain ⟨_, _, -, ⟨-, hnone, -⟩ | ⟨_, _, _, _, policies, -, -, -, -, hpolicies, hsome⟩⟩ :=
    Session.result_schema?.1 hreread
  · cases hnone
  · obtain rfl := Option.some.inj hsome
    exact NormalSchema.updatePlan_eq_nil (DeclaredSchema.closed_policies hspec)
      (Policies.closed_ofResult hpolicies) hleft

theorem reports_extensions (ctx : Context σ) :
    extensions.Reports ctx (fun _ => Extension.writing ctx)
      (fun desired => desired.normalize ctx.defaultDatabase) InstalledExtension.Satisfies := by
  refine (writes_extensions ctx).reports fun {id found desired w} hw => ?_
  obtain ⟨-, -, spec, plan, database, hspec, -, -, rfl⟩ := Extension.writing_ok.1 hw
  refine ⟨spec, hspec, fun _ hleft => ?_⟩
  obtain ⟨_, hdatabase, -⟩ := DeclaredExtension.normalize_ok hspec
  exact DeclaredExtension.updatePlan_eq_nil hdatabase hleft

theorem reports_rules (ctx : Context σ) :
    rules.Reports ctx (fun _ => Rule.writing ctx)
      (fun desired => desired.normalize ctx.defaultDatabase)
      fun o rule => o.privileges = rule.privileges := by
  refine (writes_rules ctx).reports fun {id found desired w} hw => ?_
  obtain ⟨-, -, rule, hrule, rfl⟩ := Rule.writing_ok.1 hw
  exact ⟨rule, hrule, fun hreread hleft => Rule.plan_eq_nil (Session.rule?_key hreread) hleft⟩

/-- For every kind of object and on every server: what a creation or an update reports as drift is
empty if and only if the object that was read again satisfies the declaration. -/
theorem drift_eq_nil_iff_satisfied (ctx : Context σ) :
    roles.Reports ctx (Role.writing ctx) DeclaredRole.normalize ObservedRole.Satisfies ∧
    schemas.Reports ctx (fun _ => Schema.writing ctx)
      (fun desired => desired.normalize ctx.defaultDatabase) ObservedSchema.Satisfies ∧
    extensions.Reports ctx (fun _ => Extension.writing ctx)
      (fun desired => desired.normalize ctx.defaultDatabase) InstalledExtension.Satisfies ∧
    rules.Reports ctx (fun _ => Rule.writing ctx)
      (fun desired => desired.normalize ctx.defaultDatabase)
      fun o rule => o.privileges = rule.privileges :=
  ⟨reports_roles ctx, reports_schemas ctx, reports_extensions ctx, reports_rules ctx⟩

end Lifecycle

/-! ## A statement that is ignored -/

/-- A server that ignores statements is to create a role that can log in.  What is read again is a
role that cannot, and the report says so. -/
theorem drift_eq_nil_iff_satisfied_ignored : ∃ outcome t spec,
    (Lifecycle.roles.create loneRoleContext { DeclaredRole.named "app" with login := true }).result
      ⟨(), none⟩ = (.ok outcome, t) ∧
    { DeclaredRole.named "app" with login := true }.normalize = .ok spec ∧
    outcome.drift = ["ALTER ROLE \"app\" WITH LOGIN"] ∧ ¬outcome.observed.Satisfies spec := by
  have hdrift : ((Lifecycle.roles.create loneRoleContext
      { DeclaredRole.named "app" with login := true }).result ⟨(), none⟩).1.toOption.map
        Outcome.drift = some ["ALTER ROLE \"app\" WITH LOGIN"] := by
    decide +kernel
  obtain ⟨outcome, houtcome, hdrift⟩ := Option.map_eq_some_iff.1 hdrift
  have hrun := Run.result_of_toOption houtcome
  obtain ⟨_, spec, _, -, hspec, -, hnil⟩ := (Lifecycle.drift_eq_nil_iff_satisfied
    loneRoleContext).1 "app" none _ _ _ _ hrun
  refine ⟨outcome, _, spec, hrun, hspec, hdrift, fun hsat => ?_⟩
  have hempty := hnil.2 hsat
  rw [hdrift] at hempty
  exact List.cons_ne_nil _ _ hempty

end Accord
