import Accord.Proofs.Lifecycle.Faithful
import Accord.Proofs.Lifecycle.Idempotent
import Accord.Proofs.Role.Convergence

/-!
# Roles on a faithful server

What a role is after it was created or updated depends on what was found when it was looked up and
on what there is when it is written (`Faithful.role_write`).
-/

namespace Accord

open Lifecycle

variable {σ : Type}

/-- The role of a name; one for which nothing is set if there is none. -/
def Catalog.roleAt (k : Catalog) (name : String) : RoleEntry :=
  (k.roles name).getD .fresh

/-- Whether the server knows row-level security. -/
def Context.bypass (ctx : Context σ) : Bool :=
  ctx.dialect.supports .rowLevelSecurity

section Plans

variable {ctx : Context σ} {e : RoleEntry} {name : String} {lastKnown : Option DeclaredRole}
  {r : ObservedRole} {spec : DeclaredRole} {plan : Plan}

/-- What is left to do for a role that is shown under the declared name. -/
theorem RoleEntry.Shown.updatePlan_eq_nil (h : e.Shown ctx spec.name lastKnown r)
    (hlast : ∀ last ∈ lastKnown, last.Feasible ctx.bypass)
    (hpassword : spec.password = none ∨ spec.password = lastKnown.bind DeclaredRole.password)
    (hplan : spec.updatePlan ctx.dialect r = .ok plan) :
    plan = [] ↔ ∀ a, e.Meets ctx.bypass spec a := by
  rw [DeclaredRole.updatePlan_eq_nil hplan, ObservedRole.changesTo_eq_nil, h.password]
  constructor
  · rintro ⟨-, -, hmeets⟩ a
    exact (h.meets hlast spec a).1 (hmeets a)
  · intro hmeets
    exact ⟨h.name, hpassword, fun a => (h.meets hlast spec a).2 (hmeets a)⟩

/-- Nothing is planned for a role that is as declared. -/
theorem RoleEntry.Shown.updatePlan_of_meets (h : e.Shown ctx spec.name lastKnown r)
    (hlast : ∀ last ∈ lastKnown, last.Feasible ctx.bypass)
    (hpassword : spec.password = none ∨ spec.password = lastKnown.bind DeclaredRole.password)
    (hmeets : ∀ a, e.Meets ctx.bypass spec a) : spec.updatePlan ctx.dialect r = .ok [] := by
  have hnil : r.changesTo spec = [] := by
    rw [ObservedRole.changesTo_eq_nil, h.password]
    exact ⟨h.name, hpassword, fun a => (h.meets hlast spec a).2 (hmeets a)⟩
  unfold DeclaredRole.updatePlan
  rw [hnil]
  exact DeclaredRole.planChanges_nil spec ctx.dialect

end Plans

namespace Context.Faithful

variable {ctx : Context σ} {host : Host} {view : σ → Store Catalog} {s t : σ}
  {outcome : Outcome ObservedRole}

/-- What is read after a plan for a role was applied, and the drift. -/
theorem role_applyPlan (h : ctx.Faithful host view) {spec : DeclaredRole} {plan : Plan}
    (hfeasible : spec.Feasible ctx.bypass)
    (hrun : (Role.applyPlan ctx spec plan).result s = (.ok outcome, t)) :
    ctx.lock.grants .exclusive = true ∧ (view t).working = none ∧
      effects (Statement.effect host ctx.defaultDatabase) plan.ordered (view s).committed =
        some (view t).committed ∧
      ∃ e, (view t).committed.roles spec.name = some e ∧
        (outcome.drift = [] ↔ ∀ a, e.Meets ctx.bypass spec a) := by
  rw [Role.applyPlan_eq] at hrun
  obtain ⟨hlock, hdatabase, s₁, plan', s₂, s₃, o, left, hview, hpure, happly, hread, hleft,
    hdrift⟩ := h.writeSection_ok hrun
  obtain ⟨rfl, rfl⟩ := Run.result_pure_ok.1 hpure
  obtain ⟨hcommitted, hidle⟩ := happly (by rw [hview])
  obtain ⟨found, t', hread', hview', hfound⟩ := h.knownRole? hdatabase hidle spec.name (some spec)
  obtain ⟨ho, rfl⟩ := Prod.mk.inj (hread.symm.trans hread')
  obtain rfl := Except.ok.inj ho
  unfold Catalog.RoleFound at hfound
  cases he : (view s₃).committed.roles spec.name with
  | none =>
    rw [he] at hfound
    simp at hfound
  | some e =>
    rw [he] at hfound
    obtain ⟨r, hr, hshown⟩ := hfound
    obtain rfl := Option.some.inj hr
    rw [hview']
    rw [hview] at hcommitted
    refine ⟨hlock, hidle, hcommitted, e, he, ?_⟩
    rw [hdrift, Plan.shown_eq_nil]
    refine hshown.updatePlan_eq_nil (fun last hl => ?_) (.inr rfl) hleft
    obtain rfl := Option.some.inj hl
    exact hfeasible

/-- After a role was written, it is as declared in the aspects in which it was not when it was
looked up, and in those in which it was when the write section started. -/
theorem role_write (h : ctx.Faithful host view) {id : String} {desired spec : DeclaredRole}
    (hspec : desired.normalize = .ok spec) {k : Catalog} {found : Option ObservedRole}
    (hfound : k.RoleFound ctx spec.name none found)
    (hrun : (roles.write ctx id found desired).result s = (.ok outcome, t)) :
    ctx.readOnly = false ∧ ctx.lock.grants .exclusive = true ∧ spec.Feasible ctx.bypass ∧
      (view t).working = none ∧
      (view s).committed.DifferAt (view t).committed (.role spec.name) ∧
      ∃ e, (view t).committed.roles spec.name = some e ∧
        (outcome.drift = [] ↔ ∀ a, e.Meets ctx.bypass spec a) ∧
        ∀ a, e.Meets ctx.bypass spec a ↔
          ((k.roleAt spec.name).Meets ctx.bypass spec a →
            ((view s).committed.roleAt spec.name).Meets ctx.bypass spec a) := by
  unfold Catalog.RoleFound at hfound
  unfold Catalog.roleAt
  cases he₀ : k.roles spec.name with
  | none =>
    rw [he₀] at hfound
    subst hfound
    obtain ⟨hwritable, spec', plan, hspec', hplan, hrun⟩ := Role.result_create.1 hrun
    obtain rfl := Except.ok.inj (hspec.symm.trans hspec')
    have hfeasible : spec.Feasible ctx.bypass := by
      unfold DeclaredRole.creationPlan at hplan
      obtain ⟨c, hc, -⟩ := Except.bind_ok.1 hplan
      exact (DeclaredRole.creation_ok hc).1
    obtain ⟨hlock, hidle, heffects, e, he, hdrift⟩ := h.role_applyPlan hfeasible hrun
    obtain ⟨-, hnew, hdiffer, e', he', hmeets⟩ := DeclaredRole.meets_of_creationPlan hplan heffects
    obtain rfl := Option.some.inj (he.symm.trans he')
    refine ⟨hwritable, hlock, hfeasible, hidle, hdiffer, e, he, hdrift, fun a => ?_⟩
    rw [hnew]
    exact iff_of_true (hmeets a) fun hfresh => hfresh
  | some e₀ =>
    rw [he₀] at hfound
    obtain ⟨r, rfl, hshown⟩ := hfound
    obtain ⟨hwritable, -, spec', plan, hspec', hplan, hrun⟩ := Role.result_update.1 hrun
    obtain rfl := Except.ok.inj (hspec.symm.trans hspec')
    have hfeasible : spec.Feasible ctx.bypass := hshown.feasible hplan
    obtain ⟨hlock, hidle, heffects, e', he', hdrift⟩ := h.role_applyPlan hfeasible hrun
    have hleads : ∀ c ∈ plan.ordered, c.LeadsTo spec := fun c hc =>
      DeclaredRole.leadsTo_of_mem_updatePlan hplan hshown.name c (Plan.mem_ordered.1 hc)
    obtain ⟨e, he, hdiffer, hmeets⟩ := effects_meets hfeasible hleads heffects he'
    refine ⟨hwritable, hlock, hfeasible, hidle, hdiffer, e', he', hdrift, fun a => ?_⟩
    simp only [Plan.mem_ordered] at hmeets
    rw [hmeets, DeclaredRole.mem_roleAspect_updatePlan hplan hshown.name,
      hshown.meets (by simp), he]
    exact Classical.or_iff_not_imp_left.trans (imp_congr_left Classical.not_not)

end Context.Faithful

/-! ## Applying a role twice -/

/-- A declared role without a password is in place: it is as declared, and everything is there that
is needed to read it and to write it. -/
def Context.RoleApplied (ctx : Context σ) (host : Host) (desired : DeclaredRole) (k : Catalog) :
    Prop :=
  ctx.Ready ∧ host.databases ctx.defaultDatabase = true ∧
    ∃ spec e, desired.normalize = .ok spec ∧ normalizeName spec.name "role" = .ok spec.name ∧
      spec.password = none ∧ spec.Feasible ctx.bypass ∧ k.roles spec.name = some e ∧
      ∀ a, e.Meets ctx.bypass spec a

theorem Context.RoleApplied.recorded {ctx : Context σ} {host : Host} {desired : DeclaredRole}
    {k : Catalog} (h : ctx.RoleApplied host desired k) : ctx.recorded.RoleApplied host desired k :=
  ⟨h.1.recorded, h.2⟩

theorem normalize_of_role_write {ctx : Context σ} {id : String} {found : Option ObservedRole}
    {desired : DeclaredRole} {outcome : Outcome ObservedRole} {s t : σ}
    (h : (roles.write ctx id found desired).result s = (.ok outcome, t)) :
    ∃ spec, desired.normalize = .ok spec := by
  cases found with
  | none =>
    obtain ⟨-, spec, -, hspec, -⟩ := Role.result_create.1 h
    exact ⟨spec, hspec⟩
  | some current =>
    obtain ⟨-, -, spec, -, hspec, -⟩ := Role.result_update.1 h
    exact ⟨spec, hspec⟩

theorem role_identity (ctx : Context σ) (desired : DeclaredRole) :
    roles.identity ctx desired = normalizeName desired.name "role" := by
  dsimp only [roles]

/-- What is found when a role is looked up that can be written. -/
theorem Context.Faithful.role_lookup {ctx : Context σ} {host : Host} {view : σ → Store Catalog}
    (h : ctx.Faithful host view) {id : String} {desired : DeclaredRole}
    (hsettled : Naming.roles.Settled ctx desired) (hid : roles.identity ctx desired = .ok id)
    {found : Option ObservedRole} {s u : σ}
    (hread : (roles.read ctx id none).result s = (.ok found, u))
    {outcome : Outcome ObservedRole} {s' t : σ}
    (hwrite : (roles.write ctx id found desired).result s' = (.ok outcome, t)) :
    ∃ spec, desired.normalize = .ok spec ∧ normalizeName spec.name "role" = .ok spec.name ∧
      ctx.lock.grants .shared = true ∧ host.databases ctx.defaultDatabase = true ∧
      view u = ⟨(view s).committed, none⟩ ∧
      (view s).committed.RoleFound ctx spec.name none found := by
  obtain ⟨spec, hspec⟩ := normalize_of_role_write hwrite
  rw [role_identity, DeclaredRole.normalize_name hspec] at hid
  obtain rfl := Except.ok.inj hid
  have hname := hsettled spec.name spec.name
    ((role_identity ctx desired).trans (DeclaredRole.normalize_name hspec))
    (Except.map_ok.2 ⟨spec, hspec, rfl⟩)
  dsimp only [Naming.roles] at hname
  exact ⟨spec, hspec, hname, h.role_read hname hread⟩

theorem DeclaredRole.normalize_password {desired spec : DeclaredRole}
    (h : desired.normalize = .ok spec) : spec.password = desired.password := by
  obtain ⟨groups, name, -, -, -, rfl⟩ := normalize_ok h
  rfl

namespace Context.Faithful

variable {ctx : Context σ} {host : Host} {view : σ → Store Catalog}

/-- Reading the name of a role that is in place shows the role, and nothing is planned for it. -/
theorem role_read_applied (h : ctx.Faithful host view) {desired : DeclaredRole} {s : σ}
    (happlied : ctx.RoleApplied host desired (view s).committed) :
    ∃ spec r t, desired.normalize = .ok spec ∧ roles.identity ctx desired = .ok spec.name ∧
      normalizeName spec.name "role" = .ok r.name ∧
      (roles.read ctx spec.name none).result s = (.ok (some r), t) ∧
      view t = ⟨(view s).committed, none⟩ ∧ spec.updatePlan ctx.dialect r = .ok [] := by
  obtain ⟨hready, hdatabase, spec, e, hspec, hname, hpassword, -, he, hmeets⟩ := happlied
  obtain ⟨found, t, hread⟩ := h.role_read_ok hname hready.shared hdatabase s
  obtain ⟨-, -, hview, hfound⟩ := h.role_read hname hread
  unfold Catalog.RoleFound at hfound
  rw [he] at hfound
  obtain ⟨r, rfl, hshown⟩ := hfound
  refine ⟨spec, r, t, hspec, ?_, ?_, hread, hview, ?_⟩
  · rw [role_identity]
    exact DeclaredRole.normalize_name hspec
  · rw [hshown.name]
    exact hname
  · exact hshown.updatePlan_of_meets (by simp) (.inl hpassword) hmeets

/-- A role that is in place is written again without any command. -/
theorem role_again (h : ctx.Faithful host view) {desired : DeclaredRole} {s : σ}
    (happlied : ctx.RoleApplied host desired (view s).committed) :
    ∃ outcome t, (roles.converge ctx desired).result s = (.ok outcome, t) ∧
      (view t).committed = (view s).committed ∧ ctx.server.Quiet s t := by
  obtain ⟨spec, r, u, hspec, hid, hname, hread, hview, hplan⟩ := h.role_read_applied happlied
  obtain ⟨hready, hdatabase, spec', e, hspec', -, -, hfeasible, he, hmeets⟩ := happlied
  obtain rfl := Except.ok.inj (hspec.symm.trans hspec')
  have hwrite : ∃ outcome t,
      (Role.applyPlan ctx spec []).result u = (.ok outcome, t) ∧
        (view t).committed = (view u).committed ∧ ctx.server.Quiet u t := by
    rw [Role.applyPlan_eq]
    refine h.writeSection_nothing hready.exclusive hdatabase
      (fun v hv => ⟨v, rfl, rfl, .refl v⟩) fun v hv => ?_
    obtain ⟨found, w, hreread, hview', hfound⟩ :=
      h.knownRole? hdatabase (by rw [hv]) spec.name (some spec)
    rw [hv, hview] at hfound
    unfold Catalog.RoleFound at hfound
    rw [he] at hfound
    obtain ⟨r', rfl, hshown⟩ := hfound
    refine ⟨r', w, hreread, hview', Session.quiet_knownRole? hreread,
      hshown.updatePlan_of_meets (fun last hlast => ?_) (.inr rfl) hmeets⟩
    obtain rfl := Option.some.inj hlast
    exact hfeasible
  obtain ⟨outcome, t, hwrite, ht, hquiet⟩ := hwrite
  rw [hview] at ht
  have hupdate : (Role.update ctx spec.name r desired).result u = (.ok outcome, t) :=
    Role.result_update.2 ⟨hready.writable, hname, spec, [], hspec, hplan, hwrite⟩
  exact ⟨outcome, t, Lifecycle.result_converge.2 ⟨spec.name, some r, u, hid, hread, hupdate⟩, ht,
    .trans (Role.quiet_read hread) hquiet⟩

end Context.Faithful

/-- Roles without passwords are applied once and for all. -/
theorem Naming.idempotent_roles {ctx : Context σ} {host : Host} {view : σ → Store Catalog}
    (h : ctx.Faithful host view) :
    roles.Idempotent ctx view Place.role
      (fun d => roles.Settled ctx d ∧ d.password = none) (ctx.RoleApplied host) where
  identity {d d' key} hd hd' := by
    obtain ⟨spec, hspec, rfl⟩ := Except.map_ok.1 hd
    obtain ⟨spec', hspec', hname⟩ := Except.map_ok.1 hd'
    rw [role_identity, role_identity, DeclaredRole.normalize_name hspec,
      DeclaredRole.normalize_name hspec', hname]
  place_inj := Place.role.inj
  converge {d s t outcome} hsafe hrun := by
    obtain ⟨id, found, u, hid, hread, hwrite⟩ := Lifecycle.result_converge.1 hrun
    obtain ⟨spec, hspec, hname, hshared, hdatabase, hview, hfound⟩ :=
      h.role_lookup hsafe.1 hid hread hwrite
    have hkey : roles.declared ctx.defaultDatabase d = .ok spec.name :=
      Except.map_ok.2 ⟨spec, hspec, rfl⟩
    obtain ⟨hwritable, hexclusive, hfeasible, -, hdiffer, e, he, hdrift, hmeets⟩ :=
      h.role_write hspec hfound hwrite
    rw [hview] at hdiffer hmeets
    have hall : ∀ a, e.Meets ctx.bypass spec a := fun a => (hmeets a).2 fun h => h
    refine ⟨hdrift.2 hall, ⟨⟨hwritable, hshared, hexclusive⟩, hdatabase, spec, e, hspec, hname, ?_,
      hfeasible, he, hall⟩, spec.name, hkey, hdiffer⟩
    rw [DeclaredRole.normalize_password hspec, hsafe.2]
  keeps {d c c'} happlied hagree := by
    obtain ⟨hready, hdatabase, spec, e, hspec, hname, hpassword, hfeasible, he, hmeets⟩ := happlied
    have hsame : c.roles spec.name = c'.roles spec.name :=
      hagree _ (Except.map_ok.2 ⟨spec, hspec, rfl⟩)
    exact ⟨hready, hdatabase, spec, e, hspec, hname, hpassword, hfeasible, hsame.symm.trans he,
      hmeets⟩
  pending {d s} happlied := by
    obtain ⟨spec, r, t, hspec, hid, -, hread, hview, hplan⟩ := h.role_read_applied happlied
    refine ⟨t, Lifecycle.result_pending.2 ⟨spec.name, some r, hid, hread, ?_⟩, by rw [hview]⟩
    exact Except.bind_ok.2 ⟨spec, hspec, hplan⟩
  again happlied := h.role_again happlied

end Accord
