import Accord.Proofs.Lifecycle.Faithful
import Accord.Proofs.Lifecycle.Idempotent
import Accord.Proofs.Schema.Convergence

/-!
# Schemas on a faithful server

What a schema is after it was created or updated depends on what was found when it was looked up and
on what there is when it is written (`Faithful.schema_write`).
-/

namespace Accord

open Lifecycle

variable {σ : Type}

/-- The schema that is declared; the one that would be created if there is none. -/
def Catalog.schemaAt (k : Catalog) (host : Host) (spec : NormalSchema) : SchemaEntry :=
  (k.schemas spec.database spec.name).getD (.fresh spec host.facts.currentUser)

/-- Nothing is left to do for a schema that is shown exactly if it is as declared. -/
theorem SchemaEntry.Shown.updatePlan_eq_nil {e : SchemaEntry} {spec : NormalSchema}
    {current : ObservedSchema} (h : e.Shown spec.database spec.name current)
    (hspec : ∀ g, (spec.policies.getD g ∅).Closed) :
    spec.updatePlan current = .ok [] ↔ e.Meets spec := by
  have hclosed : ∀ g, (current.policies.getD g ∅).Closed := fun g =>
    h.policies g ▸ e.closed_policy g
  rw [NormalSchema.updatePlan_eq h.name h.database, Except.ok.injEq, List.append_eq_nil_iff,
    List.map_eq_nil_iff, Option.toList_eq_nil_iff, Option.map_eq_none_iff, h.owner,
    filter_ne_eq_none_iff, policyChanges_eq_nil hclosed hspec]
  unfold Meets
  refine and_congr_right fun hdeclared => ?_
  rw [getD_eq_self_iff.2 hdeclared]
  simp only [h.policies]

namespace Context.Faithful

variable {ctx : Context σ} {host : Host} {view : σ → Store Catalog} {s t : σ}
  {outcome : Outcome ObservedSchema} {spec : NormalSchema}

/-- What is read after a plan for a schema was applied, and the drift. -/
theorem schema_applyPlan (h : ctx.Faithful host view) {plan : Plan}
    (hspec : ∀ g, (spec.policies.getD g ∅).Closed)
    (hrun : (Schema.applyPlan ctx spec plan).result s = (.ok outcome, t)) :
    ctx.lock.grants .exclusive = true ∧ host.databases spec.database = true ∧
      (view t).working = none ∧
      effects (Statement.effect host spec.database) plan.ordered (view s).committed =
        some (view t).committed ∧
      ∃ e, (view t).committed.schemas spec.database spec.name = some e ∧
        (outcome.drift = [] ↔ e.Meets spec) := by
  rw [Schema.applyPlan_eq] at hrun
  obtain ⟨hlock, hdatabase, s₁, plan', s₂, s₃, o, left, hview, hpure, happly, hread, hleft,
    hdrift⟩ := h.writeSection_ok hrun
  obtain ⟨rfl, rfl⟩ := Run.result_pure_ok.1 hpure
  obtain ⟨hcommitted, hidle⟩ := happly (by rw [hview])
  obtain ⟨found, t', hread', hview', hfound⟩ := h.schema? hdatabase hidle spec.name
  obtain ⟨ho, rfl⟩ := Prod.mk.inj (hread.symm.trans hread')
  obtain rfl := Except.ok.inj ho
  unfold Catalog.SchemaFound at hfound
  cases he : (view s₃).committed.schemas spec.database spec.name with
  | none =>
    rw [he] at hfound
    simp at hfound
  | some e =>
    rw [he] at hfound
    obtain ⟨current, hcurrent, hshown⟩ := hfound
    obtain rfl := Option.some.inj hcurrent
    rw [hview']
    rw [hview] at hcommitted
    refine ⟨hlock, hdatabase, hidle, hcommitted, e, he, ?_⟩
    rw [hdrift, Plan.shown_eq_nil, ← hshown.updatePlan_eq_nil hspec, hleft, Except.ok.injEq]

/-- After a schema was written, it is as declared if and only if what the plan leaves alone was as
declared when the write section started. -/
theorem schema_write (h : ctx.Faithful host view) {id : String} {desired : DeclaredSchema}
    (hspec : desired.normalize ctx.defaultDatabase = .ok spec) {k : Catalog}
    {found : Option ObservedSchema}
    (hfound : host.databases spec.database = true →
      k.SchemaFound spec.database spec.name found)
    (hrun : (schemas.write ctx id found desired).result s = (.ok outcome, t)) :
    ctx.readOnly = false ∧ ctx.lock.grants .exclusive = true ∧
      host.databases spec.database = true ∧ (view t).working = none ∧
      (view s).committed.DifferAt (view t).committed (.schema spec.database spec.name) ∧
      ∃ e, (view t).committed.schemas spec.database spec.name = some e ∧
        (outcome.drift = [] ↔ e.Meets spec) ∧
        (e.Meets spec ↔
          (k.schemaAt host spec).Kept ((view s).committed.schemaAt host spec) spec) := by
  have hclosed := DeclaredSchema.closed_policies hspec
  unfold Catalog.SchemaFound at hfound
  unfold Catalog.schemaAt
  cases found with
  | none =>
    obtain ⟨hwritable, spec', hspec', hrun⟩ := Schema.result_create.1 hrun
    obtain rfl := Except.ok.inj (hspec.symm.trans hspec')
    obtain ⟨hlock, hdatabase, hidle, heffects, e, he, hdrift⟩ := h.schema_applyPlan hclosed hrun
    rw [h.facts] at heffects
    obtain ⟨hdiffer, hmeets⟩ := NormalSchema.meets_of_creationPlan hclosed heffects he
    refine ⟨hwritable, hlock, hdatabase, hidle, hdiffer, e, he, hdrift, ?_⟩
    have hfound := hfound hdatabase
    cases hk : k.schemas spec.database spec.name with
    | none => exact hmeets
    | some e₀ =>
      rw [hk] at hfound
      simp at hfound
  | some current =>
    obtain ⟨hwritable, spec', plan, hspec', hplan, hrun⟩ := Schema.result_update.1 hrun
    obtain rfl := Except.ok.inj (hspec.symm.trans hspec')
    obtain ⟨hlock, hdatabase, hidle, heffects, e, he, hdrift⟩ := h.schema_applyPlan hclosed hrun
    have hfound := hfound hdatabase
    cases hk : k.schemas spec.database spec.name with
    | none =>
      rw [hk] at hfound
      simp at hfound
    | some e₀ =>
      rw [hk] at hfound
      obtain ⟨current', hcurrent, hshown⟩ := hfound
      obtain rfl := Option.some.inj hcurrent
      obtain ⟨now, hnow, hdiffer, hmeets⟩ :=
        NormalSchema.meets_of_updatePlan hclosed hshown hplan heffects he
      rw [hnow]
      exact ⟨hwritable, hlock, hdatabase, hidle, hdiffer, e, he, hdrift, hmeets⟩

end Context.Faithful

/-! ## Applying a schema twice -/

/-- A declared schema is in place. -/
def Context.SchemaApplied (ctx : Context σ) (host : Host) (desired : DeclaredSchema) (k : Catalog) :
    Prop :=
  ctx.Ready ∧ host.databases ctx.defaultDatabase = true ∧
    ∃ spec e, desired.normalize ctx.defaultDatabase = .ok spec ∧
      ObservedSchema.decodeKey spec.identity = .ok (spec.database, spec.name) ∧
      host.databases spec.database = true ∧ k.schemas spec.database spec.name = some e ∧
      e.Meets spec

theorem Context.SchemaApplied.recorded {ctx : Context σ} {host : Host} {desired : DeclaredSchema}
    {k : Catalog} (h : ctx.SchemaApplied host desired k) :
    ctx.recorded.SchemaApplied host desired k :=
  ⟨h.1.recorded, h.2⟩

theorem normalize_of_schema_write {ctx : Context σ} {id : String} {found : Option ObservedSchema}
    {desired : DeclaredSchema} {outcome : Outcome ObservedSchema} {s t : σ}
    (h : (schemas.write ctx id found desired).result s = (.ok outcome, t)) :
    ∃ spec, desired.normalize ctx.defaultDatabase = .ok spec := by
  cases found with
  | none =>
    obtain ⟨-, spec, hspec, -⟩ := Schema.result_create.1 h
    exact ⟨spec, hspec⟩
  | some current =>
    obtain ⟨-, spec, -, hspec, -⟩ := Schema.result_update.1 h
    exact ⟨spec, hspec⟩

theorem schema_identity {ctx : Context σ} {desired : DeclaredSchema} {spec : NormalSchema}
    (h : desired.normalize ctx.defaultDatabase = .ok spec) :
    schemas.identity ctx desired = .ok spec.identity :=
  Except.map_ok.2 ⟨spec, h, rfl⟩

namespace Context.Faithful

variable {ctx : Context σ} {host : Host} {view : σ → Store Catalog}

/-- What is found when a schema is looked up that can be written. -/
theorem schema_lookup (h : ctx.Faithful host view) {id : String} {desired : DeclaredSchema}
    (hsettled : Naming.schemas.Settled ctx desired) (hid : schemas.identity ctx desired = .ok id)
    {found : Option ObservedSchema} {s u : σ}
    (hread : (schemas.read ctx id none).result s = (.ok found, u))
    {outcome : Outcome ObservedSchema} {s' t : σ}
    (hwrite : (schemas.write ctx id found desired).result s' = (.ok outcome, t)) :
    ∃ spec, desired.normalize ctx.defaultDatabase = .ok spec ∧
      ObservedSchema.decodeKey spec.identity = .ok (spec.database, spec.name) ∧
      ctx.lock.grants .shared = true ∧ host.databases ctx.defaultDatabase = true ∧
      view u = ⟨(view s).committed, none⟩ ∧
      (host.databases spec.database = true →
        (view s).committed.SchemaFound spec.database spec.name found) := by
  obtain ⟨spec, hspec⟩ := normalize_of_schema_write hwrite
  obtain rfl := Except.ok.inj ((schema_identity hspec).symm.trans hid)
  have hkey := hsettled _ _ hid (Except.map_ok.2 ⟨spec, hspec, rfl⟩)
  dsimp only [Naming.schemas] at hkey
  exact ⟨spec, hspec, hkey, h.schema_read hkey hread⟩

/-- Reading the identity of a schema that is in place shows the schema, and nothing is planned for
it. -/
theorem schema_read_applied (h : ctx.Faithful host view) {desired : DeclaredSchema} {s : σ}
    (happlied : ctx.SchemaApplied host desired (view s).committed) :
    ∃ spec current t, desired.normalize ctx.defaultDatabase = .ok spec ∧
      (schemas.read ctx spec.identity none).result s = (.ok (some current), t) ∧
      view t = ⟨(view s).committed, none⟩ ∧ spec.updatePlan current = .ok [] := by
  obtain ⟨hready, hdefault, spec, e, hspec, hkey, hdatabase, he, hmeets⟩ := happlied
  obtain ⟨found, t, hread⟩ := h.schema_read_ok hkey hready.shared hdefault hdatabase s
  obtain ⟨-, -, hview, hfound⟩ := h.schema_read hkey hread
  have hfound := hfound hdatabase
  unfold Catalog.SchemaFound at hfound
  rw [he] at hfound
  obtain ⟨current, rfl, hshown⟩ := hfound
  exact ⟨spec, current, t, hspec, hread, hview,
    (hshown.updatePlan_eq_nil (DeclaredSchema.closed_policies hspec)).2 hmeets⟩

/-- A schema that is in place is written again without any command. -/
theorem schema_again (h : ctx.Faithful host view) {desired : DeclaredSchema} {s : σ}
    (happlied : ctx.SchemaApplied host desired (view s).committed) :
    ∃ outcome t, (schemas.converge ctx desired).result s = (.ok outcome, t) ∧
      (view t).committed = (view s).committed ∧ ctx.server.Quiet s t := by
  obtain ⟨spec, current, u, hspec, hread, hview, hplan⟩ := h.schema_read_applied happlied
  obtain ⟨hready, hdefault, spec', e, hspec', -, hdatabase, he, hmeets⟩ := happlied
  obtain rfl := Except.ok.inj (hspec.symm.trans hspec')
  have hwrite : ∃ outcome t,
      (Schema.applyPlan ctx spec []).result u = (.ok outcome, t) ∧
        (view t).committed = (view u).committed ∧ ctx.server.Quiet u t := by
    rw [Schema.applyPlan_eq]
    refine h.writeSection_nothing hready.exclusive hdatabase
      (fun v hv => ⟨v, rfl, rfl, .refl v⟩) fun v hv => ?_
    obtain ⟨found, w, hreread, hview', hfound⟩ := h.schema? hdatabase (by rw [hv]) spec.name
    rw [hv, hview] at hfound
    unfold Catalog.SchemaFound at hfound
    rw [he] at hfound
    obtain ⟨current', rfl, hshown⟩ := hfound
    exact ⟨current', w, hreread, hview', Session.quiet_schema? hreread,
      (hshown.updatePlan_eq_nil (DeclaredSchema.closed_policies hspec)).2 hmeets⟩
  obtain ⟨outcome, t, hwrite, ht, hquiet⟩ := hwrite
  rw [hview] at ht
  have hupdate : (Schema.update ctx current desired).result u = (.ok outcome, t) :=
    Schema.result_update.2 ⟨hready.writable, spec, [], hspec, hplan, hwrite⟩
  exact ⟨outcome, t, Lifecycle.result_converge.2 ⟨spec.identity, some current, u,
    schema_identity hspec, hread, hupdate⟩, ht, .trans (Schema.quiet_read hread) hquiet⟩

end Context.Faithful

/-- Schemas are applied once and for all. -/
theorem Naming.idempotent_schemas {ctx : Context σ} {host : Host} {view : σ → Store Catalog}
    (h : ctx.Faithful host view) :
    schemas.Idempotent ctx view (fun key => .schema key.1 key.2) (schemas.Settled ctx)
      (ctx.SchemaApplied host) where
  identity {d d' key} hd hd' := by
    obtain ⟨spec, hspec, rfl⟩ := Except.map_ok.1 hd
    obtain ⟨spec', hspec', hkey⟩ := Except.map_ok.1 hd'
    obtain ⟨hdatabase, hname⟩ := Prod.mk.inj hkey
    rw [schema_identity hspec, schema_identity hspec', NormalSchema.identity,
      NormalSchema.identity, hdatabase, hname]
  place_inj hplace := by
    obtain ⟨hdatabase, hname⟩ := Place.schema.inj hplace
    exact Prod.ext hdatabase hname
  converge {d s t outcome} hsafe hrun := by
    obtain ⟨id, found, u, hid, hread, hwrite⟩ := Lifecycle.result_converge.1 hrun
    obtain ⟨spec, hspec, hkey, hshared, hdefault, hview, hfound⟩ :=
      h.schema_lookup hsafe hid hread hwrite
    obtain ⟨hwritable, hexclusive, hdatabase, -, hdiffer, e, he, hdrift, hmeets⟩ :=
      h.schema_write hspec hfound hwrite
    rw [hview] at hdiffer hmeets
    have hall : e.Meets spec :=
      hmeets.2 (SchemaEntry.kept_self (DeclaredSchema.closed_policies hspec) _)
    exact ⟨hdrift.2 hall, ⟨⟨hwritable, hshared, hexclusive⟩, hdefault, spec, e, hspec, hkey,
      hdatabase, he, hall⟩, _, Except.map_ok.2 ⟨spec, hspec, rfl⟩, hdiffer⟩
  keeps {d c c'} happlied hagree := by
    obtain ⟨hready, hdefault, spec, e, hspec, hkey, hdatabase, he, hmeets⟩ := happlied
    have hsame : c.schemas spec.database spec.name = c'.schemas spec.database spec.name :=
      hagree _ (Except.map_ok.2 ⟨spec, hspec, rfl⟩)
    exact ⟨hready, hdefault, spec, e, hspec, hkey, hdatabase, hsame.symm.trans he, hmeets⟩
  pending {d s} happlied := by
    obtain ⟨spec, current, t, hspec, hread, hview, hplan⟩ := h.schema_read_applied happlied
    refine ⟨t, Lifecycle.result_pending.2 ⟨spec.identity, some current, schema_identity hspec,
      hread, ?_⟩, by rw [hview]⟩
    exact Except.bind_ok.2 ⟨spec, hspec, hplan⟩
  again happlied := h.schema_again happlied

end Accord
