import Accord.Proofs.Extension.Convergence
import Accord.Proofs.Lifecycle.Faithful
import Accord.Proofs.Lifecycle.Idempotent

/-!
# Extensions on a faithful server

An extension that is written while nobody else changes it is as declared afterwards.
-/

namespace Accord

open Lifecycle

variable {σ : Type}

namespace Context.Faithful

variable {ctx : Context σ} {host : Host} {view : σ → Store Catalog} {s t : σ}
  {outcome : Outcome InstalledExtension} {spec : DeclaredExtension} {database : String}

/-- What is read after a plan for an extension was applied, and the drift. -/
theorem extension_applyPlan (h : ctx.Faithful host view) {plan : Plan}
    (hspec : spec.database = some database)
    (hrun : (Extension.applyPlan ctx spec plan).result s = (.ok outcome, t)) :
    ctx.lock.grants .exclusive = true ∧ host.databases database = true ∧
      (view t).working = none ∧
      effects (Statement.effect host database) plan.ordered (view s).committed =
        some (view t).committed ∧
      ∃ e, (view t).committed.extensions database spec.name = some e ∧
        (outcome.drift = [] ↔ e.Meets spec (host.defaultVersion database spec.name)) := by
  rw [Extension.applyPlan_eq hspec] at hrun
  obtain ⟨hlock, hdatabase, s₁, plan', s₂, s₃, o, left, hview, hpure, happly, hread, hleft,
    hdrift⟩ := h.writeSection_ok hrun
  obtain ⟨rfl, rfl⟩ := Run.result_pure_ok.1 hpure
  obtain ⟨hcommitted, hidle⟩ := happly (by rw [hview])
  obtain ⟨t', hread', hview'⟩ := h.extension? hdatabase hidle spec.name
  obtain ⟨ho, rfl⟩ := Prod.mk.inj (hread.symm.trans hread')
  obtain ⟨e, he, rfl⟩ := Option.map_eq_some_iff.1 (Except.ok.inj ho).symm
  rw [hview']
  rw [hview] at hcommitted
  refine ⟨hlock, hdatabase, hidle, hcommitted, e, he, ?_⟩
  rw [hdrift, Plan.shown_eq_nil, ← ExtensionEntry.updatePlan_eq_nil hspec, hleft, Except.ok.injEq]

theorem extension_write (h : ctx.Faithful host view) {id : String} {desired : DeclaredExtension}
    (hspec : desired.normalize ctx.defaultDatabase = .ok spec)
    (hspecDatabase : spec.database = some database) {found : Option InstalledExtension}
    (hfound : host.databases database = true →
      found = (view s).committed.extension? host database spec.name)
    (hrun : (extensions.write ctx id found desired).result s = (.ok outcome, t)) :
    ctx.readOnly = false ∧ ctx.dialect.supports .extension = true ∧
      ctx.lock.grants .exclusive = true ∧ host.databases database = true ∧
      (view t).working = none ∧
      (view s).committed.DifferAt (view t).committed (.extension database spec.name) ∧
      outcome.drift = [] ∧
      ∃ e, (view t).committed.extensions database spec.name = some e ∧
        e.Meets spec (host.defaultVersion database spec.name) := by
  cases found with
  | none =>
    obtain ⟨hwritable, hfeature, spec', hspec', hrun⟩ := Extension.result_create.1 hrun
    obtain rfl := Except.ok.inj (hspec.symm.trans hspec')
    obtain ⟨hlock, hdatabase, hidle, heffects, e, he, hdrift⟩ :=
      h.extension_applyPlan hspecDatabase hrun
    obtain ⟨hdiffer, e', he', hmeets⟩ := DeclaredExtension.meets_of_creationPlan heffects
    obtain rfl := Option.some.inj (he.symm.trans he')
    exact ⟨hwritable, hfeature, hlock, hdatabase, hidle, hdiffer, hdrift.2 hmeets, e, he, hmeets⟩
  | some current =>
    obtain ⟨hwritable, hfeature, spec', plan, hspec', hplan, hrun⟩ :=
      Extension.result_update.1 hrun
    obtain rfl := Except.ok.inj (hspec.symm.trans hspec')
    obtain ⟨hlock, hdatabase, hidle, heffects, e, he, hdrift⟩ :=
      h.extension_applyPlan hspecDatabase hrun
    obtain ⟨e₀, he₀, rfl⟩ := Option.map_eq_some_iff.1 (hfound hdatabase).symm
    obtain ⟨hdiffer, e', he', hmeets⟩ :=
      DeclaredExtension.meets_of_updatePlan hspecDatabase he₀ hplan heffects
    obtain rfl := Option.some.inj (he.symm.trans he')
    exact ⟨hwritable, hfeature, hlock, hdatabase, hidle, hdiffer, hdrift.2 hmeets, e, he, hmeets⟩

end Context.Faithful

/-! ## Applying an extension twice -/

/-- A declared extension is in place. -/
def Context.ExtensionApplied (ctx : Context σ) (host : Host) (desired : DeclaredExtension)
    (k : Catalog) : Prop :=
  ctx.Ready ∧ ctx.dialect.supports .extension = true ∧
    host.databases ctx.defaultDatabase = true ∧
    ∃ spec database e, desired.normalize ctx.defaultDatabase = .ok spec ∧
      spec.database = some database ∧
      InstalledExtension.decodeKey (joinIdentity [database, spec.name]) =
        .ok (database, spec.name) ∧
      host.databases database = true ∧ k.extensions database spec.name = some e ∧
      e.Meets spec (host.defaultVersion database spec.name)

theorem Context.ExtensionApplied.recorded {ctx : Context σ} {host : Host}
    {desired : DeclaredExtension} {k : Catalog} (h : ctx.ExtensionApplied host desired k) :
    ctx.recorded.ExtensionApplied host desired k :=
  ⟨h.1.recorded, h.2⟩

theorem normalize_of_extension_write {ctx : Context σ} {id : String}
    {found : Option InstalledExtension} {desired : DeclaredExtension}
    {outcome : Outcome InstalledExtension} {s t : σ}
    (h : (extensions.write ctx id found desired).result s = (.ok outcome, t)) :
    ∃ spec, desired.normalize ctx.defaultDatabase = .ok spec := by
  cases found with
  | none =>
    obtain ⟨-, -, spec, hspec, -⟩ := Extension.result_create.1 h
    exact ⟨spec, hspec⟩
  | some current =>
    obtain ⟨-, -, spec, -, hspec, -⟩ := Extension.result_update.1 h
    exact ⟨spec, hspec⟩

theorem extension_identity {ctx : Context σ} {desired spec : DeclaredExtension} {database : String}
    (h : desired.normalize ctx.defaultDatabase = .ok spec)
    (hdatabase : spec.database = some database) :
    extensions.identity ctx desired = .ok (joinIdentity [database, spec.name]) := by
  refine Except.bind_ok.2 ⟨spec, h, Except.bind_ok.2 ⟨database, ?_, rfl⟩⟩
  rw [DeclaredExtension.databaseOf, hdatabase]

namespace Context.Faithful

variable {ctx : Context σ} {host : Host} {view : σ → Store Catalog}

/-- Reading the identity of an extension that is in place shows the extension, and nothing is
planned for it. -/
theorem extension_read_applied (h : ctx.Faithful host view) {desired : DeclaredExtension} {s : σ}
    (happlied : ctx.ExtensionApplied host desired (view s).committed) :
    ∃ spec database current t, desired.normalize ctx.defaultDatabase = .ok spec ∧
      spec.database = some database ∧
      (extensions.read ctx (joinIdentity [database, spec.name]) none).result s =
        (.ok (some current), t) ∧
      view t = ⟨(view s).committed, none⟩ ∧ spec.updatePlan current = .ok [] := by
  obtain ⟨hready, -, hdefault, spec, database, e, hspec, hspecDatabase, hkey, hdatabase, he,
    hmeets⟩ := happlied
  obtain ⟨found, t, hread⟩ := h.extension_read_ok hkey hready.shared hdefault hdatabase s
  obtain ⟨-, -, hview, hfound⟩ := h.extension_read hkey hread
  have hfound := hfound hdatabase
  unfold Catalog.extension? at hfound
  rw [he] at hfound
  subst hfound
  exact ⟨spec, database, _, t, hspec, hspecDatabase, hread, hview,
    (ExtensionEntry.updatePlan_eq_nil hspecDatabase e).2 hmeets⟩

/-- An extension that is in place is written again without any command. -/
theorem extension_again (h : ctx.Faithful host view) {desired : DeclaredExtension} {s : σ}
    (happlied : ctx.ExtensionApplied host desired (view s).committed) :
    ∃ outcome t, (extensions.converge ctx desired).result s = (.ok outcome, t) ∧
      (view t).committed = (view s).committed ∧ ctx.server.Quiet s t := by
  obtain ⟨spec, database, current, u, hspec, hspecDatabase, hread, hview, hplan⟩ :=
    h.extension_read_applied happlied
  obtain ⟨hready, hfeature, hdefault, spec', database', e, hspec', hspecDatabase', -, hdatabase, he,
    hmeets⟩ := happlied
  obtain rfl := Except.ok.inj (hspec.symm.trans hspec')
  obtain rfl := Option.some.inj (hspecDatabase.symm.trans hspecDatabase')
  have hwrite : ∃ outcome t,
      (Extension.applyPlan ctx spec []).result u = (.ok outcome, t) ∧
        (view t).committed = (view u).committed ∧ ctx.server.Quiet u t := by
    rw [Extension.applyPlan_eq hspecDatabase]
    refine h.writeSection_nothing hready.exclusive hdatabase
      (fun v hv => ⟨v, rfl, rfl, .refl v⟩) fun v hv => ?_
    obtain ⟨w, hreread, hview'⟩ := h.extension? hdatabase (by rw [hv]) spec.name
    unfold Catalog.extension? at hreread
    rw [hv, hview, he] at hreread
    exact ⟨_, w, hreread, hview', Session.quiet_extension? hreread,
      (ExtensionEntry.updatePlan_eq_nil hspecDatabase e).2 hmeets⟩
  obtain ⟨outcome, t, hwrite, ht, hquiet⟩ := hwrite
  rw [hview] at ht
  have hupdate : (Extension.update ctx current desired).result u = (.ok outcome, t) :=
    Extension.result_update.2 ⟨hready.writable, hfeature, spec, [], hspec, hplan, hwrite⟩
  exact ⟨outcome, t, Lifecycle.result_converge.2 ⟨_, some current, u,
    extension_identity hspec hspecDatabase, hread, hupdate⟩, ht,
    .trans (Extension.quiet_read hread) hquiet⟩

end Context.Faithful

/-- Extensions are applied once and for all. -/
theorem Naming.idempotent_extensions {ctx : Context σ} {host : Host} {view : σ → Store Catalog}
    (h : ctx.Faithful host view) :
    extensions.Idempotent ctx view (fun key => .extension key.1 key.2) (extensions.Settled ctx)
      (ctx.ExtensionApplied host) where
  identity {d d' key} hd hd' := by
    obtain ⟨spec, database, hspec, hdatabase, rfl⟩ := extensions_declared_ok.1 hd
    obtain ⟨spec', database', hspec', hdatabase', hkey⟩ := extensions_declared_ok.1 hd'
    obtain ⟨rfl, hname⟩ := Prod.mk.inj hkey
    rw [extension_identity hspec hdatabase, extension_identity hspec' hdatabase', hname]
  place_inj hplace := by
    obtain ⟨hdatabase, hname⟩ := Place.extension.inj hplace
    exact Prod.ext hdatabase hname
  converge {d s t outcome} hsafe hrun := by
    obtain ⟨id, found, u, hid, hread, hwrite⟩ := Lifecycle.result_converge.1 hrun
    obtain ⟨spec, hspec⟩ := normalize_of_extension_write hwrite
    obtain ⟨database, hspecDatabase, -⟩ := DeclaredExtension.normalize_ok hspec
    obtain rfl := Except.ok.inj ((extension_identity hspec hspecDatabase).symm.trans hid)
    have hdeclared : extensions.declared ctx.defaultDatabase d = .ok (database, spec.name) :=
      extensions_declared_ok.2 ⟨spec, database, hspec, hspecDatabase, rfl⟩
    have hkey := hsafe _ _ hid hdeclared
    dsimp only [extensions] at hkey
    obtain ⟨hshared, hdefault, hview, hfound⟩ := h.extension_read hkey hread
    have hsame : (view u).committed = (view s).committed := by rw [hview]
    rw [← hsame] at hfound
    obtain ⟨hwritable, hfeature, hexclusive, hdatabase, -, hdiffer, hdrift, e, he, hmeets⟩ :=
      h.extension_write hspec hspecDatabase hfound hwrite
    rw [hsame] at hdiffer
    exact ⟨hdrift, ⟨⟨hwritable, hshared, hexclusive⟩, hfeature, hdefault, spec, database, e, hspec,
      hspecDatabase, hkey, hdatabase, he, hmeets⟩, _, hdeclared, hdiffer⟩
  keeps {d c c'} happlied hagree := by
    obtain ⟨hready, hfeature, hdefault, spec, database, e, hspec, hspecDatabase, hkey, hdatabase,
      he, hmeets⟩ := happlied
    have hsame : c.extensions database spec.name = c'.extensions database spec.name :=
      hagree _ (extensions_declared_ok.2 ⟨spec, database, hspec, hspecDatabase, rfl⟩)
    exact ⟨hready, hfeature, hdefault, spec, database, e, hspec, hspecDatabase, hkey, hdatabase,
      hsame.symm.trans he, hmeets⟩
  pending {d s} happlied := by
    obtain ⟨spec, database, current, t, hspec, hspecDatabase, hread, hview, hplan⟩ :=
      h.extension_read_applied happlied
    refine ⟨t, Lifecycle.result_pending.2 ⟨_, some current,
      extension_identity hspec hspecDatabase, hread, ?_⟩, by rw [hview]⟩
    exact Except.bind_ok.2 ⟨(), Dialect.require_ok.2 happlied.2.1,
      Except.bind_ok.2 ⟨spec, hspec, hplan⟩⟩
  again happlied := h.extension_again happlied

end Accord
