import Accord.Proofs.Catalog.Faithful
import Accord.Proofs.Session.Atomicity

/-!
# Sections on faithful servers

On a faithful server a read section leaves the catalog as it is and finds what is there, and a write
section that succeeds does to the catalog what the statements of its plan do.  A write section whose
plan is empty gives no command at all.
-/

namespace Accord

variable {σ ο : Type}

namespace Context.Faithful

variable {ctx : Context σ} {host : Host} {view : σ → Store Catalog} {database : String} {s t : σ}

theorem connect_ok (h : ctx.Faithful host view)
    (hconnect : ctx.server.connect (ctx.opened database).database s = (.ok (), t)) :
    host.databases database = true ∧ view t = ⟨(view s).committed, none⟩ := by
  constructor
  · have hopens := (h.opens (ctx.opened database).database s).1 ⟨t, hconnect⟩
    rwa [h.databaseOf_opened] at hopens
  · rw [← h.connect hconnect, ← h.idle hconnect]

/-- What applying a plan does to the catalog. -/
theorem apply_ok (h : ctx.Faithful host view) {plan : Plan} {n : Nat}
    (hrun : ((ctx.opened database).apply plan).result s = (.ok n, t))
    (hs : (view s).working = none) :
    effects (Statement.effect host database) plan.ordered (view s).committed =
      some (view t).committed ∧ (view t).working = none := by
  have hserver := h.transactional (ctx.opened database).database
  rw [h.databaseOf_opened] at hserver
  obtain ⟨given, r, u, hr, htrace, ht⟩ := (ctx.opened database).apply_transaction plan s
  obtain ⟨rfl, rfl⟩ := Prod.mk.inj (hrun.symm.trans hr)
  exact ⟨(committed_of_transaction hserver htrace ht).1 n rfl,
    idle_of_transaction hserver htrace ht hs⟩

/-! ## Write sections -/

section Write

variable {kind id : String} {prepare : Session σ → Run σ Plan}
  {reread : Session σ → Run σ (Option ο)} {replan : ο → Except Error Plan} {outcome : Outcome ο}

theorem writeSection_ok (h : ctx.Faithful host view)
    (hrun : (writeSection ctx kind id database prepare reread replan).result s =
      (.ok outcome, t)) :
    ctx.lock.grants .exclusive = true ∧ host.databases database = true ∧
      ∃ s₁ plan s₂ s₃ o left, view s₁ = ⟨(view s).committed, none⟩ ∧
        (prepare (ctx.opened database)).result s₁ = (.ok plan, s₂) ∧
        ((view s₂).working = none →
          effects (Statement.effect host database) plan.ordered (view s₂).committed =
            some (view s₃).committed ∧ (view s₃).working = none) ∧
        (reread (ctx.opened database)).result s₃ = (.ok (some o), t) ∧
        replan o = .ok left ∧ outcome.drift = left.shown := by
  obtain ⟨hlock, s₁, plan, s₂, n, s₃, o, left, hconnect, hplan, hn, ho, hleft, rfl⟩ :=
    result_writeSection.1 hrun
  obtain ⟨hdatabase, hview⟩ := h.connect_ok hconnect
  exact ⟨hlock, hdatabase, s₁, plan, s₂, s₃, o, left, hview, hplan, h.apply_ok hn, ho, hleft, rfl⟩

/-- A write section that has nothing to do gives no command. -/
theorem writeSection_nothing (h : ctx.Faithful host view)
    (hlock : ctx.lock.grants .exclusive = true) (hdatabase : host.databases database = true)
    (hprepare : ∀ u, view u = ⟨(view s).committed, none⟩ →
      ∃ v, (prepare (ctx.opened database)).result u = (.ok [], v) ∧ view v = view u ∧
        ctx.server.Quiet u v)
    (hreread : ∀ u, view u = ⟨(view s).committed, none⟩ →
      ∃ o v, (reread (ctx.opened database)).result u = (.ok (some o), v) ∧ view v = view u ∧
        ctx.server.Quiet u v ∧ replan o = .ok []) :
    ∃ outcome t,
      (writeSection ctx kind id database prepare reread replan).result s = (.ok outcome, t) ∧
        (view t).committed = (view s).committed ∧ ctx.server.Quiet s t := by
  obtain ⟨s₁, hconnect, hview⟩ := h.connect_opened hdatabase s
  obtain ⟨s₂, hplan, hview₂, hquiet₂⟩ := hprepare s₁ hview
  obtain ⟨o, s₃, ho, hview₃, hquiet₃, hleft⟩ := hreread s₂ (hview₂.trans hview)
  refine ⟨⟨id, o, 0, Plan.shown []⟩, s₃, result_writeSection.2 ⟨hlock, s₁, [], s₂, 0, s₂, o, [],
    hconnect, hplan, rfl, ho, hleft, rfl⟩, ?_, .trans (.connect hconnect) (hquiet₂.trans hquiet₃)⟩
  rw [hview₃, hview₂, hview]

end Write

/-! ## Read sections -/

section Read

open Lifecycle

theorem role_read (h : ctx.Faithful host view) {id name : String}
    {found : Option ObservedRole} (hname : normalizeName id "role" = .ok name)
    (hrun : (Role.read ctx id none).result s = (.ok found, t)) :
    ctx.lock.grants .shared = true ∧ host.databases ctx.defaultDatabase = true ∧
      view t = ⟨(view s).committed, none⟩ ∧ (view s).committed.RoleFound ctx name none found := by
  obtain ⟨name', u, hname', hlock, hconnect, hread⟩ := Role.result_read.1 hrun
  obtain rfl := Except.ok.inj (hname.symm.trans hname')
  obtain ⟨hdatabase, hview⟩ := h.connect_ok hconnect
  obtain ⟨found', t', hread', hview', hfound⟩ := h.knownRole? hdatabase (by rw [hview]) name none
  obtain ⟨hfound', rfl⟩ := Prod.mk.inj (hread.symm.trans hread')
  obtain rfl := Except.ok.inj hfound'
  rw [hview] at hview' hfound
  exact ⟨hlock, hdatabase, hview', hfound⟩

theorem role_read_ok (h : ctx.Faithful host view) {id name : String}
    (hname : normalizeName id "role" = .ok name) (hlock : ctx.lock.grants .shared = true)
    (hdatabase : host.databases ctx.defaultDatabase = true) (s : σ) :
    ∃ found t, (Role.read ctx id none).result s = (.ok found, t) := by
  obtain ⟨u, hconnect, hview⟩ := h.connect_opened hdatabase s
  obtain ⟨found, t, hread, -⟩ := h.knownRole? hdatabase (by rw [hview]) name none
  exact ⟨found, t, Role.result_read.2 ⟨name, u, hname, hlock, hconnect, hread⟩⟩

section InDatabase

variable {α : Type} {m : Session σ → Run σ (Option α)} {P : Option α → Prop}

/-- What reading in a database comes to, if reading in a session there is truthful. -/
theorem inDatabase_ok (h : ctx.Faithful host view) {found : Option α}
    (hread : host.databases database = true → ∀ w, view w = ⟨(view s).committed, none⟩ →
      ∃ found t, (m (ctx.opened database)).result w = (.ok found, t) ∧ view t = view w ∧
        P found)
    (hrun : ∃ u table v,
      ctx.server.connect (ctx.opened ctx.defaultDatabase).database s = (.ok (), u) ∧
      ctx.server.query (ctx.opened ctx.defaultDatabase).database (.databaseExists database) u =
        (.ok table, v) ∧
      (table.isEmpty = true ∧ found = none ∧ t = v ∨
        table.isEmpty = false ∧ ∃ w,
          ctx.server.connect (ctx.opened database).database v = (.ok (), w) ∧
          (m (ctx.opened database)).result w = (.ok found, t))) :
    host.databases ctx.defaultDatabase = true ∧ view t = ⟨(view s).committed, none⟩ ∧
      (host.databases database = true → P found) := by
  obtain ⟨u, table, v, hconnect, hq, hcase⟩ := hrun
  obtain ⟨hdefault, hview⟩ := h.connect_ok hconnect
  obtain ⟨table', v', hq', hview', hanswer⟩ :=
    h.ask hdefault (by rw [hview]) (.databaseExists database)
  obtain ⟨htable, rfl⟩ := Prod.mk.inj (hq.symm.trans hq')
  obtain rfl := Except.ok.inj htable
  have hexists : table.isEmpty = !host.databases database := hanswer
  rcases hcase with ⟨hempty, rfl, rfl⟩ | ⟨-, w, hconnect', hrun⟩
  · refine ⟨hdefault, hview'.trans hview, fun hdatabase => ?_⟩
    rw [hempty, hdatabase] at hexists
    exact absurd hexists (by decide)
  · obtain ⟨hdatabase, hview''⟩ := h.connect_ok hconnect'
    rw [hview', hview] at hview''
    obtain ⟨found', t', hrun', ht', hfound⟩ := hread hdatabase w hview''
    obtain ⟨hfound', rfl⟩ := Prod.mk.inj (hrun.symm.trans hrun')
    obtain rfl := Except.ok.inj hfound'
    exact ⟨hdefault, ht'.trans hview'', fun _ => hfound⟩

/-- Reading in a database that there is comes to a result. -/
theorem inDatabase_run (h : ctx.Faithful host view)
    (hdefault : host.databases ctx.defaultDatabase = true)
    (hdatabase : host.databases database = true)
    (hread : ∀ w, view w = ⟨(view s).committed, none⟩ →
      ∃ found t, (m (ctx.opened database)).result w = (.ok found, t)) :
    ∃ found t u table v,
      ctx.server.connect (ctx.opened ctx.defaultDatabase).database s = (.ok (), u) ∧
      ctx.server.query (ctx.opened ctx.defaultDatabase).database (.databaseExists database) u =
        (.ok table, v) ∧
      (table.isEmpty = true ∧ found = none ∧ t = v ∨
        table.isEmpty = false ∧ ∃ w,
          ctx.server.connect (ctx.opened database).database v = (.ok (), w) ∧
          (m (ctx.opened database)).result w = (.ok found, t)) := by
  obtain ⟨u, hconnect, hview⟩ := h.connect_opened hdefault s
  obtain ⟨table, v, hq, hview', hanswer⟩ :=
    h.ask hdefault (by rw [hview]) (.databaseExists database)
  have hexists : table.isEmpty = !host.databases database := hanswer
  obtain ⟨w, hconnect', hview''⟩ := h.connect_opened hdatabase v
  rw [hview', hview] at hview''
  obtain ⟨found, t, hrun⟩ := hread w hview''
  exact ⟨found, t, u, table, v, hconnect, hq, .inr ⟨by rw [hexists, hdatabase]; rfl, w, hconnect',
    hrun⟩⟩

end InDatabase

theorem schema_read (h : ctx.Faithful host view) {id name : String}
    {found : Option ObservedSchema} (hkey : ObservedSchema.decodeKey id = .ok (database, name))
    (hrun : (Schema.read ctx id).result s = (.ok found, t)) :
    ctx.lock.grants .shared = true ∧ host.databases ctx.defaultDatabase = true ∧
      view t = ⟨(view s).committed, none⟩ ∧
      (host.databases database = true → (view s).committed.SchemaFound database name found) := by
  obtain ⟨database', name', hkey', hlock, hrun⟩ := Schema.result_read.1 hrun
  obtain ⟨rfl, rfl⟩ := Prod.mk.inj (Except.ok.inj (hkey.symm.trans hkey'))
  refine ⟨hlock, h.inDatabase_ok (m := fun session => session.schema? database name)
    (fun hdatabase w hw => ?_) hrun⟩
  obtain ⟨found, t, hrun, ht, hfound⟩ := h.schema? hdatabase (by rw [hw]) name
  rw [hw] at hfound
  exact ⟨found, t, hrun, ht, hfound⟩

theorem schema_read_ok (h : ctx.Faithful host view) {id name : String}
    (hkey : ObservedSchema.decodeKey id = .ok (database, name))
    (hlock : ctx.lock.grants .shared = true)
    (hdefault : host.databases ctx.defaultDatabase = true)
    (hdatabase : host.databases database = true) (s : σ) :
    ∃ found t, (Schema.read ctx id).result s = (.ok found, t) := by
  obtain ⟨found, t, hrun⟩ := h.inDatabase_run (s := s)
    (m := fun session => session.schema? database name) hdefault hdatabase fun w hw => by
      obtain ⟨found, t, hrun, -⟩ := h.schema? hdatabase (by rw [hw]) name
      exact ⟨found, t, hrun⟩
  exact ⟨found, t, Schema.result_read.2 ⟨database, name, hkey, hlock, hrun⟩⟩

theorem extension_read (h : ctx.Faithful host view) {id name : String}
    {found : Option InstalledExtension}
    (hkey : InstalledExtension.decodeKey id = .ok (database, name))
    (hrun : (Extension.read ctx id).result s = (.ok found, t)) :
    ctx.lock.grants .shared = true ∧ host.databases ctx.defaultDatabase = true ∧
      view t = ⟨(view s).committed, none⟩ ∧
      (host.databases database = true →
        found = (view s).committed.extension? host database name) := by
  obtain ⟨database', name', hkey', hlock, hrun⟩ := Extension.result_read.1 hrun
  obtain ⟨rfl, rfl⟩ := Prod.mk.inj (Except.ok.inj (hkey.symm.trans hkey'))
  refine ⟨hlock, h.inDatabase_ok (m := fun session => session.extension? database name)
    (P := fun found => found = (view s).committed.extension? host database name)
    (fun hdatabase w hw => ?_) hrun⟩
  obtain ⟨t, hrun, ht⟩ := h.extension? hdatabase (by rw [hw]) name
  rw [hw] at hrun
  exact ⟨_, t, hrun, ht, rfl⟩

theorem extension_read_ok (h : ctx.Faithful host view) {id name : String}
    (hkey : InstalledExtension.decodeKey id = .ok (database, name))
    (hlock : ctx.lock.grants .shared = true)
    (hdefault : host.databases ctx.defaultDatabase = true)
    (hdatabase : host.databases database = true) (s : σ) :
    ∃ found t, (Extension.read ctx id).result s = (.ok found, t) := by
  obtain ⟨found, t, hrun⟩ := h.inDatabase_run (s := s)
    (m := fun session => session.extension? database name) hdefault hdatabase fun w hw => by
      obtain ⟨t, hrun, -⟩ := h.extension? hdatabase (by rw [hw]) name
      exact ⟨_, t, hrun⟩
  exact ⟨found, t, Extension.result_read.2 ⟨database, name, hkey, hlock, hrun⟩⟩

theorem rule_read (h : ctx.Faithful host view) {id : String} {key : RuleKey} {found : Option Rule}
    (hkey : RuleKey.decode id = .ok key)
    (hrun : (Rule.read ctx id).result s = (.ok found, t)) :
    ctx.lock.grants .shared = true ∧ view t = ⟨(view s).committed, none⟩ ∧
      found = (view s).committed.rule? key := by
  obtain ⟨key', u, hkey', hlock, hconnect, hread⟩ := Rule.result_read.1 hrun
  obtain rfl := Except.ok.inj (hkey.symm.trans hkey')
  obtain ⟨hdatabase, hview⟩ := h.connect_ok hconnect
  obtain ⟨t', hread', hview'⟩ := h.rule? key hdatabase (by rw [hview])
  obtain ⟨hfound, rfl⟩ := Prod.mk.inj (hread.symm.trans hread')
  rw [hview] at hview' hfound
  exact ⟨hlock, hview', Except.ok.inj hfound⟩

theorem rule_read_ok (h : ctx.Faithful host view) {id : String} {key : RuleKey}
    (hkey : RuleKey.decode id = .ok key) (hlock : ctx.lock.grants .shared = true)
    (hdatabase : host.databases key.database = true) (s : σ) :
    ∃ found t, (Rule.read ctx id).result s = (.ok found, t) := by
  obtain ⟨u, hconnect, hview⟩ := h.connect_opened hdatabase s
  obtain ⟨t, hread, -⟩ := h.rule? key hdatabase (by rw [hview])
  exact ⟨_, t, Rule.result_read.2 ⟨key, u, hkey, hlock, hconnect, hread⟩⟩

end Read

end Context.Faithful

end Accord
